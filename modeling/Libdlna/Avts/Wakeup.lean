import Libdlna.Avts.Steps

set_option autoImplicit false

/-!
# Lost wake-ups of the play thread

The thread reads the state in one critical section and goes to sleep in another one. Every change
of the state sends a signal, so that only what happens between the two sections can be missed.
-/

namespace Libdlna

open CString Runs

/-- Nobody waits for what has already happened: the thread sleeps only while the player pauses. -/
structure NoLostWakeup (avts : Option Dmp) : Prop where
  asleep : ∀ dmp, avts = some dmp → dmp.playthread = .asleep → dmp.state = .pausing
  joined : ∀ dmp, avts = some dmp → dmp.joining ≠ 0 → dmp.state = .stopped →
    dmp.playthread ≠ .asleep

theorem NoLostWakeup.of_asleep {avts : Option Dmp}
    (asleep : ∀ dmp, avts = some dmp → dmp.playthread = .asleep → dmp.state = .pausing) :
    NoLostWakeup avts where
  asleep := asleep
  joined := by
    intro dmp registered _ stopped sleeping
    rw [asleep dmp registered sleeping] at stopped
    cases stopped

def SleepsPausing (avts : Option Dmp) (action : AvtsAction) (_ : Option Dmp) : Prop :=
  ∀ dmp, avts = some dmp → (∃ ret, action = .thread ret) →
    dmp.playthread = .dispatch .pausing → dmp.state = .pausing

theorem instanceChangeState_wakes {dmp : Dmp} {newstate : PlayState}
    (known : dmp.playthread = .asleep → dmp.state = .pausing)
    (sleeping : (instanceChangeState dmp newstate).playthread = .asleep) :
    (instanceChangeState dmp newstate).state = .pausing := by
  rcases instanceChangeState_cases dmp newstate with same | changed
  · rw [same] at sleeping ⊢
    exact known sleeping
  -- every change of the state sends a signal
  · rw [changed] at sleeping
    exact absurd sleeping (Dmp.signal_awake _)

theorem threadStep_asleep {dmp after : Dmp} (taken : ThreadStep dmp after)
    (sleeping : after.playthread = .asleep) :
    dmp.playthread = .dispatch .pausing ∧ after.state = dmp.state := by
  cases taken with
  | sleep stands => exact ⟨stands, rfl⟩
  | frame state nextItem thread stands goesOn => cases goesOn <;> cases sleeping
  | _ => cases sleeping

theorem noLostWakeup_step {avts after : Option Dmp} {action : AvtsAction}
    (known : NoLostWakeup avts) (taken : AvtsStep avts action after)
    (allowed : SleepsPausing avts action after) : NoLostWakeup after := by
  refine .of_asleep fun later registered sleeping => ?_
  subst registered
  cases avts with
  | none =>
      obtain rfl := avtsStep_unregistered taken
      cases sleeping
  | some dmp =>
      have awaits := known.asleep dmp rfl
      cases avtsStep_registered taken with
      | setUri | setNextUri => exact awaits sleeping
      | play | pause | next | stop => exact instanceChangeState_wakes awaits sleeping
      | thread ret _ moved =>
          obtain ⟨stands, same⟩ := threadStep_asleep moved sleeping
          rw [same]
          exact allowed dmp rfl ⟨ret, rfl⟩ stands

theorem noLostWakeup_broken {avts after : Option Dmp} {action : AvtsAction}
    (taken : AvtsStep avts action after) (refused : ¬ SleepsPausing avts action after) :
    ¬ NoLostWakeup after := by
  unfold SleepsPausing at refused
  push Not at refused
  obtain ⟨dmp, rfl, ⟨ret, rfl⟩, stands, notPausing⟩ := refused
  intro known
  simp only [AvtsStep, AvtsAction.exec, avtsThreadPlay, stands] at taken
  obtain rfl := Option.some.inj (Except.ok.inj taken)
  exact notPausing (known.asleep { dmp with playthread := .asleep } rfl rfl)

theorem noLostWakeup_throughout_iff (actions : List AvtsAction) :
    Throughout AvtsStep NoLostWakeup none actions ↔
      Along AvtsStep SleepsPausing none actions :=
  throughout_iff_along (fun _ known => known)
    (fun _ _ _ known taken allowed => noLostWakeup_step known taken allowed)
    (fun _ _ _ _ taken refused => noLostWakeup_broken taken refused)
    (.of_asleep fun dmp registered => by cases registered) actions

/-- Stop falls between the thread's reading the state and its going to sleep. -/
def missedStop : List AvtsAction :=
  [.setThread, .setUri "/a.mp3".toList mp3Probe, .thread 0, .thread 0, .stop, .thread 0]

theorem missedStop_sleeps : ∃ items, Reaches AvtsStep none missedStop
    (some ⟨items, [0], some 0, .stopped, .asleep, 1⟩) :=
  ⟨_, _, rfl, _, rfl, _, rfl, _, rfl, _, rfl, _, rfl, rfl⟩

theorem stop_waits_for_sleeping_thread :
    ¬ Throughout AvtsStep NoLostWakeup none missedStop := by
  intro run
  obtain ⟨items, reached⟩ := missedStop_sleeps
  exact (run.reached reached).joined _ rfl (by simp) rfl rfl

end Libdlna
