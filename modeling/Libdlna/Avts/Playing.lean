import Libdlna.Avts.Steps

set_option autoImplicit false

/-!
# Whether a player that claims to play is playing

The invariant says, for every place where the thread can stand, that it has something to play.
Only E_PLAYING can be set without it.
-/

namespace Libdlna

open CString Runs

/-- A player that plays, or switches to the next item, has a thread with a current item. -/
def PlaysSomething (avts : Option Dmp) : Prop :=
  ∀ dmp, avts = some dmp → dmp.state = .playing ∨ dmp.state = .transitioning →
    dmp.playthread ≠ .returned ∧
      (dmp.playthread = .loop → ∃ item ∈ dmp.playlist, dmp.currentItem = some item)

def Playable (playlist : List Nat) (item : Option Nat) : Prop := ∃ r ∈ playlist, item = some r

def ReadyAt (playlist : List Nat) (currentItem : Option Nat) : Thread → Prop
  | .start => playlist ≠ []
  | .loop | .transition | .asleep | .signalled => Playable playlist currentItem
  | .dispatch state => state ≠ .stopped ∧ Playable playlist currentItem
  | .decode _ nextItem => Playable playlist currentItem ∧ ∀ item ∈ nextItem, item ∈ playlist
  | .changeState state nextItem => state = .stopped ∨ Playable playlist nextItem
  | .changeItem nextItem => Playable playlist nextItem
  | .returned => False

def Ready (dmp : Dmp) : Prop := ReadyAt dmp.playlist dmp.currentItem dmp.playthread

def SetsPlaying (dmp : Dmp) (action : AvtsAction) : Prop :=
  action = .play ∨
    ∃ ret nextItem, action = .thread ret ∧ dmp.playthread = .changeState .playing nextItem

def PlaysWhenReady (avts : Option Dmp) (action : AvtsAction) (_ : Option Dmp) : Prop :=
  ∀ dmp, avts = some dmp → SetsPlaying dmp action → Ready dmp

def ReadyToPlay (avts : Option Dmp) : Prop :=
  ∀ dmp, avts = some dmp → dmp.state = .playing ∨ dmp.state = .transitioning → Ready dmp

theorem ReadyToPlay.playsSomething {avts : Option Dmp} (ready : ReadyToPlay avts) :
    PlaysSomething avts := by
  intro dmp registered claims
  have held := ready dmp registered claims
  unfold Ready at held
  constructor
  · intro returned
    rw [returned] at held
    exact held
  · intro atLoop
    rw [atLoop] at held
    exact held

theorem ReadyAt.grow {playlist more : List Nat} {currentItem : Option Nat} {thread : Thread}
    (grows : playlist ⊆ more) (ready : ReadyAt playlist currentItem thread) :
    ReadyAt more currentItem thread := by
  have playable : ∀ item, Playable playlist item → Playable more item := by
    rintro item ⟨r, member, same⟩
    exact ⟨r, grows member, same⟩
  cases thread with
  | start =>
      rintro rfl
      exact ready (List.subset_nil.mp grows)
  | loop | transition | asleep | signalled | changeItem => exact playable _ ready
  | dispatch state => exact ⟨ready.1, playable _ ready.2⟩
  | decode state nextItem =>
      exact ⟨playable _ ready.1, fun item isNext => grows (ready.2 item isNext)⟩
  | changeState state nextItem => exact ready.imp_right (playable _)
  | returned => exact ready

section Steps

variable {dmp after : Dmp}

theorem Ready.instanceChangeState (ready : Ready dmp) (newstate : PlayState) :
    Ready (instanceChangeState dmp newstate) := by
  unfold Ready at ready ⊢
  rw [instanceChangeState_playlist, instanceChangeState_currentItem]
  rcases instanceChangeState_cases dmp newstate with same | changed
  · rwa [same]
  · rw [changed]
    unfold Dmp.signal
    split
    · rename_i asleep
      dsimp only at asleep
      rw [asleep] at ready
      exact ready
    · exact ready

theorem instanceChangeState_stopped (dmp : Dmp) :
    (instanceChangeState dmp .stopped).state = .noMedia ∨
      (instanceChangeState dmp .stopped).state = .stopped := by
  unfold Libdlna.instanceChangeState
  split
  · exact .inl ‹_›
  · exact .inr (by simp)

theorem instanceChangeState_claims {newstate : PlayState} (other : newstate ≠ .playing)
    (claims : (instanceChangeState dmp newstate).state = .playing ∨
      (instanceChangeState dmp newstate).state = .transitioning) :
    dmp.state = .playing ∨ dmp.state = .transitioning := by
  unfold Libdlna.instanceChangeState at claims
  cases newstate <;> grind [Dmp.signal_state]

theorem readyAt_afterFrame (dmp : Dmp) {nextItem : Option Nat} {thread : Thread}
    (playable : Playable dmp.playlist dmp.currentItem)
    (members : ∀ item ∈ nextItem, item ∈ dmp.playlist) (goesOn : AfterFrame dmp nextItem thread) :
    ReadyAt dmp.playlist dmp.currentItem thread := by
  cases goesOn with
  | again | transition => exact playable
  | finish => exact .inl rfl
  | skip item member => exact ⟨item, member, rfl⟩
  | switch item isNext => exact .inr ⟨item, members item isNext, rfl⟩

theorem ready_thread (ready : dmp.state = .playing ∨ dmp.state = .transitioning → Ready dmp)
    (allowed : ∀ nextItem, dmp.playthread = .changeState .playing nextItem → Ready dmp)
    (taken : ThreadStep dmp after) (claims : after.state = .playing ∨ after.state = .transitioning) :
    Ready after := by
  have held (place : Thread) (stands : dmp.playthread = place)
      (plays : dmp.state = .playing ∨ dmp.state = .transitioning) :
      ReadyAt dmp.playlist dmp.currentItem place := stands ▸ ready plays
  unfold Ready at allowed ⊢
  cases taken with
  | first stands item head => exact ⟨item, List.mem_of_mem_head? head, rfl⟩
  | nothing stands empty => exact held _ stands claims empty
  | read stands =>
      refine ⟨?_, held _ stands claims⟩
      rintro stopped
      rcases claims with playing | transitioning <;> simp_all
  | leave stands =>
      -- a thread that has read E_STOPPED is not ready
      exact (held _ stands claims).1 rfl
  | play stands => exact ⟨(held _ stands claims).2, by simp⟩
  | prepare stands nextItem members => exact ⟨(held _ stands claims).2, members⟩
  | sleep stands | ignore _ stands _ => exact (held _ stands claims).2
  | frame state nextItem thread stands goesOn =>
      obtain ⟨playable, members⟩ := held _ stands claims
      exact readyAt_afterFrame dmp playable members goesOn
  | transition stands =>
      -- the change is refused unless the player plays, and then it was ready
      have here := held _ stands (instanceChangeState_claims (by simp) claims)
      simpa only [instanceChangeState_playlist, instanceChangeState_currentItem] using! here
  | changeState state nextItem stands =>
      -- E_PLAYING is what the condition is about; no other state can claim to play by itself
      have here : state = .stopped ∨ Playable dmp.playlist nextItem := by
        by_cases plays : state = .playing
        · have here := allowed nextItem (by rw [stands, plays])
          rwa [stands] at here
        · exact held _ stands (instanceChangeState_claims plays claims)
      rcases here with rfl | playable
      · rcases instanceChangeState_stopped dmp with none | stopped <;> simp_all
      · simpa only [instanceChangeState_playlist] using! playable
  | changeItem nextItem stands => exact held _ stands claims
  | wake stands => exact held .signalled stands claims

end Steps

theorem readyToPlay_step {avts after : Option Dmp} {action : AvtsAction}
    (known : ReadyToPlay avts) (taken : AvtsStep avts action after)
    (allowed : PlaysWhenReady avts action after) : ReadyToPlay after := by
  intro later registered claims
  subst registered
  cases avts with
  | none =>
      obtain rfl := avtsStep_unregistered taken
      simp [avtsSetThread] at claims
  | some dmp =>
      have ready := known dmp rfl
      have whenPlaying := allowed dmp rfl
      cases avtsStep_registered taken with
      | setUri uri probe items playlist grows =>
          -- only a stopped player has its playlist emptied first
          refine (ready claims).grow (grows ?_)
          rintro stopped
          rcases claims with playing | transitioning <;> simp_all
      | setNextUri uri probe items playlist grows => exact (ready claims).grow grows
      | play => exact (whenPlaying (.inl rfl)).instanceChangeState .playing
      | pause => exact (ready (instanceChangeState_claims (by simp) claims)).instanceChangeState _
      | next => exact (ready (instanceChangeState_claims (by simp) claims)).instanceChangeState _
      | stop =>
          rcases instanceChangeState_stopped dmp with none | stopped <;> simp_all
      | thread ret _ moved =>
          exact ready_thread ready
            (fun nextItem stands => whenPlaying (.inr ⟨ret, nextItem, rfl, stands⟩)) moved claims

theorem plays_something_throughout (actions : List AvtsAction)
    (run : Along AvtsStep PlaysWhenReady none actions) :
    Throughout AvtsStep PlaysSomething none actions := by
  have initial : ReadyToPlay none := fun dmp registered => by cases registered
  have preserved : ∀ avts action after, ReadyToPlay avts → PlaysWhenReady avts action after →
      AvtsStep avts action after → ReadyToPlay after :=
    fun _ _ _ known allowed taken => readyToPlay_step known taken allowed
  exact (throughout_of_step preserved initial run).mono fun _ => ReadyToPlay.playsSomething

theorem playsWhenReady_iff {dmp : Dmp} {action : AvtsAction} {after : Option Dmp} :
    PlaysWhenReady (some dmp) action after ↔ (SetsPlaying dmp action → Ready dmp) := by
  simp [PlaysWhenReady]

def acceptedUri : List AvtsAction :=
  [.setThread, .setUri "/a.mp3".toList mp3Probe, .thread 0, .play]

theorem acceptedUri_ready : Along AvtsStep PlaysWhenReady none acceptedUri := by
  intro created taken
  obtain rfl := Option.some.inj (Except.ok.inj taken)
  refine ⟨by simp [PlaysWhenReady], fun added taken => ?_⟩
  obtain rfl := Option.some.inj (Except.ok.inj taken)
  refine ⟨playsWhenReady_iff.mpr (by simp [SetsPlaying]), fun started taken => ?_⟩
  obtain rfl := Option.some.inj (Except.ok.inj taken)
  refine ⟨playsWhenReady_iff.mpr ?_, fun playing taken => ?_⟩
  · rintro (play | ⟨ret, nextItem, thread, stands⟩)
    · cases play
    · cases stands
  · exact ⟨playsWhenReady_iff.mpr fun _ => ⟨0, List.mem_singleton.mpr rfl, rfl⟩, trivial⟩

theorem acceptedUri_plays_something : Throughout AvtsStep PlaysSomething none acceptedUri :=
  plays_something_throughout acceptedUri acceptedUri_ready

/-- The only URI is rejected, the thread ends at once, and a Play request is granted. -/
def rejectedUri : List AvtsAction :=
  [.setThread, .setUri "/a.txt".toList textProbe, .thread 0, .play]

theorem rejectedUri_plays : Reaches AvtsStep none rejectedUri
    (some ⟨[], [], none, .playing, .returned, 0⟩) :=
  ⟨_, rfl, _, rfl, _, rfl, _, rfl, rfl⟩

theorem plays_without_thread :
    ¬ Throughout AvtsStep PlaysSomething none rejectedUri := by
  intro run
  exact (run.reached rejectedUri_plays _ rfl (.inl rfl)).1 rfl

end Libdlna
