import Libdlna.Events.Order

set_option autoImplicit false

/-!
# What becomes of the events

An event counts for a subscription once there is a job for it. A job that is dropped has no
subscription any more. Unless one has been lost, the next job of a subscription always waits for a
thread or is on its way.
-/

namespace Libdlna.Gena

open CString Runs

def DroppedGone (s : GenaSystem) : Prop :=
  ∀ job ∈ s.jobs.dropped, ∀ i sub, Standing s.device i sub → sub.sid ≠ job.sid

def NextWaits (s : GenaSystem) (i : Nat) (sub : Subscription) : Prop :=
  countTo sub.sid s.jobs.sent = countTo sub.sid s.jobs.raised ∨ sendingTo sub.sid s.jobs = 1 ∨
    ∃ job ∈ s.jobs.waiting, Finds s job i sub ∧ job.eventKey = sub.toSendEventKey

structure EventsAccounted (s : GenaSystem) : Prop where
  whole : Multiset.ofList s.jobs.raised =
    s.jobs.sent + Multiset.ofList s.jobs.waiting + s.jobs.lost + Multiset.ofList s.jobs.dropped
  gone : DroppedGone s
  next : ∀ i sub, Standing s.device i sub → KeysLast s sub.sid →
    (∀ job ∈ s.jobs.lost, job.sid ≠ sub.sid) → NextWaits s i sub

section Dropped

variable {wakes : Prop} {s t : GenaSystem} {advance : Advance}

theorem JobsMove.dropped_cases (move : JobsMove wakes s t advance) :
    t.jobs.dropped = s.jobs.dropped ∨
      ∃ input ∈ s.jobs.waiting, t.jobs.dropped = s.jobs.dropped ++ [input] ∧
        Unreachable t input := by
  cases move with
  | dropped k input taken jobs shared gone =>
      rw [jobs]
      exact .inr ⟨input, List.mem_of_getElem? taken, rfl, gone⟩
  | rests jobs | unused jobs | woken sid reason jobs | raised added refused count jobs
  | started job added jobs | lost k input taken jobs | requeued k input taken jobs
  | leaked k input taken jobs | sent k input i sub taken jobs | finished k job taken jobs
  | advanced k job taken jobs =>
      rw [jobs]
      exact .inl rfl

theorem DroppedGone.move (gone : DroppedGone s) (tracks : Tracks s)
    (evolves : Evolves (Advances advance) s.device t.device) (move : JobsMove wakes s t advance) :
    DroppedGone t := by
  intro job isDropped i sub standing same
  obtain ⟨before, standing', sameSid, -⟩ := evolves.each i sub standing
  have earlier (isBefore : job ∈ s.jobs.dropped) : False :=
    gone job isBefore i before standing' (sameSid ▸ same)
  rcases move.dropped_cases with kept | ⟨input, waits, further, unreachable⟩
  · exact earlier (kept ▸ isDropped)
  · rw [further, List.mem_append, List.mem_singleton] at isDropped
    rcases isDropped with isBefore | rfl
    · exact earlier isBefore
    · have isRaised : job ∈ t.jobs.raised := by
        rw [move.raised_eq]
        exact List.mem_append_left _ (tracks.ledger.mem_raised_of_waiting waits)
      have leads := tracks.leads_after move evolves standing job isRaised same.symm
      exact unreachable i sub standing same leads

theorem DroppedGone.subscribed {sid : Text} (gone : DroppedGone s) (tracks : Tracks s)
    (new : Subscribed s t sid) : DroppedGone t := by
  intro job isDropped i sub standing same
  rw [new.jobs] at isDropped
  rcases new.each i sub standing with old | ⟨rfl, -⟩
  · exact gone job isDropped i sub old same
  · have isRaised : job ∈ s.jobs.raised := by
      rw [← Multiset.mem_coe, tracks.ledger.whole]
      simp [isDropped]
    exact new.fresh (same ▸ tracks.issued job isRaised)

end Dropped

theorem Tracks.nextWaits {s : GenaSystem} {i : Nat} {sub : Subscription} (tracks : Tracks s)
    (gone : DroppedGone s) (standing : Standing s.device i sub) (last : KeysLast s sub.sid)
    (delivered : DeliveredInOrder s.jobs sub.sid)
    (kept : ∀ job ∈ s.jobs.lost, job.sid ≠ sub.sid) : NextWaits s i sub := by
  have follows := tracks.follows i sub standing
  have order := delivered.order
  rcases Nat.lt_or_ge (countTo sub.sid s.jobs.sent) (countTo sub.sid s.jobs.raised) with more | all
  · rcases Nat.eq_zero_or_pos (sendingTo sub.sid s.jobs) with none | some
    · rw [← length_jobsTo sub.sid s.jobs.raised] at more
      obtain ⟨job, found⟩ : ∃ job, (jobsTo sub.sid s.jobs.raised)[countTo sub.sid s.jobs.sent]? =
          some job := ⟨_, List.getElem?_eq_getElem more⟩
      obtain ⟨isRaised, isTo⟩ := mem_jobsTo.mp (List.mem_of_getElem? found)
      have notSent : job ∉ s.jobs.sent := by
        intro isSent
        obtain ⟨n, within, isAt⟩ := List.mem_iff_getElem.mp (mem_jobsTo.mpr ⟨isSent, isTo⟩)
        have isThere := List.prefix_iff_getElem?.mp order n within
        rw [isAt] at isThere
        have first := (tracks.key_of_last last isThere).2
        have second := (tracks.key_of_last last found).2
        rw [length_jobsTo] at within
        omega
      have place : job ∈ s.jobs.waiting := by
        rw [← Multiset.mem_coe, tracks.ledger.whole] at isRaised
        simp only [Multiset.mem_add, Multiset.mem_coe] at isRaised
        rcases isRaised with ((isSent | waits) | isLost) | isDropped
        · exact absurd isSent notSent
        · exact waits
        · exact absurd isTo (kept job isLost)
        · exact absurd isTo.symm (gone job isDropped i sub standing)
      obtain ⟨ended, total, key⟩ := follows.toSend
      rw [none, Nat.add_zero] at total
      have isNext : job.eventKey = sub.toSendEventKey := by
        rw [key, total]
        exact tracks.key_at found
      have leads := follows.leads job (mem_jobsTo.mp (List.mem_of_getElem? found)).1 isTo
      exact .inr (.inr ⟨job, place, ⟨standing, isTo.symm, leads⟩, isNext⟩)
    · exact .inr (.inl (Nat.le_antisymm delivered.alone some))
  · have shorter := order.length_le
    rw [length_jobsTo, length_jobsTo] at shorter
    exact .inl (Nat.le_antisymm shorter all)

/-- Every job that a call has made is accounted for, and the next one of a subscription waits or is
on its way, unless a job of the subscription is lost or its keys have begun to repeat. -/
theorem eventsAccounted_throughout (now : Int) (actions : List GenaAction) :
    Throughout GenaStep EventsAccounted (GenaSystem.initial now) actions := by
  have run : Throughout GenaStep (fun s => Ordered s ∧ DroppedGone s) (GenaSystem.initial now)
      actions := by
    refine throughout_of_invariant (fun s action t known taken => ?_) ?_ actions
    · obtain ⟨ordered, gone⟩ := known
      refine ⟨ordered.step taken, ?_⟩
      rcases genaStep_cases ordered.tracks.sound taken with ⟨-, advance, evolves, move⟩ | ⟨sid, new⟩
      · exact gone.move ordered.tracks evolves move
      · exact gone.subscribed ordered.tracks new
    · exact ⟨initial_ordered now, fun job isDropped => absurd isDropped List.not_mem_nil⟩
  apply run.mono
  intro s ⟨ordered, gone⟩
  refine ⟨ordered.tracks.ledger.whole, gone, fun i sub standing last kept => ?_⟩
  exact ordered.tracks.nextWaits gone standing last (ordered.delivered sub.sid last) kept

end Libdlna.Gena
