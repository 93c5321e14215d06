import Libdlna.Events.Ledger
import Libdlna.Shared.Runs

set_option autoImplicit false

/-!
# The order of delivery

The jobs of a pool run in any order, and any number of them at once. A job that is not the next one
for its subscription goes back to the pool, so the notifications of a subscription leave in the
order of their events.
-/

namespace Libdlna.Gena

open CString Runs

def jobsTo (sid : Text) (jobs : List NotifyThread) : List NotifyThread :=
  jobs.filter (·.sid = sid)

theorem jobsTo_append (sid : Text) (jobs jobs' : List NotifyThread) :
    jobsTo sid (jobs ++ jobs') = jobsTo sid jobs ++ jobsTo sid jobs' :=
  List.filter_append ..

theorem length_jobsTo (sid : Text) (jobs : List NotifyThread) :
    (jobsTo sid jobs).length = countTo sid jobs :=
  List.countP_eq_length_filter.symm

theorem mem_jobsTo {sid : Text} {jobs : List NotifyThread} {job : NotifyThread} :
    job ∈ jobsTo sid jobs ↔ job ∈ jobs ∧ job.sid = sid := by
  simp [jobsTo]

/-- The keys of the first `2 ^ 31` events differ from one another. -/
def KeysLast (s : GenaSystem) (sid : Text) : Prop := countTo sid s.jobs.raised ≤ intMax + 1

section Keys

variable {s : GenaSystem} {sid : Text} (tracks : Tracks s) (last : KeysLast s sid)

include tracks

theorem Tracks.key_at {n : Nat} {job : NotifyThread}
    (found : (jobsTo sid s.jobs.raised)[n]? = some job) : job.eventKey = keyAt n := by
  have keys := congrArg (·[n]?) (tracks.keys sid)
  simp only [List.getElem?_map] at keys
  rw [jobsTo] at found
  obtain ⟨within, -⟩ := List.getElem?_eq_some_iff.mp found
  have isRange : (List.range (countTo sid s.jobs.raised))[n]? = some n := by
    rw [List.getElem?_range]
    exact length_jobsTo sid s.jobs.raised ▸ within
  rw [found, isRange] at keys
  exact Option.some.inj keys

include last

theorem Tracks.key_of_last {n : Nat} {job : NotifyThread}
    (found : (jobsTo sid s.jobs.raised)[n]? = some job) : n ≤ intMax ∧ job.eventKey = n := by
  obtain ⟨within, -⟩ := List.getElem?_eq_some_iff.mp found
  rw [length_jobsTo] at within
  have small : n ≤ intMax := Nat.le_of_lt_succ (Nat.lt_of_lt_of_le within last)
  exact ⟨small, (tracks.key_at found).trans (keyAt_of_le small)⟩

theorem Tracks.nodup_raised : (jobsTo sid s.jobs.raised).Nodup := by
  apply List.Nodup.of_map (·.eventKey)
  have numbers : (List.range (countTo sid s.jobs.raised)).map keyAt =
      (List.range (countTo sid s.jobs.raised)).map Int.ofNat := by
    apply List.map_congr_left
    intro n within
    rw [List.mem_range] at within
    exact keyAt_of_le (Nat.le_of_lt_succ (Nat.lt_of_lt_of_le within last))
  rw [jobsTo, tracks.keys sid, numbers]
  exact List.nodup_range.map Int.ofNat_injective

theorem Tracks.not_sent {job : NotifyThread} (isTo : job.sid = sid)
    (elsewhere : job ∈ s.jobs.waiting ∨ job ∈ s.jobs.lost) : job ∉ s.jobs.sent := by
  intro isSent
  have once : s.jobs.raised.count job ≤ 1 := by
    have nodup := List.nodup_iff_count_le_one.mp (tracks.nodup_raised last) job
    rwa [jobsTo, List.count_filter (by simpa using isTo)] at nodup
  have counts := congrArg (Multiset.count job) tracks.ledger.whole
  simp only [Multiset.coe_count, Multiset.count_add] at counts
  have sent := List.count_pos_iff.mpr isSent
  rcases elsewhere with waits | isLost
  · have waiting := List.count_pos_iff.mpr waits
    omega
  · have lost := List.count_pos_iff.mpr isLost
    omega

end Keys

/-- One notification at a time, in the order of the events. An event that is lost is not passed
over: nothing is sent any more. -/
structure DeliveredInOrder (jobs : Jobs) (sid : Text) : Prop where
  order : jobsTo sid jobs.sent <+: jobsTo sid jobs.raised
  alone : sendingTo sid jobs ≤ 1
  blocked : ∀ job ∈ jobs.lost, job.sid = sid → ∀ earlier ∈ jobsTo sid jobs.sent,
    earlier.eventKey < job.eventKey

section Delivery

variable {wakes : Prop} {s t : GenaSystem} {sid : Text} {advance : Advance}

theorem Tracks.place_of_unsent (tracks : Tracks s) (last : KeysLast s sid)
    (order : jobsTo sid s.jobs.sent <+: jobsTo sid s.jobs.raised) {job : NotifyThread}
    (isTo : job.sid = sid) (elsewhere : job ∈ s.jobs.waiting ∨ job ∈ s.jobs.lost) :
    ∃ n, (jobsTo sid s.jobs.raised)[n]? = some job ∧ countTo sid s.jobs.sent ≤ n := by
  have isRaised : job ∈ s.jobs.raised := by
    rw [← Multiset.mem_coe, tracks.ledger.whole]
    rcases elsewhere with waits | isLost
    · simp [waits]
    · simp [isLost]
  obtain ⟨n, found⟩ := List.getElem?_of_mem (mem_jobsTo.mpr ⟨isRaised, isTo⟩)
  refine ⟨n, found, ?_⟩
  by_contra before
  rw [Nat.not_le, ← length_jobsTo] at before
  have same := List.prefix_iff_getElem?.mp order n before
  rw [found, Option.some.injEq] at same
  have isSent : job ∈ jobsTo sid s.jobs.sent := same ▸ List.getElem_mem before
  exact tracks.not_sent last isTo elsewhere (mem_jobsTo.mp isSent).1

theorem Tracks.blocked (tracks : Tracks s) (last : KeysLast s sid)
    (order : jobsTo sid s.jobs.sent <+: jobsTo sid s.jobs.raised) :
    ∀ job ∈ s.jobs.lost, job.sid = sid → ∀ earlier ∈ jobsTo sid s.jobs.sent,
      earlier.eventKey < job.eventKey := by
  intro job isLost isTo earlier isSent
  obtain ⟨n, found, later⟩ := tracks.place_of_unsent last order isTo (.inr isLost)
  obtain ⟨i, within, isAt⟩ := List.mem_iff_getElem.mp isSent
  have isRaised := List.prefix_iff_getElem?.mp order i within
  rw [isAt] at isRaised
  rw [(tracks.key_of_last last isRaised).2, (tracks.key_of_last last found).2]
  rw [length_jobsTo] at within
  exact Int.ofNat_lt.mpr (Nat.lt_of_lt_of_le within later)

/-- The next notification of a subscription is that of its first event that has not been sent, and
no other one of the subscription is under way. -/
theorem Tracks.next (tracks : Tracks s) (last : KeysLast s sid)
    (delivered : DeliveredInOrder s.jobs sid) {input : NotifyThread} {i : Nat} {sub : Subscription}
    (waits : input ∈ s.jobs.waiting) (isTo : input.sid = sid) (finds : Finds s input i sub)
    (next : input.eventKey = sub.toSendEventKey) :
    sendingTo sid s.jobs = 0 ∧
      (jobsTo sid s.jobs.raised)[countTo sid s.jobs.sent]? = some input := by
  obtain ⟨n, found, later⟩ := tracks.place_of_unsent last delivered.order isTo (.inl waits)
  obtain ⟨ended, total, key⟩ := (tracks.follows i sub finds.1).toSend
  rw [finds.2.1, isTo] at total
  obtain ⟨small, isKey⟩ := tracks.key_of_last last found
  have same : (n : Int) = ended := by
    rw [← isKey, next, key]
    exact keyAt_of_le (by omega)
  have here : n = countTo sid s.jobs.sent := by omega
  exact ⟨by omega, here ▸ found⟩

theorem JobsMove.sent_cases (move : JobsMove wakes s t advance) (sid : Text) :
    t.jobs.sent = s.jobs.sent ∧ sendingTo sid t.jobs ≤ sendingTo sid s.jobs ∨
      ∃ input i sub, input ∈ s.jobs.waiting ∧ Finds s input i sub ∧
        input.eventKey = sub.toSendEventKey ∧ t.jobs.raised = s.jobs.raised ∧
        t.jobs.sent = s.jobs.sent ++ [input] ∧
        t.jobs.sending = s.jobs.sending ++ [(input, sub)] := by
  cases move with
  | sent k input i sub taken jobs shared finds next =>
      refine .inr ⟨input, i, sub, List.mem_of_getElem? taken, finds, next, ?_⟩
      rw [jobs]
      exact ⟨rfl, rfl, rfl⟩
  | finished k job taken jobs | advanced k job taken jobs =>
      have counts := sendingTo_takeSending taken sid
      rw [jobs]
      exact .inl ⟨rfl, counts ▸ Nat.le_add_right ..⟩
  | rests jobs | unused jobs | woken sid reason jobs | raised added refused count jobs
  | started job added jobs | dropped k input taken jobs | lost k input taken jobs
  | requeued k input taken jobs | leaked k input taken jobs =>
      rw [jobs]
      exact .inl ⟨rfl, Nat.le_refl _⟩

theorem JobsMove.delivered (move : JobsMove wakes s t advance) (tracks : Tracks s) (after : Tracks t)
    (last : KeysLast t sid) (delivered : DeliveredInOrder s.jobs sid) :
    DeliveredInOrder t.jobs sid := by
  have raised := move.raised_eq
  have longer : jobsTo sid s.jobs.raised <+: jobsTo sid t.jobs.raised := by
    rw [raised, jobsTo_append]
    exact List.prefix_append ..
  have lastBefore : KeysLast s sid := by
    rw [KeysLast, ← length_jobsTo] at last ⊢
    exact Nat.le_trans longer.length_le last
  have kept : jobsTo sid t.jobs.sent <+: jobsTo sid t.jobs.raised ∧ sendingTo sid t.jobs ≤ 1 := by
    rcases move.sent_cases sid with ⟨sent, fewer⟩ |
      ⟨input, i, sub, waits, finds, next, same, sent, sending⟩
    · exact ⟨sent ▸ delivered.order.trans longer, Nat.le_trans fewer delivered.alone⟩
    · have counts : sendingTo sid t.jobs = sendingTo sid s.jobs + countTo sid [input] := by
        rw [sendingTo, sending, List.map_append, countTo_append]
        rfl
      by_cases isTo : input.sid = sid
      · obtain ⟨none, isNext⟩ := tracks.next lastBefore delivered waits isTo finds next
        have one : jobsTo sid [input] = [input] := List.filter_cons_of_pos (by simpa using isTo)
        constructor
        · have order := List.prefix_iff_eq_take.mp delivered.order
          rw [length_jobsTo] at order
          have further := List.take_add_one (l := jobsTo sid s.jobs.raised)
            (i := countTo sid s.jobs.sent)
          rw [isNext, ← order, Option.toList_some] at further
          rw [same, sent, jobsTo_append, one, ← further]
          exact List.take_prefix ..
        · rw [counts, none, ← length_jobsTo, one, List.length_singleton]
      · have other : jobsTo sid [input] = [] := List.filter_cons_of_neg (by simpa using isTo)
        constructor
        · rw [same, sent, jobsTo_append, other, List.append_nil]
          exact delivered.order
        · rw [counts, ← length_jobsTo, other, List.length_nil, Nat.add_zero]
          exact delivered.alone
  exact ⟨kept.1, kept.2, after.blocked last kept.1⟩

end Delivery

theorem initial_delivered (now : Int) (sid : Text) :
    DeliveredInOrder (GenaSystem.initial now).jobs sid where
  order := List.prefix_refl []
  alone := Nat.zero_le 1
  blocked _ isLost := absurd isLost List.not_mem_nil

structure Ordered (s : GenaSystem) : Prop where
  tracks : Tracks s
  delivered : ∀ sid, KeysLast s sid → DeliveredInOrder s.jobs sid

theorem Ordered.step {s t : GenaSystem} {action : GenaAction} (ordered : Ordered s)
    (step : GenaStep s action t) : Ordered t := by
  have after := ordered.tracks.step step
  refine ⟨after, fun sid last => ?_⟩
  rcases genaStep_cases ordered.tracks.sound step with ⟨-, advance, -, move⟩ | ⟨new, subscribed⟩
  · refine move.delivered ordered.tracks after last (ordered.delivered sid ?_)
    rw [KeysLast, move.raised_eq, countTo_append] at last
    exact Nat.le_trans (Nat.le_add_right ..) last
  · rw [KeysLast, subscribed.jobs] at last
    exact subscribed.jobs ▸ ordered.delivered sid last

theorem initial_ordered (now : Int) : Ordered (GenaSystem.initial now) :=
  ⟨initial_tracks now, fun sid _ => initial_delivered now sid⟩

/-- Whatever the threads, the control points and the application do, a subscription gets its
notifications in the order of its events. -/
theorem deliveredInOrder_throughout (now : Int) (actions : List GenaAction) :
    Throughout GenaStep (fun s => ∀ sid, KeysLast s sid → DeliveredInOrder s.jobs sid)
      (GenaSystem.initial now) actions := by
  have run : Throughout GenaStep Ordered (GenaSystem.initial now) actions :=
    throughout_of_invariant (fun s _ t ordered taken => ordered.step taken) (initial_ordered now)
      actions
  exact run.mono fun s ordered => ordered.delivered

end Libdlna.Gena
