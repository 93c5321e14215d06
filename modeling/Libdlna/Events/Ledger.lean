import Libdlna.Events.Steps
import Mathlib.Algebra.Order.Group.Multiset
import Mathlib.Tactic.Abel

set_option autoImplicit false

/-!
# Where the events are

Every event that has been raised is in one place, and the keys of a subscription count those that
were raised for it and those that have been sent.
-/

namespace Libdlna.Gena

open CString

/-- Each event has been sent, waits, is lost or has been dropped. -/
structure Ledger (jobs : Jobs) : Prop where
  whole : Multiset.ofList jobs.raised =
    jobs.sent + Multiset.ofList jobs.waiting + jobs.lost + Multiset.ofList jobs.dropped
  sending : Multiset.ofList (jobs.sending.map Prod.fst) ≤ jobs.sent

theorem taken_waiting {jobs : Jobs} {k : Nat} {input : NotifyThread}
    (taken : jobs.waiting[k]? = some input) :
    Multiset.ofList jobs.waiting = {input} + Multiset.ofList (jobs.takeWaiting k).waiting := by
  have perm := Places.replace_perm taken []
  rw [List.nil_append, ← Multiset.coe_eq_coe, ← Multiset.cons_coe] at perm
  rw [← perm, Multiset.singleton_add]
  rfl

theorem taken_sending {jobs : Jobs} {k : Nat} {job : NotifyThread × Subscription}
    (taken : jobs.sending[k]? = some job) :
    Multiset.ofList jobs.sending = {job} + Multiset.ofList (jobs.takeSending k).sending := by
  have perm := Places.replace_perm taken []
  rw [List.nil_append, ← Multiset.coe_eq_coe, ← Multiset.cons_coe] at perm
  rw [← perm, Multiset.singleton_add]
  rfl

section Taken

variable {jobs : Jobs} {k : Nat} {input : NotifyThread} (ledger : Ledger jobs)
  (taken : jobs.waiting[k]? = some input)

include ledger taken

theorem Ledger.drop : Ledger ((jobs.takeWaiting k).drop input) where
  whole := by
    have whole := ledger.whole
    rw [taken_waiting taken] at whole
    simp only [Jobs.drop, Jobs.takeWaiting, ← Multiset.coe_add, Multiset.coe_singleton]
      at whole ⊢
    rw [whole]
    abel
  sending := ledger.sending

theorem Ledger.lose : Ledger ((jobs.takeWaiting k).lose input) where
  whole := by
    have whole := ledger.whole
    rw [taken_waiting taken] at whole
    simp only [Jobs.lose, Jobs.takeWaiting, ← Multiset.coe_add, Multiset.coe_singleton]
      at whole ⊢
    rw [whole]
    abel
  sending := ledger.sending

theorem Ledger.leak : Ledger ((jobs.takeWaiting k).leak input) where
  whole := (ledger.lose taken).whole
  sending := ledger.sending

theorem Ledger.requeue : Ledger ((jobs.takeWaiting k).requeue input) where
  whole := by
    have whole := ledger.whole
    rw [taken_waiting taken] at whole
    simp only [Jobs.requeue, Jobs.takeWaiting, ← Multiset.coe_add, Multiset.coe_singleton]
      at whole ⊢
    rw [whole]
    abel
  sending := ledger.sending

theorem Ledger.send (sub : Subscription) : Ledger ((jobs.takeWaiting k).send input sub) where
  whole := by
    have whole := ledger.whole
    rw [taken_waiting taken] at whole
    simp only [Jobs.send, Jobs.takeWaiting, ← Multiset.coe_add, Multiset.coe_singleton]
      at whole ⊢
    rw [whole]
    abel
  sending := by
    have sending := ledger.sending
    simp only [Jobs.send, Jobs.takeWaiting, List.map_append, List.map_cons, List.map_nil,
      ← Multiset.coe_add]
    exact add_le_add_left sending _

end Taken

theorem Ledger.takeSending {jobs : Jobs} {k : Nat} {job : NotifyThread × Subscription}
    (ledger : Ledger jobs) (taken : jobs.sending[k]? = some job) :
    Ledger (jobs.takeSending k) where
  whole := ledger.whole
  sending := by
    have sending := ledger.sending
    rw [← Multiset.map_coe, taken_sending taken, Multiset.map_add] at sending
    exact le_trans (Multiset.le_add_left _ _) sending

theorem Ledger.raise {jobs : Jobs} (ledger : Ledger jobs) (added refused : List NotifyThread) :
    Ledger (jobs.raise added refused) where
  whole := by
    simp only [Jobs.raise, ← Multiset.coe_add, ledger.whole]
    abel
  sending := ledger.sending

theorem Ledger.start {jobs : Jobs} (ledger : Ledger jobs) (job : NotifyThread) (added : Bool) :
    Ledger (jobs.start job added) where
  whole := by
    cases added with
    | true =>
        simp only [Jobs.start, if_true, ← Multiset.coe_add, ledger.whole]
        abel
    | false =>
        simp only [Jobs.start, Bool.false_eq_true, if_false, ← Multiset.coe_add, ledger.whole]
        abel
  sending := ledger.sending

theorem JobsMove.ledger {wakes : Prop} {s t : GenaSystem} {advance : Advance}
    (move : JobsMove wakes s t advance) (ledger : Ledger s.jobs) : Ledger t.jobs := by
  cases move with
  | rests jobs => exact jobs ▸ ledger
  | unused jobs => exact jobs ▸ ledger
  | woken sid reason jobs => exact jobs ▸ ledger
  | raised added refused count jobs => exact jobs ▸ ledger.raise added refused
  | started job added jobs => exact jobs ▸ ledger.start job added
  | dropped k input taken jobs => exact jobs ▸ ledger.drop taken
  | lost k input taken jobs => exact jobs ▸ ledger.lose taken
  | requeued k input taken jobs => exact jobs ▸ ledger.requeue taken
  | leaked k input taken jobs => exact jobs ▸ ledger.leak taken
  | sent k input i sub taken jobs => exact jobs ▸ ledger.send taken sub
  | finished k job taken jobs => exact jobs ▸ ledger.takeSending taken
  | advanced k job taken jobs => exact jobs ▸ ledger.takeSending taken

theorem Ledger.mem_raised_of_waiting {jobs : Jobs} (ledger : Ledger jobs) {input : NotifyThread}
    (member : input ∈ jobs.waiting) : input ∈ jobs.raised := by
  rw [← Multiset.mem_coe, ledger.whole]
  simp [member]

theorem Ledger.mem_raised_of_sent {jobs : Jobs} (ledger : Ledger jobs) {input : NotifyThread}
    (member : input ∈ jobs.sent) : input ∈ jobs.raised := by
  rw [← Multiset.mem_coe, ledger.whole]
  simp [member]

theorem Ledger.mem_sent_of_sending {jobs : Jobs} (ledger : Ledger jobs)
    {job : NotifyThread × Subscription} (member : job ∈ jobs.sending) : job.1 ∈ jobs.sent := by
  rw [← Multiset.mem_coe]
  exact Multiset.mem_of_le ledger.sending (List.mem_map_of_mem member)

def keyAt (n : Nat) : Int := nextEventKey^[n] 0

theorem keyAt_succ (n : Nat) : keyAt (n + 1) = nextEventKey (keyAt n) :=
  Function.iterate_succ_apply' ..

theorem keyAt_add (m n : Nat) : keyAt (m + n) = nextEventKey^[n] (keyAt m) := by
  rw [keyAt, Nat.add_comm, Function.iterate_add_apply]
  rfl

theorem keyAt_of_le {n : Nat} (small : n ≤ intMax) : keyAt n = n := by
  induction n with
  | zero => rfl
  | succ n ih =>
      rw [keyAt_succ, ih (Nat.le_of_succ_le small), nextEventKey, if_neg (by omega)]
      rfl

def countTo (sid : Text) (jobs : List NotifyThread) : Nat := jobs.countP (·.sid = sid)

theorem countTo_append (sid : Text) (jobs jobs' : List NotifyThread) :
    countTo sid (jobs ++ jobs') = countTo sid jobs + countTo sid jobs' :=
  List.countP_append

def sendingTo (sid : Text) (jobs : Jobs) : Nat := countTo sid (jobs.sending.map Prod.fst)

structure Follows (s : GenaSystem) (i : Nat) (sub : Subscription) : Prop where
  issued : sub.sid ∈ s.issued
  eventKey : sub.eventKey = keyAt (countTo sub.sid s.jobs.raised)
  toSend : ∃ ended, ended + sendingTo sub.sid s.jobs = countTo sub.sid s.jobs.sent ∧
    sub.toSendEventKey = keyAt ended
  inactive : sub.active = false → countTo sub.sid s.jobs.raised = 0
  leads : ∀ job ∈ s.jobs.raised, job.sid = sub.sid →
    Leads s.device job.servId job.udn job.deviceHandle i

structure Tracks (s : GenaSystem) : Prop where
  ledger : Ledger s.jobs
  distinct : Distinct s.device
  active : AllActive s.device
  follows : ∀ i sub, Standing s.device i sub → Follows s i sub
  issued : ∀ job ∈ s.jobs.raised, job.sid ∈ s.issued
  keys : ∀ sid, (s.jobs.raised.filter (·.sid = sid)).map (·.eventKey) =
    (List.range (countTo sid s.jobs.raised)).map keyAt

theorem Tracks.sound {s : GenaSystem} (tracks : Tracks s) : Sound s where
  distinct := tracks.distinct
  active := tracks.active
  idle i sub standing inactive := by
    have follows := tracks.follows i sub standing
    rw [follows.eventKey, follows.inactive inactive]
    rfl

section Steps

variable {wakes : Prop} {s t : GenaSystem} {advance : Advance}

theorem JobsMove.raised_eq (move : JobsMove wakes s t advance) :
    t.jobs.raised = s.jobs.raised ++ advance.raised := by
  cases move with
  | raised added refused count jobs => rw [jobs, Jobs.raise]
  | started job added jobs => rw [jobs, Jobs.start]
  | rests jobs | unused jobs | woken sid reason jobs => rw [jobs, List.append_nil]
  | dropped k input taken jobs | lost k input taken jobs | requeued k input taken jobs
  | leaked k input taken jobs | sent k input i sub taken jobs | finished k job taken jobs
  | advanced k job taken jobs =>
      rw [jobs, List.append_nil]
      rfl

theorem JobsMove.issues (move : JobsMove wakes s t advance) :
    (∀ job ∈ advance.raised, ∃ i sub, Finds s job i sub ∧ job.eventKey = sub.eventKey) ∧
      (advance.raised.map (·.sid)).Nodup := by
  cases move with
  | raised added refused count jobs isCount shared issues =>
      refine ⟨fun job member => ?_, issues.once⟩
      obtain ⟨-, i, sub, finds, key, -⟩ := issues.each job member
      exact ⟨i, sub, finds, key⟩
  | started job added jobs shared issues =>
      refine ⟨fun job member => ?_, issues.once⟩
      obtain ⟨-, i, sub, finds, key, -⟩ := issues.each job member
      exact ⟨i, sub, finds, key⟩
  | _ => exact ⟨fun job member => absurd member List.not_mem_nil, List.nodup_nil⟩

theorem sendingTo_takeSending {jobs : Jobs} {k : Nat} {job : NotifyThread × Subscription}
    (taken : jobs.sending[k]? = some job) (sid : Text) :
    sendingTo sid jobs = sendingTo sid (jobs.takeSending k) + if job.1.sid = sid then 1 else 0 := by
  have perm := (Places.replace_perm taken []).map Prod.fst
  have counts := perm.countP_eq fun input => input.sid = sid
  simp only [List.map_cons, List.countP_cons, List.nil_append, decide_eq_true_eq] at counts
  exact counts.symm

theorem JobsMove.ended {i : Nat} {sub : Subscription} (move : JobsMove wakes s t advance)
    (ledger : Ledger s.jobs) (standing : Standing t.device i sub)
    (leads : ∀ job ∈ s.jobs.raised, job.sid = sub.sid →
      Leads t.device job.servId job.udn job.deviceHandle i) {ended : Nat}
    (before : ended + sendingTo sub.sid s.jobs = countTo sub.sid s.jobs.sent) :
    (ended + if advance.ended = some sub.sid then 1 else 0) + sendingTo sub.sid t.jobs =
      countTo sub.sid t.jobs.sent := by
  cases move with
  | sent k input i sub' taken jobs =>
      rw [jobs]
      simp only [Jobs.send, sendingTo, List.map_append, List.map_cons, List.map_nil,
        countTo_append] at before ⊢
      simp only [Jobs.takeWaiting, reduceCtorEq, if_false]
      omega
  | finished k job taken jobs shared gone =>
      have inSent := ledger.mem_sent_of_sending (List.mem_of_getElem? taken)
      have other : job.1.sid ≠ sub.sid := by
        intro same
        have here := leads job.1 (ledger.mem_raised_of_sent inSent) same
        exact gone i sub standing same.symm here
      have counts := sendingTo_takeSending taken sub.sid
      rw [if_neg other] at counts
      rw [jobs, ← Nat.add_zero (sendingTo _ (s.jobs.takeSending k)), ← counts]
      simpa [Jobs.takeSending] using before
  | advanced k job taken jobs =>
      have counts := sendingTo_takeSending taken sub.sid
      rw [jobs]
      simp only [Option.some.injEq, Jobs.takeSending] at counts ⊢
      omega
  | rests jobs | unused jobs | woken sid reason jobs => simpa [jobs] using before
  | raised added refused count jobs => simpa [jobs, Jobs.raise, sendingTo] using before
  | started job added jobs => simpa [jobs, Jobs.start, sendingTo] using before
  | dropped k input taken jobs => simpa [jobs, Jobs.drop, Jobs.takeWaiting, sendingTo] using before
  | lost k input taken jobs => simpa [jobs, Jobs.lose, Jobs.takeWaiting, sendingTo] using before
  | requeued k input taken jobs =>
      simpa [jobs, Jobs.requeue, Jobs.takeWaiting, sendingTo] using before
  | leaked k input taken jobs => simpa [jobs, Jobs.leak, Jobs.takeWaiting, sendingTo] using before

theorem Tracks.leads_after (tracks : Tracks s) (move : JobsMove wakes s t advance)
    (evolves : Evolves (Advances advance) s.device t.device) {i : Nat} {sub : Subscription}
    (standing : Standing t.device i sub) :
    ∀ job ∈ t.jobs.raised, job.sid = sub.sid →
      Leads t.device job.servId job.udn job.deviceHandle i := by
  intro job member same
  obtain ⟨before, standing', same', -⟩ := evolves.each i sub standing
  apply evolves.leads i sub standing
  rw [move.raised_eq, List.mem_append] at member
  rcases member with old | new
  · exact (tracks.follows i before standing').leads job old (same.trans same')
  · obtain ⟨j, found, finds, -⟩ := move.issues.1 job new
    have here := tracks.distinct.unique finds.1 standing' (finds.2.1.trans (same.trans same'))
    exact here.1 ▸ finds.2.2

theorem filter_of_once {jobs : List NotifyThread} (once : (jobs.map (·.sid)).Nodup) (sid : Text) :
    jobs.filter (·.sid = sid) = [] ∨ ∃ job ∈ jobs, job.sid = sid ∧
      jobs.filter (·.sid = sid) = [job] := by
  induction jobs with
  | nil => exact .inl rfl
  | cons job rest ih =>
      rw [List.map_cons, List.nodup_cons] at once
      by_cases here : job.sid = sid
      · have none : rest.filter (·.sid = sid) = [] := by
          rw [List.filter_eq_nil_iff]
          intro other member same
          have sameSid : other.sid = sid := by simpa using same
          exact once.1 (here ▸ sameSid ▸ List.mem_map_of_mem member)
        refine .inr ⟨job, List.mem_cons_self .., here, ?_⟩
        rw [List.filter_cons_of_pos (by simpa using here), none]
      · rw [List.filter_cons_of_neg (by simpa using here)]
        rcases ih once.2 with none | ⟨other, member, same, one⟩
        · exact .inl none
        · exact .inr ⟨other, List.mem_cons_of_mem _ member, same, one⟩

theorem Tracks.keys_after (tracks : Tracks s) (move : JobsMove wakes s t advance) (sid : Text) :
    (t.jobs.raised.filter (·.sid = sid)).map (·.eventKey) =
      (List.range (countTo sid t.jobs.raised)).map keyAt := by
  obtain ⟨each, once⟩ := move.issues
  rw [move.raised_eq, countTo_append, List.filter_append, List.map_append, tracks.keys sid]
  rcases filter_of_once once sid with none | ⟨job, member, same, one⟩
  · have zero : countTo sid advance.raised = 0 := by
      rw [countTo, List.countP_eq_length_filter, none, List.length_nil]
    rw [none, zero]
    simp
  · have count : countTo sid advance.raised = 1 := by
      rw [countTo, List.countP_eq_length_filter, one, List.length_singleton]
    obtain ⟨i, sub, finds, key⟩ := each job member
    have follows := tracks.follows i sub finds.1
    rw [one, count, List.range_succ, List.map_append, List.map_singleton, List.map_singleton, key,
      follows.eventKey, finds.2.1.trans same]

theorem Tracks.follows_after (tracks : Tracks s) (move : JobsMove wakes s t advance)
    (evolves : Evolves (Advances advance) s.device t.device) (issued : t.issued = s.issued)
    {i : Nat} {sub : Subscription} (standing : Standing t.device i sub) : Follows t i sub := by
  obtain ⟨before, standing', same, advances⟩ := evolves.each i sub standing
  have follows := tracks.follows i before standing'
  have leads := tracks.leads_after move evolves standing
  have counts : countTo sub.sid t.jobs.raised =
      countTo before.sid s.jobs.raised + countTo before.sid advance.raised := by
    rw [move.raised_eq, countTo_append, same]
  refine ⟨?_, ?_, ?_, ?_, leads⟩
  · rw [issued, same]
    exact follows.issued
  · rw [advances.eventKey, follows.eventKey, counts, keyAt_add]
    rfl
  · obtain ⟨ended, total, key⟩ := follows.toSend
    have leads' : ∀ job ∈ s.jobs.raised, job.sid = sub.sid →
        Leads t.device job.servId job.udn job.deviceHandle i := by
      intro job member
      apply leads
      rw [move.raised_eq]
      exact List.mem_append_left _ member
    refine ⟨_, move.ended tracks.ledger standing leads' (same ▸ total), ?_⟩
    rw [advances.toSend, key, same]
    split
    · exact (keyAt_succ ended).symm
    · rfl
  · intro inactive
    have notRaised : ¬ ∃ job ∈ advance.raised, job.sid = before.sid := by
      intro raised
      rw [advances.raisedActive raised] at inactive
      exact nomatch inactive
    have none : countTo before.sid advance.raised = 0 := by
      rw [countTo, List.countP_eq_zero]
      intro job member isTo
      exact notRaised ⟨job, member, by simpa using isTo⟩
    have wasInactive := advances.active
    rw [inactive, eq_comm, Bool.or_eq_false_iff] at wasInactive
    rw [counts, none, follows.inactive wasInactive.1]

theorem Tracks.move (tracks : Tracks s) (moves : Moves wakes s t) : Tracks t := by
  obtain ⟨issued, advance, evolves, move⟩ := moves
  refine ⟨move.ledger tracks.ledger, evolves.distinct tracks.distinct,
    evolves.active tracks.active, ?_, ?_, tracks.keys_after move⟩
  · exact fun i sub standing => tracks.follows_after move evolves issued standing
  · intro job member
    rw [move.raised_eq, List.mem_append] at member
    rw [issued]
    rcases member with old | new
    · exact tracks.issued job old
    · obtain ⟨i, sub, finds, -⟩ := move.issues.1 job new
      exact finds.2.1 ▸ (tracks.follows i sub finds.1).issued

theorem countTo_eq_zero {sid : Text} {jobs : List NotifyThread}
    (none : ∀ job ∈ jobs, job.sid ≠ sid) : countTo sid jobs = 0 := by
  rw [countTo, List.countP_eq_zero]
  intro job member same
  exact none job member (by simpa using same)

theorem Tracks.subscribed {sid : Text} (tracks : Tracks s) (new : Subscribed s t sid) :
    Tracks t := by
  have older (i : Nat) (sub : Subscription) (standing : Standing s.device i sub) :
      sub.sid ≠ sid := by
    rintro rfl
    exact new.fresh (tracks.follows i sub standing).issued
  have none : ∀ job ∈ s.jobs.raised, job.sid ≠ sid := by
    rintro job member rfl
    exact new.fresh (tracks.issued job member)
  refine ⟨new.jobs ▸ tracks.ledger, new.distinct older tracks.distinct,
    new.active tracks.active, ?_, ?_, new.jobs ▸ tracks.keys⟩
  · intro i sub standing
    rcases new.each i sub standing with old | ⟨rfl, eventKey, toSend, inactive⟩
    · have follows := tracks.follows i sub old
      refine ⟨?_, new.jobs ▸ follows.eventKey, new.jobs ▸ follows.toSend,
        new.jobs ▸ follows.inactive, ?_⟩
      · rw [new.issued]
        exact List.mem_append_left _ follows.issued
      · intro job member same
        rw [new.jobs] at member
        exact new.leads _ _ _ _ (follows.leads job member same)
    · have noneSent : countTo sub.sid s.jobs.sent = 0 :=
        countTo_eq_zero fun job member => none job (tracks.ledger.mem_raised_of_sent member)
      have noneSending : sendingTo sub.sid s.jobs = 0 := by
        apply countTo_eq_zero
        intro job member
        obtain ⟨pair, inSending, rfl⟩ := List.mem_map.mp member
        exact none _ (tracks.ledger.mem_raised_of_sent
          (tracks.ledger.mem_sent_of_sending inSending))
      refine ⟨?_, ?_, ⟨0, ?_, toSend⟩, fun _ => ?_, ?_⟩
      · rw [new.issued]
        exact List.mem_append_right _ (List.mem_singleton_self _)
      · rw [new.jobs, countTo_eq_zero none, eventKey]
        rfl
      · rw [new.jobs, noneSent, noneSending]
      · rw [new.jobs, countTo_eq_zero none]
      · intro job member same
        rw [new.jobs] at member
        exact absurd same (none job member)
  · intro job member
    rw [new.jobs] at member
    rw [new.issued]
    exact List.mem_append_left _ (tracks.issued job member)

theorem Tracks.step {action : GenaAction} (tracks : Tracks s) (step : GenaStep s action t) :
    Tracks t := by
  rcases genaStep_cases tracks.sound step with moves | ⟨sid, subscribed⟩
  · exact tracks.move moves
  · exact tracks.subscribed subscribed

end Steps

theorem initial_tracks (now : Int) : Tracks (GenaSystem.initial now) where
  ledger := ⟨rfl, le_refl _⟩
  distinct d isDevice := nomatch isDevice
  active d isDevice := nomatch isDevice
  follows := by
    rintro i sub ⟨d, service, isDevice, -⟩
    exact nomatch isDevice
  issued job member := absurd member List.not_mem_nil
  keys sid := rfl

end Libdlna.Gena
