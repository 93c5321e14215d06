import Libdlna.Events.Order

set_option autoImplicit false

/-!
# Initial events

A control point gets the initial values before anything else, unless the call that activates its
subscription fails afterwards.
-/

namespace Libdlna.Gena

open CString Runs GenaSystem

/-- The first event of an active subscription is an initial one. -/
def OpensFirst (s : GenaSystem) : Prop :=
  ∀ i sub, Standing s.device i sub → sub.active = true →
    ∃ job, (jobsTo sub.sid s.jobs.raised).head? = some job ∧ job.shared ∈ s.jobs.opening

section Steps

variable {wakes : Prop} {s t : GenaSystem} {advance : Advance}

theorem JobsMove.opening_cases (move : JobsMove wakes s t advance) :
    s.jobs.opening ⊆ t.jobs.opening ∧ (advance.woken = none ∨ wakes ∨
      ∃ job, advance.raised = [job] ∧ advance.woken = some job.sid ∧
        job.shared ∈ t.jobs.opening) := by
  cases move with
  | started job added jobs =>
      rw [jobs]
      refine ⟨List.subset_append_left .., .inr (.inr ⟨job, rfl, rfl, ?_⟩)⟩
      exact List.mem_append_right _ (List.mem_singleton_self _)
  | woken sid reason jobs => exact ⟨by rw [jobs]; exact List.Subset.refl _, .inr (.inl reason)⟩
  | raised added refused count jobs | rests jobs | unused jobs | dropped k input taken jobs
  | lost k input taken jobs | requeued k input taken jobs | leaked k input taken jobs
  | sent k input i sub taken jobs | finished k job taken jobs | advanced k job taken jobs =>
      rw [jobs]
      exact ⟨List.Subset.refl _, .inl rfl⟩

theorem OpensFirst.move (opens : OpensFirst s) (tracks : Tracks s)
    (evolves : Evolves (Advances advance) s.device t.device) (move : JobsMove wakes s t advance)
    (quiet : ¬ wakes) : OpensFirst t := by
  intro i sub standing isActive
  obtain ⟨before, standing', same, advances⟩ := evolves.each i sub standing
  obtain ⟨further, woken⟩ := move.opening_cases
  have raised : jobsTo sub.sid t.jobs.raised =
      jobsTo before.sid s.jobs.raised ++ jobsTo before.sid advance.raised := by
    rw [move.raised_eq, jobsTo_append, same]
  cases wasActive : before.active with
  | true =>
      obtain ⟨job, first, isOpening⟩ := opens i before standing' wasActive
      refine ⟨job, ?_, further isOpening⟩
      rw [raised, List.head?_append, first]
      rfl
  | false =>
      have isWoken := advances.active
      rw [wasActive, isActive, Bool.false_or, eq_comm, decide_eq_true_eq] at isWoken
      rcases woken with none | reason | ⟨job, one, isJob, isOpening⟩
      · exact nomatch none.symm.trans isWoken
      · exact absurd reason quiet
      · have isTo : job.sid = before.sid := Option.some.inj (isJob.symm.trans isWoken)
        have noneYet := (tracks.follows i before standing').inactive wasActive
        rw [← length_jobsTo, List.length_eq_zero_iff] at noneYet
        refine ⟨job, ?_, isOpening⟩
        rw [raised, noneYet, one, jobsTo, List.filter_cons_of_pos (by simpa using isTo)]
        rfl

theorem OpensFirst.subscribed {sid : Text} (opens : OpensFirst s) (new : Subscribed s t sid) :
    OpensFirst t := by
  intro i sub standing isActive
  rcases new.each i sub standing with old | ⟨-, -, -, inactive⟩
  · rw [new.jobs]
    exact opens i sub old isActive
  · exact nomatch inactive.symm.trans isActive

theorem not_opensFirst (tracks : Tracks s) {action : GenaAction} (step : GenaStep s action t)
    (wakes : action.WakesOnly s) : ¬ OpensFirst t := by
  obtain ⟨deviceHandle, udn, servId, propertySet, sid, attempt, rfl, silent, d, service, i, sub,
    known, found, got, idle⟩ := wakes
  obtain rfl := Except.ok.inj (Option.some.inj step)
  have here := findService_place found
  have isDevice := (handleInfo_some known).1
  have isGot : service.getSubscriptionSID sid s.now = (_, some sub) := Prod.ext rfl got
  obtain ⟨-, member, -, -⟩ := ServiceInfo.getSubscriptionSID_some isGot
  have standing : Standing s.device i sub := ⟨d, service, isDevice, here, member⟩
  have noneYet := (tracks.follows i sub standing).inactive idle
  rw [← length_jobsTo, List.length_eq_zero_iff] at noneYet
  have awake := standing_updated isDevice here member (tracks.distinct.service isDevice here)
    (·.activated 0)
  have after : ∃ t : GenaSystem,
      (s.genaInitNotify deviceHandle udn servId propertySet sid attempt).1 = t ∧
        t.device = (s.setService i (·.update sub.sid (·.activated 0))).device ∧
        t.jobs = s.jobs := by
    rw [genaInitNotify, known]
    dsimp only
    rw [found]
    dsimp only
    rw [isGot]
    dsimp only
    rw [if_neg (by rw [idle]; exact Bool.false_ne_true)]
    cases attempt with
    | noPropertySet returnCode => exact ⟨_, rfl, rfl, rfl⟩
    | tries attempt =>
        cases attempt with
        | noMemory => exact ⟨_, rfl, rfl, rfl⟩
        | added | refused => exact absurd trivial silent
  obtain ⟨t, isAfter, device, jobs⟩ := after
  rw [isAfter]
  intro opens
  obtain ⟨job, first, -⟩ := opens i (sub.activated 0) (device ▸ awake) rfl
  have none : jobsTo (sub.activated 0).sid t.jobs.raised = [] := jobs ▸ noneYet
  rw [none] at first
  cases first

end Steps

/-- The initial event comes first exactly when no call activates a subscription and then fails. -/
theorem opensFirst_throughout_iff (now : Int) (actions : List GenaAction) :
    Throughout GenaStep OpensFirst (GenaSystem.initial now) actions ↔
      Along GenaStep (fun s action _ => ¬ action.WakesOnly s) (GenaSystem.initial now)
        actions := by
  refine throughout_iff_along (fun s (known : Tracks s ∧ OpensFirst s) => known.2) ?_ ?_ ?_ actions
  · rintro s action t ⟨tracks, opens⟩ taken quiet
    refine ⟨tracks.step taken, ?_⟩
    rcases genaStep_cases tracks.sound taken with ⟨-, advance, evolves, move⟩ | ⟨sid, new⟩
    · exact opens.move tracks evolves move quiet
    · exact opens.subscribed new
  · intro s action t known taken refused
    exact not_opensFirst known.1 taken (not_not.mp refused)
  · refine ⟨initial_tracks now, ?_⟩
    rintro i sub ⟨d, service, isDevice, -⟩
    exact nomatch isDevice

end Libdlna.Gena
