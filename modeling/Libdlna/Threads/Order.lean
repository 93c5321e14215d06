import Libdlna.Threads.Steps

set_option autoImplicit false

/-!
# The order of service

`BumpPriority` never lets a job pass another one that waits already: it only lets it pass those
that are still to come. So a worker never takes a job from a queue while an older one of its own or
of a higher priority waits there. Long term jobs, which go first, are in no queue.
-/

namespace Libdlna

open PoolSystem Runs

variable {A : Type}

def ThreadPriority.rank : ThreadPriority → Nat
  | .low => 0
  | .med => 1
  | .high => 2

/-- Where `first` is served before `second`, which may not have been entitled to go first. -/
def Fair (first second : ThreadPoolJob A) : Prop :=
  first.priority.rank ≤ second.priority.rank →
    first.requestTime.micros ≤ second.requestTime.micros

/-- The order in which the queued jobs have been taken and, if nothing comes in between, will be. -/
def PoolSystem.service (s : PoolSystem A) : List (ThreadPoolJob A) := s.started ++ s.tp.line

structure InOrder (s : PoolSystem A) : Prop where
  med : ∀ job ∈ s.tp.medJobQ, job.priority.rank ≤ 1
  low : ∀ job ∈ s.tp.lowJobQ, job.priority.rank = 0
  past : ∀ job ∈ s.service, job.requestTime.micros ≤ s.clock.micros
  fair : s.service.Pairwise Fair

theorem pairwise_insert {before after : List (ThreadPoolJob A)} {temp : ThreadPoolJob A}
    (fair : (before ++ after).Pairwise Fair)
    (older : ∀ job ∈ before, job.requestTime.micros ≤ temp.requestTime.micros)
    (lower : ∀ job ∈ after, job.priority.rank < temp.priority.rank) :
    (before ++ temp :: after).Pairwise Fair := by
  rw [List.pairwise_append] at fair ⊢
  obtain ⟨first, last, between⟩ := fair
  refine ⟨first, List.pairwise_cons.mpr ⟨?_, last⟩, ?_⟩
  · intro job member entitled
    exact absurd (lower job member) (Nat.not_lt.mpr entitled)
  · intro job member other member'
    rcases List.mem_cons.mp member' with rfl | behind
    · exact fun _ => older job member
    · exact between job member other behind

theorem InOrder.of_sublist {s t : PoolSystem A} (known : InOrder s)
    (service : t.service.Sublist s.service) (med : ∀ job ∈ t.tp.medJobQ, job.priority.rank ≤ 1)
    (low : ∀ job ∈ t.tp.lowJobQ, job.priority.rank = 0) (clock : t.clock = s.clock) :
    InOrder t where
  med := med
  low := low
  past job member := clock ▸ known.past job (service.subset member)
  fair := known.fair.sublist service

theorem InOrder.insert {s t : PoolSystem A} (known : InOrder s) {temp : ThreadPoolJob A}
    (stamped : temp.requestTime = s.clock) (before after : List (ThreadPoolJob A))
    (was : s.service = before ++ after) (becomes : t.service = before ++ temp :: after)
    (lower : ∀ job ∈ after, job.priority.rank < temp.priority.rank)
    (med : ∀ job ∈ t.tp.medJobQ, job.priority.rank ≤ 1)
    (low : ∀ job ∈ t.tp.lowJobQ, job.priority.rank = 0) (clock : t.clock = s.clock) :
    InOrder t where
  med := med
  low := low
  past := by
    intro job member
    rw [becomes] at member
    rcases List.mem_cons.mp (List.perm_middle.mem_iff.mp member) with rfl | other
    · rw [stamped, clock]
    · exact clock ▸ known.past job (was ▸ other)
  fair := by
    rw [becomes]
    refine pairwise_insert (was ▸ known.fair) (fun job member => ?_) lower
    rw [stamped]
    exact known.past job (was ▸ List.mem_append_left _ member)

theorem enqueue_inOrder {s : PoolSystem A} (known : InOrder s) {temp : ThreadPoolJob A}
    (stamped : temp.requestTime = s.clock) : InOrder (s.enqueue temp) := by
  unfold enqueue
  split
  next high =>
    apply known.insert stamped (s.started ++ s.tp.highJobQ) (s.tp.medJobQ ++ s.tp.lowJobQ)
    · simp [PoolSystem.service, ThreadPool.line]
    · simp [PoolSystem.service, ThreadPool.line]
    · intro job member
      rw [high]
      rcases List.mem_append.mp member with med | low
      · exact Nat.lt_succ_of_le (known.med job med)
      · exact (known.low job low).trans_lt Nat.two_pos
    · exact known.med
    · exact known.low
    · rfl
  next med =>
    apply known.insert stamped (s.started ++ s.tp.highJobQ ++ s.tp.medJobQ) s.tp.lowJobQ
    · simp [PoolSystem.service, ThreadPool.line]
    · simp [PoolSystem.service, ThreadPool.line]
    · intro job member
      rw [med]
      exact (known.low job member).trans_lt Nat.one_pos
    · intro job member
      rcases List.mem_append.mp member with before | new
      · exact known.med job before
      · rw [List.mem_singleton.mp new, med]
        exact Nat.le_refl 1
    · exact known.low
    · rfl
  next low =>
    apply known.insert stamped s.service []
    · simp
    · simp [PoolSystem.service, ThreadPool.line]
    · simp
    · exact known.med
    · intro job member
      rcases List.mem_append.mp member with before | new
      · exact known.low job before
      · rw [List.mem_singleton.mp new, low]
        rfl
    · rfl

theorem inOrder_change {s t : PoolSystem A} (known : InOrder s) (change : PoolChange s t) :
    InOrder t := by
  cases change with
  | enqueues temp _ stamped => exact enqueue_inOrder known stamped
  | removes jobId =>
      obtain ⟨_, _, _, _, _, same, high, med, low⟩ := threadPoolRemove_eq s jobId
      rw [same]
      apply known.of_sublist
      · exact (List.Sublist.refl _).append ((high.append med).append low)
      · exact fun job member => known.med job (med.subset member)
      · exact fun job member => known.low job (low.subset member)
      · rfl
  | discards =>
      refine known.of_sublist ?_ (by simp [discardJobs]) (by simp [discardJobs]) rfl
      simp [PoolSystem.service, discardJobs, ThreadPool.line]
  | returns i thread _ returned =>
      cases thread <;> cases returned <;> exact ⟨known.med, known.low, known.past, known.fair⟩
  | looks i timedOut nodes standing =>
      have looked := s.tp.workerLooks_looked timedOut s.clock nodes
      have service : (s.look i timedOut nodes).service.Sublist s.service := by
        rw [PoolSystem.service, look, List.append_assoc]
        exact (List.Sublist.refl _).append looked.sublist
      refine known.of_sublist service ?_ ?_ rfl
      · intro job member
        rcases looked.med job member with fromMed | fromLow
        · exact known.med job fromMed
        · exact (known.low job fromLow).trans_le (Nat.zero_le 1)
      · exact fun job member => known.low job (looked.low job member)
  | ticks now later =>
      refine ⟨known.med, known.low, fun job member => ?_, known.fair⟩
      exact (known.past job member).trans later
  | _ => exact ⟨known.med, known.low, known.past, known.fair⟩

theorem initial_inOrder (attr : ThreadPoolAttr) (clock : Timeval) :
    InOrder (initial attr clock : PoolSystem A) := by
  constructor <;> simp [initial, PoolSystem.service, ThreadPool.line]

/-- Of two queued jobs of one priority the older one is taken first, whatever the others do. -/
theorem served_inOrder_throughout (attr : ThreadPoolAttr) (clock : Timeval) (supply : Supply)
    (actions : List (PoolAction A)) :
    Throughout PoolStep (fun s => s.service.Pairwise Fair)
      (threadPoolInit attr clock supply) actions := by
  have run := throughout_of_change (fun _ _ => inOrder_change) supply
    (initial_inOrder attr clock) actions
  exact run.mono fun _ known => known.fair

/-- An older job has waited as long, up to the millisecond that the truncation may cost. -/
theorem diffMillis_older (now : Timeval) {first second : Timeval} (older : first.micros ≤ second.micros) :
    diffMillis now second ≤ diffMillis now first + 1 := by
  have := now.tvUsec.isLt
  have := first.tvUsec.isLt
  have := second.tvUsec.isLt
  unfold Timeval.micros at older
  unfold diffMillis
  rw [Int.tdiv_eq_ediv, Int.tdiv_eq_ediv, show Int.sign 1000 = 1 from rfl]
  split <;> split <;> omega

theorem InOrder.low_sorted {s : PoolSystem A} (known : InOrder s) :
    s.tp.lowJobQ.Pairwise fun first second =>
      first.requestTime.micros ≤ second.requestTime.micros := by
  have part : s.tp.lowJobQ.Sublist s.service :=
    (List.sublist_append_right _ _).trans (List.sublist_append_right _ _)
  refine (known.fair.sublist part).imp_of_mem fun member member' fair => fair ?_
  rw [known.low _ member, known.low _ member']

theorem bumpPriority_low {tp : ThreadPool A} {now : Timeval} (nodes : List Bool)
    (sorted : tp.lowJobQ.Pairwise fun first second =>
      first.requestTime.micros ≤ second.requestTime.micros) :
    ∀ job ∈ (tp.bumpPriority now nodes).1.lowJobQ,
      diffMillis now job.requestTime ≤ tp.attr.maxIdleTime := by
  rw [(tp.bumpPriority_raisedFrom now nodes).lowJobQ]
  have rest := sorted.sublist (List.dropWhile_sublist (tp.starvedLow now))
  have fresh := List.head?_dropWhile_not (tp.starvedLow now) tp.lowJobQ
  cases left : tp.lowJobQ.dropWhile (tp.starvedLow now) with
  | nil => simp
  | cons first others =>
      rw [left] at rest fresh
      have waited : diffMillis now first.requestTime < tp.attr.maxIdleTime := by
        simpa [ThreadPool.starvedLow] using fresh
      intro job member
      rcases List.mem_cons.mp member with rfl | behind
      · exact waited.le
      · have older := (List.pairwise_cons.mp rest).1 job behind
        have within := diffMillis_older now older
        omega

theorem look_low {s : PoolSystem A} (known : InOrder s) (i : Nat) (timedOut : Bool)
    (nodes : List Bool) (busy : s.tp.nothingToDo = false) :
    ∀ job ∈ (s.look i timedOut nodes).tp.lowJobQ,
      diffMillis s.clock job.requestTime ≤ s.tp.attr.maxIdleTime := by
  have idle : ¬ s.tp.nothingToDo = true := by simp [busy]
  have goes : (s.look i timedOut nodes).tp =
      ((s.tp.leavesIdle.bumpPriority s.clock nodes).1.workerGoes s.clock).1 := by
    simp only [look, ThreadPool.workerLooks, if_neg idle]
  intro job member
  have sorted : s.tp.leavesIdle.lowJobQ.Pairwise _ := known.low_sorted
  have looked := ThreadPool.workerGoes_looked (s.tp.leavesIdle.bumpPriority s.clock nodes).1 s.clock
  exact bumpPriority_low nodes sorted job (looked.low job (goes ▸ member))

def PoolAction.serves (s : PoolSystem A) : PoolAction A → Bool
  | .loop _ _ | .wake _ _ _ => !s.tp.nothingToDo
  | _ => false

def LowBounded (s : PoolSystem A) (action : PoolAction A) (t : PoolSystem A) : Prop :=
  action.serves s = true → ∀ job ∈ t.tp.lowJobQ,
    diffMillis s.clock job.requestTime ≤ s.tp.attr.maxIdleTime

theorem lowBounded_step {s t : PoolSystem A} {action : PoolAction A} (known : InOrder s)
    (taken : PoolStep s action t) : LowBounded s action t := by
  intro serves
  obtain ⟨_, taken⟩ := taken
  cases action with
  | loop i nodes =>
      simp only [PoolAction.exec, Option.map_eq_some_iff, Option.bind_eq_some_iff] at taken
      obtain ⟨u, ⟨thread, standing, returned⟩, rfl⟩ := taken
      have ordered := inOrder_change known (.returns i thread standing returned)
      have busy : u.tp.nothingToDo = s.tp.nothingToDo ∧ u.clock = s.clock ∧
          u.tp.attr = s.tp.attr := by
        cases thread <;> cases returned <;> exact ⟨rfl, rfl, rfl⟩
      obtain ⟨same, clock, attr⟩ := busy
      have bound := look_low ordered i false nodes (by simpa [PoolAction.serves, same] using serves)
      rwa [clock, attr] at bound
  | wake i timedOut nodes =>
      simp only [PoolAction.exec] at taken
      split at taken
      · cases taken
        exact look_low known i timedOut nodes (by simpa [PoolAction.serves] using serves)
      · cases taken
  | _ => simp [PoolAction.serves] at serves

theorem threadPoolInit_inOrder (attr : ThreadPoolAttr) (clock : Timeval) (supply : Supply) :
    InOrder (threadPoolInit attr clock supply : PoolSystem A) :=
  (threadPoolInit_changes attr clock supply).preserves (fun _ _ => inOrder_change)
    (initial_inOrder attr clock)

theorem inOrder_step {s t : PoolSystem A} {action : PoolAction A} (known : s.Stopping ∧ InOrder s)
    (taken : PoolStep s action t) : t.Stopping ∧ InOrder t :=
  ⟨stopping_step known.1 taken,
    poolStep_preserves (fun _ _ => inOrder_change) known.1 known.2 taken⟩

theorem lowBounded_along (attr : ThreadPoolAttr) (clock : Timeval) (supply : Supply)
    (actions : List (PoolAction A)) :
    Along PoolStep LowBounded (threadPoolInit attr clock supply) actions := by
  refine along_of_step (fun s action t known taken => inOrder_step known taken) ?_ ?_ actions
  · exact fun s action t known taken => lowBounded_step known.2 taken
  · exact ⟨threadPoolInit_stopping attr clock supply, threadPoolInit_inOrder attr clock supply⟩

end Libdlna
