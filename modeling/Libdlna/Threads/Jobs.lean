import Libdlna.Threads.Steps
import Mathlib.Algebra.Order.Group.Multiset
import Mathlib.Tactic.Abel

set_option autoImplicit false

/-!
# What becomes of a job

Every job that the pool has taken is waiting, running, run, removed or discarded, and only one of
these, unless the pool forgets it: a long term job whose place in the slot another one takes, or a
starved one for which `BumpPriority` gets no node.
-/

namespace Libdlna

open PoolSystem Runs

variable {A : Type}

/-- All the jobs that the pool still knows of, or knows the end of. -/
def PoolSystem.accounted (s : PoolSystem A) : Multiset (ThreadPoolJob A) :=
  s.tp.line + s.tp.persistentJob.toList + s.threads.flatMap WorkerThread.jobs +
    (s.finished + s.removed + s.discarded)

/-- The jobs that are lost will neither run nor be freed. -/
def Accounts (s : PoolSystem A) : Prop :=
  (s.accepted : Multiset (ThreadPoolJob A)) = s.accounted + s.lost

def Conserved (s : PoolSystem A) : Prop :=
  (s.accepted : Multiset (ThreadPoolJob A)) = s.accounted

theorem Accounts.conserved_iff {s : PoolSystem A} (known : Accounts s) :
    Conserved s ↔ s.lost = [] := by
  rw [Conserved, known]
  simp

theorem listFind_split {queue : List (ThreadPoolJob A)} {jobId : Int} {temp : ThreadPoolJob A}
    (found : listFind queue jobId = some temp) :
    (queue : Multiset (ThreadPoolJob A)) = {temp} + (listDelNode queue jobId : Multiset _) := by
  obtain ⟨same, before, after, rfl, others⟩ := List.find?_eq_some_iff_append.mp found
  have skipped : ∀ job ∈ before, ¬ decide (job.jobId = jobId) = true := by simpa using others
  have kept : listDelNode (before ++ temp :: after) jobId = before ++ after := by
    rw [listDelNode, List.eraseP_append_right _ skipped, List.eraseP_cons, same, cond_true]
  rw [kept]
  simp only [← Multiset.coe_add, ← Multiset.cons_coe, ← Multiset.singleton_add]
  abel

theorem jobs_replace {i : Nat} {threads : List (WorkerThread A)} {thread : WorkerThread A}
    (standing : threads[i]? = some thread) (new : List (WorkerThread A)) :
    Multiset.ofList ((Places.replace i new threads).flatMap WorkerThread.jobs) +
        Multiset.ofList thread.jobs =
      Multiset.ofList (new.flatMap WorkerThread.jobs) +
        Multiset.ofList (threads.flatMap WorkerThread.jobs) := by
  rw [Multiset.coe_add, Multiset.coe_add, Multiset.coe_eq_coe]
  exact List.perm_append_comm.trans (Places.flatMap_replace standing new WorkerThread.jobs)

theorem jobs_replace_jobless {i : Nat} {threads : List (WorkerThread A)}
    {thread : WorkerThread A} (standing : threads[i]? = some thread) (other : WorkerThread A)
    (before : thread.jobs = []) (after : other.jobs = []) :
    Multiset.ofList ((Places.replace i [other] threads).flatMap WorkerThread.jobs) =
      Multiset.ofList (threads.flatMap WorkerThread.jobs) := by
  simpa only [List.flatMap_cons, List.flatMap_nil, before, after, List.append_nil,
    Multiset.coe_nil, add_zero, zero_add] using jobs_replace standing [other]

theorem WorkerFate.jobs (fate : WorkerFate A) :
    fate.threads.flatMap WorkerThread.jobs = fate.picked ++ fate.pickedPersistent := by
  cases fate with
  | runs job persistent => cases persistent <;> rfl
  | _ => rfl

theorem look_accounts {s : PoolSystem A} (known : Accounts s) {i : Nat} {timedOut : Bool}
    {nodes : List Bool} (standing : s.threads[i]? = some .idle) :
    Accounts (s.look i timedOut nodes) := by
  have looked := s.tp.workerLooks_looked timedOut s.clock nodes
  have threads := jobs_replace standing (s.tp.workerLooks timedOut s.clock nodes).1.2.threads
  have line := (Multiset.coe_eq_coe.mpr looked.line).symm
  have slot := congrArg Multiset.ofList looked.slot
  unfold Accounts at known ⊢
  simp only [WorkerFate.jobs, WorkerThread.jobs, ← Multiset.coe_add, Multiset.coe_nil,
    add_zero] at threads line slot
  simp only [PoolSystem.accounted, look, threads, ← Multiset.coe_add] at known ⊢
  rw [known, line, slot]
  abel

theorem accounted_of_removal {s t : PoolSystem A} {temp : ThreadPoolJob A}
    (waiting : Multiset.ofList s.tp.line + Multiset.ofList s.tp.persistentJob.toList =
      {temp} + (Multiset.ofList t.tp.line + Multiset.ofList t.tp.persistentJob.toList))
    (threads : t.threads = s.threads) (removed : t.removed = s.removed ++ [temp])
    (finished : t.finished = s.finished) (discarded : t.discarded = s.discarded) :
    t.accounted = s.accounted := by
  simp only [PoolSystem.accounted, waiting, threads, removed, finished, discarded,
    ← Multiset.coe_add, Multiset.coe_singleton]
  abel

theorem remove_accounts {s : PoolSystem A}
    (known : Accounts s) (jobId : Int) : Accounts (s.threadPoolRemove jobId).1 := by
  unfold Accounts at known ⊢
  have other : ∀ t : PoolSystem A, t.accounted = s.accounted → t.accepted = s.accepted →
      t.lost = s.lost → Multiset.ofList t.accepted = t.accounted + t.lost := by
    intro t accounted accepted lost
    rw [accounted, accepted, lost, known]
  unfold threadPoolRemove
  split
  next found =>
    refine other _ (accounted_of_removal ?_ rfl rfl rfl rfl) rfl rfl
    simp only [ThreadPool.line, ← Multiset.coe_add, listFind_split found]
    abel
  next found =>
    refine other _ (accounted_of_removal ?_ rfl rfl rfl rfl) rfl rfl
    simp only [ThreadPool.line, ← Multiset.coe_add, listFind_split found]
    abel
  next found =>
    refine other _ (accounted_of_removal ?_ rfl rfl rfl rfl) rfl rfl
    simp only [ThreadPool.line, ← Multiset.coe_add, listFind_split found]
    abel
  next temp _ _ _ slot =>
    split
    · refine other _ (accounted_of_removal ?_ rfl rfl rfl rfl) rfl rfl
      simp only [ThreadPool.line, slot, Option.toList_some, Option.toList_none,
        Multiset.coe_singleton, Multiset.coe_nil]
      abel
    · exact known
  next => exact known

theorem enqueue_accounts {s : PoolSystem A}
    (known : Accounts s) (temp : ThreadPoolJob A) : Accounts (s.enqueue temp) := by
  have accepted : (s.enqueue temp).accepted = s.accepted ++ [temp] := by
    unfold enqueue
    split <;> rfl
  have accounted : (s.enqueue temp).accounted = s.accounted + {temp} := by
    unfold enqueue
    split <;>
    · simp only [PoolSystem.accounted, ThreadPool.line, ← Multiset.coe_add,
        Multiset.coe_singleton]
      abel
  unfold Accounts at known ⊢
  rw [accepted, accounted, (enqueue_frame s temp).lost, ← Multiset.coe_add, known,
    Multiset.coe_singleton]
  abel

theorem scheduled_accounts {s : PoolSystem A} (known : Accounts s) (temp : ThreadPoolJob A) :
    Accounts (s.scheduled temp) := by
  unfold Accounts at known ⊢
  simp only [PoolSystem.accounted, ThreadPool.line, scheduled, ← Multiset.coe_add,
    Option.toList_some, Multiset.coe_singleton] at known ⊢
  rw [known]
  abel

theorem returnsToLoop_accounts {s t : PoolSystem A}
    (known : Accounts s) {i : Nat} {thread : WorkerThread A}
    (standing : s.threads[i]? = some thread) (returned : s.returnsToLoop i thread = some t) :
    Accounts t := by
  unfold Accounts at known ⊢
  cases thread <;> cases returned
  case started =>
    rw [known]
    simp only [PoolSystem.accounted, jobs_replace_jobless standing .idle rfl rfl]
    rfl
  case running job persistent =>
    have threads := jobs_replace standing [.idle]
    rw [known]
    simp only [PoolSystem.accounted, ThreadPool.line, ThreadPool.workerReturns,
      ← Multiset.coe_add] at threads ⊢
    simp only [WorkerThread.jobs, Multiset.coe_singleton, List.flatMap_cons, List.flatMap_nil,
      List.append_nil, Multiset.coe_nil, zero_add] at threads ⊢
    rw [← threads]
    abel

theorem accounts_change {s t : PoolSystem A}
    (known : Accounts s) (change : PoolChange s t) : Accounts t := by
  cases change with
  | creates => simpa [Accounts, PoolSystem.accounted] using known
  | enqueues temp => exact enqueue_accounts known temp
  | schedules temp => exact scheduled_accounts known temp
  | removes jobId => exact remove_accounts known jobId
  | discards =>
      unfold Accounts at known ⊢
      simp only [PoolSystem.accounted, ThreadPool.line, discardJobs, ← Multiset.coe_add] at known ⊢
      rw [known]
      simp only [Option.toList_none, Multiset.coe_nil]
      abel
  | starts i _ standing =>
      unfold Accounts at known ⊢
      rw [known]
      simp only [PoolSystem.accounted, jobs_replace_jobless standing .started rfl rfl]
      rfl
  | returns i thread standing returned => exact returnsToLoop_accounts known standing returned
  | looks i timedOut nodes standing => exact look_accounts known standing
  | _ => exact known

theorem initial_accounts (attr : ThreadPoolAttr) (clock : Timeval) :
    Accounts (initial attr clock : PoolSystem A) := rfl

def KeepsJobs (s : PoolSystem A) (action : PoolAction A) (t : PoolSystem A) : Prop :=
  FindsSlotFree s action t ∧ FindsNodes s action

structure AllKept (s : PoolSystem A) : Prop where
  stopping : s.Stopping
  accounts : Accounts s
  kept : s.lost = []

theorem threadPoolInit_allKept (attr : ThreadPoolAttr) (clock : Timeval) (supply : Supply) :
    AllKept (threadPoolInit attr clock supply : PoolSystem A) where
  stopping := threadPoolInit_stopping attr clock supply
  accounts := (threadPoolInit_changes attr clock supply).preserves (fun _ _ => accounts_change)
    (initial_accounts attr clock)
  kept := (settle_lost _).trans (initWorkers_ordinary _ 0 supply).frame.lost

theorem conserved_throughout_iff (attr : ThreadPoolAttr) (clock : Timeval) (supply : Supply)
    (actions : List (PoolAction A)) :
    Throughout PoolStep Conserved (threadPoolInit attr clock supply) actions ↔
      Along PoolStep KeepsJobs (threadPoolInit attr clock supply) actions := by
  refine throughout_iff_along (fun s (known : AllKept s) => ?_) ?_ ?_ ?_ actions
  · exact known.accounts.conserved_iff.mpr known.kept
  · intro s action t ⟨stopping, accounts, kept⟩ taken keeps
    refine ⟨stopping_step stopping taken, ?_, ?_⟩
    · exact poolStep_preserves (fun _ _ => accounts_change) stopping accounts taken
    · rw [(poolStep_taken stopping taken).kept.mpr keeps, kept]
  · intro s action t ⟨stopping, accounts, kept⟩ taken loses conserved
    have after := poolStep_preserves (fun _ _ => accounts_change) stopping accounts taken
    apply loses
    rw [KeepsJobs, ← (poolStep_taken stopping taken).kept, kept]
    exact after.conserved_iff.mp conserved
  · exact threadPoolInit_allKept attr clock supply

end Libdlna
