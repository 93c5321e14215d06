import Libdlna.Threads.Jobs

set_option autoImplicit false

/-!
# Workers

The counters of the pool and of its statistics are what one would find by counting the threads at
any moment at which the mutex is free, except for those that have been created and have not counted
themselves yet.
-/

namespace Libdlna

open PoolSystem Runs

variable {A : Type}

/-- A thread that has only been created is in none of the counters. -/
structure Counted (s : PoolSystem A) : Prop where
  totalThreads : s.tp.totalThreads = s.threads.countP WorkerThread.counted
  persistentThreads : s.tp.persistentThreads = s.threads.countP WorkerThread.runsPersistent
  idleThreads : s.tp.stats.idleThreads = s.threads.countP WorkerThread.isIdle
  workerThreads : s.tp.stats.workerThreads = s.threads.countP WorkerThread.runsShort

theorem count_replace {i : Nat} {threads new : List (WorkerThread A)} {thread : WorkerThread A}
    {kind : WorkerThread A → Bool} {before after : Int} (standing : threads[i]? = some thread)
    (counted : before = threads.countP kind)
    (moved : after + (if kind thread then 1 else 0) = before + new.countP kind) :
    after = (Places.replace i new threads).countP kind := by
  have replaced := Places.countP_replace standing new kind
  split at moved <;> simp_all <;> omega

theorem look_counted {s : PoolSystem A} (known : Counted s) {i : Nat} {timedOut : Bool}
    {nodes : List Bool} (standing : s.threads[i]? = some .idle) :
    Counted (s.look i timedOut nodes) := by
  have looked := s.tp.workerLooks_looked timedOut s.clock nodes
  constructor
  case totalThreads => exact count_replace standing known.totalThreads looked.totalThreads
  case persistentThreads =>
    exact count_replace standing known.persistentThreads ((add_zero _).trans looked.persistentThreads)
  case idleThreads => exact count_replace standing known.idleThreads looked.idleThreads
  case workerThreads =>
    exact count_replace standing known.workerThreads ((add_zero _).trans looked.workerThreads)

theorem returnsToLoop_counted {s t : PoolSystem A} (known : Counted s) {i : Nat}
    {thread : WorkerThread A} (standing : s.threads[i]? = some thread)
    (returned : s.returnsToLoop i thread = some t) : Counted t := by
  have moved : ∀ persistent, t = { t with
      tp := s.tp.workerReturns persistent, threads := Places.replace i [.idle] s.threads } →
      thread.counted = true → thread.isIdle = false →
      thread.runsPersistent = decide (persistent = some true) →
      thread.runsShort = decide (persistent = some false) → Counted t := by
    intro persistent same counted idle long short
    rw [same]
    constructor
    case totalThreads =>
      exact count_replace standing known.totalThreads (by rw [counted]; rfl)
    case persistentThreads =>
      exact count_replace standing known.persistentThreads (by
        rw [long]
        by_cases kind : persistent = some true <;> simp [kind, ThreadPool.workerReturns])
    case idleThreads =>
      exact count_replace standing known.idleThreads (by rw [idle]; simp [ThreadPool.workerReturns])
    case workerThreads =>
      exact count_replace standing known.workerThreads (by
        rw [short]
        by_cases kind : persistent = some false <;> simp [kind, ThreadPool.workerReturns])
  cases thread with
  | started =>
      cases returned
      exact moved none rfl rfl rfl rfl rfl
  | running job persistent =>
      cases returned
      exact moved (some persistent) rfl rfl rfl (by simp) (by simp)
  | _ => cases returned

theorem counted_change {s t : PoolSystem A} (known : Counted s) (change : PoolChange s t) :
    Counted t := by
  obtain ⟨total, persistent, idle, worker⟩ := known
  cases change with
  | creates => constructor <;> simpa
  | enqueues temp =>
      unfold enqueue
      split <;> exact ⟨total, persistent, idle, worker⟩
  | removes jobId =>
      obtain ⟨_, _, _, _, _, same, _⟩ := threadPoolRemove_eq s jobId
      rw [same]
      exact ⟨total, persistent, idle, worker⟩
  | starts i _ standing =>
      constructor
      case totalThreads => exact count_replace standing total (by simp)
      case persistentThreads => exact count_replace standing persistent (by simp)
      case idleThreads => exact count_replace standing idle (by simp)
      case workerThreads => exact count_replace standing worker (by simp)
  | returns i thread standing returned =>
      exact returnsToLoop_counted ⟨total, persistent, idle, worker⟩ standing returned
  | looks i timedOut nodes standing =>
      exact look_counted ⟨total, persistent, idle, worker⟩ standing
  | _ => exact ⟨total, persistent, idle, worker⟩

theorem initial_counted (attr : ThreadPoolAttr) (clock : Timeval) :
    Counted (initial attr clock : PoolSystem A) := by
  constructor <;> rfl

theorem counted_throughout (attr : ThreadPoolAttr) (clock : Timeval) (supply : Supply)
    (actions : List (PoolAction A)) :
    Throughout PoolStep Counted (threadPoolInit attr clock supply) actions :=
  throughout_of_change (fun _ _ => counted_change) supply (initial_counted attr clock) actions

structure ShutDown (s : PoolSystem A) : Prop where
  line : s.tp.shutdown = true → s.tp.line = []
  destroyed : s.destroyed = true → s.tp.shutdown = true ∧ s.tp.totalThreads ≤ 0

theorem ShutDown.of_sublist {s t : PoolSystem A} (known : ShutDown s)
    (line : t.tp.line.Sublist s.tp.line) (shutdown : t.tp.shutdown = s.tp.shutdown)
    (total : t.tp.totalThreads ≤ s.tp.totalThreads) (destroyed : t.destroyed = s.destroyed) :
    ShutDown t where
  line shut := by
    rw [shutdown] at shut
    exact List.sublist_nil.mp (known.line shut ▸ line)
  destroyed gone := by
    rw [destroyed] at gone
    rw [shutdown]
    exact ⟨(known.destroyed gone).1, total.trans (known.destroyed gone).2⟩

theorem WorkerFate.counted_le_one (fate : WorkerFate A) :
    fate.threads.countP WorkerThread.counted ≤ 1 := by
  cases fate <;> simp

theorem shutDown_change {s t : PoolSystem A} (known : ShutDown s) (change : PoolChange s t) :
    ShutDown t := by
  cases change with
  | enqueues temp opened =>
      unfold enqueue
      split <;>
      · constructor
        · intro shut
          simp [opened] at shut
        · exact known.destroyed
  | removes jobId =>
      obtain ⟨_, _, _, _, _, same, high, med, low⟩ := threadPoolRemove_eq s jobId
      rw [same]
      exact known.of_sublist ((high.append med).append low) rfl (Int.le_refl _) rfl
  | discards => exact ⟨fun _ => rfl, fun gone => ⟨rfl, (known.destroyed gone).2⟩⟩
  | destroys shut gone => exact ⟨known.line, fun _ => ⟨shut, gone⟩⟩
  | starts i alive => exact ⟨known.line, fun gone => by simp [alive] at gone⟩
  | returns i thread standing returned =>
      cases thread <;> cases returned <;> exact ⟨known.line, known.destroyed⟩
  | looks i timedOut nodes standing =>
      have looked := s.tp.workerLooks_looked timedOut s.clock nodes
      apply known.of_sublist
      · exact (List.sublist_append_right ..).trans looked.sublist
      · exact looked.shutdown
      · have total := looked.totalThreads
        have few := (s.tp.workerLooks timedOut s.clock nodes).1.2.counted_le_one
        show (s.tp.workerLooks timedOut s.clock nodes).1.1.totalThreads ≤ s.tp.totalThreads
        omega
      · rfl
  | _ => exact ⟨known.line, known.destroyed⟩

theorem jobless_of_uncounted {threads : List (WorkerThread A)}
    (uncounted : threads.countP WorkerThread.counted = 0) :
    threads.flatMap WorkerThread.jobs = [] := by
  rw [List.flatMap_eq_nil_iff]
  intro thread member
  have created := List.countP_eq_zero.mp uncounted thread member
  cases thread <;> simp_all

theorem ShutDown.accounted {s : PoolSystem A} (shut : ShutDown s) (counted : Counted s)
    (gone : s.destroyed = true) :
    s.accounted = s.tp.persistentJob.toList + (s.finished + s.removed + s.discarded) := by
  obtain ⟨shutdown, nobody⟩ := shut.destroyed gone
  have uncounted : s.threads.countP WorkerThread.counted = 0 := by
    have total := counted.totalThreads
    omega
  rw [PoolSystem.accounted, shut.line shutdown, jobless_of_uncounted uncounted]
  simp

/-- Of the jobs that are not lost every one has run to its end, has been removed, or has been freed.
Only a long term job that came in after the shutdown may still stand in the slot. There may be
threads left: those that have only been created. -/
def Settled (s : PoolSystem A) : Prop :=
  s.destroyed = true → (s.accepted : Multiset (ThreadPoolJob A)) =
    s.tp.persistentJob.toList + (s.finished + s.removed + s.discarded) + s.lost

end Libdlna
