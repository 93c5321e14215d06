import Libdlna.Model.ThreadPool
import Libdlna.Shared.Places

set_option autoImplicit false

/-!
# Threads and calls around one pool

The threads that `ithread_create` has started and the calls that wait inside the pool stand in
lists. An action takes one of them from one point where the mutex is free to the next one, so that
the runs are all the interleavings of the critical sections.
-/

namespace Libdlna

/-- Where a worker stands when it does not hold the mutex. -/
inductive WorkerThread (A : Type) where
  -- it has not counted itself in `totalThreads` yet
  | created
  | started
  | idle
  | running (job : ThreadPoolJob A) (persistent : Bool)
  deriving DecidableEq

def WorkerFate.threads {A : Type} : WorkerFate A → List (WorkerThread A)
  | .rests => [.idle]
  | .dies => []
  | .runs job persistent => [.running job persistent]

def WorkerFate.picked {A : Type} : WorkerFate A → List (ThreadPoolJob A)
  | .runs job false => [job]
  | _ => []

/-- What goes on when the worker that a call waits for has started. -/
inductive AfterCreate (A : Type) where
  -- the loop of `ThreadPoolInit`
  | init (i : Int)
  -- the loop of `AddWorker`; has the job got a place in a queue?
  | add (temp : ThreadPoolJob A) (queued : Bool) (jobs threads : Int)
  | addPersistent (job : ThreadPoolJob A)
  deriving DecidableEq

/-- A call in one of the loops that wait on `start_and_shutdown`. -/
inductive PoolCall (A : Type) where
  | creating (currentThreads : Int) (next : AfterCreate A)
  -- until the persistent job has been picked up
  | scheduling (temp : ThreadPoolJob A)
  -- `ThreadPoolInit` has failed: it shuts the pool down, then returns the code
  | failing (rc : Int)
  | stopping (rc : Int)
  deriving DecidableEq

inductive CallEnd (A : Type) where
  | returns (rc : Int)
  | waits (call : PoolCall A)
  deriving DecidableEq

/-- What the system has for the next section: memory for a job and for a node, and a thread. -/
structure Supply where
  job : Bool
  node : Bool
  thread : Bool
  deriving DecidableEq

structure PoolSystem (A : Type) where
  tp : ThreadPool A
  threads : List (WorkerThread A) := []
  calls : List (PoolCall A) := []
  clock : Timeval
  -- the mutex and the condition variables are gone
  destroyed : Bool := false
  -- what has become of the jobs so far
  accepted : List (ThreadPoolJob A) := []
  -- those that workers have taken from the queues
  started : List (ThreadPoolJob A) := []
  finished : List (ThreadPoolJob A) := []
  removed : List (ThreadPoolJob A) := []
  -- those whose argument `ThreadPoolShutdown` has freed
  discarded : List (ThreadPoolJob A) := []
  -- those that are neither run nor freed: nothing of the pool points to them any more
  lost : List (ThreadPoolJob A) := []
  -- the accepted jobs whose calls have returned, with the ids they have answered
  answered : List (ThreadPoolJob A × Int) := []
  deriving DecidableEq

variable {A : Type}

namespace PoolSystem

def createThreadPoolJob (s : PoolSystem A) (job : ThreadPoolJob A) (supply : Supply) :
    Option (ThreadPoolJob A) :=
  if supply.job then some { job with jobId := s.tp.lastJobId, requestTime := s.clock } else none

def noteThreads (s : PoolSystem A) : PoolSystem A :=
  if s.tp.stats.maxThreads < s.tp.totalThreads then
    { s with tp.stats.maxThreads := s.tp.totalThreads }
  else s

/-- `CreateWorker` up to its wait; an error is what it returns. -/
def createWorker (s : PoolSystem A) (supply : Supply) : PoolSystem A × Except Int Int :=
  let currentThreads := s.tp.totalThreads + 1
  if s.tp.attr.maxThreads ≠ infiniteThreads ∧ currentThreads > s.tp.attr.maxThreads then
    (s, .error emaxthreads)
  else if supply.thread then
    ({ s with threads := s.threads ++ [.created] }, .ok currentThreads)
  else (s.noteThreads, .error eagain)

/-- The end of `ThreadPoolAdd`, or of `ThreadPoolAddPersistent`. A job that has no place in a queue
is freed, but its id is used up. -/
def answer (s : PoolSystem A) (temp : ThreadPoolJob A) (queued : Bool) : PoolSystem A :=
  { s with
    tp.lastJobId := s.tp.lastJobId + 1
    answered := if queued then s.answered ++ [(temp, s.tp.lastJobId)] else s.answered }

def addCode (queued : Bool) : Int := if queued then 0 else eoutofmem

/-- The loop of `AddWorker`, and what `ThreadPoolAdd` does after it. -/
def addWorker (s : PoolSystem A) (temp : ThreadPoolJob A) (queued : Bool) (jobs threads : Int)
    (supply : Supply) : PoolSystem A × CallEnd A :=
  if threads = 0 ∨ jobs.tdiv threads ≥ s.tp.attr.jobsPerThread then
    match s.createWorker supply with
    | (s, .error _) => (s.answer temp queued, .returns (addCode queued))
    | (s, .ok currentThreads) =>
        (s, .waits (.creating currentThreads (.add temp queued jobs threads)))
  else (s.answer temp queued, .returns (addCode queued))

def totalJobs (s : PoolSystem A) : Int :=
  (s.tp.highJobQ.length : Int) + s.tp.lowJobQ.length + s.tp.medJobQ.length

def enqueue (s : PoolSystem A) (temp : ThreadPoolJob A) : PoolSystem A :=
  let s := { s with accepted := s.accepted ++ [temp] }
  match temp.priority with
  | .high => { s with tp.highJobQ := s.tp.highJobQ ++ [temp] }
  | .med => { s with tp.medJobQ := s.tp.medJobQ ++ [temp] }
  | .low => { s with tp.lowJobQ := s.tp.lowJobQ ++ [temp] }

def threadPoolAdd (s : PoolSystem A) (job : ThreadPoolJob A) (supply : Supply) :
    PoolSystem A × CallEnd A :=
  if s.totalJobs ≥ s.tp.attr.maxJobsTotal then (s, .returns eoutofmem)
  else
    match s.createThreadPoolJob job supply with
    | none => (s, .returns eoutofmem)
    | some temp =>
        let s := if supply.node then s.enqueue temp else s
        s.addWorker temp supply.node s.totalJobs (s.tp.totalThreads - s.tp.persistentThreads)
          supply

/-- The slot of the pool takes a long term job, whatever it held before. -/
def scheduled (s : PoolSystem A) (temp : ThreadPoolJob A) : PoolSystem A :=
  { s with
    tp.persistentJob := some temp
    accepted := s.accepted ++ [temp]
    lost := s.lost ++ s.tp.persistentJob.toList }

def schedule (s : PoolSystem A) (job : ThreadPoolJob A) (supply : Supply) :
    PoolSystem A × CallEnd A :=
  match s.createThreadPoolJob job supply with
  | none => (s, .returns eoutofmem)
  | some temp => (s.scheduled temp, .waits (.scheduling temp))

def threadPoolAddPersistent (s : PoolSystem A) (job : ThreadPoolJob A) (supply : Supply) :
    PoolSystem A × CallEnd A :=
  if s.tp.totalThreads < s.tp.attr.maxThreads then
    match s.createWorker supply with
    | (s, .error _) => s.schedule job supply
    | (s, .ok currentThreads) => (s, .waits (.creating currentThreads (.addPersistent job)))
  else if s.tp.totalThreads - s.tp.persistentThreads - 1 = 0 then (s, .returns emaxthreads)
  else s.schedule job supply

def listFind (queue : List (ThreadPoolJob A)) (jobId : Int) : Option (ThreadPoolJob A) :=
  queue.find? fun job => job.jobId = jobId

def listDelNode (queue : List (ThreadPoolJob A)) (jobId : Int) : List (ThreadPoolJob A) :=
  queue.eraseP fun job => job.jobId = jobId

def threadPoolRemove (s : PoolSystem A) (jobId : Int) : PoolSystem A × Int :=
  match listFind s.tp.highJobQ jobId, listFind s.tp.medJobQ jobId,
      listFind s.tp.lowJobQ jobId, s.tp.persistentJob with
  | some temp, _, _, _ =>
      ({ s with tp.highJobQ := listDelNode s.tp.highJobQ jobId, removed := s.removed ++ [temp] }, 0)
  | none, some temp, _, _ =>
      ({ s with tp.medJobQ := listDelNode s.tp.medJobQ jobId, removed := s.removed ++ [temp] }, 0)
  | none, none, some temp, _ =>
      ({ s with tp.lowJobQ := listDelNode s.tp.lowJobQ jobId, removed := s.removed ++ [temp] }, 0)
  | none, none, none, some temp =>
      if temp.jobId = jobId then
        ({ s with tp.persistentJob := none, removed := s.removed ++ [temp] }, 0)
      else (s, invalidJobId)
  | none, none, none, none => (s, invalidJobId)

/-- The last part of `ThreadPoolShutdown`, when no thread is counted any more. -/
def finishShutdown (s : PoolSystem A) (rc : Int) : PoolSystem A × CallEnd A :=
  if s.tp.totalThreads > 0 then (s, .waits (.stopping rc))
  else ({ s with destroyed := true }, .returns rc)

def discardJobs (s : PoolSystem A) : PoolSystem A :=
  { s with
    tp.highJobQ := []
    tp.medJobQ := []
    tp.lowJobQ := []
    tp.persistentJob := none
    tp.shutdown := true
    discarded := s.discarded ++
      (s.tp.highJobQ ++ s.tp.medJobQ ++ s.tp.lowJobQ ++ s.tp.persistentJob.toList) }

def threadPoolShutdown (s : PoolSystem A) (rc : Int) : PoolSystem A × CallEnd A :=
  s.discardJobs.finishShutdown rc

def initWorkers (s : PoolSystem A) (i : Int) (supply : Supply) : PoolSystem A × CallEnd A :=
  if i < s.tp.attr.minThreads then
    match s.createWorker supply with
    | (s, .error rc) => (s, .waits (.failing rc))
    | (s, .ok currentThreads) => (s, .waits (.creating currentThreads (.init i)))
  else (s, .returns 0)

def settle (ended : PoolSystem A × CallEnd A) : PoolSystem A :=
  match ended.2 with
  | .returns _ => ended.1
  | .waits call => { ended.1 with calls := ended.1.calls ++ [call] }

def initial (attr : ThreadPoolAttr) (clock : Timeval) : PoolSystem A :=
  { tp := { attr := attr }, clock := clock }

def threadPoolInit (attr : ThreadPoolAttr) (clock : Timeval) (supply : Supply) : PoolSystem A :=
  settle ((initial attr clock).initWorkers 0 supply)

/-- A waiting call has been woken, by a signal or for no reason. -/
def resume (s : PoolSystem A) (supply : Supply) : PoolCall A → PoolSystem A × CallEnd A
  | .creating currentThreads next =>
      if s.tp.totalThreads < currentThreads then (s, .waits (.creating currentThreads next))
      else
        let s := s.noteThreads
        match next with
        | .init i => s.initWorkers (i + 1) supply
        | .add temp queued jobs threads => s.addWorker temp queued jobs (threads + 1) supply
        | .addPersistent job => s.schedule job supply
  | .scheduling temp =>
      match s.tp.persistentJob with
      | some _ => (s, .waits (.scheduling temp))
      | none => (s.answer temp true, .returns 0)
  | .failing rc => s.threadPoolShutdown rc
  | .stopping rc => s.finishShutdown rc

def isInit : PoolCall A → Bool
  | .creating _ (.init _) | .failing _ => true
  | _ => false

def usable (s : PoolSystem A) : Bool :=
  !s.tp.shutdown && !s.calls.any isInit

def look (s : PoolSystem A) (i : Nat) (timedOut : Bool) (nodes : List Bool) : PoolSystem A :=
  let ((tp, fate), lost) := s.tp.workerLooks timedOut s.clock nodes
  { s with
    tp := tp
    threads := Places.replace i fate.threads s.threads
    started := s.started ++ fate.picked
    lost := s.lost ++ lost }

def returnsToLoop (s : PoolSystem A) (i : Nat) : WorkerThread A → Option (PoolSystem A)
  | .started =>
      some { s with tp := s.tp.workerReturns none, threads := Places.replace i [.idle] s.threads }
  | .running job persistent =>
      some { s with
        tp := s.tp.workerReturns (some persistent)
        threads := Places.replace i [.idle] s.threads
        finished := s.finished ++ [job] }
  | .created | .idle => none

end PoolSystem

inductive PoolAction (A : Type) where
  | add (job : ThreadPoolJob A) (supply : Supply)
  | addPersistent (job : ThreadPoolJob A) (supply : Supply)
  | remove (jobId : Int)
  | shutdown
  -- the `k`-th of the waiting calls goes on
  | resume (k : Nat) (supply : Supply)
  -- the `i`-th thread counts itself
  | start (i : Nat)
  -- its job has returned, if it has run one, and it takes the mutex; `nodes` are for `BumpPriority`
  | loop (i : Nat) (nodes : List Bool)
  -- it comes back from `ithread_cond_timedwait`
  | wake (i : Nat) (timedOut : Bool) (nodes : List Bool)
  -- the clock, which never goes back
  | tick (now : Timeval)

open PoolSystem in
/-- `none` when the action is not possible in the state. -/
def PoolAction.exec (s : PoolSystem A) : PoolAction A → Option (PoolSystem A)
  | .add job supply => if s.usable then some (settle (s.threadPoolAdd job supply)) else none
  | .addPersistent job supply =>
      if s.usable then some (settle (s.threadPoolAddPersistent job supply)) else none
  | .remove jobId => if s.usable then some (s.threadPoolRemove jobId).1 else none
  | .shutdown => if s.usable then some (settle (s.threadPoolShutdown 0)) else none
  | .resume k supply =>
      s.calls[k]?.map fun call =>
        settle ({ s with calls := Places.replace k [] s.calls }.resume supply call)
  | .start i =>
      match s.threads[i]? with
      | some .created =>
          some { s with
            tp.totalThreads := s.tp.totalThreads + 1
            threads := Places.replace i [.started] s.threads }
      | _ => none
  | .loop i nodes =>
      (s.threads[i]?.bind (s.returnsToLoop i)).map fun s => s.look i false nodes
  | .wake i timedOut nodes =>
      match s.threads[i]? with
      | some .idle => some (s.look i timedOut nodes)
      | _ => none
  | .tick now => if s.clock.micros ≤ now.micros then some { s with clock := now } else none

def PoolStep (s : PoolSystem A) (action : PoolAction A) (t : PoolSystem A) : Prop :=
  s.destroyed = false ∧ action.exec s = some t

end Libdlna
