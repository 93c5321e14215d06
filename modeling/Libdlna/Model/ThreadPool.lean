import Mathlib.Data.List.Basic

set_option autoImplicit false

/-!
# The thread pool

The functions are those of `threadutil/ThreadPool.c`. What they do between two points where the
mutex is free is one function here. The condition variables are only modelled by where a thread or
a call stands: a waiting one may look again at any time. A job's routine, argument and free
function are one value of type `A`, which the pool never looks at.
-/

namespace Libdlna

structure Timeval where
  tvSec : Int
  tvUsec : Fin 1000000
  deriving DecidableEq

def Timeval.micros (time : Timeval) : Int :=
  time.tvSec * 1000000 + (time.tvUsec.val : Int)

/-- The divisions of C truncate. -/
def diffMillis (time1 time2 : Timeval) : Int :=
  (time1.tvSec - time2.tvSec) * 1000 +
    ((time1.tvUsec.val : Int) - (time2.tvUsec.val : Int)).tdiv 1000

inductive ThreadPriority where
  | low
  | med
  | high
  deriving DecidableEq

structure ThreadPoolAttr where
  minThreads : Int
  maxThreads : Int
  maxIdleTime : Int
  jobsPerThread : Int
  maxJobsTotal : Int
  starvationTime : Int
  deriving DecidableEq

def infiniteThreads : Int := -1
-- (-8 & 1<<29): the shift binds closer, so that all the codes are one
def emaxthreads : Int := 1 <<< 29
def invalidJobId : Int := 1 <<< 29
def eoutofmem : Int := 1 <<< 29
def eagain : Int := 11

structure ThreadPoolJob (A : Type) where
  func : A
  requestTime : Timeval
  priority : ThreadPriority
  jobId : Int
  deriving DecidableEq

structure ThreadPoolStats where
  totalTimeHQ : Int := 0
  totalJobsHQ : Int := 0
  totalTimeMQ : Int := 0
  totalJobsMQ : Int := 0
  totalTimeLQ : Int := 0
  totalJobsLQ : Int := 0
  workerThreads : Int := 0
  idleThreads : Int := 0
  maxThreads : Int := 0
  deriving DecidableEq

structure ThreadPool (A : Type) where
  -- an `int`, which is not held to its range here
  lastJobId : Int := 0
  shutdown : Bool := false
  totalThreads : Int := 0
  persistentThreads : Int := 0
  lowJobQ : List (ThreadPoolJob A) := []
  medJobQ : List (ThreadPoolJob A) := []
  highJobQ : List (ThreadPoolJob A) := []
  persistentJob : Option (ThreadPoolJob A) := none
  attr : ThreadPoolAttr
  stats : ThreadPoolStats := {}
  deriving DecidableEq

variable {A : Type}

namespace ThreadPool

def statsAccountLQ (tp : ThreadPool A) (diffTime : Int) : ThreadPool A :=
  { tp with stats.totalJobsLQ := tp.stats.totalJobsLQ + 1
            stats.totalTimeLQ := tp.stats.totalTimeLQ + diffTime }

def statsAccountMQ (tp : ThreadPool A) (diffTime : Int) : ThreadPool A :=
  { tp with stats.totalJobsMQ := tp.stats.totalJobsMQ + 1
            stats.totalTimeMQ := tp.stats.totalTimeMQ + diffTime }

def statsAccountHQ (tp : ThreadPool A) (diffTime : Int) : ThreadPool A :=
  { tp with stats.totalJobsHQ := tp.stats.totalJobsHQ + 1
            stats.totalTimeHQ := tp.stats.totalTimeHQ + diffTime }

def calcWaitTime (tp : ThreadPool A) (now : Timeval) (p : ThreadPriority)
    (job : ThreadPoolJob A) : ThreadPool A :=
  match p with
  | .low => tp.statsAccountLQ (diffMillis now job.requestTime)
  | .med => tp.statsAccountMQ (diffMillis now job.requestTime)
  | .high => tp.statsAccountHQ (diffMillis now job.requestTime)

def starvedMed (tp : ThreadPool A) (now : Timeval) (job : ThreadPoolJob A) : Bool :=
  tp.attr.starvationTime ≤ diffMillis now job.requestTime

/-- The low queue is held against `maxIdleTime`, whatever the comment beside it says. -/
def starvedLow (tp : ThreadPool A) (now : Timeval) (job : ThreadPoolJob A) : Bool :=
  tp.attr.maxIdleTime ≤ diffMillis now job.requestTime

/-- `ListAddTail`; `node` is whether there is memory for a node. -/
def listAddTail (queue : List (ThreadPoolJob A)) (item : ThreadPoolJob A) (node : Bool) :
    List (ThreadPoolJob A) :=
  if node then queue ++ [item] else queue

/-- One turn of the loop of `BumpPriority`, with the job that it loses: the job has left its queue
when `ListAddTail` fails. `none` when it sets `done`. -/
def bumpOne (tp : ThreadPool A) (now : Timeval) (node : Bool) :
    Option (ThreadPool A × List (ThreadPoolJob A)) :=
  let low :=
    match tp.lowJobQ with
    | [] => none
    | tempJob :: rest =>
        if tp.starvedLow now tempJob then
          some ({ tp.statsAccountLQ (diffMillis now tempJob.requestTime) with
              lowJobQ := rest
              medJobQ := listAddTail tp.medJobQ tempJob node },
            if node then [] else [tempJob])
        else none
  match tp.medJobQ with
  | [] => low
  | tempJob :: rest =>
      if tp.starvedMed now tempJob then
        some ({ tp.statsAccountMQ (diffMillis now tempJob.requestTime) with
            medJobQ := rest
            highJobQ := listAddTail tp.highJobQ tempJob node },
          if node then [] else [tempJob])
      else low

def bumpTurns (now : Timeval) : Nat → List Bool → ThreadPool A →
    ThreadPool A × List (ThreadPoolJob A)
  | 0, _, tp => (tp, [])
  | turns + 1, nodes, tp =>
      match tp.bumpOne now (nodes.headD true) with
      | none => (tp, [])
      | some (after, lost) =>
          let (last, more) := bumpTurns now turns nodes.tail after
          (last, lost ++ more)

/-- A job of the low queue is moved at most twice, one of the medium queue once. -/
def bumpPriority (tp : ThreadPool A) (now : Timeval) (nodes : List Bool) :
    ThreadPool A × List (ThreadPoolJob A) :=
  bumpTurns now (2 * tp.lowJobQ.length + tp.medJobQ.length) nodes tp

end ThreadPool

inductive WorkerFate (A : Type) where
  -- it waits on `condition`
  | rests
  | dies
  | runs (job : ThreadPoolJob A) (persistent : Bool)
  deriving DecidableEq

namespace ThreadPool

def pickJob (tp : ThreadPool A) (now : Timeval) : ThreadPool A × WorkerFate A :=
  match tp.persistentJob with
  | some job =>
      ({ tp with persistentJob := none, persistentThreads := tp.persistentThreads + 1 },
        .runs job true)
  | none =>
      let tp := { tp with stats.workerThreads := tp.stats.workerThreads + 1 }
      match tp.highJobQ, tp.medJobQ, tp.lowJobQ with
      | job :: rest, _, _ => ({ tp.calcWaitTime now .high job with highJobQ := rest }, .runs job false)
      | [], job :: rest, _ => ({ tp.calcWaitTime now .med job with medJobQ := rest }, .runs job false)
      | [], [], job :: rest =>
          ({ tp.calcWaitTime now .low job with lowJobQ := rest }, .runs job false)
      -- assert( 0 )
      | [], [], [] =>
          ({ tp with
              stats.workerThreads := tp.stats.workerThreads - 1
              totalThreads := tp.totalThreads - 1 }, .dies)

def workerGoes (tp : ThreadPool A) (now : Timeval) : ThreadPool A × WorkerFate A :=
  if tp.shutdown then ({ tp with totalThreads := tp.totalThreads - 1 }, .dies) else tp.pickJob now

def nothingToDo (tp : ThreadPool A) : Bool :=
  tp.lowJobQ.isEmpty && tp.medJobQ.isEmpty && tp.highJobQ.isEmpty &&
    tp.persistentJob.isNone && !tp.shutdown

def leavesIdle (tp : ThreadPool A) : ThreadPool A :=
  { tp with stats.idleThreads := tp.stats.idleThreads - 1 }

/-- From the test of the waiting loop on, with the jobs that are lost. -/
def workerLooks (tp : ThreadPool A) (timedOut : Bool) (now : Timeval) (nodes : List Bool) :
    (ThreadPool A × WorkerFate A) × List (ThreadPoolJob A) :=
  if tp.nothingToDo then
    if (timedOut ∧ tp.totalThreads > tp.attr.minThreads) ∨
        (tp.attr.maxThreads ≠ -1 ∧ tp.totalThreads > tp.attr.maxThreads) then
      (({ tp with
          stats.idleThreads := tp.stats.idleThreads - 1
          totalThreads := tp.totalThreads - 1 }, .dies), [])
    else ((tp, .rests), [])
  else
    let (bumped, lost) := tp.leavesIdle.bumpPriority now nodes
    (bumped.workerGoes now, lost)

/-- The start of the outer loop; `persistent` is the kind of the job that has just been run. -/
def workerReturns (tp : ThreadPool A) (persistent : Option Bool) : ThreadPool A :=
  { tp with
    stats.idleThreads := tp.stats.idleThreads + 1
    persistentThreads :=
      if persistent = some true then tp.persistentThreads - 1 else tp.persistentThreads
    stats.workerThreads :=
      if persistent = some false then tp.stats.workerThreads - 1 else tp.stats.workerThreads }

end ThreadPool
end Libdlna
