import Mathlib.Data.List.Basic

set_option autoImplicit false

/-!
# The timer thread

The functions are those of `threadutil/TimerThread.c`. The timer's own thread keeps the mutex from
one wait to the next one, whatever it dispatches meanwhile; nobody else gets in between. A job is a
value of type `A`, which the timer only hands on to its thread pool.
-/

namespace Libdlna

inductive TimeoutType where
  | absSec
  | relSec
  deriving DecidableEq

structure TimerEvent (A : Type) where
  job : A
  persistent : Bool
  eventTime : Int
  id : Int
  deriving DecidableEq

structure TimerThread (A : Type) where
  -- an `int`, which is not held to its range here
  lastEventId : Int := 0
  shutdown : Bool := false
  eventQ : List (TimerEvent A) := []
  deriving DecidableEq

inductive TimerWorker where
  -- it does not have the mutex yet
  | starting
  -- at the top of its loop, with the mutex
  | looping
  -- in `ithread_cond_timedwait`, or in `ithread_cond_wait` if there is no time; has it been woken?
  | waiting (timeToWait : Option Int) (signalled : Bool)
  | ended
  deriving DecidableEq

/-- An event that has been handed to the pool: when, which ids there were by then, and whether the
pool has taken the job, which the timer does not ask. -/
structure Dispatch (A : Type) where
  event : TimerEvent A
  currentTime : Int
  nextId : Int
  taken : Bool
  deriving DecidableEq

structure TimerSupply where
  event : Bool
  node : Bool
  deriving DecidableEq

structure TimerSystem (A : Type) where
  timer : TimerThread A := {}
  worker : TimerWorker := .starting
  clock : Int
  -- `TimerThreadShutdown` waits for the thread
  stopping : Bool := false
  destroyed : Bool := false
  -- what has become of the events so far
  scheduled : List (TimerEvent A) := []
  dispatched : List (Dispatch A) := []
  removed : List (TimerEvent A) := []
  discarded : List (TimerEvent A) := []
  deriving DecidableEq

variable {A : Type}

/-- `now` is read before the mutex is taken. -/
def calculateEventTime (timeout now : Int) : TimeoutType → Int
  | .absSec => timeout
  | .relSec => timeout + now

def insertEvent (newEvent : TimerEvent A) : List (TimerEvent A) → List (TimerEvent A)
  | [] => [newEvent]
  | temp :: rest =>
      if temp.eventTime ≥ newEvent.eventTime then newEvent :: temp :: rest
      else temp :: insertEvent newEvent rest

def TimerWorker.signal : TimerWorker → TimerWorker
  | .waiting timeToWait _ => .waiting timeToWait true
  | worker => worker

namespace TimerSystem

def createTimerEvent (s : TimerSystem A) (job : A) (persistent : Bool) (eventTime : Int)
    (supply : TimerSupply) : Option (TimerEvent A) :=
  if supply.event then
    some { job := job, persistent := persistent, eventTime := eventTime, id := s.timer.lastEventId }
  else none

def timerThreadSchedule (s : TimerSystem A) (timeout now : Int) (type : TimeoutType) (job : A)
    (duration : Bool) (supply : TimerSupply) : TimerSystem A :=
  match s.createTimerEvent job duration (calculateEventTime timeout now type) supply with
  | none => s
  | some newEvent =>
      if supply.node then
        { s with
          timer.eventQ := insertEvent newEvent s.timer.eventQ
          timer.lastEventId := s.timer.lastEventId + 1
          worker := s.worker.signal
          scheduled := s.scheduled ++ [newEvent] }
      -- the event is freed, but its id is used up
      else { s with timer.lastEventId := s.timer.lastEventId + 1 }

def timerThreadRemove (s : TimerSystem A) (id : Int) : TimerSystem A :=
  match s.timer.eventQ.find? fun temp => temp.id = id with
  | none => s
  | some temp =>
      { s with
        timer.eventQ := s.timer.eventQ.eraseP fun temp => temp.id = id
        removed := s.removed ++ [temp] }

def timerThreadShutdown (s : TimerSystem A) : TimerSystem A :=
  { s with
    timer.shutdown := true
    timer.eventQ := []
    worker := s.worker.signal
    stopping := true
    discarded := s.discarded ++ s.timer.eventQ }

/-- One turn of the loop of `TimerThreadWorker`; `taken` is what the pool makes of the job. -/
def timerThreadWorker (s : TimerSystem A) (taken : Bool) : TimerSystem A :=
  if s.timer.shutdown then { s with timer.shutdown := false, worker := .ended }
  else
    match s.timer.eventQ with
    | [] => { s with worker := .waiting none false }
    | nextEvent :: rest =>
        if s.clock ≥ nextEvent.eventTime then
          { s with
            timer.eventQ := rest
            dispatched := s.dispatched ++ [⟨nextEvent, s.clock, s.timer.lastEventId, taken⟩] }
        else { s with worker := .waiting (some nextEvent.eventTime) false }

def usable (s : TimerSystem A) : Bool := !s.stopping && s.worker ≠ .looping

end TimerSystem

inductive TimerAction (A : Type) where
  | schedule (timeout now : Int) (type : TimeoutType) (job : A) (duration : Bool)
      (supply : TimerSupply)
  | remove (id : Int)
  | shutdown
  -- the thread takes the mutex: at its start, woken, timed out, or for no reason
  | enter
  | turn (taken : Bool)
  -- the end of `TimerThreadShutdown`
  | finish
  -- the clock, which never goes back
  | tick (now : Int)

open TimerSystem in
/-- `none` when the action is not possible in the state. -/
def TimerAction.exec (s : TimerSystem A) : TimerAction A → Option (TimerSystem A)
  | .schedule timeout now type job duration supply =>
      if s.usable ∧ now ≤ s.clock then
        some (s.timerThreadSchedule timeout now type job duration supply)
      else none
  | .remove id => if s.usable then some (s.timerThreadRemove id) else none
  | .shutdown => if s.usable then some s.timerThreadShutdown else none
  | .enter =>
      match s.worker with
      | .starting | .waiting _ _ => some { s with worker := .looping }
      | .looping | .ended => none
  | .turn taken => if s.worker = .looping then some (s.timerThreadWorker taken) else none
  | .finish =>
      if s.stopping ∧ !s.timer.shutdown ∧ s.worker ≠ .looping then
        some { s with destroyed := true }
      else none
  | .tick now => if s.clock ≤ now then some { s with clock := now } else none

def TimerStep (s : TimerSystem A) (action : TimerAction A) (t : TimerSystem A) : Prop :=
  s.destroyed = false ∧ action.exec s = some t

end Libdlna
