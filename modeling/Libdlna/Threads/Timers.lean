import Libdlna.Model.TimerThread
import Libdlna.Shared.Runs
import Mathlib.Algebra.Order.Group.Multiset
import Mathlib.Data.List.Sort
import Mathlib.Tactic.Abel

set_option autoImplicit false

/-!
# Timer events

Every event is dispatched once, removed or freed. It is dispatched at its time or later, and before
every later event that stands in the queue; the thread never oversleeps one.
-/

namespace Libdlna

open TimerSystem Runs

variable {A : Type}

inductive TimerMove (s : TimerSystem A) : TimerSystem A → Prop where
  | schedules (newEvent : TimerEvent A) (id : newEvent.id = s.timer.lastEventId) :
      TimerMove s { s with
        timer.eventQ := insertEvent newEvent s.timer.eventQ
        timer.lastEventId := s.timer.lastEventId + 1
        worker := s.worker.signal
        scheduled := s.scheduled ++ [newEvent] }
  -- an event for which there is no node
  | wastes : TimerMove s { s with timer.lastEventId := s.timer.lastEventId + 1 }
  | removes (before after : List (TimerEvent A)) (temp : TimerEvent A)
      (queue : s.timer.eventQ = before ++ temp :: after) :
      TimerMove s { s with timer.eventQ := before ++ after, removed := s.removed ++ [temp] }
  | shutsDown : TimerMove s s.timerThreadShutdown
  -- the thread takes the mutex, or ends
  | runs (worker : TimerWorker) (shutdown : Bool)
      (awake : ∀ timeToWait, worker ≠ .waiting timeToWait false) :
      TimerMove s { s with timer.shutdown := shutdown, worker := worker }
  | dispatches (nextEvent : TimerEvent A) (rest : List (TimerEvent A)) (taken : Bool)
      (looping : s.worker = .looping) (queue : s.timer.eventQ = nextEvent :: rest)
      (due : nextEvent.eventTime ≤ s.clock) :
      TimerMove s { s with
        timer.eventQ := rest
        dispatched := s.dispatched ++ [⟨nextEvent, s.clock, s.timer.lastEventId, taken⟩] }
  | sleeps (goesOn : s.timer.shutdown = false) :
      TimerMove s { s with
        worker := .waiting (s.timer.eventQ.head?.map TimerEvent.eventTime) false }
  | finishes : TimerMove s { s with destroyed := true }
  | ticks (now : Int) : TimerMove s { s with clock := now }
  | stays : TimerMove s s

theorem timerThreadSchedule_move (s : TimerSystem A) (timeout now : Int) (type : TimeoutType)
    (job : A) (duration : Bool) (supply : TimerSupply) :
    TimerMove s (s.timerThreadSchedule timeout now type job duration supply) := by
  unfold timerThreadSchedule createTimerEvent
  cases supply.event with
  | false => exact .stays
  | true =>
      cases supply.node with
      | false => exact .wastes
      | true => exact .schedules _ rfl

theorem timerThreadWorker_move {s : TimerSystem A} (looping : s.worker = .looping) (taken : Bool) :
    TimerMove s (s.timerThreadWorker taken) := by
  unfold timerThreadWorker
  split
  next => exact .runs .ended false (fun _ => by simp)
  next goesOn =>
    have goesOn : s.timer.shutdown = false := by simpa using goesOn
    split
    next queue =>
      have sleeps := TimerMove.sleeps goesOn
      rwa [queue] at sleeps
    next nextEvent rest queue =>
      split
      next due => exact .dispatches nextEvent rest taken looping queue due
      next =>
        have sleeps := TimerMove.sleeps goesOn
        rwa [queue] at sleeps

theorem timerThreadRemove_move (s : TimerSystem A) (id : Int) :
    TimerMove s (s.timerThreadRemove id) := by
  unfold timerThreadRemove
  split
  next => exact .stays
  next temp found =>
    obtain ⟨same, before, after, queue, others⟩ := List.find?_eq_some_iff_append.mp found
    have skipped : ∀ event ∈ before, ¬ decide (event.id = id) = true := by simpa using others
    have kept : (s.timer.eventQ.eraseP fun temp => temp.id = id) = before ++ after := by
      rw [queue, List.eraseP_append_right _ skipped, List.eraseP_cons, same, cond_true]
    rw [kept]
    exact .removes before after temp queue

theorem timerStep_move {s t : TimerSystem A} {action : TimerAction A}
    (taken : TimerStep s action t) : TimerMove s t := by
  obtain ⟨_, taken⟩ := taken
  cases action with
  | schedule timeout now type job duration supply =>
      simp only [TimerAction.exec, Option.ite_none_right_eq_some, Option.some.injEq] at taken
      obtain ⟨_, rfl⟩ := taken
      exact timerThreadSchedule_move s timeout now type job duration supply
  | remove id =>
      simp only [TimerAction.exec, Option.ite_none_right_eq_some, Option.some.injEq] at taken
      obtain ⟨_, rfl⟩ := taken
      exact timerThreadRemove_move s id
  | shutdown =>
      simp only [TimerAction.exec, Option.ite_none_right_eq_some, Option.some.injEq] at taken
      obtain ⟨_, rfl⟩ := taken
      exact .shutsDown
  | enter =>
      simp only [TimerAction.exec] at taken
      split at taken <;> cases taken <;> exact .runs .looping _ (fun _ => by simp)
  | turn accepted =>
      simp only [TimerAction.exec, Option.ite_none_right_eq_some, Option.some.injEq] at taken
      obtain ⟨looping, rfl⟩ := taken
      exact timerThreadWorker_move looping accepted
  | finish =>
      simp only [TimerAction.exec, Option.ite_none_right_eq_some, Option.some.injEq] at taken
      obtain ⟨_, rfl⟩ := taken
      exact .finishes
  | tick now =>
      simp only [TimerAction.exec, Option.ite_none_right_eq_some, Option.some.injEq] at taken
      obtain ⟨_, rfl⟩ := taken
      exact .ticks now

/-- What becomes of the events that have got into the queue. Their ids differ as long as the counter,
which is an `int`, has not run out of its range. -/
structure EachOnce (s : TimerSystem A) : Prop where
  ids : s.timer.lastEventId < 2 ^ 31 → (s.scheduled.map TimerEvent.id).Nodup
  fates : (s.scheduled : Multiset (TimerEvent A)) =
    s.timer.eventQ + s.dispatched.map Dispatch.event + (s.removed + s.discarded)

structure EventsKnown (s : TimerSystem A) : Prop extends EachOnce s where
  nodup : (s.scheduled.map TimerEvent.id).Nodup
  past : ∀ event ∈ s.scheduled, event.id < s.timer.lastEventId

theorem insertEvent_eq (newEvent : TimerEvent A) (queue : List (TimerEvent A)) :
    insertEvent newEvent queue =
      queue.orderedInsert (fun first second => first.eventTime ≤ second.eventTime) newEvent := by
  induction queue with
  | nil => rfl
  | cons temp rest ih => simp only [insertEvent, List.orderedInsert_cons, ih, ge_iff_le]

theorem insertEvent_perm (newEvent : TimerEvent A) (queue : List (TimerEvent A)) :
    (insertEvent newEvent queue).Perm (newEvent :: queue) := by
  rw [insertEvent_eq]
  exact List.perm_orderedInsert ..

theorem eventsKnown_of {s : TimerSystem A} (nodup : (s.scheduled.map TimerEvent.id).Nodup)
    (fates : (s.scheduled : Multiset (TimerEvent A)) =
      s.timer.eventQ + s.dispatched.map Dispatch.event + (s.removed + s.discarded))
    (past : ∀ event ∈ s.scheduled, event.id < s.timer.lastEventId) : EventsKnown s :=
  ⟨⟨fun _ => nodup, fates⟩, nodup, past⟩

theorem eventsKnown_move {s t : TimerSystem A} (known : EventsKnown s) (move : TimerMove s t) :
    EventsKnown t := by
  obtain ⟨⟨-, fates⟩, ids, past⟩ := known
  cases move with
  | schedules newEvent id =>
      apply eventsKnown_of
      · rw [List.map_append, List.nodup_append]
        refine ⟨ids, List.nodup_singleton _, ?_⟩
        intro before member new member'
        obtain ⟨event, scheduled, rfl⟩ := List.mem_map.mp member
        rw [List.map_singleton, List.mem_singleton, id] at member'
        exact member' ▸ (past event scheduled).ne
      · have inserted := Multiset.coe_eq_coe.mpr (insertEvent_perm newEvent s.timer.eventQ)
        simp only [inserted, ← Multiset.coe_add, fates, ← Multiset.cons_coe,
          ← Multiset.singleton_add]
        abel
      · intro event member
        rcases List.mem_append.mp member with before | new
        · exact (past event before).trans (Int.lt_succ _)
        · rw [List.mem_singleton.mp new, id]
          exact Int.lt_succ _
  | wastes =>
      exact eventsKnown_of ids fates fun event member => (past event member).trans (Int.lt_succ _)
  | removes before after temp queue =>
      refine eventsKnown_of ids ?_ past
      simp only [fates, queue, ← Multiset.coe_add, ← Multiset.cons_coe, ← Multiset.singleton_add]
      abel
  | shutsDown =>
      refine eventsKnown_of ids ?_ past
      simp only [timerThreadShutdown, fates, ← Multiset.coe_add, Multiset.coe_nil]
      abel
  | dispatches nextEvent rest taken _ queue =>
      refine eventsKnown_of ids ?_ past
      simp only [fates, queue, List.map_append, List.map_cons, List.map_nil, ← Multiset.coe_add,
        ← Multiset.cons_coe, ← Multiset.singleton_add]
      abel
  | _ => exact eventsKnown_of ids fates past

theorem eachOnce_throughout (clock : Int) (actions : List (TimerAction A)) :
    Throughout TimerStep EachOnce { clock := clock } actions := by
  have run : Throughout TimerStep EventsKnown { clock := clock } actions := by
    refine throughout_of_invariant (fun s action t known taken => ?_) ?_ actions
    · exact eventsKnown_move known (timerStep_move taken)
    · apply eventsKnown_of <;> simp
  exact run.mono fun _ known => known.toEachOnce

def FirstComes (first second : Dispatch A) : Prop :=
  second.event.id < first.nextId → first.event.eventTime ≤ second.event.eventTime

structure InTime (s : TimerSystem A) : Prop where
  due : ∀ dispatch ∈ s.dispatched, dispatch.event.eventTime ≤ dispatch.currentTime
  order : s.dispatched.Pairwise FirstComes
  -- what still waits was not to be dispatched before
  queue : ∀ dispatch ∈ s.dispatched, ∀ event ∈ s.timer.eventQ,
    event.id < dispatch.nextId → dispatch.event.eventTime ≤ event.eventTime

structure EventsSorted (s : TimerSystem A) : Prop extends InTime s where
  sorted : s.timer.eventQ.Pairwise fun first second => first.eventTime ≤ second.eventTime
  past : ∀ dispatch ∈ s.dispatched, dispatch.nextId ≤ s.timer.lastEventId

theorem eventsSorted_move {s t : TimerSystem A} (known : EventsSorted s) (move : TimerMove s t) :
    EventsSorted t := by
  obtain ⟨⟨due, order, queued⟩, sorted, past⟩ := known
  cases move with
  | schedules newEvent id =>
      refine ⟨⟨due, order, ?_⟩, ?_, ?_⟩
      · intro dispatch member event member' older
        rcases List.mem_cons.mp ((insertEvent_perm newEvent _).subset member') with rfl | before
        · have later := past dispatch member
          omega
        · exact queued dispatch member event before older
      · rw [insertEvent_eq]
        exact sorted.orderedInsert _ _
      · exact fun dispatch member => (past dispatch member).trans (Int.le_add_one le_rfl)
  | wastes =>
      refine ⟨⟨due, order, queued⟩, sorted, fun dispatch member => ?_⟩
      exact (past dispatch member).trans (Int.le_add_one le_rfl)
  | removes before after temp queue =>
      have sublist : (before ++ after).Sublist s.timer.eventQ := by
        rw [queue]
        exact (List.Sublist.refl _).append (List.sublist_cons_self ..)
      refine ⟨⟨due, order, ?_⟩, sorted.sublist sublist, past⟩
      exact fun dispatch member event member' =>
        queued dispatch member event (sublist.subset member')
  | shutsDown =>
      exact ⟨⟨due, order, fun _ _ event member => by cases member⟩, .nil, past⟩
  | dispatches nextEvent rest taken _ queue soon =>
      rw [queue] at sorted queued
      obtain ⟨first, rest'⟩ := List.pairwise_cons.mp sorted
      refine ⟨⟨?_, ?_, ?_⟩, rest', ?_⟩
      · intro dispatch member
        rcases List.mem_append.mp member with before | new
        · exact due dispatch before
        · rw [List.mem_singleton.mp new]
          exact soon
      · rw [List.pairwise_append]
        refine ⟨order, List.pairwise_singleton .., ?_⟩
        intro before member new member' older
        rw [List.mem_singleton.mp member'] at older ⊢
        exact queued before member nextEvent (List.mem_cons_self ..) older
      · intro dispatch member event member' older
        rcases List.mem_append.mp member with before | new
        · exact queued dispatch before event (List.mem_cons_of_mem _ member') older
        · rw [List.mem_singleton.mp new]
          exact first event member'
      · intro dispatch member
        rcases List.mem_append.mp member with before | new
        · exact past dispatch before
        · rw [List.mem_singleton.mp new]
  | _ => exact ⟨⟨due, order, queued⟩, sorted, past⟩

theorem initial_eventsSorted (clock : Int) :
    EventsSorted ({ clock := clock } : TimerSystem A) := by
  constructor
  · constructor <;> simp
  all_goals simp

theorem inTime_throughout (clock : Int) (actions : List (TimerAction A)) :
    Throughout TimerStep InTime { clock := clock } actions := by
  have run : Throughout TimerStep EventsSorted { clock := clock } actions := by
    refine throughout_of_invariant (fun s action t known taken => ?_) ?_ actions
    · exact eventsSorted_move known (timerStep_move taken)
    · exact initial_eventsSorted clock
  exact run.mono fun _ known => known.toInTime

/-- A thread that waits, with no signal on its way, has seen all that there is, and has set its
alarm for the first event or before. -/
def Vigilant (s : TimerSystem A) : Prop :=
  ∀ timeToWait, s.worker = .waiting timeToWait false →
    s.timer.shutdown = false ∧
      ∀ event ∈ s.timer.eventQ, ∃ alarm, timeToWait = some alarm ∧ alarm ≤ event.eventTime

theorem signal_awake (worker : TimerWorker) (timeToWait : Option Int) :
    worker.signal ≠ .waiting timeToWait false := by
  cases worker <;> simp [TimerWorker.signal]

theorem vigilant_move {s t : TimerSystem A} (known : Vigilant s) (ordered : EventsSorted s)
    (move : TimerMove s t) : Vigilant t := by
  cases move with
  | schedules | shutsDown => exact fun timeToWait asleep => absurd asleep (signal_awake _ _)
  | removes before after temp queue =>
      intro timeToWait asleep
      obtain ⟨goesOn, alarms⟩ := known timeToWait asleep
      refine ⟨goesOn, fun event member => alarms event ?_⟩
      rw [queue]
      exact ((List.Sublist.refl _).append (List.sublist_cons_self ..)).subset member
  | runs worker shutdown awake => exact fun timeToWait asleep => absurd asleep (awake timeToWait)
  | dispatches _ _ _ looping => exact fun timeToWait asleep => by simp [looping] at asleep
  | sleeps goesOn =>
      rintro timeToWait ⟨⟩
      refine ⟨goesOn, fun event member => ?_⟩
      have sorted := ordered.sorted
      cases queue : s.timer.eventQ with
      | nil => simp [queue] at member
      | cons first rest =>
          rw [queue] at sorted member
          refine ⟨first.eventTime, rfl, ?_⟩
          rcases List.mem_cons.mp member with rfl | behind
          · exact le_rfl
          · exact (List.pairwise_cons.mp sorted).1 event behind
  | _ => exact known

theorem vigilant_throughout (clock : Int) (actions : List (TimerAction A)) :
    Throughout TimerStep Vigilant { clock := clock } actions := by
  have run : Throughout TimerStep (fun s => EventsSorted s ∧ Vigilant s) { clock := clock }
      actions := by
    refine throughout_of_invariant (fun s action t known taken => ?_) ?_ actions
    · have move := timerStep_move taken
      exact ⟨eventsSorted_move known.1 move, vigilant_move known.2 known.1 move⟩
    · exact ⟨initial_eventsSorted clock, fun timeToWait asleep => by cases asleep⟩
  exact run.mono fun _ known => known.2

end Libdlna
