import Libdlna.Model.ThreadPoolCalls
import Libdlna.Shared.Runs
import Mathlib.Logic.Relation

set_option autoImplicit false

/-!
# What the steps of a thread pool do

The three queues are one waiting line: raising the priority of a job only moves the borders
between them. Every step is a sequence of a few elementary changes, from which the invariants
follow one by one.
-/

namespace Libdlna

variable {A : Type}

def ThreadPool.line (tp : ThreadPool A) : List (ThreadPoolJob A) :=
  tp.highJobQ ++ tp.medJobQ ++ tp.lowJobQ

structure Bumped (tp after : ThreadPool A) (lost : List (ThreadPoolJob A)) : Prop where
  line : (after.line ++ lost).Perm tp.line
  sublist : after.line.Sublist tp.line
  med : ∀ job ∈ after.medJobQ, job ∈ tp.medJobQ ∨ job ∈ tp.lowJobQ
  low : ∀ job ∈ after.lowJobQ, job ∈ tp.lowJobQ
  persistentJob : after.persistentJob = tp.persistentJob
  lastJobId : after.lastJobId = tp.lastJobId
  shutdown : after.shutdown = tp.shutdown
  totalThreads : after.totalThreads = tp.totalThreads
  persistentThreads : after.persistentThreads = tp.persistentThreads
  attr : after.attr = tp.attr
  idleThreads : after.stats.idleThreads = tp.stats.idleThreads
  workerThreads : after.stats.workerThreads = tp.stats.workerThreads

theorem Bumped.refl (tp : ThreadPool A) : Bumped tp tp [] where
  line := .of_eq (List.append_nil _)
  sublist := .refl _
  med _ member := .inl member
  low _ member := member
  persistentJob := rfl
  lastJobId := rfl
  shutdown := rfl
  totalThreads := rfl
  persistentThreads := rfl
  attr := rfl
  idleThreads := rfl
  workerThreads := rfl

theorem Bumped.trans {tp mid after : ThreadPool A} {lost more : List (ThreadPoolJob A)}
    (first : Bumped tp mid lost) (second : Bumped mid after more) :
    Bumped tp after (lost ++ more) where
  line := by
    have swapped : (after.line ++ (lost ++ more)).Perm (after.line ++ more ++ lost) := by
      rw [List.append_assoc]
      exact List.perm_append_comm.append_left _
    exact swapped.trans ((second.line.append_right lost).trans first.line)
  sublist := second.sublist.trans first.sublist
  med job member := by
    rcases second.med job member with fromMed | fromLow
    · exact first.med job fromMed
    · exact .inr (first.low job fromLow)
  low job member := first.low job (second.low job member)
  persistentJob := second.persistentJob.trans first.persistentJob
  lastJobId := second.lastJobId.trans first.lastJobId
  shutdown := second.shutdown.trans first.shutdown
  totalThreads := second.totalThreads.trans first.totalThreads
  persistentThreads := second.persistentThreads.trans first.persistentThreads
  attr := second.attr.trans first.attr
  idleThreads := second.idleThreads.trans first.idleThreads
  workerThreads := second.workerThreads.trans first.workerThreads

namespace ThreadPool

theorem bumpOne_cases {tp after : ThreadPool A} {now : Timeval} {node : Bool}
    {lost : List (ThreadPoolJob A)} (turn : tp.bumpOne now node = some (after, lost)) :
    (∃ tempJob rest, tp.medJobQ = tempJob :: rest ∧ tp.starvedMed now tempJob = true ∧
      lost = (if node then [] else [tempJob]) ∧
      after = { tp.statsAccountMQ (diffMillis now tempJob.requestTime) with
        medJobQ := rest, highJobQ := listAddTail tp.highJobQ tempJob node }) ∨
    (∃ tempJob rest, tp.lowJobQ = tempJob :: rest ∧ tp.starvedLow now tempJob = true ∧
      (∀ first ∈ tp.medJobQ.head?, tp.starvedMed now first = false) ∧
      lost = (if node then [] else [tempJob]) ∧
      after = { tp.statsAccountLQ (diffMillis now tempJob.requestTime) with
        lowJobQ := rest, medJobQ := listAddTail tp.medJobQ tempJob node }) := by
  unfold bumpOne at turn
  cases med : tp.medJobQ with
  | nil =>
      cases low : tp.lowJobQ with
      | nil => simp [med, low] at turn
      | cons tempJob rest =>
          simp only [med, low, Option.ite_none_right_eq_some, Option.some.injEq,
            Prod.mk.injEq] at turn
          exact .inr ⟨tempJob, rest, rfl, turn.1, by simp, turn.2.2.symm, turn.2.1.symm⟩
  | cons first others =>
      by_cases starved : tp.starvedMed now first = true
      · simp only [med, starved, if_true, Option.some.injEq, Prod.mk.injEq] at turn
        exact .inl ⟨first, others, rfl, starved, turn.2.symm, turn.1.symm⟩
      · cases low : tp.lowJobQ with
        | nil => simp [med, low, starved] at turn
        | cons tempJob rest =>
            simp only [med, low, starved, Bool.false_eq_true, if_false,
              Option.ite_none_right_eq_some, Option.some.injEq, Prod.mk.injEq] at turn
            exact .inr ⟨tempJob, rest, rfl, turn.1, by simpa using starved, turn.2.2.symm,
              turn.2.1.symm⟩

theorem listAddTail_perm (front back : List (ThreadPoolJob A)) (job : ThreadPoolJob A)
    (node : Bool) :
    (listAddTail front job node ++ back ++ if node then [] else [job]).Perm
        (front ++ job :: back) ∧
      (listAddTail front job node ++ back).Sublist (front ++ job :: back) := by
  cases node with
  | true => simp [listAddTail]
  | false =>
      simp only [listAddTail, Bool.false_eq_true, if_false]
      constructor
      · rw [List.append_assoc]
        exact (List.perm_append_singleton job back).append_left front
      · exact (List.Sublist.refl _).append (List.sublist_cons_self ..)

theorem mem_listAddTail {queue : List (ThreadPoolJob A)} {item job : ThreadPoolJob A} {node : Bool}
    (member : job ∈ listAddTail queue item node) : job ∈ queue ∨ job = item := by
  unfold listAddTail at member
  split at member
  · exact (List.mem_append.mp member).imp_right List.mem_singleton.mp
  · exact .inl member

theorem append_listAddTail (front queue : List (ThreadPoolJob A)) (job : ThreadPoolJob A)
    (node : Bool) : front ++ listAddTail queue job node = listAddTail (front ++ queue) job node := by
  unfold listAddTail
  split
  · rw [List.append_assoc]
  · rfl

theorem bumpOne_bumped {tp after : ThreadPool A} {now : Timeval} {node : Bool}
    {lost : List (ThreadPoolJob A)} (turn : tp.bumpOne now node = some (after, lost)) :
    Bumped tp after lost := by
  rcases bumpOne_cases turn with ⟨job, rest, queued, _, rfl, rfl⟩ |
    ⟨job, rest, queued, _, _, rfl, rfl⟩
  · obtain ⟨perm, sublist⟩ := listAddTail_perm tp.highJobQ (rest ++ tp.lowJobQ) job node
    constructor <;> try rfl
    case line =>
      simpa only [ThreadPool.line, statsAccountMQ, queued, List.append_assoc,
        List.cons_append] using perm
    case sublist =>
      simpa only [ThreadPool.line, statsAccountMQ, queued, List.append_assoc,
        List.cons_append] using sublist
    case med =>
      intro other member
      exact .inl (queued ▸ List.mem_cons_of_mem _ member)
    case low => exact fun _ member => member
  · obtain ⟨perm, sublist⟩ := listAddTail_perm (tp.highJobQ ++ tp.medJobQ) rest job node
    constructor <;> try rfl
    case line =>
      simpa only [ThreadPool.line, statsAccountLQ, queued, append_listAddTail] using perm
    case sublist =>
      simpa only [ThreadPool.line, statsAccountLQ, queued, append_listAddTail] using sublist
    case med =>
      intro other member
      rcases mem_listAddTail member with before | rfl
      · exact .inl before
      · exact .inr (queued ▸ List.mem_cons_self)
    case low =>
      intro other member
      exact queued ▸ List.mem_cons_of_mem _ member

theorem bumpTurns_bumped (now : Timeval) (turns : Nat) (nodes : List Bool) (tp : ThreadPool A) :
    Bumped tp (bumpTurns now turns nodes tp).1 (bumpTurns now turns nodes tp).2 := by
  induction turns generalizing nodes tp with
  | zero => exact .refl tp
  | succ turns ih =>
      cases turn : tp.bumpOne now (nodes.headD true) with
      | none =>
          simp only [bumpTurns, turn]
          exact .refl tp
      | some moved =>
          simp only [bumpTurns, turn]
          exact (bumpOne_bumped turn).trans (ih nodes.tail moved.1)

theorem bumpPriority_bumped (tp : ThreadPool A) (now : Timeval) (nodes : List Bool) :
    Bumped tp (tp.bumpPriority now nodes).1 (tp.bumpPriority now nodes).2 :=
  bumpTurns_bumped now _ nodes tp

def raised (tp : ThreadPool A) (now : Timeval) : List (ThreadPoolJob A) :=
  tp.lowJobQ.takeWhile (tp.starvedLow now)

/-- How many nodes it takes to put all the starved jobs into their new queues. -/
def starving (tp : ThreadPool A) (now : Timeval) : Nat :=
  (tp.raised now).length + ((tp.medJobQ ++ tp.raised now).takeWhile (tp.starvedMed now)).length

/-- What the loop has made of the queues, and when it has lost nothing. -/
structure RaisedFrom (tp : ThreadPool A) (now : Timeval) (nodes : List Bool)
    (after : ThreadPool A) (lost : List (ThreadPoolJob A)) : Prop where
  lowJobQ : after.lowJobQ = tp.lowJobQ.dropWhile (tp.starvedLow now)
  kept : lost = [] ↔ ∀ k < tp.starving now, nodes.getD k true = true
  medJobQ : lost = [] →
    after.medJobQ = (tp.medJobQ ++ tp.raised now).dropWhile (tp.starvedMed now)
  highJobQ : lost = [] → after.highJobQ =
    tp.highJobQ ++ (tp.medJobQ ++ tp.raised now).takeWhile (tp.starvedMed now)

theorem bumpOne_none {tp : ThreadPool A} {now : Timeval} {node : Bool}
    (done : tp.bumpOne now node = none) :
    (∀ job ∈ tp.medJobQ.head?, tp.starvedMed now job = false) ∧
      (∀ job ∈ tp.lowJobQ.head?, tp.starvedLow now job = false) := by
  unfold bumpOne at done
  cases med : tp.medJobQ with
  | nil =>
      cases low : tp.lowJobQ with
      | nil => simp
      | cons job rest => simpa [med, low] using done
  | cons first others =>
      by_cases starved : tp.starvedMed now first = true
      · simp [med, starved] at done
      · cases low : tp.lowJobQ with
        | nil => simpa using starved
        | cons job rest => simpa [med, low, starved] using done

theorem RaisedFrom.done {tp : ThreadPool A} {now : Timeval} {nodes : List Bool}
    (done : tp.bumpOne now (nodes.headD true) = none) : RaisedFrom tp now nodes tp [] := by
  obtain ⟨med, low⟩ := bumpOne_none done
  have stays : ∀ {p : ThreadPoolJob A → Bool} {queue : List (ThreadPoolJob A)},
      (∀ job ∈ queue.head?, p job = false) → queue.takeWhile p = [] ∧ queue.dropWhile p = queue := by
    intro p queue fresh
    cases queue with
    | nil => exact ⟨rfl, rfl⟩
    | cons job rest => simp [fresh job rfl]
  constructor <;> simp [raised, starving, stays med, stays low]

theorem nodes_succ (nodes : List Bool) (n : Nat) :
    (∀ k < n + 1, nodes.getD k true = true) ↔
      nodes.headD true = true ∧ ∀ k < n, nodes.tail.getD k true = true := by
  cases nodes with
  | nil => simp
  | cons node rest =>
      constructor
      · exact fun all => ⟨all 0 n.succ_pos, fun k less => all (k + 1) (Nat.succ_lt_succ less)⟩
      · rintro ⟨first, others⟩ (_ | k) less
        · exact first
        · exact others k (Nat.lt_of_succ_lt_succ less)

theorem RaisedFrom.lossy {tp after : ThreadPool A} {now : Timeval} {nodes : List Bool}
    {lost : List (ThreadPoolJob A)}
    (low : after.lowJobQ = tp.lowJobQ.dropWhile (tp.starvedLow now))
    (missing : ¬ ∀ k < tp.starving now, nodes.getD k true = true) (some : lost ≠ []) :
    RaisedFrom tp now nodes after lost where
  lowJobQ := low
  kept := iff_of_false some missing
  medJobQ none := absurd none some
  highJobQ none := absurd none some

theorem RaisedFrom.turn {tp mid after : ThreadPool A} {now : Timeval} {nodes : List Bool}
    {first more : List (ThreadPoolJob A)}
    (turn : tp.bumpOne now (nodes.headD true) = some (mid, first))
    (later : RaisedFrom mid now nodes.tail after more) :
    RaisedFrom tp now nodes after (first ++ more) := by
  obtain ⟨low, kept, med, high⟩ := later
  rcases bumpOne_cases turn with ⟨job, rest, queued, starved, isFirst, rfl⟩ |
    ⟨job, rest, queued, starved, _, isFirst, rfl⟩
  -- from the medium queue to the high one
  · have count : tp.starving now =
        ((tp.raised now).length + ((rest ++ tp.raised now).takeWhile (tp.starvedMed now)).length) +
          1 := by
      rw [starving, queued, List.cons_append, List.takeWhile_cons_of_pos starved, List.length_cons,
        Nat.add_assoc]
    cases node : nodes.headD true with
    | false =>
        have missing : ¬ ∀ k < tp.starving now, nodes.getD k true = true := by
          rw [count, nodes_succ, node]
          simp
        rw [isFirst, node]
        exact .lossy low missing (List.cons_ne_nil job more)
    | true =>
        rw [node] at isFirst low kept med high
        obtain rfl : first = [] := isFirst
        refine ⟨low, ?_, fun none => ?_, fun none => ?_⟩
        · rw [count, nodes_succ, node, List.nil_append, kept]
          exact (and_iff_right rfl).symm
        · rw [med none, queued, List.cons_append, List.dropWhile_cons_of_pos starved]
          rfl
        · rw [high none, queued, List.cons_append, List.takeWhile_cons_of_pos starved]
          exact List.append_assoc _ [job] _
  -- from the low queue to the medium one
  · have raises : tp.raised now = job :: rest.takeWhile (tp.starvedLow now) := by
      rw [raised, queued, List.takeWhile_cons_of_pos starved]
    have lower : after.lowJobQ = tp.lowJobQ.dropWhile (tp.starvedLow now) := by
      rw [low, queued, List.dropWhile_cons_of_pos starved]
      rfl
    have joined : tp.medJobQ ++ tp.raised now =
        tp.medJobQ ++ [job] ++ rest.takeWhile (tp.starvedLow now) := by
      rw [raises, List.append_assoc, List.singleton_append]
    have count : tp.starving now = ((rest.takeWhile (tp.starvedLow now)).length +
        ((tp.medJobQ ++ [job] ++ rest.takeWhile (tp.starvedLow now)).takeWhile
          (tp.starvedMed now)).length) + 1 := by
      rw [starving, joined, raises, List.length_cons]
      omega
    cases node : nodes.headD true with
    | false =>
        have missing : ¬ ∀ k < tp.starving now, nodes.getD k true = true := by
          rw [count, nodes_succ, node]
          simp
        rw [isFirst, node]
        exact .lossy lower missing (List.cons_ne_nil job more)
    | true =>
        rw [node] at isFirst kept med high
        obtain rfl : first = [] := isFirst
        refine ⟨lower, ?_, fun none => ?_, fun none => ?_⟩
        · rw [count, nodes_succ, node, List.nil_append, kept]
          exact (and_iff_right rfl).symm
        · rw [joined]
          exact med none
        · rw [joined]
          exact high none

theorem bumpOne_decreases {tp after : ThreadPool A} {now : Timeval} {node : Bool}
    {lost : List (ThreadPoolJob A)} (turn : tp.bumpOne now node = some (after, lost)) :
    2 * after.lowJobQ.length + after.medJobQ.length <
      2 * tp.lowJobQ.length + tp.medJobQ.length := by
  have longer (queue : List (ThreadPoolJob A)) (job : ThreadPoolJob A) :
      (listAddTail queue job node).length ≤ queue.length + 1 := by
    unfold listAddTail
    split <;> simp
  rcases bumpOne_cases turn with ⟨job, rest, queued, _, _, rfl⟩ | ⟨job, rest, queued, _, _, _, rfl⟩
  · simp [queued, statsAccountMQ]
  · have more := longer tp.medJobQ job
    simp only [queued, List.length_cons]
    omega

theorem bumpTurns_raisedFrom (now : Timeval) (turns : Nat) (nodes : List Bool)
    (tp : ThreadPool A) (enough : 2 * tp.lowJobQ.length + tp.medJobQ.length ≤ turns) :
    RaisedFrom tp now nodes (bumpTurns now turns nodes tp).1 (bumpTurns now turns nodes tp).2 := by
  induction turns generalizing nodes tp with
  | zero =>
      apply RaisedFrom.done
      cases turn : tp.bumpOne now (nodes.headD true) with
      | none => rfl
      | some moved => exact absurd (bumpOne_decreases turn) (by omega)
  | succ turns ih =>
      cases turn : tp.bumpOne now (nodes.headD true) with
      | none =>
          simp only [bumpTurns, turn]
          exact .done turn
      | some moved =>
          simp only [bumpTurns, turn]
          have fewer := bumpOne_decreases turn
          exact .turn turn (ih nodes.tail moved.1 (by omega))

/-- The loop of `BumpPriority` in closed form. -/
theorem bumpPriority_raisedFrom (tp : ThreadPool A) (now : Timeval) (nodes : List Bool) :
    RaisedFrom tp now nodes (tp.bumpPriority now nodes).1 (tp.bumpPriority now nodes).2 :=
  bumpTurns_raisedFrom now _ nodes tp (Nat.le_refl _)

end ThreadPool

namespace WorkerThread

@[simp] def counted : WorkerThread A → Bool
  | .created => false
  | _ => true

@[simp] def isIdle : WorkerThread A → Bool
  | .idle => true
  | _ => false

@[simp] def runsPersistent : WorkerThread A → Bool
  | .running _ persistent => persistent
  | _ => false

@[simp] def runsShort : WorkerThread A → Bool
  | .running _ persistent => !persistent
  | _ => false

@[simp] def jobs : WorkerThread A → List (ThreadPoolJob A)
  | .running job _ => [job]
  | _ => []

end WorkerThread

attribute [simp] WorkerFate.picked WorkerFate.threads

@[simp] def WorkerFate.pickedPersistent : WorkerFate A → List (ThreadPoolJob A)
  | .runs job true => [job]
  | _ => []

structure Looked (tp after : ThreadPool A) (fate : WorkerFate A)
    (lost : List (ThreadPoolJob A)) : Prop where
  line : (fate.picked ++ after.line ++ lost).Perm tp.line
  sublist : (fate.picked ++ after.line).Sublist tp.line
  slot : tp.persistentJob.toList = fate.pickedPersistent ++ after.persistentJob.toList
  med : ∀ job ∈ after.medJobQ, job ∈ tp.medJobQ ∨ job ∈ tp.lowJobQ
  low : ∀ job ∈ after.lowJobQ, job ∈ tp.lowJobQ
  lastJobId : after.lastJobId = tp.lastJobId
  shutdown : after.shutdown = tp.shutdown
  attr : after.attr = tp.attr
  totalThreads : after.totalThreads + 1 = tp.totalThreads + fate.threads.countP WorkerThread.counted
  persistentThreads :
    after.persistentThreads = tp.persistentThreads + fate.threads.countP WorkerThread.runsPersistent
  idleThreads : after.stats.idleThreads + 1 =
    tp.stats.idleThreads + fate.threads.countP WorkerThread.isIdle
  workerThreads : after.stats.workerThreads =
    tp.stats.workerThreads + fate.threads.countP WorkerThread.runsShort

namespace ThreadPool

-- the last case is the one with `assert( 0 )`: all that waited has been lost
theorem pickJob_looked (tp : ThreadPool A) (now : Timeval) :
    Looked { tp with stats.idleThreads := tp.stats.idleThreads + 1 }
      (tp.pickJob now).1 (tp.pickJob now).2 [] := by
  obtain ⟨_, _, _, _, low, med, high, slot, _, _⟩ := tp
  cases slot with
  | some job =>
      constructor <;> simp +contextual [pickJob, line]
  | none =>
      cases high with
      | cons job rest =>
          constructor <;> simp +contextual [pickJob, line, calcWaitTime, statsAccountHQ]
      | nil =>
          cases med with
          | cons job rest =>
              constructor <;> simp +contextual [pickJob, line, calcWaitTime, statsAccountMQ]
          | nil =>
              cases low with
              | cons job rest =>
                  constructor <;> simp +contextual [pickJob, line, calcWaitTime, statsAccountLQ]
              | nil => constructor <;> simp [pickJob, line]

theorem workerGoes_looked (tp : ThreadPool A) (now : Timeval) :
    Looked { tp with stats.idleThreads := tp.stats.idleThreads + 1 }
      (tp.workerGoes now).1 (tp.workerGoes now).2 [] := by
  unfold workerGoes
  split
  next => constructor <;> simp +contextual [line]
  next => exact pickJob_looked tp now

end ThreadPool

theorem Looked.of_bumped {tp mid after : ThreadPool A} {fate : WorkerFate A}
    {lost : List (ThreadPoolJob A)} (bumped : Bumped tp.leavesIdle mid lost)
    (looked : Looked { mid with stats.idleThreads := mid.stats.idleThreads + 1 } after fate []) :
    Looked tp after fate lost where
  line := by
    have kept := looked.line
    rw [List.append_nil] at kept
    exact (kept.append_right lost).trans bumped.line
  sublist := looked.sublist.trans bumped.sublist
  slot := (congrArg Option.toList bumped.persistentJob.symm).trans looked.slot
  med job member := by
    rcases looked.med job member with fromMed | fromLow
    · exact bumped.med job fromMed
    · exact .inr (bumped.low job fromLow)
  low job member := bumped.low job (looked.low job member)
  lastJobId := looked.lastJobId.trans bumped.lastJobId
  shutdown := looked.shutdown.trans bumped.shutdown
  attr := looked.attr.trans bumped.attr
  totalThreads := looked.totalThreads.trans (congrArg (· + _) bumped.totalThreads)
  persistentThreads := looked.persistentThreads.trans (congrArg (· + _) bumped.persistentThreads)
  idleThreads := by
    have counted := looked.idleThreads
    have before := bumped.idleThreads
    simp only [ThreadPool.leavesIdle] at counted before
    omega
  workerThreads := looked.workerThreads.trans (congrArg (· + _) bumped.workerThreads)

theorem ThreadPool.workerLooks_looked (tp : ThreadPool A) (timedOut : Bool) (now : Timeval)
    (nodes : List Bool) :
    Looked tp (tp.workerLooks timedOut now nodes).1.1 (tp.workerLooks timedOut now nodes).1.2
      (tp.workerLooks timedOut now nodes).2 := by
  unfold ThreadPool.workerLooks
  by_cases idle : tp.nothingToDo = true
  · rw [if_pos idle]
    split
    · constructor <;> simp +contextual [ThreadPool.line]
    · constructor <;> simp +contextual
  · rw [if_neg idle]
    have bumped := tp.leavesIdle.bumpPriority_bumped now nodes
    exact .of_bumped bumped (ThreadPool.workerGoes_looked _ now)

theorem ThreadPool.workerLooks_lost_iff (tp : ThreadPool A) (timedOut : Bool) (now : Timeval)
    (nodes : List Bool) : (tp.workerLooks timedOut now nodes).2 = [] ↔
      ∀ k < tp.starving now, nodes.getD k true = true := by
  unfold ThreadPool.workerLooks
  by_cases idle : tp.nothingToDo = true
  · have nobody : tp.starving now = 0 := by
      simp only [ThreadPool.nothingToDo, Bool.and_eq_true, List.isEmpty_iff] at idle
      obtain ⟨⟨⟨⟨low, med⟩, -⟩, -⟩, -⟩ := idle
      simp [ThreadPool.starving, ThreadPool.raised, low, med]
    rw [if_pos idle, nobody]
    split <;> simp
  · rw [if_neg idle]
    exact (tp.leavesIdle.bumpPriority_raisedFrom now nodes).kept

namespace PoolSystem

def isScheduling : PoolCall A → Bool
  | .scheduling _ => true
  | _ => false

def Stopping (s : PoolSystem A) : Prop :=
  ∀ rc, .stopping rc ∈ s.calls → s.tp.shutdown = true

def schedulings (s : PoolSystem A) : Nat := s.calls.countP isScheduling

end PoolSystem

open PoolSystem Relation Runs

inductive PoolChange (s : PoolSystem A) : PoolSystem A → Prop where
  | calls (calls : List (PoolCall A))
      (stops : ∀ rc, .stopping rc ∈ calls → .stopping rc ∈ s.calls ∨ s.tp.shutdown = true) :
      PoolChange s { s with calls := calls }
  | notes (n : Int) : PoolChange s { s with tp.stats.maxThreads := n }
  | creates : PoolChange s { s with threads := s.threads ++ [.created] }
  | answers (temp : ThreadPoolJob A) (queued : Bool) : PoolChange s (s.answer temp queued)
  | enqueues (temp : ThreadPoolJob A) (opened : s.tp.shutdown = false)
      (stamped : temp.requestTime = s.clock) : PoolChange s (s.enqueue temp)
  | schedules (temp : ThreadPoolJob A) : PoolChange s (s.scheduled temp)
  | removes (jobId : Int) : PoolChange s (s.threadPoolRemove jobId).1
  | discards : PoolChange s s.discardJobs
  | destroys (shut : s.tp.shutdown = true) (gone : s.tp.totalThreads ≤ 0) :
      PoolChange s { s with destroyed := true }
  | starts (i : Nat) (alive : s.destroyed = false) (standing : s.threads[i]? = some .created) :
      PoolChange s { s with
        tp.totalThreads := s.tp.totalThreads + 1
        threads := Places.replace i [.started] s.threads }
  | returns (i : Nat) (thread : WorkerThread A) (standing : s.threads[i]? = some thread)
      {t : PoolSystem A} (returned : s.returnsToLoop i thread = some t) : PoolChange s t
  | looks (i : Nat) (timedOut : Bool) (nodes : List Bool)
      (standing : s.threads[i]? = some .idle) : PoolChange s (s.look i timedOut nodes)
  | ticks (now : Timeval) (later : s.clock.micros ≤ now.micros) :
      PoolChange s { s with clock := now }

abbrev PoolChanges (s t : PoolSystem A) : Prop := ReflTransGen PoolChange s t

structure Frame (s u : PoolSystem A) : Prop where
  calls : u.calls = s.calls
  lost : u.lost = s.lost

theorem Frame.refl (s : PoolSystem A) : Frame s s := ⟨rfl, rfl⟩

theorem Frame.trans {s u v : PoolSystem A} (first : Frame s u) (second : Frame u v) : Frame s v :=
  ⟨second.calls.trans first.calls, second.lost.trans first.lost⟩

structure Ordinary (s : PoolSystem A) (ended : PoolSystem A × CallEnd A) : Prop where
  changes : PoolChanges s ended.1
  frame : Frame s ended.1
  waits : ∀ call, ended.2 = .waits call → isScheduling call = false ∧
    ∀ rc, call = .stopping rc → ended.1.tp.shutdown = true

theorem Ordinary.after {s u : PoolSystem A} {ended : PoolSystem A × CallEnd A}
    (changes : PoolChanges s u) (frame : Frame s u) (later : Ordinary u ended) :
    Ordinary s ended where
  changes := changes.trans later.changes
  frame := frame.trans later.frame
  waits := later.waits

theorem Ordinary.returns {s u : PoolSystem A} (changes : PoolChanges s u)
    (frame : Frame s u) (rc : Int) : Ordinary s (u, .returns rc) where
  changes := changes
  frame := frame
  waits _ same := by cases same

theorem Ordinary.waiting {s u : PoolSystem A} (changes : PoolChanges s u)
    (frame : Frame s u) {call : PoolCall A} (other : isScheduling call = false)
    (stops : ∀ rc, call = .stopping rc → u.tp.shutdown = true) :
    Ordinary s (u, .waits call) where
  changes := changes
  frame := frame
  waits := by
    rintro _ ⟨⟩
    exact ⟨other, stops⟩

namespace PoolSystem

theorem noteThreads_changes (s : PoolSystem A) : PoolChanges s s.noteThreads := by
  unfold noteThreads
  split
  · exact .single (.notes _)
  · exact .refl

theorem noteThreads_frame (s : PoolSystem A) : Frame s s.noteThreads := by
  unfold noteThreads
  split <;> exact ⟨rfl, rfl⟩

theorem createWorker_cases (s : PoolSystem A) (supply : Supply) :
    s.createWorker supply = (s, .error emaxthreads) ∨
    s.createWorker supply = (s.noteThreads, .error eagain) ∨
    s.createWorker supply =
      ({ s with threads := s.threads ++ [.created] }, .ok (s.tp.totalThreads + 1)) := by
  simp only [createWorker]
  split_ifs
  · exact .inl rfl
  · exact .inr (.inr rfl)
  · exact .inr (.inl rfl)

theorem createWorker_changes (s : PoolSystem A) (supply : Supply) :
    PoolChanges s (s.createWorker supply).1 ∧ Frame s (s.createWorker supply).1 := by
  rcases createWorker_cases s supply with full | failed | made
  · rw [full]
    exact ⟨.refl, .refl s⟩
  · rw [failed]
    exact ⟨noteThreads_changes s, noteThreads_frame s⟩
  · rw [made]
    exact ⟨.single .creates, ⟨rfl, rfl⟩⟩

theorem addWorker_ordinary (s : PoolSystem A) (temp : ThreadPoolJob A) (queued : Bool)
    (jobs threads : Int) (supply : Supply) :
    Ordinary s (s.addWorker temp queued jobs threads supply) := by
  unfold addWorker
  split
  next =>
    obtain ⟨changes, frame⟩ := createWorker_changes s supply
    generalize s.createWorker supply = made at changes frame ⊢
    obtain ⟨u, _ | currentThreads⟩ := made
    · exact .returns (changes.tail (.answers temp queued)) (frame.trans ⟨rfl, rfl⟩) _
    · exact .waiting changes frame rfl (fun _ other => by cases other)
  next => exact .returns (.single (.answers temp queued)) ⟨rfl, rfl⟩ _

theorem createThreadPoolJob_stamped {s : PoolSystem A} {job temp : ThreadPoolJob A}
    {supply : Supply} (made : s.createThreadPoolJob job supply = some temp) :
    temp.requestTime = s.clock ∧ temp.jobId = s.tp.lastJobId ∧ temp.priority = job.priority := by
  unfold createThreadPoolJob at made
  split at made
  · cases made
    exact ⟨rfl, rfl, rfl⟩
  · cases made

theorem enqueue_frame (s : PoolSystem A) (temp : ThreadPoolJob A) : Frame s (s.enqueue temp) := by
  unfold enqueue
  split <;> exact ⟨rfl, rfl⟩

theorem threadPoolAdd_ordinary {s : PoolSystem A} (opened : s.tp.shutdown = false)
    (job : ThreadPoolJob A) (supply : Supply) : Ordinary s (s.threadPoolAdd job supply) := by
  unfold threadPoolAdd
  split
  · exact .returns .refl (.refl s) _
  cases made : s.createThreadPoolJob job supply with
  | none => exact .returns .refl (.refl s) _
  | some temp =>
      cases supply.node with
      | true =>
          apply Ordinary.after (.single (.enqueues temp opened (createThreadPoolJob_stamped made).1))
          · exact enqueue_frame s temp
          · exact addWorker_ordinary ..
      | false => exact addWorker_ordinary ..

theorem threadPoolRemove_eq (s : PoolSystem A) (jobId : Int) :
    ∃ high med low slot removed, (s.threadPoolRemove jobId).1 =
        { s with
          tp.highJobQ := high
          tp.medJobQ := med
          tp.lowJobQ := low
          tp.persistentJob := slot
          removed := removed } ∧
      high.Sublist s.tp.highJobQ ∧ med.Sublist s.tp.medJobQ ∧ low.Sublist s.tp.lowJobQ := by
  have same : ∀ queue : List (ThreadPoolJob A), queue.Sublist queue := List.Sublist.refl
  have shorter : ∀ queue : List (ThreadPoolJob A), (listDelNode queue jobId).Sublist queue :=
    fun _ => List.eraseP_sublist
  unfold threadPoolRemove
  split
  next => exact ⟨_, _, _, _, _, rfl, shorter _, same _, same _⟩
  next => exact ⟨_, _, _, _, _, rfl, same _, shorter _, same _⟩
  next => exact ⟨_, _, _, _, _, rfl, same _, same _, shorter _⟩
  next => split <;> exact ⟨_, _, _, _, _, rfl, same _, same _, same _⟩
  next => exact ⟨_, _, _, _, _, rfl, same _, same _, same _⟩

theorem finishShutdown_ordinary {s : PoolSystem A} (shut : s.tp.shutdown = true) (rc : Int) :
    Ordinary s (s.finishShutdown rc) := by
  unfold finishShutdown
  split
  next => exact .waiting .refl (.refl s) rfl (fun _ _ => shut)
  next gone => exact .returns (.single (.destroys shut (Int.not_lt.mp gone))) ⟨rfl, rfl⟩ rc

theorem threadPoolShutdown_ordinary (s : PoolSystem A) (rc : Int) :
    Ordinary s (s.threadPoolShutdown rc) :=
  .after (.single .discards) ⟨rfl, rfl⟩ (finishShutdown_ordinary rfl rc)

theorem initWorkers_ordinary (s : PoolSystem A) (i : Int) (supply : Supply) :
    Ordinary s (s.initWorkers i supply) := by
  unfold initWorkers
  split
  next =>
    obtain ⟨changes, frame⟩ := createWorker_changes s supply
    generalize s.createWorker supply = made at changes frame ⊢
    obtain ⟨u, _ | currentThreads⟩ := made <;>
      exact .waiting changes frame rfl (fun _ other => by cases other)
  next => exact .returns .refl (.refl s) 0

theorem settle_changes {s : PoolSystem A} {ended : PoolSystem A × CallEnd A}
    (ordinary : Ordinary s ended) : PoolChanges s (settle ended) := by
  obtain ⟨u, _ | call⟩ := ended
  · exact ordinary.changes
  · refine ordinary.changes.tail (.calls _ fun rc member => ?_)
    rcases List.mem_append.mp member with before | new
    · exact .inl before
    · exact .inr ((ordinary.waits call rfl).2 rc (List.mem_singleton.mp new).symm)

theorem settle_schedulings {s : PoolSystem A} {ended : PoolSystem A × CallEnd A}
    (ordinary : Ordinary s ended) : (settle ended).schedulings = s.schedulings := by
  obtain ⟨u, _ | call⟩ := ended
  · exact congrArg (List.countP isScheduling) ordinary.frame.calls
  · have same : u.calls = s.calls := ordinary.frame.calls
    have other := (ordinary.waits call rfl).1
    simp [settle, schedulings, same, other]

theorem settle_lost (ended : PoolSystem A × CallEnd A) : (settle ended).lost = ended.1.lost := by
  obtain ⟨u, _ | call⟩ := ended <;> rfl

theorem schedule_cases (s : PoolSystem A) (job : ThreadPoolJob A) (supply : Supply) :
    s.schedule job supply = (s, .returns eoutofmem) ∨
    ∃ temp : ThreadPoolJob A, temp.jobId = s.tp.lastJobId ∧
      s.schedule job supply = (s.scheduled temp, .waits (.scheduling temp)) := by
  cases made : s.createThreadPoolJob job supply with
  | none =>
      left
      simp only [schedule, made]
  | some temp =>
      right
      refine ⟨temp, (createThreadPoolJob_stamped made).2.1, ?_⟩
      simp only [schedule, made]

theorem threadPoolAddPersistent_cases (s : PoolSystem A) (job : ThreadPoolJob A)
    (supply : Supply) :
    s.threadPoolAddPersistent job supply = (s, .returns emaxthreads) ∨
    s.threadPoolAddPersistent job supply = ({ s with threads := s.threads ++ [.created] },
      .waits (.creating (s.tp.totalThreads + 1) (.addPersistent job))) ∨
    ∃ u, (u = s ∨ u = s.noteThreads) ∧
      s.threadPoolAddPersistent job supply = u.schedule job supply := by
  unfold threadPoolAddPersistent
  split
  next =>
    rcases createWorker_cases s supply with full | failed | made
    · exact .inr (.inr ⟨s, .inl rfl, by rw [full]⟩)
    · exact .inr (.inr ⟨_, .inr rfl, by rw [failed]⟩)
    · exact .inr (.inl (by rw [made]))
  next =>
    split
    · exact .inl rfl
    · exact .inr (.inr ⟨s, .inl rfl, rfl⟩)

theorem resume_cases (s : PoolSystem A) (supply : Supply) {call : PoolCall A}
    (stops : ∀ rc, call = .stopping rc → s.tp.shutdown = true) :
    Ordinary s (s.resume supply call) ∨ s.resume supply call = (s, .waits call) ∨
    isScheduling call = false ∧ ∃ job, s.resume supply call = s.noteThreads.schedule job supply := by
  cases call with
  | creating currentThreads next =>
      by_cases fewer : s.tp.totalThreads < currentThreads
      · exact .inr (.inl (if_pos fewer))
      simp only [resume, if_neg fewer]
      have noted := noteThreads_changes s
      have frame := noteThreads_frame s
      cases next with
      | init i => exact .inl (.after noted frame (initWorkers_ordinary ..))
      | add temp queued jobs threads => exact .inl (.after noted frame (addWorker_ordinary ..))
      | addPersistent job => exact .inr (.inr ⟨rfl, job, rfl⟩)
  | scheduling temp =>
      cases slot : s.tp.persistentJob with
      | some waiting =>
          right; left
          simp only [resume, slot]
      | none =>
          left
          simp only [resume, slot]
          exact .returns (.single (.answers temp true)) ⟨rfl, rfl⟩ 0
  | failing rc => exact .inl (threadPoolShutdown_ordinary s rc)
  | stopping rc => exact .inl (finishShutdown_ordinary (stops rc rfl) rc)

end PoolSystem

/-- A call begins to wait for its long term job only when no other one stands in the slot. -/
def FindsSlotFree (s : PoolSystem A) (_ : PoolAction A) (t : PoolSystem A) : Prop :=
  s.schedulings < t.schedulings → s.tp.persistentJob = none

def PoolAction.nodes : PoolAction A → List Bool
  | .loop _ nodes => nodes
  | .wake _ _ nodes => nodes
  | _ => []

/-- `BumpPriority` gets a node for every job that it moves. -/
def FindsNodes (s : PoolSystem A) (action : PoolAction A) : Prop :=
  ∀ k < s.tp.starving s.clock, action.nodes.getD k true = true

structure Quiet (s t : PoolSystem A) : Prop where
  changes : PoolChanges s t
  fewer : t.schedulings ≤ s.schedulings
  lost : t.lost = s.lost

/-- A step that gives the slot a long term job: the call waits from then on. -/
structure TakesLongTerm (s t : PoolSystem A) : Prop where
  changes : PoolChanges s t
  more : s.schedulings < t.schedulings
  lost : t.lost = s.lost ++ s.tp.persistentJob.toList

structure StepTaken (s : PoolSystem A) (action : PoolAction A) (t : PoolSystem A) : Prop where
  changes : PoolChanges s t
  kept : t.lost = s.lost ↔ FindsSlotFree s action t ∧ FindsNodes s action

theorem findsNodes_none {s : PoolSystem A} {action : PoolAction A} (none : action.nodes = []) :
    FindsNodes s action := by
  intro k _
  rw [none]
  rfl

theorem Quiet.taken {s t : PoolSystem A} {action : PoolAction A} (quiet : Quiet s t)
    (none : action.nodes = []) : StepTaken s action t where
  changes := quiet.changes
  kept := iff_of_true quiet.lost
    ⟨fun more => absurd more (Nat.not_lt.mpr quiet.fewer), findsNodes_none none⟩

theorem TakesLongTerm.taken {s t : PoolSystem A} {action : PoolAction A}
    (takes : TakesLongTerm s t) (none : action.nodes = []) : StepTaken s action t where
  changes := takes.changes
  kept := by
    rw [takes.lost, List.append_right_eq_self, Option.toList_eq_nil_iff]
    constructor
    · exact fun free => ⟨fun _ => free, findsNodes_none none⟩
    · exact fun finds => finds.1 takes.more

theorem quiet_of_ordinary {s : PoolSystem A} {ended : PoolSystem A × CallEnd A}
    (ordinary : Ordinary s ended) : Quiet s (settle ended) where
  changes := settle_changes ordinary
  fewer := Nat.le_of_eq (settle_schedulings ordinary)
  lost := (settle_lost ended).trans ordinary.frame.lost

theorem schedule_taken {s u : PoolSystem A} {job : ThreadPoolJob A} {supply : Supply}
    (changes : PoolChanges s u) (slot : u.tp.persistentJob = s.tp.persistentJob)
    (same : u.schedulings = s.schedulings) (lost : u.lost = s.lost) :
    Quiet s (settle (u.schedule job supply)) ∨
      TakesLongTerm s (settle (u.schedule job supply)) := by
  rcases schedule_cases u job supply with failed | ⟨temp, _, taken⟩
  · left
    rw [failed]
    exact ⟨changes, Nat.le_of_eq same, lost⟩
  · right
    rw [taken]
    refine ⟨(changes.tail (.schedules temp)).tail (.calls _ fun rc member => ?_), ?_, ?_⟩
    · exact .inl (by simpa [scheduled] using member)
    · rw [← same]
      simp [settle, scheduled, schedulings, isScheduling]
    · rw [← lost, ← slot]
      rfl

theorem noteThreads_slot (s : PoolSystem A) :
    s.noteThreads.tp.persistentJob = s.tp.persistentJob := by
  unfold noteThreads
  split <;> rfl

theorem usable_open {s : PoolSystem A} (usable : s.usable = true) : s.tp.shutdown = false := by
  simp only [PoolSystem.usable, Bool.and_eq_true, Bool.not_eq_true'] at usable
  exact usable.1

theorem threadPoolRemove_schedulings (s : PoolSystem A) (jobId : Int) :
    (s.threadPoolRemove jobId).1.schedulings = s.schedulings := by
  obtain ⟨_, _, _, _, _, same, _⟩ := threadPoolRemove_eq s jobId
  rw [same]
  rfl

theorem resume_taken {s : PoolSystem A} (known : s.Stopping) {k : Nat} {call : PoolCall A}
    (standing : s.calls[k]? = some call) {supply : Supply} {t : PoolSystem A}
    (resumed : settle ({ s with calls := Places.replace k [] s.calls }.resume supply call) = t) :
    Quiet s t ∨ TakesLongTerm s t := by
  have stops : ∀ rc, call = .stopping rc → s.tp.shutdown = true := by
    rintro rc rfl
    exact known rc (List.mem_of_getElem? standing)
  have left : PoolChanges s { s with calls := Places.replace k [] s.calls } := by
    refine .single (.calls _ fun rc member => ?_)
    exact .inl ((Places.mem_replace member).resolve_left List.not_mem_nil)
  have counted := Places.countP_replace standing [] isScheduling
  rcases resume_cases { s with calls := Places.replace k [] s.calls } supply stops
    with ordinary | same | ⟨other, job, same⟩
  · subst resumed
    obtain ⟨changes, fewer, lost⟩ := quiet_of_ordinary ordinary
    refine .inl ⟨left.trans changes, ?_, lost⟩
    simp only [schedulings, List.countP_nil] at counted fewer ⊢
    omega
  · rw [same] at resumed
    subst resumed
    refine .inl ⟨left.tail (.calls _ fun rc member => ?_), ?_, rfl⟩
    · rcases List.mem_append.mp member with before | same
      · exact .inl before
      · exact .inr (stops rc (List.mem_singleton.mp same).symm)
    simp only [settle, schedulings, List.countP_append, List.countP_singleton]
    simp only [List.countP_nil] at counted
    omega
  · rw [same] at resumed
    subst resumed
    have frame := noteThreads_frame { s with calls := Places.replace k [] s.calls }
    refine schedule_taken (left.trans (noteThreads_changes _)) (noteThreads_slot _) ?_ frame.lost
    rw [other] at counted
    simpa [schedulings, frame.calls] using counted

theorem returnsToLoop_idle {s t : PoolSystem A} {i : Nat} {thread : WorkerThread A}
    (standing : s.threads[i]? = some thread) (returned : s.returnsToLoop i thread = some t) :
    t.threads[i]? = some .idle ∧ t.calls = s.calls ∧ t.lost = s.lost ∧
      t.tp.starving t.clock = s.tp.starving s.clock := by
  cases thread <;> cases returned <;>
    exact ⟨Places.getElem?_replace standing .idle, rfl, rfl, rfl⟩

theorem look_lost_iff (s : PoolSystem A) (i : Nat) (timedOut : Bool) (nodes : List Bool) :
    (s.look i timedOut nodes).lost = s.lost ↔
      ∀ k < s.tp.starving s.clock, nodes.getD k true = true := by
  rw [← s.tp.workerLooks_lost_iff timedOut s.clock nodes]
  exact List.append_right_eq_self

theorem poolStep_taken {s t : PoolSystem A} {action : PoolAction A} (known : s.Stopping)
    (taken : PoolStep s action t) : StepTaken s action t := by
  obtain ⟨alive, taken⟩ := taken
  cases action with
  | add job supply =>
      simp only [PoolAction.exec, Option.ite_none_right_eq_some, Option.some.injEq] at taken
      obtain ⟨usable, rfl⟩ := taken
      exact (quiet_of_ordinary (threadPoolAdd_ordinary (usable_open usable) job supply)).taken rfl
  | addPersistent job supply =>
      simp only [PoolAction.exec, Option.ite_none_right_eq_some, Option.some.injEq] at taken
      obtain ⟨_, rfl⟩ := taken
      rcases threadPoolAddPersistent_cases s job supply with
        refused | creating | ⟨u, rfl | rfl, same⟩
      · rw [refused]
        exact Quiet.taken ⟨.refl, Nat.le_refl _, rfl⟩ rfl
      · have ordinary : Ordinary s (s.threadPoolAddPersistent job supply) := by
          rw [creating]
          exact .waiting (.single .creates) ⟨rfl, rfl⟩ rfl (fun _ other => by cases other)
        exact (quiet_of_ordinary ordinary).taken rfl
      · rw [same]
        rcases schedule_taken .refl rfl rfl rfl with quiet | takes
        · exact quiet.taken rfl
        · exact takes.taken rfl
      · rw [same]
        have frame := noteThreads_frame s
        rcases schedule_taken (noteThreads_changes s) (noteThreads_slot s)
          (congrArg (List.countP isScheduling) frame.calls) frame.lost with quiet | takes
        · exact quiet.taken rfl
        · exact takes.taken rfl
  | remove jobId =>
      simp only [PoolAction.exec, Option.ite_none_right_eq_some, Option.some.injEq] at taken
      obtain ⟨_, rfl⟩ := taken
      refine Quiet.taken ⟨.single (.removes jobId), ?_, ?_⟩ rfl
      · exact Nat.le_of_eq (threadPoolRemove_schedulings s jobId)
      · obtain ⟨_, _, _, _, _, same, _⟩ := threadPoolRemove_eq s jobId
        rw [same]
  | shutdown =>
      simp only [PoolAction.exec, Option.ite_none_right_eq_some, Option.some.injEq] at taken
      obtain ⟨_, rfl⟩ := taken
      exact (quiet_of_ordinary (threadPoolShutdown_ordinary s 0)).taken rfl
  | resume k supply =>
      simp only [PoolAction.exec, Option.map_eq_some_iff] at taken
      obtain ⟨call, standing, resumed⟩ := taken
      rcases resume_taken known standing resumed with quiet | takes
      · exact quiet.taken rfl
      · exact takes.taken rfl
  | start i =>
      simp only [PoolAction.exec] at taken
      split at taken
      · cases taken
        exact Quiet.taken ⟨.single (.starts i alive ‹_›), Nat.le_refl _, rfl⟩ rfl
      · cases taken
  | loop i nodes =>
      simp only [PoolAction.exec, Option.map_eq_some_iff, Option.bind_eq_some_iff] at taken
      obtain ⟨u, ⟨thread, standing, returned⟩, rfl⟩ := taken
      obtain ⟨idle, calls, lost, starving⟩ := returnsToLoop_idle standing returned
      have waiting : (u.look i false nodes).schedulings = s.schedulings :=
        congrArg (List.countP isScheduling) calls
      refine ⟨.tail (.single (.returns i thread standing returned)) (.looks i false nodes idle), ?_⟩
      rw [← lost, look_lost_iff, starving]
      exact (and_iff_right fun more => absurd more (by omega)).symm
  | wake i timedOut nodes =>
      simp only [PoolAction.exec] at taken
      split at taken
      · cases taken
        refine ⟨.single (.looks i timedOut nodes ‹_›), ?_⟩
        rw [look_lost_iff]
        exact (and_iff_right fun more => absurd more (Nat.lt_irrefl _)).symm
      · cases taken
  | tick now =>
      simp only [PoolAction.exec, Option.ite_none_right_eq_some, Option.some.injEq] at taken
      obtain ⟨later, rfl⟩ := taken
      exact Quiet.taken ⟨.single (.ticks now later), Nat.le_refl _, rfl⟩ rfl

theorem PoolChanges.preserves {P : PoolSystem A → Prop}
    (change : ∀ s t, P s → PoolChange s t → P t) {s t : PoolSystem A} (holds : P s)
    (changes : PoolChanges s t) : P t := by
  induction changes with
  | refl => exact holds
  | tail _ last ih => exact change _ _ ih last

theorem stopping_change {s t : PoolSystem A} (known : s.Stopping) (change : PoolChange s t) :
    t.Stopping := by
  cases change with
  | calls calls stops => exact fun rc member => (stops rc member).elim (known rc) id
  | enqueues temp =>
      intro rc member
      have shut := known rc ((enqueue_frame s temp).calls ▸ member)
      unfold enqueue
      split <;> exact shut
  | removes jobId =>
      obtain ⟨_, _, _, _, _, same, _⟩ := threadPoolRemove_eq s jobId
      rw [same]
      exact known
  | discards => exact fun _ _ => rfl
  | returns i thread _ returned => cases thread <;> cases returned <;> exact known
  | looks i timedOut nodes =>
      intro rc member
      rw [look, (s.tp.workerLooks_looked timedOut s.clock nodes).shutdown]
      exact known rc member
  | _ => exact known

theorem poolStep_preserves {P : PoolSystem A → Prop}
    (change : ∀ s t, P s → PoolChange s t → P t) {s t : PoolSystem A}
    {action : PoolAction A} (known : s.Stopping) (holds : P s)
    (taken : PoolStep s action t) : P t :=
  (poolStep_taken known taken).changes.preserves change holds

theorem stopping_step {s t : PoolSystem A} {action : PoolAction A} (known : s.Stopping)
    (taken : PoolStep s action t) : t.Stopping :=
  poolStep_preserves (fun _ _ => stopping_change) known known taken

theorem threadPoolInit_changes (attr : ThreadPoolAttr) (clock : Timeval) (supply : Supply) :
    PoolChanges (initial attr clock) (threadPoolInit attr clock supply : PoolSystem A) :=
  settle_changes (initWorkers_ordinary ..)

theorem threadPoolInit_stopping (attr : ThreadPoolAttr) (clock : Timeval) (supply : Supply) :
    (threadPoolInit attr clock supply : PoolSystem A).Stopping :=
  PoolChanges.preserves (fun _ _ => stopping_change) (fun _ member => by cases member)
    (threadPoolInit_changes attr clock supply)

theorem throughout_of_change {P : PoolSystem A → Prop}
    (change : ∀ s t, P s → PoolChange s t → P t) {attr : ThreadPoolAttr} {clock : Timeval}
    (supply : Supply) (first : P (initial attr clock)) (actions : List (PoolAction A)) :
    Throughout PoolStep P (threadPoolInit attr clock supply) actions := by
  have preserved : ∀ s action u, s.Stopping ∧ P s → PoolStep s action u → u.Stopping ∧ P u := by
    intro s action u known taken
    exact ⟨stopping_step known.1 taken, poolStep_preserves change known.1 known.2 taken⟩
  have start : P (threadPoolInit attr clock supply) :=
    (threadPoolInit_changes attr clock supply).preserves change first
  have run := throughout_of_invariant preserved
    ⟨threadPoolInit_stopping attr clock supply, start⟩ actions
  exact run.mono fun _ known => known.2

end Libdlna
