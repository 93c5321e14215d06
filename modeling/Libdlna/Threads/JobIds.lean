import Libdlna.Threads.Steps

set_option autoImplicit false

/-!
# Job ids

A job is given the next id when it is created, but the counter is only moved when its call returns.
In between the call may wait for a worker, and let others in. A call whose job has got no place in a
queue moves the counter all the same.
-/

namespace Libdlna

open PoolSystem Runs

variable {A : Type}

def PoolCall.reserves : PoolCall A → List (ThreadPoolJob A)
  | .creating _ (.add temp true _ _) => [temp]
  | .scheduling temp => [temp]
  | _ => []

def PoolSystem.reserved (s : PoolSystem A) : List (ThreadPoolJob A) :=
  s.calls.flatMap PoolCall.reserves

/-- What a section does to the ids; `held` are the jobs that its own call has created before. -/
inductive Numbers (s : PoolSystem A) (held : List (ThreadPoolJob A)) (t : PoolSystem A) : Prop where
  | keeps (accepted : t.accepted = s.accepted) (lastJobId : t.tp.lastJobId = s.tp.lastJobId)
      (answered : t.answered = s.answered) (reserved : t.reserved = s.reserved ++ held)
  | opens (temp : ThreadPoolJob A) (jobId : temp.jobId = s.tp.lastJobId) (new : held = [])
      (accepted : t.accepted = s.accepted ++ [temp]) (lastJobId : t.tp.lastJobId = s.tp.lastJobId)
      (answered : t.answered = s.answered) (reserved : t.reserved = s.reserved ++ [temp])
  | takes (temp : ThreadPoolJob A) (jobId : temp.jobId = s.tp.lastJobId) (new : held = [])
      (accepted : t.accepted = s.accepted ++ [temp])
      (lastJobId : t.tp.lastJobId = s.tp.lastJobId + 1)
      (answered : t.answered = s.answered ++ [(temp, s.tp.lastJobId)])
      (reserved : t.reserved = s.reserved)
  | closes (temp : ThreadPoolJob A) (own : held = [temp]) (accepted : t.accepted = s.accepted)
      (lastJobId : t.tp.lastJobId = s.tp.lastJobId + 1)
      (answered : t.answered = s.answered ++ [(temp, s.tp.lastJobId)])
      (reserved : t.reserved = s.reserved)
  -- the call has not got its job into a queue
  | wastes (none : held = []) (accepted : t.accepted = s.accepted)
      (lastJobId : t.tp.lastJobId = s.tp.lastJobId + 1)
      (answered : t.answered = s.answered) (reserved : t.reserved = s.reserved)

structure SameNumbers (s u : PoolSystem A) : Prop where
  accepted : u.accepted = s.accepted
  lastJobId : u.tp.lastJobId = s.tp.lastJobId
  answered : u.answered = s.answered
  calls : u.calls = s.calls

theorem SameNumbers.refl (s : PoolSystem A) : SameNumbers s s := ⟨rfl, rfl, rfl, rfl⟩

theorem SameNumbers.reserved {s u : PoolSystem A} (same : SameNumbers s u) :
    u.reserved = s.reserved :=
  congrArg (List.flatMap PoolCall.reserves) same.calls

theorem SameNumbers.trans {s u v : PoolSystem A} (first : SameNumbers s u)
    (second : SameNumbers u v) : SameNumbers s v where
  accepted := second.accepted.trans first.accepted
  lastJobId := second.lastJobId.trans first.lastJobId
  answered := second.answered.trans first.answered
  calls := second.calls.trans first.calls

theorem SameNumbers.numbers {s u t : PoolSystem A} {held : List (ThreadPoolJob A)}
    (same : SameNumbers s u) (later : Numbers u held t) : Numbers s held t := by
  have reserved := same.reserved
  obtain ⟨accepted, lastJobId, answered, _⟩ := same
  cases later with
  | keeps accepted' lastJobId' answered' reserved' =>
      exact .keeps (accepted'.trans accepted) (lastJobId'.trans lastJobId)
        (answered'.trans answered) (by rw [reserved', reserved])
  | opens temp jobId new accepted' lastJobId' answered' reserved' =>
      exact .opens temp (jobId.trans lastJobId) new (by rw [accepted', accepted])
        (lastJobId'.trans lastJobId) (answered'.trans answered) (by rw [reserved', reserved])
  | takes temp jobId new accepted' lastJobId' answered' reserved' =>
      exact .takes temp (jobId.trans lastJobId) new (by rw [accepted', accepted])
        (by rw [lastJobId', lastJobId]) (by rw [answered', answered, lastJobId])
        (reserved'.trans reserved)
  | closes temp own accepted' lastJobId' answered' reserved' =>
      exact .closes temp own (accepted'.trans accepted) (by rw [lastJobId', lastJobId])
        (by rw [answered', answered, lastJobId]) (reserved'.trans reserved)
  | wastes none accepted' lastJobId' answered' reserved' =>
      exact .wastes none (accepted'.trans accepted) (by rw [lastJobId', lastJobId])
        (answered'.trans answered) (reserved'.trans reserved)

theorem noteThreads_same (s : PoolSystem A) : SameNumbers s s.noteThreads := by
  unfold noteThreads
  split <;> exact ⟨rfl, rfl, rfl, rfl⟩

theorem createWorker_same (s : PoolSystem A) (supply : Supply) :
    SameNumbers s (s.createWorker supply).1 := by
  rcases createWorker_cases s supply with full | failed | made
  · rw [full]
    exact .refl s
  · rw [failed]
    exact noteThreads_same s
  · rw [made]
    exact ⟨rfl, rfl, rfl, rfl⟩

theorem SameNumbers.keeps {s u : PoolSystem A} (same : SameNumbers s u) : Numbers s [] u :=
  .keeps same.accepted same.lastJobId same.answered (by rw [same.reserved, List.append_nil])

theorem SameNumbers.returns {s u : PoolSystem A} (same : SameNumbers s u) (rc : Int) :
    Numbers s [] (settle (u, .returns rc)) := same.keeps

theorem SameNumbers.waits {s u : PoolSystem A} (same : SameNumbers s u) (call : PoolCall A) :
    Numbers s call.reserves (settle (u, .waits call)) := by
  refine .keeps same.accepted same.lastJobId same.answered ?_
  rw [← same.reserved]
  simp [settle, PoolSystem.reserved]

theorem answer_numbers {s u : PoolSystem A} (same : SameNumbers s u) (temp : ThreadPoolJob A)
    (queued : Bool) (rc : Int) : Numbers s (PoolCall.creating 0 (.add temp queued 0 0)).reserves
      (settle (u.answer temp queued, .returns rc)) := by
  have lastJobId : (u.answer temp queued).tp.lastJobId = s.tp.lastJobId + 1 :=
    congrArg (· + 1) same.lastJobId
  cases queued with
  | true =>
      refine .closes temp rfl same.accepted lastJobId ?_ same.reserved
      simp [settle, answer, same.answered, same.lastJobId]
  | false => exact .wastes rfl same.accepted lastJobId same.answered same.reserved

theorem addWorker_numbers (s : PoolSystem A) (temp : ThreadPoolJob A) (queued : Bool)
    (jobs threads : Int) (supply : Supply) :
    Numbers s (PoolCall.creating 0 (.add temp queued 0 0)).reserves
      (settle (s.addWorker temp queued jobs threads supply)) := by
  unfold addWorker
  split
  next =>
    have same := createWorker_same s supply
    generalize s.createWorker supply = made at same ⊢
    obtain ⟨u, _ | currentThreads⟩ := made
    · exact answer_numbers same temp queued _
    · have waits := same.waits (.creating currentThreads (.add temp queued jobs threads))
      cases queued <;> exact waits
  next => exact answer_numbers (.refl s) temp queued _

theorem enqueue_numbers (s : PoolSystem A) (temp : ThreadPoolJob A) :
    (s.enqueue temp).accepted = s.accepted ++ [temp] ∧
      (s.enqueue temp).tp.lastJobId = s.tp.lastJobId ∧
      (s.enqueue temp).answered = s.answered ∧ (s.enqueue temp).reserved = s.reserved := by
  unfold enqueue
  split <;> exact ⟨rfl, rfl, rfl, rfl⟩

theorem Numbers.of_enqueue {s t : PoolSystem A} {temp : ThreadPoolJob A}
    (jobId : temp.jobId = s.tp.lastJobId) (later : Numbers (s.enqueue temp) [temp] t) :
    Numbers s [] t := by
  obtain ⟨accepted, lastJobId, answered, reserved⟩ := enqueue_numbers s temp
  cases later with
  | keeps accepted' lastJobId' answered' reserved' =>
      exact .opens temp jobId rfl (accepted'.trans accepted) (lastJobId'.trans lastJobId)
        (answered'.trans answered) (by rw [reserved', reserved])
  | opens _ _ new => cases new
  | takes _ _ new => cases new
  | wastes none => cases none
  | closes _ own accepted' lastJobId' answered' reserved' =>
      cases own
      exact .takes temp jobId rfl (accepted'.trans accepted) (by rw [lastJobId', lastJobId])
        (by rw [answered', answered, lastJobId]) (reserved'.trans reserved)

theorem threadPoolAdd_numbers (s : PoolSystem A) (job : ThreadPoolJob A) (supply : Supply) :
    Numbers s [] (settle (s.threadPoolAdd job supply)) := by
  unfold threadPoolAdd
  split
  · exact (SameNumbers.refl s).returns _
  cases made : s.createThreadPoolJob job supply with
  | none => exact (SameNumbers.refl s).returns _
  | some temp =>
      cases supply.node with
      | false => exact addWorker_numbers s temp false ..
      | true =>
          exact .of_enqueue (createThreadPoolJob_stamped made).2.1 (addWorker_numbers _ temp true ..)

theorem schedule_numbers {s u : PoolSystem A} (same : SameNumbers s u) (job : ThreadPoolJob A)
    (supply : Supply) : Numbers s [] (settle (u.schedule job supply)) := by
  rcases schedule_cases u job supply with failed | ⟨temp, jobId, taken⟩
  · rw [failed]
    exact same.returns _
  · rw [taken]
    refine .opens temp (jobId.trans same.lastJobId) rfl ?_ same.lastJobId same.answered ?_
    · simp [settle, scheduled, same.accepted]
    · rw [← same.reserved]
      simp [settle, scheduled, PoolSystem.reserved, PoolCall.reserves]

theorem threadPoolAddPersistent_numbers (s : PoolSystem A) (job : ThreadPoolJob A)
    (supply : Supply) : Numbers s [] (settle (s.threadPoolAddPersistent job supply)) := by
  rcases threadPoolAddPersistent_cases s job supply with
    refused | creating | ⟨u, rfl | rfl, same⟩
  · rw [refused]
    exact (SameNumbers.refl s).returns _
  · rw [creating]
    have same : SameNumbers s { s with threads := s.threads ++ [.created] } := ⟨rfl, rfl, rfl, rfl⟩
    exact same.waits (.creating (s.tp.totalThreads + 1) (.addPersistent job))
  · rw [same]
    exact schedule_numbers (.refl _) job supply
  · rw [same]
    exact schedule_numbers (noteThreads_same s) job supply

theorem finishShutdown_numbers {s u : PoolSystem A} (same : SameNumbers s u) (rc : Int) :
    Numbers s [] (settle (u.finishShutdown rc)) := by
  unfold finishShutdown
  split
  · exact same.waits (.stopping rc)
  · have gone : SameNumbers s { u with destroyed := true } :=
      ⟨same.accepted, same.lastJobId, same.answered, same.calls⟩
    exact gone.returns rc

theorem threadPoolShutdown_numbers (s : PoolSystem A) (rc : Int) :
    Numbers s [] (settle (s.threadPoolShutdown rc)) := by
  have same : SameNumbers s s.discardJobs := ⟨rfl, rfl, rfl, rfl⟩
  exact finishShutdown_numbers same rc

theorem initWorkers_numbers {s u : PoolSystem A} (same : SameNumbers s u) (i : Int)
    (supply : Supply) : Numbers s [] (settle (u.initWorkers i supply)) := by
  unfold initWorkers
  split
  next =>
    have created := createWorker_same u supply
    generalize u.createWorker supply = made at created ⊢
    obtain ⟨v, rc | currentThreads⟩ := made
    · exact (same.trans created).waits (.failing rc)
    · exact (same.trans created).waits (.creating currentThreads (.init i))
  next => exact same.returns 0

theorem resume_numbers (s : PoolSystem A) (supply : Supply) (call : PoolCall A) :
    Numbers s call.reserves (settle (s.resume supply call)) := by
  cases call with
  | creating currentThreads next =>
      by_cases fewer : s.tp.totalThreads < currentThreads
      · simp only [resume, if_pos fewer]
        exact (SameNumbers.refl s).waits (.creating currentThreads next)
      simp only [resume, if_neg fewer]
      have noted := noteThreads_same s
      cases next with
      | init i => exact initWorkers_numbers noted (i + 1) supply
      | add temp queued jobs threads =>
          have later := addWorker_numbers s.noteThreads temp queued jobs (threads + 1) supply
          cases queued <;> exact noted.numbers later
      | addPersistent job => exact schedule_numbers noted job supply
  | scheduling temp =>
      cases slot : s.tp.persistentJob with
      | some waiting =>
          simp only [resume, slot]
          exact (SameNumbers.refl s).waits (.scheduling temp)
      | none =>
          simp only [resume, slot]
          exact .closes temp rfl rfl rfl rfl rfl
  | failing rc => exact threadPoolShutdown_numbers s rc
  | stopping rc => exact finishShutdown_numbers (.refl s) rc

theorem look_same (s : PoolSystem A) (i : Nat) (timedOut : Bool) (nodes : List Bool) :
    SameNumbers s (s.look i timedOut nodes) :=
  ⟨rfl, (s.tp.workerLooks_looked timedOut s.clock nodes).lastJobId, rfl, rfl⟩

theorem poolStep_numbers {s t : PoolSystem A} {action : PoolAction A}
    (taken : PoolStep s action t) :
    ∃ u held, SameNumbers s { u with calls := s.calls } ∧ (u.reserved ++ held).Perm s.reserved ∧
      Numbers u held t := by
  have own : ∀ {t}, Numbers s [] t → ∃ u held, SameNumbers s { u with calls := s.calls } ∧
      (u.reserved ++ held).Perm s.reserved ∧ Numbers u held t := fun numbers =>
    ⟨s, [], .refl s, by simp, numbers⟩
  obtain ⟨_, taken⟩ := taken
  cases action with
  | add job supply =>
      simp only [PoolAction.exec, Option.ite_none_right_eq_some, Option.some.injEq] at taken
      obtain ⟨_, rfl⟩ := taken
      exact own (threadPoolAdd_numbers s job supply)
  | addPersistent job supply =>
      simp only [PoolAction.exec, Option.ite_none_right_eq_some, Option.some.injEq] at taken
      obtain ⟨_, rfl⟩ := taken
      exact own (threadPoolAddPersistent_numbers s job supply)
  | remove jobId =>
      simp only [PoolAction.exec, Option.ite_none_right_eq_some, Option.some.injEq] at taken
      obtain ⟨_, rfl⟩ := taken
      obtain ⟨_, _, _, _, _, same, _⟩ := threadPoolRemove_eq s jobId
      rw [same]
      exact own (SameNumbers.keeps ⟨rfl, rfl, rfl, rfl⟩)
  | shutdown =>
      simp only [PoolAction.exec, Option.ite_none_right_eq_some, Option.some.injEq] at taken
      obtain ⟨_, rfl⟩ := taken
      exact own (threadPoolShutdown_numbers s 0)
  | resume k supply =>
      simp only [PoolAction.exec, Option.map_eq_some_iff] at taken
      obtain ⟨call, standing, rfl⟩ := taken
      refine ⟨{ s with calls := Places.replace k [] s.calls }, call.reserves,
        ⟨rfl, rfl, rfl, rfl⟩, ?_, resume_numbers _ supply call⟩
      exact List.perm_append_comm.trans (Places.flatMap_replace standing [] PoolCall.reserves)
  | start i =>
      simp only [PoolAction.exec] at taken
      split at taken
      · cases taken
        exact own (SameNumbers.keeps ⟨rfl, rfl, rfl, rfl⟩)
      · cases taken
  | loop i nodes =>
      simp only [PoolAction.exec, Option.map_eq_some_iff, Option.bind_eq_some_iff] at taken
      obtain ⟨u, ⟨thread, _, returned⟩, rfl⟩ := taken
      have same : SameNumbers s u := by
        cases thread <;> cases returned <;> exact ⟨rfl, rfl, rfl, rfl⟩
      exact own (same.trans (look_same u i false nodes)).keeps
  | wake i timedOut nodes =>
      simp only [PoolAction.exec] at taken
      split at taken
      · cases taken
        exact own (look_same s i timedOut nodes).keeps
      · cases taken
  | tick now =>
      simp only [PoolAction.exec, Option.ite_none_right_eq_some, Option.some.injEq] at taken
      obtain ⟨later, rfl⟩ := taken
      exact own (SameNumbers.keeps ⟨rfl, rfl, rfl, rfl⟩)

/-- No two jobs have one id, every call has answered the id of its job, and one that is still under
way would answer it now. -/
structure IdsExact (s : PoolSystem A) : Prop where
  nodup : (s.accepted.map ThreadPoolJob.jobId).Nodup
  answered : ∀ entry ∈ s.answered, entry.1.jobId = entry.2
  pending : ∀ job ∈ s.reserved, job.jobId = s.tp.lastJobId

/-- While a call has created a job and not moved the counter yet, no other call creates one or
moves it. -/
def OneAtATime (s t : PoolSystem A) : Prop :=
  s.reserved ≠ [] → t.accepted = s.accepted ∧
    (t.tp.lastJobId = s.tp.lastJobId ∨ t.reserved = [])

structure Numbered (s : PoolSystem A) : Prop extends IdsExact s where
  single : s.reserved.length ≤ 1
  reserved : ∀ job ∈ s.reserved, job ∈ s.accepted
  past : ∀ job ∈ s.accepted, job.jobId < s.tp.lastJobId ∨ job ∈ s.reserved

theorem Numbered.keeps {s t : PoolSystem A} (known : Numbered s)
    (accepted : t.accepted = s.accepted) (lastJobId : t.tp.lastJobId = s.tp.lastJobId)
    (answered : t.answered = s.answered) (reserved : t.reserved.Perm s.reserved) : Numbered t where
  nodup := accepted ▸ known.nodup
  answered := answered ▸ known.answered
  pending job member := lastJobId ▸ known.pending job (reserved.subset member)
  single := reserved.length_eq ▸ known.single
  reserved job member := accepted ▸ known.reserved job (reserved.subset member)
  past job member := by
    rw [accepted] at member
    rw [lastJobId, reserved.mem_iff]
    exact known.past job member

/-- The next id is free while no call stands between creating its job and counting it. -/
theorem Numbered.fresh {s : PoolSystem A} (known : Numbered s) (alone : s.reserved = [])
    {temp : ThreadPoolJob A} (jobId : temp.jobId = s.tp.lastJobId) :
    ((s.accepted ++ [temp]).map ThreadPoolJob.jobId).Nodup := by
  rw [List.map_append, List.nodup_append]
  refine ⟨known.nodup, List.nodup_singleton _, ?_⟩
  intro id member other member'
  obtain ⟨job, accepted, rfl⟩ := List.mem_map.mp member
  rw [List.map_singleton, List.mem_singleton, jobId] at member'
  have past := known.past job accepted
  rw [alone, List.mem_nil_iff, or_false] at past
  omega

theorem Numbered.taken {s : PoolSystem A} (known : Numbered s) {temp : ThreadPoolJob A}
    (jobId : temp.jobId = s.tp.lastJobId) (crowded : s.reserved ≠ []) :
    ¬ ((s.accepted ++ [temp]).map ThreadPoolJob.jobId).Nodup := by
  obtain ⟨job, member⟩ := List.exists_mem_of_ne_nil _ crowded
  have same := known.pending job member
  rw [List.map_append, List.nodup_append]
  intro ⟨_, _, different⟩
  exact different _ (List.mem_map_of_mem (known.reserved job member)) _ (by simp)
    (same.trans jobId.symm)

theorem Numbered.moved {s t : PoolSystem A} (known : Numbered s)
    (accepted : t.accepted = s.accepted) (lastJobId : t.tp.lastJobId = s.tp.lastJobId + 1)
    (answered : ∀ entry ∈ t.answered, entry.1.jobId = entry.2) (none : t.reserved = []) :
    Numbered t where
  nodup := accepted ▸ known.nodup
  answered := answered
  pending := by simp [none]
  single := by simp [none]
  reserved := by simp [none]
  past := by
    intro job member
    rw [accepted] at member
    rw [lastJobId]
    rcases known.past job member with before | here
    · exact .inl (before.trans (Int.lt_succ _))
    · rw [known.pending job here]
      exact .inl (Int.lt_succ _)

theorem Numbered.after {s u t : PoolSystem A} {held : List (ThreadPoolJob A)} (known : Numbered s)
    (alone : OneAtATime s t) (same : SameNumbers s { u with calls := s.calls })
    (perm : (u.reserved ++ held).Perm s.reserved) (numbers : Numbers u held t) : Numbered t := by
  obtain ⟨accepted, lastJobId, answered, _⟩ := same
  simp only at accepted lastJobId answered
  -- a call that creates a job finds nobody else at it
  have nobody (temp : ThreadPoolJob A) (accepted' : t.accepted = s.accepted ++ [temp]) :
      s.reserved = [] := by
    by_contra crowded
    have unchanged := (alone crowded).1
    rw [accepted'] at unchanged
    simp at unchanged
  cases numbers with
  | keeps accepted' lastJobId' answered' reserved =>
      exact known.keeps (accepted'.trans accepted) (lastJobId'.trans lastJobId)
        (answered'.trans answered) (reserved ▸ perm)
  | opens temp jobId new accepted' lastJobId' answered' reserved =>
      rw [accepted] at accepted'
      rw [lastJobId] at jobId lastJobId'
      have nobody := nobody temp accepted'
      have none : u.reserved = [] := by simpa [new, nobody] using perm
      rw [none, List.nil_append] at reserved
      constructor
      · refine ⟨accepted' ▸ known.fresh nobody jobId, answered'.trans answered ▸ known.answered, ?_⟩
        simp [reserved, jobId, lastJobId']
      · simp [reserved]
      · simp [reserved, accepted']
      · intro job member
        rw [accepted', List.mem_append] at member
        rw [reserved, lastJobId']
        exact member.imp_left fun before => by simpa [nobody] using known.past job before
  | takes temp jobId new accepted' lastJobId' answered' reserved =>
      rw [accepted] at accepted'
      rw [lastJobId] at jobId lastJobId' answered'
      have nobody := nobody temp accepted'
      have none : u.reserved = [] := by simpa [new, nobody] using perm
      rw [none] at reserved
      constructor
      · refine ⟨accepted' ▸ known.fresh nobody jobId, fun entry member => ?_, by simp [reserved]⟩
        rw [answered', answered, List.mem_append, List.mem_singleton] at member
        rcases member with before | rfl
        · exact known.answered entry before
        · exact jobId
      · simp [reserved]
      · simp [reserved]
      · intro job member
        rw [accepted', List.mem_append, List.mem_singleton] at member
        rw [lastJobId']
        rcases member with before | rfl
        · have past := known.past job before
          rw [nobody, List.mem_nil_iff, or_false] at past
          exact .inl (past.trans (Int.lt_succ _))
        · exact .inl (jobId ▸ Int.lt_succ _)
  | closes temp own accepted' lastJobId' answered' reserved =>
      rw [own] at perm
      rw [lastJobId] at lastJobId' answered'
      have few := known.single
      rw [← perm.length_eq, List.length_append, List.length_singleton] at few
      have none : u.reserved = [] := List.eq_nil_of_length_eq_zero (by omega)
      have jobId : temp.jobId = s.tp.lastJobId := known.pending temp (perm.subset (by simp))
      refine known.moved (accepted'.trans accepted) lastJobId' (fun entry member => ?_)
        (reserved.trans none)
      rw [answered', answered, List.mem_append, List.mem_singleton] at member
      rcases member with before | rfl
      · exact known.answered entry before
      · exact jobId
  | wastes none accepted' lastJobId' answered' reserved =>
      rw [lastJobId] at lastJobId'
      rw [none, List.append_nil, ← reserved] at perm
      have empty : t.reserved = [] := by
        by_contra waits
        have crowded : s.reserved ≠ [] := fun nobody => waits (nobody ▸ perm).eq_nil
        rcases (alone crowded).2 with unmoved | gone
        · omega
        · exact waits gone
      exact known.moved (accepted'.trans accepted) lastJobId'
        (answered'.trans answered ▸ known.answered) empty

theorem numbered_step {s t : PoolSystem A} {action : PoolAction A} (known : Numbered s)
    (alone : OneAtATime s t) (taken : PoolStep s action t) : Numbered t := by
  obtain ⟨u, held, same, perm, numbers⟩ := poolStep_numbers taken
  exact known.after alone same perm numbers

theorem numbered_broken {s t : PoolSystem A} {action : PoolAction A} (known : Numbered s)
    (taken : PoolStep s action t) (crowded : ¬ OneAtATime s t) : ¬ IdsExact t := by
  unfold OneAtATime at crowded
  push Not at crowded
  obtain ⟨others, disturbed⟩ := crowded
  obtain ⟨u, held, same, perm, numbers⟩ := poolStep_numbers taken
  obtain ⟨accepted, lastJobId, _, _⟩ := same
  simp only at accepted lastJobId
  intro exact_
  cases numbers with
  | keeps accepted' lastJobId' =>
      exact (disturbed (accepted'.trans accepted)).1 (lastJobId'.trans lastJobId)
  | opens temp jobId _ accepted' | takes temp jobId _ accepted' =>
      rw [accepted] at accepted'
      exact known.taken (jobId.trans lastJobId) others (accepted' ▸ exact_.nodup)
  | closes temp own accepted' _ _ reserved =>
      rw [own] at perm
      have few := known.single
      rw [← perm.length_eq, List.length_append, List.length_singleton] at few
      have none : u.reserved = [] := List.eq_nil_of_length_eq_zero (by omega)
      exact (disturbed (accepted'.trans accepted)).2 (reserved.trans none)
  -- the job that waits to be counted is left behind by the counter
  | wastes none accepted' lastJobId' _ reserved =>
      rw [none, List.append_nil, ← reserved] at perm
      obtain ⟨job, member⟩ := List.exists_mem_of_ne_nil _ others
      have before := known.pending job member
      have after := exact_.pending job (perm.mem_iff.mpr member)
      omega

theorem poolStep_counts {s t : PoolSystem A} {action : PoolAction A}
    (taken : PoolStep s action t) : s.tp.lastJobId ≤ t.tp.lastJobId := by
  obtain ⟨u, held, same, perm, numbers⟩ := poolStep_numbers taken
  have lastJobId : u.tp.lastJobId = s.tp.lastJobId := same.lastJobId
  cases numbers with
  | keeps _ same | opens _ _ _ _ same => exact (same.trans lastJobId).ge
  | takes _ _ _ _ more | closes _ _ _ more | wastes _ _ more => omega

theorem threadPoolInit_numbered (attr : ThreadPoolAttr) (clock : Timeval) (supply : Supply) :
    Numbered (threadPoolInit attr clock supply : PoolSystem A) := by
  have empty : Numbered (initial attr clock : PoolSystem A) := by
    constructor
    · constructor <;> simp [initial, PoolSystem.reserved]
    all_goals simp [initial, PoolSystem.reserved]
  exact empty.after (fun crowded => absurd rfl crowded) (.refl _) (.refl _)
    (initWorkers_numbers (.refl _) 0 supply)

/-- The counter is an `int`, and has not run out of its range. -/
def InRange (s : PoolSystem A) : Prop := s.tp.lastJobId < 2 ^ 31

theorem idsExact_throughout_iff (attr : ThreadPoolAttr) (clock : Timeval) (supply : Supply)
    (actions : List (PoolAction A)) :
    Throughout PoolStep (fun s => InRange s → IdsExact s) (threadPoolInit attr clock supply)
        actions ↔
      Along PoolStep (fun s _ t => InRange t → OneAtATime s t) (threadPoolInit attr clock supply)
        actions := by
  refine throughout_iff_along (fun s (known : InRange s → Numbered s) => ?_) ?_ ?_ ?_ actions
  · exact fun inRange => (known inRange).toIdsExact
  · intro s action t known taken alone inRange
    have before : InRange s := (poolStep_counts taken).trans_lt inRange
    exact numbered_step (known before) (alone inRange) taken
  · intro s action t known taken crowded exact_
    obtain ⟨inRange, others⟩ := Classical.not_imp.mp crowded
    have before : InRange s := (poolStep_counts taken).trans_lt inRange
    exact numbered_broken (known before) taken others (exact_ inRange)
  · exact fun _ => threadPoolInit_numbered attr clock supply

end Libdlna
