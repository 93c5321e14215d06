import Libdlna.Events.Steps
import Libdlna.Model.NotifyRelease
import Libdlna.Shared.Runs
import Mathlib.Data.Fintype.Basic

set_option autoImplicit false

/-!
# Who frees an event

The last job of an event frees what its jobs share. It takes several accesses to find out who is the
last one, so that two jobs that are at it together may both be.
-/

namespace Libdlna.Gena

open NotifyRelease Runs

variable {J : Type}

/-- Nobody has met anything that is freed, and when all jobs are gone nothing is left. -/
def Released (x : Except Fault (NotifyRelease J)) : Prop :=
  ∃ s, x = .ok s ∧ ((∀ i, s.stage i = .ended) → s.shared.freed = true)

/-- No two jobs can be at their releases at one time. -/
def EachAlone (held : J → Held) : Prop :=
  ∀ i j, i ≠ j → (held i).excludes (held j) = true

namespace NotifyRelease

theorem access_live {s : NotifyRelease J} (live : s.shared.freed = false) :
    s.access = .ok s.shared := by
  simp [access, live]

section Goes

variable [DecidableEq J] (s : NotifyRelease J) (i : J) (stage : ReleaseStage)

@[simp] theorem goes_self : (s.goes i stage).stage i = stage := Function.update_self ..

theorem goes_other {i j : J} (other : j ≠ i) (stage : ReleaseStage) :
    (s.goes i stage).stage j = s.stage j := Function.update_of_ne other ..

@[simp] theorem goes_held : (s.goes i stage).held = s.held := rfl

@[simp] theorem goes_shared : (s.goes i stage).shared = s.shared := rfl

theorem goes_goes (later : ReleaseStage) : (s.goes i stage).goes i later = s.goes i later := by
  simp [goes]

theorem write_goes (shared : Shared) :
    (s.write shared).goes i stage = (s.goes i stage).write shared := rfl

omit [DecidableEq J] in
theorem write_shared : s.write s.shared = s := rfl

end Goes

section Exec

variable [DecidableEq J] [Fintype J] {s : NotifyRelease J} {i : J}

theorem exec_waits (stands : s.stage i = .waits) :
    s.exec i = if s.admits i then some (.ok (s.goes i .enters)) else none := by
  rw [exec, stands]

theorem exec_enters (stands : s.stage i = .enters) (live : s.shared.freed = false) :
    s.exec i = some (.ok (s.goes i (.loaded s.shared.referenceCount))) := by
  rw [exec, stands, access_live live]
  rfl

theorem exec_loaded {count : Int} (stands : s.stage i = .loaded count)
    (live : s.shared.freed = false) :
    s.exec i = some (.ok ((s.goes i .stored).write ⟨count - 1, false⟩)) := by
  rw [exec, stands, access_live live, ← live]
  rfl

theorem exec_stored_last (stands : s.stage i = .stored) (live : s.shared.freed = false)
    (last : s.shared.referenceCount = 0) : s.exec i = some (.ok (s.goes i .frees)) := by
  rw [exec, stands, access_live live]
  simp [Except.map, last]

theorem exec_stored (stands : s.stage i = .stored) (live : s.shared.freed = false)
    (others : s.shared.referenceCount ≠ 0) : s.exec i = some (.ok (s.goes i .leaves)) := by
  rw [exec, stands, access_live live]
  simp [Except.map, others]

theorem exec_frees (stands : s.stage i = .frees) (live : s.shared.freed = false) :
    s.exec i = some (.ok ((s.goes i .leaves).write ⟨s.shared.referenceCount, true⟩)) := by
  rw [exec, stands, access_live live]
  rfl

theorem exec_frees_again (stands : s.stage i = .frees) (freed : s.shared.freed = true) :
    s.exec i = some (.error .useAfterFree) := by
  simp [exec, stands, access, freed, Except.map]

theorem exec_leaves (stands : s.stage i = .leaves) : s.exec i = some (.ok (s.goes i .ended)) := by
  rw [exec, stands]

theorem exec_ended (stands : s.stage i = .ended) : s.exec i = none := by
  rw [exec, stands]

end Exec

variable [Fintype J]

def waiting (s : NotifyRelease J) : Finset J := Finset.univ.filter (s.stage · = .waits)

theorem mem_waiting {s : NotifyRelease J} {i : J} : i ∈ s.waiting ↔ s.stage i = .waits := by
  simp [waiting]

theorem goes_waiting [DecidableEq J] (s : NotifyRelease J) (i : J) {stage : ReleaseStage}
    (goesOn : stage ≠ .waits) : (s.goes i stage).waiting = s.waiting.erase i := by
  ext j
  rw [Finset.mem_erase, mem_waiting, mem_waiting]
  by_cases same : j = i
  · subst same
    simp [goesOn]
  · simp [goes_other s same, same]

end NotifyRelease

variable [DecidableEq J]

/-- What the count is while a thread stands at this place and `waits` jobs have not begun. -/
def Expects (waits : Nat) (shared : Shared) : ReleaseStage → Prop
  | .enters => shared.referenceCount = waits + 1 ∧ shared.freed = false
  | .loaded count => count = waits + 1 ∧ shared.freed = false
  | .stored => shared.referenceCount = waits ∧ shared.freed = false
  | .frees => shared.referenceCount = waits ∧ waits = 0 ∧ shared.freed = false
  | .leaves => shared.referenceCount = waits ∧ (shared.freed = true ↔ waits = 0)
  | .waits => shared.referenceCount = waits ∧ (shared.freed = true ↔ waits = 0)
  | .ended => shared.referenceCount = waits ∧ (shared.freed = true ↔ waits = 0)

def Current (s : NotifyRelease J) (stage : ReleaseStage) : Prop :=
  stage = .ended ∧ (∀ i, (s.stage i).inside = false) ∨
    ∃ i, stage.inside = true ∧ s.stage i = stage ∧ ∀ j, j ≠ i → (s.stage j).inside = false

structure Orderly [Fintype J] (held : J → Held) (s : NotifyRelease J) : Prop where
  held : s.held = held
  account : ∃ stage, Current s stage ∧ Expects s.waiting.card s.shared stage

section Steps

variable {held : J → Held} {s t : NotifyRelease J} {i : J} {stage : ReleaseStage}

theorem current_inside (current : Current s stage) (inside : (s.stage i).inside = true) :
    stage = s.stage i ∧ ∀ j, j ≠ i → (s.stage j).inside = false := by
  rcases current with ⟨-, nobody⟩ | ⟨k, -, isStage, others⟩
  · exact absurd inside (by simp [nobody i])
  · obtain rfl : i = k := by
      by_contra other
      exact absurd inside (by simp [others i other])
    exact ⟨isStage.symm, others⟩

theorem current_goes (others : ∀ j, j ≠ i → (s.stage j).inside = false)
    (next : stage.inside = true ∨ stage = .ended) : Current (s.goes i stage) stage := by
  have kept (j : J) (other : j ≠ i) : ((s.goes i stage).stage j).inside = false := by
    rw [goes_other s other]
    exact others j other
  rcases next with inside | rfl
  · exact .inr ⟨i, inside, goes_self s i stage, kept⟩
  · refine .inl ⟨rfl, fun j => ?_⟩
    by_cases same : j = i
    · rw [same, goes_self]
      rfl
    · exact kept j same

variable [Fintype J]

theorem waiting_inside (inside : (s.stage i).inside = true) (goesOn : stage ≠ .waits) :
    (s.goes i stage).waiting = s.waiting := by
  rw [goes_waiting s i goesOn, Finset.erase_eq_of_notMem]
  rw [mem_waiting]
  intro waits
  simp [waits, ReleaseStage.inside] at inside

theorem Orderly.expects (orderly : Orderly held s) (stands : s.stage i = stage)
    (inside : stage.inside = true) : Expects s.waiting.card s.shared stage := by
  obtain ⟨-, before, current, account⟩ := orderly
  subst stands
  exact (current_inside current inside).1 ▸ account

theorem Orderly.goes {next : ReleaseStage} (orderly : Orderly held s) (stands : s.stage i = stage)
    (inside : stage.inside = true) (goesOn : next ≠ .waits)
    (further : next.inside = true ∨ next = .ended) (shared : Shared)
    (expects : Expects s.waiting.card shared next) : Orderly held ((s.goes i next).write shared) := by
  obtain ⟨same, before, current, -⟩ := orderly
  subst stands
  have others := (current_inside current inside).2
  have kept : ((s.goes i next).write shared).waiting = s.waiting := waiting_inside inside goesOn
  refine ⟨same, next, current_goes others further, ?_⟩
  rw [kept]
  exact expects

theorem Orderly.enters (orderly : Orderly held s) (alone : EachAlone held)
    (waits : s.stage i = .waits) (admitted : s.admits i = true) :
    Orderly held (s.goes i .enters) := by
  obtain ⟨same, stage, current, account⟩ := orderly
  have nobody (j : J) (other : j ≠ i) : (s.stage j).inside = false := by
    rw [Bool.eq_false_iff]
    intro inside
    have free := of_decide_eq_true admitted j other inside
    rw [same, alone i j (Ne.symm other)] at free
    cases free
  obtain rfl : stage = .ended := by
    rcases current with ⟨ended, -⟩ | ⟨k, inside, isStage, -⟩
    · exact ended
    · by_cases here : k = i
      · rw [here, waits] at isStage
        simp [← isStage, ReleaseStage.inside] at inside
      · rw [← isStage, nobody k here] at inside
        cases inside
  have member : i ∈ s.waiting := mem_waiting.mpr waits
  have fewer := Finset.card_erase_add_one member
  obtain ⟨count, freed⟩ := account
  refine ⟨same, .enters, current_goes nobody (.inl rfl), ?_⟩
  rw [goes_waiting s i (by simp)]
  constructor
  · rw [goes_shared, count, ← fewer]
    rfl
  · rw [goes_shared, Bool.eq_false_iff, Ne, freed]
    omega

theorem Orderly.exec (orderly : Orderly held s) (alone : EachAlone held)
    {y : Except Fault (NotifyRelease J)} (taken : s.exec i = some y) :
    ∃ t, y = .ok t ∧ Orderly held t := by
  cases stands : s.stage i with
  | waits =>
      rw [exec_waits stands, Option.ite_none_right_eq_some, Option.some.injEq] at taken
      obtain ⟨admitted, rfl⟩ := taken
      exact ⟨_, rfl, orderly.enters alone stands admitted⟩
  | ended =>
      rw [exec_ended stands] at taken
      cases taken
  | enters =>
      have expects := orderly.expects stands rfl
      rw [exec_enters stands expects.2] at taken
      obtain rfl := Option.some.inj taken
      exact ⟨_, rfl, orderly.goes stands rfl (by simp) (.inl rfl) s.shared expects⟩
  | loaded count =>
      have expects := orderly.expects stands rfl
      rw [exec_loaded stands expects.2] at taken
      obtain rfl := Option.some.inj taken
      refine ⟨_, rfl, orderly.goes stands rfl (by simp) (.inl rfl) _ ?_⟩
      exact ⟨by rw [expects.1]; exact add_sub_cancel_right _ 1, rfl⟩
  | stored =>
      obtain ⟨count, live⟩ := orderly.expects stands rfl
      by_cases last : s.shared.referenceCount = 0
      · rw [exec_stored_last stands live last] at taken
        obtain rfl := Option.some.inj taken
        refine ⟨_, rfl, orderly.goes stands rfl (by simp) (.inl rfl) s.shared ?_⟩
        exact ⟨count, by omega, live⟩
      · rw [exec_stored stands live last] at taken
        obtain rfl := Option.some.inj taken
        refine ⟨_, rfl, orderly.goes stands rfl (by simp) (.inl rfl) s.shared ?_⟩
        refine ⟨count, iff_of_false (by simp [live]) fun none => last ?_⟩
        rw [count, none]
        rfl
  | frees =>
      obtain ⟨count, none, live⟩ := orderly.expects stands rfl
      rw [exec_frees stands live] at taken
      obtain rfl := Option.some.inj taken
      refine ⟨_, rfl, orderly.goes stands rfl (by simp) (.inl rfl) _ ?_⟩
      exact ⟨count, iff_of_true rfl none⟩
  | leaves =>
      have expects := orderly.expects stands rfl
      rw [exec_leaves stands] at taken
      obtain rfl := Option.some.inj taken
      exact ⟨_, rfl, orderly.goes stands rfl (by simp) (.inr rfl) s.shared expects⟩

omit [DecidableEq J] in
theorem Orderly.released (orderly : Orderly held s) (ended : ∀ i, s.stage i = .ended) :
    s.shared.freed = true := by
  obtain ⟨-, stage, current, account⟩ := orderly
  have none : s.waiting = ∅ := by
    ext i
    simp [mem_waiting, ended i]
  rw [none, Finset.card_empty] at account
  rcases current with ⟨rfl, -⟩ | ⟨i, inside, isStage, -⟩
  · exact account.2.mpr rfl
  · rw [← isStage, ended i] at inside
    cases inside

omit [DecidableEq J] in
theorem initial_waiting (held : J → Held) :
    (NotifyRelease.initial held).waiting = Finset.univ := by
  ext i
  simp [mem_waiting, NotifyRelease.initial]

omit [DecidableEq J] in
theorem initial_orderly (held : J → Held) : Orderly held (NotifyRelease.initial held) where
  held := rfl
  account := by
    refine ⟨.ended, .inl ⟨rfl, fun i => rfl⟩, ?_⟩
    rw [initial_waiting, Finset.card_univ]
    exact ⟨rfl, decide_eq_true_iff⟩

end Steps

section Runs

variable [Fintype J] {s t : NotifyRelease J}

def Fails (s : NotifyRelease J) : Prop :=
  ∃ schedule y, Reaches ReleaseStep (.ok s) schedule y ∧ ¬ Released y

theorem Fails.step {k : J} (taken : s.exec k = some (.ok t)) (fails : Fails t) : Fails s := by
  obtain ⟨schedule, y, reached, bad⟩ := fails
  exact ⟨k :: schedule, y, ⟨.ok t, ⟨s, rfl, taken⟩, reached⟩, bad⟩

theorem Fails.fault {k : J} {fault : Fault} (taken : s.exec k = some (.error fault)) : Fails s := by
  refine ⟨[k], .error fault, ⟨_, ⟨s, rfl, taken⟩, rfl⟩, ?_⟩
  rintro ⟨t, same, -⟩
  cases same

theorem admits_alone {k : J} (nobody : ∀ j, j ≠ k → (s.stage j).inside = false) :
    s.admits k = true := by
  refine decide_eq_true fun j other inside => ?_
  rw [nobody j other] at inside
  cases inside

theorem Fails.after {schedule : List J} (fails : Fails t)
    (reached : Reaches ReleaseStep (.ok s) schedule (.ok t)) : Fails s := by
  obtain ⟨further, y, later, bad⟩ := fails
  exact ⟨schedule ++ further, y, reached.append later, bad⟩

theorem alone_reaches {k : J} (stands : s.stage k = .waits)
    (nobody : ∀ j, j ≠ k → (s.stage j).inside = false) (live : s.shared.freed = false) :
    ∃ schedule, Reaches ReleaseStep (.ok s) schedule (.ok ((s.goes k .ended).write
      ⟨s.shared.referenceCount - 1, decide (s.shared.referenceCount - 1 = 0)⟩)) := by
  let count := s.shared.referenceCount
  let loads := s.goes k .enters
  let stores := s.goes k (.loaded count)
  let reads := (s.goes k .stored).write ⟨count - 1, false⟩
  have enters : s.exec k = some (.ok loads) := by
    rw [exec_waits stands, if_pos (admits_alone nobody)]
  have loaded : loads.exec k = some (.ok stores) := by
    rw [exec_enters (goes_self s k _) live, goes_goes]
    rfl
  have stored : stores.exec k = some (.ok reads) := by
    rw [exec_loaded (goes_self s k _) live, goes_goes]
  by_cases last : count - 1 = 0
  · let frees := (s.goes k .frees).write ⟨count - 1, false⟩
    let leaves := (s.goes k .leaves).write ⟨count - 1, true⟩
    have found : reads.exec k = some (.ok frees) := by
      rw [exec_stored_last (s := reads) (goes_self s k _) rfl last, write_goes, goes_goes]
    have freed : frees.exec k = some (.ok leaves) := by
      rw [exec_frees (s := frees) (goes_self s k _) rfl, write_goes, goes_goes]
      rfl
    have left : leaves.exec k = some (.ok ((s.goes k .ended).write ⟨count - 1, true⟩)) := by
      rw [exec_leaves (s := leaves) (goes_self s k _), write_goes, goes_goes]
    refine ⟨[k, k, k, k, k, k], ?_⟩
    rw [decide_eq_true last]
    exact ⟨_, ⟨_, rfl, enters⟩, _, ⟨_, rfl, loaded⟩, _, ⟨_, rfl, stored⟩, _, ⟨_, rfl, found⟩,
      _, ⟨_, rfl, freed⟩, _, ⟨_, rfl, left⟩, rfl⟩
  · let leaves := (s.goes k .leaves).write ⟨count - 1, false⟩
    have found : reads.exec k = some (.ok leaves) := by
      rw [exec_stored (s := reads) (goes_self s k _) rfl last, write_goes, goes_goes]
    have left : leaves.exec k = some (.ok ((s.goes k .ended).write ⟨count - 1, false⟩)) := by
      rw [exec_leaves (s := leaves) (goes_self s k _), write_goes, goes_goes]
    refine ⟨[k, k, k, k, k], ?_⟩
    rw [decide_eq_false last]
    exact ⟨_, ⟨_, rfl, enters⟩, _, ⟨_, rfl, loaded⟩, _, ⟨_, rfl, stored⟩, _, ⟨_, rfl, found⟩,
      _, ⟨_, rfl, left⟩, rfl⟩

/-- One step of the system for a release that nobody overlaps. -/
theorem freeNotifyStruct_reaches {before after : GenaSystem} {input : NotifyThread}
    (freed : before.freeNotifyStruct input = .ok after) {k : J} (stands : s.stage k = .waits)
    (nobody : ∀ j, j ≠ k → (s.stage j).inside = false)
    (same : before.shared[input.shared]? = some s.shared) :
    ∃ schedule t, Reaches ReleaseStep (.ok s) schedule (.ok t) ∧ t.stage k = .ended ∧
      after.shared = before.shared.set input.shared t.shared := by
  obtain ⟨count, found, set⟩ := (freeNotifyStruct_ok freed).1
  have shared : s.shared = ⟨count, false⟩ := Option.some.inj (same.symm.trans found)
  obtain ⟨schedule, reached⟩ := alone_reaches stands nobody (by rw [shared])
  rw [shared] at reached
  exact ⟨schedule, _, reached, goes_self s k .ended, set⟩

theorem Held.excludes_comm (a b : Held) : a.excludes b = b.excludes a := by
  cases a <;> cases b <;> rfl

structure Pair (i j : J) (s : NotifyRelease J) (first second : ReleaseStage) (shared : Shared) :
    Prop where
  first : s.stage i = first
  second : s.stage j = second
  shared : s.shared = shared

section Pair

variable {i j : J} {first second next : ReleaseStage} {shared after : Shared}

omit [DecidableEq J] [Fintype J] in
theorem Pair.swap (pair : Pair i j s first second shared) : Pair j i s second first shared :=
  ⟨pair.second, pair.first, pair.shared⟩

omit [Fintype J] in
theorem Pair.goes (pair : Pair i j s first second shared) (other : j ≠ i) :
    Pair i j ((s.goes i next).write after) next second after :=
  ⟨goes_self s i next, (goes_other s other next).trans pair.second, rfl⟩

theorem Pair.loads {count : Int} (pair : Pair i j s .enters second ⟨count, false⟩) (other : j ≠ i)
    (fails : ∀ t, Pair i j t (.loaded count) second ⟨count, false⟩ → Fails t) : Fails s := by
  have taken := exec_enters pair.first (by rw [pair.shared])
  rw [pair.shared] at taken
  refine (fails _ ?_).step taken
  rw [← write_shared (s.goes i _), goes_shared, pair.shared]
  exact pair.goes other

theorem Pair.stores {count now : Int} (pair : Pair i j s (.loaded count) second ⟨now, false⟩)
    (other : j ≠ i) (fails : ∀ t, Pair i j t .stored second ⟨count - 1, false⟩ → Fails t) :
    Fails s :=
  (fails _ (pair.goes other)).step (exec_loaded pair.first (by rw [pair.shared]))

theorem Pair.findsLast (pair : Pair i j s .stored second ⟨0, false⟩) (other : j ≠ i)
    (fails : ∀ t, Pair i j t .frees second ⟨0, false⟩ → Fails t) : Fails s := by
  have taken := exec_stored_last pair.first (by rw [pair.shared]) (by rw [pair.shared])
  refine (fails _ ?_).step taken
  rw [← write_shared (s.goes i _), goes_shared, pair.shared]
  exact pair.goes other

theorem Pair.frees (pair : Pair i j s .frees .frees ⟨0, false⟩) (other : j ≠ i) : Fails s := by
  have taken := exec_frees pair.first (by rw [pair.shared])
  exact (Fails.fault (exec_frees_again (pair.goes other).second rfl)).step taken

/-- Each takes one off, then each reads 0, then each frees. -/
theorem pair_fails (pair : Pair i j s .enters .enters ⟨2, false⟩) (other : j ≠ i) : Fails s := by
  refine pair.loads other fun s pair => ?_
  refine pair.stores other fun s pair => ?_
  refine pair.swap.loads other.symm fun s pair => ?_
  refine pair.stores other.symm fun s pair => ?_
  refine pair.findsLast other.symm fun s pair => ?_
  exact pair.swap.findsLast other fun s pair => pair.frees other

theorem last_two_fail (pair : Pair i j s .waits .waits ⟨2, false⟩) (other : j ≠ i)
    (nobody : ∀ k, (s.stage k).inside = false)
    (together : (s.held i).excludes (s.held j) = false) : Fails s := by
  have first : s.exec i = some (.ok (s.goes i .enters)) := by
    rw [exec_waits pair.first, if_pos (admits_alone fun k _ => nobody k)]
  have admitted : (s.goes i .enters).admits j = true := by
    refine decide_eq_true fun k different inside => ?_
    by_cases same : k = i
    · rw [same, goes_held, Held.excludes_comm, together]
    · rw [goes_other s same, nobody k] at inside
      cases inside
  have second := exec_waits ((goes_other s other .enters).trans pair.second)
  rw [if_pos admitted] at second
  have inside : Pair i j ((s.goes i .enters).goes j .enters) .enters .enters ⟨2, false⟩ :=
    ⟨(goes_other _ other.symm .enters).trans (goes_self s i .enters), goes_self _ j .enters,
      pair.shared⟩
  exact ((pair_fails inside other).step second).step first

theorem two_fail (n : Nat) (pair : Pair i j s .waits .waits ⟨n + 2, false⟩) (other : j ≠ i)
    (nobody : ∀ k, (s.stage k).inside = false) (many : s.waiting.card = n + 2)
    (together : (s.held i).excludes (s.held j) = false) : Fails s := by
  induction n generalizing s with
  | zero => exact last_two_fail (by simpa using pair) other nobody together
  | succ n ih =>
      have more : ({i, j} : Finset J).card < s.waiting.card :=
        lt_of_le_of_lt Finset.card_le_two (by omega)
      obtain ⟨k, waits, neither⟩ := Finset.exists_mem_notMem_of_card_lt_card more
      rw [Finset.mem_insert, Finset.mem_singleton, not_or] at neither
      have live : s.shared.freed = false := by rw [pair.shared]
      obtain ⟨schedule, reached⟩ := alone_reaches (mem_waiting.mp waits) (fun l _ => nobody l) live
      refine Fails.after ?_ reached
      refine ih ?_ ?_ ?_ together
      · refine ⟨?_, ?_, ?_⟩
        · exact (goes_other s (Ne.symm neither.1) .ended).trans pair.first
        · exact (goes_other s (Ne.symm neither.2) .ended).trans pair.second
        · have further : ((n + 1 : Nat) : Int) + 2 - 1 = n + 2 := by omega
          have remain : (n : Int) + 2 ≠ 0 := by omega
          simp only [write, pair.shared, further, remain, decide_false]
      · intro l
        by_cases same : l = k
        · rw [same]
          exact congrArg ReleaseStage.inside (goes_self s k .ended)
        · exact (congrArg ReleaseStage.inside (goes_other s same .ended)).trans (nobody l)
      · have fewer := Finset.card_erase_add_one waits
        have gone : (s.goes k .ended).waiting = _ := goes_waiting s k (by simp)
        change (s.goes k .ended).waiting.card = n + 2
        rw [gone]
        omega

end Pair

/-- An event is released once, in every order of the accesses, just when its jobs exclude each other
at their releases. Two that have sent nothing do not. -/
theorem released_throughout_iff (held : J → Held) :
    (∀ schedule, Throughout ReleaseStep Released (.ok (initial held)) schedule) ↔
      EachAlone held := by
  constructor
  · intro always i j different
    rw [← Bool.not_eq_false]
    intro together
    have many : ({i, j} : Finset J).card ≤ Fintype.card J := Finset.card_le_univ _
    rw [Finset.card_pair different] at many
    obtain ⟨n, count⟩ := Nat.exists_eq_add_of_le' many
    have pair : Pair i j (initial held) .waits .waits ⟨n + 2, false⟩ :=
      ⟨rfl, rfl, by simp [initial, count]⟩
    have all : (initial held).waiting.card = n + 2 := by
      rw [initial_waiting, Finset.card_univ, count]
    obtain ⟨schedule, y, reached, bad⟩ :=
      two_fail n pair (Ne.symm different) (fun k => rfl) all together
    exact bad ((always schedule).reached reached)
  · intro alone schedule
    have orderly : Throughout ReleaseStep (fun x => ∃ s, x = .ok s ∧ Orderly held s)
        (.ok (initial held)) schedule := by
      refine throughout_of_invariant (fun x i y known taken => ?_) ?_ schedule
      · obtain ⟨s, rfl, orderly⟩ := known
        obtain ⟨t, same, goesOn⟩ := taken
        obtain rfl := Except.ok.inj same
        exact orderly.exec alone goesOn
      · exact ⟨_, rfl, initial_orderly held⟩
    refine orderly.mono fun x known => ?_
    obtain ⟨s, rfl, orderly⟩ := known
    exact ⟨s, rfl, orderly.released⟩

end Runs

end Libdlna.Gena
