import Mathlib.Data.List.Basic
import Mathlib.Data.List.Nodup

set_option autoImplicit false

/-!
# Logs of what is acquired, used and released

A log is balanced when each handle in it is acquired, then used any number of times, then released,
and never mentioned again.
-/

inductive Lifecycle (H : Type) where
  | acquired (handle : H)
  | used (handle : H)
  | released (handle : H)
  deriving DecidableEq

namespace Lifecycle

variable {H : Type}

def handle : Lifecycle H → H
  | acquired h => h
  | used h => h
  | released h => h

@[simp] theorem handle_acquired (h : H) : (acquired h).handle = h := rfl
@[simp] theorem handle_used (h : H) : (used h).handle = h := rfl
@[simp] theorem handle_released (h : H) : (released h).handle = h := rfl

variable [DecidableEq H]

def history (h : H) (log : List (Lifecycle H)) : List (Lifecycle H) :=
  log.filter fun step => decide (step.handle = h)

def Balanced (log : List (Lifecycle H)) : Prop :=
  ∀ step ∈ log, ∃ uses,
    history step.handle log =
      acquired step.handle :: List.replicate uses (used step.handle) ++ [released step.handle]

structure Holding (log : List (Lifecycle H)) (held : List H) : Prop where
  nodup : held.Nodup
  isOpen : ∀ h ∈ held, ∃ uses, history h log = acquired h :: List.replicate uses (used h)
  closed : ∀ h, h ∉ held → history h log = [] ∨
    ∃ uses, history h log = acquired h :: List.replicate uses (used h) ++ [released h]

variable {log later : List (Lifecycle H)} {held : List H} {h other : H}

theorem history_append (h : H) (log : List (Lifecycle H)) (step : Lifecycle H) :
    history h (log ++ [step]) =
      if step.handle = h then history h log ++ [step] else history h log := by
  by_cases same : step.handle = h <;> simp [history, same]

theorem history_eq_nil : history h log = [] ↔ ∀ step ∈ log, step.handle ≠ h := by
  simp [history, List.filter_eq_nil_iff]

theorem Holding.mem (holding : Holding log held) (member : h ∈ held) :
    ∃ step ∈ log, step.handle = h := by
  obtain ⟨uses, isHistory⟩ := holding.isOpen h member
  have first : acquired h ∈ history h log := by
    rw [isHistory]
    exact List.mem_cons_self
  exact ⟨acquired h, List.mem_of_mem_filter first, rfl⟩

theorem holding_nil : Holding ([] : List (Lifecycle H)) [] where
  nodup := List.nodup_nil
  isOpen := fun _ member => absurd member List.not_mem_nil
  closed := fun _ _ => .inl rfl

theorem Holding.balanced (holding : Holding log []) : Balanced log := by
  intro step member
  rcases holding.closed step.handle List.not_mem_nil with none | closed
  · exact absurd rfl (history_eq_nil.mp none step member)
  · exact closed

theorem Holding.acquire (holding : Holding log held) (fresh : ∀ step ∈ log, step.handle ≠ h) :
    Holding (log ++ [acquired h]) (held ++ [h]) where
  nodup := by
    refine List.nodup_append.mpr ⟨holding.nodup, List.nodup_singleton h, ?_⟩
    rintro other member _ same
    obtain ⟨step, inLog, isHandle⟩ := holding.mem member
    rw [List.mem_singleton.mp same, ← isHandle]
    exact fresh step inLog
  isOpen := by
    intro other member
    by_cases same : other = h
    · subst same
      refine ⟨0, ?_⟩
      rw [history_append, handle_acquired, if_pos rfl, history_eq_nil.mpr fresh]
      rfl
    · have before : other ∈ held := by simpa [same] using member
      rw [history_append, handle_acquired, if_neg (Ne.symm same)]
      exact holding.isOpen other before
  closed := by
    intro other missing
    have parts : other ∉ held ∧ other ≠ h := by simpa using missing
    rw [history_append, handle_acquired, if_neg (Ne.symm parts.2)]
    exact holding.closed other parts.1

theorem Holding.use (holding : Holding log held) (member : h ∈ held) :
    Holding (log ++ [used h]) held where
  nodup := holding.nodup
  isOpen := by
    intro other inHeld
    by_cases same : other = h
    · subst same
      obtain ⟨uses, isHistory⟩ := holding.isOpen other member
      refine ⟨uses + 1, ?_⟩
      rw [history_append, handle_used, if_pos rfl, isHistory, List.replicate_succ']
      rfl
    · rw [history_append, handle_used, if_neg (Ne.symm same)]
      exact holding.isOpen other inHeld
  closed := by
    intro other missing
    have different : h ≠ other := fun same => missing (same ▸ member)
    rw [history_append, handle_used, if_neg different]
    exact holding.closed other missing

theorem Holding.release (holding : Holding log held) (member : h ∈ held) :
    Holding (log ++ [released h]) (held.erase h) where
  nodup := holding.nodup.erase h
  isOpen := by
    intro other inHeld
    obtain ⟨different, before⟩ := (List.Nodup.mem_erase_iff holding.nodup).mp inHeld
    rw [history_append, handle_released, if_neg (Ne.symm different)]
    exact holding.isOpen other before
  closed := by
    intro other missing
    by_cases same : other = h
    · subst same
      obtain ⟨uses, isHistory⟩ := holding.isOpen other member
      refine .inr ⟨uses, ?_⟩
      rw [history_append, handle_released, if_pos rfl, isHistory]
    · have before : other ∉ held := by
        intro inHeld
        exact missing ((List.Nodup.mem_erase_iff holding.nodup).mpr ⟨same, inHeld⟩)
      rw [history_append, handle_released, if_neg (Ne.symm same)]
      exact holding.closed other before

theorem not_balanced_of_again (again : released h ∈ later) :
    ¬ Balanced (log ++ released h :: later) := by
  intro balanced
  obtain ⟨uses, isHistory⟩ := balanced (released h) (by simp)
  have once : (history h (log ++ released h :: later)).count (released h) = 1 := by
    rw [show history h (log ++ released h :: later) = _ from isHistory]
    simp [handle, List.count_replicate]
  have twice : 2 ≤ (log ++ released h :: later).count (released h) := by
    have more := List.count_pos_iff.mpr again
    simp only [List.count_append, List.count_cons_self]
    omega
  have same : (history h (log ++ released h :: later)).count (released h) =
      (log ++ released h :: later).count (released h) :=
    List.count_filter (by simp [handle])
  omega

end Lifecycle
