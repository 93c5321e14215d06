import Mathlib.Data.Nat.ModEq

set_option autoImplicit false

/-!
# Histories and change stamps

A history lists the actions of a run, each with the state that it leads to. A stamp counts the
changes of a value in the history modulo the size of the counter, so that it tells two moments apart
as long as fewer changes lie between them.
-/

namespace Histories

variable {S A V : Type} {relation other : S → A → S → Prop} {s : S} {history : List (A × S)}

def Links (relation : S → A → S → Prop) : S → List (A × S) → Prop
  | _, [] => True
  | s, (a, t) :: rest => relation s a t ∧ Links relation t rest

def final : S → List (A × S) → S
  | s, [] => s
  | _, (_, t) :: rest => final t rest

@[simp] theorem final_append (before later : List (A × S)) :
    final s (before ++ later) = final (final s before) later := by
  induction before generalizing s with
  | nil => rfl
  | cons move rest ih => exact ih

@[simp] theorem links_append {before later : List (A × S)} :
    Links relation s (before ++ later) ↔
      Links relation s before ∧ Links relation (final s before) later := by
  induction before generalizing s with
  | nil => simp [Links, final]
  | cons move rest ih => simp [Links, final, ih, and_assoc]

theorem Links.and (links : Links relation s history) (others : Links other s history) :
    Links (fun s a t => relation s a t ∧ other s a t) s history := by
  induction history generalizing s with
  | nil => trivial
  | cons move rest ih => exact ⟨⟨links.1, others.1⟩, ih links.2 others.2⟩

theorem invariant_final {invariant : S → Prop}
    (preserved : ∀ s a t, invariant s → relation s a t → invariant t) (initial : invariant s)
    (links : Links relation s history) : invariant (final s history) := by
  induction history generalizing s with
  | nil => exact initial
  | cons move rest ih => exact ih (preserved s move.1 move.2 initial links.1) links.2

theorem links_of_invariant {invariant : S → Prop}
    (preserved : ∀ s a t, invariant s → relation s a t → invariant t)
    (each : ∀ s a t, invariant s → relation s a t → other s a t) (initial : invariant s)
    (links : Links relation s history) : Links other s history := by
  induction history generalizing s with
  | nil => trivial
  | cons move rest ih =>
      exact ⟨each s move.1 move.2 initial links.1,
        ih (preserved s move.1 move.2 initial links.1) links.2⟩

theorem links_of_cuts (cuts : ∀ before a t later, history = before ++ (a, t) :: later →
    relation (final s before) a t) : Links relation s history := by
  induction history generalizing s with
  | nil => trivial
  | cons move rest ih =>
      refine ⟨cuts [] move.1 move.2 rest rfl, ih fun before a t later cut => ?_⟩
      exact cuts (move :: before) a t later (by rw [cut, List.cons_append])

theorem snapshots_current_iff {written : List V} {current : V}
    (last : ∀ v ∈ written.getLast?, v = current) :
    (∀ v ∈ written, v = current) ↔ written.Pairwise (· = ·) := by
  constructor
  · intro same
    exact List.pairwise_of_forall_mem_list fun v inV w inW => (same v inV).trans (same w inW).symm
  · intro agree v member
    obtain rfl | ⟨earlier, final, rfl⟩ := written.eq_nil_or_concat
    · cases member
    · have isCurrent : final = current := last final (by simp)
      rw [List.concat_eq_append, List.pairwise_append] at agree
      rw [List.concat_eq_append, List.mem_append, List.mem_singleton] at member
      rcases member with inEarlier | rfl
      · exact (agree.2.2 v inEarlier final (List.mem_singleton_self final)).trans isCurrent
      · exact isCurrent

variable {value : S → V} {stamp : S → Nat} {size : Nat}

def changes [DecidableEq V] (value : S → V) : S → List (A × S) → Nat
  | _, [] => 0
  | s, (_, t) :: rest => (if value t = value s then 0 else 1) + changes value t rest

def Stamped (value : S → V) (stamp : S → Nat) (size : Nat) (s : S) (_ : A) (t : S) : Prop :=
  (value t = value s ∧ stamp t = stamp s) ∨
    (value t ≠ value s ∧ stamp t ≡ stamp s + 1 [MOD size])

variable [DecidableEq V]

theorem stamp_final (stamped : Links (Stamped value stamp size) s history) :
    stamp (final s history) ≡ stamp s + changes value s history [MOD size] := by
  induction history generalizing s with
  | nil => exact Nat.ModEq.refl _
  | cons move rest ih =>
      have later := ih stamped.2
      rcases stamped.1 with ⟨unchanged, same⟩ | ⟨changed, next⟩
      · simpa [final, changes, unchanged, same] using later
      · refine later.trans ?_
        simpa [changes, changed, Nat.add_assoc] using next.add_right (changes value move.2 rest)

theorem stamp_differs (stamped : Links (Stamped value stamp size) s history)
    (changed : 0 < changes value s history) (few : changes value s history < size) :
    stamp (final s history) ≠ stamp s := by
  intro same
  have counted := stamp_final stamped
  rw [same] at counted
  have none : 0 ≡ changes value s history [MOD size] :=
    Nat.ModEq.add_left_cancel' (stamp s) counted
  exact changed.ne (none.eq_of_lt_of_lt (Nat.zero_lt_of_lt few) few)

end Histories
