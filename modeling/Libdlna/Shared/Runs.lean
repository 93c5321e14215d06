import Mathlib.Data.Fintype.Pigeonhole

set_option autoImplicit false

/-!
# Runs of labelled transition systems

A system is a relation `step s a t`: action `a` leads from `s` to `t`. An action that is not
enabled, or whose code has no defined result, has no target.
-/

namespace Runs

variable {S A : Type} (step : S → A → S → Prop)

def Along (taken : S → A → S → Prop) : S → List A → Prop
  | _, [] => True
  | s, a :: rest => ∀ t, step s a t → taken s a t ∧ Along taken t rest

def Throughout (holds : S → Prop) : S → List A → Prop
  | s, [] => holds s
  | s, a :: rest => holds s ∧ ∀ t, step s a t → Throughout holds t rest

def Reaches : S → List A → S → Prop
  | s, [], t => s = t
  | s, a :: rest, t => ∃ u, step s a u ∧ Reaches u rest t

variable {step}

theorem Throughout.head {holds : S → Prop} {s : S} {actions : List A}
    (run : Throughout step holds s actions) : holds s := by
  cases actions with
  | nil => exact run
  | cons a rest => exact run.1

theorem Throughout.reached {holds : S → Prop} {s t : S} {actions : List A}
    (run : Throughout step holds s actions) (reached : Reaches step s actions t) : holds t := by
  induction actions generalizing s with
  | nil => exact reached ▸ run
  | cons a rest ih =>
      obtain ⟨u, taken, further⟩ := reached
      exact ih (run.2 u taken) further

theorem Reaches.append {s t u : S} {before after : List A} (first : Reaches step s before t)
    (last : Reaches step t after u) : Reaches step s (before ++ after) u := by
  induction before generalizing s with
  | nil => exact first ▸ last
  | cons a rest ih =>
      obtain ⟨v, taken, further⟩ := first
      exact ⟨v, taken, ih further⟩

theorem Reaches.invariant {invariant : S → Prop}
    (preserved : ∀ s a t, invariant s → step s a t → invariant t) {s t : S} {actions : List A}
    (initial : invariant s) (reached : Reaches step s actions t) : invariant t := by
  induction actions generalizing s with
  | nil => exact reached ▸ initial
  | cons a rest ih =>
      obtain ⟨u, taken, further⟩ := reached
      exact ih (preserved s a u initial taken) further

theorem Throughout.mono {before after : S → Prop} (weaker : ∀ s, before s → after s)
    {s : S} {actions : List A} (run : Throughout step before s actions) :
    Throughout step after s actions := by
  induction actions generalizing s with
  | nil => exact weaker s run
  | cons a rest ih => exact ⟨weaker s run.1, fun t taken => ih (run.2 t taken)⟩

theorem Along.mono {before after : S → A → S → Prop}
    (weaker : ∀ s a t, step s a t → before s a t → after s a t)
    {s : S} {actions : List A} (run : Along step before s actions) :
    Along step after s actions := by
  induction actions generalizing s with
  | nil => trivial
  | cons a rest ih =>
      intro t taken
      exact ⟨weaker s a t taken (run t taken).1, ih (run t taken).2⟩

theorem throughout_of_step {invariant : S → Prop} {allowed : S → A → S → Prop}
    (preserved : ∀ s a t, invariant s → allowed s a t → step s a t → invariant t)
    {s : S} {actions : List A} (initial : invariant s)
    (run : Along step allowed s actions) : Throughout step invariant s actions := by
  induction actions generalizing s with
  | nil => exact initial
  | cons a rest ih =>
      refine ⟨initial, fun t taken => ?_⟩
      exact ih (preserved s a t initial (run t taken).1 taken) (run t taken).2

/-- A condition on the steps is exact when it preserves the invariant and its failure is visible. -/
theorem throughout_iff_along {invariant holds : S → Prop} {allowed : S → A → S → Prop}
    (implies : ∀ s, invariant s → holds s)
    (preserved : ∀ s a t, invariant s → step s a t → allowed s a t → invariant t)
    (broken : ∀ s a t, invariant s → step s a t → ¬ allowed s a t → ¬ holds t)
    {s : S} (initial : invariant s) (actions : List A) :
    Throughout step holds s actions ↔ Along step allowed s actions := by
  induction actions generalizing s with
  | nil => exact ⟨fun _ => trivial, fun _ => implies s initial⟩
  | cons a rest ih =>
      constructor
      · intro run t taken
        have later := run.2 t taken
        have here : allowed s a t := by
          by_contra refused
          exact broken s a t initial taken refused later.head
        exact ⟨here, (ih (preserved s a t initial taken here)).mp later⟩
      · intro run
        refine ⟨implies s initial, fun t taken => ?_⟩
        have here := run t taken
        exact (ih (preserved s a t initial taken here.1)).mpr here.2

theorem along_of_invariant {invariant : S → Prop} {allowed taken : S → A → S → Prop}
    (preserved : ∀ s a t, invariant s → allowed s a t → step s a t → invariant t)
    (each : ∀ s a t, invariant s → allowed s a t → step s a t → taken s a t)
    {s : S} {actions : List A} (initial : invariant s)
    (run : Along step allowed s actions) : Along step taken s actions := by
  induction actions generalizing s with
  | nil => trivial
  | cons a rest ih =>
      intro t move
      have here := (run t move).1
      exact ⟨each s a t initial here move, ih (preserved s a t initial here move) (run t move).2⟩

theorem throughout_of_invariant {invariant : S → Prop}
    (preserved : ∀ s a t, invariant s → step s a t → invariant t) {s : S} (initial : invariant s)
    (actions : List A) : Throughout step invariant s actions := by
  induction actions generalizing s with
  | nil => exact initial
  | cons a rest ih => exact ⟨initial, fun t taken => ih (preserved s a t initial taken)⟩

theorem along_of_step {invariant : S → Prop} {taken : S → A → S → Prop}
    (preserved : ∀ s a t, invariant s → step s a t → invariant t)
    (each : ∀ s a t, invariant s → step s a t → taken s a t) {s : S} (initial : invariant s)
    (actions : List A) : Along step taken s actions := by
  induction actions generalizing s with
  | nil => trivial
  | cons a rest ih =>
      intro t move
      exact ⟨each s a t initial move, ih (preserved s a t initial move)⟩

end Runs

/-!
# Loops with finitely many states

`next` yields the loop's state at the following iteration, or `none` when the loop is left.
-/

namespace FiniteLoop

variable {S : Type} (next : S → Option S)

def after : Nat → S → Option S
  | 0, s => some s
  | n + 1, s => (next s).bind (after n)

theorem after_one (s : S) : after next 1 s = next s := by
  cases step : next s with
  | none => simp [after, step]
  | some t => simp [after, step]

theorem after_add (m n : Nat) (s : S) :
    after next (m + n) s = (after next m s).bind (after next n) := by
  induction m generalizing s with
  | zero => simp [after]
  | succ m ih =>
      rw [Nat.succ_add]
      cases step : next s with
      | none => simp [after, step]
      | some t => simp [after, step, ih]

theorem after_prior {m n : Nat} (less : m ≤ n) {s t : S} (reached : after next n s = some t) :
    ∃ u, after next m s = some u := by
  obtain ⟨rest, rfl⟩ := Nat.exists_eq_add_of_le less
  rw [after_add] at reached
  cases prior : after next m s with
  | none => simp [prior] at reached
  | some u => exact ⟨u, rfl⟩

theorem endless_of_repeats {i j : Nat} (less : i < j) {s u : S}
    (first : after next i s = some u) (second : after next j s = some u) :
    ∀ n, (after next n s).isSome := by
  have returns : after next (j - i) u = some u := by
    have split := after_add next i (j - i) s
    rw [Nat.add_sub_cancel' less.le, second, first] at split
    exact split.symm
  have around (k : Nat) : after next (i + k * (j - i)) s = some u := by
    induction k with
    | zero => simpa using first
    | succ k ih =>
        rw [Nat.succ_mul, ← Nat.add_assoc, after_add, ih]
        exact returns
  intro n
  have far : n ≤ i + n * (j - i) :=
    (Nat.le_mul_of_pos_right n (Nat.sub_pos_of_lt less)).trans (Nat.le_add_left _ _)
  obtain ⟨v, found⟩ := after_prior next far (around n)
  simp [found]

/-- A loop that is still running after as many iterations as it has states never ends. -/
theorem endless {size : Nat} {number : S → Fin size} (injective : Function.Injective number)
    {s : S} (running : (after next size s).isSome) : ∀ n, (after next n s).isSome := by
  obtain ⟨last, reached⟩ := Option.isSome_iff_exists.mp running
  let visited (i : Fin (size + 1)) : S :=
    (after_prior next (Nat.le_of_lt_succ i.isLt) reached).choose
  have visits (i : Fin (size + 1)) : after next i s = some (visited i) :=
    (after_prior next (Nat.le_of_lt_succ i.isLt) reached).choose_spec
  obtain ⟨i, j, different, sameNumber⟩ :=
    Fintype.exists_ne_map_eq_of_card_lt (fun i => number (visited i)) (by simp)
  have same := injective sameNumber
  rcases Nat.lt_or_gt_of_ne (fun equal => different (Fin.ext equal)) with less | less
  · exact endless_of_repeats next less (visits i) (same ▸ visits j)
  · exact endless_of_repeats next less (visits j) (same ▸ visits i)

theorem endless_of_visits [DecidableEq S] {visited : List S} {state : Nat → S} {s : S}
    (visits : ∀ i ≤ visited.length, state i ∈ visited ∧ after next (i + 1) s = some (state i)) :
    ∀ n, (after next n s).isSome := by
  have crowded : visited.toFinset.card < (Finset.range (visited.length + 1)).card := by
    rw [Finset.card_range]
    exact Nat.lt_succ_of_le (List.toFinset_card_le visited)
  have inside : ∀ i ∈ Finset.range (visited.length + 1), state i ∈ visited.toFinset :=
    fun i within => List.mem_toFinset.mpr (visits i (Finset.mem_range_succ_iff.mp within)).1
  obtain ⟨i, inI, j, inJ, different, same⟩ :=
    Finset.exists_ne_map_eq_of_card_lt_of_maps_to crowded inside
  have first := (visits i (Finset.mem_range_succ_iff.mp inI)).2
  have second := (visits j (Finset.mem_range_succ_iff.mp inJ)).2
  rcases Nat.lt_or_gt_of_ne different with less | less
  · exact endless_of_repeats next (Nat.succ_lt_succ less) (same ▸ first) second
  · exact endless_of_repeats next (Nat.succ_lt_succ less) second (same ▸ first)

end FiniteLoop
