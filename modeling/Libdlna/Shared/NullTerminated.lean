import Mathlib.Data.List.Basic

set_option autoImplicit false

/-!
# Areas with a terminator

An area of memory is the list of its cells, the terminator shown as `none`. It holds what stands
before its first terminator. The cells after that may have any content.
-/

namespace NullTerminated

variable {α : Type}

def allocate (indeterminate : Nat → Option α) (size : Nat) : List (Option α) :=
  (List.range size).map indeterminate

@[simp] theorem length_allocate (indeterminate : Nat → Option α) (size : Nat) :
    (allocate indeterminate size).length = size := by
  simp [allocate]

def reallocate (indeterminate : Nat → Option α) (area : List (Option α)) (size : Nat) :
    List (Option α) :=
  area.take size ++ allocate indeterminate (size - area.length)

@[simp] theorem length_reallocate (indeterminate : Nat → Option α) (area : List (Option α))
    (size : Nat) : (reallocate indeterminate area size).length = size := by
  simp only [reallocate, List.length_append, List.length_take, length_allocate]
  omega

theorem reallocate_larger (indeterminate : Nat → Option α) {area : List (Option α)} {size : Nat}
    (larger : area.length ≤ size) :
    reallocate indeterminate area size =
      area ++ allocate indeterminate (size - area.length) := by
  rw [reallocate, List.take_of_length_le larger]

theorem reallocate_front (indeterminate : Nat → Option α) (front rest : List (Option α))
    (size : Nat) :
    ∃ room, reallocate indeterminate (front ++ rest) (front.length + size) = front ++ room ∧
      room.length = size := by
  refine ⟨rest.take size ++
    allocate indeterminate (front.length + size - (front ++ rest).length), ?_, ?_⟩
  · rw [reallocate, List.take_length_add_append, List.append_assoc]
  · simp only [List.length_append, List.length_take, length_allocate]
    omega

def held : List (Option α) → Option (List α)
  | [] => none
  | none :: _ => some []
  | some value :: rest => (held rest).map (value :: ·)

@[simp] theorem held_append (values : List α) (rest : List (Option α)) :
    held (values.map some ++ none :: rest) = some values := by
  induction values with
  | nil => rfl
  | cons value values ih => simp [held, ih]

theorem held_iff {area : List (Option α)} {values : List α} :
    held area = some values ↔ ∃ rest, area = values.map some ++ none :: rest := by
  constructor
  · intro holds
    induction area generalizing values with
    | nil => cases holds
    | cons cell area ih =>
        cases cell with
        | none =>
            obtain rfl := Option.some.inj holds
            exact ⟨area, rfl⟩
        | some value =>
            obtain ⟨later, inRest, rfl⟩ := Option.map_eq_some_iff.mp holds
            obtain ⟨rest, rfl⟩ := ih inRest
            exact ⟨rest, rfl⟩
  · rintro ⟨rest, rfl⟩
    exact held_append values rest

theorem held_reallocate (indeterminate : Nat → Option α) {area : List (Option α)}
    {values : List α} (holds : held area = some values) {size : Nat} (larger : area.length ≤ size) :
    held (reallocate indeterminate area size) = some values := by
  obtain ⟨rest, rfl⟩ := held_iff.mp holds
  rw [reallocate_larger _ larger, List.append_assoc, List.cons_append, held_append]

/-- A write has to stay inside the area. -/
def store (area : List (Option α)) (i : Nat) (cell : Option α) : Option (List (Option α)) :=
  if i < area.length then some (area.set i cell) else none

@[simp] theorem store_append (front rest : List (Option α)) (old cell : Option α) :
    store (front ++ old :: rest) front.length cell = some (front ++ cell :: rest) := by
  simp [store]

def copy (area : List (Option α)) (i : Nat) : List α → Option (List (Option α))
  | [] => store area i none
  | value :: rest => (store area i (some value)).bind fun area => copy area (i + 1) rest

theorem copy_append (front room : List (Option α)) (values : List α)
    (fits : values.length < room.length) :
    copy (front ++ room) front.length values =
      some (front ++ values.map some ++ none :: room.drop (values.length + 1)) := by
  induction values generalizing front room with
  | nil =>
      cases room with
      | nil => cases fits
      | cons old room => simp [copy]
  | cons value values ih =>
      cases room with
      | nil => cases fits
      | cons old room =>
          have next := ih (front ++ [some value]) room (Nat.lt_of_succ_lt_succ fits)
          rw [copy, store_append, Option.bind_some]
          simpa using next

theorem copy_fits (area : List (Option α)) (values : List α)
    (fits : values.length < area.length) :
    ∃ after, copy area 0 values = some after ∧ held after = some values ∧
      after.length = area.length := by
  refine ⟨_, copy_append [] area values fits, by simp, ?_⟩
  simp only [List.length_append, List.length_map, List.length_cons, List.length_drop,
    List.length_nil]
  omega

def concatenate (area : List (Option α)) (values : List α) : Option (List (Option α)) :=
  (held area).bind fun before => copy area before.length values

theorem concatenate_fits {area : List (Option α)} {before : List α} (values : List α)
    (holds : held area = some before) (fits : before.length + values.length < area.length) :
    ∃ after, concatenate area values = some after ∧ held after = some (before ++ values) ∧
      after.length = area.length := by
  obtain ⟨rest, rfl⟩ := held_iff.mp holds
  simp only [List.length_append, List.length_map, List.length_cons] at fits
  have copied := copy_append (before.map some) (none :: rest) values
    (by simp only [List.length_cons]; omega)
  rw [List.length_map] at copied
  refine ⟨_, by rw [concatenate, holds, Option.bind_some, copied], ?_, ?_⟩
  · rw [← List.map_append, held_append]
  · simp only [List.length_append, List.length_map, List.length_cons, List.length_drop]
    omega

end NullTerminated
