import Mathlib.Data.List.Perm.Basic

set_option autoImplicit false

/-!
# One place of a list

A step of a concurrent system takes what stands at one place away and puts something else there,
which may be nothing or several items.
-/

namespace Places

variable {α : Type}

def replace (i : Nat) (new items : List α) : List α :=
  items.take i ++ new ++ items.drop (i + 1)

theorem split_at {i : Nat} {items : List α} {x : α} (standing : items[i]? = some x) :
    items = items.take i ++ x :: items.drop (i + 1) := by
  obtain ⟨inside, rfl⟩ := List.getElem?_eq_some_iff.mp standing
  rw [List.getElem_cons_drop, List.take_append_drop]

theorem replace_perm {i : Nat} {items : List α} {x : α} (standing : items[i]? = some x)
    (new : List α) : (x :: replace i new items).Perm (new ++ items) := by
  calc x :: replace i new items
    _ = x :: (items.take i ++ (new ++ items.drop (i + 1))) := by
        rw [replace, List.append_assoc]
    List.Perm _ (items.take i ++ x :: (new ++ items.drop (i + 1))) := List.perm_middle.symm
    List.Perm _ (items.take i ++ (new ++ x :: items.drop (i + 1))) :=
        List.perm_middle.symm.append_left _
    List.Perm _ (new ++ (items.take i ++ x :: items.drop (i + 1))) := List.perm_append_comm_assoc ..
    _ = new ++ items := by rw [← split_at standing]

theorem getElem?_replace {i : Nat} {items : List α} {x : α} (standing : items[i]? = some x)
    (y : α) : (replace i [y] items)[i]? = some y := by
  obtain ⟨inside, _⟩ := List.getElem?_eq_some_iff.mp standing
  have before : (items.take i).length = i := List.length_take_of_le (Nat.le_of_lt inside)
  simp [replace, before]

theorem mem_replace {i : Nat} {new items : List α} {y : α} (member : y ∈ replace i new items) :
    y ∈ new ∨ y ∈ items := by
  simp only [replace, List.mem_append] at member
  rcases member with (before | here) | after
  · exact .inr (List.mem_of_mem_take before)
  · exact .inl here
  · exact .inr (List.mem_of_mem_drop after)

theorem countP_replace {i : Nat} {items : List α} {x : α} (standing : items[i]? = some x)
    (new : List α) (p : α → Bool) :
    (replace i new items).countP p + (if p x then 1 else 0) = new.countP p + items.countP p := by
  rw [← List.countP_cons, (replace_perm standing new).countP_eq, List.countP_append]

theorem flatMap_replace {β : Type} {i : Nat} {items : List α} {x : α}
    (standing : items[i]? = some x) (new : List α) (f : α → List β) :
    (f x ++ (replace i new items).flatMap f).Perm (new.flatMap f ++ items.flatMap f) := by
  rw [← List.flatMap_cons, ← List.flatMap_append]
  exact (replace_perm standing new).flatMap_right f

end Places
