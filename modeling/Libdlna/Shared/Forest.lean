import Mathlib.Data.List.Basic
import Mathlib.Logic.Relation

set_option autoImplicit false

/-!
# Ordered forests

A forest whose inner nodes carry values too, spelled first child before next sibling, so that a
recursion over it needs no nested lists.
-/

inductive Forest (α : Type) where
  | nil
  | leaf (value : α) (rest : Forest α)
  | node (value : α) (children rest : Forest α)

namespace Forest

variable {α : Type}

def roots : Forest α → List α
  | nil => []
  | leaf value rest => value :: roots rest
  | node value _ rest => value :: roots rest

def leaves : Forest α → List α
  | nil => []
  | leaf value rest => value :: leaves rest
  | node _ children rest => leaves children ++ leaves rest

def height : Forest α → Nat
  | nil => 0
  | leaf _ rest => height rest
  | node _ children rest => max (height children + 1) (height rest)

def All (onLeaf : α → Prop) (onNode : α → List α → Prop) : Forest α → Prop
  | nil => True
  | leaf value rest => onLeaf value ∧ All onLeaf onNode rest
  | node value children rest =>
      onNode value (roots children) ∧ All onLeaf onNode children ∧ All onLeaf onNode rest

theorem All.leaves {onLeaf : α → Prop} {onNode : α → List α → Prop} {forest : Forest α}
    (all : forest.All onLeaf onNode) : ∀ value ∈ forest.leaves, onLeaf value := by
  induction forest with
  | nil => simp [Forest.leaves]
  | leaf value rest ihRest => exact List.forall_mem_cons.mpr ⟨all.1, ihRest all.2⟩
  | node value children rest ihChildren ihRest =>
      exact List.forall_mem_append.mpr ⟨ihChildren all.2.1, ihRest all.2.2⟩

theorem leaves_of_roots_nil {forest : Forest α} (empty : forest.roots = []) :
    forest.leaves = [] := by
  cases forest with
  | nil => rfl
  | leaf value rest => simp [roots] at empty
  | node value children rest => simp [roots] at empty

end Forest

/-!
# Forests as relations

`lists p c` says that `c` is a child of `p`. No value has two parents, and every child is one level
deeper than its parent, so that subtrees of different children are disjoint.
-/

namespace Descent

open Relation

variable {α : Type} {lists : α → α → Prop} {depth : α → Nat} {p c c' x y : α}

theorem depth_le (deeper : ∀ p c, lists p c → depth c = depth p + 1)
    (below : ReflTransGen lists x y) : depth x ≤ depth y := by
  induction below with
  | refl => exact Nat.le_refl _
  | tail _ last ih =>
      rw [deeper _ _ last]
      exact Nat.le_succ_of_le ih

theorem not_below_child (deeper : ∀ p c, lists p c → depth c = depth p + 1) (child : lists p c) :
    ¬ ReflTransGen lists c p := by
  intro below
  have less := depth_le deeper below
  rw [deeper p c child] at less
  exact Nat.not_succ_le_self _ less

theorem eq_of_depth (deeper : ∀ p c, lists p c → depth c = depth p + 1)
    (below : ReflTransGen lists x y) (same : depth x = depth y) : x = y := by
  rcases ReflTransGen.cases_head below with rfl | ⟨next, first, rest⟩
  · rfl
  · have less := depth_le deeper rest
    rw [deeper x next first] at less
    exact absurd less (by omega)

theorem siblings_disjoint (unique : Relator.LeftUnique lists)
    (deeper : ∀ p c, lists p c → depth c = depth p + 1) (child : lists p c) (child' : lists p c')
    (below : ReflTransGen lists c x) (below' : ReflTransGen lists c' x) : c = c' := by
  have same : depth c = depth c' := (deeper p c child).trans (deeper p c' child').symm
  -- the ancestors of x form a chain
  have chain := ReflTransGen.total_of_right_unique (r := Function.swap lists)
    (fun a b e first second => unique first second) (reflTransGen_swap.mpr below)
    (reflTransGen_swap.mpr below')
  rcases chain with up | up
  · exact (eq_of_depth deeper (reflTransGen_swap.mp up) same.symm).symm
  · exact eq_of_depth deeper (reflTransGen_swap.mp up) same

end Descent
