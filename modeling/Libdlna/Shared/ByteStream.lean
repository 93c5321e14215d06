import Mathlib.Data.List.Basic

set_option autoImplicit false

/-!
# Streams of a fixed content

A stream is a list with a position in it. A read delivers what follows the position and moves past
it; a seek moves to a target, unless the target is outside of the list.
-/

structure ByteStream (A : Type) where
  content : List A
  pos : Nat
  inside : pos ≤ content.length

namespace ByteStream

variable {A : Type}

inductive Origin where
  | beginning
  | position
  | ending
  deriving DecidableEq

def opened (content : List A) : ByteStream A := ⟨content, 0, Nat.zero_le _⟩

variable (stream : ByteStream A)

def left : Nat := stream.content.length - stream.pos

theorem pos_add_left : stream.pos + stream.left = stream.content.length :=
  Nat.add_sub_cancel' stream.inside

theorem advanced_inside (count : Nat) :
    stream.pos + min count stream.left ≤ stream.content.length := by
  rw [← stream.pos_add_left]
  exact Nat.add_le_add_left (Nat.min_le_right _ _) _

def read (count : Nat) : List A × ByteStream A :=
  ((stream.content.drop stream.pos).take count,
    ⟨stream.content, stream.pos + min count stream.left, stream.advanced_inside count⟩)

def target (offset : Int) : Origin → Int
  | .beginning => offset
  | .position => stream.pos + offset
  | .ending => stream.content.length + offset

def seek (goal : Int) : Option (ByteStream A) :=
  if inside : 0 ≤ goal ∧ goal ≤ stream.content.length then
    some ⟨stream.content, goal.toNat, Int.toNat_le.mpr inside.2⟩
  else none

theorem seek_some {goal : Int} {moved : ByteStream A} :
    stream.seek goal = some moved ↔ moved.content = stream.content ∧ (moved.pos : Int) = goal := by
  unfold seek
  constructor
  · intro found
    split at found
    next inside =>
      cases found
      exact ⟨rfl, Int.toNat_of_nonneg inside.1⟩
    next => cases found
  · rintro ⟨same, rfl⟩
    have bound := moved.inside
    rw [same] at bound
    rw [dif_pos ⟨Int.natCast_nonneg _, Int.ofNat_le.mpr bound⟩]
    cases moved
    cases same
    rfl

end ByteStream
