import Mathlib.Data.List.Infix
import Mathlib.Data.List.TakeWhile
import Mathlib.Tactic.Linarith

set_option autoImplicit false

/-!
# C strings and numerals

A C string is the list of its bytes, each shown as the character with that code, without the
terminator. Numbers follow the LP64 data model.
-/

namespace CString

abbrev Text := List Char

section Search

variable {α : Type} [DecidableEq α]

def strstr (needle : List α) : List α → Option (List α)
  | [] => if needle = [] then some [] else none
  | c :: rest => if needle <+: c :: rest then some (c :: rest) else strstr needle rest

theorem strstr_isSome (needle hay : List α) : (strstr needle hay).isSome ↔ needle <:+: hay := by
  induction hay with
  | nil => by_cases empty : needle = [] <;> simp [strstr, empty]
  | cons c rest ih =>
      by_cases here : needle <+: c :: rest
      · simp [strstr, here, here.isInfix]
      · simp [strstr, here, ih, List.infix_cons_iff]

theorem strstr_eq_some {needle hay tail : List α} (found : strstr needle hay = some tail) :
    tail <:+ hay ∧ needle <+: tail := by
  induction hay with
  | nil =>
      by_cases empty : needle = []
      · simp_all [strstr]
      · simp [strstr, empty] at found
  | cons c rest ih =>
      by_cases here : needle <+: c :: rest
      · simp only [strstr, here, if_true, Option.some.injEq] at found
        subst found
        exact ⟨List.suffix_refl _, here⟩
      · simp only [strstr, here, if_false] at found
        exact ⟨(ih found).1.trans (List.suffix_cons c rest), (ih found).2⟩

omit [DecidableEq α] in
theorem infix_append_cons {needle first second : List α} {q : α} (absent : q ∉ needle) :
    needle <:+: first ++ q :: second ↔ needle <:+: first ∨ needle <:+: second := by
  constructor
  · intro inside
    rcases List.infix_append_iff.mp inside with left | right | ⟨before, after, rfl, ends, starts⟩
    · exact .inl left
    · rcases List.infix_cons_iff.mp right with here | further
      · cases needle with
        | nil => exact .inl (List.nil_infix)
        | cons c rest =>
            obtain ⟨rfl, -⟩ := List.cons_prefix_cons.mp here
            exact absurd (List.mem_cons_self ..) absent
      · exact .inr further
    · cases after with
      | nil => exact .inl (by simpa using ends.isInfix)
      | cons c rest =>
          obtain ⟨rfl, -⟩ := List.cons_prefix_cons.mp starts
          exact absurd (by simp) absent
  · rintro (left | right)
    · exact List.infix_append_of_infix_left left
    · exact List.infix_append_of_infix_right (List.infix_cons_iff.mpr (.inr right))

def strrchr (c : α) : List α → Option (List α)
  | [] => none
  | d :: rest =>
      match strrchr c rest with
      | some tail => some tail
      | none => if d = c then some (d :: rest) else none

theorem strrchr_absent {c : α} {s : List α} (absent : c ∉ s) : strrchr c s = none := by
  induction s with
  | nil => rfl
  | cons d rest ih =>
      rw [List.mem_cons, not_or] at absent
      simp [strrchr, ih absent.2, Ne.symm absent.1]

theorem strrchr_append {c : α} {front back : List α} (absent : c ∉ back) :
    strrchr c (front ++ c :: back) = some (c :: back) := by
  induction front with
  | nil => simp [strrchr, strrchr_absent absent]
  | cons d rest ih => simp [strrchr, ih]

theorem strrchr_isSome {c : α} {s : List α} (present : c ∈ s) : ∃ tail, strrchr c s = some tail := by
  induction s with
  | nil => simp at present
  | cons d rest ih =>
      cases later : strrchr c rest with
      | some tail => exact ⟨tail, by simp [strrchr, later]⟩
      | none =>
          rcases List.mem_cons.mp present with rfl | inRest
          · exact ⟨c :: rest, by simp [strrchr, later]⟩
          · obtain ⟨tail, found⟩ := ih inRest
            simp [later] at found

theorem strrchr_eq_some {c : α} {s tail : List α} (found : strrchr c s = some tail) :
    ∃ front back, s = front ++ c :: back ∧ c ∉ back ∧ tail = c :: back := by
  induction s with
  | nil => cases found
  | cons d rest ih =>
      cases later : strrchr c rest with
      | some tail' =>
          rw [strrchr, later] at found
          obtain ⟨front, back, split, absent, same⟩ := ih (later.trans found)
          exact ⟨d :: front, back, by rw [split, List.cons_append], absent, same⟩
      | none =>
          rw [strrchr, later] at found
          obtain ⟨rfl, same⟩ := Option.ite_none_right_eq_some.mp found
          refine ⟨[], rest, rfl, fun present => ?_, (Option.some.inj same).symm⟩
          obtain ⟨tail', isSome⟩ := strrchr_isSome present
          rw [later] at isSome
          cases isSome

end Search

def toInt32 (z : Int) : Int := (z + 2 ^ 31) % 2 ^ 32 - 2 ^ 31

theorem toInt32_small {z : Int} (nonnegative : 0 ≤ z) (small : z < 2 ^ 31) : toInt32 z = z := by
  unfold toInt32
  omega

theorem toInt32_large {z : Int} (large : 2 ^ 31 ≤ z) (below : z < 2 ^ 32) :
    toInt32 z = z - 2 ^ 32 := by
  unfold toInt32
  omega

@[simp] theorem toInt32_idem (z : Int) : toInt32 (toInt32 z) = toInt32 z := by
  unfold toInt32
  omega

def toUInt32 (z : Int) : UInt32 := UInt32.ofNat (z % 2 ^ 32).toNat

theorem toUInt32_toNat (z : Int) : ((toUInt32 z).toNat : Int) = z % 2 ^ 32 := by
  have bounded : (z % 2 ^ 32).toNat < 2 ^ 32 := by omega
  simp only [toUInt32, UInt32.toNat_ofNat']
  omega

theorem toUInt32_ofNat (id : UInt32) : toUInt32 id.toNat = id := by
  have bounded := id.toNat_lt
  have value := toUInt32_toNat (id.toNat : Int)
  rw [← UInt32.toNat_inj]
  omega

theorem toUInt32_toInt32 (z : Int) : toUInt32 (toInt32 z) = toUInt32 z := by
  have one := toUInt32_toNat (toInt32 z)
  have two := toUInt32_toNat z
  have same : toInt32 z % 2 ^ 32 = z % 2 ^ 32 := by
    unfold toInt32
    omega
  rw [← UInt32.toNat_inj]
  omega

theorem toUInt32_emod (z : Int) : toUInt32 (z % 2 ^ 64) = toUInt32 z := by
  have one := toUInt32_toNat (z % 2 ^ 64)
  have two := toUInt32_toNat z
  rw [← UInt32.toNat_inj]
  omega

@[simp] theorem toInt32_toUInt32 (z : Int) : toInt32 (toUInt32 z).toNat = toInt32 z := by
  rw [toUInt32_toNat]
  unfold toInt32
  omega

def decimal (n : Nat) : Text := Nat.toDigits 10 n

def decimalInt (z : Int) : Text :=
  if z < 0 then '-' :: decimal z.natAbs else decimal z.toNat

theorem decimalInt_natCast (n : Nat) : decimalInt n = decimal n := by
  simp [decimalInt]

theorem decimal_injective : Function.Injective decimal := by
  intro m n same
  have read := congrArg (fun digits => Nat.ofDigitChars 10 digits 0) same
  simpa [decimal, Nat.ofDigitChars_toDigits] using read

theorem decimal_isDigit {n : Nat} {c : Char} (member : c ∈ decimal n) : c.isDigit :=
  Nat.isDigit_of_mem_toDigits (by decide) (by decide) member

theorem decimalInt_digit {z : Int} {c : Char} (member : c ∈ decimalInt z) :
    c = '-' ∨ c.isDigit = true := by
  unfold decimalInt at member
  split at member
  · exact (List.mem_cons.mp member).imp_right decimal_isDigit
  · exact .inr (decimal_isDigit member)

theorem decimalInt_injective : Function.Injective decimalInt := by
  have signed (n : Nat) (rest : Text) : decimal n ≠ '-' :: rest := fun same =>
    absurd (decimal_isDigit (same ▸ List.mem_cons_self)) (by decide)
  intro m n same
  unfold decimalInt at same
  split at same <;> split at same
  · have magnitudes := decimal_injective (List.cons.inj same).2
    omega
  · exact absurd same.symm (signed _ _)
  · exact absurd same (signed _ _)
  · have magnitudes := decimal_injective same
    omega

theorem decimal_ne_nil (n : Nat) : decimal n ≠ [] := Nat.toDigits_ne_nil

/-- `%.<width>x`: lower-case hexadecimal with at least `width` digits. -/
def hexPadded (width n : Nat) : Text :=
  let digits := Nat.toDigits 16 n
  List.replicate (width - digits.length) '0' ++ digits

private theorem mem_toDigitsCore {fuel n : Nat} {digits : Text} {c : Char}
    (known : ∀ c ∈ digits, c.isAlphanum) (member : c ∈ Nat.toDigitsCore 16 fuel n digits) :
    c.isAlphanum := by
  have alphanum : ∀ k < 16, (Nat.digitChar k).isAlphanum := by decide
  induction fuel generalizing n digits with
  | zero => exact known c member
  | succ fuel ih =>
      rw [Nat.toDigitsCore] at member
      have extended : ∀ c ∈ Nat.digitChar (n % 16) :: digits, c.isAlphanum := by
        simpa using ⟨alphanum _ (Nat.mod_lt n (by decide)), known⟩
      split at member
      · exact extended c member
      · exact ih extended member

theorem hexPadded_isAlphanum {width n : Nat} {c : Char} (member : c ∈ hexPadded width n) :
    c.isAlphanum := by
  rcases List.mem_append.mp member with padding | digit
  · rw [List.eq_of_mem_replicate padding]
    decide
  · exact mem_toDigitsCore (by simp) digit

theorem hexPadded_length {width n : Nat} (positive : 0 < width) (bounded : n < 16 ^ width) :
    (hexPadded width n).length = width := by
  have digits : (Nat.toDigits 16 n).length ≤ width :=
    (Nat.length_toDigits_le_iff (by decide) positive).mpr bounded
  simp only [hexPadded, List.length_append, List.length_replicate]
  omega

theorem decimal_length {n k : Nat} (positive : 0 < k) (bounded : n < 10 ^ k) :
    (decimal n).length ≤ k :=
  (Nat.length_toDigits_le_iff (by decide) positive).mpr bounded

theorem decimal_isAlphanum {n : Nat} {c : Char} (member : c ∈ decimal n) : c.isAlphanum := by
  simp [Char.isAlphanum, decimal_isDigit member]

def isSpace (c : Char) : Bool := c = ' ' || (9 ≤ c.toNat && c.toNat ≤ 13)

def digitsValue (s : Text) : Nat := Nat.ofDigitChars 10 (s.takeWhile Char.isDigit) 0

/-- `strtol` in base ten: the value saturates at the bounds of `long`. -/
def strtol (s : Text) : Int :=
  match s.dropWhile isSpace with
  | '-' :: rest => max (-(2 ^ 63)) (-(digitsValue rest : Int))
  | '+' :: rest => min (2 ^ 63 - 1) (digitsValue rest)
  | rest => min (2 ^ 63 - 1) (digitsValue rest)

def atoi (s : Text) : Int := toInt32 (strtol s)

theorem digitsValue_decimal (n : Nat) : digitsValue (decimal n) = n := by
  have whole : (decimal n).takeWhile Char.isDigit = decimal n := by
    rw [List.takeWhile_eq_self_iff]
    intro c member
    exact decimal_isDigit member
  rw [digitsValue, whole]
  exact Nat.ofDigitChars_toDigits (by decide) (by decide)

theorem isSpace_of_isDigit {c : Char} (digit : c.isDigit) : isSpace c = false := by
  have bounds : 48 ≤ c.toNat ∧ c.toNat ≤ 57 := Char.isDigit_iff_toNat.mp digit
  have notBlank : c ≠ ' ' := by
    rintro rfl
    exact absurd digit (by decide)
  simp only [isSpace, notBlank, decide_false, Bool.false_or, Bool.and_eq_false_iff,
    decide_eq_false_iff_not]
  omega

theorem decimal_unsigned (n : Nat) :
    ∃ c rest, decimal n = c :: rest ∧ isSpace c = false ∧ c ≠ '-' ∧ c ≠ '+' := by
  cases shape : decimal n with
  | nil => exact absurd shape (decimal_ne_nil n)
  | cons c rest =>
      have digit : c.isDigit := decimal_isDigit (n := n) (by rw [shape]; simp)
      refine ⟨c, rest, rfl, isSpace_of_isDigit digit, ?_, ?_⟩ <;>
        (rintro rfl; exact absurd digit (by decide))

theorem strtol_decimal {n : Nat} (bounded : n < 2 ^ 63) : strtol (decimal n) = n := by
  obtain ⟨c, rest, shape, notBlank, notMinus, notPlus⟩ := decimal_unsigned n
  have value := digitsValue_decimal n
  rw [shape] at value ⊢
  unfold strtol
  simp only [List.dropWhile_cons, notBlank, Bool.false_eq_true, if_false]
  split
  · rename_i equal
    exact absurd (List.cons.inj equal).1 notMinus
  · rename_i equal
    exact absurd (List.cons.inj equal).1 notPlus
  · rw [value]
    omega

/-- `strtoul` in base ten: a sign negates the value modulo 2^64, and the value saturates. -/
def strtoul (s : Text) : Nat :=
  match s.dropWhile isSpace with
  | '-' :: rest =>
      if digitsValue rest < 2 ^ 64 then (2 ^ 64 - digitsValue rest) % 2 ^ 64 else 2 ^ 64 - 1
  | '+' :: rest => min (2 ^ 64 - 1) (digitsValue rest)
  | rest => min (2 ^ 64 - 1) (digitsValue rest)

theorem strtoul_decimalInt {z : Int} (lower : -(2 ^ 63) ≤ z) (upper : z < 2 ^ 63) :
    (strtoul (decimalInt z) : Int) = z % 2 ^ 64 := by
  by_cases negative : z < 0
  · have minus : isSpace '-' = false := by decide
    unfold strtoul decimalInt
    rw [if_pos negative]
    simp only [List.dropWhile_cons, minus, Bool.false_eq_true, if_false, digitsValue_decimal]
    rw [if_pos (by omega)]
    omega
  · obtain ⟨c, rest, shape, notBlank, notMinus, notPlus⟩ := decimal_unsigned z.toNat
    have value := digitsValue_decimal z.toNat
    unfold strtoul decimalInt
    rw [if_neg negative]
    rw [shape] at value ⊢
    simp only [List.dropWhile_cons, notBlank, Bool.false_eq_true, if_false]
    split
    · rename_i equal
      exact absurd (List.cons.inj equal).1 notMinus
    · rename_i equal
      exact absurd (List.cons.inj equal).1 notPlus
    · rw [value]
      omega

theorem atoi_decimal {n : Nat} (bounded : n < 2 ^ 63) : atoi (decimal n) = toInt32 n := by
  rw [atoi, strtol_decimal bounded]

end CString
