import Libdlna.Model.Uri

set_option autoImplicit false

/-!
# Escaped characters

`remove_escaped_chars` moves the rest of its buffer down at each escape. What it leaves is what a
reading of the text from left to right gives, with zeros in the place that is won.
-/

namespace Libdlna.Uri

open CString

@[simp] theorem fetch_add (done rest : Text) (n : Nat) :
    fetch (done ++ rest) (done.length + n) = fetch rest n := by
  rw [fetch, fetch, List.getElem?_append_right (Nat.le_add_right ..), Nat.add_sub_cancel_left]

@[simp] theorem fetch_length (done rest : Text) :
    fetch (done ++ rest) done.length = fetch rest 0 :=
  fetch_add done rest 0

@[simp] theorem fetch_zero (c : Char) (rest : Text) : fetch (c :: rest) 0 = .ok c := rfl

@[simp] theorem fetch_succ (c : Char) (rest : Text) (n : Nat) :
    fetch (c :: rest) (n + 1) = fetch rest n := by
  simp [fetch]

theorem fetch_drop {buffer rest : Text} {start : Nat} (ahead : buffer.drop start = rest) (n : Nat) :
    fetch buffer (start + n) = fetch rest n := by
  subst ahead
  simp [fetch]

def escaped (percent high low : Char) : Option Char :=
  if percent = '%' ∧ isxdigit high = true ∧ isxdigit low = true then some (escapedChar high low)
  else none

/-- What an escape gives is not read again. -/
def unescape : Text → Text
  | percent :: high :: low :: rest =>
      match escaped percent high low with
      | some c => c :: unescape rest
      | none => percent :: unescape (high :: low :: rest)
  | short => short

theorem unescape_some {percent high low c : Char} (escape : escaped percent high low = some c)
    (rest : Text) : unescape (percent :: high :: low :: rest) = c :: unescape rest := by
  rw [unescape, escape]

theorem unescape_none {percent high low : Char} (plain : escaped percent high low = none)
    (rest : Text) :
    unescape (percent :: high :: low :: rest) = percent :: unescape (high :: low :: rest) := by
  rw [unescape, plain]

theorem shiftDown_eq (tempChar : Char) (cells : Text) :
    shiftDown tempChar cells = (tempChar :: (cells.drop 3 ++ [nul, nul])).take cells.length := by
  induction cells generalizing tempChar with
  | nil => rfl
  | cons c rest ih =>
      rw [shiftDown, ih]
      match rest with
      | [] => rfl
      | [_] => rfl
      | [_, _] => rfl
      | _ :: _ :: _ :: _ => simp

theorem shiftDown_escape (tempChar percent high low : Char) (rest : Text) :
    shiftDown tempChar (percent :: high :: low :: rest) = tempChar :: (rest ++ [nul, nul]) := by
  rw [shiftDown_eq]
  simp

theorem not_isxdigit_nul : isxdigit nul = false := by decide

theorem escapeAt_short (done beyond : Text) (first : Char) (rest : Text) (short : rest.length < 2) :
    escapeAt (done ++ (first :: rest ++ nul :: beyond)) done.length = .ok none := by
  match rest with
  | [] =>
      simp only [escapeAt, fetch_length, fetch_add, List.cons_append, List.nil_append, fetch_zero,
        fetch_succ, Except.bind, Bind.bind, not_isxdigit_nul]
      simp
  | [second] =>
      simp only [escapeAt, fetch_length, fetch_add, List.cons_append, List.nil_append, fetch_zero,
        fetch_succ, Except.bind, Bind.bind, not_isxdigit_nul]
      simp
  | _ :: _ :: rest => exact absurd short (by simp)

theorem escapeAt_long (done rest : Text) (percent high low : Char) :
    escapeAt (done ++ percent :: high :: low :: rest) done.length =
      .ok (escaped percent high low) := by
  simp only [escapeAt, fetch_length, fetch_add, fetch_zero, fetch_succ, Except.bind, Bind.bind,
    escaped]
  by_cases first : percent = '%'
  · by_cases second : isxdigit high = true
    · simp [first, second]
    · simp [first, second]
  · simp [first]

theorem replaceEscaped_none {buffer : Text} {index max : Nat}
    (plain : escapeAt buffer index = .ok none) :
    replaceEscaped buffer index max = .ok (buffer, max) := by
  rw [replaceEscaped, plain]
  rfl

theorem replaceEscaped_some (done rest beyond : Text) {percent high low c : Char}
    (escape : escaped percent high low = some c) :
    replaceEscaped (done ++ (percent :: high :: low :: rest ++ nul :: beyond)) done.length
        (done ++ percent :: high :: low :: rest).length =
      .ok ((done ++ [c]) ++ (rest ++ nul :: nul :: nul :: beyond),
        ((done ++ [c]) ++ rest).length) := by
  rw [replaceEscaped, List.cons_append, List.cons_append, List.cons_append, escapeAt_long, escape]
  simp only [Except.bind, Bind.bind]
  rw [← List.cons_append, ← List.cons_append, ← List.cons_append, ← List.append_assoc done,
    List.take_left, List.drop_left, List.drop_left, shiftDown_escape, List.append_assoc done,
    List.take_left]
  have shorter : (done ++ percent :: high :: low :: rest).length - 2 =
      ((done ++ [c]) ++ rest).length := by
    simp only [List.length_append, List.length_cons, List.length_nil]
    omega
  rw [shorter]
  simp

theorem removeEscapedFrom_turn {turns : Nat} {done todo : Text} {buffer buffer' : Text} {max : Nat}
    (more : todo ≠ [])
    (replaced : replaceEscaped buffer done.length (done ++ todo).length = .ok (buffer', max)) :
    removeEscapedFrom (turns + 1) done.length buffer (done ++ todo).length =
      removeEscapedFrom turns (done.length + 1) buffer' max := by
  have inside : done.length < (done ++ todo).length := by
    rw [List.length_append]
    have := List.length_pos_iff.mpr more
    omega
  rw [removeEscapedFrom, if_pos inside, replaced]
  rfl

theorem removeEscapedFrom_end (turns : Nat) (done buffer : Text) :
    removeEscapedFrom turns done.length buffer done.length = .ok (buffer, done.length) := by
  cases turns with
  | zero => rfl
  | succ turns => rw [removeEscapedFrom, if_neg (Nat.lt_irrefl _)]

def freed (text : Text) : Text := List.replicate (text.length - (unescape text).length) nul

def Unescapes (todo : Text) : Prop :=
  ∀ (turns : Nat) (done beyond : Text), todo.length ≤ turns →
    removeEscapedFrom turns done.length (done ++ (todo ++ nul :: beyond)) (done ++ todo).length =
      .ok (done ++ (unescape todo ++ (freed todo ++ nul :: beyond)),
        (done ++ unescape todo).length)

theorem unescape_length_le (text : Text) : (unescape text).length ≤ text.length := by
  induction text using unescape.induct with
  | case1 percent high low rest c escape ih =>
      rw [unescape_some escape]
      simp only [List.length_cons]
      omega
  | case2 percent high low rest plain ih =>
      rw [unescape_none plain]
      simp only [List.length_cons] at ih ⊢
      omega
  | case3 short isShort =>
      rw [unescape]
      exact isShort

theorem unescapes_nil : Unescapes [] := by
  intro turns done beyond enough
  simpa [unescape, freed] using removeEscapedFrom_end turns done (done ++ nul :: beyond)

theorem unescapes_plain {first : Char} {rest : Text}
    (plain : ∀ done beyond : Text,
      escapeAt (done ++ (first :: rest ++ nul :: beyond)) done.length = .ok none)
    (kept : unescape (first :: rest) = first :: unescape rest)
    (others : Unescapes rest) : Unescapes (first :: rest) := by
  intro turns done beyond enough
  obtain ⟨turns, rfl⟩ : ∃ fewer, turns = fewer + 1 :=
    Nat.exists_eq_succ_of_ne_zero (by simp only [List.length_cons] at enough; omega)
  rw [removeEscapedFrom_turn (List.cons_ne_nil _ _) (replaceEscaped_none (plain done beyond))]
  have later := others turns (done ++ [first]) beyond (Nat.le_of_succ_le_succ enough)
  have same : freed (first :: rest) = freed rest := by
    rw [freed, freed, kept, List.length_cons, List.length_cons, Nat.add_sub_add_right]
  rw [kept, same]
  simpa using later

theorem unescapes_escape {percent high low c : Char} {rest : Text}
    (escape : escaped percent high low = some c) (others : Unescapes rest) :
    Unescapes (percent :: high :: low :: rest) := by
  intro turns done beyond enough
  obtain ⟨turns, rfl⟩ : ∃ fewer, turns = fewer + 1 :=
    Nat.exists_eq_succ_of_ne_zero (by simp only [List.length_cons] at enough; omega)
  rw [removeEscapedFrom_turn (List.cons_ne_nil _ _) (replaceEscaped_some done rest beyond escape)]
  have later := others turns (done ++ [c]) (nul :: nul :: beyond)
    (by simp only [List.length_cons] at enough; omega)
  have two : freed (percent :: high :: low :: rest) = freed rest ++ [nul, nul] := by
    have fits := unescape_length_le rest
    have gap : rest.length + 2 - (unescape rest).length =
        rest.length - (unescape rest).length + 2 := by
      omega
    rw [freed, freed, unescape_some escape]
    simp only [List.length_cons, Nat.add_sub_add_right]
    rw [gap, List.replicate_add]
    rfl
  rw [unescape_some escape, two]
  simpa using later

theorem unescapes (text : Text) : Unescapes text := by
  induction text using unescape.induct with
  | case1 percent high low rest c escape ih => exact unescapes_escape escape ih
  | case2 percent high low rest plain ih =>
      apply unescapes_plain _ (unescape_none plain _) ih
      intro done beyond
      rw [← plain]
      exact escapeAt_long done (rest ++ nul :: beyond) percent high low
  | case3 short isShort =>
      match short with
      | [] => exact unescapes_nil
      | [first] =>
          exact unescapes_plain (fun done beyond => escapeAt_short done beyond first [] (by simp))
            (by simp [unescape]) unescapes_nil
      | [first, second] =>
          apply unescapes_plain (fun done beyond => escapeAt_short done beyond first _ (by simp))
            (by simp [unescape])
          exact unescapes_plain (fun done beyond => escapeAt_short done beyond second [] (by simp))
            (by simp [unescape]) unescapes_nil
      | percent :: high :: low :: rest => exact absurd rfl (isShort percent high low rest)

theorem removeEscapedChars_eq (text beyond : Text) :
    removeEscapedChars (text ++ nul :: beyond) text.length =
      .ok (unescape text ++ (freed text ++ nul :: beyond), (unescape text).length) := by
  simpa [removeEscapedChars] using unescapes text text.length [] beyond (Nat.le_refl _)

end Libdlna.Uri
