import Libdlna.Model.Memory
import Libdlna.Shared.Outcome

set_option autoImplicit false

/-!
# Lists of extensions

A list is read token by token into an area of 32 bytes.
-/

namespace Libdlna

open CString NullTerminated

variable {ext token p : Text}

/-- What the list begins with: at most `room` characters of its first token. -/
def tokenWithin (room : Nat) (p : Text) : Text := (p.takeWhile fun c => c ≠ ',').take room

theorem tokenWithin_goesOn {c : Char} {room : Nat} (within : c ≠ ',') :
    tokenWithin (room + 1) (c :: p) = c :: tokenWithin room p := by
  simp [tokenWithin, within]

theorem tokenWithin_ends {c : Char} {room : Nat} (ends : ¬ (c ≠ ',' ∧ 0 < room)) :
    tokenWithin room (c :: p) = [] := by
  by_cases comma : c = ','
  · simp [tokenWithin, comma]
  · have full : room = 0 := Nat.eq_zero_of_not_pos fun more => ends ⟨comma, more⟩
    simp [tokenWithin, full]

theorem tokenWithin_length_le (room : Nat) (p : Text) : (tokenWithin room p).length ≤ room :=
  List.length_take_le ..

theorem copyToken_reads (token p : Text) {cells : List (Option Char)} {room : Nat}
    (size : token.length + room = Memory.extSize - 1) (inside : cells.length = room + 1) :
    Memory.copyToken (token.map some ++ cells) token.length p =
      .ok ((token ++ tokenWithin room p).map some ++ cells.drop (tokenWithin room p).length,
        (token ++ tokenWithin room p).length, p.drop (tokenWithin room p).length) := by
  induction p generalizing token cells room with
  | nil => simp [Memory.copyToken, tokenWithin]
  | cons c p ih =>
      by_cases goesOn : c ≠ ',' ∧ 0 < room
      · obtain ⟨room, rfl⟩ := Nat.exists_eq_add_one.mpr goesOn.2
        obtain ⟨old, cells, rfl⟩ := List.exists_cons_of_length_eq_add_one inside
        have stored := store_append (token.map some) cells old (some c)
        have longer : (token ++ [c]).length + room = Memory.extSize - 1 := by
          rw [List.length_append, List.length_singleton]
          omega
        have next := ih _ longer (Nat.succ.inj inside)
        rw [List.length_map] at stored
        rw [Memory.copyToken, if_pos ⟨goesOn.1, by omega⟩, stored, tokenWithin_goesOn goesOn.1]
        simpa [Memory.inBounds, Bind.bind, Except.bind] using next
      · rw [Memory.copyToken, if_neg (fun more => goesOn ⟨more.1, by omega⟩),
          tokenWithin_ends goesOn]
        simp

theorem copyToken_terminated {ext1 : List (Option Char)} (size : ext1.length = Memory.extSize)
    (p : Text) :
    ∃ copied q after, Memory.copyToken ext1 0 p =
        .ok (copied, q, p.drop (tokenWithin (Memory.extSize - 1) p).length) ∧
      store copied q none = some after ∧
      held after = some (tokenWithin (Memory.extSize - 1) p) ∧ after.length = Memory.extSize := by
  have read := copyToken_reads [] p (Nat.zero_add _) size
  have bounded := tokenWithin_length_le (Memory.extSize - 1) p
  generalize tokenWithin (Memory.extSize - 1) p = token at read bounded ⊢
  obtain ⟨old, beyond, left⟩ : ∃ old beyond, ext1.drop token.length = old :: beyond := by
    refine List.exists_cons_of_ne_nil fun empty => ?_
    have short := List.drop_eq_nil_iff.mp empty
    rw [size] at short
    exact absurd (bounded.trans_lt (by decide)) (Nat.not_lt.mpr short)
  have length := congrArg List.length left
  rw [List.length_drop, List.length_cons, size] at length
  have stored := store_append (token.map some) beyond old none
  rw [List.length_map] at stored
  rw [List.map_nil, List.nil_append, List.nil_append, left] at read
  refine ⟨_, _, _, read, stored, held_append token beyond, ?_⟩
  rw [List.length_append, List.length_map, List.length_cons]
  have := show Memory.extSize - 1 < Memory.extSize by decide
  omega

theorem matchTokens_turn (ext token p : Text) {room : Nat} (size : token.length + room = 31) :
    matchTokens ext token p =
      (strcasecmp (token ++ tokenWithin room p) ext ||
        match p.drop (tokenWithin room p).length with
        | [] => false
        | _ :: p => matchTokens ext [] p) := by
  induction p generalizing token room with
  | nil => simp [matchTokens, tokenWithin]
  | cons c p ih =>
      by_cases goesOn : c ≠ ',' ∧ 0 < room
      · obtain ⟨room, rfl⟩ := Nat.exists_eq_add_one.mpr goesOn.2
        have longer : (token ++ [c]).length + room = 31 := by
          rw [List.length_append, List.length_singleton]
          omega
        rw [matchTokens, if_pos ⟨goesOn.1, by omega⟩, ih _ longer, tokenWithin_goesOn goesOn.1]
        simp
      · rw [matchTokens, if_neg (fun more => goesOn ⟨more.1, by omega⟩), tokenWithin_ends goesOn]
        simp

theorem memory_matchTokens (ext : Text) {fuel : Nat} {ext1 : List (Option Char)}
    (size : ext1.length = Memory.extSize) {p : Text} (enough : p.length < fuel) :
    Memory.matchTokens ext fuel ext1 p = .ok (matchTokens ext [] p) := by
  induction fuel generalizing ext1 p with
  | zero => exact absurd enough (Nat.not_lt_zero _)
  | succ fuel ih =>
      obtain ⟨copied, q, after, read, stored, token, same⟩ := copyToken_terminated size p
      have same31 : Memory.extSize - 1 = 31 := rfl
      rw [same31] at read token
      rw [Memory.matchTokens, read, matchTokens_turn ext [] p (Nat.zero_add 31)]
      simp only [Bind.bind, Except.bind, stored, token, Memory.inBounds, List.nil_append]
      cases strcasecmp (tokenWithin 31 p) ext with
      | true => rfl
      | false =>
          rw [if_neg Bool.false_ne_true, Bool.false_or]
          cases left : p.drop (tokenWithin 31 p).length with
          | nil => rfl
          | cons ends rest =>
              have shorter := congrArg List.length left
              rw [List.length_drop, List.length_cons] at shorter
              exact ih same (by omega)

theorem memory_matchFileExtension (rest : Nat → Option Char) {fuel : Nat} (filename : Text)
    {extensions : Text} (enough : extensions.length < fuel) :
    Memory.matchFileExtension rest fuel (some filename) extensions =
      .ok (matchFileExtension filename extensions) := by
  rw [Memory.matchFileExtension, matchFileExtension, Option.bind_some]
  cases getFileExtension filename with
  | none => rfl
  | some ext => exact memory_matchTokens ext (length_allocate rest Memory.extSize) enough

theorem matchTokens_splitOn (ext token p : Text)
    (short : ∀ word ∈ (p.splitOn ',').modifyHead (token ++ ·), word.length ≤ 31) :
    matchTokens ext token p =
      ((p.splitOn ',').modifyHead (token ++ ·)).any fun word => strcasecmp word ext := by
  induction p generalizing token with
  | nil => simp [matchTokens]
  | cons c p ih =>
      rw [List.splitOn_cons_eq_if_modifyHead] at short ⊢
      by_cases comma : c = ','
      · rw [if_pos (beq_iff_eq.mpr comma)] at short ⊢
        have others : (p.splitOn ',').modifyHead ([] ++ ·) = p.splitOn ',' :=
          congrFun List.modifyHead_id _
        have next := ih [] (by rw [others]; exact (List.forall_mem_cons.mp short).2)
        rw [matchTokens, if_neg (fun more => more.1 comma), next, others]
        simp
      · rw [if_neg (by simpa using comma), List.modifyHead_modifyHead] at short ⊢
        obtain ⟨first, words, splits⟩ := List.exists_cons_of_ne_nil (List.splitOn_ne_nil ',' p)
        have longer : (fun word => token ++ word) ∘ List.cons c = ((token ++ [c]) ++ ·) :=
          funext fun word => by simp
        rw [longer] at short ⊢
        have fits := short (token ++ [c] ++ first) (by rw [splits]; simp)
        simp only [List.length_append, List.length_singleton] at fits
        rw [matchTokens, if_pos ⟨comma, by omega⟩, ih _ short]

theorem getFileExtension_iff {filename ext : Text} :
    getFileExtension filename = some ext ↔
      ∃ name, filename = name ++ '.' :: ext ∧ '.' ∉ ext := by
  rw [getFileExtension, Option.map_eq_some_iff]
  constructor
  · rintro ⟨dotted, found, rfl⟩
    obtain ⟨name, ext, split, absent, rfl⟩ := strrchr_eq_some found
    exact ⟨name, split, absent⟩
  · rintro ⟨name, rfl, absent⟩
    exact ⟨'.' :: ext, strrchr_append absent, rfl⟩

theorem extension_matched_iff (rest : Nat → Option Char) (filename extensions : Text) {fuel : Nat}
    (enough : extensions.length < fuel)
    (short : ∀ token ∈ extensions.splitOn ',', token.length ≤ 31) :
    ∃ found, Memory.matchFileExtension rest fuel (some filename) extensions = .ok found ∧
      matchFileExtension filename extensions = found ∧
      (found = true ↔ ∃ name ext, filename = name ++ '.' :: ext ∧ '.' ∉ ext ∧
        ∃ token ∈ extensions.splitOn ',', token.map Char.toLower = ext.map Char.toLower) := by
  refine ⟨_, memory_matchFileExtension rest filename enough, rfl, ?_⟩
  have whole : (extensions.splitOn ',').modifyHead ([] ++ ·) = extensions.splitOn ',' :=
    congrFun List.modifyHead_id _
  have matched (ext : Text) :
      matchTokens ext [] extensions = true ↔
        ∃ token ∈ extensions.splitOn ',', token.map Char.toLower = ext.map Char.toLower := by
    rw [matchTokens_splitOn ext [] extensions (by rwa [whole]), whole]
    simp [strcasecmp]
  rw [matchFileExtension]
  constructor
  · intro found
    cases extension : getFileExtension filename with
    | none => simp [extension] at found
    | some ext =>
        rw [extension] at found
        obtain ⟨name, split, absent⟩ := getFileExtension_iff.mp extension
        exact ⟨name, ext, split, absent, (matched ext).mp found⟩
  · rintro ⟨name, ext, split, absent, found⟩
    rw [getFileExtension_iff.mpr ⟨name, split, absent⟩]
    exact (matched ext).mpr found

theorem extension_matched_of_upper_case :
    ∃ found, Memory.matchFileExtension (fun _ => none) 9 (some "a.b.MP3".toList) "mp3,,ogg".toList =
        .ok found ∧
      matchFileExtension "a.b.MP3".toList "mp3,,ogg".toList = found ∧
      (found = true ↔ ∃ name ext, "a.b.MP3".toList = name ++ '.' :: ext ∧ '.' ∉ ext ∧
        ∃ token ∈ "mp3,,ogg".toList.splitOn ',', token.map Char.toLower = ext.map Char.toLower) :=
  extension_matched_iff _ _ _ (by decide) (by decide)

end Libdlna
