import Libdlna.Model.Item
import Mathlib.Algebra.Order.BigOperators.Group.List

set_option autoImplicit false

/-!
# Protocol infos

A protocol info is short, and none of its characters needs to be escaped or quoted.
-/

namespace Libdlna

open CString

def isInfoChar (c : Char) : Bool := isProfileChar c || c ∈ [':', '*']

theorem isInfoChar_of_isAlphanum {c : Char} (alphanum : c.isAlphanum) : isInfoChar c := by
  simp [isInfoChar, isProfileChar, alphanum]

structure InfoPiece (s : Text) : Prop where
  chars : ∀ c ∈ s, isInfoChar c
  short : s.length ≤ 64

theorem ProfileText.infoPiece (s : ProfileText) : InfoPiece s.val where
  chars := fun c member => by
    simp [isInfoChar, List.all_eq_true.mp s.property.2 c member]
  short := s.property.1

theorem decimal_infoPiece {n : Nat} (bounded : n < 10 ^ 64) : InfoPiece (decimal n) where
  chars := fun _ member => isInfoChar_of_isAlphanum (decimal_isAlphanum member)
  short := decimal_length (by decide) bounded

theorem hexPadded_infoPiece {width n : Nat} (positive : 0 < width) (short : width ≤ 64)
    (bounded : n < 16 ^ width) : InfoPiece (hexPadded width n) where
  chars := fun _ member => isInfoChar_of_isAlphanum (hexPadded_isAlphanum member)
  short := (hexPadded_length positive bounded).trans_le short

def infoLiterals : List String :=
  ["http-get:*:", ":", "*", "DLNA.ORG_PS=", ";DLNA.ORG_CI=", ";DLNA.ORG_OP=", ";DLNA.ORG_PN=",
    ";DLNA.ORG_FLAGS="]

theorem literal_infoPiece {s : String} (member : s ∈ infoLiterals) : InfoPiece s.toList := by
  have literals : ∀ s ∈ infoLiterals, s.toList.all isInfoChar ∧ s.toList.length ≤ 64 := by decide
  exact ⟨List.all_eq_true.mp (literals s member).1, (literals s member).2⟩

def InfoPieces (info : Text) : Prop :=
  ∃ pieces : List Text, info = pieces.flatten ∧ pieces.length ≤ 14 ∧
    ∀ piece ∈ pieces, InfoPiece piece

variable {mode : CapabilityMode} {ci : Conversion} {flags : UInt32} {profile : DlnaProfile}
  {info : Text}

theorem infoPieces_of_mime (mime : ProfileText) :
    InfoPieces ("http-get:*:".toList ++ mime.val ++ ":".toList ++ "*".toList) := by
  refine ⟨["http-get:*:".toList, mime.val, ":".toList, "*".toList], by simp, by simp, ?_⟩
  have literal {s : String} := @literal_infoPiece s
  simp only [List.forall_mem_cons]
  exact ⟨literal (by simp [infoLiterals]), mime.infoPiece, literal (by simp [infoLiterals]),
    literal (by simp [infoLiterals]), by simp⟩

theorem infoPieces_of_id (mime id : ProfileText) (ci : Conversion) (flags : UInt32) :
    InfoPieces ("http-get:*:".toList ++ mime.val ++ ":".toList ++ "DLNA.ORG_PS=".toList ++
      decimal dlnaOrgPlaySpeedNormal ++ ";DLNA.ORG_CI=".toList ++ decimal ci.code ++
      ";DLNA.ORG_OP=".toList ++ hexPadded 2 dlnaOrgOperationRange ++ ";DLNA.ORG_PN=".toList ++
      id.val ++ ";DLNA.ORG_FLAGS=".toList ++ hexPadded 8 flags.toNat ++ hexPadded 24 0) := by
  refine ⟨["http-get:*:".toList, mime.val, ":".toList, "DLNA.ORG_PS=".toList,
    decimal dlnaOrgPlaySpeedNormal, ";DLNA.ORG_CI=".toList, decimal ci.code,
    ";DLNA.ORG_OP=".toList, hexPadded 2 dlnaOrgOperationRange, ";DLNA.ORG_PN=".toList, id.val,
    ";DLNA.ORG_FLAGS=".toList, hexPadded 8 flags.toNat, hexPadded 24 0], by simp, by simp, ?_⟩
  have literal {s : String} := @literal_infoPiece s
  have conversion : ci.code < 10 ^ 64 := by cases ci <;> decide
  have flagBound := flags.toNat_lt
  simp only [List.forall_mem_cons]
  exact ⟨literal (by simp [infoLiterals]), mime.infoPiece, literal (by simp [infoLiterals]),
    literal (by simp [infoLiterals]), decimal_infoPiece (by decide),
    literal (by simp [infoLiterals]), decimal_infoPiece conversion,
    literal (by simp [infoLiterals]), hexPadded_infoPiece (by decide) (by decide) (by decide),
    literal (by simp [infoLiterals]), id.infoPiece, literal (by simp [infoLiterals]),
    hexPadded_infoPiece (by decide) (by decide) (by omega),
    hexPadded_infoPiece (by decide) (by decide) (by decide), by simp⟩

theorem dlnaWriteProtocolInfo_pieces
    (written : dlnaWriteProtocolInfo mode dlnaOrgPlaySpeedNormal ci dlnaOrgOperationRange flags
      profile = .ok info) : InfoPieces info := by
  unfold dlnaWriteProtocolInfo at written
  cases mime : profile.mime with
  | none => simp [mime] at written
  | some mime' =>
      cases id : profile.id with
      | none =>
          simp only [mime, id, Except.ok.injEq] at written
          exact written ▸ infoPieces_of_mime mime'
      | some id' =>
          simp only [mime, id] at written
          by_cases plain : mode = .dlna
          · rw [if_neg (not_not.mpr plain), Except.ok.injEq] at written
            exact written ▸ infoPieces_of_mime mime'
          · rw [if_pos plain, Except.ok.injEq] at written
            exact written ▸ infoPieces_of_id mime' id' ci flags

theorem dlnaWriteProtocolInfo_chars
    (written : dlnaWriteProtocolInfo mode dlnaOrgPlaySpeedNormal ci dlnaOrgOperationRange flags
      profile = .ok info) : ∀ c ∈ info, isInfoChar c := by
  obtain ⟨pieces, rfl, -, isPiece⟩ := dlnaWriteProtocolInfo_pieces written
  intro c member
  obtain ⟨piece, among, inPiece⟩ := List.mem_flatten.mp member
  exact (isPiece piece among).chars c inPiece

theorem dlnaWriteProtocolInfo_length
    (written : dlnaWriteProtocolInfo mode dlnaOrgPlaySpeedNormal ci dlnaOrgOperationRange flags
      profile = .ok info) : info.length ≤ 1024 := by
  obtain ⟨pieces, rfl, few, isPiece⟩ := dlnaWriteProtocolInfo_pieces written
  rw [List.length_flatten]
  have total := List.sum_le_card_nsmul (pieces.map List.length) 64 (by
    intro n member
    obtain ⟨piece, among, rfl⟩ := List.mem_map.mp member
    exact (isPiece piece among).short)
  rw [List.length_map, Nat.nsmul_eq_mul] at total
  omega

end Libdlna
