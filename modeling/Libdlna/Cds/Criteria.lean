import Libdlna.Cds.Search
import Libdlna.Didl.ProtocolInfo

set_option autoImplicit false

/-!
# Search criteria

A conjunction of clauses, and what `cds_search_match` makes of it: the operand that it compares
still has the closing quote, so that no clause is ever found to hold.
-/

namespace Libdlna

open CString

inductive ClauseOperator where
  | classMatch
  | classDerived
  | protocolContains
  deriving DecidableEq

def ClauseOperator.opening : ClauseOperator → Text
  | .classMatch => searchClassMatchKeyword
  | .classDerived => searchClassDerivedKeyword
  | .protocolContains => searchProtocolContainsKeyword

structure Clause where
  operator : ClauseOperator
  operand : Text
  unquoted : '"' ∉ operand
  short : operand.length < keywordSize

namespace Clause

def text (clause : Clause) : Text := clause.operator.opening ++ clause.operand ++ "\")".toList

def Holds (objectType : Option Text) (protocolInfo : Text) (clause : Clause) : Prop :=
  match clause.operator with
  | .classMatch => objectType = some clause.operand
  | .classDerived => ∃ c, objectType = some c ∧ clause.operand <+: c
  | .protocolContains => clause.operand <:+: protocolInfo

end Clause

def criteriaText (first : Clause) : List Clause → Text
  | [] => first.text
  | second :: rest => first.text ++ " and ".toList ++ criteriaText second rest

theorem searchAnd_unquoted : '"' ∉ searchAnd := by decide

theorem criteriaText_shape (first : Clause) (rest : List Clause) :
    ∃ tail, criteriaText first rest =
      first.operator.opening ++ (first.operand ++ '"' :: ')' :: tail) := by
  cases rest with
  | nil => exact ⟨[], by simp [criteriaText, Clause.text]⟩
  | cons second rest =>
      exact ⟨" and ".toList ++ criteriaText second rest, by simp [criteriaText, Clause.text]⟩

theorem searchAnd_infix_text (clause : Clause) :
    searchAnd <:+: clause.text ↔ searchAnd <:+: clause.operand := by
  have opening : ∃ before, clause.operator.opening = before ++ ['"'] ∧ ¬ searchAnd <:+: before := by
    cases clause.operator with
    | classMatch => exact ⟨"(upnp:class = ".toList, by decide, by decide⟩
    | classDerived => exact ⟨"(upnp:class derivedfrom ".toList, by decide, by decide⟩
    | protocolContains => exact ⟨"(res@protocolInfo contains ".toList, by decide, by decide⟩
  obtain ⟨before, isOpening, absent⟩ := opening
  have closing : ¬ searchAnd <:+: ")".toList := by decide
  have spelled : clause.text = before ++ '"' :: (clause.operand ++ '"' :: ")".toList) := by
    simp [Clause.text, isOpening]
  rw [spelled, infix_append_cons searchAnd_unquoted, infix_append_cons searchAnd_unquoted,
    or_iff_right absent, or_iff_left closing]

theorem opening_head (clause : Clause) (rest : List Clause) :
    ∃ tail, criteriaText clause rest = '(' :: tail := by
  obtain ⟨tail, spelled⟩ := criteriaText_shape clause rest
  rw [spelled]
  cases clause.operator <;> exact ⟨_, rfl⟩

theorem searchAnd_infix_two (first second : Clause) (rest : List Clause) :
    searchAnd <:+: criteriaText first (second :: rest) := by
  obtain ⟨tail, spelled⟩ := opening_head second rest
  have separator : searchAnd = ')' :: (" and ".toList ++ ['(']) := by decide
  refine ⟨first.operator.opening ++ first.operand ++ ['"'], tail, ?_⟩
  rw [separator]
  simp [criteriaText, Clause.text, spelled]

/-- The separator occurs in the criteria: between two clauses, or within an operand. -/
def Splits (first : Clause) (rest : List Clause) : Prop :=
  rest ≠ [] ∨ ∃ clause ∈ first :: rest, searchAnd <:+: clause.operand

theorem searchAnd_infix_criteria (first : Clause) (rest : List Clause) :
    searchAnd <:+: criteriaText first rest ↔ Splits first rest := by
  cases rest with
  | nil => simp [criteriaText, Splits, searchAnd_infix_text]
  | cons second rest => simp [Splits, searchAnd_infix_two]

theorem opening_isPrefixOf (wanted actual : ClauseOperator) (rest : Text) :
    wanted.opening.isPrefixOf (actual.opening ++ rest) = decide (wanted = actual) := by
  have distinct : ∀ wanted actual : ClauseOperator, wanted ≠ actual →
      ¬ wanted.opening <+: actual.opening := by
    intro wanted actual different
    cases wanted <;> cases actual <;> first | exact absurd rfl different | decide
  by_cases same : wanted = actual
  · subst same
    simp
  · rw [decide_eq_false same, Bool.eq_false_iff, Ne, List.isPrefixOf_iff_prefix]
    intro starts
    rcases List.prefix_or_prefix_of_prefix starts (List.prefix_append _ _) with one | other
    · exact distinct _ _ same one
    · exact distinct _ _ (Ne.symm same) other

theorem keywordAfter_quoted (stack : Text → Text) (opening operand tail : Text)
    (short : operand.length < keywordSize) :
    '"' ∈ keywordAfter stack opening (opening ++ (operand ++ '"' :: tail)) := by
  rw [keywordAfter, List.drop_left]
  by_cases fits : (operand ++ '"' :: tail).length < keywordSize
  · rw [if_pos fits]
    simp
  · -- strncpy stops after the closing quote, which is within the first 256 characters
    obtain ⟨left, room⟩ := Nat.exists_eq_add_of_lt short
    have taken : keywordSize - operand.length = left + 1 := by omega
    rw [if_neg fits, List.take_append, taken]
    simp

theorem unquoted_of_isInfoChar {info : Text} (chars : ∀ c ∈ info, isInfoChar c) :
    '"' ∉ info := by
  intro quoted
  exact absurd (chars _ quoted) (by decide)

theorem objectItem_unquoted {profile : DlnaProfile} {objectType : Text}
    (shown : dlnaProfileUpnpObjectItem profile = some objectType) : '"' ∉ objectType := by
  unfold dlnaProfileUpnpObjectItem at shown
  split at shown
  · exact Option.some.inj shown ▸ by decide
  · exact Option.some.inj shown ▸ by decide
  · exact Option.some.inj shown ▸ by decide
  all_goals cases shown

theorem searchKeyword_quoted (stack : Text → Text) (first : Clause) (rest : List Clause) :
    '"' ∈ (searchKeyword stack (criteriaText first rest)).keyword := by
  obtain ⟨tail, spelled⟩ := criteriaText_shape first rest
  have quoted := keywordAfter_quoted stack first.operator.opening first.operand (')' :: tail)
    first.short
  have isOpening : ∀ op : ClauseOperator, op.opening.isPrefixOf (criteriaText first rest) =
      decide (op = first.operator) := by
    intro op
    rw [spelled, opening_isPrefixOf]
  have classMatch := isOpening .classMatch
  have classDerived := isOpening .classDerived
  have protocolContains := isOpening .protocolContains
  simp only [ClauseOperator.opening] at classMatch classDerived protocolContains
  rw [← spelled] at quoted
  unfold searchKeyword
  rw [classMatch, classDerived, protocolContains]
  cases operator : first.operator <;> rw [operator] at quoted <;> exact quoted

theorem searchResult_quoted {key : SearchKeyword} {objectType : Option Text} {protocolInfo : Text}
    (quoted : '"' ∈ key.keyword) (unquotedInfo : '"' ∉ protocolInfo)
    (unquotedType : ∀ c, objectType = some c → '"' ∉ c) :
    searchResult key objectType protocolInfo = false := by
  have notDerived : ¬ objectType.any key.keyword.isPrefixOf := by
    rw [Option.any_eq_true]
    rintro ⟨c, shown, starts⟩
    exact unquotedType c shown ((List.isPrefixOf_iff_prefix.mp starts).subset quoted)
  have notContained : ¬ (strstr key.keyword protocolInfo).isSome := by
    rw [strstr_isSome]
    exact fun inside => unquotedInfo (inside.subset quoted)
  have notEqual : objectType ≠ some key.keyword := fun same => unquotedType _ same quoted
  rw [searchResult, if_neg fun both => notDerived both.2, if_neg fun both => notContained both.2]
  exact beq_eq_false_iff_ne.mpr notEqual

section Matching

variable {d : Dlna} {stack : Text → Text} {item : VfsItem} {profile : DlnaProfile}
  {protocolInfo : Text}

def Described (d : Dlna) (item : VfsItem) (profile : DlnaProfile) (protocolInfo : Text) : Prop :=
  ∃ content cnv, item.body = .resource content cnv ∧
    (dlnaItemGet d item.id content).bind DlnaItem.profile = some profile ∧
    dlnaWriteProtocolInfo d.mode dlnaOrgPlaySpeedNormal cnv dlnaOrgOperationRange d.flags
      profile = .ok protocolInfo

/-- On every criteria the function returns: each clause is shorter than what precedes it. -/
theorem cdsSearchMatch_returns (described : Described d item profile protocolInfo) {fuel : Nat}
    {criteria : Text} (enough : criteria.length < fuel) :
    ∃ accepted, cdsSearchMatch d stack item fuel criteria = .ok accepted := by
  obtain ⟨content, cnv, isResource, found, written⟩ := described
  induction fuel generalizing criteria with
  | zero => omega
  | succ fuel ih =>
      unfold cdsSearchMatch
      simp only [isResource, found, written, Bind.bind, Except.bind]
      cases next : strstr searchAnd criteria with
      | none => exact ⟨true, rfl⟩
      | some andClause =>
          dsimp only
          split
          · have shorter := (strstr_eq_some next).1.length_le
            have separator := (strstr_eq_some next).2.length_le
            have isSeven : searchAnd.length = 7 := rfl
            refine ih ?_
            rw [List.length_drop]
            omega
          · exact ⟨false, rfl⟩

theorem cdsSearchMatch_criteria (described : Described d item profile protocolInfo) (fuel : Nat)
    (first : Clause) (rest : List Clause) :
    cdsSearchMatch d stack item (fuel + 1) (criteriaText first rest) =
      .ok (strstr searchAnd (criteriaText first rest)).isNone := by
  obtain ⟨content, cnv, isResource, found, written⟩ := described
  -- the comparison fails for every clause, and the answer depends on the separator alone
  have rejected := searchResult_quoted (searchKeyword_quoted stack first rest)
    (unquoted_of_isInfoChar (dlnaWriteProtocolInfo_chars written))
    (fun c (shown : dlnaProfileUpnpObjectItem profile = some c) => objectItem_unquoted shown)
  unfold cdsSearchMatch
  simp only [isResource, found, written, Bind.bind, Except.bind, rejected]
  cases strstr searchAnd (criteriaText first rest) <;> rfl

theorem cdsSearchMatch_true_iff (described : Described d item profile protocolInfo)
    (first : Clause) (rest : List Clause) :
    cdsSearchMatch d stack item (searchMatchFuel (criteriaText first rest))
        (criteriaText first rest) = .ok true ↔ ¬ Splits first rest := by
  rw [searchMatchFuel, cdsSearchMatch_criteria described, ← searchAnd_infix_criteria,
    ← strstr_isSome, Except.ok.injEq, Bool.not_eq_true, Option.isNone_iff_eq_none,
    Option.isSome_eq_false_iff, Option.isNone_iff_eq_none]

theorem search_match_iff (described : Described d item profile protocolInfo) (first : Clause)
    (rest : List Clause) :
    (cdsSearchMatch d stack item (searchMatchFuel (criteriaText first rest))
          (criteriaText first rest) = .ok true ↔
        ∀ clause ∈ first :: rest,
          clause.Holds (dlnaProfileUpnpObjectItem profile) protocolInfo) ↔
      (Splits first rest ↔ ∃ clause ∈ first :: rest,
        ¬ clause.Holds (dlnaProfileUpnpObjectItem profile) protocolInfo) := by
  rw [cdsSearchMatch_true_iff described, not_iff_comm, not_forall]
  simp only [not_forall, exists_prop]
  exact iff_comm

end Matching

def musicItem : VfsItem := resourceItem 2 "b".toList (dlnaItemNew "/b.mp3".toList mp3Probe)

def musicInfo : Text := "http-get:*:audio/mpeg:*".toList

theorem musicItem_described : Described nestedFiles musicItem mp3Profile musicInfo :=
  ⟨_, .none, rfl, rfl, by decide +kernel⟩

def filmClause : Clause where
  operator := .classMatch
  operand := "object.item.videoItem.movie".toList
  unquoted := by decide
  short := by decide

theorem film_clause_accepts_music :
    Described nestedFiles musicItem mp3Profile musicInfo ∧
      ¬ (cdsSearchMatch nestedFiles id musicItem (searchMatchFuel (criteriaText filmClause []))
            (criteriaText filmClause []) = .ok true ↔
          ∀ clause ∈ [filmClause],
            clause.Holds (dlnaProfileUpnpObjectItem mp3Profile) musicInfo) := by
  refine ⟨musicItem_described, fun exactly => ?_⟩
  have accepts : cdsSearchMatch nestedFiles id musicItem
      (searchMatchFuel (criteriaText filmClause [])) (criteriaText filmClause []) = .ok true := by
    decide +kernel
  have holds : dlnaProfileUpnpObjectItem mp3Profile = some filmClause.operand :=
    exactly.mp accepts filmClause (by simp)
  exact absurd holds (by decide)

theorem search_match_iff_applies :
    cdsSearchMatch nestedFiles id musicItem (searchMatchFuel (criteriaText filmClause [filmClause]))
          (criteriaText filmClause [filmClause]) = .ok true ↔
        ∀ clause ∈ [filmClause, filmClause],
          clause.Holds (dlnaProfileUpnpObjectItem mp3Profile) musicInfo := by
  have fails : ¬ filmClause.Holds (dlnaProfileUpnpObjectItem mp3Profile) musicInfo := by
    change ¬ dlnaProfileUpnpObjectItem mp3Profile = some filmClause.operand
    decide
  have splits : Splits filmClause [filmClause] := .inl (by simp)
  exact (search_match_iff musicItem_described filmClause [filmClause]).mpr
    ⟨fun _ => ⟨filmClause, by simp, fails⟩, fun _ => splits⟩

end Libdlna
