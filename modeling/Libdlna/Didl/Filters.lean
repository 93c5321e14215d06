import Libdlna.Model.Didl

set_option autoImplicit false

/-!
# Filters

A filter is a list of tokens, each with the name of an element, of an attribute or of both. What is
asked for is compared with the first characters of a token only, so that it is also found in a
longer name.
-/

namespace Libdlna

open CString

variable {filter v token : Text}

/-- The part of a token that is compared: for an attribute what begins with the first `'@'`, and for
an element what stands before it. -/
def tokenPart (v token : Text) : Text :=
  if v.head? = some '@' then token.dropWhile fun c => c ≠ '@' else token.takeWhile fun c => c ≠ '@'

/-- The filter is `"*"`, or it has a token with just that element or attribute. -/
def NamedBy (filter v : Text) : Prop :=
  filter = "*".toList ∨ ∃ token ∈ filter.splitOn ',', tokenPart v token = v

/-- The filter has a token with an element or attribute whose name goes on after `v`. -/
def ExtendedBy (filter v : Text) : Prop :=
  ∃ token ∈ filter.splitOn ',', v <+: tokenPart v token ∧ tokenPart v token ≠ v

def IsFilterValue (v : Text) : Prop := v ≠ [] ∧ ('@' ∈ v → v.head? = some '@')

theorem prefix_takeWhile_iff {α : Type} {p : α → Bool} {v s : List α} (all : ∀ c ∈ v, p c) :
    v <+: s.takeWhile p ↔ v <+: s := by
  constructor
  · exact fun isPrefix => isPrefix.trans (List.takeWhile_prefix p)
  · rintro ⟨rest, rfl⟩
    rw [List.takeWhile_append_of_pos all]
    exact List.prefix_append v _

theorem dropWhile_of_not_mem {c : Char} (missing : c ∉ token) :
    token.dropWhile (fun candidate => candidate ≠ c) = [] := by
  apply List.dropWhile_eq_nil_iff.mpr
  intro candidate member
  simpa using fun same : candidate = c => missing (same ▸ member)

theorem strchr_of_mem {c : Char} (member : c ∈ token) :
    strchr token c = some (token.dropWhile fun candidate => candidate ≠ c) := by
  unfold strchr
  cases found : token.dropWhile fun candidate => candidate ≠ c with
  | nil =>
      have passed := List.dropWhile_eq_nil_iff.mp found c member
      simp at passed
  | cons first rest => rfl

theorem strchr_of_not_mem {c : Char} (missing : c ∉ token) : strchr token c = none := by
  unfold strchr
  rw [dropWhile_of_not_mem missing]

theorem matchesToken_iff (value : IsFilterValue v) (token : Text) :
    (match if v.head? = some '@' then strchr token '@' else some token with
      | none => false
      | some token => v.isPrefixOf token) = true ↔ v <+: tokenPart v token := by
  unfold tokenPart
  by_cases isAttribute : v.head? = some '@'
  · rw [if_pos isAttribute, if_pos isAttribute]
    by_cases member : '@' ∈ token
    · rw [strchr_of_mem member]
      exact List.isPrefixOf_iff_prefix
    · rw [strchr_of_not_mem member]
      refine iff_of_false (by simp) ?_
      rw [dropWhile_of_not_mem member, List.prefix_nil]
      exact value.1
  · rw [if_neg isAttribute, if_neg isAttribute]
    have element : ∀ c ∈ v, decide (c ≠ '@') = true := by
      intro c member
      simpa using fun same : c = '@' => isAttribute (value.2 (same ▸ member))
    exact List.isPrefixOf_iff_prefix.trans (prefix_takeWhile_iff element).symm

theorem filterHasVal_iff (value : IsFilterValue v) :
    filterHasVal filter v = true ↔
      filter = "*".toList ∨ ∃ token ∈ filter.splitOn ',', v <+: tokenPart v token := by
  unfold filterHasVal strtok
  by_cases all : filter = "*".toList
  · simp [all]
  · rw [if_neg all, List.any_eq_true]
    constructor
    · rintro ⟨token, member, hit⟩
      exact .inr ⟨token, List.mem_of_mem_filter member, (matchesToken_iff value token).mp hit⟩
    · rintro (whole | ⟨token, member, hit⟩)
      · exact absurd whole all
      · refine ⟨token, List.mem_filter.mpr ⟨member, ?_⟩, (matchesToken_iff value token).mpr hit⟩
        -- an empty token has no part that something begins with
        refine decide_eq_true fun empty => ?_
        subst empty
        have part : tokenPart v [] = [] := by simp [tokenPart]
        rw [part, List.prefix_nil] at hit
        exact value.1 hit

theorem filterHasVal_exact_iff (filter v : Text) (value : IsFilterValue v) :
    (filterHasVal filter v = true ↔ NamedBy filter v) ↔
      (ExtendedBy filter v → NamedBy filter v) := by
  rw [filterHasVal_iff value]
  constructor
  · rintro exactly ⟨token, member, hit, -⟩
    exact exactly.mp (.inr ⟨token, member, hit⟩)
  · intro covered
    constructor
    · rintro (all | ⟨token, member, hit⟩)
      · exact .inl all
      · by_cases same : tokenPart v token = v
        · exact .inr ⟨token, member, same⟩
        · exact covered ⟨token, member, hit, same⟩
    · rintro (all | ⟨token, member, same⟩)
      · exact .inl all
      · exact .inr ⟨token, member, same.symm ▸ List.prefix_rfl⟩

theorem isFilterValue_res : IsFilterValue "res".toList := ⟨by decide, by decide⟩

theorem res_named_exactly :
    filterHasVal "dc:title,res@size".toList "res".toList = true ↔
      NamedBy "dc:title,res@size".toList "res".toList :=
  (filterHasVal_exact_iff "dc:title,res@size".toList "res".toList isFilterValue_res).mpr
    fun _ => .inr ⟨"res@size".toList, by decide, by decide⟩

/-- An element `resource` alone makes the library send `res`. -/
theorem resource_taken_for_res :
    IsFilterValue "res".toList ∧ ¬ (filterHasVal "resource".toList "res".toList = true ↔
      NamedBy "resource".toList "res".toList) := by
  refine ⟨isFilterValue_res, fun exactly => ?_⟩
  have found : filterHasVal "resource".toList "res".toList = true := by decide
  rcases exactly.mp found with all | ⟨token, member, same⟩
  · exact absurd all (by decide)
  · have only : token = "resource".toList := by
      have tokens : "resource".toList.splitOn ',' = ["resource".toList] := by decide
      rw [tokens] at member
      exact List.mem_singleton.mp member
    rw [only] at same
    exact absurd same (by decide)

end Libdlna
