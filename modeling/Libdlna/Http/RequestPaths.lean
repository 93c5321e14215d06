import Libdlna.Http.DotSegments
import Libdlna.Shared.Outcome

set_option autoImplicit false

/-!
# Documents of requests

Where the path of a request leads when it is appended to the root directory.
-/

namespace Libdlna.Uri

open CString

/-- The path before the tail has no dot segments left, and its names are from the text. -/
structure Resolved (text : Text) (path : SlashPath Char) (tail : Text) : Prop where
  dirs : ∀ dir ∈ path.dirs, Plain dir ∧ SlashPath.Proper here parent dir ∧ dir ⊆ text
  plain : Plain path.name
  name : tail = [] → SlashPath.Proper here parent path.name
  name_subset : path.name ⊆ text
  ended : tail.head?.all (! inPath ·) = true

theorem closing_resolved {opened : List Text} {text name tail result : Text}
    (dirs : ∀ dir ∈ opened, Plain dir ∧ SlashPath.Proper here parent dir ∧ dir ⊆ text)
    (plain : Plain name) (subset : name ⊆ text) (ended : tail.head?.all (! inPath ·) = true)
    (closed : closing opened name tail = some result) :
    ∃ path, Resolved text path tail ∧ result = path.join '/' ++ tail := by
  rw [closing] at closed
  by_cases last : tail = []
  · rw [if_pos last, SlashPath.resolveName] at closed
    by_cases dot : name = here ∨ name = parent
    · rw [if_pos dot, Option.map_map, Option.map_eq_some_iff] at closed
      obtain ⟨opened', entered, rfl⟩ := closed
      have dirs' := SlashPath.enter_forall entered
        (fun proper => (dot.elim proper.1 proper.2).elim) dirs
      have empty : SlashPath.Proper here parent [] := ⟨by decide, by decide⟩
      refine ⟨⟨opened', []⟩, ⟨dirs', by simp [Plain], fun _ => empty, List.nil_subset _, ended⟩, ?_⟩
      rw [last, List.append_nil]
      rfl
    · rw [if_neg dot] at closed
      obtain rfl := Option.some.inj closed
      refine ⟨⟨opened, name⟩, ⟨dirs, plain, fun _ => not_or.mp dot, subset, ended⟩, ?_⟩
      rw [last, List.append_nil]
  · rw [if_neg last] at closed
    exact ⟨⟨opened, name⟩, ⟨dirs, plain, fun none => absurd none last, subset, ended⟩,
      (Option.some.inj closed).symm⟩

theorem withoutDots_resolved {text result : Text} (resolved : withoutDots text = some result) :
    ∃ path, Resolved text path (text.dropWhile inPath) ∧
      result = path.join '/' ++ text.dropWhile inPath := by
  have body := plain_split (List.all_takeWhile (p := inPath) (l := text))
  have front := (List.takeWhile_prefix inPath (l := text)).subset
  rw [withoutDots_eq text rfl rfl, Option.bind_eq_some_iff] at resolved
  obtain ⟨opened, run, closed⟩ := resolved
  have subset : ∀ {segment : Text}, segment ⊆ text.takeWhile inPath → segment ⊆ text :=
    fun part => List.Subset.trans part front
  have dirs : ∀ dir ∈ opened, Plain dir ∧ SlashPath.Proper here parent dir ∧ dir ⊆ text :=
    SlashPath.foldlM_enter_forall run
      (fun dir member proper => ⟨body.1 dir member, proper, subset (SlashPath.dir_subset member)⟩)
      (by simp)
  exact closing_resolved dirs body.2 (subset (SlashPath.name_subset _)) (dropWhile_ended text) closed

section Resolved

variable {text : Text} {path : SlashPath Char} {tail : Text}

theorem Resolved.split (resolved : Resolved text path tail) :
    SlashPath.split '/' (path.join '/') = path := by
  rw [SlashPath.join, SlashPath.split_joinDirs (fun dir member => (resolved.dirs dir member).1.1),
    SlashPath.split_name resolved.plain.1, List.append_nil]

theorem Resolved.all_inPath (resolved : Resolved text path tail) :
    (path.join '/').all inPath = true := by
  rw [SlashPath.join, List.all_append, Bool.and_eq_true, SlashPath.joinDirs, List.all_flatMap,
    List.all_eq_true]
  refine ⟨fun dir member => ?_, resolved.plain.2⟩
  rw [List.all_append, (resolved.dirs dir member).1.2]
  rfl

theorem Resolved.takeWhile (resolved : Resolved text path tail) :
    (path.join '/' ++ tail).takeWhile inPath = path.join '/' ∧
      (path.join '/' ++ tail).dropWhile inPath = tail := by
  have all := List.all_eq_true.mp resolved.all_inPath
  rw [List.takeWhile_append_of_pos all, List.dropWhile_append_of_pos all]
  cases tail with
  | nil => simp
  | cons c rest =>
      have stops : inPath c = false := by simpa using resolved.ended
      simp [List.takeWhile, List.dropWhile, stops]

theorem Resolved.withoutDots (resolved : Resolved text path tail) :
    withoutDots (path.join '/' ++ tail) = some (path.join '/' ++ tail) := by
  have proper : ∀ dir ∈ path.dirs, SlashPath.Proper here parent dir :=
    fun dir member => (resolved.dirs dir member).2.1
  rw [withoutDots_eq _ (resolved.takeWhile.1 ▸ resolved.split) resolved.takeWhile.2,
    SlashPath.foldlM_enter_of_proper 1 [] proper, Option.bind_some, closing]
  by_cases last : tail = []
  · have name := resolved.name last
    rw [if_pos last, SlashPath.resolveName, if_neg (not_or.mpr name), last, List.append_nil]
    rfl
  · rw [if_neg last]
    rfl

/-- Appended to a directory, the document is in it. -/
def Confined (doc : Text) : Prop := (SlashPath.split '/' doc).Inside here parent

instance (doc : Text) : Decidable (Confined doc) := inferInstanceAs (Decidable (_ = true))

theorem Resolved.confined_iff {doc : Text} (resolved : Resolved text path tail)
    (part : doc <+: path.join '/') :
    Confined doc ↔ ¬ ∃ k, doc = List.replicate k '/' ++ parent := by
  obtain ⟨others, whole⟩ := part
  have joined : SlashPath.join '/' (SlashPath.split '/' doc) = doc := SlashPath.join_split doc
  have separate : (∀ dir ∈ (SlashPath.split '/' doc).dirs, '/' ∉ dir) ∧
      '/' ∉ (SlashPath.split '/' doc).name := SlashPath.slash_not_mem_split doc
  have dirs : path.dirs = (SlashPath.split '/' doc).dirs ++
      (SlashPath.split '/' ((SlashPath.split '/' doc).name ++ others)).dirs := by
    have both := resolved.split
    rw [← whole, ← joined, SlashPath.join, List.append_assoc, SlashPath.split_joinDirs separate.1] at both
    rw [← both]
  have proper : ∀ dir ∈ (SlashPath.split '/' doc).dirs, SlashPath.Proper here parent dir := by
    intro dir member
    exact (resolved.dirs dir (dirs ▸ List.mem_append_left _ member)).2.1
  rw [Confined, SlashPath.inside_iff proper, not_iff_not]
  constructor
  · rintro ⟨name, empty⟩
    refine ⟨(SlashPath.split '/' doc).dirs.length, ?_⟩
    rw [← SlashPath.joinDirs_replicate_nil, ← List.eq_replicate_length.mpr empty, ← name, ← SlashPath.join,
      joined]
  · rintro ⟨k, rfl⟩
    rw [SlashPath.split_replicate k (by decide)]
    exact ⟨rfl, fun dir member => List.eq_of_mem_replicate member⟩

theorem Resolved.takeWhile_join (resolved : Resolved text path tail) (more : nul ∉ text) :
    (path.join '/').takeWhile (· ≠ nul) = path.join '/' := by
  rw [List.takeWhile_eq_self_iff]
  intro c member
  rw [decide_eq_true_eq]
  rintro rfl
  rw [SlashPath.join, List.mem_append, SlashPath.joinDirs, List.mem_flatMap] at member
  rcases member with ⟨dir, inPath, inDir⟩ | inName
  · rw [List.mem_append] at inDir
    rcases inDir with inDir | slash
    · exact more ((resolved.dirs dir inPath).2.2 inDir)
    · exact absurd slash (by decide)
  · exact more (resolved.name_subset inName)

theorem Resolved.confined (resolved : Resolved text path []) : Confined (path.join '/') := by
  rw [Confined, resolved.split,
    SlashPath.inside_iff (fun dir member => (resolved.dirs dir member).2.1)]
  exact fun out => (resolved.name rfl).2 out.1

end Resolved

/-- The loop in the buffer is the resolution of the path, and there is nothing left to resolve. -/
theorem removeDots_resolves (first : Char) (rest beyond : Text) :
    Leaves (removeDots (first :: rest ++ nul :: beyond) (first :: rest).length)
        (withoutDots (first :: rest)) ∧
      ∀ result, withoutDots (first :: rest) = some result → withoutDots result = some result := by
  refine ⟨leaves_withoutDots (first :: rest) beyond (List.cons_ne_nil first rest), ?_⟩
  intro result resolved
  obtain ⟨path, clean, rfl⟩ := withoutDots_resolved resolved
  exact clean.withoutDots

theorem unescape_of_plain {text : Text} (plain : '%' ∉ text) : unescape text = text := by
  induction text using unescape.induct with
  | case1 percent high low rest c escape ih =>
      have percent' : percent ≠ '%' := fun same => plain (same ▸ List.mem_cons_self ..)
      rw [escaped, if_neg fun escape => percent' escape.1] at escape
      cases escape
  | case2 percent high low rest none ih =>
      rw [unescape_none none, ih fun member => plain (List.mem_cons_of_mem _ member)]
  | case3 short isShort =>
      rw [unescape]
      exact isShort

theorem freed_length (text : Text) : (unescape text ++ freed text).length = text.length := by
  have fits := unescape_length_le text
  rw [List.length_append, freed, List.length_replicate]
  omega

theorem takeWhile_terminated (text beyond : Text) :
    (text ++ nul :: beyond).takeWhile (· ≠ nul) = text.takeWhile (· ≠ nul) := by
  induction text with
  | nil => simp
  | cons c rest ih =>
      rw [List.cons_append, List.takeWhile_cons, List.takeWhile_cons, ih]

theorem requestDoc_ok {pathquery doc : Text} (served : requestDoc pathquery = .ok (.ok doc)) :
    ∃ result, withoutDots (unescape pathquery ++ freed pathquery) = some result ∧
      doc = result.takeWhile (· ≠ nul) := by
  have some : pathquery ≠ [] := by
    rintro rfl
    have fault : requestDoc [] = .error .outOfBounds := rfl
    rw [fault] at served
    exact nomatch served
  have more : unescape pathquery ++ freed pathquery ≠ [] := by
    intro none
    apply some
    rw [← List.length_eq_zero_iff, ← freed_length, none, List.length_nil]
  have leaves := leaves_withoutDots (unescape pathquery ++ freed pathquery) [] more
  rw [freed_length, List.append_assoc] at leaves
  rw [requestDoc, removeEscapedChars_eq, Outcome.bind_ok] at served
  obtain ⟨_, unescaped, served⟩ := served
  obtain rfl := Except.ok.inj unescaped
  rw [Outcome.bind_ok] at served
  obtain ⟨outcome, removed, served⟩ := served
  cases resolved : withoutDots (unescape pathquery ++ freed pathquery) with
  | none =>
      rw [resolved, Leaves, removed] at leaves
      obtain rfl := Except.ok.inj leaves
      exact nomatch served
  | some result =>
      rw [resolved, Leaves, removed] at leaves
      obtain ⟨beyond, left⟩ := leaves
      obtain rfl := Except.ok.inj left
      refine ⟨result, rfl, ?_⟩
      simp only [Outcome.bind_ok] at served
      obtain ⟨first, -, served⟩ := served
      split at served
      · exact nomatch served
      · have same := Except.ok.inj (Except.ok.inj served)
        rw [← same]
        exact takeWhile_terminated result beyond

theorem inPath_freed (text : Text) : (freed text).all inPath = true := by
  rw [List.all_eq_true]
  intro c member
  rw [List.eq_of_mem_replicate member]
  decide

end Libdlna.Uri
