import Libdlna.Http.Escapes
import Libdlna.Shared.Paths

set_option autoImplicit false

/-!
# Dot segments

`remove_dots` has one index to read from and one to write to, and an array of the places to go back
to. Segment by segment it does what the resolution of a path does.
-/

namespace Libdlna.Uri

open CString

def here : Text := ['.']
def parent : Text := ['.', '.']

def inPath (c : Char) : Bool := c ≠ '?' && c ≠ '#'

/-- The path without its dot segments. Its first directory counts as the root, which nothing goes
above, whether it is the empty one before a leading slash or not. A name that a query or a fragment
follows is left as it is, also where it is a dot segment. -/
def withoutDots (text : Text) : Option Text :=
  let path := SlashPath.split '/' (text.takeWhile inPath)
  let tail := text.dropWhile inPath
  let resolved :=
    if tail = [] then path.resolve here parent 1 else path.resolveDirs here parent 1
  resolved.map fun path => path.join '/' ++ tail

def marks : List Text → List Nat
  | [] => []
  | dir :: below => (SlashPath.joinDirs '/' (dir :: below).reverse).length :: marks below

/-- The directories that are open and the characters of a name after them have been copied;
`todo` is left of the text. -/
structure Dots.At (size : Nat) (beyond : Text) (dots : Dots) (opened : List Text)
    (name todo : Text) : Prop where
  copied : dots.buffer.take dots.copyTo = SlashPath.joinDirs '/' opened ++ name
  ahead : dots.buffer.drop dots.copyFrom = todo ++ nul :: beyond
  place : dots.copyFrom + todo.length = size
  behind : dots.copyTo ≤ dots.copyFrom
  marked : dots.segments = marks opened.reverse

def Dots.Leads (size : Nat) (dots dots' : Dots) : Prop :=
  ∀ turns, size - dots.copyFrom ≤ turns →
    ∃ turns', size - dots'.copyFrom ≤ turns' ∧
      removeDotsFrom size turns dots = removeDotsFrom size turns' dots'

theorem Dots.Leads.refl (size : Nat) (dots : Dots) : dots.Leads size dots := by
  intro turns enough
  exact ⟨turns, enough, rfl⟩

theorem Dots.Leads.trans {size : Nat} {dots dots' dots'' : Dots} (first : dots.Leads size dots')
    (second : dots'.Leads size dots'') : dots.Leads size dots'' := by
  intro turns enough
  obtain ⟨turns', enough', same⟩ := first turns enough
  obtain ⟨turns'', enough'', same'⟩ := second turns' enough'
  exact ⟨turns'', enough'', same.trans same'⟩

theorem Dots.Leads.of_turn {size : Nat} {dots dots' : Dots} (inside : dots.copyFrom < size)
    (turned : dots.turn size = .ok (.goes dots')) (moved : dots.copyFrom < dots'.copyFrom) :
    dots.Leads size dots' := by
  intro turns enough
  cases turns with
  | zero => omega
  | succ turns =>
      refine ⟨turns, by omega, ?_⟩
      rw [removeDotsFrom, turned]
      rfl

theorem removeDotsFrom_ends {size : Nat} {dots : Dots} (turned : dots.turn size = .ok .ends)
    (turns : Nat) : removeDotsFrom size turns dots = .ok (some dots) := by
  cases turns with
  | zero => rfl
  | succ turns =>
      rw [removeDotsFrom, turned]
      rfl

theorem removeDotsFrom_invalid {size turns : Nat} {dots : Dots} (inside : dots.copyFrom < size)
    (turned : dots.turn size = .ok .invalidUrl) (enough : size - dots.copyFrom ≤ turns) :
    removeDotsFrom size turns dots = .ok none := by
  cases turns with
  | zero => omega
  | succ turns =>
      rw [removeDotsFrom, turned]
      rfl

section Turns

variable {size : Nat} {beyond : Text} {dots : Dots} {opened : List Text} {name todo : Text}

theorem joinDirs_length (dirs : List Text) : dirs.length ≤ (SlashPath.joinDirs '/' dirs).length := by
  induction dirs with
  | nil => exact Nat.le_refl _
  | cons dir rest ih =>
      rw [SlashPath.joinDirs, List.flatMap_cons, ← SlashPath.joinDirs]
      simp only [List.length_append, List.length_cons, List.length_nil]
      omega

@[simp] theorem marks_length (below : List Text) : (marks below).length = below.length := by
  induction below with
  | nil => rfl
  | cons dir below ih => rw [marks, List.length_cons, List.length_cons, ih]

theorem Dots.At.room (at' : dots.At size beyond opened name todo) :
    dots.copyFrom < dots.buffer.length := by
  have some := congrArg List.length at'.ahead
  simp only [List.length_drop, List.length_append, List.length_cons] at some
  omega

theorem Dots.At.written (at' : dots.At size beyond opened name todo) :
    dots.copyTo = (SlashPath.joinDirs '/' opened ++ name).length := by
  have taken := congrArg List.length at'.copied
  have room := at'.room
  have behind := at'.behind
  rw [List.length_take, Nat.min_eq_left (by omega)] at taken
  exact taken

theorem Dots.At.segments_length (at' : dots.At size beyond opened name todo) :
    dots.segments.length = opened.length := by
  rw [at'.marked, marks_length, List.length_reverse]

theorem Dots.At.inside {c : Char} {rest : Text}
    (at' : dots.At size beyond opened name (c :: rest)) : dots.copyFrom < size := by
  have place := at'.place
  rw [List.length_cons] at place
  omega

theorem Dots.At.fetch {c : Char} {rest : Text}
    (at' : dots.At size beyond opened name (c :: rest)) :
    fetch dots.buffer dots.copyFrom = .ok c :=
  fetch_drop at'.ahead 0

def Dots.copied (dots : Dots) (c : Char) : Dots :=
  { buffer := dots.buffer.set dots.copyTo c
    copyTo := dots.copyTo + 1
    copyFrom := dots.copyFrom + 1
    segments := if c = '/' then (dots.copyTo + 1) :: dots.segments else dots.segments }

/-- There is a place in `Segments` for each separator that was copied. -/
theorem Dots.At.copy {c : Char} {rest : Text}
    (at' : dots.At size beyond opened name (c :: rest)) :
    dots.copy size c = .ok (.goes (dots.copied c)) := by
  have fits : ¬ (c = '/' ∧ size ≤ dots.segments.length) := by
    rintro ⟨-, full⟩
    have inside := at'.inside
    have behind := at'.behind
    have written := at'.written
    have dirs := joinDirs_length opened
    rw [at'.segments_length] at full
    rw [List.length_append] at written
    omega
  have room : dots.copyTo < dots.buffer.length := Nat.lt_of_le_of_lt at'.behind at'.room
  rw [Dots.copy, if_neg fits, write, if_pos room]
  rfl

theorem Dots.At.take_copied {c : Char} {rest : Text}
    (at' : dots.At size beyond opened name (c :: rest)) :
    (dots.copied c).buffer.take (dots.copyTo + 1) = SlashPath.joinDirs '/' opened ++ (name ++ [c]) := by
  have room : dots.copyTo < dots.buffer.length := Nat.lt_of_le_of_lt at'.behind at'.room
  rw [Dots.copied, List.take_add_one, List.take_set_of_le (Nat.le_refl _), at'.copied,
    List.getElem?_set_self room, List.append_assoc]
  rfl

theorem Dots.At.drop_copied {c : Char} {rest : Text}
    (at' : dots.At size beyond opened name (c :: rest)) :
    (dots.copied c).buffer.drop (dots.copyFrom + 1) = rest ++ nul :: beyond := by
  have behind := at'.behind
  rw [Dots.copied, List.drop_set_of_lt (by omega), ← List.drop_drop, at'.ahead]
  rfl

theorem Dots.At.copied_rest {c : Char} {rest : Text}
    (at' : dots.At size beyond opened name (c :: rest)) :
    { dots.copied c with segments := dots.segments }.At size beyond opened (name ++ [c]) rest where
  copied := at'.take_copied
  ahead := at'.drop_copied
  place := by
    have place := at'.place
    simp only [List.length_cons, Dots.copied] at place ⊢
    omega
  behind := Nat.succ_le_succ at'.behind
  marked := at'.marked

theorem Dots.At.copied_name {c : Char} {rest : Text} (plain : c ≠ '/')
    (at' : dots.At size beyond opened name (c :: rest)) :
    (dots.copied c).At size beyond opened (name ++ [c]) rest := by
  have same : { dots.copied c with segments := dots.segments } = dots.copied c := by
    rw [Dots.copied, if_neg plain]
  exact same ▸ at'.copied_rest

theorem Dots.At.copied_slash {rest : Text}
    (at' : dots.At size beyond opened name ('/' :: rest)) :
    (dots.copied '/').At size beyond (opened ++ [name]) [] rest where
  copied := by
    rw [SlashPath.joinDirs_append, SlashPath.joinDirs_singleton, List.append_nil]
    exact at'.take_copied
  ahead := at'.drop_copied
  place := by
    have place := at'.place
    simp only [List.length_cons, Dots.copied] at place ⊢
    omega
  behind := Nat.succ_le_succ at'.behind
  marked := by
    rw [Dots.copied, if_pos rfl, List.reverse_append, List.reverse_singleton,
      List.singleton_append, marks, ← at'.marked, List.reverse_cons, List.reverse_reverse,
      SlashPath.joinDirs_append, SlashPath.joinDirs_singleton, at'.written]
    simp only [List.length_append, List.length_cons, List.length_nil, Nat.add_assoc]

def Dots.Starts (dots : Dots) : Prop := dots.segmentStarts = .ok true

theorem Dots.starts_of_fetch {dots : Dots} {before : Nat} (next : dots.copyFrom = before + 1)
    (slash : Uri.fetch dots.buffer before = .ok '/') : dots.Starts := by
  rw [Dots.Starts, Dots.segmentStarts, next, if_neg (Nat.succ_ne_zero _), Nat.add_sub_cancel, slash]
  rfl

theorem Dots.At.segmentStarts_copied {c : Char} {rest : Text}
    (at' : dots.At size beyond opened name (c :: rest)) :
    (dots.copied c).segmentStarts = .ok (c = '/') := by
  have behind := at'.behind
  have before : Uri.fetch (dots.copied c).buffer dots.copyFrom = .ok c := by
    rw [Uri.fetch, Dots.copied]
    by_cases same : dots.copyTo = dots.copyFrom
    · rw [same, List.getElem?_set_self at'.room]
    · rw [List.getElem?_set_ne same]
      exact at'.fetch
  rw [Dots.segmentStarts, Dots.copied, if_neg (Nat.succ_ne_zero _), Nat.add_sub_cancel]
  rw [Dots.copied] at before
  rw [before]
  rfl

def Closes (others : Text) : Prop := others = [] ∨ others.head? = some '/'

instance (others : Text) : Decidable (Closes others) := inferInstanceAs (Decidable (_ ∨ _))

variable {segment others : Text}

theorem Dots.At.segmentEnds (at' : dots.At size beyond opened name (segment ++ others))
    (plain : '/' ∉ segment) {n : Nat} (fits : n ≤ segment.length) :
    dots.segmentEnds size n = .ok (n = segment.length ∧ Closes others : Bool) := by
  have place := at'.place
  rw [List.length_append] at place
  by_cases last : dots.copyFrom + n = size
  · have whole : n = segment.length ∧ others = [] := by
      rw [← List.length_eq_zero_iff]
      omega
    rw [Dots.segmentEnds, if_pos last]
    simp [whole, Closes]
  · rw [Dots.segmentEnds, if_neg last, fetch_drop at'.ahead, List.append_assoc]
    rcases Nat.lt_or_eq_of_le fits with within | whole
    · have here : Uri.fetch (segment ++ (others ++ nul :: beyond)) n = .ok segment[n] := by
        rw [Uri.fetch, List.getElem?_append_left within, List.getElem?_eq_getElem within]
      have other : segment[n] ≠ '/' := by
        intro slash
        exact plain (slash ▸ List.getElem_mem within)
      rw [here]
      simp [Except.bind, Bind.bind, other, Nat.ne_of_lt within]
    · cases others with
      | nil =>
          rw [List.length_nil] at place
          omega
      | cons c rest =>
          rw [whole, fetch_length]
          simp [Except.bind, Bind.bind, Closes]

theorem Dots.At.dot {more : Text} (at' : dots.At size beyond opened name ('.' :: more ++ others))
    (starts : dots.Starts) (plain : '/' ∉ '.' :: more) (next : others.head? ≠ some '.') :
    dots.dot size = .ok
      (if Closes others ∧ '.' :: more = here then
        some (.goes { dots with copyFrom := dots.copyFrom + 2 })
      else if Closes others ∧ '.' :: more = parent then some dots.leave else none) := by
  have fetched : Uri.fetch dots.buffer (dots.copyFrom + 1) =
      Uri.fetch (more ++ (others ++ nul :: beyond)) 0 := by
    rw [fetch_drop at'.ahead, List.append_assoc, List.cons_append, fetch_succ]
  have one := at'.segmentEnds plain (show 1 ≤ ('.' :: more).length by simp)
  rw [Dots.dot, starts]
  simp only [Except.bind, Bind.bind, one, fetched, if_true]
  match more with
  | [] =>
      cases others with
      | nil => simp [Closes, here]
      | cons c rest =>
          have other : c ≠ '.' := by simpa using next
          by_cases slash : c = '/'
          · simp [Closes, here, slash]
          · simp [Closes, here, parent, slash, other]
  | second :: more =>
      have two := at'.segmentEnds plain (show 2 ≤ ('.' :: second :: more).length by simp)
      simp only [List.cons_append, fetch_zero, two]
      by_cases dot : second = '.'
      · cases more with
        | nil => by_cases closes : Closes others <;> simp [dot, closes, here, parent]
        | cons third more => simp [dot, here, parent]
      · simp [dot, here, parent]

theorem Dots.At.turn_copy {c : Char} {rest : Text}
    (at' : dots.At size beyond opened name (c :: rest)) (plain : inPath c = true)
    (name' : c = '.' → dots.dot size = .ok none) :
    dots.turn size = .ok (.goes (dots.copied c)) := by
  have goesOn : ¬ (c = '?' ∨ c = '#') := by
    simpa [inPath] using plain
  rw [Dots.turn, if_pos at'.inside, at'.fetch]
  simp only [Except.bind, Bind.bind, if_neg goesOn]
  by_cases dot : c = '.'
  · rw [if_pos dot, name' dot]
    exact at'.copy
  · rw [if_neg dot]
    exact at'.copy

theorem Dots.dot_within (within : dots.segmentStarts = .ok false) :
    dots.dot size = .ok none := by
  rw [Dots.dot, within]
  rfl

theorem Dots.At.leads_copied {c : Char} {rest : Text}
    (at' : dots.At size beyond opened name (c :: rest)) (plain : inPath c = true)
    (name' : c = '.' → dots.dot size = .ok none) : dots.Leads size (dots.copied c) :=
  .of_turn at'.inside (at'.turn_copy plain name') (Nat.lt_succ_self _)

def Plain (segment : Text) : Prop := '/' ∉ segment ∧ segment.all inPath = true

theorem Plain.tail {c : Char} {segment : Text} (plain : Plain (c :: segment)) : Plain segment := by
  refine ⟨fun slash => plain.1 (List.mem_cons_of_mem _ slash), ?_⟩
  have all := plain.2
  rw [List.all_cons, Bool.and_eq_true] at all
  exact all.2

theorem Plain.head {c : Char} {segment : Text} (plain : Plain (c :: segment)) :
    c ≠ '/' ∧ inPath c = true := by
  refine ⟨fun slash => plain.1 (slash ▸ List.mem_cons_self ..), ?_⟩
  have all := plain.2
  rw [List.all_cons, Bool.and_eq_true] at all
  exact all.1

theorem copies_within (plain : Plain segment)
    (at' : dots.At size beyond opened name (segment ++ others))
    (within : dots.segmentStarts = .ok false) :
    ∃ dots', dots.Leads size dots' ∧ dots'.At size beyond opened (name ++ segment) others := by
  induction segment generalizing dots name with
  | nil => exact ⟨dots, .refl size dots, by simpa using at'⟩
  | cons c segment ih =>
      have leads := at'.leads_copied plain.head.2 fun _ => dots.dot_within within
      have later : (dots.copied c).segmentStarts = .ok false := by
        rw [at'.segmentStarts_copied]
        simp [plain.head.1]
      obtain ⟨dots', others', at''⟩ := ih plain.tail (at'.copied_name plain.head.1) later
      exact ⟨dots', leads.trans others', by simpa using at''⟩

theorem copies_name (plain : Plain segment) (next : others.head? ≠ some '.')
    (name' : ¬ (Closes others ∧ (segment = here ∨ segment = parent)))
    (at' : dots.At size beyond opened [] (segment ++ others)) (starts : dots.Starts) :
    ∃ dots', dots.Leads size dots' ∧ dots'.At size beyond opened segment others := by
  match segment with
  | [] => exact ⟨dots, .refl size dots, at'⟩
  | c :: segment =>
      have noDot : c = '.' → dots.dot size = .ok none := by
        rintro rfl
        rw [at'.dot starts plain.1 next, if_neg fun dot => name' ⟨dot.1, .inl dot.2⟩,
          if_neg fun dots => name' ⟨dots.1, .inr dots.2⟩]
      have leads := at'.leads_copied plain.head.2 noDot
      have within : (dots.copied c).segmentStarts = .ok false := by
        rw [at'.segmentStarts_copied]
        simp [plain.head.1]
      obtain ⟨dots', others', at''⟩ :=
        copies_within plain.tail (at'.copied_name plain.head.1) within
      exact ⟨dots', leads.trans others', at''⟩

theorem Dots.At.turn_dot {more : Text} {turn : DotsTurn}
    (at' : dots.At size beyond opened name ('.' :: more))
    (dot : dots.dot size = .ok (some turn)) : dots.turn size = .ok turn := by
  rw [Dots.turn, if_pos at'.inside, at'.fetch]
  simp only [Except.bind, Bind.bind, dot]
  rw [if_neg (by decide), if_pos trivial]

theorem Dots.At.turn_here (at' : dots.At size beyond opened name (here ++ others))
    (closes : Closes others) (starts : dots.Starts) :
    dots.turn size = .ok (.goes { dots with copyFrom := dots.copyFrom + 2 }) := by
  have next : others.head? ≠ some '.' := by
    rcases closes with rfl | slash
    · simp
    · simp [slash]
  have dot := at'.dot starts (by decide) next
  rw [if_pos ⟨closes, rfl⟩] at dot
  exact at'.turn_dot dot

theorem Dots.At.turn_parent (at' : dots.At size beyond opened name (parent ++ others))
    (closes : Closes others) (starts : dots.Starts) : dots.turn size = .ok dots.leave := by
  have next : others.head? ≠ some '.' := by
    rcases closes with rfl | slash
    · simp
    · simp [slash]
  have dot := at'.dot starts (by decide) next
  rw [if_neg (by simp [here]), if_pos ⟨closes, rfl⟩] at dot
  exact at'.turn_dot dot

theorem Dots.At.leave (at' : dots.At size beyond opened name todo) :
    dots.leave =
      if 1 < opened.length then
        .goes { dots with
          copyFrom := dots.copyFrom + 3
          copyTo := (SlashPath.joinDirs '/' opened.dropLast).length
          segments := marks opened.dropLast.reverse }
      else .invalidUrl := by
  have marked := at'.marked
  obtain ⟨below, rfl⟩ : ∃ below : List Text, opened = below.reverse := ⟨opened.reverse, by simp⟩
  rw [List.reverse_reverse] at marked
  rw [List.dropLast_reverse, List.reverse_reverse, List.length_reverse]
  match below with
  | [] => rw [Dots.leave, marked, marks, if_neg (by simp)]
  | [dir] => rw [Dots.leave, marked, marks, marks, if_neg (by simp)]
  | dir :: before :: below =>
      rw [Dots.leave, marked, marks, marks, if_pos (by simp), List.tail_cons, marks]

variable {rest : Text}

theorem Dots.At.ahead_passed (at' : dots.At size beyond opened name (segment ++ '/' :: rest)) :
    dots.buffer.drop (dots.copyFrom + (segment.length + 1)) = rest ++ nul :: beyond := by
  rw [← List.drop_drop, at'.ahead, List.append_assoc, ← List.drop_drop, List.drop_left]
  rfl

theorem Dots.At.fetch_passed (at' : dots.At size beyond opened name (segment ++ '/' :: rest)) :
    Uri.fetch dots.buffer (dots.copyFrom + segment.length) = .ok '/' := by
  rw [fetch_drop at'.ahead, List.append_assoc, fetch_length]
  rfl

theorem Dots.At.place_passed (at' : dots.At size beyond opened name (segment ++ '/' :: rest)) :
    dots.copyFrom + (segment.length + 1) + rest.length = size := by
  have place := at'.place
  rw [List.length_append, List.length_cons] at place
  omega

theorem Dots.At.inside_passed (at' : dots.At size beyond opened name (segment ++ '/' :: rest)) :
    dots.copyFrom < size := by
  have place := at'.place_passed
  omega

theorem passes_here (at' : dots.At size beyond opened [] (here ++ '/' :: rest))
    (starts : dots.Starts) :
    ∃ dots', dots.Leads size dots' ∧ dots'.At size beyond opened [] rest ∧ dots'.Starts := by
  refine ⟨{ dots with copyFrom := dots.copyFrom + 2 }, ?_, ?_, ?_⟩
  · exact .of_turn at'.inside_passed (at'.turn_here (.inr rfl) starts) (by simp)
  · exact
      { copied := at'.copied
        ahead := at'.ahead_passed
        place := at'.place_passed
        behind := Nat.le_trans at'.behind (Nat.le_add_right ..)
        marked := at'.marked }
  · exact Dots.starts_of_fetch rfl at'.fetch_passed

theorem Dots.At.take_dropLast (at' : dots.At size beyond opened [] todo) :
    dots.buffer.take (SlashPath.joinDirs '/' opened.dropLast).length =
        SlashPath.joinDirs '/' opened.dropLast ∧
      (SlashPath.joinDirs '/' opened.dropLast).length ≤ dots.copyTo := by
  have written := at'.written
  have copied := at'.copied
  rw [List.append_nil] at written copied
  have start : SlashPath.joinDirs '/' opened.dropLast <+: SlashPath.joinDirs '/' opened := by
    rcases List.eq_nil_or_concat opened with rfl | ⟨before, last, rfl⟩
    · exact List.prefix_refl _
    · rw [List.concat_eq_append, List.dropLast_concat, SlashPath.joinDirs_append]
      exact List.prefix_append ..
  have shorter : (SlashPath.joinDirs '/' opened.dropLast).length ≤ dots.copyTo :=
    written ▸ start.length_le
  refine ⟨?_, shorter⟩
  rw [← Nat.min_eq_left shorter, ← List.take_take, copied]
  exact (List.prefix_iff_eq_take.mp start).symm

theorem passes_parent (more : 1 < opened.length)
    (at' : dots.At size beyond opened [] (parent ++ '/' :: rest)) (starts : dots.Starts) :
    ∃ dots', dots.Leads size dots' ∧ dots'.At size beyond opened.dropLast [] rest ∧
      dots'.Starts := by
  have turned := at'.turn_parent (.inr rfl) starts
  rw [at'.leave, if_pos more] at turned
  refine ⟨_, .of_turn at'.inside_passed turned (by simp), ?_, ?_⟩
  · exact
      { copied := by
          rw [List.append_nil]
          exact at'.take_dropLast.1
        ahead := at'.ahead_passed
        place := at'.place_passed
        behind := Nat.le_trans at'.take_dropLast.2 (Nat.le_trans at'.behind (Nat.le_add_right ..))
        marked := rfl }
  · exact Dots.starts_of_fetch rfl at'.fetch_passed

theorem passes_name (plain : Plain segment) (notHere : segment ≠ here) (notParent : segment ≠ parent)
    (at' : dots.At size beyond opened [] (segment ++ '/' :: rest)) (starts : dots.Starts) :
    ∃ dots', dots.Leads size dots' ∧ dots'.At size beyond (opened ++ [segment]) [] rest ∧
      dots'.Starts := by
  obtain ⟨dots', leads, at''⟩ := copies_name plain (by simp)
    (fun dot => dot.2.elim notHere notParent) at' starts
  refine ⟨dots'.copied '/', ?_, at''.copied_slash, ?_⟩
  · exact leads.trans (at''.leads_copied (by decide) (fun dot => absurd dot (by decide)))
  · rw [Dots.Starts, at''.segmentStarts_copied]
    rfl

theorem passes_some {opened' : List Text} (plain : Plain segment)
    (entered : SlashPath.enter here parent 1 opened segment = some opened')
    (at' : dots.At size beyond opened [] (segment ++ '/' :: rest)) (starts : dots.Starts) :
    ∃ dots', dots.Leads size dots' ∧ dots'.At size beyond opened' [] rest ∧ dots'.Starts := by
  by_cases isHere : segment = here
  · subst isHere
    rw [SlashPath.enter, if_pos rfl, Option.some.injEq] at entered
    exact entered ▸ passes_here at' starts
  · by_cases isParent : segment = parent
    · subst isParent
      rw [SlashPath.enter, if_neg isHere, if_pos rfl] at entered
      by_cases more : 1 < opened.length
      · rw [if_pos more, Option.some.injEq] at entered
        exact entered ▸ passes_parent more at' starts
      · rw [if_neg more] at entered
        cases entered
    · rw [SlashPath.enter, if_neg isHere, if_neg isParent, Option.some.injEq] at entered
      exact entered ▸ passes_name plain isHere isParent at' starts

theorem enter_none {kept : Nat} {opened : List Text} {dir : Text}
    (refused : SlashPath.enter here parent kept opened dir = none) :
    dir = parent ∧ ¬ kept < opened.length := by
  by_cases isHere : dir = here
  · rw [SlashPath.enter, if_pos isHere] at refused
    cases refused
  · by_cases isParent : dir = parent
    · rw [SlashPath.enter, if_neg isHere, if_pos isParent] at refused
      refine ⟨isParent, fun more => ?_⟩
      rw [if_pos more] at refused
      cases refused
    · rw [SlashPath.enter, if_neg isHere, if_neg isParent] at refused
      cases refused

theorem refuses (refused : SlashPath.enter here parent 1 opened segment = none)
    (closes : Closes others) (at' : dots.At size beyond opened name (segment ++ others))
    (starts : dots.Starts) :
    dots.turn size = .ok .invalidUrl := by
  obtain ⟨rfl, fewer⟩ := enter_none refused
  rw [at'.turn_parent closes starts, at'.leave, if_neg fewer]

end Turns

def Dots.Passes (size turns : Nat) (beyond todo : Text) (dots : Dots) :
    Option (List Text) → Prop
  | none => removeDotsFrom size turns dots = .ok none
  | some opened => ∃ dots', dots.Leads size dots' ∧ dots'.At size beyond opened [] todo ∧
      dots'.Starts

theorem Dots.Leads.passes {size turns turns' : Nat} {beyond todo : Text} {dots dots' : Dots}
    {reached : Option (List Text)} (leads : dots.Leads size dots')
    (same : removeDotsFrom size turns dots = removeDotsFrom size turns' dots')
    (later : dots'.Passes size turns' beyond todo reached) :
    dots.Passes size turns beyond todo reached := by
  cases reached with
  | none => exact same.trans later
  | some opened =>
      obtain ⟨dots'', leads', ended⟩ := later
      exact ⟨dots'', leads.trans leads', ended⟩

theorem passes_dirs {size turns : Nat} {beyond todo : Text} {dots : Dots} {dirs opened : List Text}
    (plain : ∀ dir ∈ dirs, Plain dir)
    (at' : dots.At size beyond opened [] (SlashPath.joinDirs '/' dirs ++ todo)) (starts : dots.Starts)
    (enough : size - dots.copyFrom ≤ turns) :
    dots.Passes size turns beyond todo (dirs.foldlM (SlashPath.enter here parent 1) opened) := by
  induction dirs generalizing dots opened turns with
  | nil => exact ⟨dots, .refl size dots, at', starts⟩
  | cons dir dirs ih =>
      rw [SlashPath.joinDirs, List.flatMap_cons, ← SlashPath.joinDirs, List.append_assoc, List.append_assoc,
        List.singleton_append] at at'
      rw [List.foldlM_cons]
      cases entered : SlashPath.enter here parent 1 opened dir with
      | none =>
          exact removeDotsFrom_invalid at'.inside_passed
            (refuses entered (.inr rfl) at' starts) enough
      | some opened' =>
          have here' := plain dir (List.mem_cons_self ..)
          obtain ⟨dots', leads, at'', starts'⟩ := passes_some here' entered at' starts
          obtain ⟨turns', enough', same⟩ := leads turns enough
          have others := fun other member => plain other (List.mem_cons_of_mem _ member)
          exact leads.passes same (ih others at'' starts' enough')

def Leaves (outcome : Except Fault (Option Text)) : Option Text → Prop
  | none => outcome = .ok none
  | some text => ∃ beyond, outcome = .ok (some (text ++ nul :: beyond))

def finish (size : Nat) (dots : Option Dots) : Except Fault (Option Text) :=
  match dots with
  | none => .ok none
  | some dots => do
      let dots ← copyRest (size - dots.copyFrom) dots
      let buffer ← write dots.buffer dots.copyTo nul
      .ok (some buffer)

theorem removeDots_eq {buffer : Text} {size : Nat} (some : size ≠ 0) :
    removeDots buffer size = removeDotsFrom size size ⟨buffer, 0, 0, []⟩ >>= finish size := by
  rw [removeDots, if_neg some]
  rfl

theorem finish_copied {size : Nat} {dots : Dots} {text : Text}
    (copied : dots.buffer.take dots.copyTo = text) (room : dots.copyTo < dots.buffer.length)
    (all : size ≤ dots.copyFrom) : Leaves (finish size (some dots)) (some text) := by
  refine ⟨dots.buffer.drop (dots.copyTo + 1), ?_⟩
  have none : size - dots.copyFrom = 0 := by omega
  rw [finish, none, copyRest]
  simp only [Except.bind, Bind.bind, write, if_pos room]
  rw [List.set_eq_take_append_cons_drop, if_pos room, copied]

theorem copyRest_at {size : Nat} {beyond : Text} {dots : Dots} {opened : List Text}
    {name todo : Text} (at' : dots.At size beyond opened name todo) :
    ∃ dots', copyRest todo.length dots = .ok dots' ∧
      dots'.At size beyond opened (name ++ todo) [] := by
  induction todo generalizing dots name with
  | nil => exact ⟨dots, rfl, by simpa using at'⟩
  | cons c rest ih =>
      have room : dots.copyTo < dots.buffer.length := Nat.lt_of_le_of_lt at'.behind at'.room
      obtain ⟨dots', others, at''⟩ := ih at'.copied_rest
      refine ⟨dots', ?_, by simpa using at''⟩
      rw [List.length_cons, copyRest, at'.fetch]
      simp only [Except.bind, Bind.bind, write, if_pos room]
      exact others

theorem finish_at {size : Nat} {beyond : Text} {dots : Dots} {opened : List Text}
    {name tail : Text} (at' : dots.At size beyond opened name tail) :
    Leaves (finish size (some dots)) (some (SlashPath.join '/' ⟨opened, name⟩ ++ tail)) := by
  obtain ⟨dots', rest, at''⟩ := copyRest_at at'
  have left : size - dots.copyFrom = tail.length := by
    have place := at'.place
    omega
  have done : size - dots'.copyFrom = 0 := by
    have place := at''.place
    rw [List.length_nil] at place
    omega
  have room : dots'.copyTo < dots'.buffer.length := Nat.lt_of_le_of_lt at''.behind at''.room
  have finished := finish_copied at''.copied room (Nat.le_of_sub_eq_zero done)
  rw [finish, done, copyRest] at finished
  rw [finish, left, rest, SlashPath.join, List.append_assoc]
  exact finished

def Dots.Makes (size : Nat) (dots : Dots) (result : Option Text) : Prop :=
  ∀ turns, size - dots.copyFrom ≤ turns →
    Leaves (removeDotsFrom size turns dots >>= finish size) result

theorem Dots.Leads.makes {size : Nat} {dots dots' : Dots} {result : Option Text}
    (leads : dots.Leads size dots') (later : dots'.Makes size result) :
    dots.Makes size result := by
  intro turns enough
  obtain ⟨turns', enough', same⟩ := leads turns enough
  rw [same]
  exact later turns' enough'

theorem Dots.makes_of_ends {size : Nat} {dots : Dots} {result : Option Text}
    (turned : dots.turn size = .ok .ends) (finished : Leaves (finish size (some dots)) result) :
    dots.Makes size result := by
  intro turns enough
  rw [removeDotsFrom_ends turned]
  exact finished

theorem Dots.turn_end {size : Nat} {dots : Dots} (all : size ≤ dots.copyFrom) :
    dots.turn size = .ok .ends := by
  rw [Dots.turn, if_neg (Nat.not_lt.mpr all)]

section Ends

variable {size : Nat} {beyond : Text} {dots : Dots} {opened : List Text} {name tail : Text}

theorem makes_name (plain : Plain name) (ended : tail.head?.all (! inPath ·) = true)
    (name' : ¬ (tail = [] ∧ (name = here ∨ name = parent)))
    (at' : dots.At size beyond opened [] (name ++ tail)) (starts : dots.Starts) :
    dots.Makes size (some (SlashPath.join '/' ⟨opened, name⟩ ++ tail)) := by
  have next : tail.head? ≠ some '.' := by
    intro dot
    rw [dot] at ended
    exact absurd ended (by decide)
  have closes : Closes tail → tail = [] := by
    rintro (none | slash)
    · exact none
    · rw [slash] at ended
      exact absurd ended (by decide)
  obtain ⟨dots', leads, at''⟩ := copies_name plain next
    (fun dot => name' ⟨closes dot.1, dot.2⟩) at' starts
  apply leads.makes
  apply Dots.makes_of_ends _ (finish_at at'')
  match tail with
  | [] => exact Dots.turn_end (Nat.le_of_eq at''.place.symm)
  | c :: rest =>
      have query : c = '?' ∨ c = '#' := by
        simp only [List.head?_cons, Option.all_some, inPath] at ended
        by_cases mark : c = '?'
        · exact .inl mark
        · simp [mark] at ended
          exact .inr ended
      rw [Dots.turn, if_pos at''.inside, at''.fetch]
      simp only [Except.bind, Bind.bind, if_pos query]

theorem makes_skip {dots' : Dots} {opened' : List Text} (inside : dots.copyFrom < size)
    (turned : dots.turn size = .ok (.goes dots')) (all : size ≤ dots'.copyFrom)
    (copied : dots'.buffer.take dots'.copyTo = SlashPath.joinDirs '/' opened')
    (room : dots'.copyTo < dots'.buffer.length) :
    dots.Makes size (some (SlashPath.join '/' ⟨opened', []⟩)) := by
  apply (Dots.Leads.of_turn inside turned (Nat.lt_of_lt_of_le inside all)).makes
  apply Dots.makes_of_ends (Dots.turn_end all)
  apply finish_copied _ room all
  rw [copied, SlashPath.join, List.append_nil]

theorem makes_dot (dot : name = here ∨ name = parent)
    (at' : dots.At size beyond opened [] name) (starts : dots.Starts) :
    dots.Makes size
      (((SlashPath.enter here parent 1 opened name).map (⟨·, []⟩ : _ → SlashPath Char)).map
        (SlashPath.join '/')) := by
  rw [← List.append_nil name] at at'
  have room : dots.copyTo < dots.buffer.length := Nat.lt_of_le_of_lt at'.behind at'.room
  have place := at'.place
  rcases dot with rfl | rfl
  · have turned := at'.turn_here (.inl rfl) starts
    apply makes_skip at'.inside turned _ _ room
    · exact Nat.le_of_succ_le (Nat.le_of_eq (congrArg Nat.succ place.symm))
    · rw [← List.append_nil (SlashPath.joinDirs '/' opened)]
      exact at'.copied
  · have turned := at'.turn_parent (.inl rfl) starts
    cases entered : SlashPath.enter here parent 1 opened parent with
    | none =>
        intro turns enough
        rw [removeDotsFrom_invalid at'.inside (refuses entered (.inl rfl) at' starts) enough]
        rfl
    | some opened' =>
        rw [at'.leave] at turned
        rw [SlashPath.enter, if_neg (by decide), if_pos rfl] at entered
        by_cases more : 1 < opened.length
        · rw [if_pos more] at turned entered
          obtain rfl := Option.some.inj entered
          apply makes_skip at'.inside turned _ at'.take_dropLast.1
          · exact Nat.lt_of_le_of_lt at'.take_dropLast.2 room
          · exact Nat.le_of_succ_le (Nat.le_of_eq (congrArg Nat.succ place.symm))
        · rw [if_neg more] at entered
          cases entered

end Ends

theorem plain_split {text : Text} (path : text.all inPath = true) :
    (∀ dir ∈ (SlashPath.split '/' text).dirs, Plain dir) ∧ Plain (SlashPath.split '/' text).name := by
  have joined : SlashPath.join '/' (SlashPath.split '/' text) = text := SlashPath.join_split text
  have separate : (∀ dir ∈ (SlashPath.split '/' text).dirs, '/' ∉ dir) ∧
      '/' ∉ (SlashPath.split '/' text).name := SlashPath.slash_not_mem_split text
  rw [← joined, SlashPath.join, List.all_append, Bool.and_eq_true] at path
  refine ⟨fun dir member => ⟨separate.1 dir member, ?_⟩, separate.2, path.2⟩
  have all := path.1
  rw [SlashPath.joinDirs, List.all_flatMap, List.all_eq_true] at all
  have here := all dir member
  rw [List.all_append, Bool.and_eq_true] at here
  exact here.1

def closing (opened : List Text) (name tail : Text) : Option Text :=
  if tail = [] then
    (SlashPath.resolveName here parent 1 ⟨opened, name⟩).map (SlashPath.join '/')
  else some (SlashPath.join '/' ⟨opened, name⟩ ++ tail)

theorem withoutDots_eq (text : Text) {path : SlashPath Char} {tail : Text}
    (split : SlashPath.split '/' (text.takeWhile inPath) = path)
    (rest : text.dropWhile inPath = tail) :
    withoutDots text = (path.dirs.foldlM (SlashPath.enter here parent 1) []).bind
      fun opened => closing opened path.name tail := by
  rw [withoutDots, split, rest]
  cases run : path.dirs.foldlM (SlashPath.enter here parent 1) [] with
  | none => by_cases last : tail = [] <;> simp [last, SlashPath.resolve, SlashPath.resolveDirs, run]
  | some opened =>
      by_cases last : tail = []
      · simp [last, SlashPath.resolve, SlashPath.resolveDirs, run, closing]
      · simp [last, SlashPath.resolveDirs, run, closing]

theorem makes_closing {size : Nat} {beyond : Text} {dots : Dots} {opened : List Text}
    {name tail : Text} (plain : Plain name) (ended : tail.head?.all (! inPath ·) = true)
    (at' : dots.At size beyond opened [] (name ++ tail)) (starts : dots.Starts) :
    dots.Makes size (closing opened name tail) := by
  rw [closing]
  by_cases last : tail = []
  · subst last
    rw [if_pos rfl, SlashPath.resolveName]
    by_cases dot : name = here ∨ name = parent
    · rw [if_pos dot]
      rw [List.append_nil] at at'
      exact makes_dot dot at' starts
    · rw [if_neg dot, Option.map_some, ← List.append_nil (SlashPath.join _ _)]
      exact makes_name plain ended (fun both => dot both.2) at' starts
  · rw [if_neg last]
    exact makes_name plain ended (fun both => last both.1) at' starts

theorem dropWhile_ended (text : Text) :
    (text.dropWhile inPath).head?.all (! inPath ·) = true := by
  have head := List.head?_dropWhile_not inPath text
  cases next : (text.dropWhile inPath).head? with
  | none => rfl
  | some c => simpa [next] using head

theorem makes_withoutDots (text beyond : Text) :
    Dots.Makes text.length ⟨text ++ nul :: beyond, 0, 0, []⟩ (withoutDots text) := by
  intro turns enough
  have body := plain_split (List.all_takeWhile (p := inPath) (l := text))
  have joined : SlashPath.join '/' (SlashPath.split '/' (text.takeWhile inPath)) =
      text.takeWhile inPath := SlashPath.join_split _
  have whole : text.takeWhile inPath ++ text.dropWhile inPath = text :=
    List.takeWhile_append_dropWhile
  rw [withoutDots_eq text rfl rfl]
  generalize SlashPath.split '/' (text.takeWhile inPath) = path at body joined
  have at' : Dots.At text.length beyond ⟨text ++ nul :: beyond, 0, 0, []⟩ [] []
      (SlashPath.joinDirs '/' path.dirs ++ (path.name ++ text.dropWhile inPath)) := by
    rw [← List.append_assoc, ← SlashPath.join, joined, whole]
    exact
      { copied := rfl
        ahead := rfl
        place := Nat.zero_add _
        behind := Nat.le_refl _
        marked := rfl }
  have reached := passes_dirs body.1 at' rfl enough
  cases run : path.dirs.foldlM (SlashPath.enter here parent 1) [] with
  | none =>
      rw [run] at reached
      rw [show removeDotsFrom _ _ _ = _ from reached]
      rfl
  | some opened =>
      rw [run] at reached
      obtain ⟨dots', leads, at'', starts⟩ := reached
      exact leads.makes (makes_closing body.2 (dropWhile_ended text) at'' starts) turns enough

theorem leaves_withoutDots (text beyond : Text) (more : text ≠ []) :
    Leaves (removeDots (text ++ nul :: beyond) text.length) (withoutDots text) := by
  rw [removeDots_eq (fun none => more (List.length_eq_zero_iff.mp none))]
  exact makes_withoutDots text beyond text.length (Nat.le_of_eq (Nat.sub_zero _))

end Libdlna.Uri
