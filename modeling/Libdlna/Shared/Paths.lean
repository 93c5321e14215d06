import Mathlib.Data.List.Basic

set_option autoImplicit false

/-!
# Paths

A path is a sequence of directories, each closed by a separator, and a last name, which may be
empty. Two names have a meaning of their own: the directory itself, and the one above it.
-/

structure SlashPath (α : Type) where
  dirs : List (List α)
  name : List α
  deriving DecidableEq

namespace SlashPath

variable {α : Type} [DecidableEq α] (slash : α)

def split : List α → SlashPath α
  | [] => ⟨[], []⟩
  | c :: rest =>
      if c = slash then ⟨[] :: (split rest).dirs, (split rest).name⟩
      else
        match (split rest).dirs with
        | [] => ⟨[], c :: (split rest).name⟩
        | dir :: dirs => ⟨(c :: dir) :: dirs, (split rest).name⟩

def joinDirs (dirs : List (List α)) : List α := dirs.flatMap fun dir => dir ++ [slash]

def join (path : SlashPath α) : List α := joinDirs slash path.dirs ++ path.name

variable {slash}

omit [DecidableEq α] in
@[simp] theorem joinDirs_append (first second : List (List α)) :
    joinDirs slash (first ++ second) = joinDirs slash first ++ joinDirs slash second :=
  List.flatMap_append ..

omit [DecidableEq α] in
@[simp] theorem joinDirs_singleton (dir : List α) : joinDirs slash [dir] = dir ++ [slash] := by
  simp [joinDirs]

omit [DecidableEq α] in
theorem joinDirs_replicate_nil (k : Nat) :
    joinDirs slash (List.replicate k []) = List.replicate k slash := by
  induction k with
  | zero => rfl
  | succ k ih =>
      rw [List.replicate_succ, joinDirs, List.flatMap_cons, ← joinDirs, ih]
      rfl

theorem split_name {name : List α} (plain : slash ∉ name) : split slash name = ⟨[], name⟩ := by
  induction name with
  | nil => rfl
  | cons c rest ih =>
      rw [List.mem_cons, not_or] at plain
      simp only [split, if_neg (Ne.symm plain.1), ih plain.2]

theorem split_dir {dir : List α} (plain : slash ∉ dir) (rest : List α) :
    split slash (dir ++ slash :: rest) =
      ⟨dir :: (split slash rest).dirs, (split slash rest).name⟩ := by
  induction dir with
  | nil => simp only [List.nil_append, split, if_true]
  | cons c dir ih =>
      rw [List.mem_cons, not_or] at plain
      simp only [List.cons_append, split, if_neg (Ne.symm plain.1), ih plain.2]

theorem split_joinDirs {dirs : List (List α)} (plain : ∀ dir ∈ dirs, slash ∉ dir) (rest : List α) :
    split slash (joinDirs slash dirs ++ rest) =
      ⟨dirs ++ (split slash rest).dirs, (split slash rest).name⟩ := by
  induction dirs with
  | nil => rfl
  | cons dir dirs ih =>
      have here : slash ∉ dir := plain dir (List.mem_cons_self ..)
      have others := ih fun other member => plain other (List.mem_cons_of_mem _ member)
      rw [joinDirs, List.flatMap_cons, List.append_assoc, List.append_assoc, List.singleton_append,
        split_dir here, ← joinDirs, others]
      rfl

theorem join_split (text : List α) : (split slash text).join slash = text := by
  induction text with
  | nil => rfl
  | cons c rest ih =>
      rw [split]
      by_cases closes : c = slash
      · rw [if_pos closes, join, joinDirs, List.flatMap_cons, ← joinDirs, closes, List.append_assoc,
          ← join, ih]
        rfl
      · rw [if_neg closes]
        rw [join, joinDirs] at ih
        cases dirs : (split slash rest).dirs with
        | nil =>
            rw [dirs, List.flatMap_nil, List.nil_append] at ih
            simp only [join, joinDirs, List.flatMap_nil, List.nil_append, ih]
        | cons dir others =>
            rw [dirs, List.flatMap_cons] at ih
            simp only [join, joinDirs, List.flatMap_cons, List.cons_append, ih]

theorem dir_subset {text dir : List α} (member : dir ∈ (split slash text).dirs) : dir ⊆ text := by
  intro c inDir
  rw [← join_split text, join, List.mem_append, joinDirs, List.mem_flatMap]
  exact .inl ⟨dir, member, List.mem_append_left _ inDir⟩

theorem name_subset (text : List α) : (split slash text).name ⊆ text := by
  intro c inName
  rw [← join_split text, join]
  exact List.mem_append_right _ inName

theorem slash_not_mem_split (text : List α) :
    (∀ dir ∈ (split slash text).dirs, slash ∉ dir) ∧ slash ∉ (split slash text).name := by
  induction text with
  | nil => simp [split]
  | cons c rest ih =>
      rw [split]
      by_cases closes : c = slash
      · rw [if_pos closes]
        refine ⟨?_, ih.2⟩
        rw [List.forall_mem_cons]
        exact ⟨List.not_mem_nil, ih.1⟩
      · rw [if_neg closes]
        have other : slash ≠ c := Ne.symm closes
        cases dirs : (split slash rest).dirs with
        | nil => simp [other, ih.2]
        | cons dir others =>
            rw [dirs, List.forall_mem_cons] at ih
            refine ⟨?_, ih.2⟩
            rw [List.forall_mem_cons, List.mem_cons, not_or]
            exact ⟨⟨other, ih.1.1⟩, ih.1.2⟩

theorem split_replicate (k : Nat) {name : List α} (plain : slash ∉ name) :
    split slash (List.replicate k slash ++ name) = ⟨List.replicate k [], name⟩ := by
  have empty : ∀ dir ∈ List.replicate k ([] : List α), slash ∉ dir := by
    intro dir member
    rw [List.eq_of_mem_replicate member]
    exact List.not_mem_nil
  rw [← joinDirs_replicate_nil, split_joinDirs empty, split_name plain, List.append_nil]

variable (here parent : List α)

/-- The directories that are open when one more has been entered; the first `kept` ones cannot be
left again. -/
def enter (kept : Nat) (opened : List (List α)) (dir : List α) : Option (List (List α)) :=
  if dir = here then some opened
  else if dir = parent then
    if kept < opened.length then some opened.dropLast else none
  else some (opened ++ [dir])

def resolveDirs (kept : Nat) (path : SlashPath α) : Option (SlashPath α) :=
  (path.dirs.foldlM (enter here parent kept) []).map (⟨·, path.name⟩)

def resolveName (kept : Nat) (path : SlashPath α) : Option (SlashPath α) :=
  if path.name = here ∨ path.name = parent then
    (enter here parent kept path.dirs path.name).map (⟨·, []⟩)
  else some path

def resolve (kept : Nat) (path : SlashPath α) : Option (SlashPath α) :=
  (resolveDirs here parent kept path).bind (resolveName here parent kept)

def descend (depth : Nat) (dir : List α) : Option Nat :=
  if dir = parent then if depth = 0 then none else some (depth - 1)
  else if dir = here ∨ dir = [] then some depth
  else some (depth + 1)

def Inside (path : SlashPath α) : Prop :=
  ((path.dirs ++ [path.name]).foldlM (descend here parent) 0).isSome = true

variable {here parent}

def Proper (here parent : List α) (dir : List α) : Prop := dir ≠ here ∧ dir ≠ parent

theorem enter_forall {P : List α → Prop} {kept : Nat} {opened opened' : List (List α)}
    {dir : List α} (entered : enter here parent kept opened dir = some opened')
    (each : Proper here parent dir → P dir) (holds : ∀ dir ∈ opened, P dir) :
    ∀ dir ∈ opened', P dir := by
  rw [enter] at entered
  split at entered
  · exact Option.some.inj entered ▸ holds
  · next notHere =>
      split at entered
      · split at entered
        · obtain rfl := Option.some.inj entered
          exact fun other member => holds other (List.dropLast_subset _ member)
        · exact nomatch entered
      · next notParent =>
          obtain rfl := Option.some.inj entered
          rw [List.forall_mem_append, List.forall_mem_singleton]
          exact ⟨holds, each ⟨notHere, notParent⟩⟩

theorem foldlM_enter_forall {P : List α → Prop} {kept : Nat}
    {dirs opened opened' : List (List α)}
    (run : dirs.foldlM (enter here parent kept) opened = some opened')
    (each : ∀ dir ∈ dirs, Proper here parent dir → P dir) (holds : ∀ dir ∈ opened, P dir) :
    ∀ dir ∈ opened', P dir := by
  induction dirs generalizing opened with
  | nil => exact Option.some.inj run ▸ holds
  | cons dir dirs ih =>
      rw [List.foldlM_cons, Option.bind_eq_bind, Option.bind_eq_some_iff] at run
      obtain ⟨next, entered, others⟩ := run
      rw [List.forall_mem_cons] at each
      exact ih others each.2 (enter_forall entered each.1 holds)

theorem foldlM_enter_of_proper (kept : Nat) {dirs : List (List α)} (opened : List (List α))
    (proper : ∀ dir ∈ dirs, Proper here parent dir) :
    dirs.foldlM (enter here parent kept) opened = some (opened ++ dirs) := by
  induction dirs generalizing opened with
  | nil => simp
  | cons dir dirs ih =>
      rw [List.forall_mem_cons] at proper
      rw [List.foldlM_cons, enter, if_neg proper.1.1, if_neg proper.1.2]
      simpa using ih (opened ++ [dir]) proper.2

theorem foldlM_descend {dirs : List (List α)} (proper : ∀ dir ∈ dirs, Proper here parent dir)
    (depth : Nat) :
    dirs.foldlM (descend here parent) depth = some (depth + dirs.countP (· ≠ [])) := by
  induction dirs generalizing depth with
  | nil => rfl
  | cons dir dirs ih =>
      rw [List.forall_mem_cons] at proper
      rw [List.foldlM_cons, descend, if_neg proper.1.2, List.countP_cons]
      by_cases empty : dir = []
      · simp [empty, ih proper.2]
      · simp [empty, proper.1.1, ih proper.2]
        omega

theorem inside_iff {path : SlashPath α} (proper : ∀ dir ∈ path.dirs, Proper here parent dir) :
    path.Inside here parent ↔ ¬ (path.name = parent ∧ ∀ dir ∈ path.dirs, dir = []) := by
  have start : path.dirs.countP (· ≠ []) = 0 ↔ ∀ dir ∈ path.dirs, dir = [] := by
    simp [List.countP_eq_zero]
  rw [Inside, List.foldlM_append, foldlM_descend proper, ← start]
  simp only [Option.bind_eq_bind, Option.bind_some, List.foldlM_cons, List.foldlM_nil, descend]
  by_cases up : path.name = parent
  · simp [up]
  · by_cases level : path.name = here ∨ path.name = []
    · simp [up, level]
    · simp [up, level]

end SlashPath
