import Mathlib.Data.List.Find
import Mathlib.Data.List.Nodup

set_option autoImplicit false

/-!
# Keyed tables in insertion order

A table is the list of its entries, oldest first. A lookup answers the most recently added entry
with the given key, which is the only one as long as the keys are distinct.

Among entries with one key this is the order of a hash table that puts new entries at the front of
their bucket. `uthash` does, but it also doubles its buckets when one of them has ten entries
or more, and takes their entries over in the opposite order. With entries of one key the lookup here
is that of a table which has not been expanded.
-/

namespace KeyedTable

variable {α κ : Type} [DecidableEq κ]

def find (key : α → κ) (table : List α) (k : κ) : Option α :=
  table.reverse.find? (fun entry => decide (key entry = k))

@[simp] theorem find_append_same (key : α → κ) (table : List α) (entry : α) :
    find key (table ++ [entry]) (key entry) = some entry := by
  simp [find]

variable {key : α → κ} {table : List α}

theorem find_append_other {entry : α} {k : κ} (other : key entry ≠ k) :
    find key (table ++ [entry]) k = find key table k := by
  simp [find, other]

theorem find_mem {k : κ} {entry : α} (found : find key table k = some entry) : entry ∈ table := by
  have member := List.mem_of_find?_eq_some found
  simpa using member

theorem find_isSome {k : κ} : (find key table k).isSome ↔ ∃ entry ∈ table, key entry = k := by
  simp [find, List.find?_isSome]

theorem find_key {k : κ} {entry : α} (found : find key table k = some entry) : key entry = k := by
  have hit := List.find?_some found
  simpa using hit

theorem find_congr {other : α → κ} (same : ∀ entry ∈ table, key entry = other entry) (k : κ) :
    find key table k = find other table k := by
  apply List.find?_congr
  intro entry member
  rw [same entry (by simpa using member)]

def after [DecidableEq α] (table : List α) (entry : α) : Option α :=
  (table.dropWhile (fun candidate => decide (candidate ≠ entry))).tail.head?

theorem after_mem [DecidableEq α] {entry next : α} (following : after table entry = some next) :
    next ∈ table := by
  have inTail : next ∈ (table.dropWhile (fun candidate => decide (candidate ≠ entry))).tail :=
    List.mem_of_mem_head? following
  exact (List.dropWhile_suffix _).subset (List.mem_of_mem_tail inTail)

section Walks

variable [DecidableEq α] {entry other : α} {rest : List α}

theorem after_head : after (entry :: rest) entry = rest.head? := by
  simp [after]

theorem after_tail (different : entry ≠ other) :
    after (other :: rest) entry = after rest entry := by
  simp [after, Ne.symm different]

theorem after_ne_head (nodup : table.Nodup) (member : entry ∈ table) :
    after table entry ≠ table.head? := by
  cases table with
  | nil => simp at member
  | cons first rest =>
      have fresh : first ∉ rest := (List.nodup_cons.mp nodup).1
      intro same
      by_cases isFirst : entry = first
      · rw [isFirst, after_head] at same
        exact fresh (List.mem_of_mem_head? same)
      · rw [after_tail isFirst] at same
        exact fresh (after_mem same)

theorem after_injective (nodup : table.Nodup) (member : entry ∈ table) (member' : other ∈ table)
    (same : after table entry = after table other) : entry = other := by
  induction table with
  | nil => simp at member
  | cons first rest ih =>
      have nodupRest := (List.nodup_cons.mp nodup).2
      by_cases isFirst : entry = first
      · by_cases isFirst' : other = first
        · rw [isFirst, isFirst']
        · rw [isFirst, after_head, after_tail isFirst'] at same
          have later := (List.mem_cons.mp member').resolve_left isFirst'
          exact absurd same.symm (after_ne_head nodupRest later)
      · have later := (List.mem_cons.mp member).resolve_left isFirst
        by_cases isFirst' : other = first
        · rw [isFirst', after_head, after_tail isFirst] at same
          exact absurd same (after_ne_head nodupRest later)
        · rw [after_tail isFirst, after_tail isFirst'] at same
          exact ih nodupRest later ((List.mem_cons.mp member').resolve_left isFirst') same

inductive Visits (next : α → Option α) : Option α → List α → Prop where
  | done : Visits next none []
  | entry (entry : α) (rest : List α) (goesOn : Visits next (next entry) rest) :
      Visits next (some entry) (entry :: rest)

omit [DecidableEq α] in
theorem Visits.start {next : α → Option α} {first : Option α}
    (visits : Visits next first table) : first = table.head? := by
  cases visits <;> rfl

/-- A walk visits the table in order when it goes on to the entry that follows, at each entry. -/
theorem visits_iff {next : α → Option α} (nodup : table.Nodup) :
    Visits next table.head? table ↔ ∀ entry ∈ table, next entry = after table entry := by
  induction table with
  | nil => exact ⟨fun _ entry member => by simp at member, fun _ => .done⟩
  | cons first rest ih =>
      obtain ⟨fresh, nodupRest⟩ := List.nodup_cons.mp nodup
      have later (entry : α) (member : entry ∈ rest) :
          after (first :: rest) entry = after rest entry :=
        after_tail fun isFirst => fresh (isFirst ▸ member)
      constructor
      · intro visits
        cases visits with
        | entry _ _ goesOn =>
            -- the walk through the rest begins where the first entry leads
            have begins := goesOn.start
            rw [begins] at goesOn
            intro entry member
            rcases List.mem_cons.mp member with rfl | inRest
            · rw [after_head, begins]
            · rw [later entry inRest]
              exact (ih nodupRest).mp goesOn entry inRest
      · intro follows
        refine .entry first rest ?_
        rw [follows first List.mem_cons_self, after_head]
        refine (ih nodupRest).mpr fun entry inRest => ?_
        rw [follows entry (List.mem_cons_of_mem _ inRest), later entry inRest]

end Walks

theorem find_self_iff (nodup : table.Nodup) :
    (∀ entry ∈ table, find key table (key entry) = some entry) ↔ (table.map key).Nodup := by
  constructor
  · intro finds
    refine List.Nodup.map_on (fun entry member other member' same => ?_) nodup
    have found := finds entry member
    rw [same, finds other member'] at found
    exact (Option.some.inj found).symm
  · intro distinct entry member
    have present : (find key table (key entry)).isSome := find_isSome.mpr ⟨entry, member, rfl⟩
    obtain ⟨found, isFound⟩ := Option.isSome_iff_exists.mp present
    rw [isFound, List.inj_on_of_nodup_map distinct (find_mem isFound) member (find_key isFound)]

theorem find_split {k : κ} {entry : α} (found : find key table k = some entry) :
    ∃ before later, table = before ++ entry :: later ∧ ∀ other ∈ later, key other ≠ k := by
  obtain ⟨-, front, back, split, none⟩ := List.find?_eq_some_iff_append.mp found
  refine ⟨back.reverse, front.reverse, ?_, ?_⟩
  · rw [← List.reverse_reverse table, split]
    simp
  · intro other inFront
    simpa using none other (List.mem_reverse.mp inFront)

def remove (key : α → κ) (table : List α) (k : κ) : List α :=
  (table.reverse.eraseP fun entry => decide (key entry = k)).reverse

theorem remove_last {before later : List α} {entry : α}
    (last : ∀ other ∈ later, key other ≠ key entry) :
    remove key (before ++ entry :: later) (key entry) = before ++ later := by
  have passed : ∀ other ∈ later.reverse, ¬ decide (key other = key entry) = true := by
    intro other member
    simpa using last other (List.mem_reverse.mp member)
  rw [remove, List.reverse_append, List.reverse_cons, List.append_assoc,
    List.eraseP_append_right _ passed]
  simp

theorem remove_map {β : Type} (key : α → κ) (f : β → α) (table : List β) (k : κ) :
    remove key (table.map f) k = (remove (fun entry => key (f entry)) table k).map f := by
  rw [remove, remove, ← List.map_reverse, List.eraseP_map, List.map_reverse]
  rfl

theorem find?_self (distinct : (table.map key).Nodup) {entry : α} (member : entry ∈ table) :
    table.find? (fun other => decide (key other = key entry)) = some entry := by
  have present : (table.find? fun other => decide (key other = key entry)).isSome :=
    List.find?_isSome.mpr ⟨entry, member, decide_eq_true rfl⟩
  obtain ⟨found, isFound⟩ := Option.isSome_iff_exists.mp present
  have hit := List.find?_some isFound
  have sameKey : key found = key entry := by simpa using hit
  rw [isFound, List.inj_on_of_nodup_map distinct (List.mem_of_find?_eq_some isFound) member sameKey]

theorem find?_first {R : α → α → Prop} (matching : α → Bool) {entry : α}
    (ordered : table.Pairwise R) (member : entry ∈ table) (hit : matching entry = true) :
    ∃ first ∈ table, table.find? matching = some first ∧ matching first = true ∧
      (first = entry ∨ R first entry) := by
  induction table with
  | nil => simp at member
  | cons head rest ih =>
      obtain ⟨before, orderedRest⟩ := List.pairwise_cons.mp ordered
      cases here : matching head with
      | true =>
          refine ⟨head, by simp, List.find?_cons_of_pos here, here, ?_⟩
          rcases List.mem_cons.mp member with rfl | later
          · exact .inl rfl
          · exact .inr (before entry later)
      | false =>
          rcases List.mem_cons.mp member with rfl | later
          · rw [here] at hit
            cases hit
          · obtain ⟨first, inRest, found, matched, order⟩ := ih orderedRest later
            refine ⟨first, by simp [inRest], ?_, matched, order⟩
            rw [List.find?_cons_of_neg (by simp [here]), found]

def insertNew (key : α → κ) (table : List α) (entry : α) : List α :=
  if table.any fun other => key other = key entry then table else table ++ [entry]

/-- Of the entries with one key the table keeps the first. -/
theorem foldl_insertNew (key : α → κ) (entries table : List α) :
    entries.foldl (insertNew key) table =
      table ++ (entries.filter fun entry => !table.any fun other => key other = key entry).eraseDupsBy
        fun entry other => key entry = key other := by
  induction entries generalizing table with
  | nil => simp
  | cons entry rest ih =>
      rw [List.foldl_cons, ih, insertNew]
      cases present : table.any fun other => key other = key entry with
      | true => simp [present]
      | false =>
          simp only [List.filter_cons, present, Bool.not_false, if_true, List.eraseDupsBy_cons,
            List.filter_filter, List.append_assoc, List.singleton_append, List.any_append,
            List.any_cons, List.any_nil, Bool.or_false, Bool.false_eq_true, if_false]
          congr 3
          apply List.filter_congr
          intro other member
          simp [Bool.and_comm, eq_comm]

end KeyedTable
