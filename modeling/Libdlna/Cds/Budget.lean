import Libdlna.Cds.Browse
import Libdlna.Shared.Forest

set_option autoImplicit false

/-!
# The budget of a search

The recursion hands down what is left of the requested count, and counts from zero again in every
container. Neither the criteria nor what is done with a match matters to that, so both are
parameters here.
-/

namespace Libdlna

open CString

variable {d : Dlna}

def ShowsResource (d : Dlna) (r : Ref) : Prop :=
  ∃ item content cnv, d.readItem r = .ok item ∧ item.body = .resource content cnv

def ListsChildren (d : Dlna) (r : Ref) (children : List Ref) : Prop :=
  ∃ item box, d.readItem r = .ok item ∧ item.body = .container box ∧ box.children = children

def Represents (d : Dlna) (below : Forest Ref) : Prop :=
  below.All (ShowsResource d) (ListsChildren d)

section Search

variable {S : Type} (d : Dlna) (accepts : Ref → Except Fault Bool) (emit : S → Ref → Except Fault S)

def searchChild (recursive : Ref → Int → S → Except Fault (Int × S)) (count : Int)
    (found : Int × S) (child : Ref) : Except Fault (Int × S) :=
  let (resultCount, out) := found
  if count = 0 ∨ resultCount < count then do
    let item ← d.readItem child
    match item.body with
    | .container _ => do
        let (below, out) ← recursive child (if count = 0 then 0 else count - resultCount) out
        .ok (resultCount + below, out)
    | .resource _ _ => do
        let accepted ← accepts child
        if accepted then do
          let out ← emit out child
          .ok (resultCount + 1, out)
        else .ok (resultCount, out)
  else .ok (resultCount, out)

/-- `cds_search_recursive` with `accepts` in place of `cds_search_match`, and `emit` in place of
`didl_add_item`. -/
def searchRecursive : Nat → Ref → Int → S → Except Fault (Int × S)
  | 0, _, _, _ => .error .noReturn
  | fuel + 1, r, count, out => do
      let item ← d.readItem r
      match item.body with
      | .resource _ _ => .ok (0, out)
      | .container box =>
          box.children.foldlM (searchChild d accepts emit (searchRecursive fuel) count) (0, out)

end Search

section Instance

variable (d : Dlna) (stack : VfsItem → Text → Text) (filter criteria : Text)

def acceptsMatch (r : Ref) : Except Fault Bool := do
  let item ← d.readItem r
  cdsSearchMatch d (stack item) item (searchMatchFuel criteria) criteria

def emitItem (out : Buffer) (r : Ref) : Except Fault Buffer := do
  let item ← d.readItem r
  didlAddItem d out item (some "true".toList) filter

theorem cdsSearchChild_eq (recursive : Ref → Int → Buffer → Except Fault (Int × Buffer)) :
    cdsSearchChild d stack filter criteria recursive =
      searchChild d (acceptsMatch d stack criteria) (emitItem d filter) recursive := by
  funext count found child
  simp only [cdsSearchChild, searchChild, acceptsMatch, emitItem]
  cases d.readItem child with
  | error fault => simp only [Bind.bind, Except.bind]
  | ok item =>
      cases body : item.body with
      | container box => simp only [Bind.bind, Except.bind, body]
      | resource content cnv => simp only [Bind.bind, Except.bind, body]

theorem cdsSearchRecursive_eq (fuel : Nat) :
    cdsSearchRecursive d stack filter criteria fuel =
      searchRecursive d (acceptsMatch d stack criteria) (emitItem d filter) fuel := by
  induction fuel with
  | zero => rfl
  | succ fuel ih =>
      funext r count out
      rewrite [cdsSearchRecursive, searchRecursive, ih, cdsSearchChild_eq]
      refine bind_congr fun item => ?_
      cases item.body <;> rfl

end Instance

section Leaves

variable {S : Type} {accepts : Ref → Except Fault Bool} {emit : S → Ref → Except Fault S}
  {count : Int} {found : Int × S} {r : Ref}

def searchLeaf (accepts : Ref → Except Fault Bool) (emit : S → Ref → Except Fault S) (count : Int)
    (found : Int × S) (r : Ref) : Except Fault (Int × S) :=
  if count = 0 ∨ found.1 < count then do
    let accepted ← accepts r
    if accepted then do
      let out ← emit found.2 r
      .ok (found.1 + 1, out)
    else .ok found
  else .ok found

theorem searchChild_resource {recursive : Ref → Int → S → Except Fault (Int × S)}
    (resource : ShowsResource d r) :
    searchChild d accepts emit recursive count found r =
      searchLeaf accepts emit count found r := by
  obtain ⟨item, content, cnv, read, isResource⟩ := resource
  simp only [searchChild, searchLeaf, read, Bind.bind, Except.bind, isResource]

theorem searchChild_container {recursive : Ref → Int → S → Except Fault (Int × S)}
    {children : List Ref} (container : ListsChildren d r children)
    (wanted : count = 0 ∨ found.1 < count) :
    searchChild d accepts emit recursive count found r =
      (recursive r (if count = 0 then 0 else count - found.1) found.2).map
        fun below => (found.1 + below.1, below.2) := by
  obtain ⟨item, box, read, isContainer, -⟩ := container
  rw [searchChild, if_pos wanted, read]
  simp only [Bind.bind, Except.bind, isContainer]
  rfl

theorem searchChild_spent {recursive : Ref → Int → S → Except Fault (Int × S)}
    (spent : ¬ (count = 0 ∨ found.1 < count)) :
    searchChild d accepts emit recursive count found r = .ok found := by
  rw [searchChild, if_neg spent]

theorem searchRecursive_container {fuel : Nat} {children : List Ref}
    (container : ListsChildren d r children) (out : S) :
    searchRecursive d accepts emit (fuel + 1) r count out =
      children.foldlM (searchChild d accepts emit (searchRecursive d accepts emit fuel) count)
        (0, out) := by
  obtain ⟨item, box, read, isContainer, rfl⟩ := container
  rw [searchRecursive, read]
  simp only [Bind.bind, Except.bind, isContainer]

theorem searchChild_mono {recursive recursive' : Ref → Int → S → Except Fault (Int × S)}
    (each : ∀ r budget out after, recursive r budget out = .ok after →
      recursive' r budget out = .ok after)
    {after : Int × S} (ran : searchChild d accepts emit recursive count found r = .ok after) :
    searchChild d accepts emit recursive' count found r = .ok after := by
  by_cases wanted : count = 0 ∨ found.1 < count
  · rw [searchChild, if_pos wanted] at ran ⊢
    obtain ⟨item, read, ran⟩ := Outcome.bind_ok.mp ran
    refine Outcome.bind_ok.mpr ⟨item, read, ?_⟩
    cases body : item.body with
    | resource content cnv => simpa only [body] using ran
    | container box =>
        simp only [body] at ran ⊢
        obtain ⟨below, searched, ran⟩ := Outcome.bind_ok.mp ran
        exact Outcome.bind_ok.mpr ⟨below, each _ _ _ _ searched, ran⟩
  · rwa [searchChild_spent wanted] at ran ⊢

theorem searchRecursive_mono {fuel fuel' : Nat} (more : fuel ≤ fuel') {out : S}
    {after : Int × S} (ran : searchRecursive d accepts emit fuel r count out = .ok after) :
    searchRecursive d accepts emit fuel' r count out = .ok after := by
  induction fuel generalizing fuel' r count out after with
  | zero => cases ran
  | succ fuel ih =>
      obtain ⟨larger, rfl⟩ := Nat.exists_eq_add_one.mpr (Nat.zero_lt_of_lt more)
      rw [searchRecursive] at ran ⊢
      obtain ⟨item, read, ran⟩ := Outcome.bind_ok.mp ran
      refine Outcome.bind_ok.mpr ⟨item, read, ?_⟩
      cases body : item.body with
      | resource content cnv => simpa only [body] using ran
      | container box =>
          simp only [body] at ran ⊢
          exact Outcome.foldlM_mono (fun found child next =>
            searchChild_mono fun r budget out after => ih (Nat.le_of_succ_le_succ more)) ran

theorem foldlM_searchLeaf_spent (spent : ¬ (count = 0 ∨ found.1 < count)) (leaves : List Ref) :
    leaves.foldlM (searchLeaf accepts emit count) found = .ok found := by
  induction leaves with
  | nil => rfl
  | cons r leaves ih =>
      rw [List.foldlM_cons, searchLeaf, if_neg spent]
      exact ih

/-- An exhausted budget is never handed down, so that 0 keeps its meaning. -/
theorem foldlM_searchLeaf_restart (wanted : count = 0 ∨ found.1 < count) (leaves : List Ref) :
    (leaves.foldlM (searchLeaf accepts emit (if count = 0 then 0 else count - found.1))
      (0, found.2)).map (fun below => (found.1 + below.1, below.2)) =
        leaves.foldlM (searchLeaf accepts emit count) found := by
  have step (below : Int × S) (r : Ref) :
      (searchLeaf accepts emit (if count = 0 then 0 else count - found.1) below r).map
          (fun below => (found.1 + below.1, below.2)) =
        searchLeaf accepts emit count (found.1 + below.1, below.2) r := by
    have same : ((if count = 0 then 0 else count - found.1) = 0 ∨
        below.1 < if count = 0 then 0 else count - found.1) ↔
          (count = 0 ∨ found.1 + below.1 < count) := by
      split <;> omega
    simp only [searchLeaf, same]
    by_cases more : count = 0 ∨ found.1 + below.1 < count
    · rw [if_pos more, if_pos more]
      cases accepts r with
      | error fault => rfl
      | ok accepted =>
          cases accepted with
          | false => rfl
          | true =>
              simp only [Bind.bind, Except.bind, if_true]
              cases emit below.2 r with
              | error fault => rfl
              | ok out => simp only [Except.map, Int.add_assoc]
    · rw [if_neg more, if_neg more]
      rfl
  have whole := Outcome.foldlM_map step leaves (0, found.2)
  rwa [Int.add_zero] at whole

theorem searchForest_flat {below : Forest Ref} (represents : Represents d below) {fuel : Nat}
    (enough : below.height ≤ fuel) (count : Int) (found : Int × S) :
    below.roots.foldlM
        (searchChild d accepts emit (searchRecursive d accepts emit fuel) count) found =
      below.leaves.foldlM (searchLeaf accepts emit count) found := by
  induction below generalizing fuel count found with
  | nil => rfl
  | leaf r rest ihRest =>
      obtain ⟨resource, representsRest⟩ := represents
      rw [Forest.roots, Forest.leaves, List.foldlM_cons, List.foldlM_cons,
        searchChild_resource resource]
      exact bind_congr fun between => ihRest representsRest enough count between
  | node r children rest ihChildren ihRest =>
      obtain ⟨container, representsChildren, representsRest⟩ := represents
      rw [Forest.height, max_le_iff] at enough
      rw [Forest.roots, Forest.leaves, List.foldlM_cons, List.foldlM_append]
      have child : searchChild d accepts emit (searchRecursive d accepts emit fuel) count found r =
          children.leaves.foldlM (searchLeaf accepts emit count) found := by
        by_cases wanted : count = 0 ∨ found.1 < count
        · obtain ⟨smaller, rfl⟩ := Nat.exists_eq_add_of_le' enough.1
          rw [searchChild_container container wanted, ← Nat.add_assoc,
            searchRecursive_container container,
            ihChildren representsChildren (Nat.le_add_left ..)]
          exact foldlM_searchLeaf_restart wanted _
        · rw [searchChild_spent wanted, foldlM_searchLeaf_spent wanted]
      rw [child]
      exact bind_congr fun between => ihRest representsRest enough.2 count between

theorem searchRecursive_flat {below : Forest Ref} (container : ListsChildren d r below.roots)
    (represents : Represents d below) {fuel : Nat} (enough : below.height < fuel) (out : S) :
    searchRecursive d accepts emit fuel r count out =
      below.leaves.foldlM (searchLeaf accepts emit count) (0, out) := by
  obtain ⟨fuel, rfl⟩ := Nat.exists_eq_add_one.mpr (Nat.zero_lt_of_lt enough)
  rw [searchRecursive_container container, searchForest_flat represents (Nat.le_of_lt_succ enough)]

end Leaves

/-- What a search with the budget `count` lists of the matches, when `n` are listed already. -/
def withinBudget (count n : Int) (matching : List Ref) : List Ref :=
  if count = 0 then matching else matching.take (count - n).toNat

theorem withinBudget_spent {count n : Int} (spent : ¬ (count = 0 ∨ n < count))
    (matching : List Ref) : withinBudget count n matching = [] := by
  have bounded : count ≠ 0 := fun all => spent (.inl all)
  rw [withinBudget, if_neg bounded, Int.toNat_of_nonpos (by omega), List.take_zero]

theorem withinBudget_cons {count n : Int} (wanted : count = 0 ∨ n < count) (r : Ref)
    (matching : List Ref) :
    withinBudget count n (r :: matching) = r :: withinBudget count (n + 1) matching := by
  unfold withinBudget
  by_cases all : count = 0
  · rw [if_pos all, if_pos all]
  · have left : (count - n).toNat = (count - (n + 1)).toNat + 1 := by omega
    rw [if_neg all, if_neg all, left, List.take_succ_cons]

section Predicate

variable {S : Type} {emit : S → Ref → Except Fault S}

theorem foldlM_searchLeaf_filter (p : Ref → Bool) (count : Int) (leaves : List Ref)
    (found : Int × S) :
    leaves.foldlM (searchLeaf (fun r => .ok (p r)) emit count) found =
      ((withinBudget count found.1 (leaves.filter p)).foldlM emit found.2).map fun out =>
        (found.1 + (withinBudget count found.1 (leaves.filter p)).length, out) := by
  induction leaves generalizing found with
  | nil => simp [withinBudget, Except.map, pure, Except.pure]
  | cons r leaves ih =>
      by_cases wanted : count = 0 ∨ found.1 < count
      · rw [List.foldlM_cons, searchLeaf, if_pos wanted]
        cases accepted : p r with
        | false =>
            rw [List.filter_cons_of_neg (by simp [accepted])]
            exact ih found
        | true =>
            rw [List.filter_cons_of_pos accepted, withinBudget_cons wanted, List.foldlM_cons]
            simp only [Bind.bind, Except.bind, if_true]
            cases emit found.2 r with
            | error fault => rfl
            | ok out =>
                simp only [ih, List.length_cons, Nat.cast_add, Nat.cast_one]
                congr 1
                funext out
                congr 1
                omega
      · rw [foldlM_searchLeaf_spent wanted, withinBudget_spent wanted]
        simp [Except.map, pure, Except.pure]

def requested (count : Int) (matching : List Ref) : List Ref :=
  if count = 0 then matching else matching.take count.toNat

end Predicate

def nestedFiles : Dlna :=
  { dlnaStart (fun _ => none) none with
    heap :=
      [{ rootItem with body := .container ⟨[1], 1, 3⟩ },
        { containerItem 1 "a".toList with body := .container ⟨[2, 3], 2, 2⟩, parent := some 0 },
        { resourceItem 2 "b".toList (dlnaItemNew "/b.mp3".toList mp3Probe) with parent := some 1 },
        { resourceItem 3 "c".toList (dlnaItemNew "/c.mp3".toList mp3Probe) with parent := some 1 }]
    registered := [0, 1, 2, 3]
    vfsItems := 3 }

def nestedForest : Forest Ref := .node 1 (.leaf 2 (.leaf 3 .nil)) .nil

theorem nestedFiles_represents : Represents nestedFiles nestedForest :=
  ⟨⟨_, _, rfl, rfl, rfl⟩, ⟨⟨_, _, _, rfl, rfl⟩, ⟨_, _, _, rfl, rfl⟩, trivial⟩, trivial⟩

end Libdlna
