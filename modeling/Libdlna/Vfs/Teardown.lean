import Mathlib.Order.Lattice.Nat
import Libdlna.Shared.Forest
import Libdlna.Vfs.Reachable

set_option autoImplicit false

/-!
# Tearing down the file system

`dlna_uninit` frees the root. The root is also the head of the table, so the table has another head
after every `HASH_DEL`, and none after the last one.
-/

namespace Libdlna

open CString Dlna Relation

variable {d s after : Dlna} {r p c q : Ref} {log : List Ref} {fuel : Nat}

/-- `vfs_item_free` with a log of the items that go through `HASH_DEL`. -/
def vfsItemFreeLog : Nat → List Ref × Dlna → Ref → Except Fault (List Ref × Dlna)
  | 0, _, _ => .error .noReturn
  | fuel + 1, (log, d), r =>
      if d.registered = [] then .ok (log, d)
      else do
        let item ← d.readItem r
        let d ← d.hashDel r
        let (log, d) ← match item.body with
          | .resource none _ => .ok (log ++ [r], d)
          | .resource (some dlnaItem) _ => (dlnaItemFree dlnaItem).map fun _ => (log ++ [r], d)
          | .container box => box.children.foldlM (vfsItemFreeLog fuel) (log ++ [r], d)
        .ok (log, releaseItem d r)

def releaseBodyLog (fuel : Nat) (s : List Ref × Dlna) : VfsBody → Except Fault (List Ref × Dlna)
  | .resource none _ => .ok s
  | .resource (some dlnaItem) _ => (dlnaItemFree dlnaItem).map fun _ => s
  | .container box => box.children.foldlM (vfsItemFreeLog fuel) s

theorem vfsItemFreeLog_eq (nonempty : d.registered ≠ []) :
    vfsItemFreeLog (fuel + 1) (log, d) r = d.readItem r >>= fun item => d.hashDel r >>=
      fun deleted => releaseBodyLog fuel (log ++ [r], deleted) item.body >>=
        fun emptied => .ok (emptied.1, releaseItem emptied.2 r) := by
  rw [vfsItemFreeLog, if_neg nonempty]
  congr
  funext item
  congr
  funext deleted
  cases item.body with
  | container box => rfl
  | resource content cnv => cases content <;> rfl

theorem vfsItemFreeLog_map (entry : List Ref × Dlna) :
    (vfsItemFreeLog fuel entry r).map Prod.snd = vfsItemFree fuel entry.2 r := by
  induction fuel generalizing entry r with
  | zero => rfl
  | succ fuel ih =>
      obtain ⟨log, d⟩ := entry
      by_cases empty : d.registered = []
      · simp [vfsItemFreeLog, vfsItemFree, empty, Except.map]
      · rw [vfsItemFreeLog_eq empty, vfsItemFree_eq empty]
        cases d.readItem r with
        | error fault => rfl
        | ok item =>
            cases d.hashDel r with
            | error fault => rfl
            | ok deleted =>
                have bodies : (releaseBodyLog fuel (log ++ [r], deleted) item.body).map Prod.snd =
                    releaseBody fuel deleted item.body := by
                  cases item.body with
                  | container box => exact Outcome.foldlM_map (fun s c => ih s) _ _
                  | resource content cnv =>
                      cases content with
                      | none => rfl
                      | some dlnaItem => cases freed : dlnaItemFree dlnaItem <;> simp [releaseBodyLog,
                          releaseBody, freed, Except.map]
                change (releaseBodyLog fuel (log ++ [r], deleted) item.body >>= _).map Prod.snd =
                  releaseBody fuel deleted item.body >>= _
                rw [← bodies]
                cases releaseBodyLog fuel (log ++ [r], deleted) item.body <;> rfl

structure TreeShaped (d : Dlna) : Prop where
  nodup : d.registered.Nodup
  live : Live d
  closed : ∀ p ∈ d.registered, ∀ box, d.containerOf p = some box → ∀ c ∈ box.children,
    c ∈ d.registered ∧ some c ≠ d.vfsRoot
  listedOnce : ∀ r ∈ d.registered, some r ≠ d.vfsRoot → d.listings r = 1
  listedByParent : ∀ r ∈ d.registered, some r ≠ d.vfsRoot → ∃ p box, d.parentOf r = some p ∧
    p ∈ d.registered ∧ d.containerOf p = some box ∧ r ∈ box.children
  rooted : ∀ r ∈ d.registered, ∃ n, d.ancestor n r = d.vfsRoot

theorem VfsTree.treeShaped (tree : VfsTree d) (live : Live d) : TreeShaped d where
  nodup := tree.nodup
  live := live
  closed := by
    intro p member box isContainer c listed
    obtain ⟨registered, notRoot, -⟩ := (tree.lists p member box isContainer).children c listed
    exact ⟨registered, notRoot⟩
  listedOnce := tree.treeInvariant.listedOnce
  listedByParent := tree.treeInvariant.listedByParent
  rooted := by
    intro r member
    obtain ⟨n, -, reaches⟩ := tree.treeInvariant.rooted r member
    exact ⟨n, reaches⟩

def ListsChild (d : Dlna) (p c : Ref) : Prop :=
  p ∈ d.registered ∧ ∃ box, d.containerOf p = some box ∧ c ∈ box.children

def Subtree (d : Dlna) (r q : Ref) : Prop := ReflTransGen (ListsChild d) r q

def listingsBy (d : Dlna) (r q : Ref) : Nat :=
  ((d.containerOf q).map fun box => box.children.count r).getD 0

theorem sum_erase (times : Ref → Nat) {table : List Ref} (member : q ∈ table) :
    (table.map times).sum = times q + ((table.erase q).map times).sum :=
  ((List.perm_cons_erase member).map times).sum_eq

theorem listingsBy_le (member : q ∈ d.registered) : listingsBy d r q ≤ d.listings r := by
  have split := sum_erase (listingsBy d r) member
  change d.listings r = _ at split
  omega

theorem listingsBy_add_le {q' : Ref} (member : q ∈ d.registered) (member' : q' ∈ d.registered)
    (different : q' ≠ q) : listingsBy d r q + listingsBy d r q' ≤ d.listings r := by
  have split := sum_erase (listingsBy d r) member
  have split' := sum_erase (listingsBy d r) ((List.mem_erase_of_ne different).mpr member')
  change d.listings r = _ at split
  omega

theorem listingsBy_container {box : Container} (isContainer : d.containerOf q = some box) :
    listingsBy d r q = box.children.count r := by
  simp [listingsBy, isContainer]

namespace TreeShaped

variable (tree : TreeShaped d)
include tree

theorem child_registered (child : ListsChild d p c) : c ∈ d.registered ∧ some c ≠ d.vfsRoot := by
  obtain ⟨member, box, isContainer, listed⟩ := child
  exact tree.closed p member box isContainer c listed

theorem children_nodup {box : Container} (member : p ∈ d.registered)
    (isContainer : d.containerOf p = some box) : box.children.Nodup := by
  rw [List.nodup_iff_count_le_one]
  intro c
  by_cases listed : c ∈ box.children
  · obtain ⟨registered, notRoot⟩ := tree.closed p member box isContainer c listed
    rw [← tree.listedOnce c registered notRoot, ← listingsBy_container isContainer]
    exact listingsBy_le member
  · simp [List.count_eq_zero_of_not_mem listed]

theorem lister_unique : Relator.LeftUnique (ListsChild d) := by
  rintro p p' c ⟨member, box, isContainer, listed⟩ ⟨member', box', isContainer', listed'⟩
  by_contra different
  obtain ⟨registered, notRoot⟩ := tree.closed p member box isContainer c listed
  have both : listingsBy d c p + listingsBy d c p' ≤ d.listings c :=
    listingsBy_add_le member member' (Ne.symm different)
  rw [tree.listedOnce c registered notRoot, listingsBy_container isContainer,
    listingsBy_container isContainer'] at both
  have one := List.count_pos_iff.mpr listed
  have two := List.count_pos_iff.mpr listed'
  omega

theorem child_parent (child : ListsChild d p c) : d.parentOf c = some p := by
  obtain ⟨registered, notRoot⟩ := tree.child_registered child
  obtain ⟨p', box, isParent, member, isContainer, listed⟩ :=
    tree.listedByParent c registered notRoot
  rw [isParent, tree.lister_unique child ⟨member, box, isContainer, listed⟩]

theorem depth_exists : ∃ depth : Ref → Nat, ∀ p c, ListsChild d p c → depth c = depth p + 1 := by
  refine ⟨fun r => sInf {n | d.ancestor n r = d.vfsRoot}, fun p c child => ?_⟩
  dsimp only
  obtain ⟨registered, notRoot⟩ := tree.child_registered child
  have climbs (n : Nat) : d.ancestor (n + 1) c = d.ancestor n p := by
    simp [ancestor, tree.child_parent child]
  have nearest : sInf {n | d.ancestor n p = d.vfsRoot} ∈ {n | d.ancestor n p = d.vfsRoot} :=
    Nat.sInf_mem (tree.rooted p child.1)
  have nearest' : sInf {n | d.ancestor n c = d.vfsRoot} ∈ {n | d.ancestor n c = d.vfsRoot} :=
    Nat.sInf_mem (tree.rooted c registered)
  apply le_antisymm
  · exact Nat.sInf_le ((climbs _).trans nearest)
  · cases distance : sInf {n | d.ancestor n c = d.vfsRoot} with
    | zero =>
        rw [distance] at nearest'
        exact absurd nearest' notRoot
    | succ n =>
        rw [distance] at nearest'
        have near : n ∈ {n | d.ancestor n p = d.vfsRoot} := (climbs n).symm.trans nearest'
        exact Nat.succ_le_succ (Nat.sInf_le near)

theorem subtree_registered (member : r ∈ d.registered) (below : Subtree d r q) :
    q ∈ d.registered := by
  induction below with
  | refl => exact member
  | tail _ last _ => exact (tree.child_registered last).1

theorem root_subtree {root : Ref} (isRoot : d.vfsRoot = some root) (member : q ∈ d.registered) :
    Subtree d root q := by
  obtain ⟨n, reaches⟩ := tree.rooted q member
  induction n generalizing q with
  | zero =>
      rw [isRoot] at reaches
      obtain rfl := Option.some.inj reaches
      exact .refl
  | succ n ih =>
      by_cases here : some q = d.vfsRoot
      · rw [isRoot] at here
        obtain rfl := Option.some.inj here
        exact .refl
      · obtain ⟨p, box, isParent, registered, isContainer, listed⟩ :=
          tree.listedByParent q member here
        rw [ancestor, isParent, Option.bind_some] at reaches
        exact (ih registered reaches).tail ⟨registered, box, isContainer, listed⟩

end TreeShaped

/-- The item can be released: `dlna_item_free` gets through. -/
def Releasable (d : Dlna) (r : Ref) : Prop :=
  ∀ dlnaItem cnv, d.bodyOf r = some (.resource (some dlnaItem) cnv) → dlnaItemFree dlnaItem = .ok ()

structure Stage (d s : Dlna) : Prop where
  nodup : s.registered.Nodup
  subset : ∀ q ∈ s.registered, q ∈ d.registered
  intact : ∀ q ∈ s.registered, s.heap[q]? = d.heap[q]?

theorem Stage.freed (stage : Stage d s) (freed : Freed s after) : Stage d after where
  nodup := stage.nodup.sublist freed.sublist
  subset := fun q member => stage.subset q (freed.sublist.subset member)
  intact := fun q member => (freed.intact stage.nodup q member).trans
    (stage.intact q (freed.sublist.subset member))

theorem Stage.erase (stage : Stage d s) :
    Stage d { s with registered := s.registered.erase r } where
  nodup := stage.nodup.erase r
  subset := fun q member => stage.subset q (List.mem_of_mem_erase member)
  intact := fun q member => stage.intact q (List.mem_of_mem_erase member)

theorem vfsItemFreeLog_freed {result : List Ref × Dlna}
    (ran : vfsItemFreeLog fuel (log, s) r = .ok result) : Freed s result.2 := by
  have free : vfsItemFree fuel s r = .ok result.2 := by
    rw [← vfsItemFreeLog_map (log, s), ran]
    rfl
  exact (vfsItemFree_freed free).1

structure Clears (s : Dlna) (log : List Ref) (gone : Ref → Prop) (result : List Ref × Dlna) :
    Prop where
  registered : ∀ q, q ∈ result.2.registered ↔ q ∈ s.registered ∧ ¬ gone q
  order : ∃ order, result.1 = log ++ order ∧ order.Nodup ∧ ∀ q, q ∈ order ↔ gone q

theorem Clears.append {gone gone' : Ref → Prop} {between result : List Ref × Dlna}
    (first : Clears s log gone between) (second : Clears between.2 between.1 gone' result)
    (disjoint : ∀ q, gone q → ¬ gone' q) : Clears s log (fun q => gone q ∨ gone' q) result where
  registered := by
    intro q
    rw [second.registered, first.registered]
    tauto
  order := by
    obtain ⟨order, logged, nodup, isGone⟩ := first.order
    obtain ⟨order', logged', nodup', isGone'⟩ := second.order
    refine ⟨order ++ order', ?_, ?_, ?_⟩
    · rw [logged', logged, List.append_assoc]
    · rw [List.nodup_append]
      refine ⟨nodup, nodup', fun q old q' new same => ?_⟩
      exact disjoint q ((isGone q).mp old) ((isGone' q).mp (same ▸ new))
    · intro q
      rw [List.mem_append, isGone, isGone']

theorem Clears.congr {gone gone' : Ref → Prop} {result : List Ref × Dlna}
    (clears : Clears s log gone result) (same : ∀ q, gone q ↔ gone' q) :
    Clears s log gone' result := by
  obtain rfl : gone = gone' := funext fun q => propext (same q)
  exact clears

theorem foldlM_clears {gone : Ref → Ref → Prop} {children : List Ref}
    (each : ∀ c ∈ children, ∀ s log, Stage d s → (∀ q, gone c q → q ∈ s.registered) →
      s.registered.length < fuel → ∃ result, vfsItemFreeLog fuel (log, s) c = .ok result ∧
        Clears s log (gone c) result)
    (nodup : children.Nodup)
    (disjoint : ∀ c ∈ children, ∀ c' ∈ children, c ≠ c' → ∀ q, gone c q → ¬ gone c' q)
    (stage : Stage d s) (present : ∀ c ∈ children, ∀ q, gone c q → q ∈ s.registered)
    (enough : s.registered.length < fuel) :
    ∃ result, children.foldlM (vfsItemFreeLog fuel) (log, s) = .ok result ∧
      Clears s log (fun q => ∃ c ∈ children, gone c q) result := by
  induction children generalizing s log with
  | nil => exact ⟨(log, s), rfl, by simp, [], by simp⟩
  | cons c rest ih =>
      obtain ⟨notLater, nodupRest⟩ := List.nodup_cons.mp nodup
      obtain ⟨⟨between, t⟩, free, clears⟩ := each c List.mem_cons_self s log stage
        (present c List.mem_cons_self) enough
      have smaller : Freed s t := vfsItemFreeLog_freed free
      have apart : ∀ q, gone c q → ¬ ∃ c' ∈ rest, gone c' q := by
        rintro q here ⟨c', later, there⟩
        exact disjoint c List.mem_cons_self c' (List.mem_cons_of_mem _ later)
          (fun same => notLater (same ▸ later)) q here there
      have still : ∀ c' ∈ rest, ∀ q, gone c' q → q ∈ t.registered := by
        intro c' later q there
        refine (clears.registered q).mpr ⟨present c' (List.mem_cons_of_mem _ later) q there, ?_⟩
        exact fun here => apart q here ⟨c', later, there⟩
      have goesOn : ∃ result, rest.foldlM (vfsItemFreeLog fuel) (between, t) = .ok result ∧
          Clears t between (fun q => ∃ c ∈ rest, gone c q) result :=
        ih (fun c' later => each c' (List.mem_cons_of_mem _ later)) nodupRest
          (fun c' later c'' later' => disjoint c' (List.mem_cons_of_mem _ later) c''
            (List.mem_cons_of_mem _ later'))
          (stage.freed smaller) still (smaller.sublist.length_le.trans_lt enough)
      obtain ⟨result, others, clearsRest⟩ := goesOn
      refine ⟨result, ?_, ?_⟩
      · rw [List.foldlM_cons, free]
        exact others
      · refine (clears.append clearsRest apart).congr fun q => ?_
        simp

theorem listsChild_iff {item : VfsItem} (member : r ∈ d.registered)
    (found : d.heap[r]? = some item) : ListsChild d r c ↔ c ∈ item.body.children := by
  cases body : item.body with
  | resource content cnv =>
      simp [ListsChild, Dlna.containerOf, found, body, VfsBody.box?, VfsBody.children]
  | container box =>
      simp [ListsChild, Dlna.containerOf, found, body, VfsBody.box?, VfsBody.children, member]

theorem subtree_iff {item : VfsItem} (member : r ∈ d.registered)
    (found : d.heap[r]? = some item) :
    Subtree d r q ↔ q = r ∨ ∃ c ∈ item.body.children, Subtree d c q := by
  refine ReflTransGen.cases_head_iff.trans (or_congr eq_comm ?_)
  exact exists_congr fun c => and_congr_left fun _ => listsChild_iff member found

theorem Clears.after_erase {gone : Ref → Prop} {result : List Ref × Dlna}
    (nodup : s.registered.Nodup) (spared : ¬ gone r)
    (clears : Clears { s with registered := s.registered.erase r } (log ++ [r]) gone result) :
    Clears s log (fun q => q = r ∨ gone q) (result.1, releaseItem result.2 r) where
  registered := by
    intro q
    change q ∈ result.2.registered ↔ _
    rw [clears.registered]
    change q ∈ s.registered.erase r ∧ _ ↔ _
    rw [nodup.mem_erase_iff, not_or]
    constructor
    · rintro ⟨⟨other, inside⟩, stays⟩
      exact ⟨inside, other, stays⟩
    · rintro ⟨inside, other, stays⟩
      exact ⟨⟨other, inside⟩, stays⟩
  order := by
    obtain ⟨order, logged, nodupOrder, isGone⟩ := clears.order
    refine ⟨r :: order, ?_, ?_, ?_⟩
    · rw [logged, List.append_assoc]
      rfl
    · exact List.nodup_cons.mpr ⟨fun inside => spared ((isGone r).mp inside), nodupOrder⟩
    · intro q
      rw [List.mem_cons, isGone]

theorem TreeShaped.not_below (tree : TreeShaped d) {item : VfsItem} (member : r ∈ d.registered)
    (found : d.heap[r]? = some item) (listed : c ∈ item.body.children) : ¬ Subtree d c r := by
  obtain ⟨depth, deeper⟩ := tree.depth_exists
  exact Descent.not_below_child deeper ((listsChild_iff member found).mpr listed)

theorem TreeShaped.subtrees_disjoint (tree : TreeShaped d) {item : VfsItem} {c' : Ref}
    (member : r ∈ d.registered) (found : d.heap[r]? = some item) (listed : c ∈ item.body.children)
    (listed' : c' ∈ item.body.children) (below : Subtree d c q) (below' : Subtree d c' q) :
    c = c' := by
  obtain ⟨depth, deeper⟩ := tree.depth_exists
  exact Descent.siblings_disjoint tree.lister_unique deeper
    ((listsChild_iff member found).mpr listed) ((listsChild_iff member found).mpr listed') below
    below'

theorem releaseBodyLog_clears (tree : TreeShaped d) {item : VfsItem} (member : r ∈ d.registered)
    (found : d.heap[r]? = some item) (releasable : Releasable d r)
    (each : ∀ c ∈ item.body.children, ∀ s log, Stage d s →
      (∀ q, Subtree d c q → q ∈ s.registered) → s.registered.length < fuel →
        ∃ result, vfsItemFreeLog fuel (log, s) c = .ok result ∧ Clears s log (Subtree d c) result)
    (stage : Stage d s)
    (present : ∀ c ∈ item.body.children, ∀ q, Subtree d c q → q ∈ s.registered)
    (enough : s.registered.length < fuel) :
    ∃ result, releaseBodyLog fuel (log, s) item.body = .ok result ∧
      Clears s log (fun q => ∃ c ∈ item.body.children, Subtree d c q) result := by
  have disjoint : ∀ c ∈ item.body.children, ∀ c' ∈ item.body.children, c ≠ c' →
      ∀ q, Subtree d c q → ¬ Subtree d c' q :=
    fun c listed c' listed' different q below below' =>
      different (tree.subtrees_disjoint member found listed listed' below below')
  cases body : item.body with
  | resource content cnv =>
      refine ⟨(log, s), ?_, by simp [VfsBody.children], [], by simp [VfsBody.children]⟩
      cases content with
      | none => rfl
      | some dlnaItem =>
          have free := releasable dlnaItem cnv (by simp [bodyOf, found, body])
          simp [releaseBodyLog, free, Except.map]
  | container box =>
      have isContainer : d.containerOf r = some box := by
        simp [Dlna.containerOf, found, body, VfsBody.box?]
      rw [body] at each disjoint present
      exact foldlM_clears each (tree.children_nodup member isContainer) disjoint stage present enough

theorem vfsItemFreeLog_subtree (tree : TreeShaped d)
    (releasable : ∀ q ∈ d.registered, Releasable d q) (stage : Stage d s)
    (present : ∀ q, Subtree d r q → q ∈ s.registered) (enough : s.registered.length < fuel) :
    ∃ result, vfsItemFreeLog fuel (log, s) r = .ok result ∧
      Clears s log (Subtree d r) result := by
  induction fuel generalizing s r log with
  | zero => exact absurd enough (Nat.not_lt_zero _)
  | succ fuel ih =>
      have here : r ∈ s.registered := present r .refl
      have member : r ∈ d.registered := stage.subset r here
      obtain ⟨item, found, live⟩ := tree.live r member
      have read : Dlna.readItem s r = .ok item := by
        simp [Dlna.readItem, stage.intact r here, found, live]
      let deleted : Dlna := { s with registered := s.registered.erase r }
      have delete : s.hashDel r = .ok deleted := by rw [hashDel, if_pos here]
      have fewer : deleted.registered.length < fuel := by
        have shorter := List.length_erase_of_mem here
        have positive := List.length_pos_of_mem here
        change (s.registered.erase r).length < fuel
        omega
      -- the item is erased before its children are freed, and is not below any of them
      have left : ∀ c ∈ item.body.children, ∀ q, Subtree d c q → q ∈ deleted.registered := by
        intro c listed q below
        have inTree := present q (.head ((listsChild_iff member found).mpr listed) below)
        refine (List.mem_erase_of_ne ?_).mpr inTree
        rintro rfl
        exact tree.not_below member found listed below
      have released : ∃ result, releaseBodyLog fuel (log ++ [r], deleted) item.body = .ok result ∧
          Clears deleted (log ++ [r]) (fun q => ∃ c ∈ item.body.children, Subtree d c q) result :=
        releaseBodyLog_clears tree member found (releasable r member)
          (fun c _ s log stage present => ih stage present) stage.erase left fewer
      obtain ⟨result, released, clears⟩ := released
      have spared : ¬ ∃ c ∈ item.body.children, Subtree d c r := by
        rintro ⟨c, listed, below⟩
        exact tree.not_below member found listed below
      refine ⟨(result.1, releaseItem result.2 r), ?_, ?_⟩
      · rw [vfsItemFreeLog_eq (List.ne_nil_of_mem here), read]
        change (s.hashDel r >>= _) = _
        rw [delete]
        change (releaseBodyLog fuel (log ++ [r], deleted) item.body >>= _) = _
        rw [released]
        rfl
      · refine (clears.after_erase stage.nodup spared).congr fun q => ?_
        rw [subtree_iff member found]

def Releases (s t : Dlna) : Prop :=
  t.bodyOf = s.bodyOf ∧ ∀ q ∈ s.registered, q ∉ t.registered → Releasable s q

theorem Releases.trans (s t u : Dlna) (first : Releases s t) (second : Releases t u) :
    Releases s u := by
  refine ⟨second.1.trans first.1, fun q member gone => ?_⟩
  by_cases between : q ∈ t.registered
  · have releasable := second.2 q between gone
    rwa [Releasable, first.1] at releasable
  · exact first.2 q member between

theorem vfsItemFree_releases (freed : vfsItemFree fuel d r = .ok after) : Releases d after := by
  induction fuel generalizing d r after with
  | zero => simp [vfsItemFree] at freed
  | succ fuel ih =>
      refine ⟨vfsItemFree_bodyOf freed, fun q member gone => ?_⟩
      have nonempty : d.registered ≠ [] := List.ne_nil_of_mem member
      rw [vfsItemFree_eq nonempty] at freed
      obtain ⟨item, read, freed⟩ := Outcome.bind_ok.mp freed
      obtain ⟨deleted, delete, freed⟩ := Outcome.bind_ok.mp freed
      obtain ⟨emptied, released, finished⟩ := Outcome.bind_ok.mp freed
      obtain rfl := Except.ok.inj finished
      obtain ⟨-, rfl⟩ := hashDel_ok delete
      by_cases isFreed : q = r
      · intro dlnaItem cnv body
        have isBody : item.body = .resource (some dlnaItem) cnv := by
          simpa [bodyOf, isFreed, (readItem_ok read).1] using body
        rw [isBody] at released
        obtain ⟨done, isDone, -⟩ := Outcome.map_ok.mp released
        exact isDone
      · have emptying := Outcome.foldlM_invariant Releases
          (fun s => ⟨rfl, fun _ inside missing => absurd inside missing⟩) Releases.trans
          (fun s t c _ step => ih step) (releaseBody_ok released)
        exact emptying.2 q ((List.mem_erase_of_ne isFreed).mpr member) gone

def dlnaUninitLog (d : Dlna) : Except Fault (List Ref × Dlna) :=
  match d.vfsRoot with
  | none => .ok ([], d)
  | some root => vfsItemFreeLog (d.registered.length + 1) ([], d) root

theorem dlnaUninitLog_map : (dlnaUninitLog d).map Prod.snd = dlnaUninit d := by
  unfold dlnaUninitLog dlnaUninit
  cases d.vfsRoot with
  | none => rfl
  | some root => exact vfsItemFreeLog_map ([], d)

/-- Every registered item goes through `HASH_DEL` once, and no root is left. -/
structure TornDown (d : Dlna) (order : List Ref) (after : Dlna) : Prop where
  returns : dlnaUninit d = .ok after
  logged : dlnaUninitLog d = .ok (order, after)
  once : order.Nodup
  every : ∀ q, q ∈ order ↔ q ∈ d.registered
  noRoot : after.vfsRoot = none

theorem uninit_releases (returns : dlnaUninit d = .ok after) (noRoot : after.vfsRoot = none)
    (member : r ∈ d.registered) : Releasable d r := by
  have empty : after.registered = [] := List.head?_eq_none_iff.mp noRoot
  cases isRoot : d.vfsRoot with
  | none =>
      rw [List.head?_eq_none_iff.mp isRoot] at member
      cases member
  | some root =>
      simp only [dlnaUninit, isRoot] at returns
      exact (vfsItemFree_releases returns).2 r member (by simp [empty])

theorem uninit_tears_down (tree : TreeShaped d)
    (releasable : ∀ q ∈ d.registered, Releasable d q) : ∃ order after, TornDown d order after := by
  cases isRoot : d.vfsRoot with
  | none =>
      have empty : d.registered = [] := List.head?_eq_none_iff.mp isRoot
      exact ⟨[], d, by simp [dlnaUninit, isRoot], by simp [dlnaUninitLog, isRoot],
        List.nodup_nil, by simp [empty], isRoot⟩
  | some root =>
      have member := List.mem_of_mem_head? isRoot
      have below (q : Ref) : Subtree d root q ↔ q ∈ d.registered :=
        ⟨tree.subtree_registered member, tree.root_subtree isRoot⟩
      have stage : Stage d d := ⟨tree.nodup, fun _ inside => inside, fun _ _ => rfl⟩
      have runs : ∃ result, vfsItemFreeLog (d.registered.length + 1) ([], d) root = .ok result ∧
          Clears d [] (Subtree d root) result :=
        vfsItemFreeLog_subtree tree releasable stage (fun q => (below q).mp) (Nat.lt_succ_self _)
      obtain ⟨⟨logged, after⟩, ran, clears⟩ := runs
      obtain ⟨order, isOrder, nodup, isGone⟩ := clears.order
      obtain rfl : logged = order := isOrder
      have logs : dlnaUninitLog d = .ok (logged, after) := by
        simpa only [dlnaUninitLog, isRoot] using ran
      refine ⟨logged, after, ?_, logs, nodup, fun q => (isGone q).trans (below q), ?_⟩
      · rw [← dlnaUninitLog_map, logs]
        rfl
      · rw [vfsRoot, List.head?_eq_none_iff, List.eq_nil_iff_forall_not_mem]
        intro q inside
        obtain ⟨old, spared⟩ := (clears.registered q).mp inside
        exact spared ((below q).mpr old)

theorem tornDown_iff (tree : TreeShaped d) :
    (∃ order after, TornDown d order after) ↔ ∀ r ∈ d.registered, Releasable d r :=
  ⟨fun ⟨_, _, torn⟩ _ member => uninit_releases torn.returns torn.noRoot member,
    uninit_tears_down tree⟩

def extensionProbe : Probe where
  size := some 1000
  profile := some { mp3Profile with id := none, callbacks := false }
  cookie := false
  properties := none
  metadata := none

def oneFile (probe : Probe) : Dlna :=
  { justStarted with
    heap :=
      [{ rootItem with body := .container ⟨[1], 1, 1⟩ },
        { resourceItem 3090875270 "a".toList (dlnaItemNew "/a.mp3".toList probe) with
          parent := some 0 }]
    registered := [0, 1]
    vfsItems := 1 }

theorem oneFile_added {probe : Probe} {item : DlnaItem}
    (accepted : dlnaItemNew "/a.mp3".toList probe = some item) :
    CallStep justStarted (.addResource "a".toList "/a.mp3".toList 0 probe) (oneFile probe) := by
  have answered : vfsResourceItem justStarted 3090875270 "/a.mp3".toList probe =
      .ok (some item, justStarted) := by
    rw [← accepted]
    rfl
  refine ⟨3090875270, Outcome.bind_ok.mpr ⟨_, vfsProvideNextId_mp3,
    Outcome.bind_ok.mpr ⟨_, answered, ?_⟩⟩⟩
  rw [oneFile, accepted]
  rfl

theorem oneFile_treeShaped {probe : Probe} {item : DlnaItem}
    (accepted : dlnaItemNew "/a.mp3".toList probe = some item) : TreeShaped (oneFile probe) := by
  have added := oneFile_added accepted
  have tree := (dlnaStart_vfsTree (fun _ => none) none).step ⟨rfl, added⟩ fun adopts => by
    simpa using adopts.1.symm.trans vfsProvideNextId_mp3
  exact tree.treeShaped ((dlnaStart_vfsTable (fun _ => none) none).step added).live

theorem oneFile_releasable_iff {probe : Probe} {item : DlnaItem}
    (accepted : dlnaItemNew "/a.mp3".toList probe = some item) :
    (∀ r ∈ (oneFile probe).registered, Releasable (oneFile probe) r) ↔
      dlnaItemFree item = .ok () := by
  rw [oneFile, accepted]
  simp [Releasable, bodyOf, rootItem, resourceItem]

theorem mp3_tornDown : ∃ order after, TornDown (oneFile mp3Probe) order after :=
  (tornDown_iff (oneFile_treeShaped rfl)).mpr ((oneFile_releasable_iff rfl).mpr rfl)

/-- The profiles of the extension profiler have no `free`. -/
theorem extension_not_tornDown :
    TreeShaped (oneFile extensionProbe) ∧
      ¬ ∃ order after, TornDown (oneFile extensionProbe) order after := by
  refine ⟨oneFile_treeShaped rfl, ?_⟩
  rintro ⟨order, after, torn⟩
  have releasable : ∀ r ∈ (oneFile extensionProbe).registered,
      Releasable (oneFile extensionProbe) r :=
    fun r member => uninit_releases torn.returns torn.noRoot member
  cases (oneFile_releasable_iff rfl).mp releasable

end Libdlna
