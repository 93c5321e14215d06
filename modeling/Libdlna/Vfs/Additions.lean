import Libdlna.Vfs.Steps

set_option autoImplicit false

/-!
# What a whole addition does

The new structure is registered before its parent is looked up, so an addition either lists it under
a container that was there before or makes it its own parent.
-/

namespace Libdlna

open CString Dlna

structure Allocated (d : Dlna) : Prop where
  registered : ∀ r ∈ d.registered, r < d.heap.length
  children : ∀ r box, d.containerOf r = some box → ∀ child ∈ box.children, child < d.heap.length

variable {d after : Dlna} {item : VfsItem} {parent : Ref} {id containerId : UInt32}

theorem hashAdd_lookup {q : Ref} (other : q ≠ d.heap.length) :
    (d.hashAdd item).2.heap[q]? = d.heap[q]? := by
  rcases Nat.lt_or_gt_of_ne other with less | greater
  · simp [hashAdd, List.getElem?_append_left less]
  · rw [List.getElem?_eq_none (by simp [hashAdd]; omega), List.getElem?_eq_none (by omega)]

theorem hashAdd_new : (d.hashAdd item).2.heap[d.heap.length]? = some item := by
  simp [hashAdd]

theorem vfsGetItemById_hashAdd (allocated : Allocated d) :
    vfsGetItemById (d.hashAdd item).2 id =
      if id = item.id then some d.heap.length else vfsGetItemById d id := by
  have newId : (d.hashAdd item).2.idOf d.heap.length = some item.id := by
    simp [idOf, hashAdd_new]
  by_cases same : id = item.id
  · have newest := KeyedTable.find_append_same (d.hashAdd item).2.idOf d.registered d.heap.length
    rw [newId] at newest
    rw [if_pos same, same]
    exact newest
  · rw [if_neg same]
    have other : (d.hashAdd item).2.idOf d.heap.length ≠ some id := by
      rw [newId]
      exact fun equal => same (Option.some.inj equal).symm
    refine Eq.trans (KeyedTable.find_append_other other) (KeyedTable.find_congr ?_ _)
    intro r member
    simp [idOf, hashAdd_lookup (allocated.registered r member).ne]

theorem vfsRoot_hashAdd (nonempty : d.registered ≠ []) :
    (d.hashAdd item).2.vfsRoot = d.vfsRoot :=
  vfsRoot_append nonempty rfl

structure Placed (d : Dlna) (item : VfsItem) (parent : Ref) (after : Dlna) : Prop where
  mode : after.mode = d.mode
  registered : after.registered = d.registered ++ [d.heap.length]
  length : after.heap.length = d.heap.length + 1
  added : after.heap[d.heap.length]? = some { item with parent := some parent }
  others : ∀ q, q ≠ d.heap.length → q ≠ parent → after.heap[q]? = d.heap[q]?
  listed : ∃ holder box updateID, IsContainer d parent holder box ∧
    box.children.length + 2 ≤ intMax ∧
    after.heap[parent]? = some { holder with
      body := .container
        { children := box.children ++ [d.heap.length]
          childrenCount := box.childrenCount + 1
          updateID := updateID } }

structure SelfParented (d : Dlna) (item : VfsItem) (after : Dlna) : Prop where
  mode : after.mode = d.mode
  registered : after.registered = d.registered ++ [d.heap.length]
  length : after.heap.length = d.heap.length + 1
  added : after.heap[d.heap.length]? = some { item with parent := some d.heap.length }
  others : ∀ q, q ≠ d.heap.length → after.heap[q]? = d.heap[q]?

/-- The container under which an item with another id than `containerId` is put. -/
def ParentOf (d : Dlna) (containerId : UInt32) (parent : Ref) : Prop :=
  vfsGetItemById d containerId = some parent ∨
    (vfsGetItemById d containerId = none ∧ d.vfsRoot = some parent)

theorem ParentOf.registered (chosen : ParentOf d containerId parent) : parent ∈ d.registered := by
  rcases chosen with found | ⟨-, root⟩
  · exact vfsGetItemById_mem found
  · exact List.mem_of_mem_head? root

structure ParentSet (d : Dlna) (item : VfsItem) (parent : Ref) (set : Dlna) : Prop where
  mode : set.mode = d.mode
  registered : set.registered = d.registered ++ [d.heap.length]
  length : set.heap.length = d.heap.length + 1
  added : set.heap[d.heap.length]? = some { item with parent := some parent }
  others : ∀ q, q ≠ d.heap.length → q ≠ parent → set.heap[q]? = d.heap[q]?
  chosen : ∀ holder box, IsContainer set parent holder box →
    ∃ before old, IsContainer d parent before old ∧
      holder = { before with body := .container { old with updateID := box.updateID } } ∧
      box = { old with updateID := box.updateID }

theorem vfsSetParent_hashAdd (allocated : Allocated d) (nonempty : d.registered ≠ []) {set : Dlna}
    (setParent : vfsSetParent (d.hashAdd item).2 d.heap.length containerId = .ok (parent, set))
    (different : parent ≠ d.heap.length) :
    containerId ≠ item.id ∧ ParentOf d containerId parent ∧ ParentSet d item parent set := by
  have newLength : (d.hashAdd item).2.heap.length = d.heap.length + 1 := by simp [hashAdd]
  rcases vfsSetParent_ok setParent with ⟨found, bumped, bump, rfl⟩ | ⟨missing, root, rfl⟩
  · rw [vfsGetItemById_hashAdd allocated] at found
    split at found
    · exact absurd (Option.some.inj found).symm different
    · rename_i notNew
      -- an older container has the id, and its update id goes up
      obtain ⟨before, old, wasContainer, rfl⟩ := vfsBumpUpdateID_ok bump
      refine ⟨notNew, .inl found, rfl, rfl, by simp [newLength], ?_, ?_, ?_⟩
      · simp [modifyItem_other _ different.symm, hashAdd_new]
      · intro q notAdded notParent
        rw [modifyItem_other _ notAdded, modifyItem_other _ notParent, hashAdd_lookup notAdded]
      · rintro holder box ⟨there, live, body⟩
        rw [modifyItem_other _ different, modifyItem_self, wasContainer.1] at there
        obtain rfl := Option.some.inj there
        obtain rfl := VfsBody.container.inj body
        refine ⟨before, old, ⟨?_, wasContainer.2⟩, rfl, rfl⟩
        rw [← hashAdd_lookup different]
        exact wasContainer.1
  · rw [vfsGetItemById_hashAdd allocated] at missing
    split at missing
    · simp at missing
    · rename_i notNew
      -- nobody has the id: the root takes the item, and its update id stays
      rw [vfsRoot_hashAdd nonempty] at root
      refine ⟨notNew, .inr ⟨missing, root⟩, rfl, rfl, by simp [newLength], ?_, ?_, ?_⟩
      · simp [hashAdd_new]
      · intro q notAdded notParent
        rw [modifyItem_other _ notAdded, hashAdd_lookup notAdded]
      · rintro holder box ⟨there, live, body⟩
        rw [modifyItem_other _ different, hashAdd_lookup different] at there
        exact ⟨holder, box, ⟨there, live, body⟩, by rw [← body], rfl⟩

theorem vfsItemAddChild_parentSet (allocated : Allocated d) {set : Dlna}
    (parentSet : ParentSet d item parent set) (different : parent ≠ d.heap.length)
    (addChild : vfsItemAddChild set parent d.heap.length = .ok after) :
    Placed d item parent after := by
  obtain ⟨holder, box, isContainer, listing⟩ := vfsItemAddChild_ok addChild
  obtain ⟨before, old, wasContainer, rfl, same⟩ := parentSet.chosen holder box isContainer
  have sameChildren : box.children = old.children := by rw [same]
  have sameCount : box.childrenCount = old.childrenCount := by rw [same]
  have fresh : d.heap.length ∉ box.children := by
    intro member
    rw [sameChildren] at member
    exact Nat.lt_irrefl _ (allocated.children parent old wasContainer.containerOf _ member)
  rcases listing with ⟨present, -⟩ | ⟨absent, room, rfl⟩
  · exact absurd present fresh
  · refine ⟨parentSet.mode, parentSet.registered, by simp [parentSet.length], ?_, ?_, ?_⟩
    · exact (modifyItem_other _ different.symm).trans parentSet.added
    · intro q notAdded notParent
      exact (modifyItem_other _ notParent).trans (parentSet.others q notAdded notParent)
    · refine ⟨before, old, box.updateID, wasContainer, by rwa [← sameChildren], ?_⟩
      refine (modifyItem_self _).trans ?_
      rw [isContainer.1, ← sameChildren, ← sameCount]
      rfl

theorem placed_of_steps (allocated : Allocated d) (nonempty : d.registered ≠ []) {set : Dlna}
    (setParent : vfsSetParent (d.hashAdd item).2 d.heap.length containerId = .ok (parent, set))
    (different : parent ≠ d.heap.length)
    (addChild : vfsItemAddChild set parent d.heap.length = .ok after) :
    containerId ≠ item.id ∧ ParentOf d containerId parent ∧ Placed d item parent after := by
  obtain ⟨other, chosen, parentSet⟩ := vfsSetParent_hashAdd allocated nonempty setParent different
  exact ⟨other, chosen, vfsItemAddChild_parentSet allocated parentSet different addChild⟩

/-- The list of the parent grows, and its update id with it if the parent was asked for by id. -/
def Grown (d : Dlna) (containerId : UInt32) (parent : Ref) (after : Dlna) : Prop :=
  ∀ box, d.containerOf parent = some box → after.containerOf parent = some
    { children := box.children ++ [d.heap.length]
      childrenCount := box.childrenCount + 1
      updateID := parentUpdateID d containerId box.updateID }

theorem grown_of_steps (allocated : Allocated d) {set : Dlna}
    (setParent : vfsSetParent (d.hashAdd item).2 d.heap.length containerId = .ok (parent, set))
    (different : parent ≠ d.heap.length) (other : containerId ≠ item.id)
    (addChild : vfsItemAddChild set parent d.heap.length = .ok after) :
    Grown d containerId parent after := by
  intro box was
  have kept : (d.hashAdd item).2.containerOf parent = some box := by
    rw [← was]
    simp [Dlna.containerOf, hashAdd_lookup different]
  have asked : parentUpdateID (d.hashAdd item).2 containerId box.updateID =
      parentUpdateID d containerId box.updateID := by
    rw [parentUpdateID, vfsGetItemById_hashAdd allocated, if_neg other, parentUpdateID]
  have bumped := vfsSetParent_containerOf setParent kept
  rw [asked] at bumped
  exact vfsItemAddChild_containerOf addChild bumped fun member =>
    Nat.lt_irrefl _ (allocated.children parent box was _ member)

def containerItem (id : UInt32) (name : Text) : VfsItem where
  id := id
  title := name
  body := .container ⟨[], 0, 0⟩
  parent := none
  freed := false

theorem vfsResetUpdateID_placed {name : Text}
    (placed : Placed d (containerItem id name) parent after) :
    Placed d (containerItem id name) parent (after.modifyItem d.heap.length vfsResetUpdateID) := by
  have unchanged : ∀ q : Ref, (after.modifyItem d.heap.length vfsResetUpdateID).heap[q]? =
      after.heap[q]? := by
    intro q
    by_cases same : q = d.heap.length
    · rw [same, modifyItem_self, placed.added]
      rfl
    · exact modifyItem_other _ same
  refine ⟨placed.mode, placed.registered, by simp [placed.length], ?_, ?_, ?_⟩
  · rw [unchanged, placed.added]
  · intro q notAdded notParent
    rw [unchanged, placed.others q notAdded notParent]
  · simpa only [unchanged] using placed.listed

theorem vfsSetParent_self (allocated : Allocated d) (nonempty : d.registered ≠ []) {set : Dlna}
    (setParent : vfsSetParent (d.hashAdd item).2 d.heap.length containerId =
      .ok (d.heap.length, set)) :
    containerId = item.id ∧ ∃ box, item.body = .container box ∧
      set = ((d.hashAdd item).2.modifyItem d.heap.length fun item =>
        { item with body := .container { box with updateID := box.updateID + 1 } }).modifyItem
          d.heap.length fun item => { item with parent := some d.heap.length } := by
  have newer : ∀ r ∈ d.registered, r ≠ d.heap.length := fun r member =>
    (allocated.registered r member).ne
  rcases vfsSetParent_ok setParent with ⟨found, bumped, bump, rfl⟩ | ⟨missing, root, rfl⟩
  · rw [vfsGetItemById_hashAdd allocated] at found
    split at found
    · rename_i isNew
      -- the new item is in the table already, so that the lookup can answer it
      obtain ⟨self, box, ⟨there, -, body⟩, rfl⟩ := vfsBumpUpdateID_ok bump
      rw [hashAdd_new] at there
      obtain rfl := Option.some.inj there
      exact ⟨isNew, box, body, rfl⟩
    · exact absurd rfl (newer _ (vfsGetItemById_mem found))
  · rw [vfsRoot_hashAdd nonempty] at root
    exact absurd rfl (newer _ (List.mem_of_mem_head? root))

theorem vfsSetParent_alone (allocated : Allocated d) {set : Dlna}
    (setParent : vfsSetParent (d.hashAdd item).2 d.heap.length containerId =
      .ok (d.heap.length, set)) : d.registered = [] ∨ containerId = item.id := by
  by_cases empty : d.registered = []
  · exact .inl empty
  · exact .inr (vfsSetParent_self allocated empty setParent).1

theorem nonempty_of_steps {set : Dlna}
    (setParent : vfsSetParent (d.hashAdd item).2 d.heap.length containerId = .ok (parent, set))
    (different : parent ≠ d.heap.length) : d.registered ≠ [] := by
  intro empty
  have onlyNew : (d.hashAdd item).2.registered = [d.heap.length] := by simp [hashAdd, empty]
  have member : parent ∈ (d.hashAdd item).2.registered := by
    rcases vfsSetParent_ok setParent with ⟨found, -⟩ | ⟨-, root, -⟩
    · exact vfsGetItemById_mem found
    · exact List.mem_of_mem_head? root
  rw [onlyNew] at member
  exact different (List.mem_singleton.mp member)

/-- Whether it was found by its id or is the only item: a container that becomes its own parent. -/
theorem selfParented_of_steps {name : Text} {set : Dlna}
    (setParent : vfsSetParent (d.hashAdd (containerItem id name)).2 d.heap.length containerId =
      .ok (d.heap.length, set)) :
    SelfParented d (containerItem id name) (set.modifyItem d.heap.length vfsResetUpdateID) := by
  rcases vfsSetParent_ok setParent with ⟨-, bumped, bump, rfl⟩ | ⟨-, -, rfl⟩
  · obtain ⟨self, box, ⟨there, -, body⟩, rfl⟩ := vfsBumpUpdateID_ok bump
    rw [hashAdd_new] at there
    obtain rfl := Option.some.inj there
    obtain rfl := VfsBody.container.inj body
    refine ⟨rfl, rfl, by simp [hashAdd], ?_, ?_⟩
    · simp [hashAdd_new, vfsResetUpdateID, containerItem]
    · intro q notAdded
      simp only [modifyItem_other _ notAdded, hashAdd_lookup notAdded]
  · refine ⟨rfl, rfl, by simp [hashAdd], ?_, ?_⟩
    · simp [hashAdd_new, vfsResetUpdateID, containerItem]
    · intro q notAdded
      simp only [modifyItem_other _ notAdded, hashAdd_lookup notAdded]

theorem dlnaVfsAddContainer_cases (allocated : Allocated d) {name : Text} {objectId : UInt32}
    (added : dlnaVfsAddContainer d name objectId containerId = .ok (id, after)) :
    vfsContainerId d objectId = .ok id ∧
      ((d.registered ≠ [] ∧ containerId ≠ id ∧ ∃ parent, ParentOf d containerId parent ∧
          Placed d (containerItem id name) parent after ∧ Grown d containerId parent after) ∨
        ((d.registered = [] ∨ containerId = id) ∧
          SelfParented d (containerItem id name) after)) := by
  obtain ⟨granted, provided, added⟩ := Outcome.bind_ok.mp added
  obtain ⟨⟨parent, set⟩, setParent, added⟩ := Outcome.bind_ok.mp added
  change vfsSetParent (d.hashAdd (containerItem granted name)).2 d.heap.length containerId =
    .ok (parent, set) at setParent
  dsimp only at added
  by_cases different : parent ≠ d.heap.length
  · rw [if_pos different] at added
    obtain ⟨listed, addChild, finished⟩ := Outcome.bind_ok.mp added
    simp only [Except.ok.injEq, Prod.mk.injEq] at finished
    obtain ⟨rfl, rfl⟩ := finished
    have nonempty := nonempty_of_steps setParent different
    obtain ⟨other, chosen, placed⟩ := placed_of_steps allocated nonempty setParent different addChild
    have grown := grown_of_steps allocated setParent different other addChild
    refine ⟨provided, .inl ⟨nonempty, other, parent, chosen, vfsResetUpdateID_placed placed, ?_⟩⟩
    intro box was
    rw [← grown box was]
    simp [Dlna.containerOf, modifyItem_other _ different]
  · rw [if_neg different] at added
    -- the test that spares the root keeps the new container out of every list
    obtain ⟨listed, addChild, finished⟩ := Outcome.bind_ok.mp added
    simp only [Except.ok.injEq, Prod.mk.injEq] at addChild finished
    obtain ⟨rfl, rfl⟩ := finished
    obtain rfl := addChild
    obtain rfl := not_not.mp different
    exact ⟨provided, .inr ⟨vfsSetParent_alone allocated setParent, selfParented_of_steps setParent⟩⟩

theorem dlnaVfsAddContainer_ok (allocated : Allocated d) (nonempty : d.registered ≠ [])
    {name : Text} {objectId : UInt32}
    (added : dlnaVfsAddContainer d name objectId containerId = .ok (id, after)) :
    vfsContainerId d objectId = .ok id ∧
      ((containerId ≠ id ∧ ∃ parent, ParentOf d containerId parent ∧
          Placed d (containerItem id name) parent after) ∨
        (containerId = id ∧ SelfParented d (containerItem id name) after)) := by
  obtain ⟨provided, ⟨-, other, parent, chosen, placed, -⟩ | ⟨isNew, adopted⟩⟩ :=
    dlnaVfsAddContainer_cases allocated added
  · exact ⟨provided, .inl ⟨other, parent, chosen, placed⟩⟩
  · exact ⟨provided, .inr ⟨isNew.resolve_left nonempty, adopted⟩⟩

def resourceItem (id : UInt32) (name : Text) (item : Option DlnaItem) : VfsItem where
  id := id
  title := name
  body := .resource item .none
  parent := none
  freed := false

theorem vfsResourceItem_ok {fullpath : Text} {probe : Probe} {made : Option DlnaItem}
    (answered : vfsResourceItem d id fullpath probe = .ok (made, after)) :
    ∃ db, after = { d with db := db } := by
  unfold vfsResourceItem at answered
  cases store : d.db with
  | none =>
      simp only [store, Except.ok.injEq, Prod.mk.injEq] at answered
      exact ⟨d.db, answered.2.symm⟩
  | some db =>
      simp only [store] at answered
      split at answered
      · simp only [Except.ok.injEq, Prod.mk.injEq] at answered
        exact ⟨d.db, answered.2.symm⟩
      · obtain ⟨⟨db, status⟩, -, rest⟩ := Outcome.bind_ok.mp answered
        simp only [Except.ok.injEq, Prod.mk.injEq] at rest
        exact ⟨some db, rest.2.symm⟩

structure Rejected (d after : Dlna) : Prop where
  mode : after.mode = d.mode
  registered : after.registered = d.registered
  others : ∀ q, q ≠ d.heap.length → after.heap[q]? = d.heap[q]?
  length : after.heap.length = d.heap.length + 1
  notContainer : after.containerOf d.heap.length = none

theorem vfsItemFree_rejected (allocated : Allocated d) {fuel : Nat} {name : Text}
    (freed : vfsItemFree fuel (d.hashAdd (resourceItem id name none)).2 d.heap.length = .ok after) :
    Rejected d after := by
  cases fuel with
  | zero => simp [vfsItemFree] at freed
  | succ fuel =>
      have fresh : d.heap.length ∉ d.registered := fun member =>
        Nat.lt_irrefl _ (allocated.registered _ member)
      have emptied : (d.registered ++ [d.heap.length]).erase d.heap.length = d.registered := by
        simp [List.erase_append_right _ fresh]
      simp [vfsItemFree, Dlna.readItem, hashAdd, resourceItem, hashDel, emptied, Bind.bind,
        Except.bind] at freed
      subst freed
      refine ⟨rfl, rfl, ?_, by simp, ?_⟩
      · intro q other
        refine (modifyItem_other _ other).trans ?_
        exact hashAdd_lookup other
      · simp [Dlna.containerOf, modifyItem, VfsBody.box?]

theorem dlnaVfsAddResource_cases (allocated : Allocated d) (nonempty : d.registered ≠ [])
    {name fullpath : Text} {probe : Probe} {granted : UInt32}
    (added : dlnaVfsAddResource d name fullpath containerId probe = .ok (granted, after)) :
    ∃ id item between, vfsProvideNextId d (some fullpath) = .ok id ∧
      vfsResourceItem d id fullpath probe = .ok (item, between) ∧
      ((item = none ∧ granted = 0 ∧ Rejected d after) ∨
        (granted = id ∧ item ≠ none ∧ containerId ≠ id ∧
          ∃ parent, ParentOf d containerId parent ∧
            Placed d (resourceItem id name item) parent after ∧
            Grown d containerId parent after)) := by
  rw [dlnaVfsAddResource, if_neg nonempty] at added
  obtain ⟨id, provided, added⟩ := Outcome.bind_ok.mp added
  obtain ⟨⟨item, between⟩, answered, added⟩ := Outcome.bind_ok.mp added
  obtain ⟨db, rfl⟩ := vfsResourceItem_ok answered
  refine ⟨id, item, _, provided, answered, ?_⟩
  have allocated' : Allocated { d with db := db } := ⟨allocated.registered, allocated.children⟩
  dsimp only at added
  by_cases rejected : item = none
  · rw [if_pos rejected] at added
    obtain ⟨freed, free, finished⟩ := Outcome.bind_ok.mp added
    simp only [Except.ok.injEq, Prod.mk.injEq] at finished
    obtain ⟨rfl, rfl⟩ := finished
    subst rejected
    obtain ⟨mode, registered, others, length, notContainer⟩ := vfsItemFree_rejected allocated' free
    exact .inl ⟨rfl, rfl, mode, registered, others, length, notContainer⟩
  · rw [if_neg rejected] at added
    obtain ⟨⟨parent, set⟩, setParent, added⟩ := Outcome.bind_ok.mp added
    obtain ⟨listed, addChild, finished⟩ := Outcome.bind_ok.mp added
    simp only [Except.ok.injEq, Prod.mk.injEq] at finished
    obtain ⟨rfl, rfl⟩ := finished
    -- its own update id would be read through the wrong member of the union
    have different : parent ≠ d.heap.length := by
      rintro rfl
      obtain ⟨-, box, body, -⟩ := vfsSetParent_self allocated' nonempty setParent
      simp at body
    obtain ⟨other, chosen, placed⟩ :=
      placed_of_steps allocated' nonempty setParent different addChild
    have grown := grown_of_steps allocated' setParent different other addChild
    obtain ⟨mode, registered, length, isAdded, others, listed⟩ := placed
    exact .inr ⟨rfl, rejected, other, parent, chosen,
      ⟨mode, registered, length, isAdded, others, listed⟩, grown⟩

theorem dlnaVfsAddResource_ok (allocated : Allocated d) (nonempty : d.registered ≠ [])
    {name fullpath : Text} {probe : Probe} {granted : UInt32}
    (added : dlnaVfsAddResource d name fullpath containerId probe = .ok (granted, after)) :
    ∃ id item between, vfsProvideNextId d (some fullpath) = .ok id ∧
      vfsResourceItem d id fullpath probe = .ok (item, between) ∧
      ((item = none ∧ granted = 0 ∧ Rejected d after) ∨
        (granted = id ∧ item ≠ none ∧ containerId ≠ id ∧
          ∃ parent, ParentOf d containerId parent ∧
            Placed d (resourceItem id name item) parent after)) := by
  obtain ⟨id, item, between, provided, answered, rejected |
    ⟨isNew, isSome, other, parent, chosen, placed, -⟩⟩ :=
    dlnaVfsAddResource_cases allocated nonempty added
  · exact ⟨id, item, between, provided, answered, .inl rejected⟩
  · exact ⟨id, item, between, provided, answered, .inr ⟨isNew, isSome, other, parent, chosen, placed⟩⟩

end Libdlna
