import Libdlna.Vfs.Additions
import Libdlna.Vfs.Ids

set_option autoImplicit false

/-!
# The tree of registered items

The tree is stored three times: in the table, in the parent pointers and in the children lists.
-/

namespace Libdlna

open CString Dlna Runs

namespace Dlna

variable (d : Dlna)

def listings (r : Ref) : Nat :=
  (d.registered.map fun q => ((d.containerOf q).map fun box => box.children.count r).getD 0).sum

def ancestor : Nat → Ref → Option Ref
  | 0, r => some r
  | n + 1, r => (d.parentOf r).bind (ancestor n)

variable {d}

theorem containerOf_allocated {r : Ref} {box : Container}
    (isContainer : d.containerOf r = some box) : r < d.heap.length := by
  by_contra beyond
  simp [containerOf, List.getElem?_eq_none (not_lt.mp beyond)] at isContainer

end Dlna

structure TreeInvariant (d : Dlna) : Prop where
  listedOnce : ∀ r ∈ d.registered, some r ≠ d.vfsRoot → d.listings r = 1
  listedByParent : ∀ r ∈ d.registered, some r ≠ d.vfsRoot → ∃ p box, d.parentOf r = some p ∧
    p ∈ d.registered ∧ d.containerOf p = some box ∧ r ∈ box.children
  rooted : ∀ r ∈ d.registered, ∃ n, (d.ancestor n r).isSome ∧ d.ancestor n r = d.vfsRoot
  counted : ∀ r ∈ d.registered, ∀ box, d.containerOf r = some box →
    box.childrenCount.toNat = box.children.length

structure Lists (d : Dlna) (p : Ref) (box : Container) : Prop where
  nodup : box.children.Nodup
  children : ∀ c ∈ box.children, c ∈ d.registered ∧ some c ≠ d.vfsRoot ∧ d.parentOf c = some p
  counted : box.childrenCount.toNat = box.children.length
  bounded : box.children.length < 2 ^ 31

/-- Items are younger than their parents, so the parent pointers cannot form a cycle. -/
structure VfsTree (d : Dlna) : Prop where
  allocated : Allocated d
  nodup : d.registered.Nodup
  nonempty : d.registered ≠ []
  rootParent : ∀ r, d.vfsRoot = some r → d.parentOf r = some r
  parents : ∀ r ∈ d.registered, some r ≠ d.vfsRoot → ∃ p box, d.parentOf r = some p ∧
    p ∈ d.registered ∧ p < r ∧ d.containerOf p = some box ∧ r ∈ box.children
  lists : ∀ p ∈ d.registered, ∀ box, d.containerOf p = some box → Lists d p box

variable {d after : Dlna} {item : VfsItem} {parent : Ref}

theorem listings_eq_one {r p : Ref} {box : Container} (nodup : d.registered.Nodup)
    (member : p ∈ d.registered) (isContainer : d.containerOf p = some box)
    (once : box.children.count r = 1)
    (nowhereElse : ∀ q ∈ d.registered, q ≠ p → ∀ other, d.containerOf q = some other →
      other.children.count r = 0) : d.listings r = 1 := by
  unfold listings
  rw [List.sum_map_eq_nsmul_single p]
  · simp [List.count_eq_one_of_mem nodup member, isContainer, once]
  · intro q other inTable
    cases body : d.containerOf q with
    | none => rfl
    | some box' => simpa using nowhereElse q inTable other box' body

theorem VfsTree.treeInvariant (tree : VfsTree d) : TreeInvariant d where
  listedOnce := by
    intro r member notRoot
    obtain ⟨p, box, isParent, registered, -, isContainer, listed⟩ := tree.parents r member notRoot
    refine listings_eq_one tree.nodup registered isContainer
      (List.count_eq_one_of_mem (tree.lists p registered box isContainer).nodup listed) ?_
    intro q inTable other box' isContainer'
    -- another container that lists r would be its parent too
    rw [List.count_eq_zero]
    intro listed'
    have isParent' := ((tree.lists q inTable box' isContainer').children r listed').2.2
    rw [isParent] at isParent'
    exact other (Option.some.inj isParent').symm
  listedByParent := by
    intro r member notRoot
    obtain ⟨p, box, isParent, registered, -, isContainer, listed⟩ := tree.parents r member notRoot
    exact ⟨p, box, isParent, registered, isContainer, listed⟩
  rooted := by
    intro r
    -- parents are older than their children
    induction r using Nat.strong_induction_on with
    | _ r ih =>
        intro member
        by_cases isRoot : some r = d.vfsRoot
        · exact ⟨0, rfl, isRoot⟩
        · obtain ⟨p, box, isParent, registered, younger, -, -⟩ := tree.parents r member isRoot
          obtain ⟨n, reaches⟩ := ih p younger registered
          refine ⟨n + 1, ?_⟩
          simpa [ancestor, isParent] using reaches
  counted := fun r member box isContainer => (tree.lists r member box isContainer).counted

namespace Placed

variable (placed : Placed d item parent after)
include placed

theorem parentOf_new : after.parentOf d.heap.length = some parent := by
  simp [parentOf, placed.added]

theorem parentOf_old {q : Ref} (old : q < d.heap.length) : after.parentOf q = d.parentOf q := by
  by_cases isParent : q = parent
  · obtain ⟨holder, box, updateID, isContainer, -, now⟩ := placed.listed
    simp [parentOf, isParent, now, isContainer.1]
  · simp [parentOf, placed.others q old.ne isParent]

theorem containerOf_cases {q : Ref} {box : Container} (now : after.containerOf q = some box) :
    (q = d.heap.length ∧ item.body.box? = some box) ∨
      (q = parent ∧ ∃ old updateID, d.containerOf parent = some old ∧
        old.children.length + 2 ≤ intMax ∧
        box = ⟨old.children ++ [d.heap.length], old.childrenCount + 1, updateID⟩) ∨
      (q ≠ parent ∧ d.containerOf q = some box) := by
  by_cases isNew : q = d.heap.length
  · left
    simpa [Dlna.containerOf, isNew, placed.added] using now
  · right
    by_cases isParent : q = parent
    · obtain ⟨holder, old, updateID, isContainer, room, there⟩ := placed.listed
      refine .inl ⟨isParent, old, updateID, isContainer.containerOf, room, ?_⟩
      simpa [Dlna.containerOf, isParent, there, VfsBody.box?] using now.symm
    · refine .inr ⟨isParent, ?_⟩
      simpa [Dlna.containerOf, placed.others q isNew isParent] using now

theorem containerOf_kept {q : Ref} {box : Container} (old : q < d.heap.length)
    (before : d.containerOf q = some box) :
    ∃ now, after.containerOf q = some now ∧ ∀ c ∈ box.children, c ∈ now.children := by
  by_cases isParent : q = parent
  · obtain ⟨holder, box', updateID, isContainer, -, there⟩ := placed.listed
    have same : box' = box := by
      rw [isParent, isContainer.containerOf] at before
      exact Option.some.inj before
    refine ⟨⟨box.children ++ [d.heap.length], box.childrenCount + 1, updateID⟩, ?_, ?_⟩
    · simp [Dlna.containerOf, isParent, there, VfsBody.box?, same]
    · simp +contextual
  · refine ⟨box, ?_, fun c member => member⟩
    rw [← before]
    simp [Dlna.containerOf, placed.others q old.ne isParent]

theorem containerOf_parent : ∃ now, after.containerOf parent = some now ∧
    d.heap.length ∈ now.children := by
  obtain ⟨holder, box, updateID, isContainer, -, there⟩ := placed.listed
  refine ⟨⟨box.children ++ [d.heap.length], box.childrenCount + 1, updateID⟩, ?_, by simp⟩
  simp [Dlna.containerOf, there, VfsBody.box?]

theorem vfsRoot (nonempty : d.registered ≠ []) : after.vfsRoot = d.vfsRoot :=
  vfsRoot_append nonempty placed.registered

end Placed

theorem Allocated.extended (allocated : Allocated d)
    (registered : after.registered = d.registered ++ [d.heap.length])
    (length : after.heap.length = d.heap.length + 1) :
    ∀ r ∈ after.registered, r < after.heap.length := by
  intro r member
  rw [registered] at member
  rw [length]
  rcases List.mem_append.mp member with old | new
  · exact Nat.lt_succ_of_lt (allocated.registered r old)
  · rw [List.mem_singleton.mp new]
    exact Nat.lt_succ_self _

theorem Allocated.placed (allocated : Allocated d) (placed : Placed d item parent after)
    (empty : ∀ box, item.body.box? = some box → box = ⟨[], 0, 0⟩) : Allocated after where
  registered := allocated.extended placed.registered placed.length
  children := by
    intro r box now c listed
    rw [placed.length]
    rcases placed.containerOf_cases now with ⟨-, isNew⟩ | ⟨-, old, updateID, before, -, rfl⟩ |
      ⟨-, before⟩
    · simp [empty box isNew] at listed
    · rcases List.mem_append.mp listed with older | new
      · exact Nat.lt_succ_of_lt (allocated.children parent old before c older)
      · rw [List.mem_singleton.mp new]
        exact Nat.lt_succ_self _
    · exact Nat.lt_succ_of_lt (allocated.children r box before c listed)

theorem Allocated.selfParented (allocated : Allocated d) (adopted : SelfParented d item after)
    (empty : ∀ box, item.body.box? = some box → box = ⟨[], 0, 0⟩) : Allocated after where
  registered := allocated.extended adopted.registered adopted.length
  children := by
    intro r box now c listed
    rw [adopted.length]
    by_cases isNew : r = d.heap.length
    · simp only [Dlna.containerOf, isNew, adopted.added, Option.bind_some] at now
      simp [empty box now] at listed
    · simp only [Dlna.containerOf, adopted.others r isNew] at now
      exact Nat.lt_succ_of_lt (allocated.children r box now c listed)

namespace Rejected

variable (rejected : Rejected d after)
include rejected

theorem containerOf (q : Ref) : after.containerOf q = d.containerOf q := by
  by_cases isNew : q = d.heap.length
  · rw [isNew, rejected.notContainer]
    simp [Dlna.containerOf]
  · simp [Dlna.containerOf, rejected.others q isNew]

theorem allocated (allocated : Allocated d) : Allocated after where
  registered := by
    intro r member
    rw [rejected.registered] at member
    rw [rejected.length]
    exact Nat.lt_succ_of_lt (allocated.registered r member)
  children := by
    intro r box isContainer c listed
    rw [rejected.containerOf] at isContainer
    rw [rejected.length]
    exact Nat.lt_succ_of_lt (allocated.children r box isContainer c listed)

end Rejected

theorem Lists.placed (tree : VfsTree d) (placed : Placed d item parent after) {q : Ref}
    {box : Container} (lists : Lists d q box) : Lists after q box where
  nodup := lists.nodup
  children := by
    intro c listed
    obtain ⟨registered, notRoot, isParent⟩ := lists.children c listed
    refine ⟨by simp [placed.registered, registered], ?_, ?_⟩
    · rwa [placed.vfsRoot tree.nonempty]
    · rwa [placed.parentOf_old (tree.allocated.registered c registered)]
  counted := lists.counted
  bounded := lists.bounded

theorem Lists.append (tree : VfsTree d) (placed : Placed d item parent after) {old : Container}
    {updateID : UInt32} (lists : Lists d parent old) (room : old.children.length + 2 ≤ intMax) :
    Lists after parent ⟨old.children ++ [d.heap.length], old.childrenCount + 1, updateID⟩ := by
  have older : ∀ c ∈ old.children, c < d.heap.length := fun c listed =>
    tree.allocated.registered c (lists.children c listed).1
  refine ⟨?_, ?_, ?_, ?_⟩
  · simpa [List.nodup_append, lists.nodup] using fun c listed => (older c listed).ne
  · intro c listed
    rcases List.mem_append.mp listed with before | new
    · exact (Lists.placed tree placed lists).children c before
    · obtain rfl := List.mem_singleton.mp new
      refine ⟨by simp [placed.registered], ?_, placed.parentOf_new⟩
      rw [placed.vfsRoot tree.nonempty]
      intro isRoot
      exact Nat.lt_irrefl _ (tree.allocated.registered _ (List.mem_of_mem_head? isRoot.symm))
  · -- the counter does not wrap, because the length of the new array fits an int
    have counted := lists.counted
    simp only [intMax] at room
    simp only [UInt32.toNat_add, counted, List.length_append, List.length_singleton]
    exact Nat.mod_eq_of_lt (by simp; omega)
  · simp only [intMax] at room
    simp only [List.length_append, List.length_singleton]
    omega

theorem VfsTree.placed (tree : VfsTree d) (placed : Placed d item parent after)
    (member : parent ∈ d.registered)
    (empty : ∀ box, item.body.box? = some box → box = ⟨[], 0, 0⟩) : VfsTree after where
  allocated := tree.allocated.placed placed empty
  nodup := by
    have fresh : d.heap.length ∉ d.registered := fun new =>
      Nat.lt_irrefl _ (tree.allocated.registered _ new)
    rw [placed.registered]
    simpa [List.nodup_append, tree.nodup] using fun r old => ne_of_mem_of_not_mem old fresh
  nonempty := by simp [placed.registered]
  rootParent := by
    intro r isRoot
    rw [placed.vfsRoot tree.nonempty] at isRoot
    rw [placed.parentOf_old (tree.allocated.registered r (List.mem_of_mem_head? isRoot))]
    exact tree.rootParent r isRoot
  parents := by
    intro r inTable notRoot
    rw [placed.vfsRoot tree.nonempty] at notRoot
    rw [placed.registered] at inTable ⊢
    rcases List.mem_append.mp inTable with old | new
    · have allocated := tree.allocated.registered r old
      obtain ⟨p, box, isParent, registered, younger, isContainer, listed⟩ :=
        tree.parents r old notRoot
      obtain ⟨now, isContainer', kept⟩ :=
        placed.containerOf_kept (younger.trans allocated) isContainer
      exact ⟨p, now, by rwa [placed.parentOf_old allocated], List.mem_append_left _ registered,
        younger, isContainer', kept r listed⟩
    · obtain rfl := List.mem_singleton.mp new
      obtain ⟨now, isContainer, listed⟩ := placed.containerOf_parent
      exact ⟨parent, now, placed.parentOf_new, List.mem_append_left _ member,
        tree.allocated.registered parent member, isContainer, listed⟩
  lists := by
    intro p inTable box now
    rcases placed.containerOf_cases now with ⟨-, isNew⟩ | ⟨rfl, old, updateID, before, room, rfl⟩ |
      ⟨notParent, before⟩
    · rw [empty box isNew]
      exact ⟨List.nodup_nil, by simp, rfl, by simp⟩
    · exact (tree.lists p member old before).append tree placed room
    · have allocated := containerOf_allocated before
      have old : p ∈ d.registered := by
        rw [placed.registered] at inTable
        rcases List.mem_append.mp inTable with old | new
        · exact old
        · exact absurd (List.mem_singleton.mp new) allocated.ne
      exact (tree.lists p old box before).placed tree placed

theorem VfsTree.rejected (tree : VfsTree d) (rejected : Rejected d after) : VfsTree after := by
  have sameParent : ∀ q, q < d.heap.length → after.parentOf q = d.parentOf q := fun q old => by
    simp [parentOf, rejected.others q old.ne]
  have sameRoot : after.vfsRoot = d.vfsRoot := by simp [Dlna.vfsRoot, rejected.registered]
  refine ⟨rejected.allocated tree.allocated, ?_, ?_, ?_, ?_, ?_⟩
  · rw [rejected.registered]
    exact tree.nodup
  · rw [rejected.registered]
    exact tree.nonempty
  · intro r isRoot
    rw [sameRoot] at isRoot
    rw [sameParent r (tree.allocated.registered r (List.mem_of_mem_head? isRoot))]
    exact tree.rootParent r isRoot
  · intro r member notRoot
    rw [sameRoot] at notRoot
    rw [rejected.registered] at member ⊢
    simp only [rejected.containerOf, sameParent r (tree.allocated.registered r member)]
    exact tree.parents r member notRoot
  · intro p member box isContainer
    rw [rejected.registered] at member
    rw [rejected.containerOf] at isContainer
    have lists := tree.lists p member box isContainer
    refine ⟨lists.nodup, fun c listed => ?_, lists.counted, lists.bounded⟩
    have child := lists.children c listed
    rw [rejected.registered, sameRoot, sameParent c (tree.allocated.registered c child.1)]
    exact child

def Call.isAddition : Call → Bool
  | .addContainer .. | .addResource .. | .setCapabilityMode _ => true
  | .removeItemById _ | .removeItemByTitle _ => false

def AdditionStep (d : Dlna) (call : Call) (after : Dlna) : Prop :=
  call.isAddition = true ∧ CallStep d call after

/-- The call asks for an item to be put under the id that it is about to get. -/
def AdoptsItself (d : Dlna) : Call → Prop
  | .addContainer _ objectId containerId =>
      if objectId = 0 ∨ vfsIsIdRegistered d objectId then FirstFree d containerId
      else containerId = objectId
  -- nothing is added where the profiler and the store have no item for the file
  | .addResource _ fullpath containerId probe =>
      vfsProvideNextId d (some fullpath) = .ok containerId ∧
        ∃ item between, vfsResourceItem d containerId fullpath probe = .ok (some item, between)
  | _ => False

theorem adoptsItself_iff (nonempty : d.registered ≠ []) {name : Text}
    {objectId containerId : UInt32} :
    AdoptsItself d (.addContainer name objectId containerId) ↔
      vfsContainerId d objectId = .ok containerId := by
  rw [AdoptsItself, vfsContainerId]
  by_cases provides : objectId = 0 ∨ vfsIsIdRegistered d objectId
  · rw [if_pos provides, if_pos provides]
    exact (vfsProvideNextId_none nonempty).symm
  · rw [if_neg provides, if_neg provides]
    exact ⟨fun same => by rw [same], fun same => (Except.ok.inj same).symm⟩

theorem dlnaStart_vfsTree (getMediaProfile : Text → Option DlnaProfile) (db : Option Store) :
    VfsTree (dlnaStart getMediaProfile db) := by
  have onlyRoot : ∀ r box, (dlnaStart getMediaProfile db).containerOf r = some box →
      box = ⟨[], 0, 0⟩ := by
    intro r box isContainer
    cases r with
    | zero => exact (Option.some.inj isContainer).symm
    | succ r => simp [Dlna.containerOf, dlnaStart, dlnaInit] at isContainer
  refine ⟨⟨by simp [dlnaStart, dlnaInit], ?_⟩, by simp [dlnaStart, dlnaInit],
    by simp [dlnaStart, dlnaInit], ?_, ?_, ?_⟩
  · intro r box isContainer
    simp [onlyRoot r box isContainer]
  · intro r isRoot
    obtain rfl : 0 = r := Option.some.inj isRoot
    rfl
  · intro r member notRoot
    simp [dlnaStart, dlnaInit] at member
    simp [member, Dlna.vfsRoot, dlnaStart, dlnaInit] at notRoot
  · intro p member box isContainer
    rw [onlyRoot p box isContainer]
    exact ⟨List.nodup_nil, by simp, rfl, by simp⟩

theorem additionStep_outcome (allocated : Allocated d) (nonempty : d.registered ≠ [])
    {call : Call} (taken : AdditionStep d call after) (sound : ¬ AdoptsItself d call) :
    (∃ item parent, item.freed = false ∧
        (∀ box, item.body.box? = some box → box = ⟨[], 0, 0⟩) ∧
        parent ∈ d.registered ∧ Placed d item parent after) ∨
      Rejected d after ∨ ∃ mode, after = { d with mode := mode } := by
  obtain ⟨isAddition, granted, executed⟩ := taken
  cases call with
  | addContainer name objectId containerId =>
      obtain ⟨provided, ⟨other, parent, chosen, placed⟩ | ⟨isNew, -⟩⟩ :=
        dlnaVfsAddContainer_ok allocated nonempty executed
      · refine .inl ⟨_, parent, rfl, ?_, chosen.registered, placed⟩
        exact fun box body => (Option.some.inj body).symm
      · exact absurd ((adoptsItself_iff nonempty).mpr (isNew ▸ provided)) sound
  | addResource name fullpath containerId probe =>
      obtain ⟨id, item, between, provided, answered, ⟨-, -, rejected⟩ |
        ⟨-, -, -, parent, chosen, placed⟩⟩ :=
        dlnaVfsAddResource_ok allocated nonempty executed
      · exact .inr (.inl rejected)
      · refine .inl ⟨_, parent, rfl, ?_, chosen.registered, placed⟩
        intro box body
        simp [resourceItem, VfsBody.box?] at body
  | setCapabilityMode mode =>
      simp only [Call.exec, Except.ok.injEq, Prod.mk.injEq] at executed
      exact .inr (.inr ⟨mode, executed.2.symm⟩)
  | removeItemById id => simp [Call.isAddition] at isAddition
  | removeItemByTitle name => simp [Call.isAddition] at isAddition

theorem VfsTree.step (tree : VfsTree d) {call : Call} (taken : AdditionStep d call after)
    (sound : ¬ AdoptsItself d call) : VfsTree after := by
  rcases additionStep_outcome tree.allocated tree.nonempty taken sound with
    ⟨item, parent, -, empty, registered, placed⟩ | rejected | ⟨mode, rfl⟩
  · exact tree.placed placed registered empty
  · exact tree.rejected rejected
  · exact ⟨⟨tree.allocated.registered, tree.allocated.children⟩, tree.nodup, tree.nonempty,
      tree.rootParent, tree.parents, fun p member box isContainer =>
        let lists := tree.lists p member box isContainer
        ⟨lists.nodup, lists.children, lists.counted, lists.bounded⟩⟩

theorem not_treeInvariant_of_adopted (tree : VfsTree d) {call : Call}
    (taken : AdditionStep d call after) (adopts : AdoptsItself d call) : ¬ TreeInvariant after := by
  obtain ⟨-, granted, executed⟩ := taken
  cases call with
  | addContainer name objectId containerId =>
      obtain ⟨provided, ⟨other, -⟩ | ⟨isNew, adopted⟩⟩ :=
        dlnaVfsAddContainer_ok tree.allocated tree.nonempty executed
      · rw [(adoptsItself_iff tree.nonempty).mp adopts] at provided
        exact absurd (Except.ok.inj provided) other
      · intro invariant
        -- the new container would have to be in its own list, which is empty
        have notRoot : some d.heap.length ≠ after.vfsRoot := by
          rw [vfsRoot_append tree.nonempty adopted.registered]
          intro isRoot
          exact Nat.lt_irrefl _ (tree.allocated.registered _ (List.mem_of_mem_head? isRoot.symm))
        obtain ⟨p, box, isParent, -, isContainer, listed⟩ :=
          invariant.listedByParent d.heap.length (by simp [adopted.registered]) notRoot
        simp only [parentOf, adopted.added, Option.bind_some, Option.some.injEq] at isParent
        subst isParent
        simp only [Dlna.containerOf, adopted.added, containerItem, VfsBody.box?, Option.bind_some,
          Option.some.injEq] at isContainer
        simp [← isContainer] at listed
  | addResource name fullpath containerId probe =>
      obtain ⟨own, accepted, between, made⟩ := adopts
      obtain ⟨id, item, between', provided, answered, ⟨rejected, -⟩ | ⟨-, -, other, -⟩⟩ :=
        dlnaVfsAddResource_ok tree.allocated tree.nonempty executed
      · obtain rfl := Except.ok.inj (own.symm.trans provided)
        simp [rejected, made] at answered
      · exact absurd (Except.ok.inj (own.symm.trans provided)) other
  | setCapabilityMode _ => exact adopts.elim
  | removeItemById _ => exact adopts.elim
  | removeItemByTitle _ => exact adopts.elim

end Libdlna
