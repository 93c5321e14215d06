import Libdlna.Shared.Outcome
import Libdlna.Model.Vfs

set_option autoImplicit false

/-!
# What each operation of the file system does

One inversion lemma for each function of `vfs.c`: every way in which it can return, with the state
it leaves.
-/

namespace Libdlna

open CString

namespace Dlna

variable {d after : Dlna} {r q : Ref}

@[simp] theorem modifyItem_registered (f : VfsItem → VfsItem) :
    (d.modifyItem r f).registered = d.registered := rfl

@[simp] theorem modifyItem_length (f : VfsItem → VfsItem) :
    (d.modifyItem r f).heap.length = d.heap.length := by
  simp [modifyItem]

theorem modifyItem_lookup (f : VfsItem → VfsItem) :
    (d.modifyItem r f).heap[q]? = if q = r then d.heap[q]?.map f else d.heap[q]? := by
  by_cases same : q = r
  · simp [modifyItem, same]
  · simp [modifyItem, same, Ne.symm same]

@[simp] theorem modifyItem_self (f : VfsItem → VfsItem) :
    (d.modifyItem r f).heap[r]? = d.heap[r]?.map f := by
  simp [modifyItem_lookup]

theorem modifyItem_other (f : VfsItem → VfsItem) (other : q ≠ r) :
    (d.modifyItem r f).heap[q]? = d.heap[q]? := by
  simp [modifyItem_lookup, other]

def bodyOf (d : Dlna) (r : Ref) : Option VfsBody := d.heap[r]?.map VfsItem.body

theorem modifyItem_bodyOf {f : VfsItem → VfsItem} (keeps : ∀ item, (f item).body = item.body) :
    (d.modifyItem r f).bodyOf q = d.bodyOf q := by
  by_cases same : q = r
  · simp [bodyOf, same, Function.comp_def, keeps]
  · simp [bodyOf, modifyItem_lookup, same]

theorem containerOf_eq : d.containerOf r = (d.bodyOf r).bind VfsBody.box? := by
  cases found : d.heap[r]? <;> simp [Dlna.containerOf, bodyOf, found]

theorem withParent_containerOf {parent : Ref} :
    (d.modifyItem r fun item => { item with parent := some parent }).containerOf q =
      d.containerOf q := by
  rw [containerOf_eq, containerOf_eq]
  exact congrArg (fun body => body.bind VfsBody.box?)
    (modifyItem_bodyOf (f := fun item => { item with parent := some parent }) fun _ => rfl)

theorem vfsRoot_append {added : List Ref} (nonempty : d.registered ≠ [])
    (appended : after.registered = d.registered ++ added) : after.vfsRoot = d.vfsRoot := by
  cases table : d.registered with
  | nil => exact absurd table nonempty
  | cons root rest => simp [vfsRoot, appended, table]

theorem readItem_ok {item : VfsItem} (read : d.readItem r = .ok item) :
    d.heap[r]? = some item ∧ item.freed = false := by
  unfold readItem at read
  cases found : d.heap[r]? with
  | none => simp [found] at read
  | some content =>
      cases state : content.freed <;> simp [found, state] at read
      exact ⟨congrArg some read, read ▸ state⟩

theorem hashDel_ok (deleted : d.hashDel r = .ok after) :
    r ∈ d.registered ∧ after = { d with registered := d.registered.erase r } := by
  unfold hashDel at deleted
  split at deleted
  · simp_all
  · simp at deleted

end Dlna

open Dlna

variable {d after : Dlna} {r : Ref} {id : UInt32}

theorem vfsIsIdRegistered_iff :
    vfsIsIdRegistered d id = true ↔ ∃ r ∈ d.registered, d.idOf r = some id :=
  KeyedTable.find_isSome

theorem vfsGetItemById_mem (found : vfsGetItemById d id = some r) : r ∈ d.registered :=
  KeyedTable.find_mem found

def IsContainer (d : Dlna) (r : Ref) (item : VfsItem) (box : Container) : Prop :=
  d.heap[r]? = some item ∧ item.freed = false ∧ item.body = .container box

theorem IsContainer.containerOf {item : VfsItem} {box : Container}
    (isContainer : IsContainer d r item box) : d.containerOf r = some box := by
  simp [Dlna.containerOf, isContainer.1, isContainer.2.2, VfsBody.box?]

theorem vfsBumpUpdateID_ok (bumped : vfsBumpUpdateID d r = .ok after) :
    ∃ item box, IsContainer d r item box ∧
      after = d.modifyItem r fun item =>
        { item with body := .container { box with updateID := box.updateID + 1 } } := by
  obtain ⟨item, read, rest⟩ := Outcome.bind_ok.mp bumped
  obtain ⟨found, live⟩ := readItem_ok read
  cases body : item.body with
  | resource dlnaItem cnv => simp [body] at rest
  | container box =>
      simp only [body, Except.ok.injEq] at rest
      exact ⟨item, box, ⟨found, live, body⟩, rest.symm⟩

theorem vfsItemAddChild_ok {child : Ref} (added : vfsItemAddChild d r child = .ok after) :
    ∃ item box, IsContainer d r item box ∧
      ((child ∈ box.children ∧ after = d) ∨
        (child ∉ box.children ∧ box.children.length + 2 ≤ intMax ∧
          after = { d.modifyItem r fun item =>
            { item with body := .container { box with
                children := box.children ++ [child]
                childrenCount := box.childrenCount + 1 } } with
              vfsItems := d.vfsItems + 1 })) := by
  obtain ⟨item, read, rest⟩ := Outcome.bind_ok.mp added
  obtain ⟨found, live⟩ := readItem_ok read
  cases body : item.body with
  | resource dlnaItem cnv => simp [body] at rest
  | container box =>
      refine ⟨item, box, ⟨found, live, body⟩, ?_⟩
      simp only [body] at rest
      by_cases present : child ∈ box.children
      · simp only [present, if_true, Except.ok.injEq] at rest
        exact .inl ⟨present, rest.symm⟩
      · by_cases room : intMax < box.children.length + 2
        · simp [present, room] at rest
        · simp only [present, room, if_false, Except.ok.injEq] at rest
          exact .inr ⟨present, by omega, rest.symm⟩

theorem vfsSetParent_ok {containerId : UInt32} {parent : Ref}
    (set : vfsSetParent d r containerId = .ok (parent, after)) :
    (vfsGetItemById d containerId = some parent ∧
      ∃ bumped, vfsBumpUpdateID d parent = .ok bumped ∧
        after = bumped.modifyItem r fun item => { item with parent := some parent }) ∨
    (vfsGetItemById d containerId = none ∧ d.vfsRoot = some parent ∧
      after = d.modifyItem r fun item => { item with parent := some parent }) := by
  unfold vfsSetParent at set
  cases found : vfsGetItemById d containerId with
  | some known =>
      simp only [found] at set
      obtain ⟨bumped, touched, rest⟩ := Outcome.bind_ok.mp set
      simp only [Except.ok.injEq, Prod.mk.injEq] at rest
      obtain ⟨rfl, rfl⟩ := rest
      exact .inl ⟨rfl, bumped, touched, rfl⟩
  | none =>
      simp only [found] at set
      cases root : d.vfsRoot with
      | none => simp [root] at set
      | some known =>
          simp only [root, Except.ok.injEq, Prod.mk.injEq] at set
          obtain ⟨rfl, rfl⟩ := set
          exact .inr ⟨rfl, rfl, rfl⟩

theorem vfsBumpUpdateID_containerOf {box : Container} (bumped : vfsBumpUpdateID d r = .ok after)
    (was : d.containerOf r = some box) :
    after.containerOf r = some { box with updateID := box.updateID + 1 } := by
  obtain ⟨item, old, isContainer, rfl⟩ := vfsBumpUpdateID_ok bumped
  rw [isContainer.containerOf] at was
  obtain rfl := Option.some.inj was
  simp [Dlna.containerOf, isContainer.1, VfsBody.box?]

theorem vfsItemAddChild_containerOf {child : Ref} {box : Container}
    (added : vfsItemAddChild d r child = .ok after) (was : d.containerOf r = some box)
    (fresh : child ∉ box.children) :
    after.containerOf r = some { box with
      children := box.children ++ [child]
      childrenCount := box.childrenCount + 1 } := by
  obtain ⟨item, old, isContainer, listing⟩ := vfsItemAddChild_ok added
  rw [isContainer.containerOf] at was
  obtain rfl := Option.some.inj was
  rcases listing with ⟨present, -⟩ | ⟨-, -, rfl⟩
  · exact absurd present fresh
  · simp [Dlna.containerOf, Dlna.modifyItem, isContainer.1, VfsBody.box?]

/-- The update id of the container that takes an item: it goes up unless nobody has the id. -/
def parentUpdateID (d : Dlna) (containerId updateID : UInt32) : UInt32 :=
  if vfsGetItemById d containerId = none then updateID else updateID + 1

theorem vfsSetParent_containerOf {containerId : UInt32} {parent : Ref} {box : Container}
    (set : vfsSetParent d r containerId = .ok (parent, after))
    (was : d.containerOf parent = some box) :
    after.containerOf parent =
      some { box with updateID := parentUpdateID d containerId box.updateID } := by
  rcases vfsSetParent_ok set with ⟨found, bumped, bump, rfl⟩ | ⟨missing, -, rfl⟩
  · rw [withParent_containerOf, vfsBumpUpdateID_containerOf bump was]
    simp [parentUpdateID, found]
  · rw [withParent_containerOf, was]
    simp [parentUpdateID, missing]

def VfsBody.children : VfsBody → List Ref
  | .resource _ _ => []
  | .container box => box.children

variable {fuel : Nat}

def releaseBody (fuel : Nat) (d : Dlna) : VfsBody → Except Fault Dlna
  | .resource none _ => .ok d
  | .resource (some dlnaItem) _ => (dlnaItemFree dlnaItem).map fun _ => d
  | .container box => box.children.foldlM (vfsItemFree fuel) d

def releaseItem (d : Dlna) (r : Ref) : Dlna :=
  { d.modifyItem r fun item => { item with parent := none, freed := true } with
    vfsItems := d.vfsItems - 1 }

theorem vfsItemFree_eq (nonempty : d.registered ≠ []) :
    vfsItemFree (fuel + 1) d r = d.readItem r >>= fun item => d.hashDel r >>= fun deleted =>
      releaseBody fuel deleted item.body >>= fun emptied => .ok (releaseItem emptied r) := by
  rw [vfsItemFree, if_neg nonempty]
  congr
  funext item
  congr
  funext deleted
  cases item.body with
  | container box => rfl
  | resource content cnv => cases content <;> rfl

theorem releaseBody_ok {body : VfsBody} (released : releaseBody fuel d body = .ok after) :
    body.children.foldlM (vfsItemFree fuel) d = .ok after := by
  cases body with
  | container box => exact released
  | resource content cnv =>
      cases content with
      | none => exact released
      | some dlnaItem =>
          obtain ⟨-, -, rfl⟩ := Outcome.map_ok.mp released
          rfl

theorem vfsItemFree_ok (freed : vfsItemFree (fuel + 1) d r = .ok after) :
    (d.registered = [] ∧ after = d) ∨
      (∃ item emptied, d.heap[r]? = some item ∧ r ∈ d.registered ∧
        item.body.children.foldlM (vfsItemFree fuel)
          { d with registered := d.registered.erase r } = .ok emptied ∧
        after = { emptied.modifyItem r fun item => { item with parent := none, freed := true } with
          vfsItems := emptied.vfsItems - 1 }) := by
  by_cases empty : d.registered = []
  · rw [vfsItemFree, if_pos empty] at freed
    exact .inl ⟨empty, (Except.ok.inj freed).symm⟩
  · rw [vfsItemFree_eq empty] at freed
    obtain ⟨item, read, freed⟩ := Outcome.bind_ok.mp freed
    obtain ⟨deleted, delete, freed⟩ := Outcome.bind_ok.mp freed
    obtain ⟨emptied, released, finished⟩ := Outcome.bind_ok.mp freed
    obtain ⟨member, rfl⟩ := hashDel_ok delete
    exact .inr ⟨item, emptied, (readItem_ok read).1, member, releaseBody_ok released,
      (Except.ok.inj finished).symm⟩

theorem vfsItemFree_relates (holds : Dlna → Dlna → Prop) (reflexive : ∀ s, holds s s)
    (transitive : ∀ s t u, holds s t → holds t u → holds s u)
    (unregister : ∀ s q, holds s { s with registered := s.registered.erase q })
    (release : ∀ s q items, holds s
      { s.modifyItem q fun item => { item with parent := none, freed := true } with
        vfsItems := items })
    (freed : vfsItemFree fuel d r = .ok after) : holds d after := by
  induction fuel generalizing d r after with
  | zero => simp [vfsItemFree] at freed
  | succ fuel ih =>
      rcases vfsItemFree_ok freed with ⟨-, rfl⟩ | ⟨item, emptied, -, -, children, rfl⟩
      · exact reflexive after
      · have emptying := Outcome.foldlM_invariant holds reflexive transitive
          (fun s t c _ step => ih step) children
        exact transitive _ _ _ (unregister d r)
          (transitive _ _ _ emptying (release emptied r _))

theorem vfsItemFree_bodyOf (freed : vfsItemFree fuel d r = .ok after) :
    after.bodyOf = d.bodyOf := by
  refine vfsItemFree_relates (fun s t => t.bodyOf = s.bodyOf) (fun _ => rfl)
    (fun s t u first second => second.trans first) (fun _ _ => rfl) ?_ freed
  intro s q items
  funext other
  exact modifyItem_bodyOf (f := fun item => { item with parent := none, freed := true }) fun _ => rfl

theorem vfsItemFree_containerOf (freed : vfsItemFree fuel d r = .ok after) :
    after.containerOf = d.containerOf := by
  funext q
  rw [containerOf_eq, containerOf_eq, vfsItemFree_bodyOf freed]

theorem vfsItemFree_sublist (freed : vfsItemFree fuel d r = .ok after) :
    after.registered.Sublist d.registered :=
  vfsItemFree_relates (fun s t => t.registered.Sublist s.registered)
    (fun s => List.Sublist.refl s.registered) (fun _ _ _ first second => second.trans first)
    (fun _ _ => List.erase_sublist) (fun s _ _ => List.Sublist.refl s.registered) freed

end Libdlna
