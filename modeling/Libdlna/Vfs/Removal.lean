import Libdlna.Vfs.Tree

set_option autoImplicit false

/-!
# Removal

`vfs_item_free` takes an item and everything below it out of the table. It writes no children list,
so the former parent keeps listing the item.
-/

namespace Libdlna

open CString Dlna Runs

variable {d after : Dlna} {r x : Ref} {fuel : Nat}

theorem vfsItemFree_unregistered (freed : vfsItemFree fuel d r = .ok after)
    (missing : r ∉ d.registered) : d.registered = [] := by
  cases fuel with
  | zero => simp [vfsItemFree] at freed
  | succ fuel =>
      rcases vfsItemFree_ok freed with ⟨empty, -⟩ | ⟨item, emptied, -, member, -, -⟩
      · exact empty
      · exact absurd member missing

theorem foldlM_sublist {children : List Ref}
    (emptying : children.foldlM (vfsItemFree fuel) d = .ok after) :
    after.registered.Sublist d.registered :=
  Outcome.foldlM_invariant (fun s t => t.registered.Sublist s.registered)
    (fun s => List.Sublist.refl s.registered) (fun _ _ _ first second => second.trans first)
    (fun _ _ _ _ step => vfsItemFree_sublist step) emptying

theorem foldlM_unregistered {children : List Ref}
    (emptying : children.foldlM (vfsItemFree fuel) d = .ok after) (listed : x ∈ children)
    (missing : x ∉ d.registered) : after.registered = [] := by
  obtain ⟨older, younger, rfl⟩ := List.append_of_mem listed
  rw [List.foldlM_append] at emptying
  obtain ⟨before, first, emptying⟩ := Outcome.bind_ok.mp emptying
  rw [List.foldlM_cons] at emptying
  obtain ⟨between, free, rest⟩ := Outcome.bind_ok.mp emptying
  have empty : before.registered = [] :=
    vfsItemFree_unregistered free fun inside => missing ((foldlM_sublist first).subset inside)
  have smaller := (foldlM_sublist rest).trans (vfsItemFree_sublist free)
  rw [empty] at smaller
  exact List.sublist_nil.mp smaller

/-- Freeing the container `p`, which lists the unregistered `x`, empties the table. -/
def EmptiedByParent (p x : Ref) (box : Container) (s t : Dlna) : Prop :=
  t.registered.Sublist s.registered ∧ t.containerOf = s.containerOf ∧
    (s.registered.Nodup → x ∉ s.registered → s.containerOf p = some box → p ∈ s.registered →
      p ∉ t.registered → t.registered = [])

theorem EmptiedByParent.transitive {p : Ref} {box : Container} (s t u : Dlna)
    (first : EmptiedByParent p x box s t) (second : EmptiedByParent p x box t u) :
    EmptiedByParent p x box s u := by
  refine ⟨second.1.trans first.1, second.2.1.trans first.2.1, ?_⟩
  intro nodup missing isContainer before gone
  by_cases between : p ∈ t.registered
  · exact second.2.2 (nodup.sublist first.1) (fun inside => missing (first.1.subset inside))
      (by rwa [first.2.1]) between gone
  · have smaller := second.1
    rw [first.2.2 nodup missing isContainer before between] at smaller
    exact List.sublist_nil.mp smaller

theorem vfsItemFree_emptied {p : Ref} {box : Container} (listed : x ∈ box.children)
    (nodup : d.registered.Nodup) (freed : vfsItemFree fuel d r = .ok after)
    (unregistered : x ∉ d.registered ∨ x = r) (isContainer : d.containerOf p = some box)
    (before : p ∈ d.registered) (gone : p ∉ after.registered) : after.registered = [] := by
  induction fuel generalizing d r after with
  | zero => simp [vfsItemFree] at freed
  | succ fuel ih =>
      rcases vfsItemFree_ok freed with ⟨empty, rfl⟩ | ⟨item, emptied, found, member, children, rfl⟩
      · exact empty
      · have missing : x ∉ d.registered.erase r := by
          rcases unregistered with outside | rfl
          · exact fun inside => outside (List.mem_of_mem_erase inside)
          · exact nodup.not_mem_erase
        by_cases isFreed : p = r
        · -- the loop over the children of `p` reaches `x`
          have sameList : item.body.children = box.children := by
            simp only [Dlna.containerOf, isFreed, found, Option.bind_some] at isContainer
            cases body : item.body <;> simp_all [VfsBody.box?, VfsBody.children]
          rw [← sameList] at listed
          have empty := foldlM_unregistered children listed missing
          exact empty
        · -- `p` is freed by the recursion
          have each : ∀ s t, ∀ c ∈ item.body.children, vfsItemFree fuel s c = .ok t →
              EmptiedByParent p x box s t := by
            intro s t c _ step
            exact ⟨vfsItemFree_sublist step, vfsItemFree_containerOf step,
              fun nodup missing => ih nodup step (.inl missing)⟩
          have emptying := Outcome.foldlM_invariant (EmptiedByParent p x box)
            (fun s => ⟨List.Sublist.refl _, rfl, fun _ _ _ before gone => absurd before gone⟩)
            EmptiedByParent.transitive each children
          exact emptying.2.2 (nodup.erase r) missing isContainer
            ((List.mem_erase_of_ne isFreed).mpr before) gone

structure ListedOnce (d : Dlna) : Prop where
  nodup : d.registered.Nodup
  root : ∀ r, d.vfsRoot = some r → d.parentOf r = some r
  once : ∀ r ∈ d.registered, some r ≠ d.vfsRoot → d.listings r = 1 ∧
    ∃ p box, d.parentOf r = some p ∧ p ∈ d.registered ∧ d.containerOf p = some box ∧
      r ∈ box.children

theorem VfsTree.listedOnce (tree : VfsTree d) : ListedOnce d where
  nodup := tree.nodup
  root := tree.rootParent
  once := fun r member notRoot =>
    ⟨tree.treeInvariant.listedOnce r member notRoot,
      tree.treeInvariant.listedByParent r member notRoot⟩

def Below (d : Dlna) (x r : Ref) : Prop := ∃ n, d.ancestor n r = some x

structure RemovesExactly (d : Dlna) (x : Ref) (after : Dlna) : Prop where
  registered : ∀ r, r ∈ after.registered ↔ r ∈ d.registered ∧ ¬ Below d x r
  unlisted : ∀ q ∈ after.registered, ∀ box, after.containerOf q = some box →
    ∀ r ∈ box.children, ¬ Below d x r
  parent : ∀ p box, d.parentOf x = some p → d.containerOf p = some box →
    after.containerOf p = some { box with
      children := box.children.erase x
      childrenCount := box.childrenCount - 1 }
  others : ∀ q ∈ after.registered, d.parentOf x ≠ some q → after.heap[q]? = d.heap[q]?

def Selects (d : Dlna) (x : Ref) : Call → Prop
  | .removeItemById id => vfsGetItemById d id = some x
  | .removeItemByTitle name => vfsGetItemByName d name = some x
  | _ => False

theorem ancestor_of_own_parent (own : d.parentOf r = some r) (n : Nat) :
    d.ancestor n r = some r := by
  induction n with
  | zero => rfl
  | succ n ih => simp [ancestor, own, ih]

theorem vfsItemFree_not_exact (listed : ListedOnce d) (member : x ∈ d.registered)
    (notRoot : some x ≠ d.vfsRoot) (freed : vfsItemFree fuel d x = .ok after) :
    ¬ RemovesExactly d x after := by
  intro exactly
  obtain ⟨-, p, box, isParent, registered, isContainer, lists⟩ := listed.once x member notRoot
  by_cases survives : p ∈ after.registered
  -- a parent that survives still lists x
  · have kept : after.containerOf p = some box := by rwa [vfsItemFree_containerOf freed]
    exact exactly.unlisted p survives box kept x lists ⟨0, rfl⟩
  -- one that does not is itself below x, and freeing its children meets x again
  · have empty := vfsItemFree_emptied lists listed.nodup freed (.inr rfl) isContainer registered
      survives
    cases table : d.registered with
    | nil => simp [table] at member
    | cons root rest =>
        have isRoot : d.vfsRoot = some root := by simp [Dlna.vfsRoot, table]
        have kept : root ∈ after.registered := by
          refine (exactly.registered root).mpr ⟨by simp [table], ?_⟩
          rintro ⟨n, reaches⟩
          rw [ancestor_of_own_parent (listed.root root isRoot)] at reaches
          rw [isRoot] at notRoot
          exact notRoot reaches.symm
        simp [empty] at kept

theorem removal_freed {call : Call} (selected : Selects d x call) (taken : CallStep d call after) :
    vfsItemFree (d.registered.length + 1) d x = .ok after := by
  obtain ⟨id, executed⟩ := taken
  cases call with
  | removeItemById id' =>
      obtain ⟨removed, freed, same⟩ := Outcome.map_ok.mp executed
      obtain rfl := (Prod.mk.inj same).2
      rwa [dlnaVfsRemoveItemById, show vfsGetItemById d id' = some x from selected] at freed
  | removeItemByTitle name =>
      obtain ⟨removed, freed, same⟩ := Outcome.map_ok.mp executed
      obtain rfl := (Prod.mk.inj same).2
      rwa [dlnaVfsRemoveItemByTitle, show vfsGetItemByName d name = some x from selected] at freed
  | addContainer _ _ _ => exact selected.elim
  | addResource _ _ _ _ => exact selected.elim
  | setCapabilityMode _ => exact selected.elim

theorem removal_never_exact (listed : ListedOnce d) (member : x ∈ d.registered)
    (notRoot : some x ≠ d.vfsRoot) {call : Call} (selected : Selects d x call)
    (taken : CallStep d call after) : ¬ RemovesExactly d x after :=
  vfsItemFree_not_exact listed member notRoot (removal_freed selected taken)

def oneContainer : Dlna :=
  { dlnaStart (fun _ => none) none with
    heap :=
      [{ rootItem with body := .container ⟨[1], 1, 1⟩ },
        { containerItem 1 "a".toList with parent := some 0 }]
    registered := [0, 1]
    vfsItems := 1 }

def oneContainerRemoved : Dlna :=
  { oneContainer with
    heap :=
      [{ rootItem with body := .container ⟨[1], 1, 1⟩ },
        { containerItem 1 "a".toList with parent := none, freed := true }]
    registered := [0]
    vfsItems := 0 }

theorem oneContainer_listedOnce : ListedOnce oneContainer := by
  have tree := dlnaStart_vfsTree (fun _ => none) none
  have taken : AdditionStep (dlnaStart (fun _ => none) none) (.addContainer "a".toList 1 0)
      oneContainer := ⟨rfl, 1, rfl⟩
  refine (tree.step taken ?_).listedOnce
  rw [adoptsItself_iff tree.nonempty,
    show vfsContainerId (dlnaStart (fun _ => none) none) 1 = .ok 1 from rfl]
  simp

theorem oneContainer_not_exact :
    ¬ ∀ after, CallStep oneContainer (.removeItemById 1) after →
      RemovesExactly oneContainer 1 after := by
  intro exactly
  have removes := exactly oneContainerRemoved ⟨0, rfl⟩
  have unlisted := removes.unlisted 0 (by simp [oneContainerRemoved]) ⟨[1], 1, 1⟩ rfl 1 (by simp)
  exact unlisted ⟨0, rfl⟩

theorem removal_never_exact_applies :
    ListedOnce oneContainer ∧ ¬ RemovesExactly oneContainer 1 oneContainerRemoved := by
  have taken : CallStep oneContainer (.removeItemById 1) oneContainerRemoved := ⟨0, rfl⟩
  have selected : Selects oneContainer 1 (.removeItemById 1) := rfl
  exact ⟨oneContainer_listedOnce, removal_never_exact oneContainer_listedOnce
    (by simp [oneContainer]) (by simp [Dlna.vfsRoot, oneContainer]) selected taken⟩

end Libdlna
