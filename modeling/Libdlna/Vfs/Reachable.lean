import Libdlna.Vfs.Identity
import Libdlna.Vfs.Removal

set_option autoImplicit false

/-!
# What every call keeps

Removals leave stale entries in children lists, and containers can be their own parents. What holds
of the table after any calls is less than `VfsTree`.
-/

namespace Libdlna

open CString Dlna Runs

variable {d after : Dlna} {item : VfsItem} {parent r : Ref} {fuel : Nat}

def Live (d : Dlna) : Prop :=
  ∀ r ∈ d.registered, ∃ item, d.heap[r]? = some item ∧ item.freed = false

theorem Live.placed (live : Live d) (allocated : Allocated d)
    (placed : Placed d item parent after) (fresh : item.freed = false) : Live after := by
  intro r member
  rw [placed.registered] at member
  rcases List.mem_append.mp member with old | new
  · by_cases isParent : r = parent
    · obtain ⟨holder, box, updateID, ⟨-, isLive, -⟩, -, now⟩ := placed.listed
      rw [isParent, now]
      exact ⟨_, rfl, isLive⟩
    · rw [placed.others r (allocated.registered r old).ne isParent]
      exact live r old
  · obtain rfl := List.mem_singleton.mp new
    exact ⟨_, placed.added, fresh⟩

theorem Live.selfParented (live : Live d) (allocated : Allocated d)
    (adopted : SelfParented d item after) (fresh : item.freed = false) : Live after := by
  intro r member
  rw [adopted.registered] at member
  rcases List.mem_append.mp member with old | new
  · rw [adopted.others r (allocated.registered r old).ne]
    exact live r old
  · obtain rfl := List.mem_singleton.mp new
    exact ⟨_, adopted.added, fresh⟩

theorem Live.rejected (live : Live d) (allocated : Allocated d) (rejected : Rejected d after) :
    Live after := by
  intro r member
  rw [rejected.registered] at member
  rw [rejected.others r (allocated.registered r member).ne]
  exact live r member

/-- What freeing items does to the table: what a freed container lists is freed with it. -/
structure Freed (d after : Dlna) : Prop where
  sublist : after.registered.Sublist d.registered
  containerOf : after.containerOf = d.containerOf
  length : after.heap.length = d.heap.length
  intact : d.registered.Nodup → ∀ q ∈ after.registered, after.heap[q]? = d.heap[q]?
  emptied : d.registered.Nodup → ∀ p ∈ d.registered, p ∉ after.registered →
    ∀ box, d.containerOf p = some box → ∀ c ∈ box.children, c ∉ after.registered

theorem Freed.refl (d : Dlna) : Freed d d :=
  ⟨List.Sublist.refl _, rfl, rfl, fun _ _ _ => rfl, fun _ _ member gone => absurd member gone⟩

theorem Freed.trans (d between after : Dlna) (first : Freed d between)
    (second : Freed between after) : Freed d after where
  sublist := second.sublist.trans first.sublist
  containerOf := second.containerOf.trans first.containerOf
  length := second.length.trans first.length
  intact := by
    intro nodup q member
    rw [second.intact (nodup.sublist first.sublist) q member]
    exact first.intact nodup q (second.sublist.subset member)
  emptied := by
    intro nodup p member gone box isContainer c listed
    by_cases kept : p ∈ between.registered
    · refine second.emptied (nodup.sublist first.sublist) p kept gone box ?_ c listed
      rwa [first.containerOf]
    · exact fun inside => first.emptied nodup p member kept box isContainer c listed
        (second.sublist.subset inside)

theorem foldlM_freed {children : List Ref}
    (each : ∀ s t c, vfsItemFree fuel s c = .ok t →
      Freed s t ∧ (s.registered.Nodup → c ∉ t.registered))
    (emptying : children.foldlM (vfsItemFree fuel) d = .ok after) :
    Freed d after ∧ (d.registered.Nodup → ∀ c ∈ children, c ∉ after.registered) := by
  induction children generalizing d with
  | nil =>
      simp only [List.foldlM_nil, pure, Except.pure, Except.ok.injEq] at emptying
      exact ⟨emptying ▸ Freed.refl d, by simp⟩
  | cons c rest ih =>
      rw [List.foldlM_cons] at emptying
      obtain ⟨between, free, emptying⟩ := Outcome.bind_ok.mp emptying
      obtain ⟨first, gone⟩ := each d between c free
      obtain ⟨others, goneToo⟩ := ih emptying
      refine ⟨first.trans d between after others, fun nodup => ?_⟩
      intro x listed
      rcases List.mem_cons.mp listed with rfl | later
      · exact fun inside => gone nodup (others.sublist.subset inside)
      · exact goneToo (nodup.sublist first.sublist) x later

theorem vfsItemFree_freed (freed : vfsItemFree fuel d r = .ok after) :
    Freed d after ∧ (d.registered.Nodup → r ∉ after.registered) := by
  induction fuel generalizing d r after with
  | zero => simp [vfsItemFree] at freed
  | succ fuel ih =>
      have containers := vfsItemFree_containerOf freed
      rcases vfsItemFree_ok freed with ⟨empty, rfl⟩ | ⟨item, emptied, found, member, children, rfl⟩
      · exact ⟨Freed.refl after, fun _ => by simp [empty]⟩
      · obtain ⟨below, gone⟩ := foldlM_freed (fun s t c step => ih step) children
        have smaller := below.sublist
        refine ⟨⟨smaller.trans List.erase_sublist, containers, ?_, ?_, ?_⟩, ?_⟩
        · simpa using below.length
        · intro nodup q inside
          have other : q ≠ r := fun same =>
            nodup.not_mem_erase (same ▸ smaller.subset inside)
          exact (modifyItem_other _ other).trans (below.intact (nodup.erase r) q inside)
        · intro nodup p before missing box isContainer c listed
          by_cases isFreed : p = r
          · have sameList : item.body.children = box.children := by
              simp only [Dlna.containerOf, isFreed, found, Option.bind_some] at isContainer
              cases body : item.body <;> simp_all [VfsBody.box?, VfsBody.children]
            exact gone (nodup.erase r) c (sameList ▸ listed)
          · exact below.emptied (nodup.erase r) p ((List.mem_erase_of_ne isFreed).mpr before)
              missing box isContainer c listed
        · exact fun nodup inside => nodup.not_mem_erase (smaller.subset inside)

def Unlisted (d : Dlna) (q : Ref) : Prop :=
  ∀ p box, d.containerOf p = some box → q ∉ box.children

def Spares (q : Ref) (d after : Dlna) : Prop :=
  after.containerOf = d.containerOf ∧ (Unlisted d q → q ∈ d.registered → q ∈ after.registered)

theorem Spares.trans {q : Ref} (d between after : Dlna) (first : Spares q d between)
    (second : Spares q between after) : Spares q d after := by
  refine ⟨second.1.trans first.1, fun unlisted member => ?_⟩
  have still : Unlisted between q := by rwa [Unlisted, first.1]
  exact second.2 still (first.2 unlisted member)

theorem vfsItemFree_spares {q : Ref} (freed : vfsItemFree fuel d r = .ok after) (other : q ≠ r) :
    Spares q d after := by
  induction fuel generalizing d r after with
  | zero => simp [vfsItemFree] at freed
  | succ fuel ih =>
      refine ⟨vfsItemFree_containerOf freed, fun unlisted member => ?_⟩
      rcases vfsItemFree_ok freed with ⟨-, rfl⟩ | ⟨item, emptied, found, -, children, rfl⟩
      · exact member
      · have notListed : q ∉ item.body.children := by
          cases body : item.body with
          | resource content cnv => simp [VfsBody.children]
          | container box =>
              exact unlisted r box (by simp [Dlna.containerOf, found, body, VfsBody.box?])
        have emptying := Outcome.foldlM_invariant (Spares q) (fun s => ⟨rfl, fun _ inside => inside⟩)
          Spares.trans (fun s t c listed step => ih step fun same => notListed (same ▸ listed))
          children
        exact emptying.2 unlisted ((List.mem_erase_of_ne other).mpr member)

structure VfsTable (d : Dlna) : Prop where
  allocated : Allocated d
  ordered : d.registered.Pairwise (· < ·)
  live : Live d
  -- a registered item is listed only by registered containers that are older
  listed : ∀ p box, d.containerOf p = some box → ∀ c ∈ box.children, c ∈ d.registered →
    p ∈ d.registered ∧ p < c
  -- every resource is in a list
  held : ∀ r ∈ d.registered, d.containerOf r = none → ∃ p box, p ∈ d.registered ∧
    d.containerOf p = some box ∧ r ∈ box.children

namespace VfsTable

variable (table : VfsTable d)
include table

theorem nodup : d.registered.Nodup := table.ordered.imp fun less => Nat.ne_of_lt less

theorem root_first {root : Ref} (isRoot : d.vfsRoot = some root) (member : r ∈ d.registered) :
    root ≤ r := by
  have ordered := table.ordered
  obtain ⟨rest, entries⟩ : ∃ rest, d.registered = root :: rest := List.head?_eq_some_iff.mp isRoot
  rw [entries] at member ordered
  rcases List.mem_cons.mp member with rfl | later
  · exact le_rfl
  · exact ((List.pairwise_cons.mp ordered).1 r later).le

theorem root_unlisted {root : Ref} (isRoot : d.vfsRoot = some root) : Unlisted d root := by
  intro p box isContainer listed
  obtain ⟨registered, older⟩ :=
    table.listed p box isContainer root listed (List.mem_of_mem_head? isRoot)
  exact absurd older (Nat.not_lt.mpr (table.root_first isRoot registered))

theorem root_container {root : Ref} (isRoot : d.vfsRoot = some root) :
    ∃ item box, IsContainer d root item box := by
  have member := List.mem_of_mem_head? isRoot
  obtain ⟨item, found, isLive⟩ := table.live root member
  cases body : item.body with
  | container box => exact ⟨item, box, found, isLive, body⟩
  | resource content cnv =>
      have isResource : d.containerOf root = none := by
        simp [Dlna.containerOf, found, body, VfsBody.box?]
      obtain ⟨p, box, -, isContainer, listed⟩ := table.held root member isResource
      exact absurd listed (table.root_unlisted isRoot p box isContainer)

theorem removed (freed : Freed d after) : VfsTable after where
  allocated := by
    refine ⟨fun r member => ?_, fun r box isContainer => ?_⟩
    · rw [freed.length]
      exact table.allocated.registered r (freed.sublist.subset member)
    · rw [freed.length]
      rw [freed.containerOf] at isContainer
      exact table.allocated.children r box isContainer
  ordered := table.ordered.sublist freed.sublist
  live := by
    intro r member
    rw [freed.intact table.nodup r member]
    exact table.live r (freed.sublist.subset member)
  listed := by
    intro p box isContainer c listed member
    rw [freed.containerOf] at isContainer
    obtain ⟨registered, older⟩ :=
      table.listed p box isContainer c listed (freed.sublist.subset member)
    refine ⟨?_, older⟩
    by_contra gone
    exact freed.emptied table.nodup p registered gone box isContainer c listed member
  held := by
    intro r member isResource
    rw [freed.containerOf] at isResource ⊢
    obtain ⟨p, box, registered, isContainer, listed⟩ :=
      table.held r (freed.sublist.subset member) isResource
    refine ⟨p, box, ?_, isContainer, listed⟩
    by_contra gone
    exact freed.emptied table.nodup p registered gone box isContainer r listed member

theorem extended_ordered (registered : after.registered = d.registered ++ [d.heap.length]) :
    after.registered.Pairwise (· < ·) := by
  rw [registered, List.pairwise_append]
  refine ⟨table.ordered, List.pairwise_singleton _ _, ?_⟩
  intro r old c new
  rw [List.mem_singleton.mp new]
  exact table.allocated.registered r old

theorem extended_listed (registered : after.registered = d.registered ++ [d.heap.length])
    {p c : Ref} {box : Container} (before : d.containerOf p = some box) (listed : c ∈ box.children)
    (inside : c ∈ after.registered) : p ∈ after.registered ∧ p < c := by
  rw [registered] at inside ⊢
  have allocated := table.allocated.children p box before c listed
  have old := (List.mem_append.mp inside).resolve_right fun new =>
    allocated.ne (List.mem_singleton.mp new)
  obtain ⟨inTable, less⟩ := table.listed p box before c listed old
  exact ⟨List.mem_append_left _ inTable, less⟩

theorem placed (placed : Placed d item parent after) (member : parent ∈ d.registered)
    (fresh : item.freed = false)
    (empty : ∀ box, item.body.box? = some box → box = ⟨[], 0, 0⟩) : VfsTable after where
  allocated := table.allocated.placed placed empty
  ordered := table.extended_ordered placed.registered
  live := table.live.placed table.allocated placed fresh
  listed := by
    intro p box now c listed inside
    rcases placed.containerOf_cases now with ⟨-, isNew⟩ | ⟨rfl, old, updateID, before, -, rfl⟩ |
      ⟨-, before⟩
    · simp [empty box isNew] at listed
    · rcases List.mem_append.mp listed with kept | new
      · exact table.extended_listed placed.registered before kept inside
      · rw [List.mem_singleton.mp new, placed.registered]
        exact ⟨List.mem_append_left _ member, table.allocated.registered p member⟩
    · exact table.extended_listed placed.registered before listed inside
  held := by
    intro r inside isResource
    rw [placed.registered] at inside ⊢
    rcases List.mem_append.mp inside with old | new
    · have wasResource : d.containerOf r = none := by
        by_contra isContainer
        obtain ⟨box, before⟩ := Option.ne_none_iff_exists'.mp isContainer
        obtain ⟨now, there, -⟩ :=
          placed.containerOf_kept (table.allocated.registered r old) before
        simp [there] at isResource
      obtain ⟨p, box, registered, before, listed⟩ := table.held r old wasResource
      obtain ⟨now, there, kept⟩ :=
        placed.containerOf_kept (table.allocated.registered p registered) before
      exact ⟨p, now, List.mem_append_left _ registered, there, kept r listed⟩
    · obtain rfl := List.mem_singleton.mp new
      obtain ⟨now, there, listed⟩ := placed.containerOf_parent
      exact ⟨parent, now, List.mem_append_left _ member, there, listed⟩

theorem selfParented (adopted : SelfParented d item after) (fresh : item.freed = false)
    (empty : item.body.box? = some ⟨[], 0, 0⟩) : VfsTable after where
  allocated := table.allocated.selfParented adopted
    fun box body => Option.some.inj (body.symm.trans empty)
  ordered := table.extended_ordered adopted.registered
  live := table.live.selfParented table.allocated adopted fresh
  listed := by
    intro p box now c listed inside
    by_cases isNew : p = d.heap.length
    · simp only [Dlna.containerOf, isNew, adopted.added, Option.bind_some, empty,
        Option.some.injEq] at now
      simp [← now] at listed
    · have before : d.containerOf p = some box := by
        rwa [Dlna.containerOf, adopted.others p isNew] at now
      exact table.extended_listed adopted.registered before listed inside
  held := by
    intro r inside isResource
    rw [adopted.registered] at inside ⊢
    have kept {q : Ref} (old : q ∈ d.registered) : after.containerOf q = d.containerOf q := by
      simp [Dlna.containerOf, adopted.others q (table.allocated.registered q old).ne]
    rcases List.mem_append.mp inside with old | new
    · rw [kept old] at isResource
      obtain ⟨p, box, registered, before, listed⟩ := table.held r old isResource
      exact ⟨p, box, List.mem_append_left _ registered, by rwa [kept registered], listed⟩
    · obtain rfl := List.mem_singleton.mp new
      simp [Dlna.containerOf, adopted.added, empty] at isResource

theorem rejected (rejected : Rejected d after) : VfsTable after where
  allocated := rejected.allocated table.allocated
  ordered := by rw [rejected.registered]; exact table.ordered
  live := table.live.rejected table.allocated rejected
  listed := by
    intro p box now
    rw [rejected.containerOf] at now
    rw [rejected.registered]
    exact table.listed p box now
  held := by
    intro r
    rw [rejected.registered, rejected.containerOf]
    intro member isResource
    obtain ⟨p, box, registered, before, listed⟩ := table.held r member isResource
    exact ⟨p, box, registered, by rwa [rejected.containerOf], listed⟩

end VfsTable

def Adds (d : Dlna) (call : Call) (containerId : UInt32) : Prop :=
  match call with
  | .addContainer _ _ asked =>
      asked = containerId ∧ d.registered ≠ [] ∧ ¬ AdoptsItself d call
  | .addResource _ _ asked probe =>
      asked = containerId ∧ d.registered ≠ [] ∧ (d.db.isSome ∨ probe.profile.isSome)
  | _ => False

theorem Adds.unique {call : Call} {asked containerId : UInt32} (adds : Adds d call asked)
    (adds' : Adds d call containerId) : asked = containerId := by
  cases call with
  | addContainer name objectId asked' => exact adds.1.symm.trans adds'.1
  | addResource name fullpath asked' probe => exact adds.1.symm.trans adds'.1
  | _ => exact adds.elim

inductive CallOutcome (d : Dlna) (call : Call) (after : Dlna) : Prop where
  | placed (item : VfsItem) (parent : Ref) (containerId : UInt32) (adds : Adds d call containerId)
      (chosen : ParentOf d containerId parent) (placed : Placed d item parent after)
      (grown : Grown d containerId parent after) (fresh : item.freed = false)
      (empty : ∀ box, item.body.box? = some box → box = ⟨[], 0, 0⟩)
  -- a container that asks for its own id, or finds the table empty
  | alone (item : VfsItem) (declines : ∀ containerId, ¬ Adds d call containerId)
      (adopted : SelfParented d item after) (fresh : item.freed = false)
      (empty : item.body.box? = some ⟨[], 0, 0⟩)
  | rejected (declines : ∀ containerId, ¬ Adds d call containerId) (rejected : Rejected d after)
  | idle (declines : ∀ containerId, ¬ Adds d call containerId)
      (registered : after.registered = d.registered) (heap : after.heap = d.heap)
  | removed (x : Ref) (declines : ∀ containerId, ¬ Adds d call containerId)
      (selected : Selects d x call) (freed : Freed d after)
      (spares : ∀ q, q ≠ x → Spares q d after)

variable {call : Call}

theorem removal_selects (isRemoval : call.isAddition = false) (taken : CallStep d call after) :
    ∃ x, Selects d x call := by
  obtain ⟨id, executed⟩ := taken
  cases call with
  | removeItemById id' =>
      obtain ⟨removed, freed, -⟩ := Outcome.map_ok.mp executed
      cases found : vfsGetItemById d id' with
      | none => simp [dlnaVfsRemoveItemById, found, dlnaVfsRemove] at freed
      | some x => exact ⟨x, found⟩
  | removeItemByTitle name =>
      obtain ⟨removed, freed, -⟩ := Outcome.map_ok.mp executed
      cases found : vfsGetItemByName d name with
      | none => simp [dlnaVfsRemoveItemByTitle, found, dlnaVfsRemove] at freed
      | some x => exact ⟨x, found⟩
  | addContainer _ _ _ => simp [Call.isAddition] at isRemoval
  | addResource _ _ _ _ => simp [Call.isAddition] at isRemoval
  | setCapabilityMode _ => simp [Call.isAddition] at isRemoval

theorem removal_declines (isRemoval : call.isAddition = false) (containerId : UInt32) :
    ¬ Adds d call containerId := by
  cases call <;> simp_all [Call.isAddition, Adds]

theorem callStep_outcome (allocated : Allocated d) (taken : CallStep d call after) :
    CallOutcome d call after := by
  cases addition : call.isAddition with
  | false =>
      obtain ⟨x, selected⟩ := removal_selects addition taken
      have free := removal_freed selected taken
      exact .removed x (removal_declines addition) selected (vfsItemFree_freed free).1
        fun q other => vfsItemFree_spares free other
  | true =>
      obtain ⟨granted, executed⟩ := taken
      cases call with
      | addContainer name objectId containerId =>
          obtain ⟨provided, ⟨nonempty, other, parent, chosen, placed, grown⟩ | ⟨alone, adopted⟩⟩ :=
            dlnaVfsAddContainer_cases allocated executed
          · refine .placed _ parent containerId ⟨rfl, nonempty, ?_⟩ chosen placed grown rfl
              fun box body => (Option.some.inj body).symm
            rw [adoptsItself_iff nonempty, provided]
            exact fun same => other (Except.ok.inj same).symm
          · refine .alone _ ?_ adopted rfl rfl
            rintro asked ⟨-, nonempty, sound⟩
            rw [adoptsItself_iff nonempty, provided] at sound
            exact sound (congrArg _ (alone.resolve_left nonempty).symm)
      | addResource name fullpath containerId probe =>
          by_cases empty : d.registered = []
          · obtain ⟨-, rfl⟩ : granted = 0 ∧ after = d := by
              simpa [Call.exec, dlnaVfsAddResource, empty, eq_comm] using executed
            exact .idle (fun asked adds => adds.2.1 empty) rfl rfl
          · obtain ⟨id, item, between, provided, answered, ⟨isNone, -, rejected⟩ |
              ⟨-, isSome, -, parent, chosen, placed, grown⟩⟩ :=
              dlnaVfsAddResource_cases allocated empty executed
            · refine .rejected (fun asked adds => ?_) rejected
              exact (vfsResourceItem_accepted answered).mpr adds.2.2 isNone
            · refine .placed _ parent containerId
                ⟨rfl, empty, (vfsResourceItem_accepted answered).mp isSome⟩ chosen placed grown rfl
                fun box body => ?_
              simp [resourceItem, VfsBody.box?] at body
      | setCapabilityMode mode =>
          simp only [Call.exec, Except.ok.injEq, Prod.mk.injEq] at executed
          obtain ⟨-, rfl⟩ := executed
          exact .idle (fun asked adds => adds) rfl rfl
      | removeItemById id => simp [Call.isAddition] at addition
      | removeItemByTitle name => simp [Call.isAddition] at addition

theorem VfsTable.idle (table : VfsTable d) (registered : after.registered = d.registered)
    (heap : after.heap = d.heap) : VfsTable after := by
  have containers : after.containerOf = d.containerOf := by
    funext q
    simp [Dlna.containerOf, heap]
  refine ⟨⟨?_, ?_⟩, ?_, ?_, ?_, ?_⟩
  · rw [registered, heap]; exact table.allocated.registered
  · rw [containers, heap]; exact table.allocated.children
  · rw [registered]; exact table.ordered
  · rw [Live, registered, heap]; exact table.live
  · rw [containers, registered]; exact table.listed
  · rw [containers, registered]; exact table.held

theorem VfsTable.step (table : VfsTable d) (taken : CallStep d call after) : VfsTable after := by
  cases callStep_outcome table.allocated taken with
  | placed item parent containerId adds chosen placed grown fresh empty =>
      exact table.placed placed chosen.registered fresh empty
  | alone item declines adopted fresh empty => exact table.selfParented adopted fresh empty
  | rejected declines rejected => exact table.rejected rejected
  | idle declines registered heap => exact table.idle registered heap
  | removed x declines selected freed spares => exact table.removed freed

theorem dlnaStart_vfsTable (getMediaProfile : Text → Option DlnaProfile) (db : Option Store) :
    VfsTable (dlnaStart getMediaProfile db) where
  allocated := (dlnaStart_vfsTree getMediaProfile db).allocated
  ordered := by simp [dlnaStart, dlnaInit]
  live := by
    intro r member
    obtain rfl : r = 0 := by simpa [dlnaStart, dlnaInit] using member
    exact ⟨rootItem, rfl, rfl⟩
  listed := by
    intro p box isContainer c listed
    obtain rfl : p = 0 := by
      have allocated := containerOf_allocated isContainer
      simpa [dlnaStart, dlnaInit] using allocated
    obtain rfl := Option.some.inj isContainer
    simp at listed
  held := by
    intro r member isResource
    obtain rfl : r = 0 := by simpa [dlnaStart, dlnaInit] using member
    exact absurd isResource (by simp [Dlna.containerOf, dlnaStart, dlnaInit, rootItem,
      VfsBody.box?])

theorem reaches_vfsTable {getMediaProfile : Text → Option DlnaProfile} {db : Option Store}
    {calls : List Call} (reached : Reaches CallStep (dlnaStart getMediaProfile db) calls d) :
    VfsTable d :=
  reached.invariant (fun _ _ _ table taken => table.step taken)
    (dlnaStart_vfsTable getMediaProfile db)

end Libdlna
