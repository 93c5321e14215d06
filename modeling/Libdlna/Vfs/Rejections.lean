import Libdlna.Vfs.Reachable

set_option autoImplicit false

/-!
# Rejected resources

`dlna_vfs_add_resource` registers the item before it looks at what the profiler has answered, and
backs out with `vfs_item_free`, which counts down what only `vfs_item_add_child` counts up.
-/

namespace Libdlna

open CString Dlna Runs

variable {d after : Dlna} {name fullpath : Text} {containerId : UInt32} {probe : Probe}

structure IsRejected (d : Dlna) (fullpath : Text) (probe : Probe) : Prop where
  unknown : dlnaItemNew fullpath probe = none
  noRow : ∀ id db, vfsProvideNextId d (some fullpath) = .ok id → d.db = some db →
    dmsDbGet d.getMediaProfile db id = none

structure Untouched (d after : Dlna) : Prop where
  registered : after.registered = d.registered
  items : ∀ r < d.heap.length, after.heap[r]? = d.heap[r]?
  counter : after.vfsItems = d.vfsItems
  store : after.db = d.db

theorem vfsItemFree_rejected_rest {fuel : Nat} {id : UInt32}
    (freed : vfsItemFree fuel (d.hashAdd (resourceItem id name none)).2 d.heap.length = .ok after) :
    after.vfsItems = d.vfsItems - 1 ∧ after.db = d.db := by
  cases fuel with
  | zero => simp [vfsItemFree] at freed
  | succ fuel =>
      rcases vfsItemFree_ok freed with ⟨empty, -⟩ | ⟨item, emptied, found, -, children, rfl⟩
      · simp [hashAdd] at empty
      · rw [hashAdd_new] at found
        obtain rfl := Option.some.inj found
        obtain rfl := Except.ok.inj children
        exact ⟨rfl, rfl⟩

theorem rejection_without_store (allocated : Allocated d) (nonempty : d.registered ≠ [])
    (rejected : IsRejected d fullpath probe) (noStore : d.db = none) {granted : UInt32}
    (executed : dlnaVfsAddResource d name fullpath containerId probe = .ok (granted, after)) :
    granted = 0 ∧ Rejected d after ∧ after.vfsItems = d.vfsItems - 1 ∧ after.db = d.db := by
  rw [dlnaVfsAddResource, if_neg nonempty] at executed
  obtain ⟨id, provided, executed⟩ := Outcome.bind_ok.mp executed
  obtain ⟨⟨item, between⟩, answered, executed⟩ := Outcome.bind_ok.mp executed
  simp only [vfsResourceItem, noStore, rejected.unknown, Except.ok.injEq, Prod.mk.injEq] at answered
  obtain ⟨rfl, rfl⟩ := answered
  dsimp only at executed
  rw [if_pos rfl] at executed
  obtain ⟨freed, free, finished⟩ := Outcome.bind_ok.mp executed
  obtain ⟨rfl, rfl⟩ := Prod.mk.inj (Except.ok.inj finished)
  exact ⟨rfl, vfsItemFree_rejected allocated free, vfsItemFree_rejected_rest free⟩

/-- With a store `dms_db_add` follows the pointer to the absent item. -/
theorem rejection_with_store (nonempty : d.registered ≠ []) (rejected : IsRejected d fullpath probe)
    {db : Store} (isStore : d.db = some db) {granted : UInt32} :
    dlnaVfsAddResource d name fullpath containerId probe ≠ .ok (granted, after) := by
  intro executed
  rw [dlnaVfsAddResource, if_neg nonempty] at executed
  obtain ⟨id, provided, executed⟩ := Outcome.bind_ok.mp executed
  have faulty : vfsResourceItem d id fullpath probe = .error .nullDeref := by
    simp only [vfsResourceItem, isStore, rejected.noRow id db provided isStore, rejected.unknown]
    rfl
  rw [faulty] at executed
  cases executed

def LeavesNoTrace (d : Dlna) (name fullpath : Text) (containerId : UInt32) (probe : Probe) : Prop :=
  ∃ after, dlnaVfsAddResource d name fullpath containerId probe = .ok (0, after) ∧
    Untouched d after

theorem rejection_leaves_no_trace_iff {getMediaProfile : Text → Option DlnaProfile}
    {db : Option Store} {calls : List Call}
    (reached : Reaches CallStep (dlnaStart getMediaProfile db) calls d)
    (rejected : IsRejected d fullpath probe) (name : Text) (containerId : UInt32) :
    LeavesNoTrace d name fullpath containerId probe ↔ d.registered = [] := by
  constructor
  · rintro ⟨after, executed, untouched⟩
    by_contra nonempty
    cases store : d.db with
    | some stored => exact rejection_with_store nonempty rejected store executed
    | none =>
        have allocated := (reaches_vfsTable reached).allocated
        obtain ⟨-, -, lower, -⟩ :=
          rejection_without_store allocated nonempty rejected store executed
        rw [untouched.counter] at lower
        grind
  · intro empty
    exact ⟨d, by rw [dlnaVfsAddResource, if_pos empty], rfl, fun _ _ => rfl, rfl, rfl⟩

theorem textFile_rejected (noStore : d.db = none) : IsRejected d fullpath textProbe :=
  ⟨rfl, fun id db _ isStore => by rw [noStore] at isStore; cases isStore⟩

def rootRemoved : Dlna :=
  { justStarted with
    heap := [{ rootItem with parent := none, freed := true }]
    registered := []
    vfsItems := 0xFFFFFFFF }

theorem rootRemoved_leaves_no_trace :
    LeavesNoTrace rootRemoved "a".toList "/a.txt".toList 0 textProbe := by
  have reached : Reaches CallStep (dlnaStart (fun _ => none) none) [.removeItemById 0]
      rootRemoved := ⟨_, ⟨0, rfl⟩, rfl⟩
  exact (rejection_leaves_no_trace_iff reached (textFile_rejected rfl) _ _).mpr rfl

theorem textFile_leaves_trace :
    Reaches CallStep (dlnaStart (fun _ => none) none) [] justStarted ∧
      IsRejected justStarted "/a.txt".toList textProbe ∧
        ¬ LeavesNoTrace justStarted "a".toList "/a.txt".toList 0 textProbe := by
  refine ⟨rfl, textFile_rejected rfl, ?_⟩
  rintro ⟨after, executed, untouched⟩
  obtain ⟨-, -, lower, -⟩ := rejection_without_store (dlnaStart_vfsTable _ _).allocated
    (List.cons_ne_nil _ _) (textFile_rejected rfl) rfl executed
  rw [untouched.counter] at lower
  cases lower

end Libdlna
