import Libdlna.Shared.KeyedTable
import Libdlna.Shared.Runs
import Libdlna.Model.Crc32
import Libdlna.Model.Store

set_option autoImplicit false

/-!
# The file system of the controller

`vfs_item_t` structures are never released, so a pointer to one is its index in the list of all
structures ever allocated. `registered` is the hash table headed by `vfs_root`, in insertion order.
-/

namespace Libdlna

open CString

abbrev Ref := Nat

structure Container where
  children : List Ref
  childrenCount : UInt32
  updateID : UInt32
  deriving DecidableEq

inductive VfsBody where
  | resource (item : Option DlnaItem) (cnv : Conversion)
  | container (box : Container)
  deriving DecidableEq

def VfsBody.box? : VfsBody → Option Container
  | .resource _ _ => none
  | .container box => some box

structure VfsItem where
  id : UInt32
  title : Text
  body : VfsBody
  parent : Option Ref
  -- vfs_item_free has released the title and what the union points to
  freed : Bool
  deriving DecidableEq

structure Dlna where
  mode : CapabilityMode
  flags : UInt32
  getMediaProfile : Text → Option DlnaProfile
  db : Option Store
  -- what dlnaGetServerIpAddress answers
  serverIpAddress : Text
  port : UInt16
  heap : List VfsItem
  registered : List Ref
  vfsItems : UInt32

namespace Dlna

variable (d : Dlna)

def vfsRoot : Option Ref := d.registered.head?

def idOf (r : Ref) : Option UInt32 := d.heap[r]?.map VfsItem.id

def parentOf (r : Ref) : Option Ref := d.heap[r]?.bind VfsItem.parent

def containerOf (r : Ref) : Option Container := d.heap[r]?.bind fun item => item.body.box?

def modifyItem (r : Ref) (f : VfsItem → VfsItem) : Dlna := { d with heap := d.heap.modify r f }

def readItem (r : Ref) : Except Fault VfsItem :=
  match d.heap[r]? with
  | none => .error .nullDeref
  | some item => if item.freed then .error .useAfterFree else .ok item

/-- `calloc` and `HASH_ADD_INT`. -/
def hashAdd (item : VfsItem) : Ref × Dlna :=
  (d.heap.length, { d with heap := d.heap ++ [item], registered := d.registered ++ [d.heap.length] })

/-- `HASH_DEL`: unlinking an entry that is not in the table corrupts it. -/
def hashDel (r : Ref) : Except Fault Dlna :=
  if r ∈ d.registered then .ok { d with registered := d.registered.erase r }
  else .error .notInTable

end Dlna

def startingEntryIdXbox360 : UInt32 := 100000
def uintMax : UInt32 := 0xFFFFFFFF

def vfsGetItemById (d : Dlna) (id : UInt32) : Option Ref :=
  KeyedTable.find d.idOf d.registered (some id)

def vfsIsIdRegistered (d : Dlna) (id : UInt32) : Bool := (vfsGetItemById d id).isSome

def startId (mode : CapabilityMode) : UInt32 :=
  if mode = .upnpAvXbox then 1 + startingEntryIdXbox360 else 1

def probeId (fullpath : Option Text) (i : UInt32) : UInt32 :=
  match fullpath with
  | some path => crc32 i path
  | none => i

inductive IdSearch where
  | found (id : UInt32)
  | exhausted
  deriving DecidableEq

def nextIdLoop (d : Dlna) (fullpath : Option Text) : Nat → UInt32 → Option IdSearch
  | 0, _ => none
  | fuel + 1, i =>
      if i < uintMax then
        let i := probeId fullpath i
        if vfsIsIdRegistered d i then nextIdLoop d fullpath fuel (i + 1) else some (.found i)
      else some .exhausted

-- the loop variable has 2^32 values, so a loop that runs longer never ends
def idFuel : Nat := 2 ^ 32 + 1

def vfsProvideNextId (d : Dlna) (fullpath : Option Text) : Except Fault UInt32 :=
  let start := startId d.mode
  if d.registered = [] then .ok (start - 1)
  else
    match nextIdLoop d fullpath idFuel start with
    | none => .error .noReturn
    | some (.found id) => .ok id
    | some .exhausted => .ok (start - 1)

/-- `vfs_item_free`; `fuel` bounds the depth of the recursion. -/
def vfsItemFree : Nat → Dlna → Ref → Except Fault Dlna
  | 0, _, _ => .error .noReturn
  | fuel + 1, d, r =>
      if d.registered = [] then .ok d
      else do
        let item ← d.readItem r
        let d ← d.hashDel r
        let d ← match item.body with
          | .resource none _ => .ok d
          | .resource (some dlnaItem) _ => (dlnaItemFree dlnaItem).map fun _ => d
          | .container box => box.children.foldlM (vfsItemFree fuel) d
        let d := d.modifyItem r fun item => { item with parent := none, freed := true }
        .ok { d with vfsItems := d.vfsItems - 1 }

def vfsGetItemByName (d : Dlna) (name : Text) : Option Ref :=
  d.registered.find? fun r => decide (d.heap[r]?.map VfsItem.title = some name)

-- every call deregisters an item, so this depth is never exceeded
def dlnaVfsRemove (d : Dlna) (item : Option Ref) : Except Fault Dlna :=
  match item with
  | none => .error .nullDeref
  | some r => vfsItemFree (d.registered.length + 1) d r

def dlnaUninit (d : Dlna) : Except Fault Dlna :=
  match d.vfsRoot with
  | none => .ok d
  | some root => vfsItemFree (d.registered.length + 1) d root

def dlnaVfsRemoveItemById (d : Dlna) (id : UInt32) : Except Fault Dlna :=
  dlnaVfsRemove d (vfsGetItemById d id)

def dlnaVfsRemoveItemByTitle (d : Dlna) (name : Text) : Except Fault Dlna :=
  dlnaVfsRemove d (vfsGetItemByName d name)

/-- `list_get_length (children) + 1 + 1` has to fit an `int`. -/
def intMax : Nat := 2 ^ 31 - 1

def vfsItemAddChild (d : Dlna) (r child : Ref) : Except Fault Dlna := do
  let item ← d.readItem r
  match item.body with
  | .resource _ _ => .error .wrongUnionMember
  | .container box =>
      if child ∈ box.children then .ok d
      else if intMax < box.children.length + 2 then .error .signedOverflow
      else
        let box := { box with
          children := box.children ++ [child]
          childrenCount := box.childrenCount + 1 }
        let d := d.modifyItem r fun item => { item with body := .container box }
        .ok { d with vfsItems := d.vfsItems + 1 }

def vfsBumpUpdateID (d : Dlna) (r : Ref) : Except Fault Dlna := do
  let item ← d.readItem r
  match item.body with
  | .resource _ _ => .error .wrongUnionMember
  | .container box =>
      let box := { box with updateID := box.updateID + 1 }
      .ok (d.modifyItem r fun item => { item with body := .container box })

/-- The search for a valid parent, the same in both functions that add an item. -/
def vfsSetParent (d : Dlna) (r : Ref) (containerId : UInt32) : Except Fault (Ref × Dlna) :=
  match vfsGetItemById d containerId with
  | some parent => do
      let d ← vfsBumpUpdateID d parent
      .ok (parent, d.modifyItem r fun item => { item with parent := some parent })
  | none =>
      match d.vfsRoot with
      | some root => .ok (root, d.modifyItem r fun item => { item with parent := some root })
      | none => .error .nullDeref

def vfsResetUpdateID (item : VfsItem) : VfsItem :=
  match item.body with
  | .container box => { item with body := .container { box with updateID := 0 } }
  | .resource _ _ => item

def vfsContainerId (d : Dlna) (objectId : UInt32) : Except Fault UInt32 :=
  if objectId = 0 ∨ vfsIsIdRegistered d objectId then vfsProvideNextId d none else .ok objectId

def dlnaVfsAddContainer (d : Dlna) (name : Text) (objectId containerId : UInt32) :
    Except Fault (UInt32 × Dlna) := do
  let id ← vfsContainerId d objectId
  let (r, d) := d.hashAdd
    { id := id, title := name, body := .container ⟨[], 0, 0⟩, parent := none, freed := false }
  let (parent, d) ← vfsSetParent d r containerId
  let d ← if parent ≠ r then vfsItemAddChild d parent r else .ok d
  .ok (id, d.modifyItem r vfsResetUpdateID)

def vfsResourceItem (d : Dlna) (id : UInt32) (fullpath : Text) (probe : Probe) :
    Except Fault (Option DlnaItem × Dlna) :=
  match d.db with
  | none => .ok (dlnaItemNew fullpath probe, d)
  | some db =>
      match dmsDbGet d.getMediaProfile db id with
      | some item => .ok (some item, d)
      | none => do
          let item := dlnaItemNew fullpath probe
          let (db, _) ← dmsDbAdd db id item
          .ok (item, { d with db := some db })

def dlnaVfsAddResource (d : Dlna) (name fullpath : Text) (containerId : UInt32) (probe : Probe) :
    Except Fault (UInt32 × Dlna) :=
  if d.registered = [] then .ok (0, d)
  else do
    let id ← vfsProvideNextId d (some fullpath)
    let (item, d) ← vfsResourceItem d id fullpath probe
    let (r, d) := d.hashAdd
      { id := id, title := name, body := .resource item .none, parent := none, freed := false }
    if item = none then
      let d ← vfsItemFree (d.registered.length + 1) d r
      .ok (0, d)
    else
      let (parent, d) ← vfsSetParent d r containerId
      let d ← vfsItemAddChild d parent r
      .ok (id, d)

inductive Call where
  | addContainer (name : Text) (objectId containerId : UInt32)
  | addResource (name fullpath : Text) (containerId : UInt32) (probe : Probe)
  | removeItemById (id : UInt32)
  | removeItemByTitle (name : Text)
  | setCapabilityMode (mode : CapabilityMode)

def Call.exec (d : Dlna) : Call → Except Fault (UInt32 × Dlna)
  | .addContainer name objectId containerId => dlnaVfsAddContainer d name objectId containerId
  | .addResource name fullpath containerId probe =>
      dlnaVfsAddResource d name fullpath containerId probe
  | .removeItemById id => (dlnaVfsRemoveItemById d id).map fun d => (0, d)
  | .removeItemByTitle name => (dlnaVfsRemoveItemByTitle d name).map fun d => (0, d)
  | .setCapabilityMode mode => .ok (0, { d with mode := mode })

def CallStep (d : Dlna) (call : Call) (after : Dlna) : Prop := ∃ id, call.exec d = .ok (id, after)

def dlnaBlank (getMediaProfile : Text → Option DlnaProfile) : Dlna where
  mode := .dlna
  flags := 0
  getMediaProfile := getMediaProfile
  db := none
  serverIpAddress := []
  port := 0
  heap := []
  registered := []
  vfsItems := 0

def rootItem : VfsItem where
  id := 0
  title := "root".toList
  body := .container ⟨[], 0, 0⟩
  parent := some 0
  freed := false

def dlnaInit (getMediaProfile : Text → Option DlnaProfile) : Dlna :=
  { dlnaBlank getMediaProfile with heap := [rootItem], registered := [0] }

/-- The controller after `dlna_init` and, with a store, `dms_db_open`. -/
def dlnaStart (getMediaProfile : Text → Option DlnaProfile) (db : Option Store) : Dlna :=
  { dlnaInit getMediaProfile with db := db }

def justStarted : Dlna := dlnaStart (fun _ => none) none

theorem dlnaInit_adds_root (getMediaProfile : Text → Option DlnaProfile) :
    dlnaVfsAddContainer (dlnaBlank getMediaProfile) "root".toList 0 0 =
      .ok (0, dlnaInit getMediaProfile) := by
  simp [dlnaVfsAddContainer, vfsContainerId, vfsProvideNextId, vfsSetParent, vfsGetItemById,
    vfsBumpUpdateID, vfsResetUpdateID, dlnaBlank, dlnaInit, rootItem, startId, Dlna.hashAdd,
    Dlna.readItem, Dlna.modifyItem, Dlna.idOf, KeyedTable.find, Bind.bind, Except.bind]

end Libdlna
