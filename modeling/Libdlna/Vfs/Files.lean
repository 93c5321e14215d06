import Libdlna.Vfs.Additions
import Libdlna.Vfs.Ids

set_option autoImplicit false

/-!
# The file that a resource serves

A new resource takes over the row that the store holds under its id, whatever file it describes.
-/

namespace Libdlna

open CString Dlna Runs

variable {d after : Dlna} {r q : Ref} {id : UInt32} {item : Option DlnaItem} {cnv : Conversion}

theorem vfsBumpUpdateID_resource (bumped : vfsBumpUpdateID d r = .ok after)
    (resource : d.bodyOf q = some (.resource item cnv)) : after.bodyOf q = d.bodyOf q := by
  obtain ⟨holder, box, ⟨found, -, body⟩, rfl⟩ := vfsBumpUpdateID_ok bumped
  have other : q ≠ r := by
    rintro rfl
    simp [bodyOf, found, body] at resource
  simp [bodyOf, modifyItem_other _ other]

theorem vfsItemAddChild_resource {child : Ref} (added : vfsItemAddChild d r child = .ok after)
    (resource : d.bodyOf q = some (.resource item cnv)) : after.bodyOf q = d.bodyOf q := by
  obtain ⟨holder, box, ⟨found, -, body⟩, ⟨-, rfl⟩ | ⟨-, -, rfl⟩⟩ := vfsItemAddChild_ok added
  · rfl
  · have other : q ≠ r := by
      rintro rfl
      simp [bodyOf, found, body] at resource
    exact congrArg (Option.map VfsItem.body) (modifyItem_other _ other)

theorem vfsSetParent_resource {containerId : UInt32} {parent : Ref}
    (set : vfsSetParent d r containerId = .ok (parent, after))
    (resource : d.bodyOf q = some (.resource item cnv)) : after.bodyOf q = d.bodyOf q := by
  rcases vfsSetParent_ok set with ⟨-, bumped, bump, rfl⟩ | ⟨-, -, rfl⟩
  · refine (modifyItem_bodyOf ?_).trans (vfsBumpUpdateID_resource bump resource)
    exact fun _ => rfl
  · exact modifyItem_bodyOf fun _ => rfl

/-- The row that `dms_db_get` would find for the resource describes another file. -/
def Stale (d : Dlna) : Call → Prop
  | .addResource _ fullpath _ _ => d.registered ≠ [] ∧
      ∃ id db row, FileId d fullpath id ∧ d.db = some db ∧
        db.items (selectKey id) = some row ∧ row.filename ≠ fullpath
  | _ => False

def DescribesOwnFile (d : Dlna) (call : Call) (after : Dlna) : Prop :=
  match call with
  | .addResource _ fullpath _ _ => ∀ item cnv,
      after.bodyOf d.heap.length = some (.resource (some item) cnv) → item.filename = fullpath
  | _ => True

theorem vfsResourceItem_filename {fullpath : Text} {probe : Probe} {made : Option DlnaItem}
    (answered : vfsResourceItem d id fullpath probe = .ok (made, after)) :
    (∀ item, made = some item → item.filename = fullpath) ↔
      ¬ ∃ db row, d.db = some db ∧ db.items (selectKey id) = some row ∧ row.filename ≠ fullpath := by
  have own : ∀ item, dlnaItemNew fullpath probe = some item → item.filename = fullpath :=
    fun _ => dlnaItemNew_filename
  unfold vfsResourceItem at answered
  cases store : d.db with
  | none =>
      simp only [store, Except.ok.injEq, Prod.mk.injEq] at answered
      obtain ⟨rfl, -⟩ := answered
      simpa using own
  | some db =>
      simp only [store, dmsDbGet] at answered
      cases found : db.items (selectKey id) with
      | some row =>
          simp only [found, Option.map_some, Except.ok.injEq, Prod.mk.injEq] at answered
          obtain ⟨rfl, -⟩ := answered
          simp [found]
      | none =>
          simp only [found, Option.map_none] at answered
          obtain ⟨⟨changed, status⟩, -, rest⟩ := Outcome.bind_ok.mp answered
          obtain ⟨rfl, -⟩ := Prod.mk.inj (Except.ok.inj rest)
          simpa [found] using own

theorem dlnaVfsAddResource_bodyOf (nonempty : d.registered ≠ []) {name fullpath : Text}
    {containerId granted : UInt32} {probe : Probe}
    (executed : dlnaVfsAddResource d name fullpath containerId probe = .ok (granted, after)) :
    ∃ id made between, FileId d fullpath id ∧
      vfsResourceItem d id fullpath probe = .ok (made, between) ∧
      after.bodyOf d.heap.length = some (.resource made .none) := by
  rw [dlnaVfsAddResource, if_neg nonempty] at executed
  obtain ⟨id, provided, executed⟩ := Outcome.bind_ok.mp executed
  obtain ⟨⟨made, between⟩, answered, executed⟩ := Outcome.bind_ok.mp executed
  obtain ⟨db, rfl⟩ := vfsResourceItem_ok answered
  refine ⟨id, made, _, vfsProvideNextId_some nonempty provided, answered, ?_⟩
  have registered : ({ d with db := db }.hashAdd (resourceItem id name made)).2.bodyOf
      d.heap.length = some (.resource made .none) := by
    simp [bodyOf, hashAdd, resourceItem]
  dsimp only at executed
  by_cases rejected : made = none
  -- freeing the structure leaves the pointers of its union as they are
  · rw [if_pos rejected] at executed
    obtain ⟨freed, free, finished⟩ := Outcome.bind_ok.mp executed
    obtain ⟨-, rfl⟩ := Prod.mk.inj (Except.ok.inj finished)
    rw [vfsItemFree_bodyOf free]
    exact registered
  · rw [if_neg rejected] at executed
    obtain ⟨⟨parent, set⟩, setParent, executed⟩ := Outcome.bind_ok.mp executed
    obtain ⟨listed, addChild, finished⟩ := Outcome.bind_ok.mp executed
    obtain ⟨-, rfl⟩ := Prod.mk.inj (Except.ok.inj finished)
    have kept := vfsSetParent_resource setParent registered
    rw [vfsItemAddChild_resource addChild (kept.trans registered), kept]
    exact registered

theorem addResource_describes_iff {name fullpath : Text} {containerId granted : UInt32}
    {probe : Probe}
    (executed : dlnaVfsAddResource d name fullpath containerId probe = .ok (granted, after)) :
    DescribesOwnFile d (.addResource name fullpath containerId probe) after ↔
      ¬ Stale d (.addResource name fullpath containerId probe) := by
  by_cases empty : d.registered = []
  · rw [dlnaVfsAddResource, if_pos empty] at executed
    obtain ⟨-, rfl⟩ := Prod.mk.inj (Except.ok.inj executed)
    simp [DescribesOwnFile, Stale, empty, bodyOf]
  · obtain ⟨id, made, between, isId, answered, body⟩ := dlnaVfsAddResource_bodyOf empty executed
    have served : DescribesOwnFile d (.addResource name fullpath containerId probe) after ↔
        ∀ item, made = some item → item.filename = fullpath := by
      simp [DescribesOwnFile, body]
    have stale : Stale d (.addResource name fullpath containerId probe) ↔
        ∃ db row, d.db = some db ∧ db.items (selectKey id) = some row ∧
          row.filename ≠ fullpath := by
      constructor
      · rintro ⟨-, other, db, row, isOther, rest⟩
        rw [fileId_unique isOther isId] at rest
        exact ⟨db, row, rest⟩
      · rintro ⟨db, row, rest⟩
        exact ⟨empty, id, db, row, isId, rest⟩
    rw [served, stale, vfsResourceItem_filename answered]

theorem describesOwnFile_iff {call : Call} (taken : CallStep d call after) :
    DescribesOwnFile d call after ↔ ¬ Stale d call := by
  obtain ⟨granted, executed⟩ := taken
  cases call with
  | addResource name fullpath containerId probe => exact addResource_describes_iff executed
  | addContainer _ _ _ => simp [DescribesOwnFile, Stale]
  | removeItemById _ => simp [DescribesOwnFile, Stale]
  | removeItemByTitle _ => simp [DescribesOwnFile, Stale]
  | setCapabilityMode _ => simp [DescribesOwnFile, Stale]

theorem resources_describe_own_files_iff (getMediaProfile : Text → Option DlnaProfile)
    (db : Option Store) (calls : List Call) :
    Along CallStep DescribesOwnFile (dlnaStart getMediaProfile db) calls ↔
      Along CallStep (fun d call _ => ¬ Stale d call) (dlnaStart getMediaProfile db) calls :=
  ⟨Along.mono fun _ _ _ taken => (describesOwnFile_iff taken).mp,
    Along.mono fun _ _ _ taken => (describesOwnFile_iff taken).mpr⟩

/-- An earlier run has stored a file whose path has the same checksum. -/
def earlierRow : ItemRow where
  filename := "/music/a.mp3".toList
  filesize := 1000
  profileid := "MP3".toList

def earlierStore : Store where
  items := fun uid => if uid = 2139371538 then some earlierRow else none
  metadata := fun _ => none
  properties := fun _ => none

theorem colliding_path_serves_other_file :
    ¬ Along CallStep DescribesOwnFile (dlnaStart (fun _ => none) (some earlierStore))
      [.addResource "b".toList "/music/mi2ibe.mp3".toList 0 mp3Probe] := by
  intro run
  have stale : Stale (dlnaStart (fun _ => none) (some earlierStore))
      (.addResource "b".toList "/music/mi2ibe.mp3".toList 0 mp3Probe) := by
    refine ⟨by decide, 2139371538, earlierStore, earlierRow, ?_, rfl, ?_, by decide⟩
    · exact .inl ⟨0, by decide +kernel, by decide +kernel, by simp⟩
    · have key : selectKey 2139371538 = 2139371538 := by decide +kernel
      simp [earlierStore, key]
  have returns : (dlnaVfsAddResource (dlnaStart (fun _ => none) (some earlierStore)) "b".toList
      "/music/mi2ibe.mp3".toList 0 mp3Probe).isOk = true := by
    decide +kernel
  obtain ⟨⟨id, after⟩, executed⟩ := Outcome.of_isOk returns
  have taken : CallStep (dlnaStart (fun _ => none) (some earlierStore))
      (.addResource "b".toList "/music/mi2ibe.mp3".toList 0 mp3Probe) after := ⟨id, executed⟩
  exact (describesOwnFile_iff taken).mp (run after taken).1 stale

end Libdlna
