import Libdlna.Store.RoundTrip

set_option autoImplicit false

/-!
# Keys of the store

A row is written under its id, and looked for under what `%d` makes of the id.
-/

namespace Libdlna

open CString

variable {db stored : Store} {id : UInt32} {item : Option DlnaItem} {uid : Int} {row : ItemRow}

def selectedRow (db : Store) (id : UInt32) : Option (Int × ItemRow) :=
  (db.items (selectKey id)).map fun row => (selectKey id, row)

def itemAt (getMediaProfile : Text → Option DlnaProfile) (db : Store) (uid : Int)
    (row : ItemRow) : DlnaItem where
  filename := row.filename
  filesize := row.filesize.toNat
  properties := (db.properties uid).map readProperties
  metadata := (db.metadata uid).map readMetadata
  profile := getMediaProfile row.profileid
  profileCookie := false

theorem dmsDbGet_selected (getMediaProfile : Text → Option DlnaProfile) (db : Store)
    (id : UInt32) :
    dmsDbGet getMediaProfile db id =
      (selectedRow db id).map fun found => itemAt getMediaProfile db found.1 found.2 := by
  unfold dmsDbGet selectedRow
  rw [Option.map_map]
  rfl

theorem selectedRow_eq_some_iff :
    selectedRow db id = some (uid, row) ↔ selectKey id = uid ∧ db.items uid = some row := by
  unfold selectedRow
  rw [Option.map_eq_some_iff]
  constructor
  · rintro ⟨found, isRow, same⟩
    obtain ⟨rfl, rfl⟩ := Prod.mk.inj same
    exact ⟨rfl, isRow⟩
  · rintro ⟨rfl, isRow⟩
    exact ⟨row, isRow, rfl⟩

/-- `%d` and `%u` print the same number only below 2^31. -/
theorem selectKey_eq_iff {other : UInt32} :
    selectKey other = id.toNat ↔ other = id ∧ id.toNat < 2 ^ 31 := by
  have bound := id.toNat_lt
  have bound' := other.toNat_lt
  have key : selectKey other = toInt32 other.toNat := rfl
  rw [key, ← UInt32.toNat_inj]
  unfold toInt32
  omega

structure Inserted (db stored : Store) (uid : Int) (row : ItemRow) : Prop where
  before : db.items uid = none
  after : stored.items uid = some row

theorem dmsDbAdd_inserted (written : dmsDbAdd db id item = .ok (stored, 0)) :
    ∃ row, ∀ uid other, Inserted db stored uid other ↔ uid = id.toNat ∧ other = row := by
  cases item with
  | none => cases written
  | some item =>
      cases profiled : item.profile with
      | none =>
          simp only [dmsDbAdd, profiled] at written
          cases written
      | some profile =>
          obtain ⟨absent, isItems⟩ := dmsDbAdd_items profiled written
          refine ⟨itemRow item profile, fun uid other => ⟨fun inserted => ?_, ?_⟩⟩
          · by_cases isId : uid = id.toNat
            · subst isId
              have isRow := inserted.after
              rw [isItems, Function.update_self] at isRow
              exact ⟨rfl, (Option.some.inj isRow).symm⟩
            · have kept := inserted.after
              rw [isItems, Function.update_of_ne isId, inserted.before] at kept
              cases kept
          · rintro ⟨rfl, rfl⟩
            exact ⟨absent, by rw [isItems, Function.update_self]⟩

def KeysAgree (getMediaProfile : Text → Option DlnaProfile) (db stored : Store) (id : UInt32) :
    Prop :=
  ∃ uid row, Inserted db stored uid row ∧ selectedRow stored id = some (uid, row) ∧
    dmsDbGet getMediaProfile stored id = some (itemAt getMediaProfile stored uid row) ∧
      ∀ other, other ≠ id → selectedRow stored other ≠ some (uid, row)

theorem keys_agree_iff (getMediaProfile : Text → Option DlnaProfile)
    (written : dmsDbAdd db id item = .ok (stored, 0)) :
    KeysAgree getMediaProfile db stored id ↔ id.toNat < 2 ^ 31 := by
  obtain ⟨row, inserted⟩ := dmsDbAdd_inserted written
  have isNew : Inserted db stored id.toNat row := (inserted _ _).mpr ⟨rfl, rfl⟩
  constructor
  · rintro ⟨uid, found, isInserted, selected, -⟩
    obtain ⟨rfl, rfl⟩ := (inserted _ _).mp isInserted
    exact (selectKey_eq_iff.mp (selectedRow_eq_some_iff.mp selected).1).2
  · intro small
    have selected : selectedRow stored id = some ((id.toNat : Int), row) :=
      selectedRow_eq_some_iff.mpr ⟨selectKey_eq_iff.mpr ⟨rfl, small⟩, isNew.after⟩
    refine ⟨id.toNat, row, isNew, selected, ?_, fun other differ found => ?_⟩
    · rw [dmsDbGet_selected, selected]
      rfl
    · exact differ (selectKey_eq_iff.mp (selectedRow_eq_some_iff.mp found).1).1

theorem mp3_added (id : UInt32) :
    ∃ item stored, dlnaItemNew "/a.mp3".toList mp3Probe = some item ∧
      dmsDbAdd emptyStore id (some item) = .ok (stored, 0) :=
  ⟨_, _, rfl, dmsDbAdd_bare (emptyStore_fresh id) rfl rfl⟩

theorem firstKey_agrees :
    ∃ item stored, dmsDbAdd emptyStore 1 (some item) = .ok (stored, 0) ∧
      KeysAgree (fun _ => none) emptyStore stored 1 := by
  obtain ⟨item, stored, -, written⟩ := mp3_added 1
  exact ⟨item, stored, written, (keys_agree_iff _ written).mpr (by decide)⟩

/-- The id 2^31 is written as 2147483648 and looked for as -2147483648. -/
theorem halfwayKey_disagrees :
    ∃ item stored, dlnaItemNew "/a.mp3".toList mp3Probe = some item ∧
      dmsDbAdd emptyStore 2147483648 (some item) = .ok (stored, 0) ∧
        ¬ KeysAgree (fun _ => none) emptyStore stored 2147483648 := by
  obtain ⟨item, stored, made, written⟩ := mp3_added 2147483648
  refine ⟨item, stored, made, written, ?_⟩
  rintro ⟨uid, row, inserted, selected, -⟩
  obtain ⟨_, only⟩ := dmsDbAdd_inserted written
  obtain ⟨rfl, -⟩ := (only _ _).mp inserted
  exact absurd (selectKey_eq_iff.mp (selectedRow_eq_some_iff.mp selected).1).2 (by decide)

end Libdlna
