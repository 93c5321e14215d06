import Libdlna.Model.Store

set_option autoImplicit false

/-!
# Rows that are written and read

The row of an item survives the store, but for what its columns are too narrow for or too wide.
-/

namespace Libdlna

open CString

variable {getMediaProfile : Text → Option DlnaProfile} {db : Store} {id : UInt32} {item : DlnaItem}

/-- The text fills its field without being padded, or is as blank as the padding. -/
def FillsField (width : Nat) (s : Text) : Prop :=
  s.length < width ∧ width ≤ escapedLength s ∨ s = List.replicate (width - 1) ' '

instance (width : Nat) (s : Text) : Decidable (FillsField width s) :=
  inferInstanceAs (Decidable (_ ∨ _))

theorem eq_replicate_of_take {A : Type} {a : A} {s : List A}
    (same : (a :: s).take s.length = s) : s = List.replicate s.length a := by
  induction s with
  | nil => rfl
  | cons b rest ih =>
      rw [List.length_cons, List.take_succ_cons] at same
      obtain ⟨rfl, shifted⟩ := List.cons.inj same
      rw [List.length_cons, List.replicate_succ, ← ih shifted]

theorem count_quote_replicate (n : Nat) : (List.replicate n ' ').count quote = 0 := by
  rw [List.count_replicate, if_neg (by decide)]

theorem take_padField_iff {width : Nat} (positive : 0 < width) (s : Text) :
    (padField width s).take (width - 1) = s ↔ FillsField width s := by
  unfold padField FillsField
  by_cases fills : width ≤ escapedLength s
  · rw [Nat.sub_eq_zero_of_le fills, List.replicate_zero, List.nil_append, List.take_eq_self_iff]
    constructor
    · exact fun short => .inl ⟨by omega, fills⟩
    · rintro (⟨short, -⟩ | blank)
      · omega
      · rw [blank, List.length_replicate]
  · have escaped : escapedLength s = s.length + s.count quote := rfl
    obtain ⟨pad, isPad⟩ : ∃ pad, width - escapedLength s = pad + 1 :=
      ⟨width - escapedLength s - 1, by omega⟩
    constructor
    · intro same
      right
      -- a padded text keeps its length only if nothing but the last blank is cut off
      have lengths := congrArg List.length same
      rw [List.length_take, List.length_append, List.length_replicate] at lengths
      have full : s.length = width - 1 := by omega
      obtain rfl : pad = 0 := by omega
      rw [isPad, ← full] at same
      rw [← full]
      exact eq_replicate_of_take same
    · rintro (⟨-, wide⟩ | blank)
      · exact absurd wide fills
      · have noQuote : s.count quote = 0 := by rw [blank, count_quote_replicate]
        have length : s.length = width - 1 := by rw [blank, List.length_replicate]
        have one : width - escapedLength s = 1 := by omega
        rw [one, blank, List.replicate_append_replicate, List.take_replicate]
        congr 1
        omega

theorem readProperties_iff (properties : DlnaProperties) :
    readProperties (propertiesRow properties) = properties ↔
      FillsField dlnaPropertiesDurationMaxSize properties.duration ∧
        FillsField dlnaPropertiesResolutionMaxSize properties.resolution := by
  have durationSize : 0 < dlnaPropertiesDurationMaxSize := by decide
  have resolutionSize : 0 < dlnaPropertiesResolutionMaxSize := by decide
  rw [← take_padField_iff durationSize, ← take_padField_iff resolutionSize]
  obtain ⟨duration, bitrate, sampleFrequency, bps, channels, resolution⟩ := properties
  simp [readProperties, propertiesRow, toUInt32_toInt32, toUInt32_ofNat]

/-- The same texts, a missing one counting as empty, and the same track. -/
def SameMetadata : Option DlnaMetadata → Option DlnaMetadata → Prop
  | none, none => True
  | some one, some other =>
      one.title.getD [] = other.title.getD [] ∧ one.author.getD [] = other.author.getD [] ∧
        one.comment.getD [] = other.comment.getD [] ∧ one.album.getD [] = other.album.getD [] ∧
        one.track = other.track ∧ one.genre.getD [] = other.genre.getD []
  | _, _ => False

theorem readMetadata_same (metadata : DlnaMetadata) :
    SameMetadata (some metadata) (some (readMetadata (metadataRow metadata))) := by
  simp [SameMetadata, readMetadata, metadataRow, toUInt32_toInt32, toUInt32_ofNat]

structure Fresh (db : Store) (id : UInt32) : Prop where
  items : db.items id.toNat = none
  metadata : db.metadata id.toNat = none
  properties : db.properties id.toNat = none

structure SameStored (item got : DlnaItem) : Prop where
  filename : got.filename = item.filename
  filesize : got.filesize = item.filesize
  metadata : SameMetadata item.metadata got.metadata
  properties : got.properties = item.properties

/-- Writing reads no absent record; and once it reports success, the item is read back. -/
def RoundTrips (getMediaProfile : Text → Option DlnaProfile) (db : Store) (id : UInt32)
    (item : DlnaItem) : Prop :=
  ∃ after code, dmsDbAdd db id (some item) = .ok (after, code) ∧
    (code = 0 → ∃ got, dmsDbGet getMediaProfile after id = some got ∧ SameStored item got)

/-- The size fits its column, and the records are both there or both absent. -/
def Storable (item : DlnaItem) : Prop :=
  0 ≤ item.filesize ∧ item.filesize < 2 ^ 32 ∧
    match item.metadata, item.properties with
    | none, none => True
    | some _, some properties =>
        FillsField dlnaPropertiesDurationMaxSize properties.duration ∧
          FillsField dlnaPropertiesResolutionMaxSize properties.resolution
    | _, _ => False

theorem filesize_read_iff (z : Int) : ((toUInt32 z).toNat : Int) = z ↔ 0 ≤ z ∧ z < 2 ^ 32 := by
  rw [toUInt32_toNat]
  omega

theorem selectKey_small (small : id.toNat < 2 ^ 31) : selectKey id = id.toNat :=
  toInt32_small (by omega) (by omega)

def itemRow (item : DlnaItem) (profile : DlnaProfile) : ItemRow where
  filename := item.filename
  filesize := toUInt32 item.filesize
  profileid := (profile.id.map Subtype.val).getD "(NULL)".toList

theorem insertRow_fresh {R : Type} {table : Int → Option R} {uid : Int} (fresh : table uid = none)
    (row : R) : insertRow table uid row = some (Function.update table uid (some row)) := by
  rw [insertRow, fresh]

theorem dmsDbAdd_items {profile : DlnaProfile} {stored : Store}
    (profiled : item.profile = some profile)
    (written : dmsDbAdd db id (some item) = .ok (stored, 0)) :
    db.items id.toNat = none ∧
      stored.items = Function.update db.items id.toNat (some (itemRow item profile)) := by
  unfold dmsDbAdd at written
  dsimp only at written
  split at written
  · cases written
  · rename_i other isProfile
    obtain rfl := Option.some.inj (profiled.symm.trans isProfile)
    split at written
    · exact absurd (Prod.mk.inj (Except.ok.inj written)).2 (by decide)
    · rename_i items inserted
      -- the other tables leave the items as they are
      have itemsKept : stored.items = items := by
        repeat' split at written
        all_goals cases written <;> rfl
      unfold insertRow at inserted
      split at inserted
      · cases inserted
      · rename_i absent
        cases inserted
        exact ⟨absent, itemsKept⟩

theorem dmsDbAdd_row {profile : DlnaProfile} {stored : Store}
    (profiled : item.profile = some profile)
    (written : dmsDbAdd db id (some item) = .ok (stored, 0)) :
    stored.items id.toNat = some (itemRow item profile) := by
  rw [(dmsDbAdd_items profiled written).2]
  exact Function.update_self ..

section Writing

variable {profile : DlnaProfile} (fresh : Fresh db id) (profiled : item.profile = some profile)
include fresh profiled

theorem dmsDbAdd_bare (absent : item.metadata = none) :
    dmsDbAdd db id (some item) =
      .ok ({ db with items := Function.update db.items id.toNat (some (itemRow item profile)) },
        0) := by
  simp only [dmsDbAdd, profiled, insertRow_fresh fresh.items, absent]
  rfl

theorem dmsDbAdd_full {metadata : DlnaMetadata} {properties : DlnaProperties}
    (hasMetadata : item.metadata = some metadata) (hasProperties : item.properties = some properties) :
    dmsDbAdd db id (some item) =
      .ok ({ items := Function.update db.items id.toNat (some (itemRow item profile))
             metadata := Function.update db.metadata id.toNat (some (metadataRow metadata))
             properties := Function.update db.properties id.toNat
               (some (propertiesRow properties)) }, 0) := by
  simp only [dmsDbAdd, profiled, insertRow_fresh fresh.items, hasMetadata,
    insertRow_fresh fresh.metadata, hasProperties, insertRow_fresh fresh.properties]
  rfl

theorem dmsDbAdd_fault {metadata : DlnaMetadata} (hasMetadata : item.metadata = some metadata)
    (absent : item.properties = none) : dmsDbAdd db id (some item) = .error .nullDeref := by
  simp only [dmsDbAdd, profiled, insertRow_fresh fresh.items, hasMetadata,
    insertRow_fresh fresh.metadata, absent]

end Writing

theorem dlnaItemNew_profile {filename : Text} {probe : Probe}
    (made : dlnaItemNew filename probe = some item) : ∃ profile, item.profile = some profile := by
  unfold dlnaItemNew at made
  split at made
  · cases made
  · obtain rfl := Option.some.inj made
    exact ⟨_, rfl⟩

def readItem (getMediaProfile : Text → Option DlnaProfile) (db : Store) (id : UInt32)
    (row : ItemRow) : DlnaItem where
  filename := row.filename
  filesize := row.filesize.toNat
  properties := (db.properties id.toNat).map readProperties
  metadata := (db.metadata id.toNat).map readMetadata
  profile := getMediaProfile row.profileid
  profileCookie := false

theorem dmsDbGet_row {row : ItemRow} (small : id.toNat < 2 ^ 31)
    (found : db.items id.toNat = some row) :
    dmsDbGet getMediaProfile db id = some (readItem getMediaProfile db id row) := by
  rw [dmsDbGet, selectKey_small small, found]
  rfl

theorem roundTrips_of_written {after : Store} {row : ItemRow} (small : id.toNat < 2 ^ 31)
    (written : dmsDbAdd db id (some item) = .ok (after, 0))
    (found : after.items id.toNat = some row) :
    RoundTrips getMediaProfile db id item ↔
      SameStored item (readItem getMediaProfile after id row) := by
  have read : dmsDbGet getMediaProfile after id = some (readItem getMediaProfile after id row) :=
    dmsDbGet_row small found
  constructor
  · rintro ⟨after', code, ran, reads⟩
    obtain ⟨rfl, rfl⟩ := Prod.mk.inj (Except.ok.inj (written.symm.trans ran))
    obtain ⟨got, isGot, same⟩ := reads rfl
    rw [read] at isGot
    exact Option.some.inj isGot ▸ same
  · exact fun same => ⟨after, 0, written, fun _ => ⟨_, read, same⟩⟩

theorem sameStored_iff {after : Store} {profile : DlnaProfile} :
    SameStored item (readItem getMediaProfile after id (itemRow item profile)) ↔
      (0 ≤ item.filesize ∧ item.filesize < 2 ^ 32) ∧
        SameMetadata item.metadata ((after.metadata id.toNat).map readMetadata) ∧
          (after.properties id.toNat).map readProperties = item.properties := by
  rw [← filesize_read_iff]
  constructor
  · exact fun same => ⟨same.filesize, same.metadata, same.properties⟩
  · exact fun ⟨filesize, metadata, properties⟩ => ⟨rfl, filesize, metadata, properties⟩

theorem roundTrips_full_iff {profile : DlnaProfile} {metadata : DlnaMetadata}
    {properties : DlnaProperties} (small : id.toNat < 2 ^ 31) (fresh : Fresh db id)
    (profiled : item.profile = some profile) (isMetadata : item.metadata = some metadata)
    (isProperties : item.properties = some properties) :
    RoundTrips getMediaProfile db id item ↔ (0 ≤ item.filesize ∧ item.filesize < 2 ^ 32) ∧
      FillsField dlnaPropertiesDurationMaxSize properties.duration ∧
        FillsField dlnaPropertiesResolutionMaxSize properties.resolution := by
  have written := dmsDbAdd_full fresh profiled isMetadata isProperties
  rw [roundTrips_of_written small written (Function.update_self ..), sameStored_iff, isMetadata,
    isProperties]
  dsimp only
  rw [Function.update_self, Function.update_self, Option.map_some, Option.map_some,
    Option.some.injEq, readProperties_iff]
  exact and_congr_right fun _ => and_iff_right (readMetadata_same metadata)

theorem roundTrips_iff {filename : Text} {probe : Probe} (small : id.toNat < 2 ^ 31)
    (fresh : Fresh db id) (made : dlnaItemNew filename probe = some item) :
    RoundTrips getMediaProfile db id item ↔ Storable item := by
  obtain ⟨profile, profiled⟩ := dlnaItemNew_profile made
  unfold Storable
  cases isMetadata : item.metadata with
  | none =>
      have written := dmsDbAdd_bare fresh profiled isMetadata
      rw [roundTrips_of_written small written (Function.update_self ..), sameStored_iff, isMetadata,
        fresh.metadata, fresh.properties, and_assoc]
      cases item.properties <;> simp [SameMetadata]
  | some metadata =>
      cases isProperties : item.properties with
      | none =>
          have fault := dmsDbAdd_fault fresh profiled isMetadata isProperties
          refine iff_of_false ?_ (fun storable => storable.2.2)
          rintro ⟨after, code, ran, -⟩
          rw [fault] at ran
          cases ran
      | some properties =>
          rw [roundTrips_full_iff small fresh profiled isMetadata isProperties, and_assoc]

def emptyStore : Store where
  items := fun _ => none
  metadata := fun _ => none
  properties := fun _ => none

theorem emptyStore_fresh (id : UInt32) : Fresh emptyStore id := ⟨rfl, rfl, rfl⟩

def songProperties : DlnaProperties where
  duration := ":03:20.".toList
  bitrate := 24000
  sampleFrequency := 44100
  bps := 0
  channels := 2
  resolution := []

def songMetadata : DlnaMetadata where
  title := some "a".toList
  author := none
  comment := none
  album := none
  track := 1
  genre := none

def songProbe : Probe :=
  { mp3Probe with properties := some songProperties, metadata := some songMetadata }

/-- The duration comes back behind blanks, and without its last character. -/
theorem song_lost :
    ∃ item profile, dlnaItemNew "/a.mp3".toList songProbe = some item ∧
      item.profile = some profile ∧ profile.id ≠ none ∧ Fresh emptyStore 1 ∧
        ¬ RoundTrips (fun _ => none) emptyStore 1 item := by
  obtain ⟨item, made, profiled, isMetadata, isProperties⟩ : ∃ item,
      dlnaItemNew "/a.mp3".toList songProbe = some item ∧ item.profile = some mp3Profile ∧
        item.metadata = some songMetadata ∧ item.properties = some songProperties :=
    ⟨_, rfl, rfl, rfl, rfl⟩
  have fresh := emptyStore_fresh 1
  refine ⟨item, mp3Profile, made, profiled, by simp [mp3Profile], fresh, ?_⟩
  rw [roundTrips_full_iff (by decide) fresh profiled isMetadata isProperties]
  exact fun fits => absurd fits.2.1 (by decide)

theorem untagged_roundTrips :
    ∃ item, dlnaItemNew "/a.mp3".toList mp3Probe = some item ∧
      RoundTrips (fun _ => none) emptyStore 1 item := by
  obtain ⟨item, made, isItem⟩ : ∃ item, dlnaItemNew "/a.mp3".toList mp3Probe = some item ∧
      Storable item := ⟨_, rfl, by decide, by decide, trivial⟩
  exact ⟨item, made, (roundTrips_iff (by decide) (emptyStore_fresh 1) made).mpr isItem⟩

end Libdlna
