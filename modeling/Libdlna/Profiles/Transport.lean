import Libdlna.Model.Media

set_option autoImplicit false

/-!
# Transport streams

A transport stream has packets of 188 bytes that begin with the sync byte, or packets of 192 bytes
with a timestamp of four bytes before it, which is zero where there is none.
-/

namespace Libdlna

variable {file : FileBytes} {length i : Nat}

/-- Two sync bytes as far apart as packets of `length` bytes, the first of them at `i`. -/
def SyncedAt (file : FileBytes) (length i : Nat) : Prop :=
  file.contents[i]? = some mpegTsSyncCode ∧ file.contents[i + length]? = some mpegTsSyncCode

instance (file : FileBytes) (length i : Nat) : Decidable (SyncedAt file length i) :=
  inferInstanceAs (Decidable (_ ∧ _))

structure StartsOnPacket (file : FileBytes) : Prop where
  long : 2 * mpegTsPacketLengthDlna ≤ file.contents.length
  synced : ∀ k, k * mpegTsPacketLengthDlna + 4 < file.contents.length →
    file.contents[k * mpegTsPacketLengthDlna + 4]? = some mpegTsSyncCode

def PlainSync (file : FileBytes) : Prop :=
  ∃ i < mpegTsPacketLength, SyncedAt file mpegTsPacketLength i

def ZeroTimestamp (file : FileBytes) : Prop := ∀ i < 4, file.contents[i]? = some 0

structure TellsVariantsApart (file : FileBytes) : Prop where
  withoutTimestamp : StartsOnPacket file → ¬ PlainSync file → ZeroTimestamp file →
    (∀ i < 4, ¬ SyncedAt file mpegTsPacketLengthDlna i) →
      mpegFindContainerType file = .mpegTransportStreamDlnaNoTs
  withTimestamp : StartsOnPacket file → ¬ PlainSync file →
    (∃ i < 4, file.contents[i]? ≠ some 0) → mpegFindContainerType file = .mpegTransportStreamDlna
  plain : PlainSync file → mpegFindContainerType file = .mpegTransportStream

def SyncedHeader (file : FileBytes) (length i : Nat) : Prop :=
  file.read (2 * mpegTsPacketLengthDlna) i = mpegTsSyncCode ∧
    file.read (2 * mpegTsPacketLengthDlna) (i + length) = mpegTsSyncCode

theorem read_contents {size : Nat} {byte : UInt8} (inside : i < size)
    (isByte : file.contents[i]? = some byte) : file.read size i = byte := by
  rw [FileBytes.read, if_pos inside, List.getD_eq_getElem?_getD, isByte, Option.getD_some]

theorem contents_read {size : Nat} (inside : i < size) (long : size ≤ file.contents.length) :
    file.contents[i]? = some (file.read size i) := by
  have within : i < file.contents.length := by omega
  rw [read_contents inside (List.getElem?_eq_getElem within), List.getElem?_eq_getElem within]

theorem SyncedAt.header (synced : SyncedAt file length i)
    (inside : i + length < 2 * mpegTsPacketLengthDlna) : SyncedHeader file length i :=
  ⟨read_contents (by omega) synced.1, read_contents inside synced.2⟩

theorem SyncedHeader.contents (synced : SyncedHeader file length i)
    (inside : i + length < 2 * mpegTsPacketLengthDlna)
    (long : 2 * mpegTsPacketLengthDlna ≤ file.contents.length) : SyncedAt file length i := by
  constructor
  · rw [contents_read (by omega) long, synced.1]
  · rw [contents_read inside long, synced.2]

theorem plain_inside (inside : i < mpegTsPacketLength) :
    i + mpegTsPacketLength < 2 * mpegTsPacketLengthDlna := by
  unfold mpegTsPacketLength mpegTsPacketLengthDlna at *
  omega

theorem StartsOnPacket.syncedAt (starts : StartsOnPacket file) :
    SyncedAt file mpegTsPacketLengthDlna 4 := by
  have long := starts.long
  have first := starts.synced 0
  have second := starts.synced 1
  simp only [mpegTsPacketLengthDlna, Nat.zero_mul, Nat.zero_add, Nat.one_mul] at long first second
  exact ⟨first (by omega), second (by omega)⟩

theorem any_synced (file : FileBytes) (count length : Nat) :
    ((List.range count).any fun i =>
      file.read (2 * mpegTsPacketLengthDlna) i = mpegTsSyncCode &&
        file.read (2 * mpegTsPacketLengthDlna) (i + length) = mpegTsSyncCode) = true ↔
      ∃ i < count, SyncedHeader file length i := by
  simp only [List.any_eq_true, List.mem_range, Bool.and_eq_true, decide_eq_true_eq, SyncedHeader]

theorem find_synced (file : FileBytes) (count length : Nat) :
    ((List.range count).find? fun i =>
      file.read (2 * mpegTsPacketLengthDlna) i = mpegTsSyncCode &&
        file.read (2 * mpegTsPacketLengthDlna) (i + length) = mpegTsSyncCode).isSome ↔
      ∃ i < count, SyncedHeader file length i := by
  rw [List.find?_isSome, ← List.any_eq_true, any_synced]

theorem plain_found (synced : ∃ i < mpegTsPacketLength, SyncedHeader file mpegTsPacketLength i) :
    mpegFindContainerType file = .mpegTransportStream := by
  unfold mpegFindContainerType
  exact if_pos ((any_synced file _ _).mpr synced)

/-- The first pair that is found may begin in the timestamp, and is not looked at any further. -/
theorem dlna_found
    (notPlain : ¬ ∃ i < mpegTsPacketLength, SyncedHeader file mpegTsPacketLength i)
    (synced : ∃ i < mpegTsPacketLengthDlna, SyncedHeader file mpegTsPacketLengthDlna i) :
    mpegFindContainerType file = .mpegTransportStreamDlna := by
  obtain ⟨first, found⟩ := Option.isSome_iff_exists.mp ((find_synced file _ _).mpr synced)
  have isSync := List.find?_some found
  simp only [Bool.and_eq_true, decide_eq_true_eq] at isSync
  unfold mpegFindContainerType
  dsimp only
  rw [if_neg (mt (any_synced file _ _).mp notPlain), found]
  dsimp only
  rw [if_neg]
  rintro ⟨zero, -⟩
  rw [isSync.1] at zero
  cases zero

theorem noTs_never_found (file : FileBytes) :
    mpegFindContainerType file ≠ .mpegTransportStreamDlnaNoTs := by
  by_cases plain : ∃ i < mpegTsPacketLength, SyncedHeader file mpegTsPacketLength i
  · rw [plain_found plain]
    simp
  by_cases dlna : ∃ i < mpegTsPacketLengthDlna, SyncedHeader file mpegTsPacketLengthDlna i
  · rw [dlna_found plain dlna]
    simp
  have missed := Option.not_isSome_iff_eq_none.mp (mt (find_synced file _ _).mp dlna)
  unfold mpegFindContainerType
  dsimp only
  rw [if_neg (mt (any_synced file _ _).mp plain), missed]
  dsimp only
  split
  · split <;> simp
  · simp

theorem startsOnPacket_found (starts : StartsOnPacket file) (notPlain : ¬ PlainSync file) :
    mpegFindContainerType file = .mpegTransportStreamDlna := by
  apply dlna_found
  · rintro ⟨i, inside, synced⟩
    exact notPlain ⟨i, inside, synced.contents (plain_inside inside) starts.long⟩
  · exact ⟨4, by decide, starts.syncedAt.header (by decide)⟩

theorem ZeroTimestamp.not_syncedAt (zero : ZeroTimestamp file) :
    ∀ i < 4, ¬ SyncedAt file length i := by
  intro i inside synced
  have isSync := synced.1
  rw [zero i inside] at isSync
  cases isSync

theorem tellsVariantsApart_iff (file : FileBytes) :
    TellsVariantsApart file ↔ ¬ (StartsOnPacket file ∧ ¬ PlainSync file ∧ ZeroTimestamp file) := by
  constructor
  · rintro tells ⟨starts, notPlain, zero⟩
    exact noTs_never_found file
      (tells.withoutTimestamp starts notPlain zero zero.not_syncedAt)
  · intro timed
    constructor
    · intro starts notPlain zero
      exact absurd ⟨starts, notPlain, zero⟩ timed
    · intro starts notPlain _
      exact startsOnPacket_found starts notPlain
    · rintro ⟨i, inside, synced⟩
      exact plain_found ⟨i, inside, synced.header (plain_inside inside)⟩

/-- Two packets with nothing in them, and no timestamp. -/
def emptyPacket : List UInt8 := [0, 0, 0, 0, mpegTsSyncCode] ++ List.replicate 187 0

def untimedFile : FileBytes where
  contents := emptyPacket ++ emptyPacket
  stale _ := 0

theorem untimed_not_told_apart : ¬ TellsVariantsApart untimedFile := by
  have starts : StartsOnPacket untimedFile := by
    constructor
    · decide +kernel
    · intro k inside
      have few : k < 2 := by
        have size : untimedFile.contents.length = 384 := by decide +kernel
        rw [size, mpegTsPacketLengthDlna] at inside
        omega
      have each : ∀ k < 2, untimedFile.contents[k * mpegTsPacketLengthDlna + 4]? =
          some mpegTsSyncCode := by decide +kernel
      exact each k few
  have notPlain : ∀ i < mpegTsPacketLength, ¬ SyncedAt untimedFile mpegTsPacketLength i := by
    decide +kernel
  have zero : ∀ i < 4, untimedFile.contents[i]? = some 0 := by decide +kernel
  have none : ∀ i < 4, ¬ SyncedAt untimedFile mpegTsPacketLengthDlna i := by decide +kernel
  intro tells
  apply noTs_never_found untimedFile
  apply tells.withoutTimestamp starts _ zero none
  rintro ⟨i, inside, synced⟩
  exact notPlain i inside synced

end Libdlna
