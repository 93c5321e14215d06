import Libdlna.Didl.Text
import Libdlna.Model.Memory
import Libdlna.Upnp.Responses

set_option autoImplicit false

/-!
# The protocols of GetProtocolInfo

The profiler adds its MIME types to an array that `NULL` ends, which an action prints as a list with
commas.
-/

namespace Libdlna

open CString NullTerminated

section Array

variable (rest : Nat → Option Text) {list : List (Option Text)} {mimes : List Text}

theorem dlnaListLength_eq (holds : held list = some mimes) :
    Memory.dlnaListLength list = .ok mimes.length := by
  rw [Memory.dlnaListLength, holds]
  rfl

theorem memory_dlnaListAdd_eq (holds : held list = some mimes) (element : Option Text) :
    Memory.dlnaListAdd rest list element =
      if mimes.any fun mime => some mime = element then .ok list
      else .ok (mimes.map some ++ [element, none]) := by
  have length := dlnaListLength_eq holds
  obtain ⟨tail, rfl⟩ := held_iff.mp holds
  have begins : (mimes.map some ++ none :: tail).take (mimes.length + 1) =
      mimes.map some ++ [none] := by
    simp [List.take_append]
  have scanned : (mimes.map some ++ [none]).any (fun l => l.isSome && l = element) =
      mimes.any fun mime => some mime = element := by
    simp [List.any_map, Function.comp_def]
  rw [Memory.dlnaListAdd, length]
  simp only [Bind.bind, Except.bind, begins, scanned]
  split
  · rfl
  · obtain ⟨room, grown, two⟩ := reallocate_front rest (mimes.map some) (none :: tail) 2
    obtain ⟨first, second, rfl⟩ := List.length_eq_two.mp two
    have last := store_append (mimes.map some ++ [first]) [] second none
    have before := store_append (mimes.map some) [none] first element
    rw [List.length_append, List.length_map, List.length_singleton, List.append_assoc,
      List.append_assoc, List.singleton_append, List.singleton_append] at last
    rw [List.length_map] at before grown
    simp only [grown, last, before, Memory.inBounds, Nat.add_sub_cancel]

theorem memory_dlnaListAdd_some (holds : held list = some mimes) (element : Text) :
    ∃ after, Memory.dlnaListAdd rest list (some element) = .ok after ∧
      held after = some (dlnaListAdd mimes element) := by
  rw [memory_dlnaListAdd_eq rest holds, dlnaListAdd]
  simp only [Option.some.injEq]
  split
  · exact ⟨list, rfl, holds⟩
  · exact ⟨_, rfl, by simpa using held_append (mimes ++ [element]) []⟩

theorem memory_dlnaListAdd_null (holds : held list = some mimes) :
    ∃ after, Memory.dlnaListAdd rest list none = .ok after ∧ held after = some mimes := by
  rw [memory_dlnaListAdd_eq rest holds, if_neg (by simp)]
  exact ⟨_, rfl, held_append mimes [none]⟩

theorem foldlM_memory_dlnaListAdd (holds : held list = some mimes) (supported : List Text) :
    ∃ after, supported.foldlM (fun mimes mime => Memory.dlnaListAdd rest mimes (some mime)) list =
        .ok after ∧ held after = some (supported.foldl dlnaListAdd mimes) := by
  induction supported generalizing list mimes with
  | nil => exact ⟨list, rfl, holds⟩
  | cons element supported ih =>
      obtain ⟨between, added, holdsNext⟩ := memory_dlnaListAdd_some rest holds element
      obtain ⟨after, others, isAll⟩ := ih holdsNext
      exact ⟨after, Outcome.bind_ok.mpr ⟨between, added, others⟩, isAll⟩

theorem memory_dlnaGetSupportedMimeTypes (supported : List Text) :
    ∃ list, Memory.dlnaGetSupportedMimeTypes rest supported = .ok list ∧
      held list = some (dlnaGetSupportedMimeTypes supported) := by
  have empty : held ([none] : List (Option Text)) = some [] := rfl
  obtain ⟨between, added, holds⟩ := foldlM_memory_dlnaListAdd rest empty supported
  obtain ⟨list, closed, isAll⟩ := memory_dlnaListAdd_null rest holds
  exact ⟨list, Outcome.bind_ok.mpr ⟨between, added, closed⟩, isAll⟩

end Array

def protocolEntries : Option Text → List Text
  | none => []
  | some value => value.splitOn ','

theorem cmsProtocol_length (mime : Text) : (cmsProtocol mime).length = mime.length + 13 := by
  have opening : "http-get:*:".toList.length = 11 := by decide
  have closing : ":*".toList.length = 2 := by decide
  unfold cmsProtocol
  rw [List.length_append, List.length_append, opening, closing]
  omega

theorem cmsProtocols_ok_iff (mimes : List Text) (source : Buffer) :
    (∃ filled, cmsProtocols mimes source = .ok filled) ↔
      ∀ mime ∈ mimes, Fits (cmsProtocol mime) := by
  induction mimes generalizing source with
  | nil => simp [cmsProtocols]
  | cons mime rest ih =>
      rw [cmsProtocols, Outcome.bind_succeeds (fun source => ih _), bufferAppendf_ok_iff,
        List.forall_mem_cons]

theorem cmsProtocol_commaFree {mime : Text} (commaFree : ',' ∉ mime) : ',' ∉ cmsProtocol mime := by
  have opening : ',' ∉ "http-get:*:".toList := by decide
  have closing : ',' ∉ ":*".toList := by decide
  unfold cmsProtocol
  rw [List.mem_append, List.mem_append]
  exact fun member => member.elim (fun front => front.elim opening commaFree) closing

theorem cmsProtocols_entries {mimes : List Text} (commaFree : ∀ mime ∈ mimes, ',' ∉ mime)
    {filled : Buffer} (ran : cmsProtocols mimes bufferNew = .ok filled) :
    protocolEntries filled.buf = mimes.map cmsProtocol := by
  rw [cmsProtocols_buf ran]
  by_cases none : mimes = []
  · rw [if_pos none, none]
    rfl
  · rw [if_neg none, protocolEntries, bufferNew_contents, List.nil_append]
    refine List.splitOn_intercalate ',' ?_ (by simpa using none)
    rw [List.forall_mem_map]
    exact fun mime member => cmsProtocol_commaFree (commaFree mime member)

structure ListsTypesOnce (supported : List Text) (ev : ActionEvent) : Prop where
  array : ∀ rest, ∃ list, Memory.dlnaGetSupportedMimeTypes rest supported = .ok list ∧
    held list = some supported.eraseDups
  answer : ∃ after, cmsGetProtocolInfo supported ev = .ok (true, after) ∧
    protocolEntries (after.reply cmsArgSource) = supported.eraseDups.map cmsProtocol ∧
    protocolEntries (after.reply cmsArgSink) = supported.eraseDups.map cmsProtocol

theorem reply_upnpAddResponse_self {ev : ActionEvent} {key : Text} (active : ev.status = true)
    (fresh : ev.reply key = none) (value : Option Text) :
    (upnpAddResponse ev key value).reply key = value := by
  cases value with
  | none => exact fresh
  | some value => exact reply_upnpAddResponse_new active fresh

theorem supported_print_iff (supported : List Text) :
    (∃ filled, cmsProtocols supported.eraseDups bufferNew = .ok filled) ↔
      ∀ mime ∈ supported, mime.length + 13 < bufferDefaultCapacity := by
  simp only [cmsProtocols_ok_iff, Fits, cmsProtocol_length, List.mem_eraseDups]

theorem ListsTypesOnce.fit {supported : List Text} {ev : ActionEvent}
    (lists : ListsTypesOnce supported ev) :
    ∀ mime ∈ supported, mime.length + 13 < bufferDefaultCapacity := by
  obtain ⟨after, answered, -⟩ := lists.answer
  obtain ⟨source, printed, -⟩ := Outcome.bind_ok.mp answered
  rw [dlnaGetSupportedMimeTypes_eq] at printed
  exact (supported_print_iff supported).mp ⟨source, printed⟩

theorem protocols_listed_iff {supported : List Text} {ev : ActionEvent} (active : ev.status = true)
    (fresh : ev.response = []) (commaFree : ∀ mime ∈ supported, ',' ∉ mime) :
    ListsTypesOnce supported ev ↔
      ∀ mime ∈ supported, mime.length + 13 < bufferDefaultCapacity := by
  refine ⟨ListsTypesOnce.fit, fun fit => ?_⟩
  obtain ⟨source, printed⟩ := (supported_print_iff supported).mpr fit
  have entries := cmsProtocols_entries
    (fun mime member => commaFree mime (List.mem_eraseDups.mp member)) printed
  have missing (key : Text) : ev.reply key = none := by simp [ActionEvent.reply, fresh]
  have different : cmsArgSink ≠ cmsArgSource := by decide
  have active' : (upnpAddResponse ev cmsArgSource source.buf).status = true := by
    rw [upnpAddResponse_status, active]
  have isSource := reply_upnpAddResponse_self active (missing cmsArgSource) source.buf
  have isSink := reply_upnpAddResponse_self active'
    ((reply_upnpAddResponse_other source.buf different.symm).trans (missing cmsArgSink)) source.buf
  refine ⟨fun rest => ?_, upnpAddResponse (upnpAddResponse ev cmsArgSource source.buf) cmsArgSink
    source.buf, ?_, ?_, ?_⟩
  · rw [← dlnaGetSupportedMimeTypes_eq]
    exact memory_dlnaGetSupportedMimeTypes rest supported
  · rw [cmsGetProtocolInfo, dlnaGetSupportedMimeTypes_eq, printed]
    simp only [Bind.bind, Except.bind, upnpAddResponse_status, active]
  · rw [reply_upnpAddResponse_other source.buf different, isSource, entries]
  · rw [isSink, entries]

def infoRequest : ActionEvent where
  status := true
  args := []
  errCode := 0
  response := []
  log := []

theorem protocols_listed_iff_applies :
    ListsTypesOnce ["audio/mpeg".toList, "audio/mp4".toList, "audio/mpeg".toList] infoRequest :=
  (protocols_listed_iff rfl rfl (by decide)).mpr (by decide)

theorem long_type_not_listed :
    (∀ mime ∈ [List.replicate 32755 'a'], ',' ∉ mime) ∧
      ¬ ListsTypesOnce [List.replicate 32755 'a'] infoRequest := by
  refine ⟨List.forall_mem_singleton.mpr fun member => ?_, fun lists => ?_⟩
  · exact absurd (List.eq_of_mem_replicate member) (by decide)
  · have short := lists.fit _ (List.mem_singleton_self _)
    rw [List.length_replicate] at short
    exact absurd short (by decide)

end Libdlna
