import Libdlna.Avts.Playlists
import Libdlna.Upnp.Responses

set_option autoImplicit false

/-!
# Answers about the state of a player

GetMediaInfo and GetPositionInfo number the tracks and describe the current item and the one linked
behind it. They guard some of the pointers that they follow.
-/

namespace Libdlna

open CString Runs

variable {dmp : Dmp} {r : Nat}

def trackNumber (dmp : Dmp) : Nat := (dmp.currentItem.map (playlistIndex dmp)).getD 0

def withCurrent (dmp : Dmp) (currentItem : Option Nat) : Dmp :=
  { dmp with currentItem := currentItem }

structure TracksConsistent (dmp : Dmp) : Prop where
  nrTracks : playlistCount dmp = .ok dmp.playlist.length
  different : ∀ r ∈ dmp.playlist, ∀ q ∈ dmp.playlist,
    trackNumber (withCurrent dmp (some r)) = trackNumber (withCurrent dmp (some q)) → r = q
  within : ∀ r ∈ dmp.playlist, 1 ≤ trackNumber (withCurrent dmp (some r)) ∧
    trackNumber (withCurrent dmp (some r)) ≤ dmp.playlist.length
  absent : trackNumber (withCurrent dmp none) = 0

theorem trackNumber_current (member : r ∈ dmp.playlist) :
    trackNumber (withCurrent dmp (some r)) = dmp.playlist.idxOf r := if_pos member

theorem trackNumber_injective {q : Nat} (member : r ∈ dmp.playlist) (member' : q ∈ dmp.playlist)
    (same : trackNumber (withCurrent dmp (some r)) = trackNumber (withCurrent dmp (some q))) :
    r = q := by
  rw [trackNumber_current member, trackNumber_current member'] at same
  exact (List.idxOf_inj member).mp same

theorem trackNumber_head (head : dmp.playlist.head? = some r) :
    trackNumber (withCurrent dmp (some r)) = 0 := by
  rw [trackNumber_current (List.mem_of_mem_head? head)]
  obtain ⟨rest, isList⟩ := List.head?_eq_some_iff.mp head
  simp [isList]

theorem playlistCount_ne_length (dmp : Dmp) : playlistCount dmp ≠ .ok dmp.playlist.length := by
  intro counted
  unfold playlistCount at counted
  split at counted
  · cases counted
  · rename_i nonempty
    have positive := List.length_pos_of_ne_nil nonempty
    have less := Except.ok.inj counted
    omega

variable {ev after : ActionEvent} {players : Players}

theorem addResponses_response (active : ev.status = true) (pairs : List (Text × Option Text)) :
    (addResponses ev pairs).response =
      ev.response ++ pairs.filterMap fun pair => pair.2.map fun value => (pair.1, value) := by
  induction pairs generalizing ev with
  | nil => simp [addResponses]
  | cons pair rest ih =>
      obtain ⟨key, value⟩ := pair
      refine (ih ((upnpAddResponse_status ..).trans active)).trans ?_
      cases value with
      | none => rfl
      | some value => simp [upnpAddResponse, active]

theorem addResponses_first (active : ev.status = true) (key value : Text)
    (pairs : List (Text × Option Text)) : ∃ rest,
      (addResponses ev ((key, some value) :: pairs)).response = ev.response ++ (key, value) :: rest := by
  rw [addResponses_response active]
  exact ⟨_, rfl⟩

theorem avtsGetMinfo_nrTracks (active : ev.status = true)
    (named : players (toUInt32 (ev.argUi4 avtsArgInstanceId)) = some dmp)
    (ran : avtsGetMinfo players ev = .ok (true, after)) :
    ∃ count rest, playlistCount dmp = .ok count ∧
      after.response = ev.response ++ (avtsArgNrTracks, decimal count) :: rest := by
  obtain ⟨log, same⟩ := avtsAnswer_named avtsMediaInfo active named
  rw [avtsGetMinfo, same] at ran
  obtain ⟨count, counted, ran⟩ := Outcome.bind_ok.mp ran
  obtain ⟨tracks, added, ran⟩ := Outcome.bind_ok.mp ran
  obtain ⟨uri, -, ran⟩ := Outcome.bind_ok.mp ran
  obtain ⟨metadata, -, ran⟩ := Outcome.bind_ok.mp ran
  cases isCurrent : dmp.current with
  | none => simp [isCurrent] at ran
  | some item =>
      rw [isCurrent] at ran
      obtain ⟨nextUri, -, ran⟩ := Outcome.bind_ok.mp ran
      obtain ⟨nextMetadata, -, ran⟩ := Outcome.bind_ok.mp ran
      obtain ⟨-, rfl⟩ := Prod.mk.inj (Except.ok.inj ran)
      rw [bufferAppendf_buf added, bufferNew_contents, List.nil_append]
      have stays : { ev with log := log }.status = true := active
      obtain ⟨rest, response⟩ := addResponses_first stays avtsArgNrTracks (decimal count) _
      exact ⟨count, rest, counted, response⟩

theorem avtsGetPosInfo_track (active : ev.status = true)
    (named : players (toUInt32 (ev.argUi4 avtsArgInstanceId)) = some dmp)
    (ran : avtsGetPosInfo players ev = .ok (true, after)) :
    ∃ rest, after.response = ev.response ++ (avtsArgTrack, decimal (trackNumber dmp)) :: rest := by
  obtain ⟨log, same⟩ := avtsAnswer_named _ active named
  rw [avtsGetPosInfo, same] at ran
  obtain ⟨track, added, ran⟩ := Outcome.bind_ok.mp ran
  obtain ⟨duration, -, ran⟩ := Outcome.bind_ok.mp ran
  obtain ⟨uri, -, ran⟩ := Outcome.bind_ok.mp ran
  obtain ⟨-, rfl⟩ := Prod.mk.inj (Except.ok.inj ran)
  rw [bufferAppendf_buf added, bufferNew_contents, List.nil_append]
  have stays : { ev with log := log }.status = true := active
  exact addResponses_first stays _ _ _

/-- One track too few is counted, and the first one has the number of an absent one. -/
theorem tracks_never_consistent (dmp : Dmp) : ¬ TracksConsistent dmp ∧
    playlistCount dmp ≠ .ok dmp.playlist.length ∧
      ∀ r, dmp.playlist.head? = some r → trackNumber (withCurrent dmp (some r)) = 0 :=
  ⟨fun consistent => playlistCount_ne_length dmp consistent.nrTracks, playlistCount_ne_length dmp,
    fun _ head => trackNumber_head head⟩

def onePlayer : Dmp := avtsSetUri avtsSetThread "/a.mp3".toList mp3Probe

theorem oneTrack_counted_none :
    Reaches AvtsStep none [.setThread, .setUri "/a.mp3".toList mp3Probe] (some onePlayer) ∧
      onePlayer.playlist = [0] ∧ playlistCount onePlayer = .ok 0 ∧ ¬ TracksConsistent onePlayer := by
  refine ⟨⟨_, rfl, _, rfl, rfl⟩, rfl, rfl, fun consistent => ?_⟩
  have counted : Except.ok 0 = Except.ok 1 := consistent.nrTracks
  cases counted

def shortTagTexts (tag : Text) : Option Text → Option (List Text)
  | none => none
  | some text => some (if 1 < text.length then tagTexts tag (some text) else [])

def shortTitleTexts (item : DlnaItem) : Option (List Text) :=
  match item.metadata with
  | none => some (tagTexts "dc:title".toList (some item.filename))
  | some metadata =>
      metadata.title.map fun title =>
        tagTexts "dc:title".toList (some (if 1 < title.length then title else item.filename))

def shortMetadataTexts (metadata : DlnaMetadata) : Option (List Text) :=
  joinTexts (shortTagTexts "dc:artist".toList metadata.author)
    (joinTexts (shortTagTexts "dc:description".toList metadata.comment)
      (joinTexts (shortTagTexts "upnp:album".toList metadata.album)
        (joinTexts
          (some (if metadata.track ≠ 0 then
              valueTexts "upnp:originalTrackNumber".toList metadata.track.toNat
            else []))
          (shortTagTexts "upnp:genre".toList metadata.genre))))

def shortItemTexts (item : DmpItem) : Option (List Text) :=
  joinTexts (some ["<item".toList]) (joinTexts (some (valueTexts "id".toList item.id.toNat))
    (joinTexts (some (valueTexts "parentID".toList 0)) (joinTexts (some [">".toList])
      (joinTexts (shortTitleTexts item.item)
        (joinTexts ((item.item.metadata.map shortMetadataTexts).getD (some []))
          (some ["</item>".toList]))))))

theorem didlAddTag_alone_prints (tag : Text) (value : Option Text) :
    Prints (fun out => do let (_, out) ← didlAddTag out tag value; .ok out)
      (some (tagTexts tag value)) := by
  have prints := didlAddTag_prints tag value prints_nothing
  rwa [joinTexts, List.append_nil] at prints

theorem didlAddShortTag_prints (tag : Text) (value : Option Text) :
    Prints (didlAddShortTag · tag value) (shortTagTexts tag value) := by
  cases value with
  | none => exact prints_fault
  | some text =>
      unfold didlAddShortTag shortTagTexts
      by_cases long : 1 < text.length
      · simpa only [if_pos long] using didlAddTag_alone_prints tag (some text)
      · simpa only [if_neg long] using prints_nothing

theorem didlAddShortTitle_prints (item : DlnaItem) :
    Prints (didlAddShortTitle · item) (shortTitleTexts item) := by
  unfold didlAddShortTitle shortTitleTexts
  cases item.metadata with
  | none => exact didlAddTag_alone_prints _ _
  | some metadata =>
      dsimp only
      cases metadata.title with
      | none => exact prints_fault
      | some title => exact didlAddTag_alone_prints _ _

theorem didlAddShortMetadata_prints (metadata : DlnaMetadata) :
    Prints (didlAddShortMetadata · metadata) (shortMetadataTexts metadata) := by
  have track : Prints (fun out => if metadata.track ≠ 0 then
        didlAddValue out "upnp:originalTrackNumber".toList metadata.track.toNat
      else .ok out)
      (some (if metadata.track ≠ 0 then
        valueTexts "upnp:originalTrackNumber".toList metadata.track.toNat else [])) := by
    by_cases numbered : metadata.track ≠ 0
    · simpa only [if_pos numbered] using didlAddValue_prints _ _
    · simpa only [if_neg numbered] using prints_nothing
  exact (didlAddShortTag_prints _ _).bind ((didlAddShortTag_prints _ _).bind
    ((didlAddShortTag_prints _ _).bind (track.bind (didlAddShortTag_prints _ _))))

theorem didlAddShortItem_prints (item : DmpItem) :
    Prints (didlAddShortItem · item) (shortItemTexts item) := by
  refine (prints_appendf _).bind ((didlAddValue_prints _ _).bind ((didlAddValue_prints _ _).bind
    (Prints.append fits_closing ((didlAddShortTitle_prints item.item).bind
      (Prints.bind ?_ (prints_appendf _))))))
  cases item.item.metadata with
  | none => exact prints_nothing
  | some metadata => exact didlAddShortMetadata_prints metadata

/-- All the strings that `didl_add_short_item` measures are there. -/
def FullyTagged (metadata : DlnaMetadata) : Prop :=
  metadata.title ≠ none ∧ metadata.author ≠ none ∧ metadata.comment ≠ none ∧
    metadata.album ≠ none ∧ metadata.genre ≠ none

theorem joinTexts_isSome (s t : Option (List Text)) :
    (joinTexts s t).isSome ↔ s.isSome ∧ t.isSome := by
  cases s <;> cases t <;> simp [joinTexts]

theorem shortTagTexts_isSome (tag : Text) (value : Option Text) :
    (shortTagTexts tag value).isSome ↔ value ≠ none := by
  cases value <;> simp [shortTagTexts]

theorem shortMetadataTexts_isSome (metadata : DlnaMetadata) :
    (shortMetadataTexts metadata).isSome ↔ metadata.author ≠ none ∧ metadata.comment ≠ none ∧
      metadata.album ≠ none ∧ metadata.genre ≠ none := by
  unfold shortMetadataTexts
  simp only [joinTexts_isSome, shortTagTexts_isSome, Option.isSome_some, true_and]

theorem shortItemTexts_isSome (item : DmpItem) :
    (shortItemTexts item).isSome ↔
      ∀ metadata, item.item.metadata = some metadata → FullyTagged metadata := by
  unfold shortItemTexts shortTitleTexts
  simp only [joinTexts_isSome, Option.isSome_some, true_and, and_true]
  cases item.item.metadata with
  | none => simp
  | some metadata =>
      simp only [Option.isSome_map, Option.map_some, Option.getD_some, shortMetadataTexts_isSome]
      simp only [Option.some.injEq, forall_eq', FullyTagged, Option.isSome_iff_ne_none]

structure Describable (item : DmpItem) : Prop where
  tagged : ∀ metadata, item.item.metadata = some metadata → FullyTagged metadata
  nameFits : Fits item.item.filename
  textsFit : ∀ pieces, shortItemTexts item = some pieces → ∀ piece ∈ pieces, Fits piece

theorem describable_iff (item : DmpItem) :
    Describable item ↔ (∃ out, addFilename (some item) = .ok out) ∧
      ∃ out, addShortItem (some item) = .ok out := by
  have name : (∃ out, addFilename (some item) = .ok out) ↔ Fits item.item.filename :=
    bufferAppendf_ok_iff bufferNew item.item.filename
  have texts : (∃ out, addShortItem (some item) = .ok out) ↔ _ :=
    prints_ok_iff (didlAddShortItem_prints item) bufferNew
  rw [name, texts]
  constructor
  · rintro ⟨tagged, nameFits, textsFit⟩
    obtain ⟨pieces, isSome⟩ :=
      Option.isSome_iff_exists.mp ((shortItemTexts_isSome item).mpr tagged)
    exact ⟨nameFits, pieces, isSome, textsFit pieces isSome⟩
  · rintro ⟨nameFits, pieces, isSome, fits⟩
    refine ⟨(shortItemTexts_isSome item).mp (by rw [isSome]; rfl), nameFits, ?_⟩
    intro pieces' isSome'
    obtain rfl := Option.some.inj (isSome.symm.trans isSome')
    exact fits

theorem nextDescribed_iff (next : Option DmpItem) :
    ((∃ out, addFilename next = .ok out) ∧ ∃ out, addShortItem next = .ok out) ↔
      ∀ item, next = some item → Describable item := by
  cases next with
  | none => simp [addFilename, addShortItem]
  | some item => simp [← describable_iff]

structure MediaShown (dmp : Dmp) : Prop where
  playlist : dmp.playlist ≠ []
  countFits : Fits (decimal (dmp.playlist.length - 1))
  current : ∃ item, dmp.current = some item ∧ Describable item ∧
    ∀ next, dmp.following item = some next → Describable next

structure PositionShown (dmp : Dmp) : Prop where
  trackFits : Fits (decimal (trackNumber dmp))
  durationFits : ∀ item properties, dmp.current = some item →
    item.item.properties = some properties → Fits properties.duration
  nameFits : ∀ item, dmp.current = some item → Fits item.item.filename

theorem mediaInfoTexts_ok_iff (dmp : Dmp) (finish : Buffer → Buffer → Buffer → Buffer →
    Bool × ActionEvent) :
    (∃ answer, (addFilename dmp.current >>= fun uri => addShortItem dmp.current >>=
        fun metadata => match dmp.current with
          | none => .error Fault.nullDeref
          | some item => addFilename (dmp.following item) >>= fun nextUri =>
              addShortItem (dmp.following item) >>= fun nextMetadata =>
                .ok (finish uri metadata nextUri nextMetadata)) = .ok answer) ↔
      ∃ item, dmp.current = some item ∧ Describable item ∧
        ∀ next, dmp.following item = some next → Describable next := by
  cases dmp.current with
  | none => simp [addFilename, addShortItem, Bind.bind, Except.bind]
  | some item =>
      have next (uri metadata : Buffer) : (∃ answer,
          (addFilename (dmp.following item) >>= fun nextUri =>
            addShortItem (dmp.following item) >>= fun nextMetadata =>
              Except.ok (finish uri metadata nextUri nextMetadata)) = .ok answer) ↔
          ∀ next, dmp.following item = some next → Describable next := by
        rw [← nextDescribed_iff]
        exact Outcome.bind_succeeds fun nextUri =>
          (Outcome.bind_succeeds fun _ => by simp).trans (and_iff_left trivial)
      refine (Outcome.bind_succeeds fun uri => Outcome.bind_succeeds (next uri)).trans ?_
      rw [← and_assoc, ← describable_iff]
      simp

theorem avtsMediaInfo_ok_iff (dmp : Dmp) (ev : ActionEvent) :
    (∃ answer, avtsMediaInfo dmp ev = .ok answer) ↔ MediaShown dmp := by
  by_cases empty : dmp.playlist = []
  · have faults : avtsMediaInfo dmp ev = .error .nullDeref := by
      rw [avtsMediaInfo, playlistCount, if_pos empty]
      rfl
    rw [faults]
    exact iff_of_false (by simp) fun shown => shown.playlist empty
  · rw [avtsMediaInfo, playlistCount, if_neg empty]
    refine (Outcome.bind_succeeds fun tracks => mediaInfoTexts_ok_iff dmp _).trans ?_
    rw [bufferAppendf_ok_iff]
    exact ⟨fun ⟨countFits, current⟩ => ⟨empty, countFits, current⟩,
      fun shown => ⟨shown.countFits, shown.current⟩⟩

theorem addDuration_ok_iff (item : Option DmpItem) : (∃ out, addDuration item = .ok out) ↔
    ∀ shown properties, item = some shown → shown.item.properties = some properties →
      Fits properties.duration := by
  cases item with
  | none => simp [addDuration]
  | some item =>
      simp only [Option.some.injEq]
      cases found : item.item.properties with
      | none =>
          refine iff_of_true (by simp [addDuration, found]) ?_
          rintro shown properties rfl isFound
          rw [found] at isFound
          cases isFound
      | some properties =>
          have appends : (∃ out, addDuration (some item) = .ok out) ↔ Fits properties.duration := by
            simpa [addDuration, found] using bufferAppendf_ok_iff bufferNew properties.duration
          rw [appends]
          constructor
          · rintro fits shown properties' rfl isFound
            rwa [← Option.some.inj (found.symm.trans isFound)]
          · exact fun fits => fits item properties rfl found

theorem addFilename_ok_iff (item : Option DmpItem) : (∃ out, addFilename item = .ok out) ↔
    ∀ shown, item = some shown → Fits shown.item.filename := by
  cases item with
  | none => simp [addFilename]
  | some item => simp [addFilename, bufferAppendf_ok_iff]

theorem avtsGetPosInfo_ok_iff {players : Players} {ev : ActionEvent} (active : ev.status = true)
    (named : players (toUInt32 (ev.argUi4 avtsArgInstanceId)) = some dmp) :
    (∃ answer, avtsGetPosInfo players ev = .ok answer) ↔ PositionShown dmp := by
  obtain ⟨log, same⟩ := avtsAnswer_named _ active named
  rw [avtsGetPosInfo, same]
  refine (Outcome.bind_succeeds fun track => Outcome.bind_succeeds fun duration =>
    (Outcome.bind_succeeds fun uri => by simp).trans (and_iff_left trivial)).trans ?_
  rw [bufferAppendf_ok_iff, addDuration_ok_iff, addFilename_ok_iff]
  exact ⟨fun ⟨trackFits, durationFits, nameFits⟩ => ⟨trackFits, durationFits, nameFits⟩,
    fun shown => ⟨shown.trackFits, shown.durationFits, shown.nameFits⟩⟩

def AnswersStatus (dmp : Dmp) : Prop :=
  ∀ (players : Players) (ev : ActionEvent), ev.status = true →
    players (toUInt32 (ev.argUi4 avtsArgInstanceId)) = some dmp →
      (∃ answer, avtsGetMinfo players ev = .ok answer) ∧
        (∃ answer, avtsGetMinfoExt players ev = .ok answer) ∧
          ∃ answer, avtsGetPosInfo players ev = .ok answer

theorem AnswersStatus.shown (answers : AnswersStatus dmp) : MediaShown dmp ∧ PositionShown dmp := by
  let ev : ActionEvent := ⟨true, [], 0, [], []⟩
  let players : Players := fun _ => some dmp
  have active : ev.status = true := rfl
  have named : players (toUInt32 (ev.argUi4 avtsArgInstanceId)) = some dmp := rfl
  obtain ⟨media, -, position⟩ := answers players ev active named
  obtain ⟨log, same⟩ := avtsAnswer_named avtsMediaInfo active named
  rw [avtsGetMinfo, same] at media
  exact ⟨(avtsMediaInfo_ok_iff dmp _).mp media, (avtsGetPosInfo_ok_iff active named).mp position⟩

theorem answers_status_iff (dmp : Dmp) :
    AnswersStatus dmp ↔ MediaShown dmp ∧ PositionShown dmp := by
  refine ⟨AnswersStatus.shown, ?_⟩
  rintro ⟨media, position⟩ players ev active named
  refine ⟨?_, ?_, (avtsGetPosInfo_ok_iff active named).mpr position⟩
  · obtain ⟨log, same⟩ := avtsAnswer_named avtsMediaInfo active named
    rw [avtsGetMinfo, same]
    exact (avtsMediaInfo_ok_iff dmp _).mpr media
  · obtain ⟨log, same⟩ := avtsAnswer_named _ active named
    rw [avtsGetMinfoExt, same]
    exact (avtsMediaInfo_ok_iff dmp _).mpr media

/-- The first URI was rejected, so the new player has neither a playlist nor a current item. -/
theorem rejectedFirst_unanswered :
    Reaches AvtsStep none [.setThread, .setUri "/a.txt".toList textProbe] (some avtsSetThread) ∧
      ¬ AnswersStatus avtsSetThread := by
  refine ⟨⟨_, rfl, _, rfl, rfl⟩, fun answers => ?_⟩
  exact answers.shown.1.playlist rfl

end Libdlna
