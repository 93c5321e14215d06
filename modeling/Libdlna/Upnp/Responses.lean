import Libdlna.Cds.Requests
import Libdlna.Model.ServiceTables
import Libdlna.Shared.KeyedTable

set_option autoImplicit false

/-!
# What the handlers answer

The names of the arguments that each callback adds to a response. A value that is `NULL` is left
out, so that some of them depend on the state.
-/

namespace Libdlna

open CString ActionEvent

variable {ev after later : ActionEvent} {names more : List Text}

def Answers (ev after : ActionEvent) (names : List Text) : Prop :=
  after.response.map Prod.fst = ev.response.map Prod.fst ++ names

theorem Answers.nothing (same : after.response = ev.response) : Answers ev after [] := by
  rw [Answers, same, List.append_nil]

theorem Answers.then (first : Answers ev after names) (second : Answers after later more) :
    Answers ev later (names ++ more) := by
  rw [Answers, second, first, List.append_assoc]

theorem Answers.added (answers : Answers ev after names) :
    (after.response.drop ev.response.length).map Prod.fst = names := by
  have dropped := congrArg (List.drop (ev.response.map Prod.fst).length) answers
  rwa [List.drop_left, List.length_map, ← List.map_drop] at dropped

theorem Answers.of_response (same : ev.response = later.response)
    (answers : Answers ev after names) : Answers later after names := by
  rwa [Answers, ← same]

theorem upnpAddResponse_answers (active : ev.status = true) (key : Text) (value : Option Text) :
    Answers ev (upnpAddResponse ev key value) (if value.isSome then [key] else []) := by
  cases value with
  | none => exact .nothing rfl
  | some value => simp [Answers, upnpAddResponse, active]

theorem upnpAddResponse_some (active : ev.status = true) (key value : Text) :
    Answers ev (upnpAddResponse ev key (some value)) [key] :=
  upnpAddResponse_answers active key (some value)

@[simp] theorem addResponses_status (ev : ActionEvent) (pairs : List (Text × Option Text)) :
    (addResponses ev pairs).status = ev.status := by
  induction pairs generalizing ev with
  | nil => rfl
  | cons pair rest ih => exact (ih _).trans (upnpAddResponse_status ..)

theorem addResponses_answers (active : ev.status = true) (pairs : List (Text × Option Text)) :
    Answers ev (addResponses ev pairs)
      (pairs.flatMap fun pair => if pair.2.isSome then [pair.1] else []) := by
  induction pairs generalizing ev with
  | nil => exact .nothing rfl
  | cons pair rest ih =>
      exact (upnpAddResponse_answers active pair.1 pair.2).then
        (ih (by rw [upnpAddResponse_status, active]))

theorem bufferAppendf_isSome {out filled : Buffer} {text : Text}
    (appended : bufferAppendf out text = .ok filled) : filled.buf.isSome := by
  rw [bufferAppendf_buf appended, Option.isSome_some]

theorem dlnaGetSupportedMimeTypes_eq (supported : List Text) :
    dlnaGetSupportedMimeTypes supported = supported.eraseDups := by
  have whole := KeyedTable.foldl_insertNew id supported []
  have sameAdd : KeyedTable.insertNew id = dlnaListAdd := rfl
  have sameDups : (fun entry other : Text => decide (id entry = id other)) = (· == ·) := by
    funext entry other
    rw [id, id, beq_eq_decide]
  rw [sameAdd, sameDups] at whole
  simpa [dlnaGetSupportedMimeTypes, List.eraseDups] using whole

theorem cmsProtocols_buf {mimes : List Text} {source filled : Buffer}
    (ran : cmsProtocols mimes source = .ok filled) :
    filled.buf =
      if mimes = [] then source.buf
      else some (source.contents ++ [','].intercalate (mimes.map cmsProtocol)) := by
  induction mimes generalizing source with
  | nil => exact (Except.ok.inj ran) ▸ rfl
  | cons mime rest ih =>
      obtain ⟨between, appended, ran⟩ := Outcome.bind_ok.mp ran
      rw [ih ran]
      cases rest with
      | nil => simp [bufferAppendf_buf appended]
      | cons next rest => simp [bufferAppendf_contents appended]

theorem cmsGetProtocolInfo_answers {supported : List Text}
    (ran : cmsGetProtocolInfo supported ev = .ok (true, after)) :
    Answers ev after (if supported = [] then [] else [cmsArgSource, cmsArgSink]) := by
  obtain ⟨source, first, ran⟩ := Outcome.bind_ok.mp ran
  obtain ⟨sink, second, ran⟩ := Outcome.bind_ok.mp ran
  obtain ⟨active, rfl⟩ := Prod.mk.inj (Except.ok.inj ran)
  rw [upnpAddResponse_status, upnpAddResponse_status] at active
  have answers := (upnpAddResponse_answers active cmsArgSource source.buf).then
    (upnpAddResponse_answers (by rw [upnpAddResponse_status, active]) cmsArgSink sink.buf)
  have given {filled : Buffer}
      (ran : cmsProtocols (dlnaGetSupportedMimeTypes supported) bufferNew = .ok filled) :
      filled.buf.isSome = !supported.isEmpty := by
    rw [cmsProtocols_buf ran, dlnaGetSupportedMimeTypes_eq]
    cases supported <;> simp [bufferNew, List.eraseDups_cons]
  rw [given first, given second] at answers
  cases supported <;> simpa using answers

theorem cmsGetCurrentConnectionIds_answers
    (ran : cmsGetCurrentConnectionIds ev = .ok (true, after)) :
    Answers ev after [cmsArgConnectionIds] := by
  obtain ⟨active, rfl⟩ := Prod.mk.inj (Except.ok.inj ran)
  exact upnpAddResponse_some (by rwa [upnpAddResponse_status] at active) _ _

theorem foldl_upnpAddResponse_status {A : Type} (key : Text) (value : A → Text) (items : List A)
    (ev : ActionEvent) :
    (items.foldl (fun ev item => upnpAddResponse ev key (some (value item))) ev).status =
      ev.status := by
  induction items generalizing ev with
  | nil => rfl
  | cons item rest ih => exact (ih _).trans (upnpAddResponse_status ..)

theorem foldl_upnpAddResponse_answers {A : Type} (key : Text) (value : A → Text) (items : List A)
    (active : ev.status = true) :
    Answers ev (items.foldl (fun ev item => upnpAddResponse ev key (some (value item))) ev)
      (List.replicate items.length key) := by
  induction items generalizing ev with
  | nil => exact .nothing rfl
  | cons item rest ih =>
      exact (upnpAddResponse_some active key (value item)).then
        (ih (by rw [upnpAddResponse_status, active]))

theorem cmsGetCurrentConnectionInfo_answers {supported : List Text}
    (ran : cmsGetCurrentConnectionInfo supported ev = .ok (true, after)) :
    Answers ev after
      ([cmsArgConnectionId, cmsArgRcsId, cmsArgTransportId] ++
        List.replicate (dlnaGetSupportedMimeTypes supported).length cmsArgProtInfo ++
        [cmsArgPeerConManager, cmsArgPeerConId, cmsArgDirection, cmsArgStatus]) := by
  obtain ⟨active, rfl⟩ := Prod.mk.inj (Except.ok.inj ran)
  simp only [upnpAddResponse_status, foldl_upnpAddResponse_status] at active
  have front := addResponses_answers active
    [(cmsArgConnectionId, some cmsDefaultConId), (cmsArgRcsId, some cmsUnknowId),
      (cmsArgTransportId, some cmsUnknowId)]
  have begun := (addResponses_status ev
    [(cmsArgConnectionId, some cmsDefaultConId), (cmsArgRcsId, some cmsUnknowId),
      (cmsArgTransportId, some cmsUnknowId)]).trans active
  have types := foldl_upnpAddResponse_answers cmsArgProtInfo
    (fun mime => (cmsProtocol mime).take (cmsProtocolSize - 1))
    (dlnaGetSupportedMimeTypes supported) begun
  exact (front.then types).then (addResponses_answers
    ((foldl_upnpAddResponse_status ..).trans begun)
    [(cmsArgPeerConManager, some []), (cmsArgPeerConId, some cmsUnknowId),
      (cmsArgDirection, some cmsOutput), (cmsArgStatus, some cmsStatusOk)])

theorem cdsGetSearchCapabilities_answers (ran : cdsGetSearchCapabilities ev = .ok (true, after)) :
    Answers ev after [cdsArgSearchCaps] := by
  obtain ⟨active, rfl⟩ := Prod.mk.inj (Except.ok.inj ran)
  exact upnpAddResponse_some (by rwa [upnpAddResponse_status] at active) _ _

theorem cdsGetSortCapabilities_answers (ran : cdsGetSortCapabilities ev = .ok (true, after)) :
    Answers ev after [cdsArgSortCaps] := by
  obtain ⟨active, rfl⟩ := Prod.mk.inj (Except.ok.inj ran)
  exact upnpAddResponse_some (by rwa [upnpAddResponse_status] at active) _ _

theorem cdsGetSystemUpdateId_answers {d : Dlna}
    (ran : cdsGetSystemUpdateId d ev = .ok (true, after)) : Answers ev after [cdsDidlUpdateId] := by
  unfold cdsGetSystemUpdateId at ran
  split at ran
  · cases ran
  · obtain ⟨item, -, ran⟩ := Outcome.bind_ok.mp ran
    split at ran
    · cases ran
    · obtain ⟨active, rfl⟩ := Prod.mk.inj (Except.ok.inj ran)
      exact upnpAddResponse_some (by rwa [upnpAddResponse_status] at active) _ _

theorem listing_answers (active : ev.status = true) {result : Option Text}
    (filled : result.isSome) (returned total : Text) :
    Answers ev
      (upnpAddResponse (upnpAddResponse (upnpAddResponse ev cdsDidlResult result)
        cdsDidlNumReturned (some returned)) cdsDidlTotalMatch (some total))
      [cdsDidlResult, cdsDidlNumReturned, cdsDidlTotalMatch] := by
  have answers := addResponses_answers active
    [(cdsDidlResult, result), (cdsDidlNumReturned, some returned), (cdsDidlTotalMatch, some total)]
  simpa only [filled, List.flatMap_cons, List.flatMap_nil, Option.isSome_some, if_true,
    List.singleton_append, List.cons_append, List.nil_append, List.append_nil, addResponses,
    List.foldl_cons, List.foldl_nil] using answers

theorem browsing_answers (active : ev.status = true) {result : Option Text}
    (filled : result.isSome) (returned total updateID : Text) :
    Answers ev
      (upnpAddResponse (upnpAddResponse (upnpAddResponse (upnpAddResponse ev cdsDidlResult result)
        cdsDidlNumReturned (some returned)) cdsDidlTotalMatch (some total)) cdsDidlUpdateId
          (some updateID))
      [cdsDidlResult, cdsDidlNumReturned, cdsDidlTotalMatch, cdsDidlUpdateId] :=
  (listing_answers active filled returned total).then
    (upnpAddResponse_some (by simp only [upnpAddResponse_status, active]) _ _)

theorem cdsBrowseMetadata_answers {d : Dlna} {out filled : Buffer} {item : VfsItem} {filter : Text}
    {resultCount : Int} (active : ev.status = true)
    (ran : cdsBrowseMetadata d ev out item filter = .ok (resultCount, filled, after)) :
    Answers ev after [cdsDidlResult, cdsDidlNumReturned, cdsDidlTotalMatch, cdsDidlUpdateId] := by
  obtain ⟨opened, -, ran⟩ := Outcome.bind_ok.mp ran
  obtain ⟨listed, -, ran⟩ := Outcome.bind_ok.mp ran
  obtain ⟨updateID, -, ran⟩ := Outcome.bind_ok.mp ran
  obtain ⟨closed, footer, ran⟩ := Outcome.bind_ok.mp ran
  obtain ⟨-, same⟩ := Prod.mk.inj (Except.ok.inj ran)
  obtain ⟨-, rfl⟩ := Prod.mk.inj same
  exact browsing_answers active (bufferAppendf_isSome footer) _ _ _

theorem cdsBrowseDirectchildren_answers {d : Dlna} {out filled : Buffer} {item : VfsItem}
    {filter : Text} {index count resultCount : Int} (active : ev.status = true)
    (nonnegative : 0 ≤ resultCount)
    (ran : cdsBrowseDirectchildren d ev out index count item filter =
      .ok (resultCount, filled, after)) :
    Answers ev after [cdsDidlResult, cdsDidlNumReturned, cdsDidlTotalMatch, cdsDidlUpdateId] := by
  unfold cdsBrowseDirectchildren at ran
  split at ran
  · obtain ⟨rfl, -⟩ := Prod.mk.inj (Except.ok.inj ran)
    omega
  · obtain ⟨opened, -, ran⟩ := Outcome.bind_ok.mp ran
    obtain ⟨⟨counted, listed⟩, -, ran⟩ := Outcome.bind_ok.mp ran
    obtain ⟨closed, footer, ran⟩ := Outcome.bind_ok.mp ran
    obtain ⟨-, same⟩ := Prod.mk.inj (Except.ok.inj ran)
    obtain ⟨-, rfl⟩ := Prod.mk.inj same
    exact browsing_answers active (bufferAppendf_isSome footer) _ _ _

theorem cdsBrowse_answers {d : Dlna} (ran : cdsBrowse d ev = .ok (true, after)) :
    Answers ev after [cdsDidlResult, cdsDidlNumReturned, cdsDidlTotalMatch, cdsDidlUpdateId] := by
  obtain ⟨args, flag, filter, r, item, log, resultCount, out, replied, log', -, -, -, -, -, listed,
    nonnegative, active, rfl⟩ := cdsBrowse_ok ran
  have status : { ev with log := log }.status = true := active
  have answers : Answers { ev with log := log } replied
      [cdsDidlResult, cdsDidlNumReturned, cdsDidlTotalMatch, cdsDidlUpdateId] := by
    split at listed
    · exact cdsBrowseMetadata_answers status listed
    · exact cdsBrowseDirectchildren_answers status nonnegative listed
  exact answers

theorem cdsSearchDirectchildren_answers {d : Dlna} {stack : VfsItem → Text → Text} {fuel : Nat}
    {item : VfsItem} {r : Ref} {out filled : Buffer} {filter searchCriteria : Text}
    {count resultCount : Int} (active : ev.status = true) (nonnegative : 0 ≤ resultCount)
    (ran : cdsSearchDirectchildren d stack fuel ev item r out count filter searchCriteria =
      .ok (resultCount, filled, after)) :
    Answers ev after [cdsDidlResult, cdsDidlNumReturned, cdsDidlTotalMatch] ∧
      after.status = true := by
  unfold cdsSearchDirectchildren at ran
  split at ran
  · obtain ⟨rfl, -⟩ := Prod.mk.inj (Except.ok.inj ran)
    omega
  · obtain ⟨opened, -, ran⟩ := Outcome.bind_ok.mp ran
    obtain ⟨⟨counted, listed⟩, -, ran⟩ := Outcome.bind_ok.mp ran
    obtain ⟨closed, footer, ran⟩ := Outcome.bind_ok.mp ran
    obtain ⟨-, same⟩ := Prod.mk.inj (Except.ok.inj ran)
    obtain ⟨-, rfl⟩ := Prod.mk.inj same
    exact ⟨listing_answers active (bufferAppendf_isSome footer) _ _,
      by simp only [upnpAddResponse_status, active]⟩

theorem cdsSearch_answers {d : Dlna} {stack : VfsItem → Text → Text} {fuel : Nat}
    (ran : cdsSearch d stack fuel ev = .ok (true, after)) :
    Answers ev after [cdsDidlResult, cdsDidlNumReturned, cdsDidlTotalMatch, cdsDidlUpdateId] := by
  obtain ⟨args, criteria, filter, r, item, log, resultCount, out, replied, -, -, -, -, -, listed,
    nonnegative, active, response⟩ := cdsSearch_ok ran
  have status : { ev with log := log }.status = true := active
  obtain ⟨answers, stays⟩ := cdsSearchDirectchildren_answers status nonnegative listed
  have last := answers.then (upnpAddResponse_some stays cdsDidlUpdateId "0".toList)
  rwa [Answers, ← response] at last

theorem avtsAnswer_named (answer : Dmp → ActionEvent → Except Fault (Bool × ActionEvent))
    {players : Players} {dmp : Dmp} (active : ev.status = true)
    (named : players (toUInt32 (ev.argUi4 avtsArgInstanceId)) = some dmp) :
    ∃ log, avtsAnswer answer players ev = answer dmp { ev with log := log } := by
  obtain ⟨log, read⟩ := upnpGetUi4_eq ev avtsArgInstanceId
  refine ⟨log, ?_⟩
  rw [avtsAnswer, if_neg (by simp [active]), read]
  simp only [named]

theorem avtsAnswer_ok {answer : Dmp → ActionEvent → Except Fault (Bool × ActionEvent)}
    {players : Players} (ran : avtsAnswer answer players ev = .ok (true, after)) :
    ∃ dmp read, players (toUInt32 (ev.argUi4 avtsArgInstanceId)) = some dmp ∧
      read.status = true ∧ read.response = ev.response ∧ answer dmp read = .ok (true, after) := by
  by_cases inactive : ev.status = false
  · simp [avtsAnswer, inactive] at ran
  · have active : ev.status = true := Bool.not_eq_false _ ▸ inactive
    cases named : players (toUInt32 (ev.argUi4 avtsArgInstanceId)) with
    | none =>
        obtain ⟨log, read⟩ := upnpGetUi4_eq ev avtsArgInstanceId
        rw [avtsAnswer, if_neg inactive, read] at ran
        simp [named] at ran
    | some dmp =>
        obtain ⟨log, same⟩ := avtsAnswer_named answer active named
        rw [same] at ran
        exact ⟨dmp, { ev with log := log }, rfl, active, rfl, ran⟩

theorem addFilename_buf {item : Option DmpItem} {out : Buffer} (added : addFilename item = .ok out) :
    out.buf.isSome = item.isSome := by
  cases item with
  | none => exact Except.ok.inj added ▸ rfl
  | some item => simpa using bufferAppendf_isSome added

theorem didlAddShortItem_buf {item : DmpItem} {out filled : Buffer}
    (added : didlAddShortItem out item = .ok filled) : filled.buf.isSome := by
  simp only [didlAddShortItem, Outcome.bind_ok] at added
  obtain ⟨_, -, _, -, _, -, _, -, _, -, closed⟩ := added
  exact bufferAppendf_isSome closed

theorem addShortItem_buf {item : Option DmpItem} {out : Buffer}
    (added : addShortItem item = .ok out) : out.buf.isSome = item.isSome := by
  cases item with
  | none => exact Except.ok.inj added ▸ rfl
  | some item => simpa using didlAddShortItem_buf added

def nextArgs (next : Option DmpItem) : List Text :=
  if next.isSome then [avtsArgNextUri, avtsArgNextUriMetadata] else []

theorem avtsMediaInfo_answers {dmp : Dmp} (active : ev.status = true)
    (ran : avtsMediaInfo dmp ev = .ok (true, after)) :
    ∃ item, dmp.current = some item ∧
      Answers ev after
        ([avtsArgNrTracks, avtsArgMediaDuration, avtsArgCurrentUri, avtsArgCurrentUriMetadata] ++
          nextArgs (dmp.following item) ++
          [avtsArgPlayMedium, avtsArgRecMedium, avtsArgWriteStatus]) := by
  obtain ⟨count, -, ran⟩ := Outcome.bind_ok.mp ran
  obtain ⟨tracks, countAdded, ran⟩ := Outcome.bind_ok.mp ran
  obtain ⟨uri, uriAdded, ran⟩ := Outcome.bind_ok.mp ran
  obtain ⟨metadata, metadataAdded, ran⟩ := Outcome.bind_ok.mp ran
  have uriBuf := addFilename_buf uriAdded
  have metadataBuf := addShortItem_buf metadataAdded
  cases isCurrent : dmp.current with
  | none => simp [isCurrent] at ran
  | some item =>
      rw [isCurrent] at ran uriBuf metadataBuf
      obtain ⟨nextUri, nextUriAdded, ran⟩ := Outcome.bind_ok.mp ran
      obtain ⟨nextMetadata, nextMetadataAdded, ran⟩ := Outcome.bind_ok.mp ran
      obtain ⟨-, rfl⟩ := Prod.mk.inj (Except.ok.inj ran)
      refine ⟨item, rfl, ?_⟩
      have answers := addResponses_answers active
        [(avtsArgNrTracks, tracks.buf), (avtsArgMediaDuration, some "1".toList),
          (avtsArgCurrentUri, uri.buf), (avtsArgCurrentUriMetadata, metadata.buf),
          (avtsArgNextUri, nextUri.buf), (avtsArgNextUriMetadata, nextMetadata.buf),
          (avtsArgPlayMedium, some "NETWORK".toList), (avtsArgRecMedium, some notImplemented),
          (avtsArgWriteStatus, some notImplemented)]
      simp only [List.flatMap_cons, List.flatMap_nil, bufferAppendf_isSome countAdded, uriBuf,
        metadataBuf, addFilename_buf nextUriAdded, addShortItem_buf nextMetadataAdded] at answers
      cases isNext : dmp.following item <;> simpa [nextArgs, isNext] using answers

theorem avtsGetMinfo_answers {players : Players}
    (ran : avtsGetMinfo players ev = .ok (true, after)) :
    ∃ dmp item, players (toUInt32 (ev.argUi4 avtsArgInstanceId)) = some dmp ∧
      dmp.current = some item ∧
      Answers ev after
        ([avtsArgNrTracks, avtsArgMediaDuration, avtsArgCurrentUri, avtsArgCurrentUriMetadata] ++
          nextArgs (dmp.following item) ++
          [avtsArgPlayMedium, avtsArgRecMedium, avtsArgWriteStatus]) := by
  obtain ⟨dmp, read, named, active, same, ran⟩ := avtsAnswer_ok ran
  obtain ⟨item, isCurrent, answers⟩ := avtsMediaInfo_answers active ran
  exact ⟨dmp, item, named, isCurrent, answers.of_response same⟩

theorem avtsGetMinfoExt_answers {players : Players}
    (ran : avtsGetMinfoExt players ev = .ok (true, after)) :
    ∃ dmp item, players (toUInt32 (ev.argUi4 avtsArgInstanceId)) = some dmp ∧
      dmp.current = some item ∧
      Answers ev after
        ([avtsArgCurrentType, avtsArgNrTracks, avtsArgMediaDuration, avtsArgCurrentUri,
            avtsArgCurrentUriMetadata] ++
          nextArgs (dmp.following item) ++
          [avtsArgPlayMedium, avtsArgRecMedium, avtsArgWriteStatus]) := by
  obtain ⟨dmp, read, named, active, same, ran⟩ := avtsAnswer_ok ran
  have first := upnpAddResponse_some active avtsArgCurrentType "TRACK_AWARE".toList
  obtain ⟨item, isCurrent, answers⟩ :=
    avtsMediaInfo_answers ((upnpAddResponse_status ..).trans active) ran
  exact ⟨dmp, item, named, isCurrent, (first.then answers).of_response same⟩

theorem avtsGetInfo_answers {players : Players}
    (ran : avtsGetInfo players ev = .ok (true, after)) :
    Answers ev after [avtsArgState, avtsArgStatus, avtsArgCurrentSpeed] := by
  obtain ⟨dmp, read, -, active, same, ran⟩ := avtsAnswer_ok ran
  obtain ⟨-, rfl⟩ := Prod.mk.inj (Except.ok.inj ran)
  have answers := addResponses_answers active
    [(avtsArgState, some (transportState dmp.state)), (avtsArgStatus, some "OK".toList),
      (avtsArgCurrentSpeed, some "1".toList)]
  exact answers.of_response same

theorem avtsGetPosInfo_answers {players : Players}
    (ran : avtsGetPosInfo players ev = .ok (true, after)) :
    ∃ rest, Answers ev after ([avtsArgTrack, avtsArgTrack] ++ rest) := by
  obtain ⟨dmp, read, -, active, same, ran⟩ := avtsAnswer_ok ran
  obtain ⟨track, added, ran⟩ := Outcome.bind_ok.mp ran
  obtain ⟨duration, -, ran⟩ := Outcome.bind_ok.mp ran
  obtain ⟨uri, -, ran⟩ := Outcome.bind_ok.mp ran
  obtain ⟨-, rfl⟩ := Prod.mk.inj (Except.ok.inj ran)
  have answers := addResponses_answers active
    [(avtsArgTrack, track.buf), (avtsArgTrack, some []), (avtsArgTrackDuration, duration.buf),
      (avtsArgTrackMetadata, some notImplemented), (avtsArgTrackUri, uri.buf),
      (avtsArgRtime, some notImplemented), (avtsArgAtime, some notImplemented),
      (avtsArgRcount, some notImplemented), (avtsArgAcount, some notImplemented)]
  rw [List.flatMap_cons, List.flatMap_cons, bufferAppendf_isSome added, ← List.append_assoc] at answers
  exact ⟨_, answers.of_response same⟩

theorem avtsGetDevCaps_answers {players : Players}
    (ran : avtsGetDevCaps players ev = .ok (true, after)) :
    Answers ev after [avtsArgPlayMedia, avtsArgRecMedia, avtsArgRecQualityModes] := by
  obtain ⟨dmp, read, -, active, same, ran⟩ := avtsAnswer_ok ran
  obtain ⟨-, rfl⟩ := Prod.mk.inj (Except.ok.inj ran)
  have answers := addResponses_answers active
    [(avtsArgPlayMedia, some "NETWORK".toList), (avtsArgRecMedia, some notImplemented),
      (avtsArgRecQualityModes, some notImplemented)]
  exact answers.of_response same

theorem avtsGetSettings_answers {players : Players}
    (ran : avtsGetSettings players ev = .ok (true, after)) :
    Answers ev after [avtsArgPlayMode, avtsArgRecQuality] := by
  obtain ⟨dmp, read, -, active, same, ran⟩ := avtsAnswer_ok ran
  obtain ⟨-, rfl⟩ := Prod.mk.inj (Except.ok.inj ran)
  have answers := addResponses_answers active
    [(avtsArgPlayMode, some "NORMAL".toList), (avtsArgRecQuality, some notImplemented)]
  exact answers.of_response same

theorem avtsAnswer_nothing {players : Players}
    (ran : avtsAnswer (fun _ ev => .ok (ev.status, ev)) players ev = .ok (true, after)) :
    Answers ev after [] := by
  obtain ⟨dmp, read, -, -, same, ran⟩ := avtsAnswer_ok ran
  obtain ⟨-, rfl⟩ := Prod.mk.inj (Except.ok.inj ran)
  exact .nothing same

theorem avtsPlay_answers {players : Players} (ran : avtsPlay players ev = .ok (true, after)) :
    Answers ev after [] := by
  obtain ⟨dmp, called, -, -, same, ran⟩ := avtsAnswer_ok ran
  obtain ⟨log, read⟩ := upnpGetUi4_eq called avtsArgSpeed
  rw [read] at ran
  obtain ⟨-, rfl⟩ := Prod.mk.inj (Except.ok.inj ran)
  exact .nothing same

@[simp] theorem releaseText_response (ev : ActionEvent) (text : Option OwnedText) :
    (releaseText ev text).response = ev.response := by
  cases text <;> rfl

theorem uriArguments_eq (ev : ActionEvent) (uriKey metadataKey : Text) :
    ∃ uri metadata log log' log'',
      upnpGetUi4 ev avtsArgInstanceId =
        (ev.argUi4 avtsArgInstanceId, { ev with log := log }) ∧
      upnpGetString { ev with log := log } uriKey = (uri, { ev with log := log' }) ∧
      upnpGetString { ev with log := log' } metadataKey = (metadata, { ev with log := log'' }) := by
  obtain ⟨log, readId⟩ := upnpGetUi4_eq ev avtsArgInstanceId
  obtain ⟨uri, log', readUri, -⟩ := upnpGetString_eq { ev with log := log } uriKey
  obtain ⟨metadata, log'', readMetadata, -⟩ :=
    upnpGetString_eq { ev with log := log' } metadataKey
  exact ⟨uri, metadata, log, log', log'', readId, readUri, readMetadata⟩

theorem avtsSetUriAnswer_answers (ran : avtsSetUriAnswer ev = .ok (true, after)) :
    Answers ev after [] := by
  unfold avtsSetUriAnswer at ran
  split at ran
  · simp at ran
  · obtain ⟨uri, metadata, log, log', log'', readId, readUri, readMetadata⟩ :=
      uriArguments_eq ev avtsArgCurrentUri avtsArgCurrentUriMetadata
    simp only [readId, readUri, readMetadata] at ran
    obtain ⟨-, rfl⟩ := Prod.mk.inj (Except.ok.inj ran)
    exact .nothing (by simp)

theorem avtsSetNextUriAnswer_answers {players : Players}
    (ran : avtsSetNextUriAnswer players ev = .ok (true, after)) : Answers ev after [] := by
  unfold avtsSetNextUriAnswer at ran
  split at ran
  · simp at ran
  · obtain ⟨uri, metadata, log, log', log'', readId, readUri, readMetadata⟩ :=
      uriArguments_eq ev avtsArgNextUri avtsArgNextUriMetadata
    simp only [readId, readUri, readMetadata] at ran
    split at ran
    · simp at ran
    · obtain ⟨-, rfl⟩ := Prod.mk.inj (Except.ok.inj ran)
      exact .nothing (by simp)

end Libdlna
