import Libdlna.Model.Avts
import Libdlna.Model.Didl
import Libdlna.Model.Upnp

set_option autoImplicit false

/-!
# Answers about media players

What a request does to the player it names is an `AvtsAction`; here is what it is answered.
-/

namespace Libdlna

open CString

def avtsErrActionFailed : Nat := 501
def avtsErrInvalidInstance : Nat := 718

def avtsArgInstanceId : Text := "InstanceID".toList
def avtsArgCurrentUri : Text := "CurrentURI".toList
def avtsArgNextUri : Text := "NextURI".toList
def avtsArgCurrentUriMetadata : Text := "CurrentURIMetaData".toList
def avtsArgNextUriMetadata : Text := "NextURIMetaData".toList
def avtsArgSpeed : Text := "Speed".toList
def avtsArgCurrentSpeed : Text := "CurrentSpeed".toList
def avtsArgMediaDuration : Text := "MediaDuration".toList
def avtsArgPlayMedium : Text := "PlayMedium".toList
def avtsArgPlayMedia : Text := "PlayMedia".toList
def avtsArgRecMedium : Text := "RecordMedium".toList
def avtsArgRecMedia : Text := "RecMedia".toList
def avtsArgRecQualityModes : Text := "RecQualityModes".toList
def avtsArgWriteStatus : Text := "WriteStatus".toList
def avtsArgCurrentType : Text := "CurrentType".toList
def avtsArgNrTracks : Text := "NrTracks".toList
def avtsArgState : Text := "CurrentTransportState".toList
def avtsArgStatus : Text := "CurrentTransportStatus".toList
def avtsArgTrack : Text := "Track".toList
def avtsArgTrackDuration : Text := "TrackDuration".toList
def avtsArgTrackMetadata : Text := "TrackMetaData".toList
def avtsArgTrackUri : Text := "TrackURI".toList
def avtsArgRtime : Text := "RelTime".toList
def avtsArgAtime : Text := "AbsTime".toList
def avtsArgRcount : Text := "RelCount".toList
def avtsArgAcount : Text := "AbsCount".toList
def avtsArgPlayMode : Text := "PlayMode".toList
def avtsArgRecQuality : Text := "RecQualityMode".toList

def notImplemented : Text := "NOT_IMPLEMENTED".toList

def didlAddShortTag (out : Buffer) (tag : Text) (value : Option Text) : Except Fault Buffer :=
  match value with
  | none => .error .nullDeref
  | some text =>
      if 1 < text.length then do
        let (_, out) ← didlAddTag out tag (some text)
        .ok out
      else .ok out

def didlAddShortTitle (out : Buffer) (item : DlnaItem) : Except Fault Buffer :=
  match item.metadata with
  | none => do
      let (_, out) ← didlAddTag out "dc:title".toList (some item.filename)
      .ok out
  | some metadata =>
      match metadata.title with
      | none => .error .nullDeref
      | some title => do
          let (_, out) ← didlAddTag out "dc:title".toList
            (some (if 1 < title.length then title else item.filename))
          .ok out

def didlAddShortMetadata (out : Buffer) (metadata : DlnaMetadata) : Except Fault Buffer := do
  let out ← didlAddShortTag out "dc:artist".toList metadata.author
  let out ← didlAddShortTag out "dc:description".toList metadata.comment
  let out ← didlAddShortTag out "upnp:album".toList metadata.album
  let out ← (if metadata.track ≠ 0 then
      didlAddValue out "upnp:originalTrackNumber".toList metadata.track.toNat
    else .ok out)
  didlAddShortTag out "upnp:genre".toList metadata.genre

def didlAddShortItem (out : Buffer) (item : DmpItem) : Except Fault Buffer := do
  let out ← bufferAppendf out "<item".toList
  let out ← didlAddValue out "id".toList item.id.toNat
  let out ← didlAddValue out "parentID".toList 0
  let out := bufferAppend out ">".toList
  let out ← didlAddShortTitle out item.item
  let out ← (match item.item.metadata with
    | some metadata => didlAddShortMetadata out metadata
    | none => .ok out)
  bufferAppendf out "</item>".toList

/-- The count leaves out the first item, and reads its link without looking whether it is there. -/
def playlistCount (dmp : Dmp) : Except Fault Nat :=
  if dmp.playlist = [] then .error .nullDeref else .ok (dmp.playlist.length - 1)

def playlistIndex (dmp : Dmp) (item : Nat) : Nat :=
  if item ∈ dmp.playlist then dmp.playlist.idxOf item else 0

namespace Dmp

variable (dmp : Dmp)

def current : Option DmpItem := dmp.currentItem.bind fun r => dmp.items[r]?

def following (item : DmpItem) : Option DmpItem := item.next.bind fun r => dmp.items[r]?

end Dmp

def addFilename (item : Option DmpItem) : Except Fault Buffer :=
  match item with
  | some item => bufferAppendf bufferNew item.item.filename
  | none => .ok bufferNew

def addShortItem (item : Option DmpItem) : Except Fault Buffer :=
  match item with
  | some item => didlAddShortItem bufferNew item
  | none => .ok bufferNew

abbrev Players := UInt32 → Option Dmp

def avtsAnswer (answer : Dmp → ActionEvent → Except Fault (Bool × ActionEvent)) (players : Players)
    (ev : ActionEvent) : Except Fault (Bool × ActionEvent) :=
  if ev.status = false then .ok (false, ev.fail avtsErrActionFailed)
  else
    let (instanceID, ev) := upnpGetUi4 ev avtsArgInstanceId
    match players (toUInt32 instanceID) with
    | none => .ok (false, ev.fail avtsErrInvalidInstance)
    | some dmp => answer dmp ev

def addResponses (ev : ActionEvent) (pairs : List (Text × Option Text)) : ActionEvent :=
  pairs.foldl (fun ev pair => upnpAddResponse ev pair.1 pair.2) ev

def avtsMediaInfo (dmp : Dmp) (ev : ActionEvent) : Except Fault (Bool × ActionEvent) := do
  let count ← playlistCount dmp
  let tracks ← bufferAppendf bufferNew (decimal count)
  let uri ← addFilename dmp.current
  let metadata ← addShortItem dmp.current
  match dmp.current with
  | none => .error .nullDeref
  | some item => do
      let nextUri ← addFilename (dmp.following item)
      let nextMetadata ← addShortItem (dmp.following item)
      let ev := addResponses ev
        [(avtsArgNrTracks, tracks.buf), (avtsArgMediaDuration, some "1".toList),
          (avtsArgCurrentUri, uri.buf), (avtsArgCurrentUriMetadata, metadata.buf),
          (avtsArgNextUri, nextUri.buf), (avtsArgNextUriMetadata, nextMetadata.buf),
          (avtsArgPlayMedium, some "NETWORK".toList), (avtsArgRecMedium, some notImplemented),
          (avtsArgWriteStatus, some notImplemented)]
      .ok (ev.status, ev)

def avtsGetMinfo : Players → ActionEvent → Except Fault (Bool × ActionEvent) :=
  avtsAnswer avtsMediaInfo

def avtsGetMinfoExt : Players → ActionEvent → Except Fault (Bool × ActionEvent) :=
  avtsAnswer fun dmp ev =>
    avtsMediaInfo dmp (upnpAddResponse ev avtsArgCurrentType (some "TRACK_AWARE".toList))

def transportState : PlayState → Text
  | .noMedia => "NO_MEDIA_PRESENT".toList
  | .stopped => "STOPPED".toList
  | .playing => "PLAYING".toList
  | .transitioning => "TRANSITIONING".toList
  | .pausing => "PAUSED_PLAYBACK".toList
  | .recording => "RECORDING".toList

def avtsGetInfo : Players → ActionEvent → Except Fault (Bool × ActionEvent) :=
  avtsAnswer fun dmp ev =>
    let ev := addResponses ev
      [(avtsArgState, some (transportState dmp.state)), (avtsArgStatus, some "OK".toList),
        (avtsArgCurrentSpeed, some "1".toList)]
    .ok (ev.status, ev)

def addDuration (item : Option DmpItem) : Except Fault Buffer :=
  match item.bind fun item => item.item.properties with
  | some properties => bufferAppendf bufferNew properties.duration
  | none => .ok bufferNew

def avtsGetPosInfo : Players → ActionEvent → Except Fault (Bool × ActionEvent) :=
  avtsAnswer fun dmp ev => do
    let index := (dmp.currentItem.map (playlistIndex dmp)).getD 0
    let track ← bufferAppendf bufferNew (decimal index)
    let duration ← addDuration dmp.current
    let uri ← addFilename dmp.current
    let ev := addResponses ev
      [(avtsArgTrack, track.buf), (avtsArgTrack, some []), (avtsArgTrackDuration, duration.buf),
        (avtsArgTrackMetadata, some notImplemented), (avtsArgTrackUri, uri.buf),
        (avtsArgRtime, some notImplemented), (avtsArgAtime, some notImplemented),
        (avtsArgRcount, some notImplemented), (avtsArgAcount, some notImplemented)]
    .ok (ev.status, ev)

def avtsGetDevCaps : Players → ActionEvent → Except Fault (Bool × ActionEvent) :=
  avtsAnswer fun _ ev =>
    let ev := addResponses ev
      [(avtsArgPlayMedia, some "NETWORK".toList), (avtsArgRecMedia, some notImplemented),
        (avtsArgRecQualityModes, some notImplemented)]
    .ok (ev.status, ev)

def avtsGetSettings : Players → ActionEvent → Except Fault (Bool × ActionEvent) :=
  avtsAnswer fun _ ev =>
    let ev := addResponses ev
      [(avtsArgPlayMode, some "NORMAL".toList), (avtsArgRecQuality, some notImplemented)]
    .ok (ev.status, ev)

def avtsPlay : Players → ActionEvent → Except Fault (Bool × ActionEvent) :=
  avtsAnswer fun _ ev =>
    let (_, ev) := upnpGetUi4 ev avtsArgSpeed
    .ok (ev.status, ev)

/-- The answer of `avts_stop`, should `ithread_join` return. -/
def avtsStop : Players → ActionEvent → Except Fault (Bool × ActionEvent) :=
  avtsAnswer fun _ ev => .ok (ev.status, ev)

def avtsPause : Players → ActionEvent → Except Fault (Bool × ActionEvent) :=
  avtsAnswer fun _ ev => .ok (ev.status, ev)

def avtsNext : Players → ActionEvent → Except Fault (Bool × ActionEvent) :=
  avtsAnswer fun _ ev => .ok (ev.status, ev)

def avtsPrevious : Players → ActionEvent → Except Fault (Bool × ActionEvent) :=
  avtsAnswer fun _ ev => .ok (ev.status, ev)

def releaseText (ev : ActionEvent) (text : Option OwnedText) : ActionEvent :=
  match text with
  | some text => ev.release text.handle
  | none => ev

def avtsSetUriAnswer (ev : ActionEvent) : Except Fault (Bool × ActionEvent) :=
  if ev.status = false then .ok (false, ev.fail avtsErrActionFailed)
  else
    let (_, ev) := upnpGetUi4 ev avtsArgInstanceId
    let (uri, ev) := upnpGetString ev avtsArgCurrentUri
    let (metadata, ev) := upnpGetString ev avtsArgCurrentUriMetadata
    let ev := releaseText (releaseText ev uri) metadata
    .ok (ev.status, ev)

/-- The answer of `avts_set_next_uri`, which keeps both texts if the player is missing. -/
def avtsSetNextUriAnswer (players : Players) (ev : ActionEvent) :
    Except Fault (Bool × ActionEvent) :=
  if ev.status = false then .ok (false, ev.fail avtsErrActionFailed)
  else
    let (instanceID, ev) := upnpGetUi4 ev avtsArgInstanceId
    let (uri, ev) := upnpGetString ev avtsArgNextUri
    let (metadata, ev) := upnpGetString ev avtsArgNextUriMetadata
    match players (toUInt32 instanceID) with
    | none => .ok (false, ev.fail avtsErrInvalidInstance)
    | some _ =>
        let ev := releaseText (releaseText ev uri) metadata
        .ok (ev.status, ev)

end Libdlna
