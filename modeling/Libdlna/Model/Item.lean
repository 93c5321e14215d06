import Libdlna.Shared.CString

set_option autoImplicit false

namespace Libdlna

open CString

/-- The ways in which the C code leaves its defined behaviour, or does not return. -/
inductive Fault where
  | nullDeref
  | wrongUnionMember
  | useAfterFree
  | outOfBounds
  | signedOverflow
  | divisionByZero
  | notInTable
  | consumedArguments
  | noReturn
  | indeterminateValue
  deriving DecidableEq

inductive CapabilityMode where
  | dlna
  | upnpAv
  | upnpAvXbox
  deriving DecidableEq

inductive MediaClass where
  | unknown
  | image
  | audio
  | av
  | collection
  deriving DecidableEq

inductive Conversion where
  | none
  | transcoded
  deriving DecidableEq

def Conversion.code : Conversion → Nat
  | .none => 0
  | .transcoded => 1

def isProfileChar (c : Char) : Bool := c.isAlphanum || c ∈ ['-', '_', '.', '/', ';', '=', '+']

abbrev ProfileText := { s : Text // s.length ≤ 64 ∧ s.all isProfileChar = true }

structure DlnaProfile where
  id : Option ProfileText
  mime : Option ProfileText
  mediaClass : MediaClass
  -- whether get_properties, get_metadata and free are set, as the ffmpeg profiler does
  callbacks : Bool
  deriving DecidableEq

structure DlnaMetadata where
  title : Option Text
  author : Option Text
  comment : Option Text
  album : Option Text
  track : UInt32
  genre : Option Text
  deriving DecidableEq

structure DlnaProperties where
  duration : Text
  bitrate : UInt32
  sampleFrequency : UInt32
  bps : UInt32
  channels : UInt32
  resolution : Text
  deriving DecidableEq

structure DlnaItem where
  filename : Text
  filesize : Int
  properties : Option DlnaProperties
  metadata : Option DlnaMetadata
  profile : Option DlnaProfile
  profileCookie : Bool
  deriving DecidableEq

/-- What `stat` and the profiler answer for a file at the time of a call. -/
structure Probe where
  size : Option Int
  profile : Option DlnaProfile
  cookie : Bool
  properties : Option DlnaProperties
  metadata : Option DlnaMetadata

def mp3Profile : DlnaProfile where
  id := some ⟨"MP3".toList, by decide⟩
  mime := some ⟨"audio/mpeg".toList, by decide⟩
  mediaClass := .audio
  callbacks := true

def mp3Probe : Probe where
  size := some 1000
  profile := some mp3Profile
  cookie := true
  properties := none
  metadata := none

def textProbe : Probe where
  size := some 1000
  profile := none
  cookie := false
  properties := none
  metadata := none

def dlnaItemNew (filename : Text) (probe : Probe) : Option DlnaItem :=
  match probe.profile with
  | none => none
  | some profile =>
      some
        { filename := filename
          filesize := probe.size.getD (-1)
          properties := if profile.callbacks then probe.properties else none
          metadata := if profile.callbacks then probe.metadata else none
          profile := some profile
          profileCookie := probe.cookie }

theorem dlnaItemNew_filename {filename : Text} {probe : Probe} {item : DlnaItem}
    (made : dlnaItemNew filename probe = some item) : item.filename = filename := by
  unfold dlnaItemNew at made
  split at made
  · simp at made
  · simp only [Option.some.injEq] at made
    rw [← made]

def dlnaItemFree (item : DlnaItem) : Except Fault Unit :=
  match item.profile with
  | none => .error .nullDeref
  | some profile =>
      -- the extension profiler's free is NULL, and media_profile_free follows the cookie
      if profile.callbacks && item.profileCookie then .ok () else .error .nullDeref

def dlnaProfileUpnpObjectItem (profile : DlnaProfile) : Option Text :=
  match profile.mediaClass with
  | .image => some "object.item.imageItem.photo".toList
  | .audio => some "object.item.audioItem.musicTrack".toList
  | .av => some "object.item.videoItem.movie".toList
  | .unknown | .collection => none

def dlnaOrgPlaySpeedNormal : Nat := 1
def dlnaOrgOperationRange : Nat := 1

/-- `dlna_write_protocol_info` for `DLNA_PROTOCOL_INFO_TYPE_HTTP`, the only type it is called
with. -/
def dlnaWriteProtocolInfo (mode : CapabilityMode) (speed : Nat) (ci : Conversion) (op : Nat)
    (flags : UInt32) (profile : DlnaProfile) : Except Fault Text :=
  match profile.mime with
  | none => .error .nullDeref
  | some mime =>
      let protocol := "http-get:*:".toList ++ mime.val ++ ":".toList
      match profile.id with
      | some id =>
          if mode ≠ .dlna then
            .ok (protocol ++ "DLNA.ORG_PS=".toList ++ decimal speed ++
              ";DLNA.ORG_CI=".toList ++ decimal ci.code ++
              ";DLNA.ORG_OP=".toList ++ hexPadded 2 op ++
              ";DLNA.ORG_PN=".toList ++ id.val ++
              ";DLNA.ORG_FLAGS=".toList ++ hexPadded 8 flags.toNat ++ hexPadded 24 0)
          else .ok (protocol ++ "*".toList)
      | none => .ok (protocol ++ "*".toList)

end Libdlna
