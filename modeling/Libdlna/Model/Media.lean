import Libdlna.Model.Item

set_option autoImplicit false

namespace Libdlna

open CString

inductive CodecId where
  | mjpeg
  | mjpegb
  | ljpeg
  | jpegls
  | png
  | ac3
  | amrNb
  | amrWb
  | atrac3
  | adpcmG726
  | pcmS16be
  | pcmS16le
  | mp2
  | mp3
  | aac
  | wmav1
  | wmav2
  | mpeg1video
  | mpeg2video
  | h263
  | h263i
  | h263p
  | mpeg4
  | msmpeg4v1
  | msmpeg4v2
  | msmpeg4v3
  | h264
  | wmv3
  -- one that no probe names
  | other
  deriving DecidableEq

inductive MediaType where
  | video
  | audio
  | other
  deriving DecidableEq

def intSub (a b : Int32) : Except Fault Int32 :=
  if a.toInt - b.toInt < -2 ^ 31 ∨ 2 ^ 31 ≤ a.toInt - b.toInt then .error .signedOverflow
  else .ok (a - b)

def intDiv (a b : Int32) : Except Fault Int32 :=
  if b = 0 then .error .divisionByZero
  else if a = Int32.minValue ∧ b = -1 then .error .signedOverflow
  else .ok (a / b)

structure AvRational where
  num : Int32
  den : Int32
  deriving DecidableEq

structure AvCodecContext where
  codecType : MediaType
  codecId : CodecId
  width : Int32
  height : Int32
  bitRate : Int32
  sampleRate : Int32
  channels : Int32
  -- with extradata_size as its length
  extradata : Option (List UInt8)
  deriving DecidableEq

structure AvStream where
  codec : AvCodecContext
  rFrameRate : AvRational
  deriving DecidableEq

/-- A file as `open` and `read` find it: what it does not fill of a buffer stays as it was. -/
structure FileBytes where
  contents : List UInt8
  stale : Nat → UInt8

def FileBytes.read (file : FileBytes) (size i : Nat) : UInt8 :=
  if i < size then file.contents.getD i (file.stale i) else file.stale i

structure AvFormatContext where
  filename : Text
  file : FileBytes
  iformatName : Text
  streams : List AvStream
  bitRate : Int32

/-- `av_codecs_t`: `audio` is the stream of `as` and `ac`, `video` that of `vs` and `vc`. -/
structure AvCodecs where
  audio : Option AvStream
  video : Option AvStream

def AvCodecs.ac (codecs : AvCodecs) : Option AvCodecContext := codecs.audio.map AvStream.codec

/-- `av_profile_get_codecs`: the first stream of either type. -/
def avProfileGetCodecs (ctx : AvFormatContext) : Option AvCodecs :=
  let audio := ctx.streams.find? fun stream => stream.codec.codecType = .audio
  let video := ctx.streams.find? fun stream => stream.codec.codecType = .video
  if audio.isNone && video.isNone then none else some { audio, video }

def getFileExtension (filename : Text) : Option Text := (strrchr '.' filename).map List.tail

def strcasecmp (s t : Text) : Bool := s.map Char.toLower = t.map Char.toLower

/-- `match_file_extension` from `p` on, with `token` in `ext1` so far. A token is cut at 31
characters, and the character that ends it is skipped. -/
def matchTokens (ext : Text) : (token p : Text) → Bool
  | token, [] => strcasecmp token ext
  | token, c :: rest =>
      if c ≠ ',' ∧ token.length < 31 then matchTokens ext (token ++ [c]) rest
      else strcasecmp token ext || matchTokens ext [] rest

def matchFileExtension (filename extensions : Text) : Bool :=
  match getFileExtension filename with
  | some ext => matchTokens ext [] extensions
  | none => false

inductive ContainerType where
  | unknown
  | image
  | asf
  | amr
  | aac
  | ac3
  | mp3
  | wav
  | mov
  | threeGp
  | mp4
  | ffMpeg
  | ffMpegTs
  | mpegElementaryStream
  | mpegProgramStream
  | mpegTransportStream
  | mpegTransportStreamDlna
  | mpegTransportStreamDlnaNoTs
  deriving DecidableEq

def mpegPackHeader : UInt8 := 0xba
def mpegTsSyncCode : UInt8 := 0x47
def mpegTsPacketLength : Nat := 188
def mpegTsPacketLengthDlna : Nat := 192

def avfFormatMapping : List (Text × ContainerType) :=
  [("image2".toList, .image),
    ("asf".toList, .asf),
    ("amr".toList, .amr),
    ("aac".toList, .aac),
    ("ac3".toList, .ac3),
    ("mp3".toList, .mp3),
    ("wav".toList, .wav),
    ("mov,mp4,m4a,3gp,3g2,mj2".toList, .mov),
    ("mpeg".toList, .ffMpeg),
    ("mpegts".toList, .ffMpegTs)]

def mpegFindContainerType (file : FileBytes) : ContainerType :=
  let buffer := file.read (2 * mpegTsPacketLengthDlna)
  let synced (length i : Nat) : Bool :=
    buffer i = mpegTsSyncCode && buffer (i + length) = mpegTsSyncCode
  if (List.range mpegTsPacketLength).any (synced mpegTsPacketLength) then .mpegTransportStream
  else
    match (List.range mpegTsPacketLengthDlna).find? (synced mpegTsPacketLengthDlna) with
    | some i =>
        -- the sync byte itself is taken for the first byte of the timestamp
        if buffer i = 0 ∧ buffer (i + 1) = 0 ∧ buffer (i + 2) = 0 ∧ buffer (i + 3) = 0 then
          .mpegTransportStreamDlnaNoTs
        else .mpegTransportStreamDlna
    | none =>
        if buffer 0 = 0 ∧ buffer 1 = 0 ∧ buffer 2 = 1 then
          if buffer 3 = mpegPackHeader then .mpegProgramStream else .mpegElementaryStream
        else .unknown

def movFindContainerType (filename : Text) : Except Fault ContainerType :=
  match getFileExtension filename with
  | none => .error .nullDeref
  | some extension =>
      if strcasecmp extension "3gp".toList || strcasecmp extension "3gpp".toList ||
          strcasecmp extension "3g2".toList then .ok .threeGp
      else .ok .mp4

def streamGetContainer (ctx : AvFormatContext) : Except Fault ContainerType :=
  match avfFormatMapping.find? fun format => format.1 = ctx.iformatName with
  | none => .ok .unknown
  | some (_, .ffMpeg) | some (_, .ffMpegTs) => .ok (mpegFindContainerType ctx.file)
  | some (_, .mov) => movFindContainerType ctx.filename
  | some (_, type) => .ok type

def streamCtxIsImage (ctx : AvFormatContext) (codecs : AvCodecs) : Except Fault Bool :=
  if 1 < ctx.streams.length then .ok false
  else (streamGetContainer ctx).map fun st => st = .image && codecs.video.isSome

def streamCtxIsAudio (codecs : AvCodecs) : Bool := codecs.audio.isSome && codecs.video.isNone

def streamCtxIsAv (codecs : AvCodecs) : Bool := codecs.audio.isSome && codecs.video.isSome

def spelledText {l : Text} (s : String) (_spelled : s = String.ofList l := by rfl)
    (fits : l.length ≤ 64 ∧ l.all isProfileChar = true := by decide) : ProfileText :=
  ⟨l, fits⟩

structure StaticProfile where
  id : ProfileText
  mime : Option ProfileText
  deriving DecidableEq

inductive MediaProfile where
  | imageJpeg
  | imagePng
  | audioAc3
  | audioAmr
  | audioAtrac3
  | audioLpcm
  | audioMp3
  | audioMpeg4
  | audioWma
  | avMpeg1
  | avMpeg2
  | avMpeg4Part2
  | avMpeg4Part10
  | avWmv9
  deriving DecidableEq

inductive ProfileRef where
  -- no two static objects are initialized alike, so that the initializer names the object
  | static (profile : StaticProfile)
  -- the static variable of probe_lpcm
  | lpcmCopy
  -- an entry of the constant mime_type_list
  | listed (profile : DlnaProfile)
  deriving DecidableEq

/-- The members of the profile objects that the profiler writes. -/
structure ProfileMemory where
  mediaClass : StaticProfile → MediaClass
  callbacks : StaticProfile → Bool
  lpcmCopy : DlnaProfile

def ProfileMemory.get (memory : ProfileMemory) : ProfileRef → DlnaProfile
  | .static profile =>
      { id := some profile.id
        mime := profile.mime
        mediaClass := memory.mediaClass profile
        callbacks := memory.callbacks profile }
  | .lpcmCopy => memory.lpcmCopy
  | .listed profile => profile

/-- `registered_profile_t`. A probe may write to the codecs and to its static variables. -/
structure RegisteredProfile where
  id : MediaProfile
  mediaClass : MediaClass
  extensions : Text
  profiles : List StaticProfile
  probe : AvFormatContext → AvCodecs → ProfileMemory →
    Except Fault (Option ProfileRef × AvCodecs × ProfileMemory)

def readOnlyProbe (probe : AvFormatContext → AvCodecs → Except Fault (Option StaticProfile))
    (ctx : AvFormatContext) (codecs : AvCodecs) (memory : ProfileMemory) :
    Except Fault (Option ProfileRef × AvCodecs × ProfileMemory) :=
  (probe ctx codecs).map fun found => (found.map .static, codecs, memory)

def mimeImageJpeg : ProfileText := spelledText "image/jpeg"
def mimeImagePng : ProfileText := spelledText "image/png"
def mimeAudio3gp : ProfileText := spelledText "audio/3gpp"
def mimeAudioAdts : ProfileText := spelledText "audio/vnd.dlna.adts"
def mimeAudioAtrac : ProfileText := spelledText "audio/x-sony-oma"
def mimeAudioDolbyDigital : ProfileText := spelledText "audio/vnd.dolby.dd-raw"
def mimeAudioLpcm : ProfileText := spelledText "audio/L16"
def mimeAudioMpeg : ProfileText := spelledText "audio/mpeg"
def mimeAudioMpeg4 : ProfileText := spelledText "audio/mp4"
def mimeAudioWma : ProfileText := spelledText "audio/x-ms-wma"
def mimeVideo3gp : ProfileText := spelledText "video/3gpp"
def mimeVideoAsf : ProfileText := spelledText "video/x-ms-asf"
def mimeVideoMpeg : ProfileText := spelledText "video/mpeg"
def mimeVideoMpeg4 : ProfileText := spelledText "video/mp4"
def mimeVideoMpegTs : ProfileText := spelledText "video/vnd.dlna.mpeg-tts"
def mimeVideoWmv : ProfileText := spelledText "video/x-ms-wmv"

end Libdlna
