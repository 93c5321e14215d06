import Libdlna.Model.AvProfiles
import Libdlna.Model.ImageProfiles
import Libdlna.Model.Mpeg4Part10

set_option autoImplicit false

namespace Libdlna

open CString

structure MimeType where
  extension : Text
  profile : DlnaProfile

def mimeType (extension : String) (mime : ProfileText) (mediaClass : MediaClass) : MimeType where
  extension := extension.toList
  profile := { id := none, mime := some mime, mediaClass, callbacks := false }

def mimeTypeList : List MimeType :=
  [mimeType "asf" mimeVideoAsf .av,
    mimeType "avc" (spelledText "video/avi") .av,
    mimeType "avi" (spelledText "video/avi") .av,
    mimeType "dv" (spelledText "video/x-dv") .av,
    mimeType "divx" (spelledText "video/avi") .av,
    mimeType "wmv" mimeVideoWmv .av,
    mimeType "mjpg" (spelledText "video/x-motion-jpeg") .av,
    mimeType "mjpeg" (spelledText "video/x-motion-jpeg") .av,
    mimeType "mpeg" mimeVideoMpeg .av,
    mimeType "mpg" mimeVideoMpeg .av,
    mimeType "mpe" mimeVideoMpeg .av,
    mimeType "mp2p" (spelledText "video/mp2p") .av,
    mimeType "vob" (spelledText "video/mp2p") .av,
    mimeType "mp2t" (spelledText "video/mp2t") .av,
    mimeType "m1v" mimeVideoMpeg .av,
    mimeType "m2v" (spelledText "video/mpeg2") .av,
    mimeType "mpg2" (spelledText "video/mpeg2") .av,
    mimeType "mpeg2" (spelledText "video/mpeg2") .av,
    mimeType "m4v" mimeVideoMpeg4 .av,
    mimeType "m4p" mimeVideoMpeg4 .av,
    mimeType "mp4" mimeVideoMpeg4 .av,
    mimeType "mp4ps" (spelledText "video/x-nerodigital-ps") .av,
    mimeType "ts" (spelledText "video/mpeg2") .av,
    mimeType "ogm" mimeVideoMpeg .av,
    mimeType "mkv" mimeVideoMpeg .av,
    mimeType "rmvb" mimeVideoMpeg .av,
    mimeType "mov" (spelledText "video/quicktime") .av,
    mimeType "hdmov" (spelledText "video/quicktime") .av,
    mimeType "qt" (spelledText "video/quicktime") .av,
    mimeType "bin" (spelledText "video/mpeg2") .av,
    mimeType "iso" (spelledText "video/mpeg2") .av,
    mimeType "3gp" mimeAudio3gp .audio,
    mimeType "aac" (spelledText "audio/x-aac") .audio,
    mimeType "ac3" (spelledText "audio/x-ac3") .audio,
    mimeType "aif" (spelledText "audio/aiff") .audio,
    mimeType "aiff" (spelledText "audio/aiff") .audio,
    mimeType "at3p" (spelledText "audio/x-atrac3") .audio,
    mimeType "au" (spelledText "audio/basic") .audio,
    mimeType "snd" (spelledText "audio/basic") .audio,
    mimeType "dts" (spelledText "audio/x-dts") .audio,
    mimeType "rmi" (spelledText "audio/midi") .audio,
    mimeType "mid" (spelledText "audio/midi") .audio,
    mimeType "mp1" (spelledText "audio/mp1") .audio,
    mimeType "mp2" (spelledText "audio/mp2") .audio,
    mimeType "mp3" mimeAudioMpeg .audio,
    mimeType "m4a" mimeAudioMpeg4 .audio,
    mimeType "ogg" (spelledText "audio/x-ogg") .audio,
    mimeType "wav" (spelledText "audio/wav") .audio,
    mimeType "pcm" (spelledText "audio/l16") .audio,
    mimeType "lpcm" (spelledText "audio/l16") .audio,
    mimeType "l16" (spelledText "audio/l16") .audio,
    mimeType "wma" mimeAudioWma .audio,
    mimeType "mka" mimeAudioMpeg .audio,
    mimeType "ra" (spelledText "audio/x-pn-realaudio") .audio,
    mimeType "rm" (spelledText "audio/x-pn-realaudio") .audio,
    mimeType "ram" (spelledText "audio/x-pn-realaudio") .audio,
    mimeType "flac" (spelledText "audio/x-flac") .audio,
    mimeType "bmp" (spelledText "image/bmp") .image,
    mimeType "ico" (spelledText "image/x-icon") .image,
    mimeType "gif" (spelledText "image/gif") .image,
    mimeType "jpeg" mimeImageJpeg .image,
    mimeType "jpg" mimeImageJpeg .image,
    mimeType "jpe" mimeImageJpeg .image,
    mimeType "pcd" (spelledText "image/x-ms-bmp") .image,
    mimeType "png" mimeImagePng .image,
    mimeType "pnm" (spelledText "image/x-portable-anymap") .image,
    mimeType "ppm" (spelledText "image/x-portable-pixmap") .image,
    mimeType "qti" (spelledText "image/x-quicktime") .image,
    mimeType "qtf" (spelledText "image/x-quicktime") .image,
    mimeType "qtif" (spelledText "image/x-quicktime") .image,
    mimeType "tif" (spelledText "image/tiff") .image,
    mimeType "tiff" (spelledText "image/tiff") .image]

def upnpGetMediaProfile (profileid : Text) : Option DlnaProfile :=
  (mimeTypeList.find? fun entry => entry.extension = profileid).map MimeType.profile

/-- `upnp_guess_media_profile`: the loop goes on after a match. -/
def upnpGuessMediaProfile (filename : Text) : Option DlnaProfile :=
  match getFileExtension filename with
  | none => none
  | some extension =>
      ((mimeTypeList.filter fun entry => entry.extension = extension).getLast?).map
        MimeType.profile

structure FfmpegProfiler where
  registered : List RegisteredProfile
  memory : ProfileMemory

def initialMemory : ProfileMemory where
  mediaClass := fun _ => .unknown
  callbacks := fun _ => false
  lpcmCopy := { id := none, mime := none, mediaClass := .unknown, callbacks := false }

def ffmpegProfilerInit : FfmpegProfiler where
  registered := []
  memory := initialMemory

def registerProfile (data : FfmpegProfiler) (profile : RegisteredProfile) : FfmpegProfiler :=
  if data.registered.any fun p => p.id = profile.id then data
  else { data with registered := data.registered ++ [profile] }

def registeredProfile : MediaProfile → RegisteredProfile
  | .imageJpeg => dlnaProfileImageJpeg
  | .imagePng => dlnaProfileImagePng
  | .audioAc3 => dlnaProfileAudioAc3
  | .audioAmr => dlnaProfileAudioAmr
  | .audioAtrac3 => dlnaProfileAudioAtrac3
  | .audioLpcm => dlnaProfileAudioLpcm
  | .audioMp3 => dlnaProfileAudioMp3
  | .audioMpeg4 => dlnaProfileAudioMpeg4
  | .audioWma => dlnaProfileAudioWma
  | .avMpeg1 => dlnaProfileAvMpeg1
  | .avMpeg2 => dlnaProfileAvMpeg2
  | .avMpeg4Part2 => dlnaProfileAvMpeg4Part2
  | .avMpeg4Part10 => dlnaProfileAvMpeg4Part10
  | .avWmv9 => dlnaProfileAvWmv9

def ffmpegProfilerRegisterMediaProfile (data : FfmpegProfiler) (profile : MediaProfile) :
    FfmpegProfiler :=
  registerProfile data (registeredProfile profile)

def ffmpegProfilerRegisterAllMediaProfiles (data : FfmpegProfiler) : FfmpegProfiler :=
  [.imageJpeg, .imagePng, .audioAc3, .audioAmr, .audioAtrac3, .audioLpcm, .audioMp3, .audioMpeg4,
    .audioWma, .avMpeg1, .avMpeg2, .avMpeg4Part2, .avMpeg4Part10, .avWmv9].foldl
      ffmpegProfilerRegisterMediaProfile data

def ProfileMemory.setMediaClass (memory : ProfileMemory) (mediaClass : MediaClass) :
    ProfileRef → ProfileMemory
  | .static profile =>
      { memory with mediaClass := Function.update memory.mediaClass profile mediaClass }
  | .lpcmCopy => { memory with lpcmCopy := { memory.lpcmCopy with mediaClass } }
  | .listed _ => memory

def ProfileMemory.setCallbacks (memory : ProfileMemory) : ProfileRef → ProfileMemory
  | .static profile => { memory with callbacks := Function.update memory.callbacks profile true }
  | .lpcmCopy => { memory with lpcmCopy := { memory.lpcmCopy with callbacks := true } }
  | .listed _ => memory

/-- The search of `ffmpeg_profiler_get_media_profile`: the family with the profile found. -/
def findProfile (registered : List RegisteredProfile) (profileid : Text) :
    Option (RegisteredProfile × StaticProfile) :=
  registered.findSome? fun p =>
    (p.profiles.find? fun prof => prof.id.val = profileid).map fun prof => (p, prof)

def ffmpegProfilerGetMediaProfile (data : FfmpegProfiler) (profileid : Text) :
    Option ProfileRef × FfmpegProfiler :=
  match findProfile data.registered profileid with
  | none => (none, data)
  | some (p, prof) =>
      (some (.static prof),
        if data.memory.mediaClass prof = .unknown then
          { data with memory := data.memory.setMediaClass p.mediaClass (.static prof) }
        else data)

def probeRegistered (filename : Text) (ctx : AvFormatContext) :
    List RegisteredProfile → AvCodecs → ProfileMemory →
      Except Fault (Option ProfileRef × ProfileMemory)
  | [], _, memory => .ok (none, memory)
  | p :: next, codecs, memory =>
      if !matchFileExtension filename p.extensions then
        probeRegistered filename ctx next codecs memory
      else do
        let (prof, codecs, memory) ← p.probe ctx codecs memory
        match prof with
        | some profile => .ok (some profile, memory.setMediaClass p.mediaClass profile)
        | none => probeRegistered filename ctx next codecs memory

/-- `ffmpeg_profiler_guess_media_profile`; `ctx` is what `avformat_open_input` and
`avformat_find_stream_info` make of the file, if they succeed. -/
def ffmpegProfilerGuessMediaProfile (data : FfmpegProfiler) (filename : Text)
    (ctx : Option AvFormatContext) : Except Fault (Option ProfileRef × FfmpegProfiler) :=
  match ctx with
  | none => .ok (none, data)
  | some ctx =>
      match avProfileGetCodecs ctx with
      | none => .ok (none, data)
      | some codecs => do
          let (profile, memory) ← probeRegistered filename ctx data.registered codecs data.memory
          match profile with
          -- the members of `profile` are written without a test
          | none => .error .nullDeref
          | some profile => .ok (some profile, { data with memory := memory.setCallbacks profile })

inductive DlnaProfiler where
  | ffmpeg
  | upnpav
  deriving DecidableEq

structure MediaFile where
  filename : Text
  size : Option Int
  ctx : Option AvFormatContext
  -- the answers of item_get_properties and item_get_metadata
  properties : Option DlnaProperties
  metadata : Option DlnaMetadata

def guessMediaProfile (profiler : DlnaProfiler) (data : FfmpegProfiler) (file : MediaFile) :
    Except Fault (Option ProfileRef × FfmpegProfiler) :=
  match profiler with
  | .ffmpeg => ffmpegProfilerGuessMediaProfile data file.filename file.ctx
  | .upnpav => .ok ((upnpGuessMediaProfile file.filename).map .listed, data)

def dlnaGetMediaProfile (profiler : DlnaProfiler) (data : FfmpegProfiler) (profileid : Text) :
    Option ProfileRef × FfmpegProfiler :=
  match profiler with
  | .ffmpeg => ffmpegProfilerGetMediaProfile data profileid
  | .upnpav => ((upnpGetMediaProfile profileid).map .listed, data)

/-- An item with the object that its `profile` points to. -/
structure HeldItem where
  item : DlnaItem
  profile : ProfileRef

def fileProbe (profiler : DlnaProfiler) (file : MediaFile) (memory : ProfileMemory)
    (profile : Option ProfileRef) : Probe where
  size := file.size
  profile := profile.map memory.get
  cookie := profiler = .ffmpeg
  properties := file.properties
  metadata := file.metadata

def itemNew (profiler : DlnaProfiler) (data : FfmpegProfiler) (file : MediaFile) :
    Except Fault (Option HeldItem × FfmpegProfiler) := do
  let (profile, data) ← guessMediaProfile profiler data file
  let item := dlnaItemNew file.filename (fileProbe profiler file data.memory profile)
  .ok (item.bind fun item => profile.map fun profile => { item, profile }, data)

end Libdlna
