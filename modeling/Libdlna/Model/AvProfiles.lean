import Libdlna.Model.AudioProfiles

set_option autoImplicit false

namespace Libdlna

namespace AvMpeg1

def mpeg1 : StaticProfile := ⟨spelledText "MPEG1", some mimeVideoMpeg⟩

end AvMpeg1

def probeMpeg1 (_ctx : AvFormatContext) (codecs : AvCodecs) :
    Except Fault (Option StaticProfile) :=
  if !streamCtxIsAv codecs then .ok none
  else
    match codecs.audio, codecs.video with
    | some audio, some video =>
        let ac := audio.codec
        let vc := video.codec
        let rate := video.rFrameRate
        if vc.codecId ≠ .mpeg1video then .ok none
        else if vc.bitRate ≠ 1150000 then .ok none
        else if vc.width = 352 ∧ vc.height = 288 ∧ rate.num ≠ 25 ∧ rate.den ≠ 1 then .ok none
        else if vc.width = 352 ∧ vc.height = 240 ∧
            ((rate.num ≠ 30000 ∧ rate.den ≠ 1001) ∨ (rate.num ≠ 24000 ∧ rate.den ≠ 1001)) then
          .ok none
        else if ¬ (vc.width = 352 ∧ vc.height = 288) ∧ ¬ (vc.width = 352 ∧ vc.height = 240) then
          .ok none
        else if ac.codecId ≠ .mp2 then .ok none
        else if ac.channels ≠ 2 then .ok none
        else if ac.sampleRate ≠ 44100 then .ok none
        else if ac.bitRate ≠ 224000 then .ok none
        else .ok (some AvMpeg1.mpeg1)
    | _, _ => .error .nullDeref

def dlnaProfileAvMpeg1 : RegisteredProfile where
  id := .avMpeg1
  mediaClass := .av
  extensions := "mpg,mpeg,mpe,m1v".toList
  profiles := [AvMpeg1.mpeg1]
  probe := readOnlyProbe probeMpeg1

namespace AvMpeg2

structure MpegPsEsStream where
  width : Int32
  height : Int32

structure MpegTsStream where
  width : Int32
  height : Int32
  fpsNum : Int32
  fpsDen : Int32

def mpegPsEsValidStreamsNtsc : List MpegPsEsStream :=
  [⟨720, 480⟩, ⟨704, 480⟩, ⟨544, 480⟩, ⟨480, 480⟩, ⟨352, 480⟩, ⟨352, 240⟩]

def mpegPsEsValidStreamsPal : List MpegPsEsStream :=
  [⟨720, 576⟩, ⟨704, 576⟩, ⟨544, 576⟩, ⟨480, 576⟩, ⟨352, 576⟩, ⟨352, 288⟩]

def mpegTsValidStreamsEuSd : List MpegTsStream :=
  [⟨720, 576, 25, 1⟩, ⟨544, 576, 25, 1⟩, ⟨480, 576, 25, 1⟩, ⟨352, 576, 25, 1⟩, ⟨252, 288, 25, 1⟩]

def mpegTsValidStreamsNaSd : List MpegTsStream :=
  [⟨720, 480, 30, 1001⟩, ⟨704, 480, 30, 1001⟩, ⟨704, 480, 30, 1⟩, ⟨704, 480, 24, 1001⟩,
    ⟨704, 480, 24, 1⟩, ⟨640, 480, 30, 1001⟩, ⟨640, 480, 30, 1⟩, ⟨640, 480, 24, 1001⟩,
    ⟨640, 480, 24, 1⟩, ⟨544, 480, 30, 1001⟩, ⟨480, 480, 30, 1001⟩, ⟨352, 480, 30, 1001⟩]

def mpegTsValidStreamsNaHd : List MpegTsStream :=
  [⟨1920, 1080, 30, 1001⟩, ⟨1920, 1080, 30, 1⟩, ⟨1920, 1080, 24, 1001⟩, ⟨1920, 1080, 24, 1⟩,
    ⟨1280, 720, 30, 1001⟩, ⟨1280, 720, 30, 1⟩, ⟨1280, 720, 24, 1001⟩, ⟨1280, 720, 24, 1⟩,
    ⟨1440, 1080, 30, 1001⟩, ⟨1440, 1080, 30, 1⟩, ⟨1440, 1080, 24, 1001⟩, ⟨1440, 1080, 24, 1⟩,
    ⟨1280, 1080, 30, 1001⟩, ⟨1280, 1080, 30, 1⟩, ⟨1280, 1080, 24, 1001⟩, ⟨1280, 1080, 24, 1⟩]

def mpegPsNtsc : StaticProfile := ⟨spelledText "MPEG_PS_NTSC", some mimeVideoMpeg⟩
def mpegPsNtscXac3 : StaticProfile := ⟨spelledText "MPEG_PS_NTSC_XAC3", some mimeVideoMpeg⟩
def mpegPsPal : StaticProfile := ⟨spelledText "MPEG_PS_PAL", some mimeVideoMpeg⟩
def mpegPsPalXac3 : StaticProfile := ⟨spelledText "MPEG_PS_PAL_XAC3", some mimeVideoMpeg⟩
def mpegTsMpLlAac : StaticProfile := ⟨spelledText "MPEG_TS_MP_LL_AAC", some mimeVideoMpegTs⟩
def mpegTsMpLlAacT : StaticProfile := ⟨spelledText "MPEG_TS_MP_LL_AAC_T", some mimeVideoMpegTs⟩
def mpegTsMpLlAacIso : StaticProfile := ⟨spelledText "MPEG_TS_MP_LL_AAC_ISO", some mimeVideoMpeg⟩
def mpegTsSdEu : StaticProfile := ⟨spelledText "MPEG_TS_SD_EU", some mimeVideoMpegTs⟩
def mpegTsSdEuT : StaticProfile := ⟨spelledText "MPEG_TS_SD_EU_T", some mimeVideoMpegTs⟩
def mpegTsSdEuIso : StaticProfile := ⟨spelledText "MPEG_TS_SD_EU_ISO", some mimeVideoMpeg⟩
def mpegTsSdNa : StaticProfile := ⟨spelledText "MPEG_TS_SD_NA", some mimeVideoMpegTs⟩
def mpegTsSdNaT : StaticProfile := ⟨spelledText "MPEG_TS_SD_NA_T", some mimeVideoMpegTs⟩
def mpegTsSdNaIso : StaticProfile := ⟨spelledText "MPEG_TS_SD_NA_ISO", some mimeVideoMpeg⟩
def mpegTsSdNaXac3 : StaticProfile := ⟨spelledText "MPEG_TS_SD_NA_XAC3", some mimeVideoMpegTs⟩
def mpegTsSdNaXac3T : StaticProfile := ⟨spelledText "MPEG_TS_SD_NA_XAC3_T", some mimeVideoMpegTs⟩
def mpegTsSdNaXac3Iso : StaticProfile := ⟨spelledText "MPEG_TS_SD_NA_XAC3_ISO", some mimeVideoMpeg⟩
def mpegTsHdNa : StaticProfile := ⟨spelledText "MPEG_TS_HD_NA", some mimeVideoMpegTs⟩
def mpegTsHdNaT : StaticProfile := ⟨spelledText "MPEG_TS_HD_NA_T", some mimeVideoMpegTs⟩
def mpegTsHdNaIso : StaticProfile := ⟨spelledText "MPEG_TS_HD_NA_ISO", some mimeVideoMpeg⟩
def mpegTsHdNaXac3 : StaticProfile := ⟨spelledText "MPEG_TS_HD_NA_XAC3", some mimeVideoMpegTs⟩
def mpegTsHdNaXac3T : StaticProfile := ⟨spelledText "MPEG_TS_HD_NA_XAC3_T", some mimeVideoMpegTs⟩
def mpegTsHdNaXac3Iso : StaticProfile := ⟨spelledText "MPEG_TS_HD_NA_XAC3_ISO", some mimeVideoMpeg⟩
def mpegEsPal : StaticProfile := ⟨spelledText "MPEG_ES_PAL", some mimeVideoMpeg⟩
def mpegEsNtsc : StaticProfile := ⟨spelledText "MPEG_ES_NTSC", some mimeVideoMpeg⟩
def mpegEsPalXac3 : StaticProfile := ⟨spelledText "MPEG_ES_PAL_XAC3", some mimeVideoMpeg⟩
def mpegEsNtscXac3 : StaticProfile := ⟨spelledText "MPEG_ES_NTSC_XAC3", some mimeVideoMpeg⟩

def dlnaProfilesSupportedAvMpeg2 : List StaticProfile :=
  [mpegPsNtsc, mpegPsNtscXac3, mpegPsPal, mpegPsPalXac3, mpegTsMpLlAac, mpegTsMpLlAacT,
    mpegTsMpLlAacIso, mpegTsSdEu, mpegTsSdEuT, mpegTsSdEuIso, mpegTsSdNa, mpegTsSdNaT,
    mpegTsSdNaIso, mpegTsSdNaXac3, mpegTsSdNaXac3T, mpegTsSdNaXac3Iso, mpegTsHdNa, mpegTsHdNaT,
    mpegTsHdNaIso, mpegTsHdNaXac3, mpegTsHdNaXac3T, mpegTsHdNaXac3Iso, mpegEsPal, mpegEsNtsc,
    mpegEsPalXac3, mpegEsNtscXac3]

end AvMpeg2

def isMpegPsEsAudioStreamLpcm (ac : AvCodecContext) : Bool :=
  audioProfileGuessLpcm (some ac) = .lpcm &&
    !(ac.channels = 2 && 1536000 < ac.bitRate) && !(ac.channels = 1 && 768000 < ac.bitRate)

def isMpegPsEsAudioStreamExtendedAc3 (ac : AvCodecContext) : Bool :=
  audioProfileGuessAc3 (some ac) = .ac3Extended

def isMpegPsEsAudioStreamAc3 (ac : AvCodecContext) : Bool := audioProfileGuessAc3 (some ac) = .ac3

def isMpegPsEsAudioStreamMp2 (ac : AvCodecContext) : Bool :=
  audioProfileGuessMp2 (some ac) = .mp2 && ac.channels ≤ 2 &&
    !(ac.channels = 1 && (ac.bitRate < 64000 || 192000 < ac.bitRate)) &&
    !(ac.channels = 2 && (ac.bitRate < 64000 || 384000 < ac.bitRate))

def isMpegTsAudioStreamMp2 (ac : AvCodecContext) : Bool := audioProfileGuessMp2 (some ac) = .mp2

def isMpegTsAudioStreamAc3 (ac : AvCodecContext) : Bool := audioProfileGuessAc3 (some ac) = .ac3

def probeMpegPsEs (audio video : AvStream) (pal palXac3 ntsc ntscXac3 : StaticProfile) :
    Option StaticProfile :=
  let ac := audio.codec
  let regional (streams : List AvMpeg2.MpegPsEsStream) (plain xac3 : StaticProfile) :=
    if streams.any fun row => row.width = video.codec.width ∧ row.height = video.codec.height then
      if isMpegPsEsAudioStreamExtendedAc3 ac then some xac3
      else if isMpegPsEsAudioStreamLpcm ac || isMpegPsEsAudioStreamAc3 ac ||
          isMpegPsEsAudioStreamMp2 ac then some plain
      else none
    else none
  if video.rFrameRate.num = 30000 ∧ video.rFrameRate.den = 1001 then
    regional AvMpeg2.mpegPsEsValidStreamsNtsc ntsc ntscXac3
  else if video.rFrameRate.num = 25 ∧ video.rFrameRate.den = 1 then
    regional AvMpeg2.mpegPsEsValidStreamsPal pal palXac3
  else none

open AvMpeg2 in
def probeMpegPs (audio video : AvStream) : Option StaticProfile :=
  probeMpegPsEs audio video mpegPsPal mpegPsPalXac3 mpegPsNtsc mpegPsNtscXac3

open AvMpeg2 in
def probeMpegEs (audio video : AvStream) : Option StaticProfile :=
  probeMpegPsEs audio video mpegEsPal mpegEsPalXac3 mpegEsNtsc mpegEsNtscXac3

def transportProfile (st : ContainerType) (iso t noTs : StaticProfile) : Option StaticProfile :=
  match st with
  | .mpegTransportStream => some iso
  | .mpegTransportStreamDlna => some t
  | .mpegTransportStreamDlnaNoTs => some noTs
  | _ => none

open AvMpeg2 in
def probeMpegTs (ctx : AvFormatContext) (audio video : AvStream) (st : ContainerType) :
    Option StaticProfile :=
  let ac := audio.codec
  let vc := video.codec
  let rate := video.rFrameRate
  if ac.codecId = .aac then
    if vc.width ≠ 352 ∧ vc.height ≠ 288 then none
    else if rate.num ≠ 30 ∧ rate.den ≠ 1 then none
    else if 4000000 < vc.bitRate then none
    else if 256000 < ac.bitRate then none
    else transportProfile st mpegTsMpLlAacIso mpegTsMpLlAacT mpegTsMpLlAac
  else if rate.num = 25 ∧ rate.den = 1 then
    if mpegTsValidStreamsEuSd.any fun row =>
        row.width = vc.width ∧ row.height = vc.height ∧ row.fpsNum = 25 ∧ row.fpsDen = 1 then
      if isMpegTsAudioStreamAc3 ac || isMpegTsAudioStreamMp2 ac then
        transportProfile st mpegTsSdEuIso mpegTsSdEuT mpegTsSdEu
      else none
    else none
  else if 19392700 < ctx.bitRate then none
  else if ac.codecId ≠ .ac3 then none
  else if ac.sampleRate ≠ 48000 then none
  else if 5 < ac.channels then none
  else if 640000 < ac.bitRate then none
  else
    -- both numbers of a row are compared with the numerator
    let isRow (row : MpegTsStream) : Bool :=
      row.width = vc.width ∧ row.height = vc.height ∧ row.fpsNum = rate.num ∧ row.fpsDen = rate.num
    if mpegTsValidStreamsNaSd.any isRow then
      if 448000 < ac.bitRate then
        transportProfile st mpegTsSdNaXac3Iso mpegTsSdNaXac3T mpegTsSdNaXac3
      else transportProfile st mpegTsSdNaIso mpegTsSdNaT mpegTsSdNa
    else if mpegTsValidStreamsNaHd.any isRow then
      if 448000 < ac.bitRate then
        transportProfile st mpegTsHdNaXac3Iso mpegTsHdNaXac3T mpegTsHdNaXac3
      else transportProfile st mpegTsHdNaIso mpegTsHdNaT mpegTsHdNa
    else none

def probeMpeg2 (ctx : AvFormatContext) (codecs : AvCodecs) : Except Fault (Option StaticProfile) :=
  if !streamCtxIsAv codecs then .ok none
  else
    match codecs.audio, codecs.video with
    | some audio, some video =>
        if video.codec.codecId ≠ .mpeg2video then .ok none
        else do
          let st ← streamGetContainer ctx
          match st with
          | .mpegElementaryStream => .ok (probeMpegEs audio video)
          | .mpegProgramStream => .ok (probeMpegPs audio video)
          | .mpegTransportStream | .mpegTransportStreamDlna | .mpegTransportStreamDlnaNoTs =>
              .ok (probeMpegTs ctx audio video st)
          | _ => .ok none
    | _, _ => .error .nullDeref

def dlnaProfileAvMpeg2 : RegisteredProfile where
  id := .avMpeg2
  mediaClass := .av
  extensions := "mpg,mpeg,mpe,m2v,mp2p,mp2t,ts,ps,pes".toList
  profiles := AvMpeg2.dlnaProfilesSupportedAvMpeg2
  probe := readOnlyProbe probeMpeg2

namespace AvWmv9

inductive WmvVideoProfile where
  | invalid
  | simpleLow
  | simpleMedium
  | mainMedium
  | mainHigh
  deriving DecidableEq

structure Wmv9Profile where
  maxWidth : Int32
  maxHeight : Int32
  fpsNum : Int32
  fpsDen : Int32
  maxBitrate : Int32

def wmv9ProfileSimpleLow : List Wmv9Profile :=
  [⟨176, 144, 15, 1, 96000⟩]

def wmv9ProfileSimpleMedium : List Wmv9Profile :=
  [⟨240, 176, 30, 1, 384000⟩, ⟨240, 176, 30000, 1001, 384000⟩, ⟨352, 288, 15, 1, 384000⟩]

def wmv9ProfileMainMedium : List Wmv9Profile :=
  [⟨720, 480, 30, 1, 10000000⟩, ⟨720, 480, 30000, 1001, 10000000⟩, ⟨720, 576, 25, 1, 10000000⟩]

def wmv9ProfileMainHigh : List Wmv9Profile :=
  [⟨1920, 1080, 30, 1, 20000000⟩, ⟨1920, 1080, 30000, 1001, 20000000⟩]

def wmvmedBase : StaticProfile := ⟨spelledText "WMVMED_BASE", some mimeVideoWmv⟩
def wmvmedFull : StaticProfile := ⟨spelledText "WMVMED_FULL", some mimeVideoWmv⟩
def wmvmedPro : StaticProfile := ⟨spelledText "WMVMED_PRO", some mimeVideoWmv⟩
def wmvhighFull : StaticProfile := ⟨spelledText "WMVHIGH_FULL", some mimeVideoWmv⟩
def wmvhighPro : StaticProfile := ⟨spelledText "WMVHIGH_PRO", some mimeVideoWmv⟩
def wmvhmBase : StaticProfile := ⟨spelledText "WMVHM_BASE", some mimeVideoWmv⟩
def wmvspllBase : StaticProfile := ⟨spelledText "WMVSPLL_BASE", some mimeVideoWmv⟩
def wmvspmlBase : StaticProfile := ⟨spelledText "WMVSPML_BASE", some mimeVideoWmv⟩
def wmvspmlMp3 : StaticProfile := ⟨spelledText "WMVSPML_MP3", some mimeVideoWmv⟩

structure WmvProfileMapping where
  profile : StaticProfile
  vp : WmvVideoProfile
  ap : AudioProfile

def wmvProfilesMapping : List WmvProfileMapping :=
  [⟨wmvmedBase, .mainMedium, .wmaBaseline⟩,
    ⟨wmvmedFull, .mainMedium, .wmaFull⟩,
    ⟨wmvmedPro, .mainMedium, .wmaPro⟩,
    ⟨wmvhighFull, .mainHigh, .wmaFull⟩,
    ⟨wmvhighPro, .mainHigh, .wmaFull⟩,
    ⟨wmvspllBase, .simpleLow, .wmaBaseline⟩,
    ⟨wmvspmlBase, .simpleMedium, .wmaBaseline⟩,
    ⟨wmvspmlMp3, .simpleMedium, .mp3⟩]

def isValidWmv9VideoProfile (profile : List Wmv9Profile) (vs : AvStream) : Bool :=
  profile.any fun row =>
    vs.codec.width ≤ row.maxWidth ∧ vs.codec.height ≤ row.maxHeight ∧
      vs.rFrameRate.num = row.fpsNum ∧ vs.rFrameRate.den = row.fpsDen ∧
      vs.codec.bitRate ≤ row.maxBitrate

def wmvVideoProfileGet (vs : AvStream) : WmvVideoProfile :=
  if isValidWmv9VideoProfile wmv9ProfileSimpleLow vs then .simpleLow
  else if isValidWmv9VideoProfile wmv9ProfileSimpleMedium vs then .simpleMedium
  else if isValidWmv9VideoProfile wmv9ProfileMainMedium vs then .mainMedium
  else if isValidWmv9VideoProfile wmv9ProfileMainHigh vs then .mainHigh
  else .invalid

def dlnaProfilesSupportedAvWmv9 : List StaticProfile :=
  [wmvmedBase, wmvmedFull, wmvmedPro, wmvhighFull, wmvhighPro, wmvhmBase, wmvspllBase,
    wmvspmlBase, wmvspmlMp3]

end AvWmv9

open AvWmv9 in
def probeWmv9 (ctx : AvFormatContext) (codecs : AvCodecs) : Except Fault (Option StaticProfile) :=
  if !streamCtxIsAv codecs then .ok none
  else if ctx.iformatName ≠ "asf".toList then .ok none
  else
    match codecs.video with
    | none => .error .nullDeref
    | some video =>
        if video.codec.codecId ≠ .wmv3 then .ok none
        else
          let vp := wmvVideoProfileGet video
          let ap := audioProfileGuess codecs.ac
          if vp = .invalid then .ok none
          else if ap = .invalid then .ok none
          else
            .ok ((wmvProfilesMapping.find? fun row => row.vp = vp ∧ row.ap = ap).map
              WmvProfileMapping.profile)

def dlnaProfileAvWmv9 : RegisteredProfile where
  id := .avWmv9
  mediaClass := .av
  extensions := "asf,wmv".toList
  profiles := AvWmv9.dlnaProfilesSupportedAvWmv9
  probe := readOnlyProbe probeWmv9

end Libdlna
