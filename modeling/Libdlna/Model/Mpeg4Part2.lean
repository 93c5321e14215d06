import Libdlna.Model.AudioProfiles

set_option autoImplicit false

namespace Libdlna

/-- "ensure we have a valid video codec bit rate" -/
def ensureVideoBitRate (ctx : AvFormatContext) (audio video : AvStream) : Except Fault AvStream :=
  if video.codec.bitRate = 0 then do
    let rate ←
      if audio.codec.bitRate ≠ 0 then intSub ctx.bitRate audio.codec.bitRate else .ok ctx.bitRate
    .ok { video with codec := { video.codec with bitRate := rate } }
  else .ok video

/-- "AAC fixup: _320 profiles are audio-only profiles" -/
def aacFixup : AudioProfile → AudioProfile
  | .aac320 => .aac
  | .aacHeL2320 => .aacHeL2
  | ap => ap

def codecsProbe
    (probe : AvFormatContext → AvCodecs → Except Fault (Option StaticProfile × AvCodecs))
    (ctx : AvFormatContext) (codecs : AvCodecs) (memory : ProfileMemory) :
    Except Fault (Option ProfileRef × AvCodecs × ProfileMemory) :=
  (probe ctx codecs).map fun (found, codecs) => (found.map .static, codecs, memory)

namespace AvMpeg4Part2

inductive Mpeg4VcodecType where
  | invalid
  | h263
  | p2
  deriving DecidableEq

def avfVcodecMapping : List (CodecId × Mpeg4VcodecType) :=
  [(.h263, .h263), (.h263i, .h263), (.h263p, .h263), (.mpeg4, .p2), (.msmpeg4v1, .p2),
    (.msmpeg4v2, .p2), (.msmpeg4v3, .p2)]

inductive Mpeg4VideoProfile where
  | invalid
  | h263
  | p2SpL0b
  | p2SpL2
  | p2SpL3
  | p2SpL3Vga
  | p2AspL4
  | p2AspL5
  deriving DecidableEq

structure VideoProperties where
  width : Int32
  height : Int32
  fpsNum : Int32
  fpsDen : Int32

def profileH263Res : List VideoProperties :=
  [⟨176, 144, 15, 1⟩, ⟨128, 96, 15, 1⟩]

def profileP2SpL0bRes : List VideoProperties :=
  [⟨176, 144, 15, 1⟩, ⟨128, 96, 15, 1⟩]

def profileP2SpL2Res : List VideoProperties :=
  [⟨352, 288, 15, 1⟩, ⟨320, 240, 15, 1⟩, ⟨320, 180, 15, 1⟩, ⟨176, 144, 30, 1⟩, ⟨128, 96, 30, 1⟩]

def profileP2SpL3VgaRes : List VideoProperties :=
  [⟨640, 480, 30, 1⟩, ⟨640, 360, 30, 1⟩]

def profileP2SpL3CoRes : List VideoProperties :=
  [⟨352, 288, 30, 1⟩, ⟨352, 240, 30, 1⟩, ⟨320, 240, 30, 1⟩, ⟨320, 180, 30, 1⟩, ⟨240, 180, 30, 1⟩,
    ⟨208, 160, 30, 1⟩, ⟨176, 144, 30, 1⟩, ⟨176, 120, 30, 1⟩, ⟨160, 120, 30, 1⟩, ⟨160, 112, 30, 1⟩,
    ⟨160, 90, 30, 1⟩, ⟨128, 96, 30, 1⟩]

def profileP2AspL4Res : List VideoProperties :=
  [⟨352, 576, 30, 1⟩, ⟨352, 480, 30, 1⟩, ⟨352, 288, 30, 1⟩, ⟨352, 240, 30, 1⟩, ⟨320, 240, 30, 1⟩,
    ⟨320, 180, 30, 1⟩, ⟨240, 180, 30, 1⟩, ⟨208, 160, 30, 1⟩, ⟨176, 144, 30, 1⟩, ⟨176, 120, 30, 1⟩,
    ⟨160, 120, 30, 1⟩, ⟨160, 112, 30, 1⟩, ⟨160, 90, 30, 1⟩, ⟨128, 96, 30, 1⟩]

def profileP2AspL5Res : List VideoProperties :=
  [⟨720, 576, 30, 1⟩, ⟨720, 480, 30, 1⟩, ⟨704, 576, 30, 1⟩, ⟨704, 480, 30, 1⟩, ⟨640, 480, 30, 1⟩,
    ⟨640, 360, 30, 1⟩, ⟨544, 576, 30, 1⟩, ⟨544, 480, 30, 1⟩, ⟨480, 576, 30, 1⟩, ⟨480, 480, 30, 1⟩,
    ⟨480, 360, 30, 1⟩, ⟨480, 270, 30, 1⟩, ⟨352, 576, 30, 1⟩, ⟨352, 480, 30, 1⟩, ⟨352, 288, 30, 1⟩,
    ⟨352, 240, 30, 1⟩, ⟨320, 240, 30, 1⟩, ⟨320, 180, 30, 1⟩, ⟨240, 180, 30, 1⟩, ⟨208, 160, 30, 1⟩,
    ⟨176, 144, 30, 1⟩, ⟨176, 120, 30, 1⟩, ⟨160, 120, 30, 1⟩, ⟨160, 112, 30, 1⟩, ⟨160, 90, 30, 1⟩,
    ⟨128, 96, 30, 1⟩]

def mpeg4P2Mp4SpAac : StaticProfile := ⟨spelledText "MPEG4_P2_MP4_SP_AAC", some mimeVideoMpeg4⟩
def mpeg4P2Mp4SpHeaac : StaticProfile := ⟨spelledText "MPEG4_P2_MP4_SP_HEAAC", some mimeVideoMpeg4⟩
def mpeg4P2Mp4SpAtrac3plus : StaticProfile :=
  ⟨spelledText "MPEG4_P2_MP4_SP_ATRAC3plus", some mimeVideoMpeg4⟩
def mpeg4P2Mp4SpAacLtp : StaticProfile :=
  ⟨spelledText "MPEG4_P2_MP4_SP_AAC_LTP", some mimeVideoMpeg4⟩
def mpeg4P2Mp4SpL2Aac : StaticProfile := ⟨spelledText "MPEG4_P2_MP4_SP_L2_AAC", some mimeVideoMpeg4⟩
def mpeg4P2Mp4SpL2Amr : StaticProfile := ⟨spelledText "MPEG4_P2_MP4_SP_L2_AMR", some mimeVideoMpeg4⟩
def mpeg4P2Mp4SpVgaAac : StaticProfile :=
  ⟨spelledText "MPEG4_P2_MP4_SP_VGA_AAC", some mimeVideoMpeg4⟩
def mpeg4P2Mp4SpVgaHeaac : StaticProfile :=
  ⟨spelledText "MPEG4_P2_MP4_SP_VGA_HEAAC", some mimeVideoMpeg4⟩
def mpeg4P2Mp4AspAac : StaticProfile := ⟨spelledText "MPEG4_P2_MP4_ASP_AAC", some mimeVideoMpeg4⟩
def mpeg4P2Mp4AspHeaac : StaticProfile :=
  ⟨spelledText "MPEG4_P2_MP4_ASP_HEAAC", some mimeVideoMpeg4⟩
def mpeg4P2Mp4AspHeaacMult5 : StaticProfile :=
  ⟨spelledText "MPEG4_P2_MP4_ASP_HEAAC_MULT5", some mimeVideoMpeg4⟩
def mpeg4P2Mp4AspActrac3plus : StaticProfile :=
  ⟨spelledText "MPEG4_P2_MP4_ASP_ATRAC3plus", some mimeVideoMpeg4⟩
def mpeg4P2Mp4AspL5SoAac : StaticProfile :=
  ⟨spelledText "MPEG4_P2_MP4_ASP_L5_SO_AAC", some mimeVideoMpeg4⟩
def mpeg4P2Mp4AspL5SoHeaac : StaticProfile :=
  ⟨spelledText "MPEG4_P2_MP4_ASP_L5_SO_HEAAC", some mimeVideoMpeg4⟩
def mpeg4P2Mp4AspL5SoHeaacMult5 : StaticProfile :=
  ⟨spelledText "MPEG4_P2_MP4_ASP_L5_SO_HEAAC_MULT5", some mimeVideoMpeg4⟩
def mpeg4P2Mp4AspL4SoAac : StaticProfile :=
  ⟨spelledText "MPEG4_P2_MP4_ASP_L4_SO_AAC", some mimeVideoMpeg4⟩
def mpeg4P2Mp4AspL4SoHeaac : StaticProfile :=
  ⟨spelledText "MPEG4_P2_MP4_ASP_L4_SO_HEAAC", some mimeVideoMpeg4⟩
def mpeg4P2Mp4AspL4SoHeaacMult5 : StaticProfile :=
  ⟨spelledText "MPEG4_P2_MP4_ASP_L4_SO_HEAAC_MULT5", some mimeVideoMpeg4⟩
def mpeg4H263Mp4P0L10Aac : StaticProfile :=
  ⟨spelledText "MPEG4_H263_MP4_P0_L10_AAC", some mimeVideo3gp⟩
def mpeg4H263Mp4P0L10AacLtp : StaticProfile :=
  ⟨spelledText "MPEG4_H263_MP4_P0_L10_AAC_LTP", some mimeVideo3gp⟩
def mpeg4P2TsSpAac : StaticProfile := ⟨spelledText "MPEG4_P2_TS_SP_AAC", some mimeVideoMpegTs⟩
def mpeg4P2TsSpAacT : StaticProfile := ⟨spelledText "MPEG4_P2_TS_SP_AAC_T", some mimeVideoMpegTs⟩
def mpeg4P2TsSpAacIso : StaticProfile := ⟨spelledText "MPEG4_P2_TS_SP_AAC_ISO", some mimeVideoMpeg⟩
def mpeg4P2TsSpMpeg1L3 : StaticProfile :=
  ⟨spelledText "MPEG4_P2_TS_SP_MPEG1_L3", some mimeVideoMpegTs⟩
def mpeg4P2TsSpMpeg1L3T : StaticProfile :=
  ⟨spelledText "MPEG4_P2_TS_SP_MPEG1_L3_T", some mimeVideoMpegTs⟩
def mpeg4P2TsSpMpeg1L3Iso : StaticProfile :=
  ⟨spelledText "MPEG4_P2_TS_SP_MPEG1_L3_ISO", some mimeVideoMpeg⟩
def mpeg4P2TsSpAc3 : StaticProfile := ⟨spelledText "MPEG4_P2_TS_SP_AC3_L3", some mimeVideoMpegTs⟩
def mpeg4P2TsSpAc3T : StaticProfile := ⟨spelledText "MPEG4_P2_TS_SP_AC3_T", some mimeVideoMpegTs⟩
def mpeg4P2TsSpAc3Iso : StaticProfile := ⟨spelledText "MPEG4_P2_TS_SP_AC3_ISO", some mimeVideoMpeg⟩
def mpeg4P2TsSpMpeg2L2 : StaticProfile :=
  ⟨spelledText "MPEG4_P2_TS_SP_MPEG2_L2", some mimeVideoMpegTs⟩
def mpeg4P2TsSpMpeg2L2T : StaticProfile :=
  ⟨spelledText "MPEG4_P2_TS_SP_MPEG2_L2_T", some mimeVideoMpegTs⟩
def mpeg4P2TsSpMpeg2L2Iso : StaticProfile :=
  ⟨spelledText "MPEG4_P2_TS_SP_MPEG2_L2_ISO", some mimeVideoMpeg⟩
def mpeg4P2TsAspAac : StaticProfile := ⟨spelledText "MPEG4_P2_TS_ASP_AAC", some mimeVideoMpegTs⟩
def mpeg4P2TsAspAacT : StaticProfile := ⟨spelledText "MPEG4_P2_TS_ASP_AAC_T", some mimeVideoMpegTs⟩
def mpeg4P2TsAspAacIso : StaticProfile :=
  ⟨spelledText "MPEG4_P2_TS_ASP_AAC_ISO", some mimeVideoMpeg⟩
def mpeg4P2TsAspMpeg1L3 : StaticProfile :=
  ⟨spelledText "MPEG4_P2_TS_ASP_MPEG1_L3", some mimeVideoMpegTs⟩
def mpeg4P2TsAspMpeg1L3T : StaticProfile :=
  ⟨spelledText "MPEG4_P2_TS_ASP_MPEG1_L3_T", some mimeVideoMpegTs⟩
def mpeg4P2TsAspMpeg1L3Iso : StaticProfile :=
  ⟨spelledText "MPEG4_P2_TS_ASP_MPEG1_L3_ISO", some mimeVideoMpeg⟩
def mpeg4P2TsAspAc3 : StaticProfile := ⟨spelledText "MPEG4_P2_TS_ASP_AC3_L3", some mimeVideoMpegTs⟩
def mpeg4P2TsAspAc3T : StaticProfile := ⟨spelledText "MPEG4_P2_TS_ASP_AC3_T", some mimeVideoMpegTs⟩
def mpeg4P2TsAspAc3Iso : StaticProfile :=
  ⟨spelledText "MPEG4_P2_TS_ASP_AC3_ISO", some mimeVideoMpeg⟩
def mpeg4P2TsCoAc3 : StaticProfile := ⟨spelledText "MPEG4_P2_TS_CO_AC3", some mimeVideoMpegTs⟩
def mpeg4P2TsCoAc3T : StaticProfile := ⟨spelledText "MPEG4_P2_TS_CO_AC3_T", some mimeVideoMpegTs⟩
def mpeg4P2TsCoAc3Iso : StaticProfile := ⟨spelledText "MPEG4_P2_TS_CO_AC3_ISO", some mimeVideoMpeg⟩
def mpeg4P2TsCoMpeg2L2 : StaticProfile :=
  ⟨spelledText "MPEG4_P2_TS_CO_MPEG2_L2", some mimeVideoMpegTs⟩
def mpeg4P2TsCoMpeg2L2T : StaticProfile :=
  ⟨spelledText "MPEG4_P2_TS_CO_MPEG2_L2_T", some mimeVideoMpegTs⟩
def mpeg4P2TsCoMpeg2L2Iso : StaticProfile :=
  ⟨spelledText "MPEG4_P2_TS_CO_MPEG2_L2_ISO", some mimeVideoMpeg⟩
def mpeg4P2AsfSpG726 : StaticProfile := ⟨spelledText "MPEG4_P2_ASF_SP_G726", some mimeVideoAsf⟩
def mpeg4P2AsfAspL5SoG726 : StaticProfile :=
  ⟨spelledText "MPEG4_P2_ASF_ASP_L5_SO_G726", some mimeVideoAsf⟩
def mpeg4P2AsfAspL4SoG726 : StaticProfile :=
  ⟨spelledText "MPEG4_P2_ASF_ASP_L4_SO_G726", some mimeVideoAsf⟩
def mpeg4H2633gppP0L10AmrWbplus : StaticProfile :=
  ⟨spelledText "MPEG4_H263_3GPP_P0_L10_AMR_WBplus", some mimeVideo3gp⟩
def mpeg4P23gppSpL0bAac : StaticProfile :=
  ⟨spelledText "MPEG4_P2_3GPP_SP_L0B_AAC", some mimeVideo3gp⟩
def mpeg4P23gppSpL0bAmr : StaticProfile :=
  ⟨spelledText "MPEG4_P2_3GPP_SP_L0B_AMR", some mimeVideo3gp⟩
def mpeg4H2633gppP3L10Amr : StaticProfile :=
  ⟨spelledText "MPEG4_H263_3GPP_P3_L10_AMR", some mimeVideo3gp⟩

structure Mpeg4ProfileMapping where
  profile : StaticProfile
  st : ContainerType
  vp : Mpeg4VideoProfile
  ap : AudioProfile

def mpeg4ProfilesMapping : List Mpeg4ProfileMapping :=
  [⟨mpeg4P2Mp4SpAac, .mp4, .p2SpL3, .aac⟩,
    ⟨mpeg4P2Mp4SpHeaac, .mp4, .p2SpL3, .aacHeL2⟩,
    ⟨mpeg4P2Mp4SpAtrac3plus, .mp4, .p2SpL3, .atrac⟩,
    ⟨mpeg4P2Mp4SpAacLtp, .mp4, .p2SpL3, .aacLtp⟩,
    ⟨mpeg4P2Mp4SpL2Aac, .mp4, .p2SpL2, .aac⟩,
    ⟨mpeg4P2Mp4SpL2Amr, .mp4, .p2SpL2, .amr⟩,
    ⟨mpeg4P2Mp4SpVgaAac, .mp4, .p2SpL3Vga, .aac⟩,
    ⟨mpeg4P2Mp4SpVgaHeaac, .mp4, .p2SpL3Vga, .aacHeL2⟩,
    ⟨mpeg4P2Mp4AspAac, .mp4, .p2AspL5, .aac⟩,
    ⟨mpeg4P2Mp4AspHeaac, .mp4, .p2AspL5, .aacHeL2⟩,
    ⟨mpeg4P2Mp4AspHeaacMult5, .mp4, .p2AspL5, .aacHeMult5⟩,
    ⟨mpeg4P2Mp4AspActrac3plus, .mp4, .p2AspL5, .atrac⟩,
    ⟨mpeg4P2Mp4AspL5SoAac, .mp4, .p2AspL5, .aac⟩,
    ⟨mpeg4P2Mp4AspL5SoHeaac, .mp4, .p2AspL5, .aacHeL2⟩,
    ⟨mpeg4P2Mp4AspL5SoHeaacMult5, .mp4, .p2AspL5, .aacHeMult5⟩,
    ⟨mpeg4P2Mp4AspL4SoAac, .mp4, .p2AspL4, .aac⟩,
    ⟨mpeg4P2Mp4AspL4SoHeaac, .mp4, .p2AspL4, .aacHeL2⟩,
    ⟨mpeg4P2Mp4AspL4SoHeaacMult5, .mp4, .p2AspL4, .aacHeMult5⟩,
    ⟨mpeg4H263Mp4P0L10Aac, .mp4, .h263, .aac⟩,
    ⟨mpeg4H263Mp4P0L10AacLtp, .mp4, .h263, .aacLtp⟩,
    ⟨mpeg4P2TsSpAac, .mpegTransportStreamDlnaNoTs, .p2SpL3, .aac⟩,
    ⟨mpeg4P2TsSpAacT, .mpegTransportStreamDlna, .p2SpL3, .aac⟩,
    ⟨mpeg4P2TsSpAacIso, .mpegTransportStream, .p2SpL3, .aac⟩,
    ⟨mpeg4P2TsSpMpeg1L3, .mpegTransportStreamDlnaNoTs, .p2SpL3, .mp3⟩,
    ⟨mpeg4P2TsSpMpeg1L3T, .mpegTransportStreamDlna, .p2SpL3, .mp3⟩,
    ⟨mpeg4P2TsSpMpeg1L3Iso, .mpegTransportStream, .p2SpL3, .mp3⟩,
    ⟨mpeg4P2TsSpAc3, .mpegTransportStreamDlnaNoTs, .p2SpL3, .ac3⟩,
    ⟨mpeg4P2TsSpAc3T, .mpegTransportStreamDlna, .p2SpL3, .ac3⟩,
    ⟨mpeg4P2TsSpAc3Iso, .mpegTransportStream, .p2SpL3, .ac3⟩,
    ⟨mpeg4P2TsSpMpeg2L2, .mpegTransportStreamDlnaNoTs, .p2SpL3, .mp2⟩,
    ⟨mpeg4P2TsSpMpeg2L2T, .mpegTransportStreamDlna, .p2SpL3, .mp2⟩,
    ⟨mpeg4P2TsSpMpeg2L2Iso, .mpegTransportStream, .p2SpL3, .mp2⟩,
    ⟨mpeg4P2TsAspAac, .mpegTransportStreamDlnaNoTs, .p2AspL5, .aac⟩,
    ⟨mpeg4P2TsAspAacT, .mpegTransportStreamDlna, .p2AspL5, .aac⟩,
    ⟨mpeg4P2TsAspAacIso, .mpegTransportStream, .p2AspL5, .aac⟩,
    ⟨mpeg4P2TsAspMpeg1L3, .mpegTransportStreamDlnaNoTs, .p2AspL5, .mp3⟩,
    ⟨mpeg4P2TsAspMpeg1L3T, .mpegTransportStreamDlna, .p2AspL5, .mp3⟩,
    ⟨mpeg4P2TsAspMpeg1L3Iso, .mpegTransportStream, .p2AspL5, .mp3⟩,
    ⟨mpeg4P2TsAspAc3, .mpegTransportStreamDlnaNoTs, .p2AspL5, .ac3⟩,
    ⟨mpeg4P2TsAspAc3T, .mpegTransportStreamDlna, .p2AspL5, .ac3⟩,
    ⟨mpeg4P2TsAspAc3Iso, .mpegTransportStream, .p2AspL5, .ac3⟩,
    ⟨mpeg4P2TsCoAc3, .mpegTransportStreamDlnaNoTs, .p2AspL4, .ac3⟩,
    ⟨mpeg4P2TsCoAc3T, .mpegTransportStreamDlna, .p2AspL4, .ac3⟩,
    ⟨mpeg4P2TsCoAc3Iso, .mpegTransportStream, .p2AspL4, .ac3⟩,
    ⟨mpeg4P2TsCoMpeg2L2, .mpegTransportStreamDlnaNoTs, .p2AspL4, .mp2⟩,
    ⟨mpeg4P2TsCoMpeg2L2T, .mpegTransportStreamDlna, .p2AspL4, .mp2⟩,
    ⟨mpeg4P2TsCoMpeg2L2Iso, .mpegTransportStream, .p2AspL4, .mp2⟩,
    ⟨mpeg4P2AsfSpG726, .asf, .p2SpL3, .g726⟩,
    ⟨mpeg4P2AsfAspL5SoG726, .asf, .p2AspL5, .g726⟩,
    ⟨mpeg4P2AsfAspL4SoG726, .asf, .p2AspL4, .g726⟩,
    ⟨mpeg4H2633gppP0L10AmrWbplus, .threeGp, .h263, .amrWb⟩,
    ⟨mpeg4P23gppSpL0bAac, .threeGp, .p2SpL0b, .aac⟩,
    ⟨mpeg4P23gppSpL0bAmr, .threeGp, .p2SpL0b, .amr⟩,
    ⟨mpeg4H2633gppP3L10Amr, .threeGp, .h263, .amr⟩]

def mpeg4GetVcodec (vc : AvCodecContext) : Mpeg4VcodecType :=
  match avfVcodecMapping.find? fun row => row.1 = vc.codecId with
  | some (_, type) => type
  | none => .invalid

def isValidVideoProfile : List VideoProperties → AvStream → Except Fault Bool
  | [], _ => .ok false
  | row :: rest, vs =>
      if row.width = vs.codec.width ∧ row.height = vs.codec.height then do
        let rate ← intDiv vs.rFrameRate.num vs.rFrameRate.den
        let bound ← intDiv row.fpsNum row.fpsDen
        if rate ≤ bound then .ok true else isValidVideoProfile rest vs
      else isValidVideoProfile rest vs

def mpeg4VideoGetProfile (vctype : Mpeg4VcodecType) (vs : AvStream) :
    Except Fault Mpeg4VideoProfile :=
  let bitRate := vs.codec.bitRate
  -- `res` decides between a profile and none at all
  let only (res : List VideoProperties) (vp : Mpeg4VideoProfile) : Except Fault Mpeg4VideoProfile :=
    (isValidVideoProfile res vs).map fun valid => if valid then vp else .invalid
  match vctype with
  | .h263 => if 64000 < bitRate then .ok .invalid else only profileH263Res .h263
  | .p2 =>
      if bitRate ≤ 128000 then do
        let valid ← isValidVideoProfile profileP2SpL0bRes vs
        if valid then .ok .p2SpL0b else only profileP2SpL2Res .p2SpL2
      else if bitRate ≤ 384000 then only profileP2SpL3CoRes .p2SpL3
      else if bitRate ≤ 2000000 then do
        let valid ← isValidVideoProfile profileP2SpL3CoRes vs
        if valid then .ok .p2AspL4 else only profileP2AspL4Res .p2AspL4
      else if bitRate ≤ 3000000 then only profileP2SpL3VgaRes .p2SpL3Vga
      else if bitRate ≤ 8000000 then only profileP2AspL5Res .p2AspL5
      else .ok .invalid
  | .invalid => .ok .invalid

def dlnaProfilesSupportedAvMpeg4Part2 : List StaticProfile :=
  [mpeg4P2Mp4SpAac, mpeg4P2Mp4SpHeaac, mpeg4P2Mp4SpAtrac3plus, mpeg4P2Mp4SpAacLtp,
    mpeg4P2Mp4SpL2Aac, mpeg4P2Mp4SpL2Amr, mpeg4P2Mp4SpVgaAac, mpeg4P2Mp4SpVgaHeaac,
    mpeg4P2Mp4AspAac, mpeg4P2Mp4AspHeaac, mpeg4P2Mp4AspHeaacMult5, mpeg4P2Mp4AspActrac3plus,
    mpeg4P2Mp4AspL5SoAac, mpeg4P2Mp4AspL5SoHeaac, mpeg4P2Mp4AspL5SoHeaacMult5,
    mpeg4P2Mp4AspL4SoAac, mpeg4P2Mp4AspL4SoHeaac, mpeg4P2Mp4AspL4SoHeaacMult5,
    mpeg4H263Mp4P0L10Aac, mpeg4H263Mp4P0L10AacLtp, mpeg4P2TsSpAac, mpeg4P2TsSpAacT,
    mpeg4P2TsSpAacIso, mpeg4P2TsSpMpeg1L3, mpeg4P2TsSpMpeg1L3T, mpeg4P2TsSpMpeg1L3Iso,
    mpeg4P2TsSpAc3, mpeg4P2TsSpAc3T, mpeg4P2TsSpAc3Iso, mpeg4P2TsSpMpeg2L2, mpeg4P2TsSpMpeg2L2T,
    mpeg4P2TsSpMpeg2L2Iso, mpeg4P2TsAspAac, mpeg4P2TsAspAacT, mpeg4P2TsAspAacIso,
    mpeg4P2TsAspMpeg1L3, mpeg4P2TsAspMpeg1L3T, mpeg4P2TsAspMpeg1L3Iso, mpeg4P2TsAspAc3,
    mpeg4P2TsAspAc3T, mpeg4P2TsAspAc3Iso, mpeg4P2TsCoAc3, mpeg4P2TsCoAc3T, mpeg4P2TsCoAc3Iso,
    mpeg4P2TsCoMpeg2L2, mpeg4P2TsCoMpeg2L2T, mpeg4P2TsCoMpeg2L2Iso, mpeg4P2AsfSpG726,
    mpeg4P2AsfAspL5SoG726, mpeg4P2AsfAspL4SoG726, mpeg4H2633gppP0L10AmrWbplus,
    mpeg4P23gppSpL0bAac, mpeg4P23gppSpL0bAmr, mpeg4H2633gppP3L10Amr]

end AvMpeg4Part2

open AvMpeg4Part2 in
def probeMpeg4Part2 (ctx : AvFormatContext) (codecs : AvCodecs) :
    Except Fault (Option StaticProfile × AvCodecs) :=
  if !streamCtxIsAv codecs then .ok (none, codecs)
  else
    match codecs.audio, codecs.video with
    | some audio, some video =>
        let vctype := mpeg4GetVcodec video.codec
        if vctype = .invalid then .ok (none, codecs)
        else do
          let st ← streamGetContainer ctx
          if st ∉ [.asf, .threeGp, .mp4, .mpegTransportStream, .mpegTransportStreamDlna,
              .mpegTransportStreamDlnaNoTs] then .ok (none, codecs)
          else do
            let video ← ensureVideoBitRate ctx audio video
            let codecs := { codecs with video := some video }
            let vp ← mpeg4VideoGetProfile vctype video
            let ap := audioProfileGuess codecs.ac
            if vp = .invalid then .ok (none, codecs)
            else if ap = .invalid then .ok (none, codecs)
            else
              let found := mpeg4ProfilesMapping.find? fun row =>
                row.st = st ∧ row.vp = vp ∧ row.ap = aacFixup ap
              .ok (found.map Mpeg4ProfileMapping.profile, codecs)
    | _, _ => .error .nullDeref

def dlnaProfileAvMpeg4Part2 : RegisteredProfile where
  id := .avMpeg4Part2
  mediaClass := .av
  extensions := "mov,hdmov,mp4,3gp,3gpp,asf,mpg,mpeg,mpe,mp2t,ts".toList
  profiles := AvMpeg4Part2.dlnaProfilesSupportedAvMpeg4Part2
  probe := codecsProbe probeMpeg4Part2

end Libdlna
