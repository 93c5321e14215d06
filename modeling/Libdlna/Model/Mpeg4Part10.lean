import Libdlna.Model.Mpeg4Part2

set_option autoImplicit false

namespace Libdlna

namespace AvMpeg4Part10

inductive AvcVideoProfile where
  | invalid
  | blQcif15
  | blL1bQcif
  | blL12Cif15
  | blCif15
  | blCif15520
  | blCif15540
  | blL2Cif30
  | blCif30
  | blCif30940
  | blL3lSd
  | blL3Sd
  | mpSd
  | mpHd
  deriving DecidableEq

structure VideoProperties where
  width : Int32
  height : Int32

def profileCifRes : List VideoProperties :=
  [⟨352, 288⟩, ⟨352, 240⟩, ⟨320, 240⟩, ⟨320, 180⟩, ⟨240, 180⟩, ⟨240, 135⟩, ⟨208, 160⟩, ⟨176, 144⟩,
    ⟨176, 120⟩, ⟨160, 120⟩, ⟨160, 112⟩, ⟨160, 90⟩, ⟨128, 96⟩]

def profileMpL3SdRes : List VideoProperties :=
  [⟨720, 576⟩, ⟨720, 480⟩, ⟨640, 480⟩, ⟨640, 360⟩]

def profileMpSdRes : List VideoProperties :=
  [⟨720, 576⟩, ⟨720, 480⟩, ⟨704, 576⟩, ⟨704, 480⟩, ⟨640, 480⟩, ⟨640, 360⟩, ⟨544, 576⟩, ⟨544, 480⟩,
    ⟨480, 576⟩, ⟨480, 480⟩, ⟨480, 360⟩, ⟨480, 270⟩, ⟨352, 576⟩, ⟨352, 480⟩, ⟨352, 288⟩,
    ⟨352, 240⟩, ⟨320, 240⟩, ⟨320, 180⟩, ⟨240, 180⟩, ⟨208, 160⟩, ⟨176, 144⟩, ⟨176, 120⟩,
    ⟨160, 120⟩, ⟨160, 112⟩, ⟨160, 90⟩, ⟨128, 96⟩]

def profileMpHdRes : List VideoProperties :=
  [⟨1920, 1080⟩, ⟨1920, 1152⟩, ⟨1920, 540⟩, ⟨1280, 720⟩]

def avcMp4MpSdAacMult5 : StaticProfile :=
  ⟨spelledText "AVC_MP4_MP_SD_AAC_MULT5", some mimeVideoMpeg4⟩
def avcMp4MpSdHeaacL2 : StaticProfile := ⟨spelledText "AVC_MP4_MP_SD_HEAAC_L2", some mimeVideoMpeg4⟩
def avcMp4MpSdMpeg1L3 : StaticProfile := ⟨spelledText "AVC_MP4_MP_SD_MPEG1_L3", some mimeVideoMpeg4⟩
def avcMp4MpSdAc3 : StaticProfile := ⟨spelledText "AVC_MP4_MP_SD_AC3", some mimeVideoMpeg4⟩
def avcMp4MpSdAacLtp : StaticProfile := ⟨spelledText "AVC_MP4_MP_SD_AAC_LTP", some mimeVideoMpeg4⟩
def avcMp4MpSdAacLtpMult5 : StaticProfile :=
  ⟨spelledText "AVC_MP4_MP_SD_AAC_LTP_MULT5", some mimeVideoMpeg4⟩
def avcMp4MpSdAacLtpMult7 : StaticProfile :=
  ⟨spelledText "AVC_MP4_MP_SD_AAC_LTP_MULT7", some mimeVideoMpeg4⟩
def avcMp4MpSdAtrac3plus : StaticProfile :=
  ⟨spelledText "AVC_MP4_MP_SD_ATRAC3plus", some mimeVideoMpeg4⟩
def avcMp4BlL3lSdAac : StaticProfile := ⟨spelledText "AVC_MP4_BL_L3L_SD_AAC", some mimeVideoMpeg4⟩
def avcMp4BlL3lSdHeaac : StaticProfile :=
  ⟨spelledText "AVC_MP4_BL_L3L_SD_HEAAC", some mimeVideoMpeg4⟩
def avcMp4BlL3SdAac : StaticProfile := ⟨spelledText "AVC_MP4_BL_L3_SD_AAC", some mimeVideoMpeg4⟩
def avcMp4MpSdBsac : StaticProfile := ⟨spelledText "AVC_MP4_MP_SD_BSAC", some mimeVideoMpeg4⟩
def avcMp4BlCif30AacMult5 : StaticProfile :=
  ⟨spelledText "AVC_MP4_BL_CIF30_AAC_MULT5", some mimeVideoMpeg4⟩
def avcMp4BlCif30HeaacL2 : StaticProfile :=
  ⟨spelledText "AVC_MP4_BL_CIF30_HEAAC_L2", some mimeVideoMpeg4⟩
def avcMp4BlCif30Mpeg1L3 : StaticProfile :=
  ⟨spelledText "AVC_MP4_BL_CIF30_MPEG1_L3", some mimeVideoMpeg4⟩
def avcMp4BlCif30Ac3 : StaticProfile := ⟨spelledText "AVC_MP4_BL_CIF30_AC3", some mimeVideoMpeg4⟩
def avcMp4BlCif30AacLtp : StaticProfile :=
  ⟨spelledText "AVC_MP4_BL_CIF30_AAC_LTP", some mimeVideoMpeg4⟩
def avcMp4BlCif30AacLtpMult5 : StaticProfile :=
  ⟨spelledText "AVC_MP4_BL_CIF30_AAC_LTP_MULT5", some mimeVideoMpeg4⟩
def avcMp4BlL2Cif30Aac : StaticProfile :=
  ⟨spelledText "AVC_MP4_BL_L2_CIF30_AAC", some mimeVideoMpeg4⟩
def avcMp4BlCif30Bsac : StaticProfile := ⟨spelledText "AVC_MP4_BL_CIF30_BSAC", some mimeVideoMpeg4⟩
def avcMp4BlCif30BsacMult5 : StaticProfile :=
  ⟨spelledText "AVC_MP4_BL_CIF30_BSAC_MULT5", some mimeVideoMpeg4⟩
def avcMp4BlCif15Heaac : StaticProfile :=
  ⟨spelledText "AVC_MP4_BL_CIF15_HEAAC", some mimeVideoMpeg4⟩
def avcMp4BlCif15Amr : StaticProfile := ⟨spelledText "AVC_MP4_BL_CIF15_AMR", some mimeVideoMpeg4⟩
def avcMp4BlCif15Aac : StaticProfile := ⟨spelledText "AVC_MP4_BL_CIF15_AAC", some mimeVideoMpeg4⟩
def avcMp4BlCif15Aac520 : StaticProfile :=
  ⟨spelledText "AVC_MP4_BL_CIF15_AAC_520", some mimeVideoMpeg4⟩
def avcMp4BlCif15AacLtp : StaticProfile :=
  ⟨spelledText "AVC_MP4_BL_CIF15_AAC_LTP", some mimeVideoMpeg4⟩
def avcMp4BlCif15AacLtp520 : StaticProfile :=
  ⟨spelledText "AVC_MP4_BL_CIF15_AAC_LTP_520", some mimeVideoMpeg4⟩
def avcMp4BlCif15Bsac : StaticProfile := ⟨spelledText "AVC_MP4_BL_CIF15_BSAC", some mimeVideoMpeg4⟩
def avcMp4BlL12Cif15Heaac : StaticProfile :=
  ⟨spelledText "AVC_MP4_BL_L12_CIF15_HEAAC", some mimeVideoMpeg4⟩
def avcMp4BlL1bQcif15Heaac : StaticProfile :=
  ⟨spelledText "AVC_MP4_BL_L1B_QCIF15_HEAAC", some mimeVideoMpeg4⟩
def avcTsMpSdAacMult5 : StaticProfile :=
  ⟨spelledText "AVC_TS_MP_SD_AAC_MULT5", some mimeVideoMpegTs⟩
def avcTsMpSdAacMult5T : StaticProfile :=
  ⟨spelledText "AVC_TS_MP_SD_AAC_MULT5_T", some mimeVideoMpegTs⟩
def avcTsMpSdAacMult5Iso : StaticProfile :=
  ⟨spelledText "AVC_TS_MP_SD_AAC_MULT5_ISO", some mimeVideoMpeg⟩
def avcTsMpSdHeaacL2 : StaticProfile := ⟨spelledText "AVC_TS_MP_SD_HEAAC_L2", some mimeVideoMpegTs⟩
def avcTsMpSdHeaacL2T : StaticProfile :=
  ⟨spelledText "AVC_TS_MP_SD_HEAAC_L2_T", some mimeVideoMpegTs⟩
def avcTsMpSdHeaacL2Iso : StaticProfile :=
  ⟨spelledText "AVC_TS_MP_SD_HEAAC_L2_ISO", some mimeVideoMpeg⟩
def avcTsMpSdMpeg1L3 : StaticProfile := ⟨spelledText "AVC_TS_MP_SD_MPEG1_L3", some mimeVideoMpegTs⟩
def avcTsMpSdMpeg1L3T : StaticProfile :=
  ⟨spelledText "AVC_TS_MP_SD_MPEG1_L3_T", some mimeVideoMpegTs⟩
def avcTsMpSdMpeg1L3Iso : StaticProfile :=
  ⟨spelledText "AVC_TS_MP_SD_MPEG1_L3_ISO", some mimeVideoMpeg⟩
def avcTsMpSdAc3 : StaticProfile := ⟨spelledText "AVC_TS_MP_SD_AC3", some mimeVideoMpegTs⟩
def avcTsMpSdAc3T : StaticProfile := ⟨spelledText "AVC_TS_MP_SD_AC3_T", some mimeVideoMpegTs⟩
def avcTsMpSdAc3Iso : StaticProfile := ⟨spelledText "AVC_TS_MP_SD_AC3_ISO", some mimeVideoMpeg⟩
def avcTsMpSdAacLtp : StaticProfile := ⟨spelledText "AVC_TS_MP_SD_AAC_LTP", some mimeVideoMpegTs⟩
def avcTsMpSdAacLtpT : StaticProfile := ⟨spelledText "AVC_TS_MP_SD_AAC_LTP_T", some mimeVideoMpegTs⟩
def avcTsMpSdAacLtpIso : StaticProfile :=
  ⟨spelledText "AVC_TS_MP_SD_AAC_LTP_ISO", some mimeVideoMpeg⟩
def avcTsMpSdAacLtpMult5 : StaticProfile :=
  ⟨spelledText "AVC_TS_MP_SD_AAC_LTP_MULT5", some mimeVideoMpegTs⟩
def avcTsMpSdAacLtpMult5T : StaticProfile :=
  ⟨spelledText "AVC_TS_MP_SD_AAC_LTP_MULT5_T", some mimeVideoMpegTs⟩
def avcTsMpSdAacLtpMult5Iso : StaticProfile :=
  ⟨spelledText "AVC_TS_MP_SD_AAC_LTP_MULT5_ISO", some mimeVideoMpeg⟩
def avcTsMpSdAacLtpMult7 : StaticProfile :=
  ⟨spelledText "AVC_TS_MP_SD_AAC_LTP_MULT7", some mimeVideoMpegTs⟩
def avcTsMpSdAacLtpMult7T : StaticProfile :=
  ⟨spelledText "AVC_TS_MP_SD_AAC_LTP_MULT7_T", some mimeVideoMpegTs⟩
def avcTsMpSdAacLtpMult7Iso : StaticProfile :=
  ⟨spelledText "AVC_TS_MP_SD_AAC_LTP_MULT7_ISO", some mimeVideoMpeg⟩
def avcTsMpSdBsac : StaticProfile := ⟨spelledText "AVC_TS_MP_SD_BSAC", some mimeVideoMpegTs⟩
def avcTsMpSdBsacT : StaticProfile := ⟨spelledText "AVC_TS_MP_SD_BSAC_T", some mimeVideoMpegTs⟩
def avcTsMpSdBsacIso : StaticProfile := ⟨spelledText "AVC_TS_MP_SD_BSAC_ISO", some mimeVideoMpeg⟩
def avcTsBlCif30AacMult5 : StaticProfile :=
  ⟨spelledText "AVC_TS_BL_CIF30_AAC_MULT5", some mimeVideoMpegTs⟩
def avcTsBlCif30AacMult5T : StaticProfile :=
  ⟨spelledText "AVC_TS_BL_CIF30_AAC_MULT5_T", some mimeVideoMpegTs⟩
def avcTsBlCif30AacMult5Iso : StaticProfile :=
  ⟨spelledText "AVC_TS_BL_CIF30_AAC_MULT5_ISO", some mimeVideoMpeg⟩
def avcTsBlCif30HeaacL2 : StaticProfile :=
  ⟨spelledText "AVC_TS_BL_CIF30_HEAAC_L2", some mimeVideoMpegTs⟩
def avcTsBlCif30HeaacL2T : StaticProfile :=
  ⟨spelledText "AVC_TS_BL_CIF30_HEAAC_L2_T", some mimeVideoMpegTs⟩
def avcTsBlCif30HeaacL2Iso : StaticProfile :=
  ⟨spelledText "AVC_TS_BL_CIF30_HEAAC_L2_ISO", some mimeVideoMpeg⟩
def avcTsBlCif30Mpeg1L3 : StaticProfile :=
  ⟨spelledText "AVC_TS_BL_CIF30_MPEG1_L3", some mimeVideoMpegTs⟩
def avcTsBlCif30Mpeg1L3T : StaticProfile :=
  ⟨spelledText "AVC_TS_BL_CIF30_MPEG1_L3_T", some mimeVideoMpegTs⟩
def avcTsBlCif30Mpeg1L3Iso : StaticProfile :=
  ⟨spelledText "AVC_TS_BL_CIF30_MPEG1_L3_ISO", some mimeVideoMpeg⟩
def avcTsBlCif30Ac3 : StaticProfile := ⟨spelledText "AVC_TS_BL_CIF30_AC3", some mimeVideoMpegTs⟩
def avcTsBlCif30Ac3T : StaticProfile := ⟨spelledText "AVC_TS_BL_CIF30_AC3_T", some mimeVideoMpegTs⟩
def avcTsBlCif30Ac3Iso : StaticProfile :=
  ⟨spelledText "AVC_TS_BL_CIF30_AC3_ISO", some mimeVideoMpeg⟩
def avcTsBlCif30AacLtp : StaticProfile :=
  ⟨spelledText "AVC_TS_BL_CIF30_AAC_LTP", some mimeVideoMpegTs⟩
def avcTsBlCif30AacLtpT : StaticProfile :=
  ⟨spelledText "AVC_TS_BL_CIF30_AAC_LTP_T", some mimeVideoMpegTs⟩
def avcTsBlCif30AacLtpIso : StaticProfile :=
  ⟨spelledText "AVC_TS_BL_CIF30_AAC_LTP_ISO", some mimeVideoMpeg⟩
def avcTsBlCif30AacLtpMult5 : StaticProfile :=
  ⟨spelledText "AVC_TS_BL_CIF30_AAC_LTP_MULT5", some mimeVideoMpegTs⟩
def avcTsBlCif30AacLtpMult5T : StaticProfile :=
  ⟨spelledText "AVC_TS_BL_CIF30_AAC_LTP_MULT5_T", some mimeVideoMpegTs⟩
def avcTsBlCif30AacLtpMult5Iso : StaticProfile :=
  ⟨spelledText "AVC_TS_BL_CIF30_AAC_LTP_MULT5_ISO", some mimeVideoMpeg⟩
def avcTsBlCif30Aac940 : StaticProfile :=
  ⟨spelledText "AVC_TS_BL_CIF30_AAC_940", some mimeVideoMpegTs⟩
def avcTsBlCif30Aac940T : StaticProfile :=
  ⟨spelledText "AVC_TS_BL_CIF30_AAC_940_T", some mimeVideoMpegTs⟩
def avcTsBlCif30Aac940Iso : StaticProfile :=
  ⟨spelledText "AVC_TS_BL_CIF30_AAC_940_ISO", some mimeVideoMpeg⟩
def avcTsMpHdAacMult5 : StaticProfile :=
  ⟨spelledText "AVC_TS_MP_HD_AAC_MULT5", some mimeVideoMpegTs⟩
def avcTsMpHdAacMult5T : StaticProfile :=
  ⟨spelledText "AVC_TS_MP_HD_AAC_MULT5_T", some mimeVideoMpegTs⟩
def avcTsMpHdAacMult5Iso : StaticProfile :=
  ⟨spelledText "AVC_TS_MP_HD_AAC_MULT5_ISO", some mimeVideoMpeg⟩
def avcTsMpHdHeaacL2 : StaticProfile := ⟨spelledText "AVC_TS_MP_HD_HEAAC_L2", some mimeVideoMpegTs⟩
def avcTsMpHdHeaacL2T : StaticProfile :=
  ⟨spelledText "AVC_TS_MP_HD_HEAAC_L2_T", some mimeVideoMpegTs⟩
def avcTsMpHdHeaacL2Iso : StaticProfile :=
  ⟨spelledText "AVC_TS_MP_HD_HEAAC_L2_ISO", some mimeVideoMpeg⟩
def avcTsMpHdMpeg1L3 : StaticProfile := ⟨spelledText "AVC_TS_MP_HD_MPEG1_L3", some mimeVideoMpegTs⟩
def avcTsMpHdMpeg1L3T : StaticProfile :=
  ⟨spelledText "AVC_TS_MP_HD_MPEG1_L3_T", some mimeVideoMpegTs⟩
def avcTsMpHdMpeg1L3Iso : StaticProfile :=
  ⟨spelledText "AVC_TS_MP_HD_MPEG1_L3_ISO", some mimeVideoMpeg⟩
def avcTsMpHdAc3 : StaticProfile := ⟨spelledText "AVC_TS_MP_HD_AC3", some mimeVideoMpegTs⟩
def avcTsMpHdAc3T : StaticProfile := ⟨spelledText "AVC_TS_MP_HD_AC3_T", some mimeVideoMpegTs⟩
def avcTsMpHdAc3Iso : StaticProfile := ⟨spelledText "AVC_TS_MP_HD_AC3_ISO", some mimeVideoMpeg⟩
def avcTsMpHdAac : StaticProfile := ⟨spelledText "AVC_TS_MP_HD_AAC", some mimeVideoMpegTs⟩
def avcTsMpHdAacT : StaticProfile := ⟨spelledText "AVC_TS_MP_HD_AAC_T", some mimeVideoMpegTs⟩
def avcTsMpHdAacIso : StaticProfile := ⟨spelledText "AVC_TS_MP_HD_AAC_ISO", some mimeVideoMpeg⟩
def avcTsMpHdAacLtp : StaticProfile := ⟨spelledText "AVC_TS_MP_HD_AAC_LTP", some mimeVideoMpegTs⟩
def avcTsMpHdAacLtpT : StaticProfile := ⟨spelledText "AVC_TS_MP_HD_AAC_LTP_T", some mimeVideoMpegTs⟩
def avcTsMpHdAacLtpIso : StaticProfile :=
  ⟨spelledText "AVC_TS_MP_HD_AAC_LTP_ISO", some mimeVideoMpeg⟩
def avcTsMpHdAacLtpMult5 : StaticProfile :=
  ⟨spelledText "AVC_TS_MP_HD_AAC_LTP_MULT5", some mimeVideoMpegTs⟩
def avcTsMpHdAacLtpMult5T : StaticProfile :=
  ⟨spelledText "AVC_TS_MP_HD_AAC_LTP_MULT5_T", some mimeVideoMpegTs⟩
def avcTsMpHdAacLtpMult5Iso : StaticProfile :=
  ⟨spelledText "AVC_TS_MP_HD_AAC_LTP_MULT5_ISO", some mimeVideoMpeg⟩
def avcTsMpHdAacLtpMult7 : StaticProfile :=
  ⟨spelledText "AVC_TS_MP_HD_AAC_LTP_MULT7", some mimeVideoMpegTs⟩
def avcTsMpHdAacLtpMult7T : StaticProfile :=
  ⟨spelledText "AVC_TS_MP_HD_AAC_LTP_MULT7_T", some mimeVideoMpegTs⟩
def avcTsMpHdAacLtpMult7Iso : StaticProfile :=
  ⟨spelledText "AVC_TS_MP_HD_AAC_LTP_MULT7_ISO", some mimeVideoMpeg⟩
def avcTsBlCif15Aac : StaticProfile := ⟨spelledText "AVC_TS_BL_CIF15_AAC", some mimeVideoMpegTs⟩
def avcTsBlCif15AacT : StaticProfile := ⟨spelledText "AVC_TS_BL_CIF15_AAC_T", some mimeVideoMpegTs⟩
def avcTsBlCif15AacIso : StaticProfile :=
  ⟨spelledText "AVC_TS_BL_CIF15_AAC_ISO", some mimeVideoMpeg⟩
def avcTsBlCif15Aac540 : StaticProfile :=
  ⟨spelledText "AVC_TS_BL_CIF15_AAC_540", some mimeVideoMpegTs⟩
def avcTsBlCif15Aac540T : StaticProfile :=
  ⟨spelledText "AVC_TS_BL_CIF15_AAC_540_T", some mimeVideoMpegTs⟩
def avcTsBlCif15Aac540Iso : StaticProfile :=
  ⟨spelledText "AVC_TS_BL_CIF15_AAC_540_ISO", some mimeVideoMpeg⟩
def avcTsBlCif15AacLtp : StaticProfile :=
  ⟨spelledText "AVC_TS_BL_CIF15_AAC_LTP", some mimeVideoMpegTs⟩
def avcTsBlCif15AacLtpT : StaticProfile :=
  ⟨spelledText "AVC_TS_BL_CIF15_AAC_LTP_T", some mimeVideoMpegTs⟩
def avcTsBlCif15AacLtpIso : StaticProfile :=
  ⟨spelledText "AVC_TS_BL_CIF15_AAC_LTP_ISO", some mimeVideoMpeg⟩
def avcTsBlCif15Bsac : StaticProfile := ⟨spelledText "AVC_TS_BL_CIF15_BSAC", some mimeVideoMpegTs⟩
def avcTsBlCif15BsacT : StaticProfile :=
  ⟨spelledText "AVC_TS_BL_CIF15_BSAC_T", some mimeVideoMpegTs⟩
def avcTsBlCif15BsacIso : StaticProfile :=
  ⟨spelledText "AVC_TS_BL_CIF15_BSAC_ISO", some mimeVideoMpeg⟩
def avc3gppBlCif30AmrWbplus : StaticProfile :=
  ⟨spelledText "AVC_3GPP_BL_CIF30_AMR_WBplus", some mimeVideo3gp⟩
def avc3gppBlCif15AmrWbplus : StaticProfile :=
  ⟨spelledText "AVC_3GPP_BL_CIF15_AMR_WBplus", some mimeVideo3gp⟩
def avc3gppBlQcif15Aac : StaticProfile := ⟨spelledText "AVC_3GPP_BL_QCIF15_AAC", some mimeVideo3gp⟩
def avc3gppBlQcif15AacLtp : StaticProfile :=
  ⟨spelledText "AVC_3GPP_BL_QCIF15_AAC_LTP", some mimeVideo3gp⟩
def avc3gppBlQcif15Heaac : StaticProfile :=
  ⟨spelledText "AVC_3GPP_BL_QCIF15_HEAAC", some mimeVideo3gp⟩
def avc3gppBlQcif15AmrWbplus : StaticProfile :=
  ⟨spelledText "AVC_3GPP_BL_QCIF15_AMR_WBplus", some mimeVideo3gp⟩
def avc3gppBlQcif15Amr : StaticProfile := ⟨spelledText "AVC_3GPP_BL_QCIF15_AMR", some mimeVideo3gp⟩

structure AvcProfileMapping where
  profile : StaticProfile
  st : ContainerType
  vp : AvcVideoProfile
  ap : AudioProfile

def avcProfilesMapping : List AvcProfileMapping :=
  [⟨avcMp4MpSdAacMult5, .mp4, .mpSd, .aacMult5⟩,
    ⟨avcMp4MpSdHeaacL2, .mp4, .mpSd, .aacHeL2⟩,
    ⟨avcMp4MpSdMpeg1L3, .mp4, .mpSd, .mp3⟩,
    ⟨avcMp4MpSdAc3, .mp4, .mpSd, .ac3⟩,
    ⟨avcMp4MpSdAacLtp, .mp4, .mpSd, .aacLtp⟩,
    ⟨avcMp4MpSdAacLtpMult5, .mp4, .mpSd, .aacLtpMult5⟩,
    ⟨avcMp4MpSdAacLtpMult7, .mp4, .mpSd, .aacLtpMult7⟩,
    ⟨avcMp4MpSdAtrac3plus, .mp4, .mpSd, .atrac⟩,
    ⟨avcMp4MpSdBsac, .mp4, .mpSd, .aacBsac⟩,
    ⟨avcMp4BlL3lSdAac, .mp4, .blL3lSd, .aac⟩,
    ⟨avcMp4BlL3lSdHeaac, .mp4, .blL3lSd, .aacHeL2⟩,
    ⟨avcMp4BlL3SdAac, .mp4, .blL3Sd, .aac⟩,
    ⟨avcMp4BlCif30AacMult5, .mp4, .blCif30, .aacMult5⟩,
    ⟨avcMp4BlCif30HeaacL2, .mp4, .blCif30, .aacHeL2⟩,
    ⟨avcMp4BlCif30Mpeg1L3, .mp4, .blCif30, .mp3⟩,
    ⟨avcMp4BlCif30Ac3, .mp4, .blCif30, .ac3⟩,
    ⟨avcMp4BlCif30AacLtp, .mp4, .blCif30, .aacLtp⟩,
    ⟨avcMp4BlCif30AacLtpMult5, .mp4, .blCif30, .aacLtpMult5⟩,
    ⟨avcMp4BlCif30Bsac, .mp4, .blCif30, .aacBsac⟩,
    ⟨avcMp4BlCif30BsacMult5, .mp4, .blCif30, .aacBsacMult5⟩,
    ⟨avcMp4BlL2Cif30Aac, .mp4, .blL2Cif30, .aac⟩,
    ⟨avcMp4BlCif15Heaac, .mp4, .blCif15, .aacHeL2⟩,
    ⟨avcMp4BlCif15Amr, .mp4, .blCif15, .amr⟩,
    ⟨avcMp4BlCif15Aac, .mp4, .blCif15, .aac⟩,
    ⟨avcMp4BlCif15Aac520, .mp4, .blCif15520, .aac⟩,
    ⟨avcMp4BlCif15AacLtp, .mp4, .blCif15, .aacLtp⟩,
    ⟨avcMp4BlCif15AacLtp520, .mp4, .blCif15520, .aacLtp⟩,
    ⟨avcMp4BlCif15Bsac, .mp4, .blCif15, .aacBsac⟩,
    ⟨avcMp4BlL12Cif15Heaac, .mp4, .blL12Cif15, .aacHeL2⟩,
    ⟨avcMp4BlL1bQcif15Heaac, .mp4, .blL1bQcif, .aacHeL2⟩,
    ⟨avcTsMpSdAacMult5, .mpegTransportStreamDlnaNoTs, .mpSd, .aacMult5⟩,
    ⟨avcTsMpSdAacMult5T, .mpegTransportStreamDlna, .mpSd, .aacMult5⟩,
    ⟨avcTsMpSdAacMult5Iso, .mpegTransportStream, .mpSd, .aacMult5⟩,
    ⟨avcTsMpSdHeaacL2, .mpegTransportStreamDlnaNoTs, .mpSd, .aacHeL2⟩,
    ⟨avcTsMpSdHeaacL2T, .mpegTransportStreamDlna, .mpSd, .aacHeL2⟩,
    ⟨avcTsMpSdHeaacL2Iso, .mpegTransportStream, .mpSd, .aacHeL2⟩,
    ⟨avcTsMpSdMpeg1L3, .mpegTransportStreamDlnaNoTs, .mpSd, .mp3⟩,
    ⟨avcTsMpSdMpeg1L3T, .mpegTransportStreamDlna, .mpSd, .mp3⟩,
    ⟨avcTsMpSdMpeg1L3Iso, .mpegTransportStream, .mpSd, .mp3⟩,
    ⟨avcTsMpSdAc3, .mpegTransportStreamDlnaNoTs, .mpSd, .ac3⟩,
    ⟨avcTsMpSdAc3T, .mpegTransportStreamDlna, .mpSd, .ac3⟩,
    ⟨avcTsMpSdAc3Iso, .mpegTransportStream, .mpSd, .ac3⟩,
    ⟨avcTsMpSdAacLtp, .mpegTransportStreamDlnaNoTs, .mpSd, .aacLtp⟩,
    ⟨avcTsMpSdAacLtpT, .mpegTransportStreamDlna, .mpSd, .aacLtp⟩,
    ⟨avcTsMpSdAacLtpIso, .mpegTransportStream, .mpSd, .aacLtp⟩,
    ⟨avcTsMpSdAacLtpMult5, .mpegTransportStreamDlnaNoTs, .mpSd, .aacLtpMult5⟩,
    ⟨avcTsMpSdAacLtpMult5T, .mpegTransportStreamDlna, .mpSd, .aacLtpMult5⟩,
    ⟨avcTsMpSdAacLtpMult5Iso, .mpegTransportStream, .mpSd, .aacLtpMult5⟩,
    ⟨avcTsMpSdAacLtpMult7, .mpegTransportStreamDlnaNoTs, .mpSd, .aacLtpMult7⟩,
    ⟨avcTsMpSdAacLtpMult7T, .mpegTransportStreamDlna, .mpSd, .aacLtpMult7⟩,
    ⟨avcTsMpSdAacLtpMult7Iso, .mpegTransportStream, .mpSd, .aacLtpMult7⟩,
    ⟨avcTsMpSdBsac, .mpegTransportStreamDlnaNoTs, .mpSd, .aacBsac⟩,
    ⟨avcTsMpSdBsacT, .mpegTransportStreamDlna, .mpSd, .aacBsac⟩,
    ⟨avcTsMpSdBsacIso, .mpegTransportStream, .mpSd, .aacBsac⟩,
    ⟨avcTsBlCif30AacMult5, .mpegTransportStreamDlnaNoTs, .blCif30, .aacMult5⟩,
    ⟨avcTsBlCif30AacMult5T, .mpegTransportStreamDlna, .blCif30, .aacMult5⟩,
    ⟨avcTsBlCif30AacMult5Iso, .mpegTransportStream, .blCif30, .aacMult5⟩,
    ⟨avcTsBlCif30HeaacL2, .mpegTransportStreamDlnaNoTs, .blCif30, .aacHeL2⟩,
    ⟨avcTsBlCif30HeaacL2T, .mpegTransportStreamDlna, .blCif30, .aacHeL2⟩,
    ⟨avcTsBlCif30HeaacL2Iso, .mpegTransportStream, .blCif30, .aacHeL2⟩,
    ⟨avcTsBlCif30Mpeg1L3, .mpegTransportStreamDlnaNoTs, .blCif30, .mp3⟩,
    ⟨avcTsBlCif30Mpeg1L3T, .mpegTransportStreamDlna, .blCif30, .mp3⟩,
    ⟨avcTsBlCif30Mpeg1L3Iso, .mpegTransportStream, .blCif30, .mp3⟩,
    ⟨avcTsBlCif30Ac3, .mpegTransportStreamDlnaNoTs, .blCif30, .ac3⟩,
    ⟨avcTsBlCif30Ac3T, .mpegTransportStreamDlna, .blCif30, .ac3⟩,
    ⟨avcTsBlCif30Ac3Iso, .mpegTransportStream, .blCif30, .ac3⟩,
    ⟨avcTsBlCif30AacLtp, .mpegTransportStreamDlnaNoTs, .blCif30, .aacLtp⟩,
    ⟨avcTsBlCif30AacLtpT, .mpegTransportStreamDlna, .blCif30, .aacLtp⟩,
    ⟨avcTsBlCif30AacLtpIso, .mpegTransportStream, .blCif30, .aacLtp⟩,
    ⟨avcTsBlCif30AacLtpMult5, .mpegTransportStreamDlnaNoTs, .blCif30, .aacLtpMult5⟩,
    ⟨avcTsBlCif30AacLtpMult5T, .mpegTransportStreamDlna, .blCif30, .aacLtpMult5⟩,
    ⟨avcTsBlCif30AacLtpMult5Iso, .mpegTransportStream, .blCif30, .aacLtpMult5⟩,
    ⟨avcTsBlCif30Aac940, .mpegTransportStreamDlnaNoTs, .blCif30940, .aac⟩,
    ⟨avcTsBlCif30Aac940T, .mpegTransportStreamDlna, .blCif30940, .aac⟩,
    ⟨avcTsBlCif30Aac940Iso, .mpegTransportStream, .blCif30940, .aac⟩,
    ⟨avcTsMpHdAacMult5, .mpegTransportStreamDlnaNoTs, .mpHd, .aacMult5⟩,
    ⟨avcTsMpHdAacMult5T, .mpegTransportStreamDlna, .mpHd, .aacMult5⟩,
    ⟨avcTsMpHdAacMult5Iso, .mpegTransportStream, .mpHd, .aacMult5⟩,
    ⟨avcTsMpHdHeaacL2, .mpegTransportStreamDlnaNoTs, .mpHd, .aacHeL2⟩,
    ⟨avcTsMpHdHeaacL2T, .mpegTransportStreamDlna, .mpHd, .aacHeL2⟩,
    ⟨avcTsMpHdHeaacL2Iso, .mpegTransportStream, .mpHd, .aacHeL2⟩,
    ⟨avcTsMpHdMpeg1L3, .mpegTransportStreamDlnaNoTs, .mpHd, .mp3⟩,
    ⟨avcTsMpHdMpeg1L3T, .mpegTransportStreamDlna, .mpHd, .mp3⟩,
    ⟨avcTsMpHdMpeg1L3Iso, .mpegTransportStream, .mpHd, .mp3⟩,
    ⟨avcTsMpHdAc3, .mpegTransportStreamDlnaNoTs, .mpHd, .ac3⟩,
    ⟨avcTsMpHdAc3T, .mpegTransportStreamDlna, .mpHd, .ac3⟩,
    ⟨avcTsMpHdAc3Iso, .mpegTransportStream, .mpHd, .ac3⟩,
    ⟨avcTsMpHdAac, .mpegTransportStreamDlnaNoTs, .mpHd, .aac⟩,
    ⟨avcTsMpHdAacT, .mpegTransportStreamDlna, .mpHd, .aac⟩,
    ⟨avcTsMpHdAacIso, .mpegTransportStream, .mpHd, .aac⟩,
    ⟨avcTsMpHdAacLtp, .mpegTransportStreamDlnaNoTs, .mpHd, .aacLtp⟩,
    ⟨avcTsMpHdAacLtpT, .mpegTransportStreamDlna, .mpHd, .aacLtp⟩,
    ⟨avcTsMpHdAacLtpIso, .mpegTransportStream, .mpHd, .aacLtp⟩,
    ⟨avcTsMpHdAacLtpMult5, .mpegTransportStreamDlnaNoTs, .mpHd, .aacLtpMult5⟩,
    ⟨avcTsMpHdAacLtpMult5T, .mpegTransportStreamDlna, .mpHd, .aacLtpMult5⟩,
    ⟨avcTsMpHdAacLtpMult5Iso, .mpegTransportStream, .mpHd, .aacLtpMult5⟩,
    ⟨avcTsMpHdAacLtpMult7, .mpegTransportStreamDlnaNoTs, .mpHd, .aacLtpMult7⟩,
    ⟨avcTsMpHdAacLtpMult7T, .mpegTransportStreamDlna, .mpHd, .aacLtpMult7⟩,
    ⟨avcTsMpHdAacLtpMult7Iso, .mpegTransportStream, .mpHd, .aacLtpMult7⟩,
    ⟨avcTsBlCif15Aac, .mpegTransportStreamDlnaNoTs, .blCif15, .aac⟩,
    ⟨avcTsBlCif15AacT, .mpegTransportStreamDlna, .blCif15, .aac⟩,
    ⟨avcTsBlCif15AacIso, .mpegTransportStream, .blCif15, .aac⟩,
    ⟨avcTsBlCif15Aac540, .mpegTransportStreamDlnaNoTs, .blCif15540, .aac⟩,
    ⟨avcTsBlCif15Aac540T, .mpegTransportStreamDlna, .blCif15540, .aac⟩,
    ⟨avcTsBlCif15Aac540Iso, .mpegTransportStream, .blCif15540, .aac⟩,
    ⟨avcTsBlCif15AacLtp, .mpegTransportStreamDlnaNoTs, .blCif15, .aacLtp⟩,
    ⟨avcTsBlCif15AacLtpT, .mpegTransportStreamDlna, .blCif15, .aacLtp⟩,
    ⟨avcTsBlCif15AacLtpIso, .mpegTransportStream, .blCif15, .aacLtp⟩,
    ⟨avcTsBlCif15Bsac, .mpegTransportStreamDlnaNoTs, .blCif15, .aacBsac⟩,
    ⟨avcTsBlCif15BsacT, .mpegTransportStreamDlna, .blCif15, .aacBsac⟩,
    ⟨avcTsBlCif15BsacIso, .mpegTransportStream, .blCif15, .aacBsac⟩,
    ⟨avc3gppBlCif30AmrWbplus, .threeGp, .blCif30, .amrWb⟩,
    ⟨avc3gppBlCif15AmrWbplus, .threeGp, .blCif15, .amrWb⟩,
    ⟨avc3gppBlQcif15Aac, .threeGp, .blQcif15, .aac⟩,
    ⟨avc3gppBlQcif15AacLtp, .threeGp, .blQcif15, .aacLtp⟩,
    ⟨avc3gppBlQcif15Heaac, .threeGp, .blQcif15, .aacHeL2⟩,
    ⟨avc3gppBlQcif15AmrWbplus, .threeGp, .blQcif15, .amrWb⟩,
    ⟨avc3gppBlQcif15Amr, .threeGp, .blQcif15, .amr⟩]

def isValidVideoProfile (res : List VideoProperties) (vc : AvCodecContext) : Bool :=
  res.any fun row => row.width = vc.width ∧ row.height = vc.height

def avcVideoGetProfile (ctx : AvFormatContext) (vs : AvStream) : AvcVideoProfile :=
  let vc := vs.codec
  let hd :=
    if vc.bitRate ≤ 10000000 ∧ isValidVideoProfile profileMpSdRes vc then .mpSd
    else if vc.bitRate ≤ 20000000 then
      if isValidVideoProfile profileMpHdRes vc then .mpHd
      else if vc.width = 1920 ∨ vc.width = 1280 ∨ vc.width = 720 then .mpHd
      else if vc.height = 1080 ∨ vc.height = 720 ∨ vc.height = 480 then .mpHd
      else .invalid
    else .invalid
  let sd :=
    if vc.bitRate ≤ 4000000 ∧ isValidVideoProfile profileMpL3SdRes vc then .blL3Sd else hd
  if vc.bitRate ≤ 384000 ∧ ctx.bitRate ≤ 600000 ∧ vc.width = 320 ∧ vc.height = 240 then .blL12Cif15
  else if isValidVideoProfile profileCifRes vc then
    if vc.bitRate ≤ 128000 ∧ ctx.bitRate ≤ 256000 then
      -- the numerator is compared with both numbers
      if vs.rFrameRate.num = 15 ∧ vs.rFrameRate.num = 1 then .blQcif15 else .blL1bQcif
    else if ctx.bitRate ≤ 520000 then .blCif15520
    else if ctx.bitRate ≤ 540000 then .blCif15540
    else if vc.bitRate ≤ 384000 ∧ ctx.bitRate ≤ 600000 then .blCif15
    else if ctx.bitRate ≤ 940000 then .blCif30940
    else if ctx.bitRate ≤ 1300000 then .blL2Cif30
    else if vc.bitRate ≤ 2000000 ∧ ctx.bitRate ≤ 3000000 then .blCif30
    else sd
  else sd

def dlnaProfilesSupportedAvMpeg4Part10 : List StaticProfile :=
  [avcMp4MpSdAacMult5, avcMp4MpSdHeaacL2, avcMp4MpSdMpeg1L3, avcMp4MpSdAc3, avcMp4MpSdAacLtp,
    avcMp4MpSdAacLtpMult5, avcMp4MpSdAacLtpMult7, avcMp4MpSdAtrac3plus, avcMp4BlL3lSdAac,
    avcMp4BlL3lSdHeaac, avcMp4BlL3SdAac, avcMp4MpSdBsac, avcMp4BlCif30AacMult5,
    avcMp4BlCif30HeaacL2, avcMp4BlCif30Mpeg1L3, avcMp4BlCif30Ac3, avcMp4BlCif30AacLtp,
    avcMp4BlCif30AacLtpMult5, avcMp4BlL2Cif30Aac, avcMp4BlCif30Bsac, avcMp4BlCif30BsacMult5,
    avcMp4BlCif15Heaac, avcMp4BlCif15Amr, avcMp4BlCif15Aac, avcMp4BlCif15Aac520,
    avcMp4BlCif15AacLtp, avcMp4BlCif15AacLtp520, avcMp4BlCif15Bsac, avcMp4BlL12Cif15Heaac,
    avcMp4BlL1bQcif15Heaac, avcTsMpSdAacMult5, avcTsMpSdAacMult5T, avcTsMpSdAacMult5Iso,
    avcTsMpSdHeaacL2, avcTsMpSdHeaacL2T, avcTsMpSdHeaacL2Iso, avcTsMpSdMpeg1L3, avcTsMpSdMpeg1L3T,
    avcTsMpSdMpeg1L3Iso, avcTsMpSdAc3, avcTsMpSdAc3T, avcTsMpSdAc3Iso, avcTsMpSdAacLtp,
    avcTsMpSdAacLtpT, avcTsMpSdAacLtpIso, avcTsMpSdAacLtpMult5, avcTsMpSdAacLtpMult5T,
    avcTsMpSdAacLtpMult5Iso, avcTsMpSdAacLtpMult7, avcTsMpSdAacLtpMult7T, avcTsMpSdAacLtpMult7Iso,
    avcTsMpSdBsac, avcTsMpSdBsacT, avcTsMpSdBsacIso, avcTsBlCif30AacMult5, avcTsBlCif30AacMult5T,
    avcTsBlCif30AacMult5Iso, avcTsBlCif30HeaacL2, avcTsBlCif30HeaacL2T, avcTsBlCif30HeaacL2Iso,
    avcTsBlCif30Mpeg1L3, avcTsBlCif30Mpeg1L3T, avcTsBlCif30Mpeg1L3Iso, avcTsBlCif30Ac3,
    avcTsBlCif30Ac3T, avcTsBlCif30Ac3Iso, avcTsBlCif30AacLtp, avcTsBlCif30AacLtpT,
    avcTsBlCif30AacLtpIso, avcTsBlCif30AacLtpMult5, avcTsBlCif30AacLtpMult5T,
    avcTsBlCif30AacLtpMult5Iso, avcTsBlCif30Aac940, avcTsBlCif30Aac940T, avcTsBlCif30Aac940Iso,
    avcTsMpHdAacMult5, avcTsMpHdAacMult5T, avcTsMpHdAacMult5Iso, avcTsMpHdHeaacL2,
    avcTsMpHdHeaacL2T, avcTsMpHdHeaacL2Iso, avcTsMpHdMpeg1L3, avcTsMpHdMpeg1L3T,
    avcTsMpHdMpeg1L3Iso, avcTsMpHdAc3, avcTsMpHdAc3T, avcTsMpHdAc3Iso, avcTsMpHdAac,
    avcTsMpHdAacT, avcTsMpHdAacIso, avcTsMpHdAacLtp, avcTsMpHdAacLtpT, avcTsMpHdAacLtpIso,
    avcTsMpHdAacLtpMult5, avcTsMpHdAacLtpMult5T, avcTsMpHdAacLtpMult5Iso, avcTsMpHdAacLtpMult7,
    avcTsMpHdAacLtpMult7T, avcTsMpHdAacLtpMult7Iso, avcTsBlCif15Aac, avcTsBlCif15AacT,
    avcTsBlCif15AacIso, avcTsBlCif15Aac540, avcTsBlCif15Aac540T, avcTsBlCif15Aac540Iso,
    avcTsBlCif15AacLtp, avcTsBlCif15AacLtpT, avcTsBlCif15AacLtpIso, avcTsBlCif15Bsac,
    avcTsBlCif15BsacT, avcTsBlCif15BsacIso, avc3gppBlCif30AmrWbplus, avc3gppBlCif15AmrWbplus,
    avc3gppBlQcif15Aac, avc3gppBlQcif15AacLtp, avc3gppBlQcif15Heaac, avc3gppBlQcif15AmrWbplus,
    avc3gppBlQcif15Amr]

end AvMpeg4Part10

open AvMpeg4Part10 in
def probeAvc (ctx : AvFormatContext) (codecs : AvCodecs) :
    Except Fault (Option StaticProfile × AvCodecs) :=
  if !streamCtxIsAv codecs then .ok (none, codecs)
  else
    match codecs.audio, codecs.video with
    | some audio, some video =>
        if video.codec.codecId ≠ .h264 then .ok (none, codecs)
        else do
          let st ← streamGetContainer ctx
          if st ∉ [.threeGp, .mp4, .mpegTransportStream, .mpegTransportStreamDlna,
              .mpegTransportStreamDlnaNoTs] then .ok (none, codecs)
          else do
            let video ← ensureVideoBitRate ctx audio video
            let codecs := { codecs with video := some video }
            let vp := avcVideoGetProfile ctx video
            let ap := audioProfileGuess codecs.ac
            if vp = .invalid then .ok (none, codecs)
            else if ap = .invalid then .ok (none, codecs)
            else
              let found := avcProfilesMapping.find? fun row =>
                row.st = st ∧ row.vp = vp ∧ row.ap = aacFixup ap
              .ok (found.map AvcProfileMapping.profile, codecs)
    | _, _ => .error .nullDeref

def dlnaProfileAvMpeg4Part10 : RegisteredProfile where
  id := .avMpeg4Part10
  mediaClass := .av
  extensions := "mov,hdmov,mp4,3gp,3gpp,mpg,mpeg,mpe,mp2t,ts".toList
  profiles := AvMpeg4Part10.dlnaProfilesSupportedAvMpeg4Part10
  probe := codecsProbe probeAvc

end Libdlna
