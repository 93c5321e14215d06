import Libdlna.Model.Media

set_option autoImplicit false

namespace Libdlna

open CString

inductive AudioProfile where
  | invalid
  | aac
  | aac320
  | aacMult5
  | aacBsac
  | aacBsacMult5
  | aacHeL2
  | aacHeL2320
  | aacHeL3
  | aacHeMult5
  | aacHeV2L2
  | aacHeV2L2320
  | aacHeV2L3
  | aacHeV2Mult5
  | aacLtp
  | aacLtpMult5
  | aacLtpMult7
  | ac3
  | ac3Extended
  | amr
  | amrWb
  | atrac
  | g726
  | lpcm
  | mp2
  | mp3
  | mp3Extended
  | wmaBaseline
  | wmaFull
  | wmaPro
  deriving DecidableEq

namespace AudioAc3

def ac3 : StaticProfile := ⟨spelledText "AC3", some mimeAudioDolbyDigital⟩

end AudioAc3

def audioProfileGuessAc3 : Option AvCodecContext → AudioProfile
  | none => .invalid
  | some ac =>
      if ac.codecId ≠ .ac3 then .invalid
      else if 5 < ac.channels then .invalid
      else if ac.sampleRate ∉ [32000, 44100, 48000] then .invalid
      else if ac.bitRate < 32000 then .invalid
      else if ac.bitRate ≤ 448000 then .ac3
      else if ac.bitRate ≤ 640000 then .ac3Extended
      else .invalid

def probeAc3 (ctx : AvFormatContext) (codecs : AvCodecs) : Except Fault (Option StaticProfile) :=
  if !streamCtxIsAudio codecs then .ok none
  else if ctx.iformatName ≠ "ac3".toList then .ok none
  else
    match audioProfileGuessAc3 codecs.ac with
    | .ac3 | .ac3Extended => .ok (some AudioAc3.ac3)
    | _ => .ok none

def dlnaProfileAudioAc3 : RegisteredProfile where
  id := .audioAc3
  mediaClass := .audio
  extensions := "ac3".toList
  profiles := [AudioAc3.ac3]
  probe := readOnlyProbe probeAc3

namespace AudioAmr

def amr : StaticProfile := ⟨spelledText "AMR_3GPP", some mimeAudioMpeg4⟩
def threeGpp : StaticProfile := ⟨spelledText "AMR_3GPP", some mimeAudio3gp⟩
def amrWbplus : StaticProfile := ⟨spelledText "AMR_WBplus", some mimeAudio3gp⟩

end AudioAmr

def audioIsValidAmr : Option AvCodecContext → Bool
  | none => false
  | some ac =>
      ac.codecId = .amrNb && ac.channels = 1 && ac.sampleRate = 8000 &&
        ac.bitRate ∈ [4750, 5150, 5900, 6700, 7400, 7950, 10200, 12200]

def audioIsValidAmrWb : Option AvCodecContext → Bool
  | none => false
  | some ac =>
      ac.codecId = .amrWb && ac.sampleRate ∈ [8000, 16000, 24000, 32000, 48000] &&
        !(ac.bitRate < 5200 || 48000 < ac.bitRate) && ac.channels ≤ 2

def audioProfileGuessAmr (ac : Option AvCodecContext) : AudioProfile :=
  if audioIsValidAmr ac then .amr
  else if audioIsValidAmrWb ac then .amrWb
  else .invalid

def probeAmr (ctx : AvFormatContext) (codecs : AvCodecs) : Except Fault (Option StaticProfile) :=
  if !streamCtxIsAudio codecs then .ok none
  else do
    let st ← streamGetContainer ctx
    if st ∉ [.amr, .threeGp, .mp4] then .ok none
    else if audioIsValidAmr codecs.ac then
      .ok (some (if st = .threeGp then AudioAmr.threeGpp else AudioAmr.amr))
    else if audioIsValidAmrWb codecs.ac then .ok (some AudioAmr.amrWbplus)
    else .ok none

def dlnaProfileAudioAmr : RegisteredProfile where
  id := .audioAmr
  mediaClass := .audio
  extensions := "amr,3gp,mp4".toList
  profiles := [AudioAmr.amr, AudioAmr.threeGpp, AudioAmr.amrWbplus]
  probe := readOnlyProbe probeAmr

namespace AudioAtrac3

def atrac3 : StaticProfile := ⟨spelledText "ATRAC3plus", some mimeAudioAtrac⟩

end AudioAtrac3

def audioProfileGuessAtrac : Option AvCodecContext → AudioProfile
  | none => .invalid
  | some ac => if ac.codecId = .atrac3 then .atrac else .invalid

def probeAtrac3 (_ctx : AvFormatContext) (codecs : AvCodecs) :
    Except Fault (Option StaticProfile) :=
  if !streamCtxIsAudio codecs then .ok none
  else if audioProfileGuessAtrac codecs.ac = .atrac then .ok (some AudioAtrac3.atrac3)
  else .ok none

def dlnaProfileAudioAtrac3 : RegisteredProfile where
  id := .audioAtrac3
  mediaClass := .audio
  extensions := "at3p,acm,wav".toList
  profiles := [AudioAtrac3.atrac3]
  probe := readOnlyProbe probeAtrac3

def audioProfileGuessG726 : Option AvCodecContext → AudioProfile
  | none => .invalid
  | some ac =>
      if ac.codecId ≠ .adpcmG726 then .invalid
      else if ac.channels ≠ 1 then .invalid
      else if ac.sampleRate ≠ 8000 then .invalid
      else if ac.bitRate ≠ 32000 then .invalid
      else .g726

namespace AudioLpcm

def lpcm : StaticProfile := ⟨spelledText "LPCM", none⟩
def lpcmLow : StaticProfile := ⟨spelledText "LPCM_low", none⟩

end AudioLpcm

def audioProfileGuessLpcm : Option AvCodecContext → AudioProfile
  | none => .invalid
  | some ac =>
      if ac.codecId ≠ .pcmS16be ∧ ac.codecId ≠ .pcmS16le then .invalid
      else if 2 < ac.channels then .invalid
      else if ac.sampleRate < 8000 ∨ 48000 < ac.sampleRate then .invalid
      else .lpcm

def lpcmMimeText (sampleRate channels : Int32) : Text :=
  mimeAudioLpcm.val ++ ";rate=".toList ++ decimalInt sampleRate.toInt ++
    ";channels=".toList ++ decimalInt channels.toInt

theorem decimalInt_fits (n : Int32) :
    (decimalInt n.toInt).length ≤ 11 ∧ (decimalInt n.toInt).all isProfileChar = true := by
  have lower := n.le_toInt
  have upper := n.toInt_lt
  have digits {k : Nat} (small : k < 10 ^ 10) :
      (decimal k).length ≤ 10 ∧ (decimal k).all isProfileChar = true := by
    refine ⟨decimal_length (by decide) small, List.all_eq_true.mpr fun c member => ?_⟩
    simp [isProfileChar, decimal_isAlphanum member]
  unfold decimalInt
  split
  · obtain ⟨short, plain⟩ := digits (show n.toInt.natAbs < 10 ^ 10 by omega)
    refine ⟨Nat.succ_le_succ short, ?_⟩
    rw [List.all_cons, plain, Bool.and_true]
    decide
  · obtain ⟨short, plain⟩ := digits (show n.toInt.toNat < 10 ^ 10 by omega)
    exact ⟨by omega, plain⟩

theorem lpcmMimeText_fits (sampleRate channels : Int32) :
    (lpcmMimeText sampleRate channels).length ≤ 64 ∧
      (lpcmMimeText sampleRate channels).all isProfileChar = true := by
  have rate := decimalInt_fits sampleRate
  have count := decimalInt_fits channels
  have labels : (mimeAudioLpcm.val ++ ";rate=".toList).length = 15 ∧
      ";channels=".toList.length = 10 ∧
      (mimeAudioLpcm.val ++ ";rate=".toList).all isProfileChar = true ∧
      ";channels=".toList.all isProfileChar = true := by decide +kernel
  unfold lpcmMimeText
  generalize mimeAudioLpcm.val ++ ";rate=".toList = first at labels ⊢
  generalize ";channels=".toList = second at labels ⊢
  constructor
  · simp only [List.length_append]
    omega
  · simp only [List.all_append, Bool.and_eq_true]
    exact ⟨⟨⟨labels.2.2.1, rate.2⟩, labels.2.2.2⟩, count.2⟩

/-- What `sprintf` makes of `"%s;rate=%d;channels=%d"`. -/
def lpcmMime (sampleRate channels : Int32) : ProfileText :=
  ⟨lpcmMimeText sampleRate channels, lpcmMimeText_fits sampleRate channels⟩

def probeLpcm (_ctx : AvFormatContext) (codecs : AvCodecs) (memory : ProfileMemory) :
    Except Fault (Option ProfileRef × AvCodecs × ProfileMemory) :=
  if !streamCtxIsAudio codecs then .ok (none, codecs, memory)
  else if audioProfileGuessLpcm codecs.ac ≠ .lpcm then .ok (none, codecs, memory)
  else
    match codecs.ac with
    | none => .error .nullDeref
    | some ac =>
        let source := if ac.sampleRate ≤ 32000 then AudioLpcm.lpcmLow else AudioLpcm.lpcm
        let copy := memory.get (.static source)
        let copy := { copy with mime := some (lpcmMime ac.sampleRate ac.channels) }
        .ok (some .lpcmCopy, codecs, { memory with lpcmCopy := copy })

def dlnaProfileAudioLpcm : RegisteredProfile where
  id := .audioLpcm
  mediaClass := .audio
  extensions := "pcm,lpcm,wav,aiff".toList
  profiles := [AudioLpcm.lpcm, AudioLpcm.lpcmLow]
  probe := probeLpcm

def audioProfileGuessMp2 : Option AvCodecContext → AudioProfile
  | none => .invalid
  | some ac =>
      if ac.codecId ≠ .mp2 then .invalid
      else if 5 < ac.channels then .invalid
      else if ac.sampleRate ∉ [32000, 44100, 48000] then .invalid
      else if ac.bitRate < 32000 ∨ 448000 < ac.bitRate then .invalid
      else .mp2

namespace AudioMp3

def mp3 : StaticProfile := ⟨spelledText "MP3", some mimeAudioMpeg⟩
def mp3x : StaticProfile := ⟨spelledText "MP3X", some mimeAudioMpeg⟩

end AudioMp3

def audioIsValidMp3Common (ac : AvCodecContext) : Bool := ac.codecId = .mp3 && ac.channels ≤ 2

def audioIsValidMp3 : Option AvCodecContext → Bool
  | none => false
  | some ac =>
      audioIsValidMp3Common ac && ac.sampleRate ∈ [32000, 44100, 48000] &&
        ac.bitRate ∈ [32000, 40000, 48000, 56000, 64000, 80000, 96000, 112000, 128000, 160000,
          192000, 224000, 256000, 320000]

def audioIsValidMp3x : Option AvCodecContext → Bool
  | none => false
  | some ac =>
      audioIsValidMp3Common ac && ac.sampleRate ∈ [16000, 22050, 24000] &&
        ac.bitRate ∈ [8000, 16000, 24000, 32000, 40000, 48000, 56000, 64000, 80000, 96000, 112000,
          128000, 160000, 192000, 224000, 256000, 320000]

def audioProfileGuessMp3 (ac : Option AvCodecContext) : AudioProfile :=
  if audioIsValidMp3x ac then .mp3Extended
  else if audioIsValidMp3 ac then .mp3
  else .invalid

def probeMp3 (ctx : AvFormatContext) (codecs : AvCodecs) : Except Fault (Option StaticProfile) :=
  if !streamCtxIsAudio codecs then .ok none
  else if ctx.iformatName ≠ "mp3".toList then .ok none
  else
    match audioProfileGuessMp3 codecs.ac with
    | .mp3 => .ok (some AudioMp3.mp3)
    | .mp3Extended => .ok (some AudioMp3.mp3x)
    | _ => .ok none

def dlnaProfileAudioMp3 : RegisteredProfile where
  id := .audioMp3
  mediaClass := .audio
  extensions := "mp3".toList
  profiles := [AudioMp3.mp3, AudioMp3.mp3x]
  probe := readOnlyProbe probeMp3

namespace AudioWma

def wmabase : StaticProfile := ⟨spelledText "WMABASE", some mimeAudioWma⟩
def wmafull : StaticProfile := ⟨spelledText "WMAFULL", some mimeAudioWma⟩
def wmapro : StaticProfile := ⟨spelledText "WMAPRO", some mimeAudioWma⟩

end AudioWma

def audioProfileGuessWma : Option AvCodecContext → AudioProfile
  | none => .invalid
  | some ac =>
      if ac.codecId ≠ .wmav1 ∧ ac.codecId ≠ .wmav2 then .invalid
      else if ac.sampleRate ≤ 48000 then
        if ac.bitRate ≤ 193000 then
          if ac.channels ≤ 2 then .wmaBaseline else .invalid
        else if ac.bitRate ≤ 385000 then
          if ac.channels ≤ 2 then .wmaFull else .invalid
        else .invalid
      else if ac.sampleRate ≤ 96000 then
        if ac.channels ≤ 8 ∧ ac.bitRate ≤ 1500000 then .wmaPro else .invalid
      else .invalid

def probeWma (ctx : AvFormatContext) (codecs : AvCodecs) : Except Fault (Option StaticProfile) :=
  if !streamCtxIsAudio codecs then .ok none
  else if ctx.iformatName ≠ "asf".toList then .ok none
  else
    match audioProfileGuessWma codecs.ac with
    | .wmaBaseline => .ok (some AudioWma.wmabase)
    | .wmaFull => .ok (some AudioWma.wmafull)
    | .wmaPro => .ok (some AudioWma.wmapro)
    | _ => .ok none

def dlnaProfileAudioWma : RegisteredProfile where
  id := .audioWma
  mediaClass := .audio
  extensions := "wma,asf".toList
  profiles := [AudioWma.wmabase, AudioWma.wmafull, AudioWma.wmapro]
  probe := readOnlyProbe probeWma

namespace AudioAac

def aacAdts : StaticProfile := ⟨spelledText "AAC_ADTS", some mimeAudioAdts⟩
def aacAdts320 : StaticProfile := ⟨spelledText "AAC_ADTS_320", some mimeAudioAdts⟩
def aacIso : StaticProfile := ⟨spelledText "AAC_ISO", some mimeAudioMpeg4⟩
def aacIso320 : StaticProfile := ⟨spelledText "AAC_ISO_320", some mimeAudioMpeg4⟩
def aacLtpIso : StaticProfile := ⟨spelledText "AAC_LTP_ISO", some mimeAudioMpeg4⟩
def aacLtpMult5Iso : StaticProfile := ⟨spelledText "AAC_LTP_MULT5_ISO", some mimeAudioMpeg4⟩
def aacLtpMult7Iso : StaticProfile := ⟨spelledText "AAC_LTP_MULT7_ISO", some mimeAudioMpeg4⟩
def aacMult5Adts : StaticProfile := ⟨spelledText "AAC_MULT5_ADTS", some mimeAudioAdts⟩
def aacMult5Iso : StaticProfile := ⟨spelledText "AAC_MULT5_ISO", some mimeAudioMpeg4⟩
def heaacL2Adts : StaticProfile := ⟨spelledText "HEAAC_L2_ADTS", some mimeAudioAdts⟩
def heaacL2Iso : StaticProfile := ⟨spelledText "HEAAC_L2_ISO", some mimeAudioMpeg4⟩
def heaacL3Adts : StaticProfile := ⟨spelledText "HEAAC_L3_ADTS", some mimeAudioAdts⟩
def heaacL3Iso : StaticProfile := ⟨spelledText "HEAAC_L3_ISO", some mimeAudioMpeg4⟩
def heaacMult5Adts : StaticProfile := ⟨spelledText "HEAAC_MULT5_ADTS", some mimeAudioAdts⟩
def heaacMult5Iso : StaticProfile := ⟨spelledText "HEAAC_MULT5_ISO", some mimeAudioMpeg4⟩
def heaacL2Adts320 : StaticProfile := ⟨spelledText "HEAAC_L2_ADTS_320", some mimeAudioAdts⟩
def heaacL2Iso320 : StaticProfile := ⟨spelledText "HEAAC_L2_ISO_320", some mimeAudioMpeg4⟩
def bsacIso : StaticProfile := ⟨spelledText "BSAC_ISO", some mimeAudioMpeg4⟩
def bsacMult5Iso : StaticProfile := ⟨spelledText "BSAC_MULT5_ISO", some mimeAudioMpeg4⟩
def heaacV2L2 : StaticProfile := ⟨spelledText "HEAACv2_L2", some mimeAudioMpeg4⟩
def heaacV2L2Adts : StaticProfile := ⟨spelledText "HEAACv2_L2", some mimeAudioAdts⟩
def heaacV2L2320 : StaticProfile := ⟨spelledText "HEAACv2_L2_320", some mimeAudioMpeg4⟩
def heaacV2L2320Adts : StaticProfile := ⟨spelledText "HEAACv2_L2_320", some mimeAudioAdts⟩
def heaacV2L3 : StaticProfile := ⟨spelledText "HEAACv2_L3", some mimeAudioMpeg4⟩
def heaacV2L3Adts : StaticProfile := ⟨spelledText "HEAACv2_L3", some mimeAudioAdts⟩
def heaacV2Mult5 : StaticProfile := ⟨spelledText "HEAACv2_MULT5", some mimeAudioMpeg4⟩
def heaacV2Mult5Adts : StaticProfile := ⟨spelledText "HEAACv2_MULT5", some mimeAudioAdts⟩

end AudioAac

inductive AacContainerType where
  | muxed
  | raw
  deriving DecidableEq

/-- `aac_object_type_t`, of which the code names 27 values. -/
abbrev AacObjectType := UInt8

def aacInvalid : AacObjectType := 0
def aacLc : AacObjectType := 2
def aacLtp : AacObjectType := 4
def aacHe : AacObjectType := 5
def aacLcEr : AacObjectType := 17
def aacLtpEr : AacObjectType := 19
def aacBsacEr : AacObjectType := 22
def aacParamEr : AacObjectType := 27
def aacHeL3 : AacObjectType := 31

structure AacProfileMapping where
  profile : StaticProfile
  ct : AacContainerType
  ap : AudioProfile

open AudioAac in
def aacProfilesMapping : List AacProfileMapping :=
  [⟨aacAdts, .raw, .aac⟩,
    ⟨aacAdts320, .raw, .aac320⟩,
    ⟨aacIso, .muxed, .aac⟩,
    ⟨aacIso320, .muxed, .aac320⟩,
    ⟨aacLtpIso, .muxed, .aacLtp⟩,
    ⟨aacLtpMult5Iso, .muxed, .aacLtpMult5⟩,
    ⟨aacLtpMult7Iso, .muxed, .aacLtpMult7⟩,
    ⟨aacMult5Adts, .raw, .aacMult5⟩,
    ⟨aacMult5Iso, .muxed, .aacMult5⟩,
    ⟨heaacL2Adts, .raw, .aacHeL2⟩,
    ⟨heaacL2Iso, .muxed, .aacHeL2⟩,
    ⟨heaacL3Adts, .raw, .aacHeL3⟩,
    ⟨heaacL3Iso, .muxed, .aacHeL3⟩,
    ⟨heaacMult5Adts, .raw, .aacHeMult5⟩,
    ⟨heaacMult5Iso, .muxed, .aacHeMult5⟩,
    ⟨heaacL2Adts320, .raw, .aacHeL2320⟩,
    ⟨heaacL2Iso320, .muxed, .aacHeL2320⟩,
    ⟨heaacV2L2, .muxed, .aacHeV2L2⟩,
    ⟨heaacV2L2Adts, .raw, .aacHeV2L2⟩,
    ⟨heaacV2L2320, .muxed, .aacHeV2L2320⟩,
    ⟨heaacV2L2320Adts, .raw, .aacHeV2L2320⟩,
    ⟨heaacV2L3, .muxed, .aacHeV2L3⟩,
    ⟨heaacV2L3Adts, .raw, .aacHeV2L3⟩,
    ⟨heaacV2Mult5, .muxed, .aacHeV2Mult5⟩,
    ⟨heaacV2Mult5Adts, .raw, .aacHeV2Mult5⟩,
    ⟨bsacIso, .muxed, .aacBsac⟩,
    ⟨bsacMult5Iso, .muxed, .aacBsacMult5⟩]

def aacObjectTypeGet (data : Option (List UInt8)) : AacObjectType :=
  match data with
  | some (first :: _) => first >>> 3
  | _ => aacInvalid

def audioProfileGuessAacPriv (ac : Option AvCodecContext) (type : AacObjectType) : AudioProfile :=
  match ac with
  | none => .invalid
  | some ac =>
      if ac.codecId ≠ .aac then .invalid
      else if type = aacLc ∨ type = aacLcEr then
        if ac.sampleRate < 8000 ∨ 48000 < ac.sampleRate then .invalid
        else if ac.channels ≤ 2 then
          if ac.bitRate ≤ 320000 then .aac320
          else if ac.bitRate ≤ 576000 then .aac
          else .invalid
        else if ac.channels ≤ 6 then
          if ac.bitRate ≤ 1440000 then .aacMult5 else .invalid
        else .invalid
      else if type = aacLtp ∨ type = aacLtpEr then
        if ac.sampleRate < 8000 then .invalid
        else if ac.sampleRate ≤ 48000 then
          if ac.channels ≤ 2 ∧ ac.bitRate ≤ 576000 then .aacLtp else .invalid
        else if ac.sampleRate ≤ 96000 then
          if ac.channels ≤ 6 ∧ ac.bitRate ≤ 2880000 then .aacLtpMult5
          else if ac.channels ≤ 8 ∧ ac.bitRate ≤ 4032000 then .aacLtpMult7
          else .invalid
        else .invalid
      else if type = aacHe ∨ type = aacHeL3 then
        if ac.sampleRate < 8000 then .invalid
        else if ac.sampleRate ≤ 24000 then
          if 2 < ac.channels then .invalid
          else if ac.bitRate ≤ 320000 then .aacHeL2320
          else if ac.bitRate ≤ 576000 then .aacHeL2
          else .invalid
        else if ac.sampleRate ≤ 48000 then
          if ac.channels ≤ 2 ∧ ac.bitRate ≤ 576000 then .aacHeL3
          else if ac.channels ≤ 6 ∧ ac.bitRate ≤ 1440000 then .aacHeMult5
          else .invalid
        else .invalid
      else if type = aacParamEr then
        if ac.sampleRate < 8000 then .invalid
        else if ac.sampleRate ≤ 24000 then
          if 2 < ac.channels then .invalid
          else if ac.bitRate ≤ 320000 then .aacHeV2L2320
          else if ac.bitRate ≤ 576000 then .aacHeV2L2
          else .invalid
        else if ac.sampleRate ≤ 48000 then
          if ac.channels ≤ 2 ∧ ac.bitRate ≤ 576000 then .aacHeV2L3
          else if ac.channels ≤ 6 ∧ ac.bitRate ≤ 2880000 then .aacHeV2Mult5
          else .invalid
        else .invalid
      else if type = aacBsacEr then
        if ac.sampleRate < 16000 ∨ 48000 < ac.sampleRate then .invalid
        else if 128000 < ac.bitRate then .invalid
        else if ac.channels ≤ 2 then .aacBsac
        else if ac.channels ≤ 6 then .aacBsacMult5
        else .invalid
      else .invalid

def audioProfileGuessAac : Option AvCodecContext → AudioProfile
  | none => .invalid
  | some ac => audioProfileGuessAacPriv (some ac) (aacObjectTypeGet ac.extradata)

def aacAdtsObjectTypeGet (ctx : AvFormatContext) : AacObjectType :=
  (ctx.file.read 3 2 &&& 0xC0) >>> 6

def aacGetFormat (ctx : AvFormatContext) : AacContainerType :=
  if ctx.file.read 3 0 = 0xFF ∧ ctx.file.read 3 1 &&& 0xF6 = 0xF0 then .raw else .muxed

def probeMpeg4 (ctx : AvFormatContext) (codecs : AvCodecs) : Except Fault (Option StaticProfile) :=
  if !streamCtxIsAudio codecs then .ok none
  else
    -- the ADTS header is looked at in every container but the raw one
    let (ct, ap) :=
      if ctx.iformatName ≠ "aac".toList then
        (aacGetFormat ctx, audioProfileGuessAacPriv codecs.ac (aacAdtsObjectTypeGet ctx))
      else (.muxed, audioProfileGuessAac codecs.ac)
    if ap = .invalid then .ok none
    else
      .ok ((aacProfilesMapping.find? fun row => row.ct = ct ∧ row.ap = ap).map
        AacProfileMapping.profile)

open AudioAac in
def dlnaProfilesSupportedAudioMpeg4 : List StaticProfile :=
  [aacAdts, aacAdts320, aacIso, aacIso320, aacLtpIso, aacLtpMult5Iso, aacLtpMult7Iso,
    aacMult5Adts, aacMult5Iso, heaacL2Adts, heaacL2Iso, heaacL3Adts, heaacL3Iso, heaacMult5Adts,
    heaacMult5Iso, heaacL2Adts320, heaacL2Iso320, heaacV2L2, heaacV2L2Adts, heaacV2L2320,
    heaacV2L2320Adts, heaacV2L3, heaacV2L3Adts, heaacV2Mult5, heaacV2Mult5Adts, bsacIso,
    bsacMult5Iso]

def dlnaProfileAudioMpeg4 : RegisteredProfile where
  id := .audioMpeg4
  mediaClass := .audio
  extensions := "aac,adts,3gp,mp4,mov,qt,m4a".toList
  profiles := dlnaProfilesSupportedAudioMpeg4
  probe := readOnlyProbe probeMpeg4

def audioProfileGuess (ac : Option AvCodecContext) : AudioProfile :=
  (([audioProfileGuessAac, audioProfileGuessAc3, audioProfileGuessAmr, audioProfileGuessAtrac,
      audioProfileGuessG726, audioProfileGuessLpcm, audioProfileGuessMp2, audioProfileGuessMp3,
      audioProfileGuessWma].map fun guess => guess ac).find? (· ≠ .invalid)).getD .invalid

end Libdlna
