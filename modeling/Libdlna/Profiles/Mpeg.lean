import Mathlib.Tactic.MkIffOfInductiveProp
import Libdlna.Profiles.Lookup

set_option autoImplicit false

/-!
# MPEG profiles

Which streams the probes of the MPEG-1 and MPEG-2 families accept. The tables of North America are
never matched, and where a comment asks for two values one of them is enough.
-/

namespace Libdlna

open AvMpeg2 CString

variable {ctx : AvFormatContext} {audio video : AvStream} {st : ContainerType}

def IsTransportStream (st : ContainerType) : Prop :=
  st = .mpegTransportStream ∨ st = .mpegTransportStreamDlna ∨ st = .mpegTransportStreamDlnaNoTs

theorem transportProfile_some {iso t noTs profile : StaticProfile}
    (found : transportProfile st iso t noTs = some profile) :
    IsTransportStream st ∧ profile ∈ [noTs, t, iso] := by
  unfold transportProfile at found
  split at found
  · cases found
    exact ⟨.inl rfl, by simp⟩
  · cases found
    exact ⟨.inr (.inl rfl), by simp⟩
  · cases found
    exact ⟨.inr (.inr rfl), by simp⟩
  · cases found

theorem IsTransportStream.profile (isTransport : IsTransportStream st)
    (iso t noTs : StaticProfile) :
    ∃ profile ∈ [noTs, t, iso], transportProfile st iso t noTs = some profile := by
  rcases isTransport with rfl | rfl | rfl
  · exact ⟨iso, by simp, rfl⟩
  · exact ⟨t, by simp, rfl⟩
  · exact ⟨noTs, by simp, rfl⟩

def IsRow (video : AvStream) (row : MpegTsStream) : Prop :=
  row.width = video.codec.width ∧ row.height = video.codec.height ∧
    row.fpsNum = video.rFrameRate.num ∧ row.fpsDen = video.rFrameRate.den

def InTable (video : AvStream) (table : List MpegTsStream) : Prop := ∃ row ∈ table, IsRow video row

instance (video : AvStream) (row : MpegTsStream) : Decidable (IsRow video row) :=
  inferInstanceAs (Decidable (_ ∧ _))

instance (video : AvStream) (table : List MpegTsStream) : Decidable (InTable video table) :=
  inferInstanceAs (Decidable (∃ row ∈ table, _))

structure NorthAmerican (ctx : AvFormatContext) (audio video : AvStream) (st : ContainerType) :
    Prop where
  transport : IsTransportStream st
  bitRate : ctx.bitRate ≤ 19392700
  frameRate : video.rFrameRate ≠ ⟨25, 1⟩
  audioCodec : audio.codec.codecId = .ac3
  sampleRate : audio.codec.sampleRate = 48000
  channels : audio.codec.channels ≤ 5
  audioBitRate : audio.codec.bitRate ≤ 640000

def transportSuffix : ContainerType → Text
  | .mpegTransportStream => "_ISO".toList
  | .mpegTransportStreamDlna => "_T".toList
  | _ => []

def northAmericanId (definition : Text) (audio : AvStream) (st : ContainerType) : Text :=
  "MPEG_TS_".toList ++ definition ++ "_NA".toList ++
    (if 448000 < audio.codec.bitRate then "_XAC3".toList else []) ++ transportSuffix st

structure MatchesNorthAmerica (ctx : AvFormatContext) (audio video : AvStream)
    (st : ContainerType) : Prop where
  returned : (∃ profile, probeMpegTs ctx audio video st = some profile) ↔
    InTable video mpegTsValidStreamsNaSd ∨ InTable video mpegTsValidStreamsNaHd
  standard : ∀ profile, probeMpegTs ctx audio video st = some profile →
    InTable video mpegTsValidStreamsNaSd →
      profile.id.val = northAmericanId "SD".toList audio st
  high : ∀ profile, probeMpegTs ctx audio video st = some profile →
    InTable video mpegTsValidStreamsNaHd →
      profile.id.val = northAmericanId "HD".toList audio st

theorem no_row_matches {table : List MpegTsStream} (apart : ∀ row ∈ table, row.fpsNum ≠ row.fpsDen)
    (width height num : Int32) :
    (table.any fun row => row.width = width ∧ row.height = height ∧ row.fpsNum = num ∧
      row.fpsDen = num) = false := by
  apply List.any_eq_false.mpr
  intro row member isMatch
  have both := of_decide_eq_true isMatch
  exact apart row member (both.2.2.1.trans both.2.2.2.symm)

theorem probeMpegTs_na (notAac : audio.codec.codecId ≠ .aac)
    (notEurope : video.rFrameRate ≠ ⟨25, 1⟩) : probeMpegTs ctx audio video st = none := by
  have apart : ∀ row ∈ mpegTsValidStreamsNaSd ++ mpegTsValidStreamsNaHd,
      row.fpsNum ≠ row.fpsDen := by decide
  have standard := no_row_matches (fun row member => apart row (List.mem_append_left _ member))
    video.codec.width video.codec.height video.rFrameRate.num
  have high := no_row_matches (fun row member => apart row (List.mem_append_right _ member))
    video.codec.width video.codec.height video.rFrameRate.num
  have otherRate : ¬ (video.rFrameRate.num = 25 ∧ video.rFrameRate.den = 1) := by
    rintro ⟨num, den⟩
    apply notEurope
    rw [← num, ← den]
  unfold probeMpegTs
  dsimp only
  rw [if_neg notAac, if_neg otherRate, standard, high]
  simp

theorem matchesNorthAmerica_iff (northAmerican : NorthAmerican ctx audio video st) :
    MatchesNorthAmerica ctx audio video st ↔
      ¬ (InTable video mpegTsValidStreamsNaSd ∨ InTable video mpegTsValidStreamsNaHd) := by
  have none : probeMpegTs ctx audio video st = none := by
    apply probeMpegTs_na _ northAmerican.frameRate
    rw [northAmerican.audioCodec]
    simp
  constructor
  · intro isMatch inTable
    obtain ⟨profile, found⟩ := isMatch.returned.mpr inTable
    rw [none] at found
    cases found
  · intro notInTable
    constructor
    · simp [none, notInTable]
    · intro profile found
      rw [none] at found
      cases found
    · intro profile found
      rw [none] at found
      cases found

def pictureStream (codecId : CodecId) (width height bitRate : Int32) (rFrameRate : AvRational) :
    AvStream where
  codec := { codecType := .video, codecId, width, height, bitRate, sampleRate := 0, channels := 0,
             extradata := none }
  rFrameRate

def filmFile (audio video : AvStream) : AvFormatContext where
  filename := "/a.mpg".toList
  file := { contents := [], stale := fun _ => 0 }
  iformatName := "mpegts".toList
  streams := [video, audio]
  bitRate := audio.codec.bitRate + video.codec.bitRate

def dolbyStream : AvStream := soundStream .ac3 448000 48000 2

def ntscStream : AvStream := pictureStream .mpeg2video 720 480 6000000 ⟨30, 1001⟩

def wideStream : AvStream := pictureStream .mpeg2video 640 360 6000000 ⟨30, 1001⟩

theorem dolby_northAmerican (width height : Int32) :
    NorthAmerican (filmFile dolbyStream (pictureStream .mpeg2video width height 6000000 ⟨30, 1001⟩))
      dolbyStream (pictureStream .mpeg2video width height 6000000 ⟨30, 1001⟩)
      .mpegTransportStreamDlna where
  transport := .inr (.inl rfl)
  bitRate := show (448000 + 6000000 : Int32) ≤ 19392700 by decide
  frameRate := show (⟨30, 1001⟩ : AvRational) ≠ ⟨25, 1⟩ by decide
  audioCodec := rfl
  sampleRate := rfl
  channels := by decide
  audioBitRate := by decide

theorem wide_matches :
    MatchesNorthAmerica (filmFile dolbyStream wideStream) dolbyStream wideStream
      .mpegTransportStreamDlna :=
  (matchesNorthAmerica_iff (dolby_northAmerican 640 360)).mpr (by decide)

theorem ntsc_not_matches :
    NorthAmerican (filmFile dolbyStream ntscStream) dolbyStream ntscStream
        .mpegTransportStreamDlna ∧
      ¬ MatchesNorthAmerica (filmFile dolbyStream ntscStream) dolbyStream ntscStream
        .mpegTransportStreamDlna := by
  refine ⟨dolby_northAmerican 720 480, fun isMatch => ?_⟩
  obtain ⟨profile, found⟩ := isMatch.returned.mpr (by decide)
  rw [probeMpegTs_na (by decide) (by decide)] at found
  cases found

/-- 352x288 at 25 Hz, 352x240 at 29.97 Hz or at 23.976 Hz. -/
def Mpeg1Picture (video : AvStream) : Prop :=
  video.codec.width = 352 ∧
    (video.codec.height = 288 ∧ video.rFrameRate = ⟨25, 1⟩ ∨
      video.codec.height = 240 ∧
        (video.rFrameRate = ⟨30000, 1001⟩ ∨ video.rFrameRate = ⟨24000, 1001⟩))

@[mk_iff]
structure Mpeg1Audio (audio : AvStream) : Prop where
  codec : audio.codec.codecId = .mp2
  stereo : audio.codec.channels = 2
  sampleRate : audio.codec.sampleRate = 44100
  bitRate : audio.codec.bitRate = 224000

/-- One number of the frame rate is right and the other is not. -/
def Mpeg1RateMistaken (video : AvStream) : Prop :=
  video.codec.width = 352 ∧
    (video.codec.height = 288 ∧ ¬ (video.rFrameRate.num = 25 ↔ video.rFrameRate.den = 1) ∨
      video.codec.height = 240 ∧ video.rFrameRate.den = 1001 ∧
        video.rFrameRate.num ≠ 30000 ∧ video.rFrameRate.num ≠ 24000)

instance (video : AvStream) : Decidable (Mpeg1RateMistaken video) :=
  inferInstanceAs (Decidable (_ ∧ _))

theorem rate_eq_iff (rate : AvRational) (num den : Int32) :
    rate = ⟨num, den⟩ ↔ rate.num = num ∧ rate.den = den := by
  cases rate
  simp

theorem Mpeg1Picture.not_mistaken (picture : Mpeg1Picture video) : ¬ Mpeg1RateMistaken video := by
  rintro ⟨-, mistaken⟩
  rcases picture.2 with ⟨height, rate⟩ | ⟨height, rate | rate⟩ <;>
    simp [height, rate] at mistaken

theorem mpeg1_rate_iff (video : AvStream) :
    (¬ (video.codec.width = 352 ∧ video.codec.height = 288 ∧ video.rFrameRate.num ≠ 25 ∧
        video.rFrameRate.den ≠ 1) ∧
      ¬ (video.codec.width = 352 ∧ video.codec.height = 240 ∧
        ((video.rFrameRate.num ≠ 30000 ∧ video.rFrameRate.den ≠ 1001) ∨
          (video.rFrameRate.num ≠ 24000 ∧ video.rFrameRate.den ≠ 1001))) ∧
      ¬ (¬ (video.codec.width = 352 ∧ video.codec.height = 288) ∧
        ¬ (video.codec.width = 352 ∧ video.codec.height = 240))) ↔
      Mpeg1Picture video ∨ Mpeg1RateMistaken video := by
  have apart : (288 : Int32) ≠ 240 ∧ (30000 : Int32) ≠ 24000 := by decide
  simp only [Mpeg1Picture, Mpeg1RateMistaken, rate_eq_iff]
  grind

theorem probeMpeg1_iff :
    probeMpeg1 ctx ⟨some audio, some video⟩ = .ok (some AvMpeg1.mpeg1) ↔
      video.codec.codecId = .mpeg1video ∧ video.codec.bitRate = 1150000 ∧ Mpeg1Audio audio ∧
        (Mpeg1Picture video ∨ Mpeg1RateMistaken video) := by
  rw [← mpeg1_rate_iff]
  have isAv : streamCtxIsAv ⟨some audio, some video⟩ = true := rfl
  unfold probeMpeg1
  dsimp only
  rw [isAv, mpeg1Audio_iff, Bool.not_true, if_neg Bool.false_ne_true]
  simp only [Outcome.unless_ok_iff (Option.some_ne_none _).symm, not_not]
  tauto

def llAacProfiles : List StaticProfile := [mpegTsMpLlAac, mpegTsMpLlAacT, mpegTsMpLlAacIso]

def LlAacPicture (video : AvStream) : Prop :=
  video.codec.width = 352 ∧ video.codec.height = 288 ∧ video.rFrameRate = ⟨30, 1⟩

instance (video : AvStream) : Decidable (LlAacPicture video) :=
  inferInstanceAs (Decidable (_ ∧ _))

def LlAacBitRates (audio video : AvStream) : Prop :=
  video.codec.bitRate ≤ 4000000 ∧ audio.codec.bitRate ≤ 256000

/-- One part of the resolution and one part of the frame rate are right, and another is not. -/
def LlAacPictureMistaken (video : AvStream) : Prop :=
  (video.codec.width = 352 ∨ video.codec.height = 288) ∧
    (video.rFrameRate.num = 30 ∨ video.rFrameRate.den = 1) ∧ ¬ LlAacPicture video

instance (video : AvStream) : Decidable (LlAacPictureMistaken video) :=
  inferInstanceAs (Decidable (_ ∧ _))

theorem llAac_picture_iff (video : AvStream) :
    (¬ (video.codec.width ≠ 352 ∧ video.codec.height ≠ 288) ∧
      ¬ (video.rFrameRate.num ≠ 30 ∧ video.rFrameRate.den ≠ 1)) ↔
      LlAacPicture video ∨ LlAacPictureMistaken video := by
  simp only [LlAacPictureMistaken, LlAacPicture, rate_eq_iff]
  tauto

theorem probeMpegTs_eu (notAac : audio.codec.codecId ≠ .aac)
    (europe : video.rFrameRate = ⟨25, 1⟩) {profile : StaticProfile}
    (found : probeMpegTs ctx audio video st = some profile) :
    profile ∈ [mpegTsSdEu, mpegTsSdEuT, mpegTsSdEuIso] := by
  unfold probeMpegTs at found
  dsimp only at found
  rw [if_neg notAac, if_pos ((rate_eq_iff _ _ _).mp europe)] at found
  split at found
  · split at found
    · exact (transportProfile_some found).2
    · cases found
  · cases found

theorem probeMpegTs_llAac (found : ∃ profile ∈ llAacProfiles,
    probeMpegTs ctx audio video st = some profile) : audio.codec.codecId = .aac := by
  obtain ⟨profile, isLl, found⟩ := found
  by_contra notAac
  by_cases europe : video.rFrameRate = ⟨25, 1⟩
  · have isEu := probeMpegTs_eu notAac europe found
    have apart : ∀ profile ∈ llAacProfiles,
        profile ∉ [mpegTsSdEu, mpegTsSdEuT, mpegTsSdEuIso] := by decide +kernel
    exact apart profile isLl isEu
  · rw [probeMpegTs_na notAac europe] at found
    cases found

theorem probeMpegTs_llAac_iff :
    (∃ profile ∈ llAacProfiles, probeMpegTs ctx audio video st = some profile) ↔
      audio.codec.codecId = .aac ∧ IsTransportStream st ∧ LlAacBitRates audio video ∧
        (LlAacPicture video ∨ LlAacPictureMistaken video) := by
  rw [← llAac_picture_iff]
  constructor
  · intro accepted
    have isAac := probeMpegTs_llAac accepted
    obtain ⟨profile, -, found⟩ := accepted
    unfold probeMpegTs at found
    dsimp only at found
    rw [if_pos isAac] at found
    simp only [Option.ite_none_left_eq_some, Int32.not_lt] at found
    obtain ⟨size, rate, videoBits, audioBits, found⟩ := found
    exact ⟨isAac, (transportProfile_some found).1, ⟨videoBits, audioBits⟩, size, rate⟩
  · rintro ⟨isAac, isTransport, bitRates, size, rate⟩
    unfold probeMpegTs
    dsimp only
    rw [if_pos isAac, if_neg size, if_neg rate, if_neg (Int32.not_lt.mpr bitRates.1),
      if_neg (Int32.not_lt.mpr bitRates.2)]
    exact isTransport.profile _ _ _

structure FixedFormats (ctx : AvFormatContext) (audio video : AvStream) (st : ContainerType) :
    Prop where
  mpeg1 : probeMpeg1 ctx ⟨some audio, some video⟩ = .ok (some AvMpeg1.mpeg1) →
    Mpeg1Picture video ∧ Mpeg1Audio audio
  llAac : (∃ profile ∈ llAacProfiles, probeMpegTs ctx audio video st = some profile) →
    LlAacPicture video ∧ LlAacBitRates audio video
  mpeg1Accepted : video.codec.codecId = .mpeg1video → video.codec.bitRate = 1150000 →
    Mpeg1Picture video → Mpeg1Audio audio →
      probeMpeg1 ctx ⟨some audio, some video⟩ = .ok (some AvMpeg1.mpeg1)
  llAacAccepted : IsTransportStream st → audio.codec.codecId = .aac → LlAacPicture video →
    LlAacBitRates audio video →
      ∃ profile ∈ llAacProfiles, probeMpegTs ctx audio video st = some profile

def Mpeg1Mistaken (audio video : AvStream) : Prop :=
  video.codec.codecId = .mpeg1video ∧ video.codec.bitRate = 1150000 ∧ Mpeg1Audio audio ∧
    Mpeg1RateMistaken video

def LlAacMistaken (audio video : AvStream) (st : ContainerType) : Prop :=
  audio.codec.codecId = .aac ∧ IsTransportStream st ∧ LlAacBitRates audio video ∧
    LlAacPictureMistaken video

theorem fixedFormats_iff (ctx : AvFormatContext) (audio video : AvStream) (st : ContainerType) :
    FixedFormats ctx audio video st ↔
      ¬ Mpeg1Mistaken audio video ∧ ¬ LlAacMistaken audio video st := by
  constructor
  · intro sound
    constructor
    · rintro ⟨codec, bits, isAudio, mistaken⟩
      have picture := (sound.mpeg1 (probeMpeg1_iff.mpr ⟨codec, bits, isAudio, .inr mistaken⟩)).1
      exact picture.not_mistaken mistaken
    · rintro ⟨isAac, isTransport, bitRates, mistaken⟩
      have picture := (sound.llAac (probeMpegTs_llAac_iff.mpr
        ⟨isAac, isTransport, bitRates, .inr mistaken⟩)).1
      exact mistaken.2.2 picture
  · rintro ⟨notMpeg1, notLlAac⟩
    constructor
    · intro accepted
      obtain ⟨codec, bits, isAudio, picture | mistaken⟩ := probeMpeg1_iff.mp accepted
      · exact ⟨picture, isAudio⟩
      · exact absurd ⟨codec, bits, isAudio, mistaken⟩ notMpeg1
    · intro accepted
      obtain ⟨isAac, isTransport, bitRates, picture | mistaken⟩ :=
        probeMpegTs_llAac_iff.mp accepted
      · exact ⟨picture, bitRates⟩
      · exact absurd ⟨isAac, isTransport, bitRates, mistaken⟩ notLlAac
    · intro codec bits picture isAudio
      exact probeMpeg1_iff.mpr ⟨codec, bits, isAudio, .inl picture⟩
    · intro isTransport isAac picture bitRates
      exact probeMpegTs_llAac_iff.mpr ⟨isAac, isTransport, bitRates, .inl picture⟩

def discSoundStream : AvStream := soundStream .mp2 224000 44100 2

def fastDiscStream : AvStream := pictureStream .mpeg1video 352 288 1150000 ⟨50, 1⟩

def aacStream : AvStream := soundStream .aac 256000 48000 2

def halfHighStream : AvStream := pictureStream .mpeg2video 720 288 4000000 ⟨25, 1⟩

theorem wrong_pictures_accepted :
    ¬ FixedFormats (filmFile discSoundStream fastDiscStream) discSoundStream fastDiscStream
        .mpegProgramStream ∧
      ¬ FixedFormats (filmFile aacStream halfHighStream) aacStream halfHighStream
        .mpegTransportStream := by
  constructor
  · intro sound
    have mistaken : Mpeg1RateMistaken fastDiscStream := by decide
    have accepted := sound.mpeg1 (probeMpeg1_iff.mpr
      ⟨rfl, rfl, ⟨rfl, rfl, rfl, rfl⟩, .inr mistaken⟩)
    exact accepted.1.not_mistaken mistaken
  · intro sound
    have mistaken : LlAacPictureMistaken halfHighStream := by decide
    have accepted := sound.llAac (probeMpegTs_llAac_iff.mpr
      ⟨rfl, .inl rfl, ⟨by decide, by decide⟩, .inr mistaken⟩)
    exact mistaken.2.2 accepted.1

end Libdlna
