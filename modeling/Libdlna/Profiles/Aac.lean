import Libdlna.Profiles.Lookup

set_option autoImplicit false

/-!
# AAC profiles

A file of the demuxer "aac" is a raw one, whose ADTS header says what it holds; in any other
container the extradata of the codec does. The probe looks at the other one of the two, and takes
the bits of an ADTS header for an object type, which is one more than they are.
-/

namespace Libdlna

open CString

variable {ctx : AvFormatContext} {audio : AvStream} {ac : AvCodecContext} {type : AacObjectType}

def LcLimits (ac : AvCodecContext) : Prop :=
  8000 ≤ ac.sampleRate ∧ ac.sampleRate ≤ 48000 ∧
    (ac.channels ≤ 2 ∧ ac.bitRate ≤ 576000 ∨
      2 < ac.channels ∧ ac.channels ≤ 6 ∧ ac.bitRate ≤ 1440000)

def LtpLimits (ac : AvCodecContext) : Prop :=
  8000 ≤ ac.sampleRate ∧ ac.sampleRate ≤ 48000 ∧ ac.channels ≤ 2 ∧ ac.bitRate ≤ 576000 ∨
    48000 < ac.sampleRate ∧ ac.sampleRate ≤ 96000 ∧
      (ac.channels ≤ 6 ∧ ac.bitRate ≤ 2880000 ∨ ac.channels ≤ 8 ∧ ac.bitRate ≤ 4032000)

def HeLimits (multichannel : Int32) (ac : AvCodecContext) : Prop :=
  8000 ≤ ac.sampleRate ∧ ac.sampleRate ≤ 48000 ∧ ac.channels ≤ 2 ∧ ac.bitRate ≤ 576000 ∨
    24000 < ac.sampleRate ∧ ac.sampleRate ≤ 48000 ∧ ac.channels ≤ 6 ∧ ac.bitRate ≤ multichannel

def BsacLimits (ac : AvCodecContext) : Prop :=
  16000 ≤ ac.sampleRate ∧ ac.sampleRate ≤ 48000 ∧ ac.channels ≤ 6 ∧ ac.bitRate ≤ 128000

/-- The limits that an object type has, if the profiles know it. -/
def AacLimits (type : AacObjectType) (ac : AvCodecContext) : Prop :=
  if type = aacLc ∨ type = aacLcEr then LcLimits ac
  else if type = aacLtp ∨ type = aacLtpEr then LtpLimits ac
  else if type = aacHe ∨ type = aacHeL3 then HeLimits 1440000 ac
  else if type = aacParamEr then HeLimits 2880000 ac
  else if type = aacBsacEr then BsacLimits ac
  else False

theorem guess_iff (isAac : ac.codecId = .aac) :
    audioProfileGuessAacPriv (some ac) type ≠ .invalid ↔ AacLimits type ac := by
  unfold audioProfileGuessAacPriv AacLimits
  dsimp only
  rw [if_neg (not_not.mpr isAac)]
  by_cases lc : type = aacLc ∨ type = aacLcEr
  · rw [if_pos lc, if_pos lc, LcLimits]
    grind
  rw [if_neg lc, if_neg lc]
  by_cases ltp : type = aacLtp ∨ type = aacLtpEr
  · rw [if_pos ltp, if_pos ltp, LtpLimits]
    grind
  rw [if_neg ltp, if_neg ltp]
  by_cases he : type = aacHe ∨ type = aacHeL3
  · rw [if_pos he, if_pos he, HeLimits]
    grind
  rw [if_neg he, if_neg he]
  by_cases param : type = aacParamEr
  · rw [if_pos param, if_pos param, HeLimits]
    grind
  rw [if_neg param, if_neg param]
  by_cases bsac : type = aacBsacEr
  · rw [if_pos bsac, if_pos bsac, BsacLimits]
    grind
  rw [if_neg bsac, if_neg bsac]
  simp

def lcAudioProfiles : List AudioProfile := [.aac, .aac320, .aacMult5]

def otherAudioProfiles : List AudioProfile :=
  [.aacLtp, .aacLtpMult5, .aacLtpMult7, .aacHeL2, .aacHeL2320, .aacHeL3, .aacHeMult5, .aacHeV2L2,
    .aacHeV2L2320, .aacHeV2L3, .aacHeV2Mult5, .aacBsac, .aacBsacMult5]

theorem guess_lc (isAac : ac.codecId = .aac) (isLc : type = aacLc ∨ type = aacLcEr) :
    audioProfileGuessAacPriv (some ac) type ∈ .invalid :: lcAudioProfiles := by
  unfold audioProfileGuessAacPriv
  dsimp only
  rw [if_neg (not_not.mpr isAac), if_pos isLc]
  repeat' refine ite_mem.mpr ⟨fun _ => ?_, fun _ => ?_⟩
  all_goals decide

theorem guess_lc_eq {type' : AacObjectType} (isLc : type = aacLc ∨ type = aacLcEr)
    (isLc' : type' = aacLc ∨ type' = aacLcEr) :
    audioProfileGuessAacPriv (some ac) type = audioProfileGuessAacPriv (some ac) type' := by
  unfold audioProfileGuessAacPriv
  dsimp only
  rw [if_pos isLc, if_pos isLc']

theorem guess_notLc (notLc : ¬ (type = aacLc ∨ type = aacLcEr)) :
    audioProfileGuessAacPriv (some ac) type ∈ .invalid :: otherAudioProfiles := by
  unfold audioProfileGuessAacPriv
  dsimp only
  rw [if_neg notLc]
  repeat' refine ite_mem.mpr ⟨fun _ => ?_, fun _ => ?_⟩
  all_goals decide

theorem lc_of_guess (guessed : audioProfileGuessAacPriv (some ac) type ∈ lcAudioProfiles) :
    type = aacLc ∨ type = aacLcEr := by
  by_contra notLc
  have apart : ∀ ap ∈ AudioProfile.invalid :: otherAudioProfiles, ap ∉ lcAudioProfiles := by decide
  exact apart _ (guess_notLc notLc) guessed

def aacMapping (ct : AacContainerType) (ap : AudioProfile) : Option StaticProfile :=
  (aacProfilesMapping.find? fun row => row.ct = ct ∧ row.ap = ap).map AacProfileMapping.profile

def aacMime : AacContainerType → Option ProfileText
  | .raw => some mimeAudioAdts
  | .muxed => some mimeAudioMpeg4

theorem aacMapping_some {ct : AacContainerType} {ap : AudioProfile} {profile : StaticProfile}
    (found : aacMapping ct ap = some profile) :
    ∃ row ∈ aacProfilesMapping, row.ct = ct ∧ row.ap = ap ∧ row.profile = profile := by
  obtain ⟨row, isRow, isProfile⟩ := Option.map_eq_some_iff.mp found
  have hit : row.ct = ct ∧ row.ap = ap := by simpa using List.find?_some isRow
  exact ⟨row, List.mem_of_find?_eq_some isRow, hit.1, hit.2, isProfile⟩

theorem aacMapping_mime {ct : AacContainerType} {ap : AudioProfile} {profile : StaticProfile}
    (found : aacMapping ct ap = some profile) : profile.mime = aacMime ct := by
  have each : ∀ row ∈ aacProfilesMapping, row.profile.mime = aacMime row.ct := by decide
  obtain ⟨row, member, rfl, -, rfl⟩ := aacMapping_some found
  exact each row member

theorem aacMapping_inj {ct : AacContainerType} {ap ap' : AudioProfile} {profile : StaticProfile}
    (found : aacMapping ct ap = some profile) (found' : aacMapping ct ap' = some profile) :
    ap = ap' := by
  have each : ∀ row ∈ aacProfilesMapping, ∀ row' ∈ aacProfilesMapping, row.ct = row'.ct →
      row.profile = row'.profile → row.ap = row'.ap := by decide +kernel
  obtain ⟨row, member, sameCt, rfl, sameProfile⟩ := aacMapping_some found
  obtain ⟨row', member', sameCt', rfl, sameProfile'⟩ := aacMapping_some found'
  exact each row member row' member' (sameCt.trans sameCt'.symm)
    (sameProfile.trans sameProfile'.symm)

theorem aacMapping_invalid (ct : AacContainerType) : aacMapping ct .invalid = none := by
  cases ct <;> rfl

theorem aacMapping_lc (ct : AacContainerType) {ap : AudioProfile} (isLc : ap ∈ lcAudioProfiles) :
    ∃ profile, aacMapping ct ap = some profile := by
  have each : ∀ ap ∈ lcAudioProfiles,
      (aacMapping .raw ap).isSome ∧ (aacMapping .muxed ap).isSome := by decide
  cases ct with
  | muxed => exact Option.isSome_iff_exists.mp (each ap isLc).2
  | raw => exact Option.isSome_iff_exists.mp (each ap isLc).1

theorem aacMapping_muxed (isAac : ac.codecId = .aac) (limits : AacLimits type ac) :
    ∃ profile, aacMapping .muxed (audioProfileGuessAacPriv (some ac) type) = some profile := by
  have valid := (guess_iff isAac).mpr limits
  by_cases isLc : type = aacLc ∨ type = aacLcEr
  · exact aacMapping_lc _ (List.mem_of_ne_of_mem valid (guess_lc isAac isLc))
  · have each : ∀ ap ∈ otherAudioProfiles, (aacMapping .muxed ap).isSome := by decide
    exact Option.isSome_iff_exists.mp (each _ (List.mem_of_ne_of_mem valid (guess_notLc isLc)))

theorem mapped_eq (ct : AacContainerType) (ap : AudioProfile) :
    (if ap = .invalid then .ok none
      else .ok ((aacProfilesMapping.find? fun row => row.ct = ct ∧ row.ap = ap).map
        AacProfileMapping.profile)) = (.ok (aacMapping ct ap) : Except Fault _) := by
  by_cases invalid : ap = .invalid
  · rw [if_pos invalid, invalid, aacMapping_invalid]
  · rw [if_neg invalid, aacMapping]

theorem probeMpeg4_raw (raw : ctx.iformatName = "aac".toList) :
    probeMpeg4 ctx ⟨some audio, none⟩ =
      .ok (aacMapping .muxed (audioProfileGuessAac (some audio.codec))) := by
  have isAudio : streamCtxIsAudio ⟨some audio, none⟩ = true := rfl
  unfold probeMpeg4
  rw [isAudio, Bool.not_true, if_neg Bool.false_ne_true, if_neg (not_not.mpr raw)]
  exact mapped_eq _ _

theorem probeMpeg4_other (other : ctx.iformatName ≠ "aac".toList) :
    probeMpeg4 ctx ⟨some audio, none⟩ =
      .ok (aacMapping (aacGetFormat ctx)
        (audioProfileGuessAacPriv (some audio.codec) (aacAdtsObjectTypeGet ctx))) := by
  have isAudio : streamCtxIsAudio ⟨some audio, none⟩ = true := rfl
  unfold probeMpeg4
  rw [isAudio, Bool.not_true, if_neg Bool.false_ne_true, if_pos other]
  exact mapped_eq _ _

theorem adts_limits_iff (ctx : AvFormatContext) (ac : AvCodecContext) :
    AacLimits (aacAdtsObjectTypeGet ctx) ac ↔ aacAdtsObjectTypeGet ctx = aacLc ∧ LcLimits ac := by
  have twoBits := aacAdtsObjectTypeGet_le ctx
  generalize aacAdtsObjectTypeGet ctx = type at twoBits ⊢
  have larger (other : UInt8) (large : ¬ other ≤ 3) : type ≠ other := by
    rintro rfl
    exact large twoBits
  have erLc := larger aacLcEr (by decide)
  unfold AacLimits
  rw [if_neg (not_or.mpr ⟨larger aacLtp (by decide), larger aacLtpEr (by decide)⟩),
    if_neg (not_or.mpr ⟨larger aacHe (by decide), larger aacHeL3 (by decide)⟩),
    if_neg (larger aacParamEr (by decide)), if_neg (larger aacBsacEr (by decide))]
  simp [erLc]

def ClassifiedByHeader (ctx : AvFormatContext) (audio : AvStream) : Prop :=
  ∀ profile, probeMpeg4 ctx ⟨some audio, none⟩ = .ok (some profile) →
    profile.mime = some mimeAudioAdts ∧
      aacMapping .raw (audioProfileGuessAacPriv (some audio.codec)
        (aacAdtsObjectTypeGet ctx + 1)) = some profile

def ClassifiedByExtradata (ctx : AvFormatContext) (audio : AvStream) : Prop :=
  ∀ profile, probeMpeg4 ctx ⟨some audio, none⟩ = .ok (some profile) →
    profile.mime = some mimeAudioMpeg4 ∧
      aacMapping .muxed (audioProfileGuessAacPriv (some audio.codec)
        (aacObjectTypeGet audio.codec.extradata)) = some profile

structure AacClassified (ctx : AvFormatContext) (audio : AvStream) : Prop where
  raw : ctx.iformatName = "aac".toList → ClassifiedByHeader ctx audio
  muxed : ctx.iformatName ≠ "aac".toList → ClassifiedByExtradata ctx audio

/-- The file has no ADTS header, and the bits are those of what the extradata says. -/
def BitsAgree (ctx : AvFormatContext) (audio : AvStream) : Prop :=
  aacGetFormat ctx = .muxed ∧ (aacObjectTypeGet audio.codec.extradata = aacLc ∨
    aacObjectTypeGet audio.codec.extradata = aacLcEr)

theorem aacMime_inj {ct ct' : AacContainerType} (same : aacMime ct = aacMime ct') : ct = ct' := by
  have apart : aacMime .raw ≠ aacMime .muxed := by decide
  cases ct <;> cases ct'
  · rfl
  · exact absurd same.symm apart
  · exact absurd same apart
  · rfl

theorem classifiedByHeader_iff (isAac : audio.codec.codecId = .aac)
    (raw : ctx.iformatName = "aac".toList) :
    ClassifiedByHeader ctx audio ↔
      ¬ AacLimits (aacObjectTypeGet audio.codec.extradata) audio.codec := by
  unfold ClassifiedByHeader
  rw [probeMpeg4_raw raw]
  constructor
  · intro classified limits
    obtain ⟨profile, found⟩ := aacMapping_muxed isAac limits
    have isAdts := (classified profile (congrArg Except.ok found)).1
    have same : aacMime .raw = aacMime .muxed := isAdts.symm.trans (aacMapping_mime found)
    cases aacMime_inj same
  · intro notLimits profile found
    have invalid := not_not.mp (mt (guess_iff isAac).mp notLimits)
    rw [audioProfileGuessAac, invalid, aacMapping_invalid] at found
    cases found

theorem classifiedByExtradata_iff (isAac : audio.codec.codecId = .aac)
    (other : ctx.iformatName ≠ "aac".toList) :
    ClassifiedByExtradata ctx audio ↔
      (aacAdtsObjectTypeGet ctx = aacLc → LcLimits audio.codec → BitsAgree ctx audio) := by
  have guessed := (guess_iff isAac).trans (adts_limits_iff ctx audio.codec)
  unfold ClassifiedByExtradata
  rw [probeMpeg4_other other]
  constructor
  · intro classified isLc limits
    have isLcProfile := List.mem_of_ne_of_mem (guessed.mpr ⟨isLc, limits⟩)
      (guess_lc isAac (.inl isLc))
    obtain ⟨profile, found⟩ := aacMapping_lc (aacGetFormat ctx) isLcProfile
    obtain ⟨isMpeg4, mapped⟩ := classified profile (congrArg Except.ok found)
    have isMuxed : aacGetFormat ctx = .muxed :=
      aacMime_inj ((aacMapping_mime found).symm.trans isMpeg4)
    rw [isMuxed] at found
    rw [aacMapping_inj found mapped] at isLcProfile
    exact ⟨isMuxed, lc_of_guess isLcProfile⟩
  · intro agree profile found
    have found := Except.ok.inj found
    have valid : audioProfileGuessAacPriv (some audio.codec) (aacAdtsObjectTypeGet ctx) ≠
        .invalid := by
      intro invalid
      rw [invalid, aacMapping_invalid] at found
      cases found
    obtain ⟨isLc, limits⟩ := guessed.mp valid
    obtain ⟨isMuxed, isExtra⟩ := agree isLc limits
    rw [isMuxed, guess_lc_eq (.inl isLc) isExtra] at found
    exact ⟨aacMapping_mime found, found⟩

theorem aacClassified_iff (isAac : audio.codec.codecId = .aac) :
    AacClassified ctx audio ↔
      (ctx.iformatName = "aac".toList →
        ¬ AacLimits (aacObjectTypeGet audio.codec.extradata) audio.codec) ∧
      (ctx.iformatName ≠ "aac".toList → aacAdtsObjectTypeGet ctx = aacLc →
        LcLimits audio.codec → BitsAgree ctx audio) := by
  constructor
  · intro classified
    constructor
    · intro raw
      exact (classifiedByHeader_iff isAac raw).mp (classified.raw raw)
    · intro other
      exact (classifiedByExtradata_iff isAac other).mp (classified.muxed other)
  · rintro ⟨agreesRaw, agreesOther⟩
    constructor
    · intro raw
      exact (classifiedByHeader_iff isAac raw).mpr (agreesRaw raw)
    · intro other
      exact (classifiedByExtradata_iff isAac other).mpr (agreesOther other)

def aacSong : AvStream where
  codec := { (soundStream .aac 128000 44100 2).codec with extradata := some [0x12, 0x10] }
  rFrameRate := ⟨0, 1⟩

def aacFile (filename iformatName : String) (contents : List UInt8) : AvFormatContext where
  filename := filename.toList
  file := { contents, stale := fun _ => 0 }
  iformatName := iformatName.toList
  streams := [aacSong]
  bitRate := 128000

def rawFile : AvFormatContext := aacFile "/a.aac" "aac" [0xFF, 0xF1, 0x50, 0x80]

def boxedFile : AvFormatContext :=
  aacFile "/a.mp4" "mov,mp4,m4a,3gp,3g2,mj2" [0x00, 0x00, 0x80, 0x20]

theorem boxed_classified :
    probeMpeg4 boxedFile ⟨some aacSong, none⟩ = .ok (some AudioAac.aacIso320) ∧
      AacClassified boxedFile aacSong := by
  constructor
  · rw [probeMpeg4_other (by decide)]
    rfl
  · apply (aacClassified_iff rfl).mpr
    constructor
    · intro raw
      exact absurd raw (by decide)
    · intro _ _ _
      exact ⟨by decide, by decide⟩

theorem raw_not_classified : ¬ AacClassified rawFile aacSong := by
  intro classified
  have found : probeMpeg4 rawFile ⟨some aacSong, none⟩ = .ok (some AudioAac.aacIso320) := by
    rw [probeMpeg4_raw rfl]
    rfl
  have isAdts := (classified.raw rfl AudioAac.aacIso320 found).1
  exact absurd isAdts (by decide)

end Libdlna
