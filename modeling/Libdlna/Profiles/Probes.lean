import Libdlna.Profiles.Tables
import Libdlna.Shared.Outcome

set_option autoImplicit false

/-!
# What the probes return

A probe answers with an entry of its own family's table, or with the copy that LPCM makes.
-/

namespace Libdlna

open CString

variable {ctx : AvFormatContext} {codecs : AvCodecs} {s : StaticProfile}

theorem probeJpeg_listed (ran : probeJpeg ctx codecs = .ok (some s)) :
    s ∈ dlnaProfilesSupportedImageJpeg := by
  unfold probeJpeg at ran
  obtain ⟨isImage, -, ran⟩ := Outcome.bind_ok.mp ran
  obtain ⟨-, ran⟩ := Outcome.unless_ok ran nofun
  split at ran
  · cases ran
  · obtain ⟨-, ran⟩ := Outcome.unless_ok ran nofun
    exact rowFound_listed jpeg_rows_listed (Except.ok.inj ran)

theorem probePng_listed (ran : probePng ctx codecs = .ok (some s)) :
    s ∈ dlnaProfilesSupportedImagePng := by
  unfold probePng at ran
  obtain ⟨isImage, -, ran⟩ := Outcome.bind_ok.mp ran
  obtain ⟨-, ran⟩ := Outcome.unless_ok ran nofun
  split at ran
  · cases ran
  · obtain ⟨-, ran⟩ := Outcome.unless_ok ran nofun
    exact rowFound_listed png_rows_listed (Except.ok.inj ran)

theorem probeAc3_listed (ran : probeAc3 ctx codecs = .ok (some s)) :
    s ∈ dlnaProfileAudioAc3.profiles := by
  unfold probeAc3 at ran
  obtain ⟨-, ran⟩ := Outcome.unless_ok ran nofun
  obtain ⟨-, ran⟩ := Outcome.unless_ok ran nofun
  split at ran <;> cases ran <;> exact List.mem_cons_self

theorem probeAmr_ok (ran : probeAmr ctx codecs = .ok (some s)) :
    ∃ st, streamGetContainer ctx = .ok st ∧
      ((audioIsValidAmr codecs.ac = true ∧
          s = if st = .threeGp then AudioAmr.threeGpp else AudioAmr.amr) ∨
        (audioIsValidAmr codecs.ac = false ∧ s = AudioAmr.amrWbplus)) := by
  unfold probeAmr at ran
  obtain ⟨-, ran⟩ := Outcome.unless_ok ran nofun
  obtain ⟨st, container, ran⟩ := Outcome.bind_ok.mp ran
  refine ⟨st, container, ?_⟩
  obtain ⟨-, ran⟩ := Outcome.unless_ok ran nofun
  split at ran
  · rename_i valid
    exact .inl ⟨valid, (Option.some.inj (Except.ok.inj ran)).symm⟩
  · rename_i invalid
    split at ran
    · exact .inr ⟨by simpa using invalid, (Option.some.inj (Except.ok.inj ran)).symm⟩
    · cases ran

theorem probeAmr_listed (ran : probeAmr ctx codecs = .ok (some s)) :
    s ∈ dlnaProfileAudioAmr.profiles := by
  obtain ⟨st, -, ⟨-, rfl⟩ | ⟨-, rfl⟩⟩ := probeAmr_ok ran
  · split <;> simp [dlnaProfileAudioAmr]
  · simp [dlnaProfileAudioAmr]

theorem probeAtrac3_listed (ran : probeAtrac3 ctx codecs = .ok (some s)) :
    s ∈ dlnaProfileAudioAtrac3.profiles := by
  unfold probeAtrac3 at ran
  obtain ⟨-, ran⟩ := Outcome.unless_ok ran nofun
  split at ran <;> cases ran
  exact List.mem_cons_self

theorem probeMp3_listed (ran : probeMp3 ctx codecs = .ok (some s)) :
    s ∈ dlnaProfileAudioMp3.profiles := by
  unfold probeMp3 at ran
  obtain ⟨-, ran⟩ := Outcome.unless_ok ran nofun
  obtain ⟨-, ran⟩ := Outcome.unless_ok ran nofun
  split at ran <;> cases ran <;> simp [dlnaProfileAudioMp3]

theorem probeWma_listed (ran : probeWma ctx codecs = .ok (some s)) :
    s ∈ dlnaProfileAudioWma.profiles := by
  unfold probeWma at ran
  obtain ⟨-, ran⟩ := Outcome.unless_ok ran nofun
  obtain ⟨-, ran⟩ := Outcome.unless_ok ran nofun
  split at ran <;> cases ran <;> simp [dlnaProfileAudioWma]

theorem aacAdtsObjectTypeGet_le (ctx : AvFormatContext) : aacAdtsObjectTypeGet ctx ≤ 3 := by
  unfold aacAdtsObjectTypeGet
  generalize ctx.file.read 3 2 &&& 0xC0 = bits
  have small := bits.toNat_lt
  rw [UInt8.le_iff_toNat_le, UInt8.toNat_shiftRight, Nat.shiftRight_eq_div_pow]
  change bits.toNat / 64 ≤ 3
  omega

def heaacV2Profiles : List AudioProfile := [.aacHeV2L2, .aacHeV2L2320, .aacHeV2L3, .aacHeV2Mult5]

theorem ite_notMem {c : Prop} [Decidable c] {A : Type} {a b : A} {l : List A} (first : a ∉ l)
    (second : b ∉ l) : (if c then a else b) ∉ l := by
  split
  · exact first
  · exact second

theorem audioProfileGuessAacPriv_heaacV2 {ac : Option AvCodecContext} {type : AacObjectType}
    (guessed : audioProfileGuessAacPriv ac type ∈ heaacV2Profiles) : type = aacParamEr := by
  by_contra other
  revert guessed
  unfold audioProfileGuessAacPriv
  cases ac with
  | none => exact fun guessed => by simp [heaacV2Profiles] at guessed
  | some ac =>
      dsimp only
      rw [if_neg other]
      repeat' apply ite_notMem
      all_goals decide

theorem heaacV2Adts_rows : ∀ row ∈ aacProfilesMapping, row.profile ∈ heaacV2AdtsProfiles →
    row.ct = .raw ∧ row.ap ∈ heaacV2Profiles := by
  decide +kernel

theorem aacRow_listed {ct : AacContainerType} {ap : AudioProfile}
    (found : (aacProfilesMapping.find? fun row => row.ct = ct ∧ row.ap = ap).map
      AacProfileMapping.profile = some s)
    (plain : ct = .raw → ap ∉ heaacV2Profiles) :
    s ∈ dlnaProfilesSupportedAudioMpeg4 ∧ s ∉ heaacV2AdtsProfiles := by
  refine ⟨rowFound_listed aac_rows_listed found, fun adts => ?_⟩
  obtain ⟨row, hit, rfl⟩ := Option.map_eq_some_iff.mp found
  obtain ⟨raw, version2⟩ := heaacV2Adts_rows row (List.mem_of_find?_eq_some hit) adts
  have matching := List.find?_some hit
  simp only [Bool.decide_and, Bool.and_eq_true, decide_eq_true_eq] at matching
  exact plain (matching.1 ▸ raw) (matching.2 ▸ version2)

theorem probeMpeg4_listed (ran : probeMpeg4 ctx codecs = .ok (some s)) :
    s ∈ dlnaProfilesSupportedAudioMpeg4 ∧ s ∉ heaacV2AdtsProfiles := by
  unfold probeMpeg4 at ran
  obtain ⟨-, ran⟩ := Outcome.unless_ok ran nofun
  by_cases demuxer : ctx.iformatName ≠ "aac".toList
  · rw [if_pos demuxer] at ran
    obtain ⟨-, ran⟩ := Outcome.unless_ok ran nofun
    refine aacRow_listed (Except.ok.inj ran) fun _ version2 => ?_
    -- a type that two bits can spell is none of version 2
    have type := audioProfileGuessAacPriv_heaacV2 version2
    have small := aacAdtsObjectTypeGet_le ctx
    rw [type] at small
    exact absurd small (by decide)
  · rw [if_neg demuxer] at ran
    obtain ⟨-, ran⟩ := Outcome.unless_ok ran nofun
    exact aacRow_listed (Except.ok.inj ran) nofun

theorem probeMpeg1_listed (ran : probeMpeg1 ctx codecs = .ok (some s)) :
    s ∈ dlnaProfileAvMpeg1.profiles := by
  unfold probeMpeg1 at ran
  obtain ⟨-, ran⟩ := Outcome.unless_ok ran nofun
  split at ran
  · dsimp only at ran
    iterate 9 obtain ⟨-, ran⟩ := Outcome.unless_ok ran nofun
    cases ran
    exact List.mem_cons_self
  · cases ran

def FoundIn (profiles : List StaticProfile) (found : Option StaticProfile) : Prop :=
  ∀ s, found = some s → s ∈ profiles

namespace FoundIn

variable {profiles : List StaticProfile}

theorem none : FoundIn profiles none := nofun

theorem some {profile : StaticProfile} (listed : profile ∈ profiles) :
    FoundIn profiles (some profile) := fun _ found => Option.some.inj found ▸ listed

theorem ite {c : Prop} [Decidable c] {a b : Option StaticProfile} (first : FoundIn profiles a)
    (second : FoundIn profiles b) : FoundIn profiles (if c then a else b) := by
  split
  · exact first
  · exact second

theorem transport {st : ContainerType} {iso t noTs : StaticProfile}
    (listed : [iso, t, noTs] ⊆ profiles) :
    FoundIn profiles (transportProfile st iso t noTs) := by
  unfold transportProfile
  split
  · exact some (listed (by simp))
  · exact some (listed (by simp))
  · exact some (listed (by simp))
  · exact none

theorem psEs {audio video : AvStream} {pal palXac3 ntsc ntscXac3 : StaticProfile}
    (listed : [pal, palXac3, ntsc, ntscXac3] ⊆ profiles) :
    FoundIn profiles (probeMpegPsEs audio video pal palXac3 ntsc ntscXac3) := by
  have regional {c₁ c₂ c₃ : Prop} [Decidable c₁] [Decidable c₂] [Decidable c₃]
      {plain xac3 : StaticProfile} (isPlain : plain ∈ profiles) (isXac3 : xac3 ∈ profiles) :
      FoundIn profiles
        (if c₁ then if c₂ then Option.some xac3 else if c₃ then Option.some plain else Option.none
        else Option.none) :=
    .ite (.ite (.some isXac3) (.ite (.some isPlain) .none)) .none
  unfold probeMpegPsEs
  refine .ite (regional (listed ?_) (listed ?_)) (.ite (regional (listed ?_) (listed ?_)) .none)
  all_goals simp

end FoundIn

open AvMpeg2 in
theorem probeMpegPs_listed (audio video : AvStream) :
    FoundIn dlnaProfilesSupportedAvMpeg2 (probeMpegPs audio video) := by
  have listed : [mpegPsPal, mpegPsPalXac3, mpegPsNtsc, mpegPsNtscXac3] ⊆
      dlnaProfilesSupportedAvMpeg2 := by simp [dlnaProfilesSupportedAvMpeg2]
  exact .psEs listed

open AvMpeg2 in
theorem probeMpegEs_listed (audio video : AvStream) :
    FoundIn dlnaProfilesSupportedAvMpeg2 (probeMpegEs audio video) := by
  have listed : [mpegEsPal, mpegEsPalXac3, mpegEsNtsc, mpegEsNtscXac3] ⊆
      dlnaProfilesSupportedAvMpeg2 := by simp [dlnaProfilesSupportedAvMpeg2]
  exact .psEs listed

theorem probeMpegTs_listed (ctx : AvFormatContext) (audio video : AvStream) (st : ContainerType) :
    FoundIn AvMpeg2.dlnaProfilesSupportedAvMpeg2 (probeMpegTs ctx audio video st) := by
  unfold probeMpegTs
  dsimp only
  repeat' apply FoundIn.ite
  all_goals first
    | exact .none
    | exact .transport (by simp [AvMpeg2.dlnaProfilesSupportedAvMpeg2])

theorem probeMpeg2_listed (ran : probeMpeg2 ctx codecs = .ok (some s)) :
    s ∈ AvMpeg2.dlnaProfilesSupportedAvMpeg2 := by
  unfold probeMpeg2 at ran
  obtain ⟨-, ran⟩ := Outcome.unless_ok ran nofun
  split at ran
  · obtain ⟨-, ran⟩ := Outcome.unless_ok ran nofun
    obtain ⟨st, -, ran⟩ := Outcome.bind_ok.mp ran
    split at ran
    · exact probeMpegEs_listed _ _ s (Except.ok.inj ran)
    · exact probeMpegPs_listed _ _ s (Except.ok.inj ran)
    · exact probeMpegTs_listed _ _ _ _ s (Except.ok.inj ran)
    · exact probeMpegTs_listed _ _ _ _ s (Except.ok.inj ran)
    · exact probeMpegTs_listed _ _ _ _ s (Except.ok.inj ran)
    · cases ran
  · cases ran

theorem probeWmv9_listed (ran : probeWmv9 ctx codecs = .ok (some s)) :
    s ∈ AvWmv9.dlnaProfilesSupportedAvWmv9 := by
  unfold probeWmv9 at ran
  obtain ⟨-, ran⟩ := Outcome.unless_ok ran nofun
  obtain ⟨-, ran⟩ := Outcome.unless_ok ran nofun
  split at ran
  · cases ran
  · obtain ⟨-, ran⟩ := Outcome.unless_ok ran nofun
    obtain ⟨-, ran⟩ := Outcome.unless_ok ran nofun
    obtain ⟨-, ran⟩ := Outcome.unless_ok ran nofun
    exact rowFound_listed wmv_rows_listed (Except.ok.inj ran)

inductive Mpeg4Probed (ctx : AvFormatContext) (codecs : AvCodecs) (profiles : List StaticProfile) :
    Option StaticProfile × AvCodecs → Prop
  | refused : Mpeg4Probed ctx codecs profiles (none, codecs)
  | searched (audio video video' : AvStream) (found : Option StaticProfile)
      (hasAudio : codecs.audio = some audio) (hasVideo : codecs.video = some video)
      (ensured : ensureVideoBitRate ctx audio video = .ok video')
      (listed : ∀ s, found = some s → s ∈ profiles) :
      Mpeg4Probed ctx codecs profiles (found, { codecs with video := some video' })

theorem Mpeg4Probed.listed {profiles : List StaticProfile} {later : AvCodecs}
    (probed : Mpeg4Probed ctx codecs profiles (some s, later)) : s ∈ profiles := by
  cases probed with
  | searched audio video video' found hasAudio hasVideo ensured listed => exact listed s rfl

variable {result : Option StaticProfile × AvCodecs}

theorem probeMpeg4Part2_probed (ran : probeMpeg4Part2 ctx codecs = .ok result) :
    Mpeg4Probed ctx codecs AvMpeg4Part2.dlnaProfilesSupportedAvMpeg4Part2 result := by
  unfold probeMpeg4Part2 at ran
  apply Outcome.early_or ran .refused
  intro ran
  split at ran
  · rename_i audio video hasAudio hasVideo
    apply Outcome.early_or ran .refused
    intro ran
    obtain ⟨st, -, ran⟩ := Outcome.bind_ok.mp ran
    apply Outcome.early_or ran .refused
    intro ran
    obtain ⟨video', ensured, ran⟩ := Outcome.bind_ok.mp ran
    obtain ⟨vp, -, ran⟩ := Outcome.bind_ok.mp ran
    apply Outcome.early_or ran (.searched audio video video' none hasAudio hasVideo ensured nofun)
    intro ran
    apply Outcome.early_or ran (.searched audio video video' none hasAudio hasVideo ensured nofun)
    intro ran
    obtain rfl := Except.ok.inj ran
    exact .searched audio video video' _ hasAudio hasVideo ensured fun s =>
      rowFound_listed mpeg4_rows_listed
  · cases ran

theorem probeAvc_probed (ran : probeAvc ctx codecs = .ok result) :
    Mpeg4Probed ctx codecs AvMpeg4Part10.dlnaProfilesSupportedAvMpeg4Part10 result := by
  unfold probeAvc at ran
  apply Outcome.early_or ran .refused
  intro ran
  split at ran
  · rename_i audio video hasAudio hasVideo
    apply Outcome.early_or ran .refused
    intro ran
    obtain ⟨st, -, ran⟩ := Outcome.bind_ok.mp ran
    apply Outcome.early_or ran .refused
    intro ran
    obtain ⟨video', ensured, ran⟩ := Outcome.bind_ok.mp ran
    apply Outcome.early_or ran (.searched audio video video' none hasAudio hasVideo ensured nofun)
    intro ran
    apply Outcome.early_or ran (.searched audio video video' none hasAudio hasVideo ensured nofun)
    intro ran
    obtain rfl := Except.ok.inj ran
    exact .searched audio video video' _ hasAudio hasVideo ensured fun s =>
      rowFound_listed avc_rows_listed
  · cases ran

/-- The case of `probe_amr` whose profile has an id that stands before it in the table. -/
def IsAmrIn3gp (family : MediaProfile) (ctx : AvFormatContext) (codecs : AvCodecs) : Prop :=
  family = .audioAmr ∧ streamGetContainer ctx = .ok .threeGp ∧ audioIsValidAmr codecs.ac = true

def lpcmProfile (memory : ProfileMemory) (ac : AvCodecContext) : DlnaProfile :=
  let source := if ac.sampleRate ≤ 32000 then AudioLpcm.lpcmLow else AudioLpcm.lpcm
  { memory.get (.static source) with mime := some (lpcmMime ac.sampleRate ac.channels) }

inductive Probed (family : MediaProfile) (ctx : AvFormatContext) (codecs : AvCodecs)
    (memory : ProfileMemory) : Option ProfileRef → ProfileMemory → Prop
  | refused : Probed family ctx codecs memory none memory
  | listed (s : StaticProfile) (other : family ≠ .audioLpcm)
      (member : s ∈ (registeredProfile family).profiles)
      (shadowed : s ∈ shadowedProfiles ↔ IsAmrIn3gp family ctx codecs) :
      Probed family ctx codecs memory (some (.static s)) memory
  | copied (ac : AvCodecContext) (isLpcm : family = .audioLpcm)
      (isAudio : streamCtxIsAudio codecs = true) (found : codecs.ac = some ac)
      (guessed : audioProfileGuessLpcm codecs.ac = .lpcm) :
      Probed family ctx codecs memory (some .lpcmCopy)
        { memory with lpcmCopy := lpcmProfile memory ac }

theorem adts_family {family : MediaProfile} (member : s ∈ (registeredProfile family).profiles)
    (adts : s ∈ heaacV2AdtsProfiles) : family = .audioMpeg4 := by
  have inMpeg4 : heaacV2AdtsProfiles ⊆ (registeredProfile .audioMpeg4).profiles := by
    simp [heaacV2AdtsProfiles, registeredProfile, dlnaProfileAudioMpeg4,
      dlnaProfilesSupportedAudioMpeg4]
  exact eq_of_same_id member (inMpeg4 adts) rfl

theorem shadowed_family {family : MediaProfile}
    (member : s ∈ (registeredProfile family).profiles) (shadowed : s ∈ shadowedProfiles) :
    family = .audioAmr ∨ family = .audioMpeg4 ∧ s ∈ heaacV2AdtsProfiles := by
  rcases List.mem_cons.mp shadowed with rfl | adts
  · have inAmr : AudioAmr.threeGpp ∈ (registeredProfile .audioAmr).profiles :=
      List.mem_cons_of_mem _ List.mem_cons_self
    exact .inl (eq_of_same_id member inAmr rfl)
  · exact .inr ⟨adts_family member adts, adts⟩

theorem shadowed_amr (member : s ∈ (registeredProfile .audioAmr).profiles)
    (shadowed : s ∈ shadowedProfiles) : s = AudioAmr.threeGpp := by
  refine (List.mem_cons.mp shadowed).resolve_right fun adts => ?_
  exact absurd (adts_family member adts) (by decide)

section ReadOnly

variable {family : MediaProfile} {memory memory' : ProfileMemory} {codecs' : AvCodecs}
  {found : Option ProfileRef}

theorem Probed.of_listed (other : family ≠ .audioLpcm) (notAmr : family ≠ .audioAmr)
    (member : s ∈ (registeredProfile family).profiles)
    (plain : family = .audioMpeg4 → s ∉ heaacV2AdtsProfiles) :
    Probed family ctx codecs memory (some (.static s)) memory := by
  refine .listed s other member ⟨fun shadowed => ?_, fun amr => absurd amr.1 notAmr⟩
  rcases shadowed_family member shadowed with isAmr | ⟨isMpeg4, adts⟩
  · exact absurd isAmr notAmr
  · exact absurd adts (plain isMpeg4)

theorem Probed.of_readOnly
    {probe : AvFormatContext → AvCodecs → Except Fault (Option StaticProfile)}
    (ran : readOnlyProbe probe ctx codecs memory = .ok (found, codecs', memory'))
    (listed : ∀ s, probe ctx codecs = .ok (some s) →
      Probed family ctx codecs memory (some (.static s)) memory) :
    Probed family ctx codecs memory found memory' := by
  obtain ⟨answer, probed, same⟩ := Outcome.map_ok.mp ran
  obtain ⟨rfl, -, rfl⟩ : answer.map ProfileRef.static = found ∧ codecs = codecs' ∧
      memory = memory' := by simpa using same
  cases answer with
  | none => exact .refused
  | some s => exact listed s probed

theorem Probed.of_codecs
    {probe : AvFormatContext → AvCodecs → Except Fault (Option StaticProfile × AvCodecs)}
    (ran : codecsProbe probe ctx codecs memory = .ok (found, codecs', memory'))
    (listed : ∀ s later, probe ctx codecs = .ok (some s, later) →
      Probed family ctx codecs memory (some (.static s)) memory) :
    Probed family ctx codecs memory found memory' := by
  obtain ⟨⟨answer, later⟩, probed, same⟩ := Outcome.map_ok.mp ran
  obtain ⟨rfl, -, rfl⟩ : answer.map ProfileRef.static = found ∧ later = codecs' ∧
      memory = memory' := by simpa using same
  cases answer with
  | none => exact .refused
  | some s => exact listed s later probed

theorem probeAmr_probed (ran : probeAmr ctx codecs = .ok (some s)) :
    Probed .audioAmr ctx codecs memory (some (.static s)) memory := by
  refine .listed s (by decide) (probeAmr_listed ran) ?_
  obtain ⟨st, container, ⟨valid, rfl⟩ | ⟨invalid, rfl⟩⟩ := probeAmr_ok ran
  · by_cases is3gp : st = .threeGp
    · subst is3gp
      rw [if_pos rfl]
      exact iff_of_true List.mem_cons_self ⟨rfl, container, valid⟩
    · rw [if_neg is3gp]
      refine iff_of_false amr_plain fun amr => is3gp ?_
      exact Except.ok.inj (container.symm.trans amr.2.1)
  · refine iff_of_false amrWbplus_plain fun amr => ?_
    exact absurd (invalid.symm.trans amr.2.2) (by decide)

theorem probeLpcm_probed
    (ran : probeLpcm ctx codecs memory = .ok (found, codecs', memory')) :
    Probed .audioLpcm ctx codecs memory found memory' := by
  unfold probeLpcm at ran
  split at ran
  · cases ran
    exact .refused
  · rename_i isAudio
    split at ran
    · cases ran
      exact .refused
    · rename_i guessed
      split at ran
      · cases ran
      · rename_i ac isAc
        cases ran
        exact .copied ac rfl (by simpa using isAudio) isAc (by simpa using guessed)

theorem probe_probed
    (ran : (registeredProfile family).probe ctx codecs memory = .ok (found, codecs', memory')) :
    Probed family ctx codecs memory found memory' := by
  cases family with
  | imageJpeg =>
      exact .of_readOnly ran fun _ ran =>
        .of_listed (nofun) (nofun) (probeJpeg_listed ran) nofun
  | imagePng =>
      exact .of_readOnly ran fun _ ran =>
        .of_listed (nofun) (nofun) (probePng_listed ran) nofun
  | audioAc3 =>
      exact .of_readOnly ran fun _ ran =>
        .of_listed (nofun) (nofun) (probeAc3_listed ran) nofun
  | audioAmr => exact .of_readOnly ran fun _ ran => probeAmr_probed ran
  | audioAtrac3 =>
      exact .of_readOnly ran fun _ ran =>
        .of_listed (nofun) (nofun) (probeAtrac3_listed ran) nofun
  | audioLpcm => exact probeLpcm_probed ran
  | audioMp3 =>
      exact .of_readOnly ran fun _ ran =>
        .of_listed (nofun) (nofun) (probeMp3_listed ran) nofun
  | audioMpeg4 =>
      exact .of_readOnly ran fun _ ran =>
        .of_listed (nofun) (nofun) (probeMpeg4_listed ran).1 fun _ => (probeMpeg4_listed ran).2
  | audioWma =>
      exact .of_readOnly ran fun _ ran =>
        .of_listed (nofun) (nofun) (probeWma_listed ran) nofun
  | avMpeg1 =>
      exact .of_readOnly ran fun _ ran =>
        .of_listed (nofun) (nofun) (probeMpeg1_listed ran) nofun
  | avMpeg2 =>
      exact .of_readOnly ran fun _ ran =>
        .of_listed (nofun) (nofun) (probeMpeg2_listed ran) nofun
  | avMpeg4Part2 =>
      exact .of_codecs ran fun _ _ ran =>
        .of_listed (nofun) (nofun) (probeMpeg4Part2_probed ran).listed nofun
  | avMpeg4Part10 =>
      exact .of_codecs ran fun _ _ ran =>
        .of_listed (nofun) (nofun) (probeAvc_probed ran).listed nofun
  | avWmv9 =>
      exact .of_readOnly ran fun _ ran =>
        .of_listed (nofun) (nofun) (probeWmv9_listed ran) nofun

end ReadOnly

end Libdlna
