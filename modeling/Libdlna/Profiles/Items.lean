import Libdlna.Profiles.Lookup
import Libdlna.Shared.Histories

set_option autoImplicit false

/-!
# Items and the profiles that they point to

Only the copy of LPCM is written again, for each file that its probe accepts.
-/

namespace Libdlna

open CString Runs

theorem matchTokens_congr {ext other : Text} (same : ext.map Char.toLower = other.map Char.toLower)
    (token p : Text) : matchTokens ext token p = matchTokens other token p := by
  induction p generalizing token with
  | nil => rw [matchTokens, matchTokens, strcasecmp, strcasecmp, same]
  | cons c rest ih =>
      rw [matchTokens, matchTokens, strcasecmp, strcasecmp, same, ih, ih]

def lpcmExtensions : List Text := ["pcm".toList, "lpcm".toList, "wav".toList, "aiff".toList]

theorem matchTokens_lpcm (ext : Text) :
    matchTokens ext [] dlnaProfileAudioLpcm.extensions =
      lpcmExtensions.any fun token => strcasecmp token ext := by
  have spelled : matchTokens ext [] dlnaProfileAudioLpcm.extensions =
      (strcasecmp "pcm".toList ext || (strcasecmp "lpcm".toList ext ||
        (strcasecmp "wav".toList ext || strcasecmp "aiff".toList ext))) := rfl
  rw [spelled, lpcmExtensions, List.any_cons, List.any_cons, List.any_cons, List.any_cons,
    List.any_nil, Bool.or_false]

theorem extensions_apart : ∀ family ∈ allMediaProfiles, ∀ token ∈ lpcmExtensions,
    matchTokens token [] (registeredProfile family).extensions = true →
      family = .audioLpcm ∨ family = .audioAtrac3 := by
  decide +kernel

theorem matchFileExtension_iff {filename extensions : Text} :
    matchFileExtension filename extensions = true ↔
      ∃ ext, getFileExtension filename = some ext ∧ matchTokens ext [] extensions = true := by
  unfold matchFileExtension
  cases getFileExtension filename <;> simp

theorem family_of_lpcmFile {filename : Text} {family : MediaProfile}
    (isLpcm : matchFileExtension filename dlnaProfileAudioLpcm.extensions = true)
    (matched : matchFileExtension filename (registeredProfile family).extensions = true) :
    family = .audioLpcm ∨ family = .audioAtrac3 := by
  obtain ⟨ext, isExt, isLpcm⟩ := matchFileExtension_iff.mp isLpcm
  obtain ⟨other, isOther, matched⟩ := matchFileExtension_iff.mp matched
  obtain rfl := Option.some.inj (isExt.symm.trans isOther)
  rw [matchTokens_lpcm, List.any_eq_true] at isLpcm
  obtain ⟨token, listed, same⟩ := isLpcm
  rw [← matchTokens_congr (of_decide_eq_true same)] at matched
  exact extensions_apart family (mem_allMediaProfiles family) token listed matched

def advertised (profile : DlnaProfile) : Option ProfileText × Option ProfileText :=
  (profile.id, profile.mime)

/-- What is advertised of a file that LPCM's probe has accepted. -/
def lpcmAdvertised (ac : AvCodecContext) : Option ProfileText × Option ProfileText :=
  (some (if ac.sampleRate ≤ 32000 then AudioLpcm.lpcmLow else AudioLpcm.lpcm).id,
    some (lpcmMime ac.sampleRate ac.channels))

def IsLpcmStream (codecs : AvCodecs) : Prop :=
  streamCtxIsAudio codecs = true ∧ audioProfileGuessLpcm codecs.ac = .lpcm

instance (codecs : AvCodecs) : Decidable (IsLpcmStream codecs) := inferInstanceAs (Decidable (_ ∧ _))

theorem IsLpcmStream.ac {codecs : AvCodecs} (accepted : IsLpcmStream codecs) :
    ∃ ac, codecs.ac = some ac := by
  have guessed := accepted.2
  cases isAc : codecs.ac with
  | none =>
      rw [isAc] at guessed
      cases guessed
  | some ac => exact ⟨ac, rfl⟩

section Loop

variable {filename : Text} {ctx : AvFormatContext} {families : List MediaProfile}
  {codecs : AvCodecs} {memory after : ProfileMemory} {found : Option ProfileRef}

theorem probeLpcm_accepted (ctx : AvFormatContext) {ac : AvCodecContext} (accepted : IsLpcmStream codecs)
    (isAc : codecs.ac = some ac) :
    probeLpcm ctx codecs memory =
      .ok (some .lpcmCopy, codecs, { memory with lpcmCopy := lpcmProfile memory ac }) := by
  unfold probeLpcm
  rw [if_neg (by simp [accepted.1]), if_neg (by simp [accepted.2]), isAc]
  rfl

theorem probeLpcm_refused (refused : ¬ IsLpcmStream codecs) :
    probeLpcm ctx codecs memory = .ok (none, codecs, memory) := by
  unfold probeLpcm
  split
  · rfl
  · rename_i isAudio
    rw [if_pos fun guessed => refused ⟨by simpa using isAudio, guessed⟩]

theorem probeAtrac3_accepted (accepted : IsLpcmStream codecs) :
    probeAtrac3 ctx codecs = .ok none := by
  have other : audioProfileGuessAtrac codecs.ac ≠ .atrac := by
    obtain ⟨-, guessed⟩ := accepted
    revert guessed
    cases codecs.ac with
    | none => nofun
    | some ac =>
        unfold audioProfileGuessLpcm audioProfileGuessAtrac
        by_cases isAtrac : ac.codecId = .atrac3 <;> simp [isAtrac]
  unfold probeAtrac3
  rw [if_neg other, ite_self]

theorem probeRegistered_accepted {ac : AvCodecContext}
    (matched : matchFileExtension filename dlnaProfileAudioLpcm.extensions = true)
    (accepted : IsLpcmStream codecs) (isAc : codecs.ac = some ac)
    (registered : MediaProfile.audioLpcm ∈ families) :
    probeRegistered filename ctx (families.map registeredProfile) codecs memory =
      .ok (some .lpcmCopy,
        { memory with lpcmCopy := lpcmProfile memory ac }.setMediaClass .audio .lpcmCopy) := by
  induction families with
  | nil => cases registered
  | cons family rest ih =>
      rw [List.map_cons, probeRegistered]
      by_cases isLpcm : family = .audioLpcm
      · subst isLpcm
        have copied : (registeredProfile .audioLpcm).probe ctx codecs memory =
            .ok (some .lpcmCopy, codecs, { memory with lpcmCopy := lpcmProfile memory ac }) :=
          probeLpcm_accepted ctx accepted isAc
        rw [if_neg (by simp [registeredProfile, matched]), copied]
        rfl
      · have further := ih ((List.mem_cons.mp registered).resolve_left (Ne.symm isLpcm))
        split
        · exact further
        · rename_i taken
          obtain rfl := (family_of_lpcmFile matched (by simpa using taken)).resolve_left isLpcm
          have refused : (registeredProfile .audioAtrac3).probe ctx codecs memory =
              .ok (none, codecs, memory) := by
            change readOnlyProbe probeAtrac3 ctx codecs memory = _
            rw [readOnlyProbe, probeAtrac3_accepted accepted]
            rfl
          rw [refused]
          exact further

theorem probe_codecs {family : MediaProfile} {codecs' : AvCodecs}
    (shared : family = .audioLpcm ∨ family = .audioAtrac3)
    (ran : (registeredProfile family).probe ctx codecs memory = .ok (found, codecs', after)) :
    codecs' = codecs := by
  obtain rfl | rfl := shared
  · change probeLpcm ctx codecs memory = _ at ran
    by_cases accepted : IsLpcmStream codecs
    · obtain ⟨ac, isAc⟩ := accepted.ac
      rw [probeLpcm_accepted ctx accepted isAc] at ran
      cases ran
      rfl
    · rw [probeLpcm_refused accepted] at ran
      cases ran
      rfl
  · obtain ⟨answer, -, same⟩ := Outcome.map_ok.mp ran
    cases same
    rfl

theorem probeRegistered_refused
    (refused : matchFileExtension filename dlnaProfileAudioLpcm.extensions = true →
      MediaProfile.audioLpcm ∈ families → ¬ IsLpcmStream codecs)
    (ran : probeRegistered filename ctx (families.map registeredProfile) codecs memory =
      .ok (found, after)) :
    found ≠ some .lpcmCopy ∧ after.lpcmCopy = memory.lpcmCopy := by
  induction families generalizing codecs with
  | nil =>
      cases ran
      exact ⟨by simp, rfl⟩
  | cons family rest ih =>
      rw [List.map_cons, probeRegistered] at ran
      split at ran
      · exact ih (fun matched member => refused matched (List.mem_cons_of_mem family member)) ran
      · rename_i taken
        have taken : matchFileExtension filename (registeredProfile family).extensions = true := by
          simpa using taken
        obtain ⟨⟨prof, codecs', between⟩, answered, ran⟩ := Outcome.bind_ok.mp ran
        cases probe_probed answered with
        | refused =>
            refine ih (fun matched member => ?_) ran
            rw [probe_codecs (family_of_lpcmFile matched taken) answered]
            exact refused matched (List.mem_cons_of_mem family member)
        | listed s other member shadowed =>
            cases ran
            exact ⟨by simp, rfl⟩
        | copied ac isLpcm isAudio isAc guessed =>
            subst isLpcm
            exact absurd ⟨isAudio, guessed⟩ (refused taken List.mem_cons_self)

end Loop

theorem decimalInt_noSemicolon (z : Int) : ';' ∉ decimalInt z := by
  intro member
  rcases decimalInt_digit member with isSign | isDigit
  · exact absurd isSign (by decide)
  · exact absurd isDigit (by decide)

theorem lpcmMime_inj {rate channels rate' channels' : Int32}
    (same : lpcmMime rate channels = lpcmMime rate' channels') :
    rate = rate' ∧ channels = channels' := by
  have texts : lpcmMimeText rate channels = lpcmMimeText rate' channels' :=
    congrArg Subtype.val same
  obtain ⟨label, separator, plain⟩ : ∃ label, ";channels=".toList = ';' :: label ∧ ';' ∉ label :=
    ⟨_, rfl, by decide⟩
  simp only [lpcmMimeText, separator, List.append_assoc, List.append_cancel_left_eq,
    List.cons_append] at texts
  -- a single semicolon follows the first label
  have rateEnds : ';' ∉ decimalInt rate.toInt := decimalInt_noSemicolon rate.toInt
  have noOther : ';' ∉ label ++ decimalInt channels.toInt := fun member =>
    (List.mem_append.mp member).elim plain (decimalInt_noSemicolon channels.toInt)
  obtain ⟨rates, -, tails⟩ := (List.append_cons_inj_of_notMem rateEnds noOther).mp texts
  refine ⟨Int32.toInt_inj.mp (decimalInt_injective rates), ?_⟩
  exact Int32.toInt_inj.mp (decimalInt_injective (List.append_cancel_left tails))

theorem lpcmAdvertised_inj {ac other : AvCodecContext} :
    lpcmAdvertised ac = lpcmAdvertised other ↔
      ac.sampleRate = other.sampleRate ∧ ac.channels = other.channels := by
  constructor
  · intro same
    exact lpcmMime_inj (Option.some.inj (congrArg Prod.snd same))
  · rintro ⟨rates, channels⟩
    rw [lpcmAdvertised, lpcmAdvertised, rates, channels]

def lpcmStream (profiler : DlnaProfiler) (registered : List RegisteredProfile) (file : MediaFile) :
    Option AvCodecContext :=
  if profiler = .ffmpeg ∧ (registered.any fun p => p.id = .audioLpcm) = true ∧
      matchFileExtension file.filename dlnaProfileAudioLpcm.extensions = true then
    (file.ctx.bind avProfileGetCodecs).bind fun codecs =>
      if IsLpcmStream codecs then codecs.ac else none
  else none

theorem lpcmStream_ffmpeg_iff {families : List MediaProfile} {file : MediaFile}
    {ac : AvCodecContext} :
    lpcmStream .ffmpeg (families.map registeredProfile) file = some ac ↔
      MediaProfile.audioLpcm ∈ families ∧
        matchFileExtension file.filename dlnaProfileAudioLpcm.extensions = true ∧
          ∃ codecs, file.ctx.bind avProfileGetCodecs = some codecs ∧ IsLpcmStream codecs ∧
            codecs.ac = some ac := by
  have asked : ((families.map registeredProfile).any fun p => p.id = .audioLpcm) = true ↔
      MediaProfile.audioLpcm ∈ families := by
    simp [registeredProfile_id]
  rw [← asked]
  unfold lpcmStream
  split
  · rename_i taken
    rw [Option.bind_eq_some_iff]
    simp [taken.2]
  · rename_i refused
    exact iff_of_false nofun fun accepted => refused ⟨rfl, accepted.1, accepted.2.1⟩

section Item

variable {profiler : DlnaProfiler} {data after : FfmpegProfiler} {file : MediaFile}
  {profile : Option ProfileRef} {created : Option HeldItem}

theorem itemNew_ok (ran : itemNew profiler data file = .ok (created, after)) :
    ∃ profile, guessMediaProfile profiler data file = .ok (profile, after) ∧
      created.map HeldItem.profile = profile ∧
      ∀ held ∈ created, held.item.profile = some (after.memory.get held.profile) := by
  obtain ⟨⟨profile, between⟩, guessed, ran⟩ := Outcome.bind_ok.mp ran
  refine ⟨profile, ?_⟩
  dsimp only at ran
  cases profile with
  | none =>
      have noItem : dlnaItemNew file.filename (fileProbe profiler file between.memory none) =
          none := rfl
      rw [noItem, Option.bind_none] at ran
      cases ran
      exact ⟨guessed, rfl, fun _ member => absurd member (Option.not_mem_none _)⟩
  | some profile =>
      obtain ⟨item, made, pointsTo⟩ : ∃ item,
          dlnaItemNew file.filename (fileProbe profiler file between.memory (some profile)) =
              some item ∧
            item.profile = some (between.memory.get profile) := ⟨_, rfl, rfl⟩
      rw [made] at ran
      cases ran
      refine ⟨guessed, rfl, fun held member => ?_⟩
      cases member
      exact pointsTo

theorem guess_accepted {ac : AvCodecContext} (sound : SoundProfiler data)
    (accepted : lpcmStream profiler data.registered file = some ac)
    (guessed : guessMediaProfile profiler data file = .ok (profile, after)) :
    profile = some .lpcmCopy ∧ advertised after.memory.lpcmCopy = lpcmAdvertised ac := by
  cases profiler with
  | upnpav => cases accepted
  | ffmpeg =>
      obtain ⟨families, isFamilies⟩ := sound.families
      rw [isFamilies, lpcmStream_ffmpeg_iff] at accepted
      obtain ⟨registered, matched, codecs, isCodecs, isLpcm, isAc⟩ := accepted
      rcases ffmpegProfilerGuess_ok guessed with ⟨noCodecs, -⟩ | answer
      · rw [noCodecs] at isCodecs
        cases isCodecs
      · obtain ⟨opened, others, found, memory, isOpened, isOthers, probed, rfl, rfl⟩ := answer
        rw [isOpened, Option.bind_some, isOthers] at isCodecs
        obtain rfl := Option.some.inj isCodecs
        rw [isFamilies, probeRegistered_accepted matched isLpcm isAc registered] at probed
        cases probed
        exact ⟨rfl, rfl⟩

theorem guess_refused (sound : SoundProfiler data)
    (refused : lpcmStream profiler data.registered file = none)
    (guessed : guessMediaProfile profiler data file = .ok (profile, after)) :
    profile ≠ some .lpcmCopy ∧ after.memory.lpcmCopy = data.memory.lpcmCopy := by
  cases profiler with
  | upnpav =>
      cases guessed
      refine ⟨fun isCopy => ?_, rfl⟩
      obtain ⟨entry, -, differ⟩ := Option.map_eq_some_iff.mp isCopy
      cases differ
  | ffmpeg =>
      obtain ⟨families, isFamilies⟩ := sound.families
      rw [isFamilies, Option.eq_none_iff_forall_ne_some] at refused
      rcases ffmpegProfilerGuess_ok guessed with ⟨-, rfl, rfl⟩ | answer
      · exact ⟨nofun, rfl⟩
      · obtain ⟨opened, codecs, found, memory, isOpened, isCodecs, probed, rfl, rfl⟩ := answer
        rw [isFamilies] at probed
        have frame : some found ≠ some .lpcmCopy ∧ memory.lpcmCopy = data.memory.lpcmCopy := by
          refine probeRegistered_refused (fun matched registered isLpcm => ?_) probed
          obtain ⟨ac, isAc⟩ := isLpcm.ac
          refine refused ac (lpcmStream_ffmpeg_iff.mpr ⟨registered, matched, codecs, ?_, isLpcm, isAc⟩)
          rw [isOpened, Option.bind_some, isCodecs]
        refine ⟨frame.1, ?_⟩
        cases found with
        | static s => exact frame.2
        | lpcmCopy => exact absurd rfl frame.1
        | listed entry => exact frame.2

end Item

structure Creation where
  data : FfmpegProfiler
  held : List HeldItem

def Creation.start (data : FfmpegProfiler) : Creation := { data, held := [] }

def CreationStep (profiler : DlnaProfiler) (s : Creation) (file : MediaFile) (t : Creation) : Prop :=
  ∃ created data, itemNew profiler s.data file = .ok (created, data) ∧
    t = { data, held := s.held ++ created.toList }

def Unchanged (s : Creation) : Prop :=
  ∀ held ∈ s.held,
    held.item.profile.map advertised = some (advertised (s.data.memory.get held.profile))

/-- What the items that point to the copy were created with, in turn, is `written`. -/
structure Ledger (s : Creation) (written : List (Option ProfileText × Option ProfileText)) :
    Prop where
  sound : SoundProfiler s.data
  copies : (s.held.filter fun held => held.profile = .lpcmCopy).map
    (fun held => held.item.profile.map advertised) = written.map some
  others : ∀ held ∈ s.held, held.profile ≠ .lpcmCopy →
    held.item.profile.map advertised = some (advertised (s.data.memory.get held.profile))
  current : ∀ value ∈ written.getLast?, value = advertised s.data.memory.lpcmCopy

theorem guessMediaProfile_sound {profiler : DlnaProfiler} {data after : FfmpegProfiler}
    {file : MediaFile} {profile : Option ProfileRef} (sound : SoundProfiler data)
    (guessed : guessMediaProfile profiler data file = .ok (profile, after)) :
    SoundProfiler after ∧ after.registered = data.registered := by
  cases profiler with
  | upnpav =>
      cases guessed
      exact ⟨sound, rfl⟩
  | ffmpeg => exact guess_ok sound guessed

theorem advertised_get {profile : ProfileRef} (other : profile ≠ .lpcmCopy)
    (before after : ProfileMemory) :
    advertised (before.get profile) = advertised (after.get profile) := by
  cases profile with
  | static s => rfl
  | lpcmCopy => exact absurd rfl other
  | listed entry => rfl

theorem ledger_start {data : FfmpegProfiler} (sound : SoundProfiler data) :
    Ledger (.start data) [] where
  sound := sound
  copies := rfl
  others := fun _ member => absurd member List.not_mem_nil
  current := fun _ member => absurd member (Option.not_mem_none _)

section Runs

variable {profiler : DlnaProfiler} {s t : Creation} {file : MediaFile}
  {written : List (Option ProfileText × Option ProfileText)}

theorem ledger_step (ledger : Ledger s written) (step : CreationStep profiler s file t) :
    Ledger t (written ++
        ((lpcmStream profiler s.data.registered file).map lpcmAdvertised).toList) ∧
      t.data.registered = s.data.registered := by
  obtain ⟨created, data, ran, rfl⟩ := step
  obtain ⟨profile, guessed, isProfile, pointsTo⟩ := itemNew_ok ran
  obtain ⟨sound, sameRegistered⟩ := guessMediaProfile_sound ledger.sound guessed
  have earlier : ∀ held ∈ s.held, held.profile ≠ .lpcmCopy →
      held.item.profile.map advertised = some (advertised (data.memory.get held.profile)) := by
    intro held member other
    rw [ledger.others held member other, advertised_get other]
  refine ⟨?_, sameRegistered⟩
  cases isStream : lpcmStream profiler s.data.registered file with
  | none =>
      obtain ⟨notCopy, sameCopy⟩ := guess_refused ledger.sound isStream guessed
      have other : ∀ held ∈ created, held.profile ≠ .lpcmCopy := by
        rintro held rfl isCopy
        exact notCopy (isProfile.symm.trans (congrArg some isCopy))
      have noCopies : created.toList.filter (fun held => held.profile = .lpcmCopy) = [] := by
        rw [List.filter_eq_nil_iff]
        intro held member
        simpa using other held (Option.mem_toList.mp member)
      refine ⟨sound, ?_, ?_, ?_⟩
      · rw [List.filter_append, noCopies, List.append_nil, ledger.copies]
        simp
      · intro held member isOther
        rcases List.mem_append.mp member with old | new
        · exact earlier held old isOther
        · rw [pointsTo held (Option.mem_toList.mp new), Option.map_some]
      · simpa [sameCopy] using ledger.current
  | some ac =>
      obtain ⟨rfl, value⟩ := guess_accepted ledger.sound isStream guessed
      obtain ⟨held, rfl, isCopy⟩ := Option.map_eq_some_iff.mp isProfile
      have snapshot : held.item.profile.map advertised = some (lpcmAdvertised ac) := by
        rw [pointsTo held rfl, isCopy, Option.map_some]
        exact congrArg some value
      refine ⟨sound, ?_, ?_, ?_⟩
      · simp [List.filter_append, ledger.copies, isCopy, snapshot]
      · intro other member isOther
        rcases List.mem_append.mp member with old | new
        · exact earlier other old isOther
        · obtain rfl := List.mem_singleton.mp new
          exact absurd isCopy isOther
      · simp [value]

theorem ledger_reached {files : List MediaFile} (ledger : Ledger s written)
    (reached : Reaches (CreationStep profiler) s files t) :
    Ledger t (written ++
      (files.filterMap (lpcmStream profiler s.data.registered)).map lpcmAdvertised) := by
  induction files generalizing s written with
  | nil =>
      cases reached
      simpa using ledger
  | cons file rest ih =>
      obtain ⟨u, step, further⟩ := reached
      obtain ⟨next, sameRegistered⟩ := ledger_step ledger step
      have final := ih next further
      rw [sameRegistered, List.append_assoc] at final
      cases isStream : lpcmStream profiler s.data.registered file with
      | none => simpa [isStream] using final
      | some ac => simpa [isStream] using final

theorem Ledger.unchanged_iff (ledger : Ledger s written) :
    Unchanged s ↔ written.Pairwise (· = ·) := by
  rw [← Histories.snapshots_current_iff ledger.current]
  constructor
  · intro unchanged value member
    have inCopies : some value ∈ written.map some := List.mem_map_of_mem member
    rw [← ledger.copies] at inCopies
    obtain ⟨held, isCopy, snapshot⟩ := List.mem_map.mp inCopies
    obtain ⟨isHeld, isCopy⟩ := List.mem_filter.mp isCopy
    have same := unchanged held isHeld
    rw [snapshot, of_decide_eq_true isCopy] at same
    exact Option.some.inj same
  · intro same held member
    by_cases isCopy : held.profile = .lpcmCopy
    · have inCopies : held.item.profile.map advertised ∈ written.map some := by
        rw [← ledger.copies]
        exact List.mem_map_of_mem (List.mem_filter.mpr ⟨member, decide_eq_true isCopy⟩)
      obtain ⟨value, inWritten, snapshot⟩ := List.mem_map.mp inCopies
      rw [← snapshot, same value inWritten, isCopy]
      rfl
    · exact ledger.others held member isCopy

end Runs

def SameFormat (profiler : DlnaProfiler) (registered : List RegisteredProfile)
    (earlier later : MediaFile) : Prop :=
  ∀ ac, lpcmStream profiler registered earlier = some ac →
    ∀ other, lpcmStream profiler registered later = some other →
      ac.sampleRate = other.sampleRate ∧ ac.channels = other.channels

theorem items_unchanged_iff {calls : List ProfilerCall} {profiler : DlnaProfiler}
    {data : FfmpegProfiler} {files : List MediaFile} {after : Creation}
    (started : Reaches ProfilerStep ffmpegProfilerInit calls data)
    (created : Reaches (CreationStep profiler) (.start data) files after) :
    Unchanged after ↔ files.Pairwise (SameFormat profiler data.registered) := by
  have initial := ledger_start (reaches_sound ffmpegProfilerInit_sound started).1
  rw [(ledger_reached initial created).unchanged_iff, List.nil_append, List.pairwise_map,
    List.pairwise_filterMap]
  simp only [lpcmAdvertised_inj]
  rfl

def recording (filename : String) (sampleRate channels : Int32) : MediaFile where
  filename := filename.toList
  size := some 1000
  ctx := some (soundFile filename "wav" (soundStream .pcmS16le 0 sampleRate channels))
  properties := none
  metadata := none

def cdRecording : MediaFile := recording "/a.wav" 44100 2
def phoneRecording : MediaFile := recording "/b.wav" 8000 1

theorem cdRecordings_unchanged :
    ∃ after, Reaches (CreationStep .ffmpeg) (.start (profilerOf .audioLpcm))
      [cdRecording, cdRecording] after ∧ Unchanged after := by
  obtain ⟨after, created⟩ : ∃ after, Reaches (CreationStep .ffmpeg)
      (.start (profilerOf .audioLpcm)) [cdRecording, cdRecording] after :=
    ⟨_, _, ⟨_, _, rfl, rfl⟩, _, ⟨_, _, rfl, rfl⟩, rfl⟩
  refine ⟨after, created, (items_unchanged_iff (profilerOf_reached .audioLpcm) created).mpr ?_⟩
  rw [List.pairwise_pair]
  intro ac isAc other isOther
  obtain rfl := Option.some.inj (isAc.symm.trans isOther)
  exact ⟨rfl, rfl⟩

theorem cdRecording_rewritten :
    ∃ after, Reaches (CreationStep .ffmpeg) (.start (profilerOf .audioLpcm))
      [cdRecording, phoneRecording] after ∧ ¬ Unchanged after := by
  obtain ⟨after, created⟩ : ∃ after, Reaches (CreationStep .ffmpeg)
      (.start (profilerOf .audioLpcm)) [cdRecording, phoneRecording] after :=
    ⟨_, _, ⟨_, _, rfl, rfl⟩, _, ⟨_, _, rfl, rfl⟩, rfl⟩
  have initial := ledger_start (register_sound .audioLpcm ffmpegProfilerInit_sound).1
  have streams : [cdRecording, phoneRecording].filterMap
      (lpcmStream .ffmpeg (profilerOf .audioLpcm).registered) =
        [(soundStream .pcmS16le 0 44100 2).codec, (soundStream .pcmS16le 0 8000 1).codec] := rfl
  refine ⟨after, created, fun unchanged => ?_⟩
  have agree := (ledger_reached initial created).unchanged_iff.mp unchanged
  change List.Pairwise _ ([] ++ (List.filterMap (lpcmStream .ffmpeg
    (profilerOf .audioLpcm).registered) _).map lpcmAdvertised) at agree
  rw [streams, List.nil_append, List.pairwise_map, List.pairwise_pair, lpcmAdvertised_inj] at agree
  exact absurd agree.1 (by decide)

end Libdlna
