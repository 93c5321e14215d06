import Libdlna.Profiles.Lookup

set_option autoImplicit false

/-!
# The family that a file is guessed to be of

The first registered family with the extension of the file whose probe accepts it. Where there is
none, the members of a null profile are written.
-/

namespace Libdlna

open CString

section Families

variable (filename : Text) (ctx : AvFormatContext)

inductive PassedOver :
    List RegisteredProfile → AvCodecs → ProfileMemory → AvCodecs → ProfileMemory → Prop where
  | nil (codecs : AvCodecs) (memory : ProfileMemory) : PassedOver [] codecs memory codecs memory
  | otherExtension {p : RegisteredProfile} {next : List RegisteredProfile}
      {codecs codecs' : AvCodecs} {memory memory' : ProfileMemory}
      (other : matchFileExtension filename p.extensions = false)
      (later : PassedOver next codecs memory codecs' memory') :
      PassedOver (p :: next) codecs memory codecs' memory'
  | refused {p : RegisteredProfile} {next : List RegisteredProfile}
      {codecs between codecs' : AvCodecs} {memory left memory' : ProfileMemory}
      (matched : matchFileExtension filename p.extensions = true)
      (refuses : p.probe ctx codecs memory = .ok (none, between, left))
      (later : PassedOver next between left codecs' memory') :
      PassedOver (p :: next) codecs memory codecs' memory'

/-- The family `p` is the first to accept the file: its probe gives `profile` and leaves `after`. -/
def FirstAccepting (families : List RegisteredProfile) (codecs : AvCodecs) (memory : ProfileMemory)
    (p : RegisteredProfile) (profile : ProfileRef) (after : ProfileMemory) : Prop :=
  ∃ before rest codecs' memory' codecs'', families = before ++ p :: rest ∧
    PassedOver filename ctx before codecs memory codecs' memory' ∧
    matchFileExtension filename p.extensions = true ∧
    p.probe ctx codecs' memory' = .ok (some profile, codecs'', after)

def NoneAccepts (families : List RegisteredProfile) (codecs : AvCodecs)
    (memory : ProfileMemory) : Prop :=
  ∃ codecs' memory', PassedOver filename ctx families codecs memory codecs' memory'

end Families

section Loop

variable {filename : Text} {ctx : AvFormatContext} {families : List RegisteredProfile}
  {codecs codecs' : AvCodecs} {memory memory' after : ProfileMemory} {p : RegisteredProfile}
  {profile : ProfileRef} {data : FfmpegProfiler}

theorem probeRegistered_passedOver
    (passed : PassedOver filename ctx families codecs memory codecs' memory')
    (rest : List RegisteredProfile) :
    probeRegistered filename ctx (families ++ rest) codecs memory =
      probeRegistered filename ctx rest codecs' memory' := by
  induction passed with
  | nil codecs memory => rfl
  | otherExtension other later ih =>
      rw [List.cons_append, probeRegistered, if_pos (by simp [other])]
      exact ih
  | refused matched refuses later ih =>
      rw [List.cons_append, probeRegistered, if_neg (by simp [matched]), refuses]
      exact ih

theorem probeRegistered_first
    (first : FirstAccepting filename ctx families codecs memory p profile after) :
    probeRegistered filename ctx families codecs memory =
      .ok (some profile, after.setMediaClass p.mediaClass profile) := by
  obtain ⟨before, rest, codecs', memory', codecs'', rfl, passed, matched, accepts⟩ := first
  rw [probeRegistered_passedOver passed, probeRegistered, if_neg (by simp [matched]), accepts]
  rfl

theorem probeRegistered_none
    (passed : PassedOver filename ctx families codecs memory codecs' memory') :
    probeRegistered filename ctx families codecs memory = .ok (none, memory') := by
  have ran := probeRegistered_passedOver passed []
  rwa [List.append_nil] at ran

theorem FirstAccepting.not_none
    (first : FirstAccepting filename ctx families codecs memory p profile after) :
    ¬ NoneAccepts filename ctx families codecs memory := by
  rintro ⟨codecs', memory', passed⟩
  have found := probeRegistered_first first
  rw [probeRegistered_none passed] at found
  cases found

theorem guess_first (opened : avProfileGetCodecs ctx = some codecs)
    (first : FirstAccepting filename ctx data.registered codecs data.memory p profile after) :
    ffmpegProfilerGuessMediaProfile data filename (some ctx) =
      .ok (some profile,
        { data with memory := (after.setMediaClass p.mediaClass profile).setCallbacks profile }) := by
  simp only [ffmpegProfilerGuessMediaProfile, opened, probeRegistered_first first]
  rfl

theorem guess_none (opened : avProfileGetCodecs ctx = some codecs)
    (none : NoneAccepts filename ctx data.registered codecs data.memory) :
    ffmpegProfilerGuessMediaProfile data filename (some ctx) = .error .nullDeref := by
  obtain ⟨codecs', memory', passed⟩ := none
  simp only [ffmpegProfilerGuessMediaProfile, opened, probeRegistered_none passed]
  rfl

end Loop

def firstRegistrations (registrations : List RegisteredProfile) : List RegisteredProfile :=
  registrations.eraseDupsBy fun p other => p.id = other.id

def profilerAfter (registrations : List RegisteredProfile) (memory : ProfileMemory) :
    FfmpegProfiler :=
  registrations.foldl registerProfile { ffmpegProfilerInit with memory }

theorem registerProfile_eq (data : FfmpegProfiler) (profile : RegisteredProfile) :
    registerProfile data profile =
      { data with registered :=
          KeyedTable.insertNew RegisteredProfile.id data.registered profile } := by
  unfold registerProfile KeyedTable.insertNew
  split <;> rfl

theorem foldl_registerProfile (registrations : List RegisteredProfile) (data : FfmpegProfiler) :
    registrations.foldl registerProfile data =
      { data with registered :=
          registrations.foldl (KeyedTable.insertNew RegisteredProfile.id) data.registered } := by
  induction registrations generalizing data with
  | nil => rfl
  | cons profile rest ih =>
      rw [List.foldl_cons, List.foldl_cons, ih, registerProfile_eq]

theorem profilerAfter_eq (registrations : List RegisteredProfile) (memory : ProfileMemory) :
    profilerAfter registrations memory =
      { registered := firstRegistrations registrations, memory } := by
  unfold profilerAfter firstRegistrations
  rw [foldl_registerProfile, KeyedTable.foldl_insertNew]
  simp [ffmpegProfilerInit]

def HasStream (ctx : AvFormatContext) : Prop :=
  ∃ stream ∈ ctx.streams, stream.codec.codecType = .audio ∨ stream.codec.codecType = .video

theorem avProfileGetCodecs_isSome {ctx : AvFormatContext} (hasStream : HasStream ctx) :
    ∃ codecs, avProfileGetCodecs ctx = some codecs := by
  obtain ⟨stream, member, isAudio | isVideo⟩ := hasStream
  · have found : (ctx.streams.find? fun stream => stream.codec.codecType = .audio).isSome :=
      List.find?_isSome.mpr ⟨stream, member, by simp [isAudio]⟩
    exact ⟨_, if_neg (by simp [Option.isNone_eq_false_iff.mpr found])⟩
  · have found : (ctx.streams.find? fun stream => stream.codec.codecType = .video).isSome :=
      List.find?_isSome.mpr ⟨stream, member, by simp [isVideo]⟩
    exact ⟨_, if_neg (by simp [Option.isNone_eq_false_iff.mpr found])⟩

/-- The guess is the profile of the first family to accept the file, marked as one of that family,
or no profile and a memory that only the probes have written to. -/
structure GuessesFirst (registrations : List RegisteredProfile) (memory : ProfileMemory)
    (filename : Text) (ctx : AvFormatContext) (codecs : AvCodecs) : Prop where
  found : ∀ p profile after,
    FirstAccepting filename ctx (firstRegistrations registrations) codecs memory p profile after →
      ffmpegProfilerGuessMediaProfile (profilerAfter registrations memory) filename (some ctx) =
        .ok (some profile, { profilerAfter registrations memory with
          memory := (after.setMediaClass p.mediaClass profile).setCallbacks profile })
  missed : ∀ codecs' after,
    PassedOver filename ctx (firstRegistrations registrations) codecs memory codecs' after →
      ffmpegProfilerGuessMediaProfile (profilerAfter registrations memory) filename (some ctx) =
        .ok (none, { profilerAfter registrations memory with memory := after })

theorem guesses_first_iff (registrations : List RegisteredProfile) (memory : ProfileMemory)
    (filename : Text) (ctx : AvFormatContext) (hasStream : HasStream ctx) :
    ∃ codecs, avProfileGetCodecs ctx = some codecs ∧
      (GuessesFirst registrations memory filename ctx codecs ↔
        ¬ NoneAccepts filename ctx (firstRegistrations registrations) codecs memory) := by
  obtain ⟨codecs, opened⟩ := avProfileGetCodecs_isSome hasStream
  refine ⟨codecs, opened, ?_, ?_⟩
  · rintro guesses ⟨codecs', after, passed⟩
    have answered := guesses.missed codecs' after passed
    rw [profilerAfter_eq, guess_none opened ⟨codecs', after, passed⟩] at answered
    cases answered
  · intro someAccepts
    refine ⟨fun p profile after first => ?_, fun codecs' after passed => ?_⟩
    · rw [profilerAfter_eq]
      exact guess_first opened first
    · exact absurd ⟨codecs', after, passed⟩ someAccepts

theorem song_hasStream (filename iformatName : String) :
    HasStream (soundFile filename iformatName mp3Stream) := ⟨mp3Stream, by simp [soundFile], .inl rfl⟩

def songCodecs : AvCodecs := { audio := some mp3Stream, video := none }

theorem song_firstAccepting :
    FirstAccepting "/a.mp3".toList (soundFile "/a.mp3" "mp3" mp3Stream)
      (firstRegistrations [dlnaProfileAudioLpcm, dlnaProfileAudioMp3, dlnaProfileAudioLpcm])
      songCodecs initialMemory dlnaProfileAudioMp3 (.static AudioMp3.mp3) initialMemory := by
  refine ⟨[dlnaProfileAudioLpcm], [], songCodecs, initialMemory, songCodecs, rfl, ?_, ?_, rfl⟩
  · exact .otherExtension (by decide) (.nil ..)
  · decide

theorem song_guessed :
    ∃ codecs, avProfileGetCodecs (soundFile "/a.mp3" "mp3" mp3Stream) = some codecs ∧
      GuessesFirst [dlnaProfileAudioLpcm, dlnaProfileAudioMp3, dlnaProfileAudioLpcm] initialMemory
        "/a.mp3".toList (soundFile "/a.mp3" "mp3" mp3Stream) codecs := by
  obtain ⟨codecs, opened, guesses⟩ := guesses_first_iff
    [dlnaProfileAudioLpcm, dlnaProfileAudioMp3, dlnaProfileAudioLpcm] initialMemory
    "/a.mp3".toList (soundFile "/a.mp3" "mp3" mp3Stream) (song_hasStream ..)
  obtain rfl : songCodecs = codecs := Option.some.inj opened
  exact ⟨songCodecs, opened, guesses.mpr song_firstAccepting.not_none⟩

theorem renamedSong_not_guessed :
    ¬ ∀ (registrations : List RegisteredProfile) (memory : ProfileMemory) (filename : Text)
        (ctx : AvFormatContext), HasStream ctx →
          ∃ codecs, avProfileGetCodecs ctx = some codecs ∧
            GuessesFirst registrations memory filename ctx codecs := by
  intro guesses
  obtain ⟨codecs, opened, guessed⟩ := guesses [dlnaProfileAudioMp3] initialMemory "/a.ogg".toList
    (soundFile "/a.ogg" "mp3" mp3Stream) (song_hasStream ..)
  have passed : PassedOver "/a.ogg".toList (soundFile "/a.ogg" "mp3" mp3Stream)
      (firstRegistrations [dlnaProfileAudioMp3]) codecs initialMemory codecs initialMemory :=
    .otherExtension (by decide) (.nil ..)
  have answered := guessed.missed codecs initialMemory passed
  rw [profilerAfter_eq, guess_none opened ⟨codecs, initialMemory, passed⟩] at answered
  cases answered

end Libdlna
