import Libdlna.Profiles.Probes
import Libdlna.Shared.Runs
import Libdlna.Store.RoundTrip

set_option autoImplicit false

/-!
# Profiles that are found again

The store keeps the id of a profile. What the profiler finds by that id is the profile that it
gave, unless the profile was made for one file or has its id from another one.
-/

namespace Libdlna

open CString Runs

inductive ProfilerCall where
  | register (family : MediaProfile)
  | guess (file : MediaFile)
  | lookup (profileid : Text)

def ProfilerStep (data : FfmpegProfiler) : ProfilerCall → FfmpegProfiler → Prop
  | .register family, after => after = ffmpegProfilerRegisterMediaProfile data family
  | .guess file, after =>
      ∃ found, ffmpegProfilerGuessMediaProfile data file.filename file.ctx = .ok (found, after)
  | .lookup profileid, after => after = (ffmpegProfilerGetMediaProfile data profileid).2

/-- A media class that has been set is that of the profile's family. -/
def ClassesOfFamilies (memory : ProfileMemory) : Prop :=
  ∀ family, ∀ s ∈ (registeredProfile family).profiles,
    memory.mediaClass s = .unknown ∨
      memory.mediaClass s = (registeredProfile family).mediaClass

structure SoundProfiler (data : FfmpegProfiler) : Prop where
  families : ∃ families : List MediaProfile, data.registered = families.map registeredProfile
  classes : ClassesOfFamilies data.memory

theorem registeredProfile_id (family : MediaProfile) : (registeredProfile family).id = family := by
  cases family <;> rfl

theorem mem_of_registered {families : List MediaProfile} {family : MediaProfile}
    (registered : registeredProfile family ∈ families.map registeredProfile) :
    family ∈ families := by
  obtain ⟨other, member, same⟩ := List.mem_map.mp registered
  have sameId := congrArg RegisteredProfile.id same
  rw [registeredProfile_id, registeredProfile_id] at sameId
  exact sameId ▸ member

section Memory

variable {family : MediaProfile} {ctx : AvFormatContext} {codecs : AvCodecs}
  {memory after : ProfileMemory} {profile : ProfileRef} {s : StaticProfile}

theorem ClassesOfFamilies.set (sound : ClassesOfFamilies memory)
    (listed : s ∈ (registeredProfile family).profiles) :
    ClassesOfFamilies
      (memory.setMediaClass (registeredProfile family).mediaClass (.static s)) := by
  intro other t inOther
  by_cases same : t = s
  · subst same
    obtain rfl := eq_of_same_id inOther listed rfl
    exact .inr (Function.update_self ..)
  · have kept : (memory.setMediaClass (registeredProfile family).mediaClass
        (.static s)).mediaClass t = memory.mediaClass t := Function.update_of_ne same ..
    rw [kept]
    exact sound other t inOther

theorem ClassesOfFamilies.probed (sound : ClassesOfFamilies memory)
    (probed : Probed family ctx codecs memory (some profile) after) :
    ClassesOfFamilies (after.setMediaClass (registeredProfile family).mediaClass profile) := by
  cases probed with
  | listed s other member shadowed => exact sound.set member
  | copied ac isLpcm isAudio found guessed => exact sound

theorem ClassesOfFamilies.setCallbacks (sound : ClassesOfFamilies memory) (profile : ProfileRef) :
    ClassesOfFamilies (memory.setCallbacks profile) := by
  cases profile <;> exact sound

end Memory

theorem probeRegistered_ok {filename : Text} {ctx : AvFormatContext}
    {families : List MediaProfile} {codecs : AvCodecs} {memory after : ProfileMemory}
    {found : Option ProfileRef}
    (ran : probeRegistered filename ctx (families.map registeredProfile) codecs memory =
      .ok (found, after)) :
    (found = none ∧ after = memory) ∨
      ∃ family ∈ families, ∃ codecs' profile between, found = some profile ∧
        Probed family ctx codecs' memory (some profile) between ∧
        after = between.setMediaClass (registeredProfile family).mediaClass profile := by
  induction families generalizing codecs with
  | nil =>
      cases ran
      exact .inl ⟨rfl, rfl⟩
  | cons family rest ih =>
      have later : ∀ {codecs : AvCodecs},
          probeRegistered filename ctx (rest.map registeredProfile) codecs memory =
            .ok (found, after) → _ := fun ran =>
        (ih ran).imp_right fun ⟨other, member, answer⟩ =>
          (⟨other, List.mem_cons_of_mem family member, answer⟩ :
            ∃ other ∈ family :: rest, ∃ codecs' profile between, found = some profile ∧
              Probed other ctx codecs' memory (some profile) between ∧
              after = between.setMediaClass (registeredProfile other).mediaClass profile)
      rw [List.map_cons, probeRegistered] at ran
      split at ran
      · exact later ran
      · obtain ⟨⟨prof, codecs', between⟩, answered, ran⟩ := Outcome.bind_ok.mp ran
        have probed := probe_probed answered
        cases prof with
        | some profile =>
            cases ran
            exact .inr ⟨family, List.mem_cons_self, codecs, profile, between, rfl, probed, rfl⟩
        | none =>
            cases probed
            exact later ran

variable {data after : FfmpegProfiler}

theorem ffmpegProfilerGuess_ok {filename : Text} {ctx : Option AvFormatContext}
    {profile : Option ProfileRef}
    (ran : ffmpegProfilerGuessMediaProfile data filename ctx = .ok (profile, after)) :
    (ctx.bind avProfileGetCodecs = none ∧ profile = none ∧ after = data) ∨
      ∃ opened codecs found memory,
        ctx = some opened ∧ avProfileGetCodecs opened = some codecs ∧
        probeRegistered filename opened data.registered codecs data.memory =
          .ok (some found, memory) ∧
        profile = some found ∧ after = { data with memory := memory.setCallbacks found } := by
  unfold ffmpegProfilerGuessMediaProfile at ran
  split at ran
  · cases ran
    exact .inl ⟨rfl, rfl, rfl⟩
  · rename_i opened
    split at ran
    · rename_i noCodecs
      cases ran
      exact .inl ⟨noCodecs, rfl, rfl⟩
    · rename_i codecs isCodecs
      obtain ⟨⟨answer, memory⟩, probed, ran⟩ := Outcome.bind_ok.mp ran
      cases answer with
      | none => cases ran
      | some found =>
          cases ran
          exact .inr ⟨opened, codecs, found, memory, rfl, isCodecs, probed, rfl, rfl⟩

theorem guess_ok {filename : Text} {ctx : Option AvFormatContext} {profile : Option ProfileRef}
    (sound : SoundProfiler data)
    (ran : ffmpegProfilerGuessMediaProfile data filename ctx = .ok (profile, after)) :
    SoundProfiler after ∧ after.registered = data.registered := by
  rcases ffmpegProfilerGuess_ok ran with ⟨-, -, rfl⟩ | answer
  · exact ⟨sound, rfl⟩
  · obtain ⟨opened, codecs, found, memory, -, -, probed, -, rfl⟩ := answer
    obtain ⟨families, isFamilies⟩ := sound.families
    rw [isFamilies] at probed
    refine ⟨⟨sound.families, ?_⟩, rfl⟩
    rcases probeRegistered_ok probed with ⟨isNone, -⟩ | answer
    · cases isNone
    · obtain ⟨family, -, codecs, other, between, -, answered, rfl⟩ := answer
      exact (sound.classes.probed answered).setCallbacks found

theorem findProfile_family {families : List MediaProfile} {profileid : Text}
    {p : RegisteredProfile} {s : StaticProfile}
    (found : findProfile (families.map registeredProfile) profileid = some (p, s)) :
    ∃ family ∈ families, p = registeredProfile family ∧ s ∈ p.profiles := by
  obtain ⟨registered, member, inTable⟩ := List.exists_of_findSome?_eq_some found
  obtain ⟨family, isFamily, rfl⟩ := List.mem_map.mp member
  obtain ⟨t, hit, same⟩ := Option.map_eq_some_iff.mp inTable
  obtain ⟨rfl, rfl⟩ := Prod.mk.inj same
  exact ⟨family, isFamily, rfl, List.mem_of_find?_eq_some hit⟩

theorem lookup_sound {profileid : Text} (sound : SoundProfiler data) :
    SoundProfiler (ffmpegProfilerGetMediaProfile data profileid).2 ∧
      (ffmpegProfilerGetMediaProfile data profileid).2.registered = data.registered := by
  unfold ffmpegProfilerGetMediaProfile
  split
  · exact ⟨sound, rfl⟩
  · rename_i p s found
    dsimp only
    split
    · obtain ⟨families, isFamilies⟩ := sound.families
      rw [isFamilies] at found
      obtain ⟨family, -, rfl, listed⟩ := findProfile_family found
      exact ⟨⟨⟨families, isFamilies⟩, sound.classes.set listed⟩, rfl⟩
    · exact ⟨sound, rfl⟩

theorem register_sound (family : MediaProfile) (sound : SoundProfiler data) :
    SoundProfiler (ffmpegProfilerRegisterMediaProfile data family) ∧
      data.registered ⊆ (ffmpegProfilerRegisterMediaProfile data family).registered := by
  unfold ffmpegProfilerRegisterMediaProfile registerProfile
  split
  · exact ⟨sound, List.Subset.refl _⟩
  · obtain ⟨families, isFamilies⟩ := sound.families
    refine ⟨⟨⟨families ++ [family], ?_⟩, sound.classes⟩, List.subset_append_left ..⟩
    rw [List.map_append, ← isFamilies]
    rfl

theorem profilerStep_sound {call : ProfilerCall} (sound : SoundProfiler data)
    (step : ProfilerStep data call after) :
    SoundProfiler after ∧ data.registered ⊆ after.registered := by
  cases call with
  | register family =>
      subst step
      exact register_sound family sound
  | guess file =>
      obtain ⟨found, ran⟩ := step
      obtain ⟨soundAfter, same⟩ := guess_ok sound ran
      exact ⟨soundAfter, same ▸ List.Subset.refl _⟩
  | lookup profileid =>
      subst step
      obtain ⟨soundAfter, same⟩ := lookup_sound sound
      exact ⟨soundAfter, same ▸ List.Subset.refl _⟩

theorem reaches_sound {calls : List ProfilerCall} (sound : SoundProfiler data)
    (reached : Reaches ProfilerStep data calls after) :
    SoundProfiler after ∧ data.registered ⊆ after.registered := by
  have initial : SoundProfiler data ∧ data.registered ⊆ data.registered :=
    ⟨sound, List.Subset.refl _⟩
  have preserved (s : FfmpegProfiler) (call : ProfilerCall) (t : FfmpegProfiler)
      (known : SoundProfiler s ∧ data.registered ⊆ s.registered) (step : ProfilerStep s call t) :
      SoundProfiler t ∧ data.registered ⊆ t.registered := by
    obtain ⟨soundAfter, more⟩ := profilerStep_sound known.1 step
    exact ⟨soundAfter, List.Subset.trans known.2 more⟩
  exact Reaches.invariant preserved initial reached

theorem SoundProfiler.probed {family : MediaProfile} {ctx : AvFormatContext} {codecs : AvCodecs}
    {memory : ProfileMemory} {profile : ProfileRef} (sound : SoundProfiler data)
    (probed : Probed family ctx codecs data.memory (some profile) memory) :
    SoundProfiler { data with
      memory := memory.setMediaClass (registeredProfile family).mediaClass profile } where
  families := sound.families
  classes := sound.classes.probed probed

theorem ffmpegProfilerInit_sound : SoundProfiler ffmpegProfilerInit where
  families := ⟨[], rfl⟩
  classes := fun _ _ _ => .inl rfl

def storedProfileId (profile : DlnaProfile) : Text :=
  (profile.id.map Subtype.val).getD "(NULL)".toList

/-- Where a profile comes from: a family's probe, whose answer the profiler then puts into the
family's class, or the profiler that goes by extensions. -/
inductive Origin where
  | probed (family : MediaProfile) (ctx : AvFormatContext) (codecs : AvCodecs)
  | extension (filename : Text)

namespace Origin

def profiler : Origin → DlnaProfiler
  | probed .. => .ffmpeg
  | extension _ => .upnpav

def Yields (data : FfmpegProfiler) (profile : ProfileRef) (after : FfmpegProfiler) : Origin → Prop
  | probed family ctx codecs =>
      registeredProfile family ∈ data.registered ∧
        ∃ codecs' memory,
          (registeredProfile family).probe ctx codecs data.memory =
            .ok (some profile, codecs', memory) ∧
          after = { data with memory :=
            memory.setMediaClass (registeredProfile family).mediaClass profile }
  | extension filename =>
      ∃ entry, upnpGuessMediaProfile filename = some entry ∧ profile = .listed entry ∧ after = data

/-- The profile is one of a table, and the first one there with its id. -/
def Restorable : Origin → Prop
  | probed family ctx codecs => family ≠ .audioLpcm ∧ ¬ IsAmrIn3gp family ctx codecs
  | extension _ => False

end Origin

/-- What the profiler finds by the stored id is as good as the profile. -/
def FoundAgain (profiler : DlnaProfiler) (data : FfmpegProfiler) (profileid : Text)
    (profile : DlnaProfile) : Prop :=
  ∃ found after, dlnaGetMediaProfile profiler data profileid = (some found, after) ∧
    (after.memory.get found).id = profile.id ∧ (after.memory.get found).mime = profile.mime ∧
      (after.memory.get found).mediaClass = profile.mediaClass

theorem upnpGuessMediaProfile_id {filename : Text} {entry : DlnaProfile}
    (guessed : upnpGuessMediaProfile filename = some entry) : entry.id = none := by
  unfold upnpGuessMediaProfile at guessed
  split at guessed
  · cases guessed
  · obtain ⟨row, last, rfl⟩ := Option.map_eq_some_iff.mp guessed
    have member := List.mem_of_mem_filter (List.mem_of_mem_getLast? last)
    have nameless : ∀ row ∈ mimeTypeList, row.profile.id = none := by decide
    exact nameless row member

theorem upnp_not_foundAgain {data : FfmpegProfiler} {profile : DlnaProfile}
    (nameless : profile.id = none) :
    ¬ FoundAgain .upnpav data (storedProfileId profile) profile := by
  rintro ⟨found, after, lookup, -⟩
  have absent : upnpGetMediaProfile "(NULL)".toList = none := by decide +kernel
  have stored : storedProfileId profile = "(NULL)".toList := by rw [storedProfileId, nameless]; rfl
  rw [stored, dlnaGetMediaProfile, absent] at lookup
  cases lookup

section Ffmpeg

variable {family : MediaProfile} {s t : StaticProfile} {profile : DlnaProfile}

theorem lookup_listed (sound : SoundProfiler data)
    (registered : registeredProfile family ∈ data.registered)
    (listed : s ∈ (registeredProfile family).profiles) (plain : s ∉ shadowedProfiles) :
    ∃ after, ffmpegProfilerGetMediaProfile data s.id.val = (some (.static s), after) ∧
      (after.memory.get (.static s)).mediaClass = (registeredProfile family).mediaClass := by
  obtain ⟨families, isFamilies⟩ := sound.families
  rw [isFamilies] at registered
  have found := findProfile_listed (mem_of_registered registered) listed plain
  rw [← isFamilies] at found
  refine ⟨_, by rw [ffmpegProfilerGetMediaProfile, found], ?_⟩
  split
  · exact Function.update_self ..
  · rename_i isSet
    exact (sound.classes family s listed).resolve_left isSet

theorem foundAgain_iff_mime (sound : SoundProfiler data)
    (registered : registeredProfile family ∈ data.registered)
    (listed : s ∈ (registeredProfile family).profiles) (plain : s ∉ shadowedProfiles)
    (isId : profile.id = some s.id)
    (isClass : profile.mediaClass = (registeredProfile family).mediaClass) :
    FoundAgain .ffmpeg data (storedProfileId profile) profile ↔ profile.mime = s.mime := by
  obtain ⟨after, lookup, sameClass⟩ := lookup_listed sound registered listed plain
  have stored : storedProfileId profile = s.id.val := by rw [storedProfileId, isId]; rfl
  constructor
  · rintro ⟨found, other, lookup', -, sameMime, -⟩
    rw [stored, dlnaGetMediaProfile, lookup] at lookup'
    obtain ⟨isFound, rfl⟩ := Prod.mk.inj lookup'
    obtain rfl := Option.some.inj isFound
    exact sameMime.symm
  · intro sameMime
    refine ⟨.static s, after, ?_, isId.symm, sameMime.symm, sameClass.trans isClass.symm⟩
    rw [stored, dlnaGetMediaProfile, lookup]

end Ffmpeg

section Probed

variable {family : MediaProfile} {ctx : AvFormatContext} {codecs : AvCodecs}
  {profile : ProfileRef} {memory before : ProfileMemory} {later : FfmpegProfiler}

theorem probed_foundAgain_iff {held : DlnaProfile} (sound : SoundProfiler later)
    (registered : registeredProfile family ∈ later.registered)
    (probed : Probed family ctx codecs before (some profile) memory)
    (isHeld : held =
      (memory.setMediaClass (registeredProfile family).mediaClass profile).get profile) :
    FoundAgain .ffmpeg later (storedProfileId held) held ↔
      (Origin.probed family ctx codecs).Restorable := by
  subst isHeld
  cases probed with
  | listed s other member shadowed =>
      have isClass : ((memory.setMediaClass (registeredProfile family).mediaClass
          (.static s)).get (.static s)).mediaClass = (registeredProfile family).mediaClass :=
        Function.update_self ..
      by_cases plain : s ∈ shadowedProfiles
      · have amr := shadowed.mp plain
        obtain rfl := amr.1
        obtain rfl := shadowed_amr member plain
        have first : AudioAmr.amr ∈ (registeredProfile .audioAmr).profiles := List.mem_cons_self
        rw [foundAgain_iff_mime sound registered first amr_plain rfl isClass]
        have mimesDiffer : AudioAmr.threeGpp.mime ≠ AudioAmr.amr.mime := by decide
        exact iff_of_false mimesDiffer fun restorable => restorable.2 amr
      · rw [foundAgain_iff_mime sound registered member plain rfl isClass]
        exact iff_of_true rfl ⟨other, fun amr => plain (shadowed.mpr amr)⟩
  | copied ac isLpcm isAudio found guessed =>
      subst isLpcm
      have listed : (if ac.sampleRate ≤ 32000 then AudioLpcm.lpcmLow else AudioLpcm.lpcm) ∈
          (registeredProfile .audioLpcm).profiles := by
        split <;> simp [registeredProfile, dlnaProfileAudioLpcm]
      rw [foundAgain_iff_mime sound registered listed lpcm_plain rfl rfl]
      refine iff_of_false (fun sameMime => ?_) fun restorable => restorable.1 rfl
      -- the tables have no MIME type for LPCM
      split at sameMime <;> cases sameMime

end Probed

theorem profile_foundAgain_iff {earlier calls : List ProfilerCall} {later : FfmpegProfiler}
    {origin : Origin} {profile : ProfileRef} {db stored : Store} {id : UInt32} {item : DlnaItem}
    {row : ItemRow} (started : Reaches ProfilerStep ffmpegProfilerInit earlier data)
    (yields : origin.Yields data profile after)
    (profiled : item.profile = some (after.memory.get profile))
    (written : dmsDbAdd db id (some item) = .ok (stored, 0))
    (isRow : stored.items id.toNat = some row)
    (further : Reaches ProfilerStep after calls later) :
    FoundAgain origin.profiler later row.profileid (after.memory.get profile) ↔
      origin.Restorable := by
  obtain rfl := Option.some.inj (isRow.symm.trans (dmsDbAdd_row profiled written))
  have isId : (itemRow item (after.memory.get profile)).profileid =
      storedProfileId (after.memory.get profile) := rfl
  rw [isId]
  cases origin with
  | extension filename =>
      obtain ⟨entry, guessed, rfl, rfl⟩ := yields
      exact iff_of_false (upnp_not_foundAgain (upnpGuessMediaProfile_id guessed)) not_false
  | probed family ctx codecs =>
      obtain ⟨registered, codecs', memory, ran, rfl⟩ := yields
      have sound : SoundProfiler data := (reaches_sound ffmpegProfilerInit_sound started).1
      have probed := probe_probed ran
      obtain ⟨soundLater, more⟩ := reaches_sound (sound.probed probed) further
      exact probed_foundAgain_iff soundLater (more registered) probed rfl

def soundStream (codecId : CodecId) (bitRate sampleRate channels : Int32) : AvStream where
  codec := { codecType := .audio, codecId, width := 0, height := 0, bitRate, sampleRate, channels,
             extradata := none }
  rFrameRate := ⟨0, 1⟩

def soundFile (filename iformatName : String) (stream : AvStream) : AvFormatContext where
  filename := filename.toList
  file := { contents := [], stale := fun _ => 0 }
  iformatName := iformatName.toList
  streams := [stream]
  bitRate := stream.codec.bitRate

def soundOrigin (family : MediaProfile) (filename iformatName : String) (stream : AvStream) :
    Origin :=
  .probed family (soundFile filename iformatName stream) { audio := some stream, video := none }

def itemOf (profile : DlnaProfile) : DlnaItem where
  filename := "/a".toList
  filesize := 1000
  properties := none
  metadata := none
  profile := some profile
  profileCookie := true

def mp3Stream : AvStream := soundStream .mp3 128000 44100 2
def cdStream : AvStream := soundStream .pcmS16le 1411200 44100 2

def profilerOf (family : MediaProfile) : FfmpegProfiler :=
  ffmpegProfilerRegisterMediaProfile ffmpegProfilerInit family

theorem profilerOf_reached (family : MediaProfile) :
    Reaches ProfilerStep ffmpegProfilerInit [.register family] (profilerOf family) := ⟨_, rfl, rfl⟩

theorem registered_profilerOf (family : MediaProfile) :
    registeredProfile family ∈ (profilerOf family).registered := List.mem_singleton_self _

theorem itemOf_stored (profile : DlnaProfile) :
    ∃ stored row, dmsDbAdd emptyStore 1 (some (itemOf profile)) = .ok (stored, 0) ∧
      stored.items (1 : UInt32).toNat = some row ∧ row.profileid = storedProfileId profile := by
  have written := dmsDbAdd_bare (emptyStore_fresh 1) (show (itemOf profile).profile = _ from rfl) rfl
  exact ⟨_, itemRow (itemOf profile) profile, written, dmsDbAdd_row rfl written, rfl⟩

theorem song_foundAgain :
    ∃ after row, (soundOrigin .audioMp3 "/a.mp3" "mp3" mp3Stream).Yields (profilerOf .audioMp3)
      (.static AudioMp3.mp3) after ∧
        FoundAgain .ffmpeg after row (after.memory.get (.static AudioMp3.mp3)) := by
  have yields : ∃ after, (soundOrigin .audioMp3 "/a.mp3" "mp3" mp3Stream).Yields
      (profilerOf .audioMp3) (.static AudioMp3.mp3) after :=
    ⟨_, registered_profilerOf .audioMp3, _, _, rfl, rfl⟩
  obtain ⟨after, yields⟩ := yields
  obtain ⟨stored, row, written, isRow, -⟩ :=
    itemOf_stored (after.memory.get (.static AudioMp3.mp3))
  have restorable : (soundOrigin .audioMp3 "/a.mp3" "mp3" mp3Stream).Restorable :=
    ⟨nofun, fun amr => nomatch amr.1⟩
  have further : Reaches ProfilerStep after [] after := rfl
  refine ⟨after, row.profileid, yields, ?_⟩
  exact (profile_foundAgain_iff (profilerOf_reached .audioMp3) yields rfl written isRow
    further).mpr restorable

/-- The family's table has the id without a MIME type. -/
theorem cdTrack_lost :
    ∃ after stored row,
      (soundOrigin .audioLpcm "/a.wav" "wav" cdStream).Yields (profilerOf .audioLpcm) .lpcmCopy
        after ∧
      dmsDbAdd emptyStore 1 (some (itemOf (after.memory.get .lpcmCopy))) = .ok (stored, 0) ∧
      stored.items (1 : UInt32).toNat = some row ∧
      ¬ FoundAgain .ffmpeg after row.profileid (after.memory.get .lpcmCopy) := by
  obtain ⟨codecs, memory, ran⟩ : ∃ codecs memory,
      (registeredProfile .audioLpcm).probe (soundFile "/a.wav" "wav" cdStream)
        { audio := some cdStream, video := none } (profilerOf .audioLpcm).memory =
          .ok (some .lpcmCopy, codecs, memory) := ⟨_, _, rfl⟩
  have registered := registered_profilerOf .audioLpcm
  have sound : SoundProfiler (profilerOf .audioLpcm) :=
    (register_sound .audioLpcm ffmpegProfilerInit_sound).1
  have probed := probe_probed ran
  obtain ⟨stored, row, written, isRow, isId⟩ := itemOf_stored
    ((memory.setMediaClass (registeredProfile .audioLpcm).mediaClass .lpcmCopy).get .lpcmCopy)
  refine ⟨_, stored, row, ⟨registered, codecs, memory, ran, rfl⟩, written, isRow, ?_⟩
  rw [isId]
  exact fun again =>
    ((probed_foundAgain_iff (sound.probed probed) registered probed rfl).mp again).1 rfl

end Libdlna
