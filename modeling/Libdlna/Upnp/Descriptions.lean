import Libdlna.Upnp.Responses

set_option autoImplicit false

/-!
# Responses and descriptions

Tables advertise what their callbacks answer, each kept by hand. They agree for most actions; for
the others it depends on the profiler or on the player, or they never do.
-/

namespace Libdlna

open CString ActionEvent

variable {ev after : ActionEvent} {names : List Text} {name : Text} {args : List ServiceArg}

def addedNames (ev after : ActionEvent) : List Text :=
  (after.response.drop ev.response.length).map Prod.fst

/-- The arguments that have been added are the advertised ones, each once. -/
def MatchesDescription (action : ServiceAction Handler) (ev after : ActionEvent) : Prop :=
  (addedNames ev after).Nodup ∧ (addedNames ev after).Perm action.outputs

instance (action : ServiceAction Handler) (ev after : ActionEvent) :
    Decidable (MatchesDescription action ev after) :=
  inferInstanceAs (Decidable (_ ∧ _))

def HasNext (c : Controller) (ev : ActionEvent) : Prop :=
  ∃ dmp item, c.players (toUInt32 (ev.argUi4 avtsArgInstanceId)) = some dmp ∧
    dmp.current = some item ∧ (dmp.following item).isSome

def conditioned : List Text :=
  ["GetSystemUpdateID".toList, "GetPositionInfo".toList, "GetProtocolInfo".toList,
    "GetCurrentConnectionInfo".toList, "GetMediaInfo".toList, "GetMediaInfo_Ext".toList]

def Complete (name : Text) (c : Controller) (ev : ActionEvent) : Prop :=
  name ≠ "GetSystemUpdateID".toList ∧ name ≠ "GetPositionInfo".toList ∧
    (name = "GetProtocolInfo".toList → c.supported ≠ []) ∧
    (name = "GetCurrentConnectionInfo".toList →
      (dlnaGetSupportedMimeTypes c.supported).length = 1) ∧
    (name = "GetMediaInfo".toList ∨ name = "GetMediaInfo_Ext".toList → HasNext c ev)

theorem complete_of_not_conditioned (other : name ∉ conditioned) (c : Controller)
    (ev : ActionEvent) : Complete name c ev := by
  simp only [conditioned, List.mem_cons, List.not_mem_nil, or_false, not_or] at other
  obtain ⟨updateID, position, protocol, connection, media, mediaExt⟩ := other
  exact ⟨updateID, position, fun same => absurd same protocol, fun same => absurd same connection,
    fun same => (same.elim media mediaExt).elim⟩

theorem matchesDescription_of_answers {action : ServiceAction Handler}
    (answers : Answers ev after names) :
    MatchesDescription action ev after ↔ names.Nodup ∧ names.Perm action.outputs := by
  rw [MatchesDescription, addedNames, answers.added]

/-- What a row of a table says of its callback holds exactly in the states that allow it. -/
def RowMatches (action : ServiceAction Handler) : Prop :=
  ∀ handler, action.cb = some handler → ∀ c ev after, handler c ev = .ok (true, after) →
    (MatchesDescription action ev after ↔ Complete action.name c ev)

theorem rowMatches_unimplemented : RowMatches ⟨name, args, none⟩ := by
  intro handler implemented
  cases implemented

theorem rowMatches_of {handler : Handler}
    (row : ∀ c ev after, handler c ev = .ok (true, after) →
      (MatchesDescription ⟨name, args, some handler⟩ ev after ↔ Complete name c ev)) :
    RowMatches ⟨name, args, some handler⟩ := by
  rintro handler' ⟨⟩
  exact row

theorem rowMatches_always {handler : Handler} (other : name ∉ conditioned)
    (outputs : ServiceAction.outputs ⟨name, args, some handler⟩ = names) (distinct : names.Nodup)
    (answers : ∀ c ev after, handler c ev = .ok (true, after) → Answers ev after names) :
    RowMatches ⟨name, args, some handler⟩ := by
  refine rowMatches_of fun c ev after answered => ?_
  rw [matchesDescription_of_answers (answers c ev after answered), outputs]
  exact iff_of_true ⟨distinct, .refl _⟩ (complete_of_not_conditioned other c ev)

theorem cmsGetProtocolInfo_row :
    RowMatches ⟨"GetProtocolInfo".toList,
      [argOut "Source" "SourceProtocolInfo", argOut "Sink" "SinkProtocolInfo"],
      some fun c => cmsGetProtocolInfo c.supported⟩ := by
  refine rowMatches_of fun c ev after answered => ?_
  rw [matchesDescription_of_answers (cmsGetProtocolInfo_answers answered)]
  have condition : Complete "GetProtocolInfo".toList c ev ↔ c.supported ≠ [] := by
    refine ⟨fun complete => complete.2.2.1 rfl, fun some => ⟨by decide, by decide, fun _ => some,
      fun same => absurd same (by decide), fun same => absurd same (by decide)⟩⟩
  rw [condition]
  by_cases none : c.supported = []
  · rw [if_pos none]
    exact iff_of_false (fun matched => absurd matched.2.length_eq (by decide)) (not_not.mpr none)
  · rw [if_neg none]
    exact iff_of_true ⟨by decide, .refl _⟩ none

theorem replicate_between_perm_iff {A : Type} [DecidableEq A] (front back : List A) (a : A)
    (n : Nat) : (front ++ List.replicate n a ++ back).Perm (front ++ [a] ++ back) ↔ n = 1 := by
  constructor
  · intro permuted
    have lengths := permuted.length_eq
    simp only [List.length_append, List.length_replicate, List.length_singleton] at lengths
    omega
  · rintro rfl
    exact .refl _

theorem cmsGetCurrentConnectionInfo_row :
    RowMatches ⟨"GetCurrentConnectionInfo".toList,
      [argOut "ConnectionID" "A_ARG_TYPE_ConnectionID", argOut "RcsID" "A_ARG_TYPE_RcsID",
        argOut "AVTransportID" "A_ARG_TYPE_AVTransportID",
        argOut "ProtocolInfo" "A_ARG_TYPE_ProtocolInfo",
        argOut "PeerConnectionManager" "A_ARG_TYPE_ConnectionManager",
        argOut "PeerConnectionID" "A_ARG_TYPE_ConnectionID",
        argOut "Direction" "A_ARG_TYPE_Direction", argOut "Status" "A_ARG_TYPE_ConnectionStatus"],
      some fun c => cmsGetCurrentConnectionInfo c.supported⟩ := by
  refine rowMatches_of fun c ev after answered => ?_
  rw [matchesDescription_of_answers (cmsGetCurrentConnectionInfo_answers answered)]
  have condition : Complete "GetCurrentConnectionInfo".toList c ev ↔
      (dlnaGetSupportedMimeTypes c.supported).length = 1 := by
    refine ⟨fun complete => complete.2.2.2.1 rfl, fun one => ⟨by decide, by decide,
      fun same => absurd same (by decide), fun _ => one, fun same => absurd same (by decide)⟩⟩
  rw [condition]
  generalize (dlnaGetSupportedMimeTypes c.supported).length = count
  constructor
  · exact fun matched => (replicate_between_perm_iff _ _ _ _).mp matched.2
  · rintro rfl
    exact ⟨by decide, .refl _⟩

theorem cms_rows : ∀ action ∈ cmsServiceActions, RowMatches action := by
  simp only [cmsServiceActions, List.forall_mem_cons]
  refine ⟨cmsGetProtocolInfo_row, rowMatches_unimplemented, rowMatches_unimplemented, ?_,
    cmsGetCurrentConnectionInfo_row, by simp⟩
  exact rowMatches_always (by decide) rfl (by decide)
    fun c ev after => cmsGetCurrentConnectionIds_answers

theorem cdsGetSystemUpdateId_row :
    RowMatches ⟨"GetSystemUpdateID".toList, [argOut "Id" "SystemUpdateID"],
      some fun c => cdsGetSystemUpdateId c.dlna⟩ := by
  refine rowMatches_of fun c ev after answered => ?_
  rw [matchesDescription_of_answers (cdsGetSystemUpdateId_answers answered)]
  refine iff_of_false (fun matched => ?_) (fun complete => complete.1 rfl)
  have member : cdsDidlUpdateId ∈ ["Id".toList] := matched.2.mem_iff.mp (by simp)
  exact absurd member (by decide)

theorem cds_rows (stack : VfsItem → Text → Text) (fuel : Nat) :
    ∀ action ∈ cdsServiceActions stack fuel, RowMatches action := by
  have distinct :
      [cdsDidlResult, cdsDidlNumReturned, cdsDidlTotalMatch, cdsDidlUpdateId].Nodup := by
    decide
  have browse : RowMatches ⟨"Browse".toList,
      [argIn "ObjectID" "A_ARG_TYPE_ObjectID", argIn "BrowseFlag" "A_ARG_TYPE_BrowseFlag"] ++
        cdsListingArgs, some fun c => cdsBrowse c.dlna⟩ :=
    rowMatches_always (by decide) rfl distinct fun c ev after => cdsBrowse_answers
  have search : RowMatches ⟨"Search".toList,
      [argIn "ContainerID" "A_ARG_TYPE_ObjectID",
        argIn "SearchCriteria" "A_ARG_TYPE_SearchCriteria"] ++ cdsListingArgs,
      some fun c => cdsSearch c.dlna stack fuel⟩ :=
    rowMatches_always (by decide) rfl distinct fun c ev after => cdsSearch_answers
  simp only [cdsServiceActions, List.forall_mem_cons, rowMatches_unimplemented, true_and]
  refine ⟨?_, ?_, cdsGetSystemUpdateId_row, browse, search, by simp⟩
  · exact rowMatches_always (by decide) rfl (by decide)
      fun c ev after => cdsGetSearchCapabilities_answers
  · exact rowMatches_always (by decide) rfl (by decide)
      fun c ev after => cdsGetSortCapabilities_answers

theorem nextArgs_perm_iff (front back : List Text) (next : Option DmpItem) :
    (front ++ nextArgs next ++ back).Perm
        (front ++ [avtsArgNextUri, avtsArgNextUriMetadata] ++ back) ↔ next.isSome := by
  cases next with
  | some item => exact iff_of_true (.refl _) rfl
  | none =>
      refine iff_of_false (fun permuted => ?_) (by simp)
      have lengths := permuted.length_eq
      simp only [nextArgs, List.length_append, List.length_cons, List.length_nil] at lengths
      simp at lengths

theorem hasNext_iff {c : Controller} {dmp : Dmp} {item : DmpItem}
    (named : c.players (toUInt32 (ev.argUi4 avtsArgInstanceId)) = some dmp)
    (isCurrent : dmp.current = some item) : HasNext c ev ↔ (dmp.following item).isSome := by
  constructor
  · rintro ⟨dmp', item', named', isCurrent', next⟩
    obtain rfl := Option.some.inj (named.symm.trans named')
    obtain rfl := Option.some.inj (isCurrent.symm.trans isCurrent')
    exact next
  · exact fun next => ⟨dmp, item, named, isCurrent, next⟩

theorem mediaInfo_row {handler : Handler} {front : List Text}
    (isMedia : name = "GetMediaInfo".toList ∨ name = "GetMediaInfo_Ext".toList)
    (outputs : ServiceAction.outputs ⟨name, args, some handler⟩ =
      front ++ [avtsArgNextUri, avtsArgNextUriMetadata] ++
        [avtsArgPlayMedium, avtsArgRecMedium, avtsArgWriteStatus])
    (distinct : (front ++ [avtsArgNextUri, avtsArgNextUriMetadata] ++
      [avtsArgPlayMedium, avtsArgRecMedium, avtsArgWriteStatus]).Nodup)
    (answers : ∀ c ev after, handler c ev = .ok (true, after) → ∃ dmp item,
      c.players (toUInt32 (ev.argUi4 avtsArgInstanceId)) = some dmp ∧ dmp.current = some item ∧
        Answers ev after (front ++ nextArgs (dmp.following item) ++
          [avtsArgPlayMedium, avtsArgRecMedium, avtsArgWriteStatus])) :
    RowMatches ⟨name, args, some handler⟩ := by
  refine rowMatches_of fun c ev after answered => ?_
  obtain ⟨dmp, item, named, isCurrent, given⟩ := answers c ev after answered
  have condition : Complete name c ev ↔ HasNext c ev := by
    refine ⟨fun complete => complete.2.2.2.2 isMedia, fun next => ?_⟩
    rcases isMedia with rfl | rfl
    · exact ⟨by decide, by decide, fun same => absurd same (by decide),
        fun same => absurd same (by decide), fun _ => next⟩
    · exact ⟨by decide, by decide, fun same => absurd same (by decide),
        fun same => absurd same (by decide), fun _ => next⟩
  rw [condition, hasNext_iff named isCurrent, matchesDescription_of_answers given, outputs,
    nextArgs_perm_iff]
  refine ⟨And.right, fun next => ⟨?_, next⟩⟩
  rwa [nextArgs, if_pos next]

theorem avtsGetPosInfo_row (args : List ServiceArg) :
    RowMatches ⟨"GetPositionInfo".toList, args, some fun c => avtsGetPosInfo c.players⟩ := by
  refine rowMatches_of fun c ev after answered => ?_
  obtain ⟨rest, answers⟩ := avtsGetPosInfo_answers answered
  rw [matchesDescription_of_answers answers]
  exact iff_of_false (fun matched => by simpa using matched.1) (fun complete => complete.2.1 rfl)

theorem avts_rows : ∀ action ∈ avtsServiceActions, RowMatches action := by
  simp only [avtsServiceActions, List.forall_mem_cons, rowMatches_unimplemented, true_and]
  refine ⟨?setUri, ?setNextUri, ?minfo, ?minfoExt, ?info, avtsGetPosInfo_row _, ?devCaps,
    ?settings, ?stop, ?play, ?pause, ?next, ?previous, by simp⟩
  case setUri =>
    exact rowMatches_always (by decide) rfl .nil fun c ev after => avtsSetUriAnswer_answers
  case setNextUri =>
    exact rowMatches_always (by decide) rfl .nil fun c ev after => avtsSetNextUriAnswer_answers
  case minfo =>
    exact mediaInfo_row (.inl rfl) rfl (by decide) fun c ev after => avtsGetMinfo_answers
  case minfoExt =>
    exact mediaInfo_row (.inr rfl) rfl (by decide) fun c ev after => avtsGetMinfoExt_answers
  case info =>
    exact rowMatches_always (by decide) rfl (by decide) fun c ev after => avtsGetInfo_answers
  case devCaps =>
    exact rowMatches_always (by decide) rfl (by decide) fun c ev after => avtsGetDevCaps_answers
  case settings =>
    exact rowMatches_always (by decide) rfl (by decide) fun c ev after => avtsGetSettings_answers
  case play =>
    exact rowMatches_always (by decide) rfl .nil fun c ev after => avtsPlay_answers
  all_goals
    exact rowMatches_always (by decide) rfl .nil fun c ev after => avtsAnswer_nothing

theorem responses_match_iff {stack : VfsItem → Text → Text} {fuel : Nat}
    {action : ServiceAction Handler} {handler : Handler} {c : Controller}
    (listed : action ∈ cmsServiceActions ++ cdsServiceActions stack fuel ++ avtsServiceActions)
    (implemented : action.cb = some handler) (answered : handler c ev = .ok (true, after)) :
    MatchesDescription action ev after ↔ Complete action.name c ev := by
  have row : RowMatches action := by
    rcases List.mem_append.mp listed with inFirst | inAvts
    · rcases List.mem_append.mp inFirst with inCms | inCds
      · exact cms_rows action inCms
      · exact cds_rows stack fuel action inCds
    · exact avts_rows action inAvts
  exact row handler implemented c ev after answered

def bareRequest : ActionEvent where
  status := true
  args := []
  errCode := 0
  response := []
  log := []

def firstOfTwo : Option Dmp :=
  (dlnaItemNew "/a.mp3".toList mp3Probe).map fun item =>
    { items := [⟨1, item, some 1⟩, ⟨2, item, none⟩]
      playlist := [0, 1]
      currentItem := some 0
      state := .playing
      playthread := .loop
      joining := 0 }

theorem systemUpdateID_unmatched :
    ∃ action handler after, action ∈ cmsServiceActions ++ cdsServiceActions (fun _ _ => []) 0 ++
        avtsServiceActions ∧ action.cb = some handler ∧
      handler ⟨justStarted, [], fun _ => none⟩ bareRequest = .ok (true, after) ∧
      ¬ MatchesDescription action bareRequest after := by
  refine ⟨⟨"GetSystemUpdateID".toList, [argOut "Id" "SystemUpdateID"],
    some fun c => cdsGetSystemUpdateId c.dlna⟩, _, _, ?_, rfl, rfl, ?_⟩
  · simp [cdsServiceActions]
  · decide

theorem mediaInfo_matched :
    ∃ after, avtsGetMinfo (fun _ => firstOfTwo) bareRequest = .ok (true, after) ∧
      MatchesDescription ⟨"GetMediaInfo".toList, avtsActionArgInstanceId ::
        avtsActionGetMediaInfoArgs, some fun c => avtsGetMinfo c.players⟩ bareRequest after := by
  obtain ⟨after, answered⟩ : ∃ after,
      avtsGetMinfo (fun _ => firstOfTwo) bareRequest = .ok (true, after) := ⟨_, rfl⟩
  have listed : (⟨"GetMediaInfo".toList, avtsActionArgInstanceId :: avtsActionGetMediaInfoArgs,
      some fun c => avtsGetMinfo c.players⟩ : ServiceAction Handler) ∈
        cmsServiceActions ++ cdsServiceActions (fun _ _ => []) 0 ++ avtsServiceActions := by
    simp [avtsServiceActions]
  refine ⟨after, answered, ?_⟩
  refine (responses_match_iff (c := ⟨justStarted, [], fun _ => firstOfTwo⟩) listed rfl
    answered).mpr ⟨by decide, by decide, fun same => absurd same (by decide),
      fun same => absurd same (by decide), fun _ => ?_⟩
  exact ⟨_, _, rfl, rfl, rfl⟩

end Libdlna
