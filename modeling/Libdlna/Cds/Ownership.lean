import Libdlna.Cds.Search
import Libdlna.Shared.Lifecycle

set_option autoImplicit false

/-!
# What a request acquires

Browse frees its flag and its filter as soon as they have been used, and again at the label for all
failures, which is reached after that when nothing can be listed. Search frees at the end only.
-/

namespace Libdlna

open CString Lifecycle

variable {d : Dlna} {ev now after : ActionEvent} {held : List Nat} {h : Nat}

def Tracks (ev now : ActionEvent) (held : List Nat) : Prop :=
  ∃ steps, now.log = ev.log ++ steps ∧ Holding steps held ∧
    ∀ step ∈ steps, step.handle < now.log.length

/-- All that has been acquired since `ev` has been released once, and is not used after that. -/
def ReleasedOnce (ev after : ActionEvent) : Prop :=
  ∃ steps, after.log = ev.log ++ steps ∧ Balanced steps

theorem tracks_self (ev : ActionEvent) : Tracks ev ev [] :=
  ⟨[], by simp, holding_nil, fun _ member => absurd member List.not_mem_nil⟩

theorem Tracks.releasedOnce (tracks : Tracks ev after []) : ReleasedOnce ev after := by
  obtain ⟨steps, isLog, holding, -⟩ := tracks
  exact ⟨steps, isLog, holding.balanced⟩

theorem Tracks.nodup (tracks : Tracks ev now held) : held.Nodup := by
  obtain ⟨steps, -, holding, -⟩ := tracks
  exact holding.nodup

theorem Tracks.congr (tracks : Tracks ev now held) (same : after.log = now.log) :
    Tracks ev after held := by
  unfold Tracks
  rw [same]
  exact tracks

theorem Tracks.held_lt (tracks : Tracks ev now held) (member : h ∈ held) : h < now.log.length := by
  obtain ⟨steps, -, holding, bound⟩ := tracks
  obtain ⟨step, inSteps, isHandle⟩ := holding.mem member
  exact isHandle ▸ bound step inSteps

theorem Tracks.extend {held' : List Nat} (tracks : Tracks ev now held) (step : Lifecycle Nat)
    (logged : after.log = now.log ++ [step]) (inside : step.handle ≤ now.log.length)
    (holds : ∀ steps, Holding steps held → (∀ step ∈ steps, step.handle < now.log.length) →
      Holding (steps ++ [step]) held') :
    Tracks ev after held' := by
  obtain ⟨steps, isLog, holding, bound⟩ := tracks
  refine ⟨steps ++ [step], by rw [logged, isLog, List.append_assoc], holds steps holding bound, ?_⟩
  intro other member
  rw [logged, List.length_append, List.length_singleton]
  apply Nat.lt_succ_of_le
  rcases List.mem_append.mp member with before | new
  · exact (bound other before).le
  · rw [List.mem_singleton.mp new]
    exact inside

theorem Tracks.acquire (tracks : Tracks ev now held) :
    Tracks ev now.acquire.2 (held ++ [now.acquire.1]) := by
  apply tracks.extend (.acquired now.log.length) rfl le_rfl
  intro steps holding bound
  exact holding.acquire fun step member => (bound step member).ne

theorem Tracks.use (tracks : Tracks ev now held) (member : h ∈ held) :
    Tracks ev (now.use h) held := by
  apply tracks.extend (.used h) rfl (tracks.held_lt member).le
  intro steps holding _
  exact holding.use member

theorem Tracks.release (tracks : Tracks ev now held) (member : h ∈ held) :
    Tracks ev (now.release h) (held.erase h) := by
  apply tracks.extend (.released h) rfl (tracks.held_lt member).le
  intro steps holding _
  exact holding.release member

theorem Tracks.release_head (tracks : Tracks ev now (h :: held)) :
    Tracks ev (now.release h) held := by
  have released := tracks.release List.mem_cons_self
  rwa [List.erase_cons_head] at released

theorem Tracks.release_last (tracks : Tracks ev now (held ++ [h])) :
    Tracks ev (now.release h) held := by
  have fresh : h ∉ held := by
    intro inHeld
    exact List.disjoint_of_nodup_append tracks.nodup inHeld (List.mem_singleton_self h)
  have released := tracks.release (List.mem_append_right held (List.mem_singleton_self h))
  rwa [List.erase_append_right _ fresh, List.erase_cons_head, List.append_nil] at released

theorem Tracks.releaseAll (tracks : Tracks ev now held) :
    Tracks ev (held.foldl ActionEvent.release now) [] := by
  induction held generalizing now with
  | nil => exact tracks
  | cons h rest ih => exact ih tracks.release_head

theorem foldl_release_log (handles : List Nat) (ev : ActionEvent) :
    (handles.foldl ActionEvent.release ev).log = ev.log ++ handles.map released := by
  induction handles generalizing ev with
  | nil => simp
  | cons h rest ih => simp [ih, ActionEvent.release]

theorem Tracks.not_releasedOnce {later : List (Lifecycle Nat)} (tracks : Tracks ev now held)
    (isLog : after.log = (now.release h).log ++ later) (again : released h ∈ later) :
    ¬ ReleasedOnce ev after := by
  rintro ⟨steps, isSteps, balanced⟩
  obtain ⟨before, isBefore, -⟩ := tracks
  have same : ev.log ++ steps = ev.log ++ (before ++ released h :: later) := by
    rw [← isSteps, isLog, ActionEvent.release, isBefore]
    simp
  exact not_balanced_of_again again (List.append_cancel_left same ▸ balanced)

theorem upnpAddResponse_log (ev : ActionEvent) (key : Text) (value : Option Text) :
    (upnpAddResponse ev key value).log = ev.log := by
  cases value with
  | none => rfl
  | some value => cases active : ev.status <;> simp [upnpAddResponse, active]

def ownedHandles (value : Option OwnedText) : List Nat := (value.map OwnedText.handle).toList

theorem ownedHandles_none (held : List Nat) : held ++ ownedHandles none = held :=
  List.append_nil held

theorem Tracks.getString {key : Text} {value : Option OwnedText} (tracks : Tracks ev now held)
    (read : upnpGetString now key = (value, after)) :
    Tracks ev after (held ++ ownedHandles value) := by
  unfold upnpGetString at read
  cases found : now.args.find? fun arg => arg.1 = key with
  | none =>
      rw [found] at read
      obtain ⟨rfl, rfl⟩ := Prod.mk.inj read
      rw [ownedHandles_none]
      exact tracks
  | some arg =>
      rw [found] at read
      obtain ⟨rfl, rfl⟩ := Prod.mk.inj read
      exact tracks.acquire

theorem Tracks.spent (tracks : Tracks ev now (held ++ [h])) :
    Tracks ev ((now.use h).release h) held :=
  (tracks.use (List.mem_append_right held (List.mem_singleton_self h))).release_last

theorem Tracks.getUi4 {key : Text} {n : Int} (tracks : Tracks ev now held)
    (read : upnpGetUi4 now key = (n, after)) : Tracks ev after held := by
  unfold upnpGetUi4 at read
  cases first : upnpGetString now key with
  | mk value between =>
      have tracked := tracks.getString first
      rw [first] at read
      cases value with
      | some value =>
          obtain ⟨-, rfl⟩ := Prod.mk.inj read
          exact tracked.spent
      | none =>
          rw [ownedHandles_none] at tracked
          dsimp only at read
          by_cases isObjectId : key = "ObjectID".toList
          · rw [if_pos ⟨rfl, isObjectId⟩] at read
            cases second : upnpGetString between "ContainerID".toList with
            | mk value last =>
                have tracked' := tracked.getString second
                rw [second] at read
                cases value with
                | some value =>
                    obtain ⟨-, rfl⟩ := Prod.mk.inj read
                    exact tracked'.spent
                | none =>
                    obtain ⟨-, rfl⟩ := Prod.mk.inj read
                    rwa [ownedHandles_none] at tracked'
          · rw [if_neg fun both => isObjectId both.2] at read
            obtain ⟨-, rfl⟩ := Prod.mk.inj read
            exact tracked

def acquiredHandles (args : CdsArguments) (out : Option Nat) : List Nat :=
  [args.selector.map OwnedText.handle, args.filter.map OwnedText.handle, out].filterMap id

theorem acquiredHandles_none (args : CdsArguments) :
    acquiredHandles args none = [] ++ ownedHandles args.selector ++ ownedHandles args.filter := by
  unfold acquiredHandles ownedHandles
  cases args.selector <;> cases args.filter <;> rfl

theorem acquiredHandles_some {args : CdsArguments} {selector filter : OwnedText}
    (isSelector : args.selector = some selector) (isFilter : args.filter = some filter)
    (out : Option Nat) :
    acquiredHandles args out = selector.handle :: ([filter.handle] ++ out.toList) := by
  unfold acquiredHandles
  rw [isSelector, isFilter]
  cases out <;> rfl

theorem tracks_getArguments {selectorKey : Text} {args : CdsArguments}
    (read : cdsGetArguments ev selectorKey = (args, after)) :
    Tracks ev after (acquiredHandles args none) := by
  unfold cdsGetArguments at read
  cases readId : upnpGetUi4 ev cdsArgObjectId with
  | mk id ev₁ =>
  cases readSelector : upnpGetString ev₁ selectorKey with
  | mk selector ev₂ =>
  cases readFilter : upnpGetString ev₂ cdsArgFilter with
  | mk filter ev₃ =>
  cases readIndex : upnpGetUi4 ev₃ cdsArgStartIndex with
  | mk index ev₄ =>
  cases readCount : upnpGetUi4 ev₄ cdsArgRequestCount with
  | mk count ev₅ =>
  cases readSort : upnpGetUi4 ev₅ cdsArgSortCrit with
  | mk sort ev₆ =>
    simp only [readId, readSelector, readFilter, readIndex, readCount, readSort] at read
    obtain ⟨rfl, rfl⟩ := Prod.mk.inj read
    rw [acquiredHandles_none]
    have afterId := (tracks_self ev).getUi4 readId
    have afterFilter := (afterId.getString readSelector).getString readFilter
    exact ((afterFilter.getUi4 readIndex).getUi4 readCount).getUi4 readSort

theorem cdsErr_eq (ev : ActionEvent) (args : CdsArguments) (out : Option Nat) (code : Nat) :
    cdsErr ev args out code =
      .ok (false, (acquiredHandles args out).foldl ActionEvent.release (ev.fail code)) := rfl

theorem Tracks.err {args : CdsArguments} {out : Option Nat} {code : Nat} {result : Bool}
    (tracks : Tracks ev now (acquiredHandles args out))
    (ran : cdsErr now args out code = .ok (result, after)) : ReleasedOnce ev after := by
  rw [cdsErr_eq] at ran
  obtain ⟨-, rfl⟩ := Prod.mk.inj (Except.ok.inj ran)
  have failed : Tracks ev (now.fail code) (acquiredHandles args out) := tracks.congr rfl
  exact failed.releaseAll.releasedOnce

theorem cdsSearchDirectchildren_log {stack : VfsItem → Text → Text} {fuel : Nat}
    {replied : ActionEvent} {item : VfsItem} {r : Ref} {out filled : Buffer} {count total : Int}
    {filter criteria : Text}
    (ran : cdsSearchDirectchildren d stack fuel ev item r out count filter criteria =
      .ok (total, filled, replied)) : replied.log = ev.log := by
  unfold cdsSearchDirectchildren at ran
  cases body : item.body with
  | resource content cnv =>
      rw [body] at ran
      obtain ⟨-, -, rfl⟩ : _ ∧ _ ∧ _ := by simpa only [Except.ok.injEq, Prod.mk.injEq] using ran
      rfl
  | container box =>
      rw [body] at ran
      obtain ⟨opened, -, ran⟩ := Outcome.bind_ok.mp ran
      obtain ⟨⟨found, listed⟩, -, ran⟩ := Outcome.bind_ok.mp ran
      obtain ⟨closed, -, ran⟩ := Outcome.bind_ok.mp ran
      obtain ⟨-, -, rfl⟩ : _ ∧ _ ∧ _ := by simpa only [Except.ok.injEq, Prod.mk.injEq] using ran
      simp only [upnpAddResponse_log]

theorem cdsBrowseMetadata_lists {replied : ActionEvent} {item : VfsItem} {out filled : Buffer}
    {total : Int} {filter : Text}
    (ran : cdsBrowseMetadata d ev out item filter = .ok (total, filled, replied)) :
    replied.log = ev.log ∧ 0 ≤ total := by
  unfold cdsBrowseMetadata at ran
  obtain ⟨opened, -, ran⟩ := Outcome.bind_ok.mp ran
  obtain ⟨described, -, ran⟩ := Outcome.bind_ok.mp ran
  obtain ⟨updateID, -, ran⟩ := Outcome.bind_ok.mp ran
  obtain ⟨closed, -, ran⟩ := Outcome.bind_ok.mp ran
  obtain ⟨rfl, -, rfl⟩ : _ ∧ _ ∧ _ := by simpa only [Except.ok.injEq, Prod.mk.injEq] using ran
  refine ⟨by simp only [upnpAddResponse_log], ?_⟩
  split <;> decide

theorem cdsBrowseDirectchildren_lists {replied : ActionEvent} {item : VfsItem}
    {out filled : Buffer} {index count total : Int} {filter : Text}
    (ran : cdsBrowseDirectchildren d ev out index count item filter = .ok (total, filled, replied)) :
    replied.log = ev.log ∧ (total < 0 ↔ item.body.box? = none) := by
  unfold cdsBrowseDirectchildren at ran
  cases body : item.body with
  | resource content cnv =>
      rw [body] at ran
      obtain ⟨rfl, -, rfl⟩ : _ ∧ _ ∧ _ := by simpa only [Except.ok.injEq, Prod.mk.injEq] using ran
      exact ⟨rfl, iff_of_true (by decide) rfl⟩
  | container box =>
      rw [body] at ran
      obtain ⟨opened, -, ran⟩ := Outcome.bind_ok.mp ran
      obtain ⟨⟨found, listed⟩, loop, ran⟩ := Outcome.bind_ok.mp ran
      obtain ⟨closed, -, ran⟩ := Outcome.bind_ok.mp ran
      obtain ⟨rfl, -, rfl⟩ : _ ∧ _ ∧ _ := by simpa only [Except.ok.injEq, Prod.mk.injEq] using ran
      obtain ⟨isFound, -⟩ := cdsBrowseLoop_budgeted loop
      refine ⟨by simp only [upnpAddResponse_log], iff_of_false ?_ (by simp [VfsBody.box?])⟩
      omega

theorem searched_releasedOnce {args : CdsArguments} {criteria filter : OwnedText}
    {replied : ActionEvent} {total : Int} {result : Bool}
    (tracks : Tracks ev now (acquiredHandles args none)) (selector : args.selector = some criteria)
    (isFilter : args.filter = some filter)
    (sameLog : replied.log = (((now.acquire.2.use now.acquire.1).use filter.handle).use
      criteria.handle).log)
    (ran : (if total < 0 then cdsErr replied args (some now.acquire.1) cdsErrActionFailed
      else
        let ev := upnpAddResponse (replied.release now.acquire.1) cdsDidlUpdateId
          (some "0".toList)
        .ok (ev.status, (ev.release criteria.handle).release filter.handle)) =
          .ok (result, after)) :
    ReleasedOnce ev after := by
  rw [acquiredHandles_some selector isFilter] at tracks
  have used := ((tracks.acquire.use (h := now.acquire.1) (by simp)).use
    (h := filter.handle) (by simp)).use (h := criteria.handle) (by simp)
  have logged := used.congr sameLog
  by_cases negative : total < 0
  · rw [if_pos negative] at ran
    refine Tracks.err ?_ ran
    rw [acquiredHandles_some selector isFilter]
    exact logged
  · rw [if_neg negative] at ran
    obtain ⟨-, rfl⟩ := Prod.mk.inj (Except.ok.inj ran)
    have answered := logged.release_last.congr
      (upnpAddResponse_log _ cdsDidlUpdateId (some "0".toList))
    exact answered.release_head.release_head.releasedOnce

theorem cdsSearch_releasedOnce {stack : VfsItem → Text → Text} {fuel : Nat} {result : Bool}
    (ran : cdsSearch d stack fuel ev = .ok (result, after)) : ReleasedOnce ev after := by
  by_cases inactive : ev.status = false
  · rw [cdsSearch, if_pos inactive] at ran
    obtain ⟨-, rfl⟩ := Prod.mk.inj (Except.ok.inj ran)
    exact ((tracks_self ev).congr rfl).releasedOnce
  have active : ev.status = true := Bool.not_eq_false _ ▸ inactive
  obtain ⟨args, log, read, -⟩ := cdsGetArguments_eq ev cdsArgSearchCrit
  have tracks := tracks_getArguments read
  cases cdsSearch_cases active read ran with
  | incomplete missing failed => exact tracks.err failed
  | notFound target failed => exact tracks.err failed
  | listed criteria filter selector isFilter r target item found listing replied total out
      isListing lists answered =>
      subst isListing
      exact searched_releasedOnce tracks selector isFilter (cdsSearchDirectchildren_log lists)
        answered

def BrowseFlag (ev : ActionEvent) (flag : Text) : Prop :=
  flag = "BrowseDirectChildren".toList ∨
    flag = "BrowseMetadata".toList ∧ toUInt32 (ev.argUi4 cdsArgStartIndex) = 0

def NothingListed (d : Dlna) (ev : ActionEvent) (flag : Text) : Prop :=
  ∀ r, cdsFindItem d (toUInt32 (ev.argUi4 cdsArgObjectId)) = some r →
    flag = "BrowseDirectChildren".toList ∧
      ∃ item, d.readItem r = .ok item ∧ item.body.box? = none

/-- The request has both of its texts, and fails after the first of them has been freed. -/
def FreedTwice (d : Dlna) (ev : ActionEvent) : Prop :=
  ev.status = true ∧ ∃ flag filter, ev.argText cdsArgBrowseFlag = some flag ∧
    ev.argText cdsArgFilter = some filter ∧ BrowseFlag ev flag ∧ NothingListed d ev flag

theorem freedTwice_iff {flag filter : Text} (active : ev.status = true)
    (isFlag : ev.argText cdsArgBrowseFlag = some flag)
    (isFilter : ev.argText cdsArgFilter = some filter) :
    FreedTwice d ev ↔ BrowseFlag ev flag ∧ NothingListed d ev flag := by
  constructor
  · rintro ⟨-, flag', filter', isFlag', -, accepted, nothing⟩
    obtain rfl := Option.some.inj (isFlag.symm.trans isFlag')
    exact ⟨accepted, nothing⟩
  · rintro ⟨accepted, nothing⟩
    exact ⟨active, flag, filter, isFlag, isFilter, accepted, nothing⟩

/-- The cleanup frees the flag, which has been freed before. -/
theorem Tracks.err_again {args : CdsArguments} {flag : OwnedText} {out : Option Nat} {code : Nat}
    {result : Bool} {cur : ActionEvent} (tracks : Tracks ev now held)
    (selector : args.selector = some flag) (further : (now.release flag.handle).log <+: cur.log)
    (ran : cdsErr cur args out code = .ok (result, after)) : ¬ ReleasedOnce ev after := by
  obtain ⟨later, isLog⟩ := further
  rw [cdsErr_eq] at ran
  obtain ⟨-, rfl⟩ := Prod.mk.inj (Except.ok.inj ran)
  have logged : ((acquiredHandles args out).foldl ActionEvent.release (cur.fail code)).log =
      (now.release flag.handle).log ++ (later ++ (acquiredHandles args out).map released) := by
    rw [foldl_release_log, show (cur.fail code).log = cur.log from rfl, ← isLog, List.append_assoc]
  refine tracks.not_releasedOnce logged (List.mem_append_right _ (List.mem_map_of_mem ?_))
  simp [acquiredHandles, selector]

theorem cdsBrowseDirectchildren_resource {item : VfsItem} (noBox : item.body.box? = none)
    (out : Buffer) (index count : Int) (filter : Text) :
    cdsBrowseDirectchildren d ev out index count item filter = .ok (-1, out, ev) := by
  unfold cdsBrowseDirectchildren
  cases body : item.body with
  | container box =>
      rw [body] at noBox
      cases noBox
  | resource content cnv => rfl

theorem cdsBrowse_lists {replied : ActionEvent} {item : VfsItem} {out filled : Buffer}
    {index count total : Int} {filter : Text} {metadata : Prop} [Decidable metadata]
    (ran : (if metadata then cdsBrowseMetadata d ev out item filter
      else cdsBrowseDirectchildren d ev out index count item filter) =
        .ok (total, filled, replied)) :
    replied.log = ev.log ∧ (total < 0 ↔ ¬ metadata ∧ item.body.box? = none) := by
  by_cases isMetadata : metadata
  · rw [if_pos isMetadata] at ran
    obtain ⟨sameLog, nonnegative⟩ := cdsBrowseMetadata_lists ran
    exact ⟨sameLog, iff_of_false (not_lt.mpr nonnegative) (fun both => both.1 isMetadata)⟩
  · rw [if_neg isMetadata] at ran
    obtain ⟨sameLog, fails⟩ := cdsBrowseDirectchildren_lists ran
    exact ⟨sameLog, fails.trans (by simp [isMetadata])⟩

theorem listed_releasedOnce {args : CdsArguments} {flag : OwnedText} {f : Nat}
    {replied : ActionEvent} {total : Int} {result : Bool} (tracks : Tracks ev now [flag.handle, f])
    (selector : args.selector = some flag)
    (sameLog : replied.log = (((now.release flag.handle).acquire.2.use
      (now.release flag.handle).acquire.1).use f).log)
    (ran : (if total < 0 then
        cdsErr (replied.release f) args (some (now.release flag.handle).acquire.1) cdsErrActionFailed
      else .ok (((replied.release f).release (now.release flag.handle).acquire.1).status,
        (replied.release f).release (now.release flag.handle).acquire.1)) = .ok (result, after)) :
    ReleasedOnce ev after ↔ ¬ total < 0 := by
  by_cases negative : total < 0
  · rw [if_pos negative] at ran
    refine iff_of_false (tracks.err_again selector ?_ ran) (not_not.mpr negative)
    -- between the two the buffer and the filter have been used
    rw [show (replied.release f).log = replied.log ++ [released f] from rfl, sameLog]
    simp [ActionEvent.use, ActionEvent.acquire]
  · rw [if_neg negative] at ran
    obtain ⟨-, rfl⟩ := Prod.mk.inj (Except.ok.inj ran)
    have listing := (tracks.release_head.acquire.use (h := (now.release flag.handle).acquire.1)
      (by simp)).use (h := f) (by simp)
    have logged := (listing.congr sameLog).release_head
    exact iff_of_true logged.release_head.releasedOnce negative

theorem browseFlag_iff {flag : Text} {args : CdsArguments} (reads : Reads ev cdsArgBrowseFlag args) :
    BrowseFlag ev flag ↔ GoesOn args flag := by
  have different : "BrowseMetadata".toList ≠ "BrowseDirectChildren".toList := by decide
  unfold BrowseFlag GoesOn
  rw [reads.index]
  constructor
  · rintro (children | ⟨isMetadata, zero⟩)
    · exact ⟨fun both => different (both.1.symm.trans children), fun both => both.2 children⟩
    · exact ⟨fun both => both.2 zero, fun both => both.1 isMetadata⟩
  · rintro ⟨accepted, known⟩
    by_cases isMetadata : flag = "BrowseMetadata".toList
    · exact .inr ⟨isMetadata, not_not.mp fun nonzero => accepted ⟨isMetadata, nonzero⟩⟩
    · exact .inl (not_not.mp fun other => known ⟨isMetadata, other⟩)

theorem nothingListed_iff {flag : Text} {r : Ref} {item : VfsItem}
    (target : cdsFindItem d (toUInt32 (ev.argUi4 cdsArgObjectId)) = some r)
    (isItem : d.readItem r = .ok item) (accepted : BrowseFlag ev flag) :
    NothingListed d ev flag ↔ ¬ flag = "BrowseMetadata".toList ∧ item.body.box? = none := by
  constructor
  · intro nothing
    obtain ⟨children, other, isOther, noBox⟩ := nothing r target
    rw [isItem] at isOther
    cases isOther
    refine ⟨fun isMetadata => ?_, noBox⟩
    exact absurd (isMetadata.symm.trans children) (by decide)
  · rintro ⟨notMetadata, noBox⟩ r' found
    rw [target] at found
    cases found
    exact ⟨accepted.resolve_right fun isMetadata => notMetadata isMetadata.1, item, isItem, noBox⟩

section Browse

variable {args : CdsArguments} {flag filter : OwnedText}

theorem freedTwice_goesOn (active : ev.status = true) (reads : Reads ev cdsArgBrowseFlag args)
    (selector : args.selector = some flag) (isFilter : args.filter = some filter) :
    FreedTwice d ev ↔ GoesOn args flag.text ∧ NothingListed d ev flag.text := by
  have isFlag := reads.selector
  have isText := reads.filter
  rw [selector, Option.map_some] at isFlag
  rw [isFilter, Option.map_some] at isText
  rw [freedTwice_iff active isFlag.symm isText.symm, browseFlag_iff reads]

theorem not_freedTwice_incomplete (reads : Reads ev cdsArgBrowseFlag args)
    (missing : args.selector = none ∨ args.filter = none) : ¬ FreedTwice d ev := by
  rintro ⟨-, flag, filter, isFlag, isFilter, -⟩
  rcases missing with noFlag | noFilter
  · exact absurd (reads.selector.trans isFlag) (by simp [noFlag])
  · exact absurd (reads.filter.trans isFilter) (by simp [noFilter])

theorem Tracks.use_flag (tracks : Tracks ev now (acquiredHandles args none))
    (selector : args.selector = some flag) (isFilter : args.filter = some filter) :
    Tracks ev (now.use flag.handle) [flag.handle, filter.handle] := by
  rw [acquiredHandles_some selector isFilter] at tracks
  exact tracks.use List.mem_cons_self

theorem cdsBrowse_releasedOnce {result : Bool} (ran : cdsBrowse d ev = .ok (result, after)) :
    ReleasedOnce ev after ↔ ¬ FreedTwice d ev := by
  by_cases inactive : ev.status = false
  · rw [cdsBrowse, if_pos inactive] at ran
    obtain ⟨-, rfl⟩ := Prod.mk.inj (Except.ok.inj ran)
    refine iff_of_true ((tracks_self ev).congr rfl).releasedOnce fun twice => ?_
    exact absurd twice.1 (by simp [inactive])
  have active : ev.status = true := Bool.not_eq_false _ ▸ inactive
  obtain ⟨args, log, read, reads⟩ := cdsGetArguments_eq ev cdsArgBrowseFlag
  have tracks := tracks_getArguments read
  cases cdsBrowse_cases active read ran with
  | incomplete missing failed =>
      exact iff_of_true (tracks.err failed) (not_freedTwice_incomplete reads missing)
  | refused flag filter selector isFilter refused failed =>
      rw [freedTwice_goesOn active reads selector isFilter]
      have used := tracks.use_flag selector isFilter
      refine iff_of_true (Tracks.err ?_ failed) fun both => refused both.1
      rwa [acquiredHandles_some selector isFilter]
  | notFound flag filter selector isFilter goesOn target failed =>
      rw [freedTwice_goesOn active reads selector isFilter]
      have used := tracks.use_flag selector isFilter
      have twice := used.err_again selector List.prefix_rfl failed
      refine iff_of_false twice (not_not.mpr ⟨goesOn, fun r found => ?_⟩)
      rw [← reads.id, target] at found
      cases found
  | listed flag filter selector isFilter goesOn r target item found freed listing replied handle
      total out isFreed isHandle isListing lists answered =>
      rw [freedTwice_goesOn active reads selector isFilter]
      have used := tracks.use_flag selector isFilter
      obtain ⟨sameLog, fails⟩ := cdsBrowse_lists lists
      subst isFreed isHandle isListing
      rw [listed_releasedOnce used selector sameLog answered, fails,
        nothingListed_iff (reads.id ▸ target) found ((browseFlag_iff reads).mpr goesOn)]
      simp only [goesOn, true_and]

end Browse

theorem cdsBrowse_returns (twice : FreedTwice d ev) :
    ∃ result after, cdsBrowse d ev = .ok (result, after) := by
  obtain ⟨active, flag, filter, isFlag, isFilter, accepted, nothing⟩ := twice
  obtain ⟨args, log, read, reads⟩ := cdsGetArguments_eq ev cdsArgBrowseFlag
  obtain ⟨flag', selector, rfl⟩ := Option.map_eq_some_iff.mp (reads.selector.trans isFlag)
  obtain ⟨filter', hasFilter, rfl⟩ := Option.map_eq_some_iff.mp (reads.filter.trans isFilter)
  obtain ⟨inRange, known⟩ := (browseFlag_iff reads).mp accepted
  have on : ¬ ev.status = false := Bool.not_eq_false _ ▸ active
  simp only [cdsBrowse, if_neg on, read, selector, hasFilter, if_neg inRange, if_neg known]
  cases target : cdsFindItem d args.id with
  | none => exact ⟨_, _, rfl⟩
  | some r =>
      obtain ⟨children, item, isItem, noBox⟩ := nothing r (reads.id ▸ target)
      have other : ¬ flag'.text = "BrowseMetadata".toList := by
        intro isMetadata
        exact absurd (isMetadata.symm.trans children) (by decide)
      simp only [isItem, if_neg other, cdsBrowseDirectchildren_resource noBox, Bind.bind,
        Except.bind]
      exact ⟨_, _, rfl⟩

theorem released_once_iff (d : Dlna) (stack : VfsItem → Text → Text) (fuel : Nat)
    (ev : ActionEvent) :
    (∀ result after, cdsSearch d stack fuel ev = .ok (result, after) → ReleasedOnce ev after) ∧
      ((∀ result after, cdsBrowse d ev = .ok (result, after) → ReleasedOnce ev after) ↔
        ¬ FreedTwice d ev) := by
  refine ⟨fun result after => cdsSearch_releasedOnce, ?_⟩
  constructor
  · intro once twice
    obtain ⟨result, after, ran⟩ := cdsBrowse_returns twice
    exact (cdsBrowse_releasedOnce ran).mp (once result after ran) twice
  · intro never result after ran
    exact (cdsBrowse_releasedOnce ran).mpr never

def childrenRequest : ActionEvent where
  status := true
  args :=
    [(cdsArgObjectId, some "2".toList),
      (cdsArgBrowseFlag, some "BrowseDirectChildren".toList), (cdsArgFilter, some "*".toList)]
  errCode := 0
  response := []
  log := []

theorem childrenRequest_freedTwice : FreedTwice nestedFiles childrenRequest := by
  have target : cdsFindItem nestedFiles (toUInt32 (childrenRequest.argUi4 cdsArgObjectId)) =
      some 2 := by
    decide +kernel
  refine ⟨rfl, "BrowseDirectChildren".toList, "*".toList, by decide, by decide, .inl rfl, ?_⟩
  intro r found
  rw [target] at found
  cases found
  exact ⟨rfl, _, rfl, rfl⟩

theorem children_of_file_freed_twice :
    ¬ ∀ result after, cdsBrowse nestedFiles childrenRequest = .ok (result, after) →
      ReleasedOnce childrenRequest after := by
  intro once
  obtain ⟨result, after, ran⟩ := cdsBrowse_returns childrenRequest_freedTwice
  exact (cdsBrowse_releasedOnce ran).mp (once result after ran) childrenRequest_freedTwice

end Libdlna
