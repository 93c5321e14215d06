import Libdlna.Didl.Text

set_option autoImplicit false

/-!
# Requests and replies

Reading an argument changes an event in its log only.
-/

namespace Libdlna

open CString

namespace ActionEvent

variable (ev : ActionEvent)

def argText (key : Text) : Option Text :=
  (ev.args.find? fun arg => arg.1 = key).map fun arg => arg.2.getD []

def argUi4 (key : Text) : Int :=
  match ev.argText key with
  | some text => atoi text
  | none =>
      if key = "ObjectID".toList then ((ev.argText "ContainerID".toList).map atoi).getD 0 else 0

def reply (key : Text) : Option Text := (ev.response.find? fun pair => pair.1 = key).map Prod.snd

@[simp] theorem argText_log (log : List Ownership) :
    { ev with log := log }.argText = ev.argText := rfl

@[simp] theorem argUi4_log (log : List Ownership) : { ev with log := log }.argUi4 = ev.argUi4 := rfl

end ActionEvent

open ActionEvent

theorem upnpGetString_eq (ev : ActionEvent) (key : Text) :
    ∃ value log, upnpGetString ev key = (value, { ev with log := log }) ∧
      value.map OwnedText.text = ev.argText key := by
  unfold upnpGetString ActionEvent.argText
  cases ev.args.find? fun arg => arg.1 = key with
  | none => exact ⟨none, ev.log, rfl, rfl⟩
  | some arg => exact ⟨_, _, rfl, rfl⟩

theorem upnpGetUi4_eq (ev : ActionEvent) (key : Text) :
    ∃ log, upnpGetUi4 ev key = (ev.argUi4 key, { ev with log := log }) := by
  obtain ⟨value, log, read, text⟩ := upnpGetString_eq ev key
  unfold upnpGetUi4 ActionEvent.argUi4
  rw [read, ← text]
  cases value with
  | some value => exact ⟨_, rfl⟩
  | none =>
      by_cases isObjectId : key = "ObjectID".toList
      -- Search names the container by another argument
      · obtain ⟨other, log', read', text'⟩ :=
          upnpGetString_eq { ev with log := log } "ContainerID".toList
        rw [argText_log] at text'
        dsimp only [Option.map_none]
        rw [if_pos ⟨rfl, isObjectId⟩, if_pos isObjectId, read', ← text']
        cases other <;> exact ⟨_, rfl⟩
      · dsimp only [Option.map_none]
        rw [if_neg fun both => isObjectId both.2, if_neg isObjectId]
        exact ⟨_, rfl⟩

structure Reads (ev : ActionEvent) (selectorKey : Text) (args : CdsArguments) : Prop where
  id : args.id = toUInt32 (ev.argUi4 cdsArgObjectId)
  selector : args.selector.map OwnedText.text = ev.argText selectorKey
  filter : args.filter.map OwnedText.text = ev.argText cdsArgFilter
  index : args.index = toUInt32 (ev.argUi4 cdsArgStartIndex)
  count : args.count = toUInt32 (ev.argUi4 cdsArgRequestCount)

theorem cdsGetArguments_eq (ev : ActionEvent) (selectorKey : Text) :
    ∃ args log, cdsGetArguments ev selectorKey = (args, { ev with log := log }) ∧
      Reads ev selectorKey args := by
  obtain ⟨log₁, readId⟩ := upnpGetUi4_eq ev cdsArgObjectId
  obtain ⟨selector, log₂, readSelector, isSelector⟩ :=
    upnpGetString_eq { ev with log := log₁ } selectorKey
  obtain ⟨filter, log₃, readFilter, isFilter⟩ :=
    upnpGetString_eq { ev with log := log₂ } cdsArgFilter
  obtain ⟨log₄, readIndex⟩ := upnpGetUi4_eq { ev with log := log₃ } cdsArgStartIndex
  obtain ⟨log₅, readCount⟩ := upnpGetUi4_eq { ev with log := log₄ } cdsArgRequestCount
  obtain ⟨log₆, readSort⟩ := upnpGetUi4_eq { ev with log := log₅ } cdsArgSortCrit
  refine ⟨⟨toUInt32 (ev.argUi4 cdsArgObjectId), selector, filter,
    toUInt32 (ev.argUi4 cdsArgStartIndex), toUInt32 (ev.argUi4 cdsArgRequestCount)⟩, log₆, ?_,
    ⟨rfl, isSelector, isFilter, rfl, rfl⟩⟩
  simp only [cdsGetArguments, readId, readSelector, readFilter, readIndex, readCount, readSort,
    argUi4_log]

theorem upnpAddResponse_release (ev : ActionEvent) (handle : Nat) (key : Text)
    (value : Option Text) :
    (upnpAddResponse (ev.release handle) key value).response =
      (upnpAddResponse ev key value).response := by
  cases value with
  | none => rfl
  | some value => cases active : ev.status <;> simp [upnpAddResponse, ActionEvent.release, active]

@[simp] theorem upnpAddResponse_status (ev : ActionEvent) (key : Text) (value : Option Text) :
    (upnpAddResponse ev key value).status = ev.status := by
  cases value with
  | none => rfl
  | some value => cases active : ev.status <;> simp [upnpAddResponse, active]

theorem reply_upnpAddResponse_other {ev : ActionEvent} {key other : Text} (value : Option Text)
    (different : key ≠ other) : (upnpAddResponse ev key value).reply other = ev.reply other := by
  cases value with
  | none => rfl
  | some value =>
      cases active : ev.status <;> simp [upnpAddResponse, active, ActionEvent.reply, different]

theorem reply_upnpAddResponse_new {ev : ActionEvent} {key : Text} {value : Text}
    (active : ev.status = true) (fresh : ev.reply key = none) :
    (upnpAddResponse ev key (some value)).reply key = some value := by
  have missing : ev.response.find? (fun pair => pair.1 = key) = none := by
    simpa only [ActionEvent.reply, Option.map_eq_none_iff] using fresh
  simp [upnpAddResponse, active, ActionEvent.reply, missing]

def GoesOn (args : CdsArguments) (flag : Text) : Prop :=
  ¬ (flag = "BrowseMetadata".toList ∧ args.index ≠ 0) ∧
    ¬ (¬ flag = "BrowseMetadata".toList ∧ flag ≠ "BrowseDirectChildren".toList)

/-- How `Browse` returns, once it has read its arguments from the event. -/
inductive Browsed (d : Dlna) (args : CdsArguments) (now : ActionEvent) (result : Bool)
    (after : ActionEvent) : Prop
  | incomplete (missing : args.selector = none ∨ args.filter = none)
      (failed : cdsErr now args none cdsErrInvalidArgs = .ok (result, after))
  | refused (flag filter : OwnedText) (selector : args.selector = some flag)
      (isFilter : args.filter = some filter) (refused : ¬ GoesOn args flag.text)
      (failed : cdsErr (now.use flag.handle) args none cdsErrProcessRequest = .ok (result, after))
  | notFound (flag filter : OwnedText) (selector : args.selector = some flag)
      (isFilter : args.filter = some filter) (goesOn : GoesOn args flag.text)
      (target : cdsFindItem d args.id = none)
      (failed : cdsErr ((now.use flag.handle).release flag.handle) args none
        cdsErrInvalidObjectId = .ok (result, after))
  | listed (flag filter : OwnedText) (selector : args.selector = some flag)
      (isFilter : args.filter = some filter) (goesOn : GoesOn args flag.text) (r : Ref)
      (target : cdsFindItem d args.id = some r) (item : VfsItem) (found : d.readItem r = .ok item)
      (freed listing replied : ActionEvent) (handle : Nat) (total : Int) (out : Buffer)
      (isFreed : freed = (now.use flag.handle).release flag.handle)
      (isHandle : handle = freed.acquire.1)
      (isListing : listing = (freed.acquire.2.use handle).use filter.handle)
      (lists : (if flag.text = "BrowseMetadata".toList then
          cdsBrowseMetadata d listing bufferNew item filter.text
        else cdsBrowseDirectchildren d listing bufferNew (toInt32 args.index.toNat)
          (toInt32 args.count.toNat) item filter.text) = .ok (total, out, replied))
      (answered : (if total < 0 then
          cdsErr (replied.release filter.handle) args (some handle) cdsErrActionFailed
        else .ok (((replied.release filter.handle).release handle).status,
          (replied.release filter.handle).release handle)) = .ok (result, after))

theorem cdsBrowse_cases {d : Dlna} {ev now after : ActionEvent} {args : CdsArguments}
    {result : Bool} (active : ev.status = true)
    (read : cdsGetArguments ev cdsArgBrowseFlag = (args, now))
    (ran : cdsBrowse d ev = .ok (result, after)) : Browsed d args now result after := by
  rw [cdsBrowse, if_neg (by simp [active]), read] at ran
  dsimp only at ran
  cases selector : args.selector with
  | none =>
      simp only [selector] at ran
      exact .incomplete (.inl selector) ran
  | some flag =>
      cases filter : args.filter with
      | none =>
          simp only [selector, filter] at ran
          exact .incomplete (.inr filter) ran
      | some filter' =>
          simp only [selector, filter] at ran
          by_cases outOfRange : flag.text = "BrowseMetadata".toList ∧ args.index ≠ 0
          · rw [if_pos outOfRange] at ran
            exact .refused flag filter' selector filter (fun goesOn => goesOn.1 outOfRange) ran
          rw [if_neg outOfRange] at ran
          by_cases unknown : ¬ flag.text = "BrowseMetadata".toList ∧
              flag.text ≠ "BrowseDirectChildren".toList
          · rw [if_pos unknown] at ran
            exact .refused flag filter' selector filter (fun goesOn => goesOn.2 unknown) ran
          rw [if_neg unknown] at ran
          cases target : cdsFindItem d args.id with
          | none =>
              simp only [target] at ran
              exact .notFound flag filter' selector filter ⟨outOfRange, unknown⟩ target ran
          | some r =>
              simp only [target] at ran
              obtain ⟨item, found, ran⟩ := Outcome.bind_ok.mp ran
              obtain ⟨⟨total, out, replied⟩, lists, ran⟩ := Outcome.bind_ok.mp ran
              exact .listed flag filter' selector filter ⟨outOfRange, unknown⟩ r target item found
                _ _ replied _ total out rfl rfl rfl lists ran

theorem cdsBrowse_ok {d : Dlna} {ev after : ActionEvent}
    (ran : cdsBrowse d ev = .ok (true, after)) :
    ∃ args flag filter r item log resultCount out replied log',
      Reads ev cdsArgBrowseFlag args ∧ ev.argText cdsArgBrowseFlag = some flag ∧
      ev.argText cdsArgFilter = some filter ∧
      cdsFindItem d args.id = some r ∧ d.readItem r = .ok item ∧
      (if flag = "BrowseMetadata".toList then
          cdsBrowseMetadata d { ev with log := log } bufferNew item filter
        else cdsBrowseDirectchildren d { ev with log := log } bufferNew
          (toInt32 args.index.toNat) (toInt32 args.count.toNat) item filter) =
        .ok (resultCount, out, replied) ∧
      0 ≤ resultCount ∧ ev.status = true ∧ after = { replied with log := log' } := by
  by_cases inactive : ev.status = false
  · simp [cdsBrowse, inactive] at ran
  · have active : ev.status = true := Bool.not_eq_false _ ▸ inactive
    obtain ⟨args, log, read, reads⟩ := cdsGetArguments_eq ev cdsArgBrowseFlag
    cases cdsBrowse_cases active read ran with
    | incomplete missing failed => simp [cdsErr] at failed
    | refused flag filter selector isFilter refused failed => simp [cdsErr] at failed
    | notFound flag filter selector isFilter goesOn target failed => simp [cdsErr] at failed
    | listed flag filter selector isFilter goesOn r target item found freed listing replied handle
        total out isFreed isHandle isListing lists answered =>
        by_cases negative : total < 0
        · simp [negative, cdsErr] at answered
        · rw [if_neg negative] at answered
          obtain ⟨-, rfl⟩ := Prod.mk.inj (Except.ok.inj answered)
          subst isFreed isHandle isListing
          exact ⟨args, flag.text, filter.text, r, item, _, total, out, replied, _, reads,
            by rw [← reads.selector, selector, Option.map_some],
            by rw [← reads.filter, isFilter, Option.map_some], target, found, lists,
            not_lt.mp negative, active, rfl⟩

theorem cdsBrowse_children_ok {d : Dlna} {ev after : ActionEvent}
    (flag : ev.argText cdsArgBrowseFlag = some "BrowseDirectChildren".toList)
    (ran : cdsBrowse d ev = .ok (true, after)) :
    ∃ args filter r item log resultCount out replied log',
      Reads ev cdsArgBrowseFlag args ∧ ev.argText cdsArgFilter = some filter ∧
      cdsFindItem d args.id = some r ∧ d.readItem r = .ok item ∧
      cdsBrowseDirectchildren d { ev with log := log } bufferNew (toInt32 args.index.toNat)
        (toInt32 args.count.toNat) item filter = .ok (resultCount, out, replied) ∧
      after = { replied with log := log' } := by
  obtain ⟨args, flag', filter, r, item, log, resultCount, out, replied, log', reads, isFlag,
    isFilter, target, found, listed, -, -, rfl⟩ := cdsBrowse_ok ran
  have notMetadata : flag' ≠ "BrowseMetadata".toList := by
    rw [Option.some.inj (isFlag.symm.trans flag)]
    decide
  rw [if_neg notMetadata] at listed
  exact ⟨args, filter, r, item, log, resultCount, out, replied, log', reads, isFilter, target, found,
    listed, rfl⟩

inductive Searched (d : Dlna) (stack : VfsItem → Text → Text) (fuel : Nat) (args : CdsArguments)
    (now : ActionEvent) (result : Bool) (after : ActionEvent) : Prop
  | incomplete (missing : args.selector = none ∨ args.filter = none)
      (failed : cdsErr now args none cdsErrInvalidArgs = .ok (result, after))
  | notFound (target : cdsFindItem d args.id = none)
      (failed : cdsErr now args none cdsErrInvalidContainer = .ok (result, after))
  | listed (criteria filter : OwnedText) (selector : args.selector = some criteria)
      (isFilter : args.filter = some filter) (r : Ref) (target : cdsFindItem d args.id = some r)
      (item : VfsItem) (found : d.readItem r = .ok item) (listing replied : ActionEvent)
      (total : Int) (out : Buffer)
      (isListing : listing = ((now.acquire.2.use now.acquire.1).use filter.handle).use
        criteria.handle)
      (lists : cdsSearchDirectchildren d stack fuel listing item r bufferNew
        (toInt32 args.count.toNat) filter.text criteria.text = .ok (total, out, replied))
      (answered : (if total < 0 then cdsErr replied args (some now.acquire.1) cdsErrActionFailed
        else
          let ev := upnpAddResponse (replied.release now.acquire.1) cdsDidlUpdateId
            (some "0".toList)
          .ok (ev.status, (ev.release criteria.handle).release filter.handle)) =
            .ok (result, after))

theorem cdsSearch_cases {d : Dlna} {stack : VfsItem → Text → Text} {fuel : Nat}
    {ev now after : ActionEvent} {args : CdsArguments} {result : Bool} (active : ev.status = true)
    (read : cdsGetArguments ev cdsArgSearchCrit = (args, now))
    (ran : cdsSearch d stack fuel ev = .ok (result, after)) :
    Searched d stack fuel args now result after := by
  rw [cdsSearch, if_neg (by simp [active]), read] at ran
  dsimp only at ran
  cases selector : args.selector with
  | none =>
      simp only [selector] at ran
      exact .incomplete (.inl selector) ran
  | some criteria =>
      cases filter : args.filter with
      | none =>
          simp only [selector, filter] at ran
          exact .incomplete (.inr filter) ran
      | some filter' =>
          simp only [selector, filter] at ran
          cases target : cdsFindItem d args.id with
          | none =>
              simp only [target] at ran
              exact .notFound target ran
          | some r =>
              simp only [target] at ran
              obtain ⟨item, found, ran⟩ := Outcome.bind_ok.mp ran
              obtain ⟨⟨total, out, replied⟩, lists, ran⟩ := Outcome.bind_ok.mp ran
              exact .listed criteria filter' selector filter r target item found _ replied total
                out rfl lists ran

theorem cdsSearch_ok {d : Dlna} {stack : VfsItem → Text → Text} {fuel : Nat}
    {ev after : ActionEvent} (ran : cdsSearch d stack fuel ev = .ok (true, after)) :
    ∃ args criteria filter r item log resultCount out replied,
      Reads ev cdsArgSearchCrit args ∧ ev.argText cdsArgSearchCrit = some criteria ∧
      ev.argText cdsArgFilter = some filter ∧ cdsFindItem d args.id = some r ∧
      d.readItem r = .ok item ∧
      cdsSearchDirectchildren d stack fuel { ev with log := log } item r bufferNew
        (toInt32 args.count.toNat) filter criteria = .ok (resultCount, out, replied) ∧
      0 ≤ resultCount ∧ ev.status = true ∧
      after.response = (upnpAddResponse replied cdsDidlUpdateId (some "0".toList)).response := by
  by_cases inactive : ev.status = false
  · simp [cdsSearch, inactive] at ran
  · have active : ev.status = true := Bool.not_eq_false _ ▸ inactive
    obtain ⟨args, log, read, reads⟩ := cdsGetArguments_eq ev cdsArgSearchCrit
    cases cdsSearch_cases active read ran with
    | incomplete missing failed => simp [cdsErr] at failed
    | notFound target failed => simp [cdsErr] at failed
    | listed criteria filter selector isFilter r target item found listing replied total out
        isListing lists answered =>
        by_cases negative : total < 0
        · simp [negative, cdsErr] at answered
        · rw [if_neg negative] at answered
          obtain ⟨-, rfl⟩ := Prod.mk.inj (Except.ok.inj answered)
          subst isListing
          exact ⟨args, criteria.text, filter.text, r, item, _, total, out, replied, reads,
            by rw [← reads.selector, selector, Option.map_some],
            by rw [← reads.filter, isFilter, Option.map_some], target, found, lists,
            not_lt.mp negative, active, upnpAddResponse_release _ _ _ _⟩

end Libdlna
