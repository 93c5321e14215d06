import Libdlna.Cds.Browse
import Libdlna.Shared.Histories
import Libdlna.Vfs.Reachable

set_option autoImplicit false

/-!
# Update ids

What Browse and GetSystemUpdateID tell clients about changes. Only an addition changes a list of
children, and it counts the change unless the item ends up under the root because nobody has the id
of the container that was asked for.
-/

namespace Libdlna

open CString Dlna Runs Histories

variable {d after : Dlna} {call : Call} {r : Ref} {box : Container}

def childrenOf (d : Dlna) (r : Ref) : Option (List Ref) := (d.containerOf r).map Container.children

def updateIDOf (d : Dlna) (r : Ref) : Option UInt32 := (d.containerOf r).map Container.updateID

theorem cdsBrowse_updateID {ev answer : ActionEvent} (fresh : ev.response = [])
    (target : cdsFindItem d (toUInt32 (ev.argUi4 cdsArgObjectId)) = some r)
    (isContainer : d.containerOf r = some box) (answered : cdsBrowse d ev = .ok (true, answer)) :
    answer.reply cdsDidlUpdateId = some (decimal box.updateID.toNat) := by
  obtain ⟨args, flag, filter, r', item, log, resultCount, out, replied, log', reads, -, -, found,
    read, listed, -, active, rfl⟩ := cdsBrowse_ok answered
  rw [reads.id, target] at found
  obtain rfl := Option.some.inj found
  have body := containerOf_readItem isContainer read
  have result : cdsDidlResult ≠ cdsDidlUpdateId := by decide
  have numReturned : cdsDidlNumReturned ≠ cdsDidlUpdateId := by decide
  have totalMatch : cdsDidlTotalMatch ≠ cdsDidlUpdateId := by decide
  have none : ({ ev with log := log } : ActionEvent).reply cdsDidlUpdateId = none := by
    simp [ActionEvent.reply, fresh]
  -- three other arguments come first
  have last {first second third : Option Text} :
      (upnpAddResponse (upnpAddResponse (upnpAddResponse (upnpAddResponse
        { ev with log := log } cdsDidlResult first) cdsDidlNumReturned second) cdsDidlTotalMatch
          third) cdsDidlUpdateId (some (decimal box.updateID.toNat))).reply cdsDidlUpdateId =
        some (decimal box.updateID.toNat) := by
    apply reply_upnpAddResponse_new
    · simpa using active
    · rw [reply_upnpAddResponse_other _ totalMatch, reply_upnpAddResponse_other _ numReturned,
        reply_upnpAddResponse_other _ result, none]
  split at listed
  · unfold cdsBrowseMetadata at listed
    obtain ⟨opened, -, listed⟩ := Outcome.bind_ok.mp listed
    obtain ⟨written, -, listed⟩ := Outcome.bind_ok.mp listed
    obtain ⟨updateID, isUpdateID, listed⟩ := Outcome.bind_ok.mp listed
    obtain ⟨closed, -, listed⟩ := Outcome.bind_ok.mp listed
    simp only [browseUpdateId, body, Except.ok.injEq] at isUpdateID
    subst isUpdateID
    obtain ⟨-, -, rfl⟩ : _ ∧ _ ∧ _ := by
      simpa only [Except.ok.injEq, Prod.mk.injEq] using listed
    exact last
  · unfold cdsBrowseDirectchildren at listed
    simp only [body] at listed
    obtain ⟨opened, -, listed⟩ := Outcome.bind_ok.mp listed
    obtain ⟨⟨total, filled⟩, -, listed⟩ := Outcome.bind_ok.mp listed
    obtain ⟨closed, -, listed⟩ := Outcome.bind_ok.mp listed
    obtain ⟨-, -, rfl⟩ : _ ∧ _ ∧ _ := by
      simpa only [Except.ok.injEq, Prod.mk.injEq] using listed
    exact last

def updateNumber (d : Dlna) (r : Ref) : Nat := ((updateIDOf d r).map UInt32.toNat).getD 0

/-- The call puts an item under the root although it asks for an id that nobody has. -/
def FallsBack (d : Dlna) (call : Call) : Prop :=
  ∃ containerId, Adds d call containerId ∧ vfsGetItemById d containerId = none

theorem updateNumber_succ (updateID : UInt32) :
    (updateID + 1).toNat ≡ updateID.toNat + 1 [MOD 2 ^ 32] := by
  rw [UInt32.toNat_add]
  exact Nat.mod_modEq _ _

theorem kept_of_containerOf (same : after.containerOf r = d.containerOf r) :
    childrenOf after r = childrenOf d r ∧ updateIDOf after r = updateIDOf d r := by
  simp [childrenOf, updateIDOf, same]

theorem stamped_of_containerOf (same : after.containerOf r = d.containerOf r) :
    Stamped (childrenOf · r) (updateNumber · r) (2 ^ 32) d call after := by
  obtain ⟨children, updateID⟩ := kept_of_containerOf same
  exact .inl ⟨children, by simp [updateNumber, updateID]⟩

section Growth

variable {item : VfsItem} {containerId : UInt32}

theorem childrenOf_grown (was : d.containerOf r = some box) (grown : Grown d containerId r after) :
    childrenOf after r ≠ childrenOf d r ∧
      updateIDOf after r = some (parentUpdateID d containerId box.updateID) := by
  refine ⟨?_, by simp [updateIDOf, grown box was]⟩
  simp [childrenOf, grown box was, was]

theorem stamped_grown (was : d.containerOf r = some box) (grown : Grown d containerId r after)
    (known : vfsGetItemById d containerId ≠ none) :
    Stamped (childrenOf · r) (updateNumber · r) (2 ^ 32) d call after := by
  obtain ⟨changed, counted⟩ := childrenOf_grown was grown
  have before : updateNumber d r = box.updateID.toNat := by simp [updateNumber, updateIDOf, was]
  have now : updateNumber after r = (box.updateID + 1).toNat := by
    simp [updateNumber, counted, parentUpdateID, known]
  refine .inr ⟨changed, ?_⟩
  show updateNumber after r ≡ updateNumber d r + 1 [MOD 2 ^ 32]
  rw [before, now]
  exact updateNumber_succ box.updateID

end Growth

theorem callStep_stamped (table : VfsTable d) (taken : CallStep d call after)
    (sound : ¬ FallsBack d call) (member : r ∈ d.registered) :
    Stamped (childrenOf · r) (updateNumber · r) (2 ^ 32) d call after := by
  have allocated := table.allocated.registered r member
  cases callStep_outcome table.allocated taken with
  | placed item parent containerId adds chosen placed grown fresh empty =>
      by_cases isParent : r = parent
      · obtain ⟨holder, box, updateID, isContainer, -, -⟩ := placed.listed
        subst isParent
        exact stamped_grown isContainer.containerOf grown fun missing =>
          sound ⟨containerId, adds, missing⟩
      · exact stamped_of_containerOf (by
          simp [Dlna.containerOf, placed.others r allocated.ne isParent])
  | alone item declines adopted fresh empty =>
      exact stamped_of_containerOf (by simp [Dlna.containerOf, adopted.others r allocated.ne])
  | rejected declines rejected => exact stamped_of_containerOf (rejected.containerOf r)
  | idle declines registered heap => exact stamped_of_containerOf (by simp [Dlna.containerOf, heap])
  | removed x declines selected freed spares =>
      exact stamped_of_containerOf (congrFun freed.containerOf r)

theorem fallsBack_unstamped (table : VfsTable d) (taken : CallStep d call after)
    (falls : FallsBack d call) : ∃ root ∈ d.registered, root ∈ after.registered ∧
      childrenOf after root ≠ childrenOf d root ∧ updateIDOf after root = updateIDOf d root := by
  obtain ⟨containerId, adds, missing⟩ := falls
  cases callStep_outcome table.allocated taken with
  | placed item parent asked adds' chosen placed grown fresh empty =>
      obtain rfl := adds.unique adds'
      obtain ⟨holder, box, updateID, isContainer, -, -⟩ := placed.listed
      obtain ⟨changed, counted⟩ := childrenOf_grown isContainer.containerOf grown
      refine ⟨parent, chosen.registered, by simp [placed.registered, chosen.registered], changed, ?_⟩
      rw [counted, parentUpdateID, if_pos missing, updateIDOf, isContainer.containerOf]
      rfl
  | alone item declines => exact absurd adds (declines containerId)
  | rejected declines => exact absurd adds (declines containerId)
  | idle declines => exact absurd adds (declines containerId)
  | removed x declines => exact absurd adds (declines containerId)

/-- The moments before and after `between` are told apart by the update id of every container that
stays registered and whose list changes, less than 2^32 times. -/
def TellsApart (s : Dlna) (between : List (Call × Dlna)) : Prop :=
  ∀ r ∈ s.registered, Links (fun _ _ t => r ∈ t.registered) s between →
    0 < changes (childrenOf · r) s between → changes (childrenOf · r) s between < 2 ^ 32 →
      updateIDOf (final s between) r ≠ updateIDOf s r

def UpdateIDsSound (start : Dlna) (history : List (Call × Dlna)) : Prop :=
  ∀ before between later, history = before ++ between ++ later →
    TellsApart (final start before) between

theorem tellsApart {s : Dlna} (table : VfsTable s) {between : List (Call × Dlna)}
    (run : Links CallStep s between) (sound : Links (fun d call _ => ¬ FallsBack d call) s between) :
    TellsApart s between := by
  intro r member stays changed few same
  have stamped : Links (Stamped (childrenOf · r) (updateNumber · r) (2 ^ 32)) s between := by
    have preserved (d : Dlna) (call : Call) (after : Dlna)
        (here : VfsTable d ∧ r ∈ d.registered)
        (move : (CallStep d call after ∧ ¬ FallsBack d call) ∧ r ∈ after.registered) :
        VfsTable after ∧ r ∈ after.registered := ⟨here.1.step move.1.1, move.2⟩
    refine links_of_invariant preserved ?_ ⟨table, member⟩ ((run.and sound).and stays)
    rintro d call after ⟨table, member⟩ ⟨⟨taken, sound⟩, -⟩
    exact callStep_stamped table taken sound member
  exact stamp_differs stamped changed few (by simp [updateNumber, same])

theorem not_tellsApart (table : VfsTable d) (taken : CallStep d call after)
    (falls : FallsBack d call) : ¬ TellsApart d [(call, after)] := by
  intro apart
  obtain ⟨root, member, kept, changed, same⟩ := fallsBack_unstamped table taken falls
  have once : changes (childrenOf · root) d [(call, after)] = 1 := by
    simp [changes, changed]
  exact apart root member ⟨kept, trivial⟩ (by simp [once]) (by simp [once]) same

theorem updateIDs_sound_iff (getMediaProfile : Text → Option DlnaProfile) (db : Option Store)
    {history : List (Call × Dlna)} (run : Links CallStep (dlnaStart getMediaProfile db) history) :
    UpdateIDsSound (dlnaStart getMediaProfile db) history ↔
      Links (fun d call _ => ¬ FallsBack d call) (dlnaStart getMediaProfile db) history := by
  have start := dlnaStart_vfsTable getMediaProfile db
  have kept : ∀ d call after, VfsTable d → CallStep d call after → VfsTable after :=
    fun _ _ _ table taken => table.step taken
  constructor
  · intro sound
    refine links_of_cuts fun before call after later cut falls => ?_
    rw [cut, links_append] at run
    have table := invariant_final kept start run.1
    exact not_tellsApart table run.2.1 falls (sound before [(call, after)] later (by simp [cut]))
  · rintro sound before between later rfl
    rw [List.append_assoc, links_append, links_append] at run sound
    exact tellsApart (invariant_final kept start run.1) run.2.1 sound.2.1

/-- A container that is asked for below the unknown id 99. -/
theorem fallback_not_sound :
    ∃ after, Links CallStep (dlnaStart (fun _ => none) none)
        [(.addContainer "a".toList 1 99, after)] ∧
      ¬ UpdateIDsSound (dlnaStart (fun _ => none) none)
        [(.addContainer "a".toList 1 99, after)] := by
  obtain ⟨after, taken⟩ : ∃ after, CallStep (dlnaStart (fun _ => none) none)
      (.addContainer "a".toList 1 99) after := ⟨_, 1, rfl⟩
  have falls : FallsBack (dlnaStart (fun _ => none) none) (.addContainer "a".toList 1 99) := by
    refine ⟨99, ⟨rfl, by simp [dlnaStart, dlnaInit], ?_⟩, rfl⟩
    rw [adoptsItself_iff (by simp [dlnaStart, dlnaInit])]
    exact fun same => absurd (Except.ok.inj same) (by decide)
  exact ⟨after, ⟨taken, trivial⟩, fun sound =>
    not_tellsApart (dlnaStart_vfsTable _ _) taken falls (sound [] [(_, after)] [] rfl)⟩

theorem known_container_sound : UpdateIDsSound (dlnaStart (fun _ => none) none)
    [(.addContainer "a".toList 1 0, oneContainer)] := by
  have taken : CallStep (dlnaStart (fun _ => none) none) (.addContainer "a".toList 1 0)
      oneContainer := ⟨1, rfl⟩
  have run : Links CallStep (dlnaStart (fun _ => none) none)
      [(.addContainer "a".toList 1 0, oneContainer)] := ⟨taken, trivial⟩
  refine (updateIDs_sound_iff _ _ run).mpr ⟨?_, trivial⟩
  rintro ⟨containerId, ⟨rfl, -⟩, missing⟩
  exact absurd missing (by decide)

def SystemUpdateIDReveals (d after : Dlna) : Prop :=
  ∀ ev : ActionEvent, ev.status = true → ev.response = [] → ∃ first second,
    cdsGetSystemUpdateId d ev = .ok (true, first) ∧
      cdsGetSystemUpdateId after ev = .ok (true, second) ∧
        first.reply cdsDidlUpdateId ≠ second.reply cdsDidlUpdateId

theorem cdsGetSystemUpdateId_ok {ev : ActionEvent} {root : Ref} {item : VfsItem}
    (active : ev.status = true) (fresh : ev.response = []) (isRoot : d.vfsRoot = some root)
    (isContainer : IsContainer d root item box) :
    ∃ answer, cdsGetSystemUpdateId d ev = .ok (true, answer) ∧
      answer.reply cdsDidlUpdateId = some (decimal box.updateID.toNat) := by
  have read : d.readItem root = .ok item := by
    simp [Dlna.readItem, isContainer.1, isContainer.2.1]
  have none : ev.reply cdsDidlUpdateId = none := by simp [ActionEvent.reply, fresh]
  refine ⟨_, ?_, reply_upnpAddResponse_new active none⟩
  simp [cdsGetSystemUpdateId, isRoot, read, isContainer.2.2, active, Bind.bind, Except.bind]

theorem reveals_iff (table : VfsTable d) (table' : VfsTable after) {root : Ref}
    (isRoot : d.vfsRoot = some root) (isRoot' : after.vfsRoot = some root) :
    SystemUpdateIDReveals d after ↔ updateIDOf after root ≠ updateIDOf d root := by
  obtain ⟨item, box, isContainer⟩ := table.root_container isRoot
  obtain ⟨item', box', isContainer'⟩ := table'.root_container isRoot'
  have different : updateIDOf after root ≠ updateIDOf d root ↔
      decimal box.updateID.toNat ≠ decimal box'.updateID.toNat := by
    simp only [updateIDOf, isContainer.containerOf, isContainer'.containerOf, Option.map_some, Ne,
      Option.some.injEq, decimal_injective.eq_iff, UInt32.toNat_inj, eq_comm]
  rw [different]
  constructor
  · intro reveals
    obtain ⟨ev, active, fresh⟩ : ∃ ev : ActionEvent, ev.status = true ∧ ev.response = [] :=
      ⟨⟨true, [], 0, [], []⟩, rfl, rfl⟩
    obtain ⟨first, second, answered, answered', differ⟩ := reveals ev active fresh
    obtain ⟨first', again, reply⟩ := cdsGetSystemUpdateId_ok active fresh isRoot isContainer
    obtain ⟨second', again', reply'⟩ := cdsGetSystemUpdateId_ok active fresh isRoot' isContainer'
    obtain ⟨-, rfl⟩ := Prod.mk.inj (Except.ok.inj (answered.symm.trans again))
    obtain ⟨-, rfl⟩ := Prod.mk.inj (Except.ok.inj (answered'.symm.trans again'))
    rw [reply, reply'] at differ
    exact fun same => differ (congrArg some same)
  · intro differ ev active fresh
    obtain ⟨first, answered, reply⟩ := cdsGetSystemUpdateId_ok active fresh isRoot isContainer
    obtain ⟨second, answered', reply'⟩ := cdsGetSystemUpdateId_ok active fresh isRoot' isContainer'
    refine ⟨first, second, answered, answered', ?_⟩
    rw [reply, reply']
    exact fun same => differ (Option.some.inj same)

theorem vfsRoot_of_sublist {root : Ref} (smaller : after.registered.Sublist d.registered)
    (nodup : d.registered.Nodup) (isRoot : d.vfsRoot = some root)
    (kept : root ∈ after.registered) : after.vfsRoot = some root := by
  obtain ⟨rest, entries⟩ : ∃ rest, d.registered = root :: rest := List.head?_eq_some_iff.mp isRoot
  rw [entries] at smaller nodup
  rcases List.sublist_cons_iff.mp smaller with within | ⟨kept', same, -⟩
  · exact absurd (within.subset kept) (List.nodup_cons.mp nodup).1
  · simp [Dlna.vfsRoot, same]

theorem updateIDOf_placed {item : VfsItem} {parent root : Ref} {containerId : UInt32}
    (member : root ∈ d.registered) (table : VfsTable d) (chosen : ParentOf d containerId parent)
    (placed : Placed d item parent after) (grown : Grown d containerId parent after) :
    updateIDOf after root ≠ updateIDOf d root ↔ vfsGetItemById d containerId = some root := by
  by_cases isParent : root = parent
  · subst isParent
    obtain ⟨holder, box, updateID, isContainer, -, -⟩ := placed.listed
    have was := isContainer.containerOf
    rw [(childrenOf_grown was grown).2, updateIDOf, was, parentUpdateID]
    rcases chosen with found | ⟨missing, -⟩
    · simp [found]
    · simp [missing]
  · have same : after.containerOf root = d.containerOf root := by
      simp [Dlna.containerOf, placed.others root (table.allocated.registered root member).ne isParent]
    have notAsked : vfsGetItemById d containerId ≠ some root := by
      rcases chosen with found | ⟨missing, -⟩
      · rw [found]
        exact fun equal => isParent (Option.some.inj equal).symm
      · simp [missing]
    exact ⟨fun differ => absurd (kept_of_containerOf same).2 differ,
      fun asked => absurd asked notAsked⟩

def AddsToRoot (d : Dlna) (call : Call) : Prop :=
  ∃ containerId, Adds d call containerId ∧ vfsGetItemById d containerId = d.vfsRoot

theorem systemUpdateID_reveals_iff {getMediaProfile : Text → Option DlnaProfile}
    {db : Option Store} {calls : List Call}
    (reached : Reaches CallStep (dlnaStart getMediaProfile db) calls d) {root : Ref}
    (isRoot : d.vfsRoot = some root) (taken : CallStep d call after)
    (spared : ¬ Selects d root call) (changed : ¬ ∀ r, r ∈ after.registered ↔ r ∈ d.registered) :
    SystemUpdateIDReveals d after ↔ AddsToRoot d call := by
  have table := reaches_vfsTable reached
  have nonempty : d.registered ≠ [] := List.ne_nil_of_mem (List.mem_of_mem_head? isRoot)
  have allocated := table.allocated.registered root (List.mem_of_mem_head? isRoot)
  cases callStep_outcome table.allocated taken with
  | placed item parent containerId adds chosen placed grown fresh empty =>
      have isRoot' := (placed.vfsRoot nonempty).trans isRoot
      have asks : AddsToRoot d call ↔ vfsGetItemById d containerId = some root := by
        rw [← isRoot]
        refine ⟨fun ⟨asked, adds', isAsked⟩ => ?_, fun isAsked => ⟨containerId, adds, isAsked⟩⟩
        rwa [adds.unique adds']
      rw [reveals_iff table (table.step taken) isRoot isRoot', asks]
      exact updateIDOf_placed (List.mem_of_mem_head? isRoot) table chosen placed grown
  | alone item declines adopted fresh empty =>
      have isRoot' := (vfsRoot_append nonempty adopted.registered).trans isRoot
      rw [reveals_iff table (table.step taken) isRoot isRoot']
      have same : after.containerOf root = d.containerOf root := by
        simp [Dlna.containerOf, adopted.others root allocated.ne]
      exact ⟨fun differ => absurd (kept_of_containerOf same).2 differ,
        fun ⟨containerId, adds, _⟩ => absurd adds (declines containerId)⟩
  | rejected declines rejected => exact absurd (by simp [rejected.registered]) changed
  | idle declines registered heap => exact absurd (by simp [registered]) changed
  | removed x declines selected freed spares =>
      have other : root ≠ x := fun same => spared (same ▸ selected)
      have kept := (spares root other).2 (table.root_unlisted isRoot) (List.mem_of_mem_head? isRoot)
      have isRoot' := vfsRoot_of_sublist freed.sublist table.nodup isRoot kept
      rw [reveals_iff table (table.step taken) isRoot isRoot']
      exact ⟨fun differ => absurd (kept_of_containerOf (congrFun freed.containerOf root)).2 differ,
        fun ⟨containerId, adds, _⟩ => absurd adds (declines containerId)⟩

theorem oneContainer_reached :
    Reaches CallStep (dlnaStart (fun _ => none) none) [.addContainer "a".toList 1 0] oneContainer :=
  ⟨oneContainer, ⟨1, rfl⟩, rfl⟩

theorem nested_addition_unrevealed :
    ∃ after, Reaches CallStep (dlnaStart (fun _ => none) none) [.addContainer "a".toList 1 0]
        oneContainer ∧ CallStep oneContainer (.addContainer "b".toList 2 1) after ∧
      2 ∈ after.registered ∧ 2 ∉ oneContainer.registered ∧
      ¬ SystemUpdateIDReveals oneContainer after := by
  obtain ⟨after, taken, registered, sameRoot, sameID⟩ : ∃ after,
      CallStep oneContainer (.addContainer "b".toList 2 1) after ∧ after.registered = [0, 1, 2] ∧
        after.vfsRoot = some 0 ∧ updateIDOf after 0 = updateIDOf oneContainer 0 :=
    ⟨_, ⟨2, rfl⟩, rfl, rfl, rfl⟩
  have table := reaches_vfsTable oneContainer_reached
  refine ⟨after, oneContainer_reached, taken, by simp [registered], by simp [oneContainer], ?_⟩
  rw [reveals_iff table (table.step taken) rfl sameRoot]
  exact not_not.mpr sameID

theorem addition_to_root_revealed :
    ∃ after, CallStep oneContainer (.addContainer "b".toList 2 0) after ∧
      SystemUpdateIDReveals oneContainer after := by
  obtain ⟨after, taken, registered⟩ : ∃ after,
      CallStep oneContainer (.addContainer "b".toList 2 0) after ∧ after.registered = [0, 1, 2] :=
    ⟨_, ⟨2, rfl⟩, rfl⟩
  have changed : ¬ ∀ r, r ∈ after.registered ↔ r ∈ oneContainer.registered := by
    intro same
    simpa [registered, oneContainer] using (same 2).mp
  refine ⟨after, taken, (systemUpdateID_reveals_iff oneContainer_reached rfl taken (fun selected =>
    selected) changed).mpr ⟨0, ⟨rfl, by simp [oneContainer], ?_⟩, rfl⟩⟩
  rw [adoptsItself_iff (by simp [oneContainer])]
  exact fun same => absurd (Except.ok.inj same) (by decide)

end Libdlna
