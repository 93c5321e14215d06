import Libdlna.Avts.Steps

set_option autoImplicit false

/-!
# Playlists

What is put into a playlist, and in which order the thread finds it again. Entries are looked up by
the checksum of their URI.
-/

namespace Libdlna

open CString KeyedTable Runs

variable {dmp after : Dmp} {uri : Text} {probe : Probe} {r : Nat}

namespace Dmp

def entryOf (dmp : Dmp) (r : Nat) : Option (UInt32 × DlnaItem) :=
  dmp.items[r]?.map fun entry => (entry.id, entry.item)

def entries (dmp : Dmp) : List (Option (UInt32 × DlnaItem)) := dmp.playlist.map dmp.entryOf

structure Valid (dmp : Dmp) : Prop where
  allocated : ∀ r ∈ dmp.playlist, r < dmp.items.length
  nodup : dmp.playlist.Nodup

theorem idOf_eq : dmp.idOf r = (dmp.entryOf r).map Prod.fst := by
  simp [idOf, entryOf, Function.comp_def]

theorem entries_id (dmp : Dmp) : dmp.playlist.map dmp.idOf = dmp.entries.map (Option.map Prod.fst) := by
  rw [entries, List.map_map]
  exact List.map_congr_left fun r _ => idOf_eq

end Dmp

def newEntries (uri : Text) (probe : Probe) : List (Option (UInt32 × DlnaItem)) :=
  match dlnaItemNew uri probe with
  | none => []
  | some item => [some (crc32 0 uri, item)]

theorem newEntries_accepted {item : DlnaItem} (accepted : dlnaItemNew uri probe = some item) :
    newEntries uri probe = [some (crc32 0 uri, item)] := by
  rw [newEntries, accepted]

theorem linkLast_getElem? (dmp : Dmp) (added : Nat) :
    (linkLast dmp added)[r]?.map (fun entry => (entry.id, entry.item)) = dmp.entryOf r := by
  unfold linkLast
  cases dmp.playlist.getLast? with
  | none => rfl
  | some last =>
      by_cases isLast : last = r
      · simp [Dmp.entryOf, isLast, Function.comp_def]
      · simp [Dmp.entryOf, isLast]

theorem linkLast_length (dmp : Dmp) (added : Nat) :
    (linkLast dmp added).length = dmp.items.length := by
  unfold linkLast
  cases dmp.playlist.getLast? <;> simp

theorem playlistAddItem_accepted (dmp : Dmp) {item : DlnaItem}
    (accepted : dlnaItemNew uri probe = some item) :
    (playlistAddItem dmp uri probe).playlist = dmp.playlist ++ [dmp.items.length] ∧
      (playlistAddItem dmp uri probe).items.length = dmp.items.length + 1 ∧
      (playlistAddItem dmp uri probe).entryOf dmp.items.length = some (crc32 0 uri, item) ∧
      ∀ r < dmp.items.length, (playlistAddItem dmp uri probe).entryOf r = dmp.entryOf r := by
  have lengths := linkLast_length dmp dmp.items.length
  simp only [playlistAddItem, accepted]
  refine ⟨trivial, by simp [lengths], ?_, fun r old => ?_⟩
  · simp [Dmp.entryOf, lengths]
  · rw [← linkLast_getElem? dmp dmp.items.length]
    simp [Dmp.entryOf, List.getElem?_append_left (lengths ▸ old)]

theorem playlistAddItem_rejected (rejected : dlnaItemNew uri probe = none) :
    playlistAddItem dmp uri probe = dmp := by
  simp only [playlistAddItem, rejected]

theorem Dmp.Valid.playlistAddItem (valid : dmp.Valid) (uri : Text) (probe : Probe) :
    (playlistAddItem dmp uri probe).Valid := by
  cases made : dlnaItemNew uri probe with
  | none => rwa [playlistAddItem_rejected made]
  | some item =>
      obtain ⟨playlist, length, -, -⟩ := playlistAddItem_accepted dmp made
      constructor
      · intro r member
        rw [playlist] at member
        rw [length]
        rcases List.mem_append.mp member with old | new
        · exact Nat.lt_succ_of_lt (valid.allocated r old)
        · rw [List.mem_singleton.mp new]
          exact Nat.lt_succ_self _
      · rw [playlist, List.nodup_append]
        refine ⟨valid.nodup, List.nodup_singleton _, fun r old r' new same => ?_⟩
        rw [List.mem_singleton] at new
        exact absurd (valid.allocated r old) (by omega)

theorem playlistAddItem_entries (valid : dmp.Valid) (uri : Text) (probe : Probe) :
    (playlistAddItem dmp uri probe).entries = dmp.entries ++ newEntries uri probe := by
  cases made : dlnaItemNew uri probe with
  | none => rw [playlistAddItem_rejected made, newEntries, made, List.append_nil]
  | some item =>
      obtain ⟨playlist, -, isNew, kept⟩ := playlistAddItem_accepted dmp made
      rw [Dmp.entries, playlist, List.map_append, newEntries_accepted made]
      congr 1
      · exact List.map_congr_left fun r old => kept r (valid.allocated r old)
      · rw [List.map_singleton, isNew]

def playlistFollow (dmp : Dmp) (r : Nat) : Option Nat := (dmp.idOf r).bind (playlistNext dmp)

theorem nextOfCurrent_follow {nextItem : Option Nat} (isCurrent : dmp.currentItem = some r)
    (found : nextOfCurrent dmp = .ok nextItem) : nextItem = playlistFollow dmp r := by
  unfold nextOfCurrent at found
  rw [isCurrent, Option.bind_some] at found
  unfold playlistFollow
  cases id : dmp.idOf r with
  | none => simp [id] at found
  | some id' =>
      rw [id] at found
      exact (Except.ok.inj found).symm

theorem Dmp.Valid.idOf_isSome (valid : dmp.Valid) (member : r ∈ dmp.playlist) :
    ∃ id, dmp.idOf r = some id := by
  have allocated := valid.allocated r member
  exact ⟨_, by rw [Dmp.idOf, List.getElem?_eq_getElem allocated]; rfl⟩

theorem playlistNext_found {id : UInt32} (notZero : id ≠ 0) {found : Nat}
    (isFound : find dmp.idOf dmp.playlist (some id) = some found) :
    playlistNext dmp id = KeyedTable.after dmp.playlist found := by
  rw [playlistNext, if_pos notZero, isFound]

theorem playlistFollow_iff (valid : dmp.Valid) (member : r ∈ dmp.playlist) :
    playlistFollow dmp r = KeyedTable.after dmp.playlist r ↔
      dmp.idOf r ≠ some 0 ∧ find dmp.idOf dmp.playlist (dmp.idOf r) = some r := by
  obtain ⟨id, isId⟩ := valid.idOf_isSome member
  rw [playlistFollow, isId, Option.bind_some]
  constructor
  · intro follows
    have notZero : id ≠ 0 := by
      rintro rfl
      rw [playlistNext_zero] at follows
      exact after_ne_head valid.nodup member follows.symm
    refine ⟨fun isZero => notZero (Option.some.inj isZero), ?_⟩
    have present : (find dmp.idOf dmp.playlist (some id)).isSome :=
      find_isSome.mpr ⟨r, member, isId⟩
    obtain ⟨found, isFound⟩ := Option.isSome_iff_exists.mp present
    rw [playlistNext_found notZero isFound] at follows
    rw [isFound, after_injective valid.nodup (find_mem isFound) member follows]
  · rintro ⟨notZero, isFound⟩
    exact playlistNext_found (fun isZero => notZero (congrArg some isZero)) isFound

theorem playlist_visits_iff (valid : dmp.Valid) :
    Visits (playlistFollow dmp) (playlistNext dmp 0) dmp.playlist ↔
      (∀ r ∈ dmp.playlist, dmp.idOf r ≠ some 0) ∧ (dmp.playlist.map dmp.idOf).Nodup := by
  rw [playlistNext_zero, visits_iff valid.nodup, ← find_self_iff valid.nodup]
  refine Iff.trans (forall₂_congr fun r member => playlistFollow_iff valid member) ?_
  exact ⟨fun both => ⟨fun r member => (both r member).1, fun r member => (both r member).2⟩,
    fun both r member => ⟨both.1 r member, both.2 r member⟩⟩

def playlistAddItems (dmp : Dmp) (adds : List (Text × Probe)) : Dmp :=
  adds.foldl (fun dmp add => playlistAddItem dmp add.1 add.2) dmp

theorem Dmp.Valid.playlistAddItems (valid : dmp.Valid) (adds : List (Text × Probe)) :
    (playlistAddItems dmp adds).Valid := by
  induction adds generalizing dmp with
  | nil => exact valid
  | cons add rest ih => exact ih (valid.playlistAddItem add.1 add.2)

theorem playlistAddItems_entries (valid : dmp.Valid) (adds : List (Text × Probe)) :
    (playlistAddItems dmp adds).entries =
      dmp.entries ++ adds.flatMap fun add => newEntries add.1 add.2 := by
  induction adds generalizing dmp with
  | nil => simp [playlistAddItems]
  | cons add rest ih =>
      have first := playlistAddItem_entries valid add.1 add.2
      have others := ih (valid.playlistAddItem add.1 add.2)
      rw [first, List.append_assoc] at others
      exact others

theorem playlistEmpty_valid (dmp : Dmp) : (playlistEmpty dmp).Valid :=
  ⟨by simp [playlistEmpty], List.nodup_nil⟩

def AllAccepted (adds : List (Text × Probe)) : Prop :=
  ∀ add ∈ adds, ∃ item, dlnaItemNew add.1 add.2 = some item

def uriIds (adds : List (Text × Probe)) : List UInt32 := adds.map fun add => crc32 0 add.1

theorem newEntries_ids {adds : List (Text × Probe)} (accepted : AllAccepted adds) :
    (adds.flatMap fun add => newEntries add.1 add.2).map (Option.map Prod.fst) =
      (uriIds adds).map some := by
  induction adds with
  | nil => rfl
  | cons add rest ih =>
      obtain ⟨item, made⟩ := accepted add List.mem_cons_self
      have others := ih fun add' later => accepted add' (List.mem_cons_of_mem _ later)
      rw [List.flatMap_cons, newEntries_accepted made, List.map_append, others]
      rfl

structure TraversedInOrder (dmp : Dmp) (adds : List (Text × Probe)) : Prop where
  visits : Visits (playlistFollow dmp) (playlistNext dmp 0) dmp.playlist
  once : dmp.playlist.Nodup
  inOrder : dmp.entries = adds.flatMap fun add => newEntries add.1 add.2

theorem traversed_in_order_iff (dmp : Dmp) {adds : List (Text × Probe)}
    (accepted : AllAccepted adds) :
    TraversedInOrder (playlistAddItems (playlistEmpty dmp) adds) adds ↔
      (uriIds adds).Nodup ∧ 0 ∉ uriIds adds := by
  have valid := (playlistEmpty_valid dmp).playlistAddItems adds
  have entries := playlistAddItems_entries (playlistEmpty_valid dmp) adds
  have ids := (Dmp.entries_id (playlistAddItems (playlistEmpty dmp) adds)).trans
    ((congrArg _ entries).trans (newEntries_ids accepted))
  have distinct : ((playlistAddItems (playlistEmpty dmp) adds).playlist.map
      (playlistAddItems (playlistEmpty dmp) adds).idOf).Nodup ↔ (uriIds adds).Nodup := by
    rw [ids]
    exact List.nodup_map_iff (Option.some_injective _)
  have notZero : (∀ r ∈ (playlistAddItems (playlistEmpty dmp) adds).playlist,
      (playlistAddItems (playlistEmpty dmp) adds).idOf r ≠ some 0) ↔ 0 ∉ uriIds adds := by
    have zeros : some 0 ∈ (playlistAddItems (playlistEmpty dmp) adds).playlist.map
        (playlistAddItems (playlistEmpty dmp) adds).idOf ↔ 0 ∈ uriIds adds := by
      rw [ids]
      exact List.mem_map_of_injective (Option.some_injective _)
    rw [← zeros, List.mem_map]
    exact ⟨fun each ⟨r, member, isZero⟩ => each r member isZero,
      fun none r member isZero => none ⟨r, member, isZero⟩⟩
  constructor
  · intro traversed
    obtain ⟨nonzero, nodup⟩ := (playlist_visits_iff valid).mp traversed.visits
    exact ⟨distinct.mp nodup, notZero.mp nonzero⟩
  · rintro ⟨nodup, nonzero⟩
    exact ⟨(playlist_visits_iff valid).mpr ⟨notZero.mpr nonzero, distinct.mpr nodup⟩, valid.nodup,
      entries⟩

def mp3Adds (uris : List Text) : List (Text × Probe) := uris.map fun uri => (uri, mp3Probe)

theorem mp3Adds_accepted (uris : List Text) : AllAccepted (mp3Adds uris) := by
  intro add member
  obtain ⟨uri, -, rfl⟩ := List.mem_map.mp member
  exact ⟨_, rfl⟩

theorem twoFiles_traversed : TraversedInOrder
    (playlistAddItems (playlistEmpty avtsSetThread) (mp3Adds ["/a.mp3".toList, "/b.mp3".toList]))
    (mp3Adds ["/a.mp3".toList, "/b.mp3".toList]) :=
  (traversed_in_order_iff avtsSetThread (mp3Adds_accepted _)).mpr (by decide +kernel)

/-- The same URI twice: the lookup answers the last entry, which is followed by none. -/
theorem sameFile_not_traversed : AllAccepted (mp3Adds ["/a.mp3".toList, "/a.mp3".toList]) ∧
    ¬ TraversedInOrder (playlistAddItems (playlistEmpty avtsSetThread)
        (mp3Adds ["/a.mp3".toList, "/a.mp3".toList]))
      (mp3Adds ["/a.mp3".toList, "/a.mp3".toList]) := by
  refine ⟨mp3Adds_accepted _, fun traversed => ?_⟩
  have valid := (playlistEmpty_valid avtsSetThread).playlistAddItems
    (mp3Adds ["/a.mp3".toList, "/a.mp3".toList])
  have distinct := ((playlist_visits_iff valid).mp traversed.visits).2
  rw [Dmp.entries_id, traversed.inOrder, newEntries_ids (mp3Adds_accepted _)] at distinct
  simp [mp3Adds, uriIds] at distinct

def Queues (dmp : Dmp) (action : AvtsAction) (after : Dmp) : Prop :=
  match action with
  | .setUri uri probe => after.entries =
      (if dmp.state = .stopped then [] else dmp.entries) ++ newEntries uri probe
  | .setNextUri uri probe => after.entries = dmp.entries ++ newEntries uri probe
  | _ => True

/-- SetNextAVTransportURI with an accepted URI on an empty playlist. -/
def DropsHead (dmp : Dmp) : AvtsAction → Prop
  | .setNextUri uri probe => dmp.playlist = [] ∧ ∃ item, dlnaItemNew uri probe = some item
  | _ => False

theorem avtsSetUri_entries (valid : dmp.Valid) : (avtsSetUri dmp uri probe).entries =
    (if dmp.state = .stopped then [] else dmp.entries) ++ newEntries uri probe := by
  unfold avtsSetUri
  by_cases stopped : dmp.state = .stopped
  · rw [if_pos stopped, if_pos stopped, playlistAddItem_entries (playlistEmpty_valid dmp)]
    rfl
  · rw [if_neg stopped, if_neg stopped, playlistAddItem_entries valid]

theorem avtsSetNextUri_entries_iff (valid : dmp.Valid) :
    (avtsSetNextUri dmp uri probe).entries = dmp.entries ++ newEntries uri probe ↔
      ¬ DropsHead dmp (.setNextUri uri probe) := by
  unfold avtsSetNextUri
  by_cases empty : dmp.playlist = []
  · rw [if_pos empty]
    cases made : dlnaItemNew uri probe with
    | none => simp [newEntries, DropsHead, made]
    | some item => simp [newEntries_accepted made, DropsHead, made, empty]
  · rw [if_neg empty, playlistAddItem_entries valid]
    simp [DropsHead, empty]

theorem threadStep_playlist (taken : ThreadStep dmp after) :
    after.items = dmp.items ∧ after.playlist = dmp.playlist := by
  cases taken <;> simp

theorem Dmp.Valid.congr (valid : dmp.Valid) (items : after.items = dmp.items)
    (playlist : after.playlist = dmp.playlist) : after.Valid :=
  ⟨by rw [items, playlist]; exact valid.allocated, by rw [playlist]; exact valid.nodup⟩

theorem Dmp.Valid.avtsSetUri (valid : dmp.Valid) : (avtsSetUri dmp uri probe).Valid := by
  unfold Libdlna.avtsSetUri
  by_cases stopped : dmp.state = .stopped
  · rw [if_pos stopped]
    exact (playlistEmpty_valid dmp).playlistAddItem uri probe
  · rw [if_neg stopped]
    exact valid.playlistAddItem uri probe

theorem Dmp.Valid.avtsSetNextUri (valid : dmp.Valid) : (avtsSetNextUri dmp uri probe).Valid := by
  unfold Libdlna.avtsSetNextUri
  split
  · exact valid
  · exact valid.playlistAddItem uri probe

def ValidPlayer (avts : Option Dmp) : Prop := ∀ dmp, avts = some dmp → dmp.Valid

theorem validPlayer_step {avts later : Option Dmp} {action : AvtsAction} (valid : ValidPlayer avts)
    (taken : AvtsStep avts action later) : ValidPlayer later := by
  rintro after rfl
  cases avts with
  | none =>
      obtain rfl := avtsStep_unregistered taken
      exact ⟨by simp [avtsSetThread], List.nodup_nil⟩
  | some dmp =>
      have known := valid dmp rfl
      cases avtsStep_registered taken with
      | setUri uri probe items playlist =>
          rw [← Option.some.inj (Option.some.inj (Except.ok.inj taken))]
          exact known.avtsSetUri
      | setNextUri uri probe items playlist =>
          rw [← Option.some.inj (Option.some.inj (Except.ok.inj taken))]
          exact known.avtsSetNextUri
      | play | pause | next | stop => exact known.congr (by simp) (by simp)
      | thread ret _ moved =>
          obtain ⟨items, playlist⟩ := threadStep_playlist moved
          exact known.congr items playlist

theorem reaches_valid {actions : List AvtsAction}
    (reached : Reaches AvtsStep none actions (some dmp)) : dmp.Valid :=
  reached.invariant (fun _ _ _ valid taken => validPlayer_step valid taken)
    (fun _ none => by cases none) dmp rfl

theorem accepted_uris_queued_iff {actions : List AvtsAction}
    (reached : Reaches AvtsStep none actions (some dmp)) {action : AvtsAction}
    (taken : AvtsStep (some dmp) action (some after)) :
    Queues dmp action after ↔ ¬ DropsHead dmp action := by
  have valid := reaches_valid reached
  cases action with
  | setUri uri probe =>
      obtain rfl := Option.some.inj (Option.some.inj (Except.ok.inj taken))
      simp [Queues, DropsHead, avtsSetUri_entries valid]
  | setNextUri uri probe =>
      obtain rfl := Option.some.inj (Option.some.inj (Except.ok.inj taken))
      exact avtsSetNextUri_entries_iff valid
  | _ => simp [Queues, DropsHead]

theorem player_added : Reaches AvtsStep none [.setThread] (some avtsSetThread) := ⟨_, rfl, rfl⟩

theorem currentUri_queued : Queues avtsSetThread (.setUri "/a.mp3".toList mp3Probe)
    (avtsSetUri avtsSetThread "/a.mp3".toList mp3Probe) := by
  have taken : AvtsStep (some avtsSetThread) (.setUri "/a.mp3".toList mp3Probe)
      (some (avtsSetUri avtsSetThread "/a.mp3".toList mp3Probe)) := rfl
  exact (accepted_uris_queued_iff player_added taken).mpr fun drops => drops

theorem nextUri_dropped : Reaches AvtsStep none [.setThread] (some avtsSetThread) ∧
    AvtsStep (some avtsSetThread) (.setNextUri "/a.mp3".toList mp3Probe) (some avtsSetThread) ∧
      ¬ Queues avtsSetThread (.setNextUri "/a.mp3".toList mp3Probe) avtsSetThread := by
  refine ⟨player_added, rfl, fun queues => ?_⟩
  have lengths := congrArg List.length queues
  simp [newEntries, mp3Probe, dlnaItemNew] at lengths

end Libdlna
