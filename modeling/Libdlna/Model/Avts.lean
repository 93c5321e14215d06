import Libdlna.Shared.KeyedTable
import Libdlna.Shared.Runs
import Libdlna.Model.Crc32
import Libdlna.Model.Item

set_option autoImplicit false

/-!
# Media players

Items of a playlist are never released, so a pointer to one is its index in the list of all items
ever allocated for the player.
-/

namespace Libdlna

open CString

inductive PlayState where
  | noMedia
  | stopped
  | playing
  | pausing
  | recording
  | transitioning
  deriving DecidableEq

structure DmpItem where
  id : UInt32
  item : DlnaItem
  -- hh.next, which removing an item from the table leaves as it is
  next : Option Nat
  deriving DecidableEq

/-- Where a thread in `avts_thread_play` stands, with the local variables it still needs. -/
inductive Thread where
  -- before the first instruction
  | start
  -- at the head of the loop, before the first critical section
  | loop
  -- before the switch; with E_PAUSING, before the second critical section
  | dispatch (state : PlayState)
  -- before playitem_decodeframe
  | decode (state : PlayState) (nextItem : Option Nat)
  -- before instance_change_state (instance, E_TRANSITIONING)
  | transition
  -- before instance_change_state (instance, state), to be followed by the new current item
  | changeState (state : PlayState) (nextItem : Option Nat)
  -- before instance_change_current_item
  | changeItem (nextItem : Option Nat)
  -- in ithread_cond_wait: no signal has been sent since the sleep began
  | asleep
  -- in ithread_cond_wait, after a signal
  | signalled
  | returned
  deriving DecidableEq

structure Dmp where
  items : List DmpItem
  playlist : List Nat
  currentItem : Option Nat
  state : PlayState
  playthread : Thread
  -- the Stop requests that wait in ithread_join
  joining : Nat
  deriving DecidableEq

namespace Dmp

variable (dmp : Dmp)

def idOf (r : Nat) : Option UInt32 := dmp.items[r]?.map DmpItem.id

def signal : Dmp :=
  if dmp.playthread = .asleep then { dmp with playthread := .signalled } else dmp

theorem signal_awake : dmp.signal.playthread ≠ .asleep := by
  unfold signal
  split
  · simp
  · assumption

@[simp] theorem signal_items : dmp.signal.items = dmp.items := by
  unfold signal
  split <;> rfl

@[simp] theorem signal_playlist : dmp.signal.playlist = dmp.playlist := by
  unfold signal
  split <;> rfl

@[simp] theorem signal_currentItem : dmp.signal.currentItem = dmp.currentItem := by
  unfold signal
  split <;> rfl

@[simp] theorem signal_state : dmp.signal.state = dmp.state := by
  unfold signal
  split <;> rfl

end Dmp

def playlistEmpty (dmp : Dmp) : Dmp := { dmp with playlist := [] }

/-- `HASH_ADD_INT` makes the last item of the table point to the one that is added. -/
def linkLast (dmp : Dmp) (added : Nat) : List DmpItem :=
  match dmp.playlist.getLast? with
  | none => dmp.items
  | some last => dmp.items.modify last fun item => { item with next := some added }

def playlistAddItem (dmp : Dmp) (uri : Text) (probe : Probe) : Dmp :=
  match dlnaItemNew uri probe with
  | none => dmp
  | some item =>
      { dmp with
        items := linkLast dmp dmp.items.length ++ [⟨crc32 0 uri, item, none⟩]
        playlist := dmp.playlist ++ [dmp.items.length] }

theorem playlistAddItem_eq (dmp : Dmp) (uri : Text) (probe : Probe) :
    ∃ items added, playlistAddItem dmp uri probe =
      { dmp with items := items, playlist := dmp.playlist ++ added } := by
  unfold playlistAddItem
  cases dlnaItemNew uri probe with
  | none => exact ⟨dmp.items, [], by simp⟩
  | some item => exact ⟨_, _, rfl⟩

def playlistNext (dmp : Dmp) (id : UInt32) : Option Nat :=
  if id ≠ 0 then
    match KeyedTable.find dmp.idOf dmp.playlist (some id) with
    | some item => KeyedTable.after dmp.playlist item
    | none => dmp.playlist.head?
  else dmp.playlist.head?

def instanceChangeState (dmp : Dmp) (newstate : PlayState) : Dmp :=
  if dmp.state = .noMedia then dmp
  else
    match newstate with
    | .noMedia | .recording => dmp
    | .playing =>
        if dmp.state ≠ .recording then { dmp with state := newstate }.signal else dmp
    | .stopped => { dmp with state := newstate }.signal
    | .transitioning | .pausing =>
        if dmp.state = .playing then { dmp with state := newstate }.signal else dmp

theorem instanceChangeState_cases (dmp : Dmp) (newstate : PlayState) :
    instanceChangeState dmp newstate = dmp ∨
      instanceChangeState dmp newstate = { dmp with state := newstate }.signal := by
  unfold instanceChangeState
  cases newstate <;> grind

@[simp] theorem instanceChangeState_items (dmp : Dmp) (newstate : PlayState) :
    (instanceChangeState dmp newstate).items = dmp.items := by
  rcases instanceChangeState_cases dmp newstate with same | changed
  · rw [same]
  · simp [changed]

@[simp] theorem instanceChangeState_playlist (dmp : Dmp) (newstate : PlayState) :
    (instanceChangeState dmp newstate).playlist = dmp.playlist := by
  rcases instanceChangeState_cases dmp newstate with same | changed
  · rw [same]
  · simp [changed]

@[simp] theorem instanceChangeState_currentItem (dmp : Dmp) (newstate : PlayState) :
    (instanceChangeState dmp newstate).currentItem = dmp.currentItem := by
  rcases instanceChangeState_cases dmp newstate with same | changed
  · rw [same]
  · simp [changed]

def nextOfCurrent (dmp : Dmp) : Except Fault (Option Nat) :=
  match dmp.currentItem.bind dmp.idOf with
  | none => .error .nullDeref
  | some id => .ok (playlistNext dmp id)

def afterFrame (dmp : Dmp) (state : PlayState) (nextItem : Option Nat) (ret : Int) :
    Except Fault Thread :=
  if ret = 0 ∧ state = .playing then .ok .transition
  else if ret < 0 ∧ state = .playing then do
    let nextItem ← nextOfCurrent dmp
    .ok (if nextItem.isNone then .changeState .stopped none else .changeItem nextItem)
  else if ret ≠ 0 ∧ state = .transitioning then
    .ok (.changeState (if nextItem.isNone then .stopped else .playing) nextItem)
  else .ok .loop

/-- One step of `avts_thread_play`; `ret` is what `playitem_decodeframe` returns, if it is called.
A thread that sleeps or has returned takes no step. -/
def avtsThreadPlay (dmp : Dmp) (ret : Int) : Except Fault (Option Dmp) :=
  match dmp.playthread with
  | .start =>
      let currentItem := playlistNext dmp 0
      .ok (some { dmp with
        currentItem := currentItem
        playthread := if currentItem.isNone then .returned else .loop })
  | .loop => .ok (some { dmp with playthread := .dispatch dmp.state })
  | .dispatch .stopped => .ok (some { dmp with playthread := .returned })
  | .dispatch .playing => .ok (some { dmp with playthread := .decode .playing none })
  | .dispatch .transitioning => do
      let nextItem ← nextOfCurrent dmp
      .ok (some { dmp with playthread := .decode .transitioning nextItem })
  | .dispatch .pausing => .ok (some { dmp with playthread := .asleep })
  | .dispatch .noMedia | .dispatch .recording => .ok (some { dmp with playthread := .loop })
  | .decode state nextItem =>
      match dmp.currentItem with
      | none => .error .nullDeref
      | some _ => do
          let thread ← afterFrame dmp state nextItem ret
          .ok (some { dmp with playthread := thread })
  | .transition =>
      .ok (some { instanceChangeState dmp .transitioning with playthread := .loop })
  | .changeState state nextItem =>
      .ok (some { instanceChangeState dmp state with playthread := .changeItem nextItem })
  | .changeItem nextItem =>
      .ok (some { dmp with currentItem := nextItem, playthread := .loop })
  | .signalled => .ok (some { dmp with playthread := .loop })
  | .asleep | .returned => .ok none

def avtsSetThread : Dmp where
  items := []
  playlist := []
  currentItem := none
  state := .pausing
  playthread := .start
  joining := 0

def avtsSetUri (dmp : Dmp) (uri : Text) (probe : Probe) : Dmp :=
  playlistAddItem (if dmp.state = .stopped then playlistEmpty dmp else dmp) uri probe

/-- The new head of the hash table is dropped: an item added to an empty playlist is lost. -/
def avtsSetNextUri (dmp : Dmp) (uri : Text) (probe : Probe) : Dmp :=
  if dmp.playlist = [] then dmp else playlistAddItem dmp uri probe

theorem avtsSetUri_eq (dmp : Dmp) (uri : Text) (probe : Probe) :
    ∃ items playlist, avtsSetUri dmp uri probe = { dmp with items := items, playlist := playlist } ∧
      (dmp.state ≠ .stopped → dmp.playlist ⊆ playlist) := by
  unfold avtsSetUri
  by_cases stopped : dmp.state = .stopped
  · obtain ⟨items, added, same⟩ := playlistAddItem_eq (playlistEmpty dmp) uri probe
    rw [if_pos stopped, same]
    exact ⟨items, _, rfl, fun playing => absurd stopped playing⟩
  · obtain ⟨items, added, same⟩ := playlistAddItem_eq dmp uri probe
    rw [if_neg stopped, same]
    exact ⟨items, _, rfl, fun _ => List.subset_append_left _ _⟩

theorem avtsSetNextUri_eq (dmp : Dmp) (uri : Text) (probe : Probe) :
    ∃ items playlist,
      avtsSetNextUri dmp uri probe = { dmp with items := items, playlist := playlist } ∧
        dmp.playlist ⊆ playlist := by
  unfold avtsSetNextUri
  by_cases empty : dmp.playlist = []
  · rw [if_pos empty]
    exact ⟨dmp.items, dmp.playlist, rfl, List.Subset.refl _⟩
  · obtain ⟨items, added, same⟩ := playlistAddItem_eq dmp uri probe
    rw [if_neg empty, same]
    exact ⟨items, _, rfl, List.subset_append_left _ _⟩

inductive AvtsAction where
  -- SetAVTransportURI on an unknown instance, which goes on like one on a known instance
  | setThread
  | setUri (uri : Text) (probe : Probe)
  | setNextUri (uri : Text) (probe : Probe)
  | play
  | pause
  | next
  -- Stop takes two steps: the change of the state, and the return of ithread_join
  | stop
  | join
  -- a step of the play thread
  | thread (ret : Int)

/-- The actions on the instance with a fixed id, if it is registered. A request that names no
instance is answered with an error and changes nothing. -/
def AvtsAction.exec : Option Dmp → AvtsAction → Except Fault (Option (Option Dmp))
  | none, .setThread => .ok (some (some avtsSetThread))
  | none, .setUri _ _ | none, .join | none, .thread _ => .ok none
  | none, _ => .ok (some none)
  | some _, .setThread => .ok none
  | some dmp, .setUri uri probe => .ok (some (some (avtsSetUri dmp uri probe)))
  | some dmp, .setNextUri uri probe => .ok (some (some (avtsSetNextUri dmp uri probe)))
  | some dmp, .play => .ok (some (some (instanceChangeState dmp .playing)))
  | some dmp, .pause => .ok (some (some (instanceChangeState dmp .pausing)))
  | some dmp, .next => .ok (some (some (instanceChangeState dmp .transitioning)))
  | some dmp, .stop =>
      .ok (some (some { instanceChangeState dmp .stopped with joining := dmp.joining + 1 }))
  | some dmp, .join =>
      if dmp.joining ≠ 0 ∧ dmp.playthread = .returned then .ok (some none) else .ok none
  | some dmp, .thread ret => (avtsThreadPlay dmp ret).map fun after => after.map some

def AvtsStep (avts : Option Dmp) (action : AvtsAction) (after : Option Dmp) : Prop :=
  action.exec avts = .ok (some after)

end Libdlna
