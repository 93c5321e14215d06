import Libdlna.Model.Avts
import Libdlna.Shared.Outcome

set_option autoImplicit false

/-!
# Steps of the play thread

What an iteration of `avts_thread_play` can lead to.
-/

namespace Libdlna

open CString

variable {dmp after : Dmp} {ret : Int}

theorem playlistNext_mem {id : UInt32} {item : Nat} (next : playlistNext dmp id = some item) :
    item ∈ dmp.playlist := by
  unfold playlistNext at next
  split at next
  · split at next
    · exact KeyedTable.after_mem next
    · exact List.mem_of_mem_head? next
  · exact List.mem_of_mem_head? next

theorem nextOfCurrent_mem {nextItem : Option Nat} (found : nextOfCurrent dmp = .ok nextItem) :
    ∀ item ∈ nextItem, item ∈ dmp.playlist := by
  intro item isNext
  unfold nextOfCurrent at found
  split at found
  · cases found
  · obtain rfl := Except.ok.inj found
    exact playlistNext_mem isNext

inductive AfterFrame (dmp : Dmp) (nextItem : Option Nat) : Thread → Prop where
  | again : AfterFrame dmp nextItem .loop
  | transition : AfterFrame dmp nextItem .transition
  -- the playlist is at its end
  | finish : AfterFrame dmp nextItem (.changeState .stopped none)
  -- the item has failed
  | skip (item : Nat) (member : item ∈ dmp.playlist) : AfterFrame dmp nextItem (.changeItem item)
  | switch (item : Nat) (isNext : nextItem = some item) :
      AfterFrame dmp nextItem (.changeState .playing item)

theorem afterFrame_ok {state : PlayState} {nextItem : Option Nat} {thread : Thread}
    (decoded : afterFrame dmp state nextItem ret = .ok thread) :
    AfterFrame dmp nextItem thread := by
  unfold afterFrame at decoded
  split at decoded
  · obtain rfl := Except.ok.inj decoded
    exact .transition
  split at decoded
  · obtain ⟨found, isFound, decoded⟩ := Outcome.bind_ok.mp decoded
    obtain rfl := Except.ok.inj decoded
    cases found with
    | none => exact .finish
    | some item => exact .skip item (nextOfCurrent_mem isFound item rfl)
  split at decoded
  · obtain rfl := Except.ok.inj decoded
    cases nextItem with
    | none => exact .finish
    | some item => exact .switch item rfl
  · obtain rfl := Except.ok.inj decoded
    exact .again

theorem playlistNext_zero : playlistNext dmp 0 = dmp.playlist.head? :=
  if_neg (not_not.mpr rfl)

inductive ThreadStep (dmp : Dmp) : Dmp → Prop where
  | first (stands : dmp.playthread = .start) (item : Nat) (head : dmp.playlist.head? = some item) :
      ThreadStep dmp { dmp with currentItem := some item, playthread := .loop }
  | nothing (stands : dmp.playthread = .start) (empty : dmp.playlist = []) :
      ThreadStep dmp { dmp with currentItem := none, playthread := .returned }
  | read (stands : dmp.playthread = .loop) :
      ThreadStep dmp { dmp with playthread := .dispatch dmp.state }
  | leave (stands : dmp.playthread = .dispatch .stopped) :
      ThreadStep dmp { dmp with playthread := .returned }
  | play (stands : dmp.playthread = .dispatch .playing) :
      ThreadStep dmp { dmp with playthread := .decode .playing none }
  | prepare (stands : dmp.playthread = .dispatch .transitioning) (nextItem : Option Nat)
      (members : ∀ item ∈ nextItem, item ∈ dmp.playlist) :
      ThreadStep dmp { dmp with playthread := .decode .transitioning nextItem }
  | sleep (stands : dmp.playthread = .dispatch .pausing) :
      ThreadStep dmp { dmp with playthread := .asleep }
  | ignore (state : PlayState) (stands : dmp.playthread = .dispatch state)
      (unused : state = .noMedia ∨ state = .recording) :
      ThreadStep dmp { dmp with playthread := .loop }
  | frame (state : PlayState) (nextItem : Option Nat) (thread : Thread)
      (stands : dmp.playthread = .decode state nextItem) (goesOn : AfterFrame dmp nextItem thread) :
      ThreadStep dmp { dmp with playthread := thread }
  | transition (stands : dmp.playthread = .transition) :
      ThreadStep dmp { instanceChangeState dmp .transitioning with playthread := .loop }
  | changeState (state : PlayState) (nextItem : Option Nat)
      (stands : dmp.playthread = .changeState state nextItem) :
      ThreadStep dmp { instanceChangeState dmp state with playthread := .changeItem nextItem }
  | changeItem (nextItem : Option Nat) (stands : dmp.playthread = .changeItem nextItem) :
      ThreadStep dmp { dmp with currentItem := nextItem, playthread := .loop }
  | wake (stands : dmp.playthread = .signalled) :
      ThreadStep dmp { dmp with playthread := .loop }

theorem avtsThreadPlay_ok (ran : avtsThreadPlay dmp ret = .ok (some after)) :
    ThreadStep dmp after := by
  unfold avtsThreadPlay at ran
  split at ran
  · rename_i stands
    obtain rfl := Option.some.inj (Except.ok.inj ran)
    rw [playlistNext_zero]
    cases head : dmp.playlist.head? with
    | none => exact .nothing stands (List.head?_eq_none_iff.mp head)
    | some item => exact .first stands item head
  · obtain rfl := Option.some.inj (Except.ok.inj ran)
    exact .read ‹_›
  · obtain rfl := Option.some.inj (Except.ok.inj ran)
    exact .leave ‹_›
  · obtain rfl := Option.some.inj (Except.ok.inj ran)
    exact .play ‹_›
  · obtain ⟨nextItem, found, ran⟩ := Outcome.bind_ok.mp ran
    obtain rfl := Option.some.inj (Except.ok.inj ran)
    exact .prepare ‹_› nextItem (nextOfCurrent_mem found)
  · obtain rfl := Option.some.inj (Except.ok.inj ran)
    exact .sleep ‹_›
  · obtain rfl := Option.some.inj (Except.ok.inj ran)
    exact .ignore .noMedia ‹_› (.inl rfl)
  · obtain rfl := Option.some.inj (Except.ok.inj ran)
    exact .ignore .recording ‹_› (.inr rfl)
  · rename_i state nextItem stands
    split at ran
    · cases ran
    · obtain ⟨thread, decoded, ran⟩ := Outcome.bind_ok.mp ran
      obtain rfl := Option.some.inj (Except.ok.inj ran)
      exact .frame state nextItem thread stands (afterFrame_ok decoded)
  · obtain rfl := Option.some.inj (Except.ok.inj ran)
    exact .transition ‹_›
  · rename_i state nextItem stands
    obtain rfl := Option.some.inj (Except.ok.inj ran)
    exact .changeState state nextItem stands
  · rename_i nextItem stands
    obtain rfl := Option.some.inj (Except.ok.inj ran)
    exact .changeItem nextItem stands
  · obtain rfl := Option.some.inj (Except.ok.inj ran)
    exact .wake ‹_›
  · cases ran
  · cases ran

inductive DmpStep (dmp : Dmp) : AvtsAction → Dmp → Prop where
  | setUri (uri : Text) (probe : Probe) (items : List DmpItem) (playlist : List Nat)
      (grows : dmp.state ≠ .stopped → dmp.playlist ⊆ playlist) :
      DmpStep dmp (.setUri uri probe) { dmp with items := items, playlist := playlist }
  | setNextUri (uri : Text) (probe : Probe) (items : List DmpItem) (playlist : List Nat)
      (grows : dmp.playlist ⊆ playlist) :
      DmpStep dmp (.setNextUri uri probe) { dmp with items := items, playlist := playlist }
  | play : DmpStep dmp .play (instanceChangeState dmp .playing)
  | pause : DmpStep dmp .pause (instanceChangeState dmp .pausing)
  | next : DmpStep dmp .next (instanceChangeState dmp .transitioning)
  | stop : DmpStep dmp .stop { instanceChangeState dmp .stopped with joining := dmp.joining + 1 }
  | thread (ret : Int) (after : Dmp) (taken : ThreadStep dmp after) : DmpStep dmp (.thread ret) after

theorem avtsStep_registered {action : AvtsAction}
    (taken : AvtsStep (some dmp) action (some after)) : DmpStep dmp action after := by
  unfold AvtsStep at taken
  cases action with
  | setThread => cases taken
  | setUri uri probe =>
      obtain ⟨items, playlist, same, grows⟩ := avtsSetUri_eq dmp uri probe
      obtain rfl := Option.some.inj (Option.some.inj (Except.ok.inj taken))
      rw [same]
      exact .setUri uri probe items playlist grows
  | setNextUri uri probe =>
      obtain ⟨items, playlist, same, grows⟩ := avtsSetNextUri_eq dmp uri probe
      obtain rfl := Option.some.inj (Option.some.inj (Except.ok.inj taken))
      rw [same]
      exact .setNextUri uri probe items playlist grows
  | play =>
      obtain rfl := Option.some.inj (Option.some.inj (Except.ok.inj taken))
      exact .play
  | pause =>
      obtain rfl := Option.some.inj (Option.some.inj (Except.ok.inj taken))
      exact .pause
  | next =>
      obtain rfl := Option.some.inj (Option.some.inj (Except.ok.inj taken))
      exact .next
  | stop =>
      obtain rfl := Option.some.inj (Option.some.inj (Except.ok.inj taken))
      exact .stop
  | join =>
      simp only [AvtsAction.exec] at taken
      split at taken <;> simp at taken
  | thread ret =>
      obtain ⟨moved, ran, same⟩ := Outcome.map_ok.mp taken
      cases moved with
      | none => cases same
      | some moved =>
          obtain rfl := Option.some.inj (Option.some.inj same)
          exact .thread ret _ (avtsThreadPlay_ok ran)

theorem avtsStep_unregistered {action : AvtsAction}
    (taken : AvtsStep none action (some after)) : after = avtsSetThread := by
  unfold AvtsStep at taken
  cases action with
  | setThread => exact (Option.some.inj (Option.some.inj (Except.ok.inj taken))).symm
  | _ => simp [AvtsAction.exec] at taken

end Libdlna
