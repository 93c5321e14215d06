import Libdlna.Model.HttpHandles
import Libdlna.Shared.Outcome

set_option autoImplicit false

/-!
# Handles of the application

The library returns what a callback answers only where it counts the answer as a success. It takes
any other answer for a reason to go on by itself, with a handle that is not one of its own.
-/

namespace Libdlna

open CString

variable {H W : Type} {callback : Option (HttpCallback H W)} {calls : SystemCalls W} {hdl : H}
  {world after : W} {call : HttpCall} {rest : List HttpCall} {reply : HttpReply}

def applicationHandle (hdl : H) : DlnaHttpFileHandler H where
  external := true
  priv := .application hdl

def callbackReply (callback : Option (HttpCallback H W)) (hdl : H) (call : HttpCall) (world : W) :
    Option (HttpReply × W) :=
  match call with
  | .read buflen =>
      (callback.bind HttpCallback.read).map fun ask => ask (.application hdl) buflen world
  | .seek offset origin =>
      (callback.bind HttpCallback.seek).map fun ask =>
        let (res, world) := ask (.application hdl) offset origin world
        (⟨res, []⟩, world)
  | .close =>
      (callback.bind HttpCallback.close).map fun ask =>
        let (res, world) := ask (.application hdl) world
        (⟨res, []⟩, world)

def HttpCall.TakesUp (res : Int32) : HttpCall → Prop
  | .read _ => 0 < res
  | .seek _ _ => res = 0
  | .close => res = 0

def HttpCall.leaves (dhdl : DlnaHttpFileHandler H) : HttpCall → Option (DlnaHttpFileHandler H)
  | .close => none
  | _ => some dhdl

theorem trapCallback_ok {B R : Type} {asked : Option (W → B × W)} {succeeds : B → Bool}
    {answer : B → R} {internal : W → Except Fault (R × W)} {result : R} {fault : Fault}
    (fails : ∀ world, internal world = .error fault) :
    trapCallback asked succeeds answer internal world = .ok (result, after) ↔
      ∃ res, asked.map (fun ask => ask world) = some (res, after) ∧ succeeds res = true ∧
        answer res = result := by
  cases asked with
  | none => simp [trapCallback, fails]
  | some ask =>
      obtain ⟨⟨res, changed⟩, answered⟩ : ∃ answer, ask world = answer := ⟨_, rfl⟩
      by_cases here : succeeds res = true
      · simp only [trapCallback, answered, here, if_true, Option.map_some, Except.ok.injEq,
          Prod.mk.injEq, Option.some.injEq]
        constructor
        · rintro ⟨isResult, rfl⟩
          exact ⟨res, ⟨rfl, rfl⟩, here, isResult⟩
        · rintro ⟨_, ⟨rfl, rfl⟩, -, isResult⟩
          exact ⟨isResult, rfl⟩
      · simp only [trapCallback, answered, here, Bool.false_eq_true, if_false, fails, reduceCtorEq,
          Option.map_some, Option.some.injEq, Prod.mk.injEq, false_iff]
        rintro ⟨_, ⟨rfl, rfl⟩, taken, -⟩
        exact here taken

theorem dlnaHttpRead_ok {buflen : UInt64} {left : DlnaHttpFileHandler H} :
    dlnaHttpRead callback calls (applicationHandle hdl) buflen world = .ok ((reply, left), after) ↔
      callbackReply callback hdl (.read buflen) world = some (reply, after) ∧ 0 < reply.res ∧
        left = applicationHandle hdl := by
  unfold dlnaHttpRead
  refine (trapCallback_ok fun _ => rfl).trans ?_
  unfold callbackReply
  cases callback.bind HttpCallback.read with
  | none => simp [DlnaHttpFileHandler.asked, applicationHandle]
  | some ask => simp [DlnaHttpFileHandler.asked, applicationHandle, eq_comm]

theorem dlnaHttpSeek_ok {offset : Int} {origin : Int32} {res : Int32}
    {left : DlnaHttpFileHandler H} :
    dlnaHttpSeek callback calls (applicationHandle hdl) offset origin world =
        .ok ((res, left), after) ↔
      callbackReply callback hdl (.seek offset origin) world = some (⟨res, []⟩, after) ∧ res = 0 ∧
        left = applicationHandle hdl := by
  unfold dlnaHttpSeek
  refine (trapCallback_ok fun _ => rfl).trans ?_
  unfold callbackReply
  cases callback.bind HttpCallback.seek with
  | none => simp [DlnaHttpFileHandler.asked, applicationHandle]
  | some ask =>
      simp only [DlnaHttpFileHandler.asked, applicationHandle, if_true, Option.map_some,
        Option.some.injEq, Prod.ext_iff, HttpReply.mk.injEq, decide_eq_true_eq]
      grind

theorem dlnaHttpClose_ok {res : Int32} :
    dlnaHttpClose callback calls (applicationHandle hdl) world = .ok (res, after) ↔
      callbackReply callback hdl .close world = some (⟨res, []⟩, after) ∧ res = 0 := by
  unfold dlnaHttpClose
  refine (trapCallback_ok fun _ => rfl).trans ?_
  unfold callbackReply
  cases callback.bind HttpCallback.close with
  | none => simp [DlnaHttpFileHandler.asked, applicationHandle]
  | some ask =>
      simp only [DlnaHttpFileHandler.asked, applicationHandle, if_true, Option.map_some,
        Option.some.injEq, Prod.ext_iff, HttpReply.mk.injEq, decide_eq_true_eq, id]
      grind

theorem callbackReply_buf (answered : callbackReply callback hdl call world = some (reply, after)) :
    (∃ buflen, call = .read buflen) ∨ reply = ⟨reply.res, []⟩ := by
  cases call with
  | read buflen => exact .inl ⟨buflen, rfl⟩
  | seek offset origin =>
      obtain ⟨ask, -, isReply⟩ := Option.map_eq_some_iff.mp answered
      exact .inr (by rw [← (Prod.mk.inj isReply).1])
  | close =>
      obtain ⟨ask, -, isReply⟩ := Option.map_eq_some_iff.mp answered
      exact .inr (by rw [← (Prod.mk.inj isReply).1])

theorem httpCall_ok {left : Option (DlnaHttpFileHandler H)} :
    httpCall callback calls (applicationHandle hdl) call world = .ok ((reply, left), after) ↔
      callbackReply callback hdl call world = some (reply, after) ∧ call.TakesUp reply.res ∧
        left = call.leaves (applicationHandle hdl) := by
  cases call with
  | read buflen =>
      simp only [httpCall, Outcome.map_ok, Prod.exists, dlnaHttpRead_ok, HttpCall.TakesUp,
        HttpCall.leaves, Prod.mk.injEq]
      grind
  | seek offset origin =>
      simp only [httpCall, Outcome.map_ok, Prod.exists, dlnaHttpSeek_ok, Prod.mk.injEq]
      constructor
      · rintro ⟨res, dhdl, world', ⟨answered, isZero, rfl⟩, ⟨rfl, rfl⟩, rfl⟩
        exact ⟨answered, isZero, rfl⟩
      · rintro ⟨answered, isZero, rfl⟩
        have silent := (callbackReply_buf answered).resolve_left (by simp)
        rw [silent] at answered ⊢
        exact ⟨reply.res, _, after, ⟨answered, isZero, rfl⟩, ⟨rfl, rfl⟩, rfl⟩
  | close =>
      simp only [httpCall, Outcome.map_ok, Prod.exists, dlnaHttpClose_ok, Prod.mk.injEq]
      constructor
      · rintro ⟨res, world', ⟨answered, isZero⟩, ⟨rfl, rfl⟩, rfl⟩
        exact ⟨answered, isZero, rfl⟩
      · rintro ⟨answered, isZero, rfl⟩
        have silent := (callbackReply_buf answered).resolve_left (by simp)
        rw [silent] at answered ⊢
        exact ⟨reply.res, after, ⟨answered, isZero⟩, ⟨rfl, rfl⟩, rfl⟩

inductive OwnReplies (callback : Option (HttpCallback H W)) (hdl : H) :
    List HttpCall → W → List HttpReply → W → Prop where
  | nil (world : W) : OwnReplies callback hdl [] world [] world
  | closes {world after : W} {reply : HttpReply} (rest : List HttpCall)
      (answered : callbackReply callback hdl .close world = some (reply, after)) :
      OwnReplies callback hdl (.close :: rest) world [reply] after
  | goesOn {call : HttpCall} {rest : List HttpCall} {world between after : W} {reply : HttpReply}
      {replies : List HttpReply} (stays : call ≠ .close)
      (answered : callbackReply callback hdl call world = some (reply, between))
      (later : OwnReplies callback hdl rest between replies after) :
      OwnReplies callback hdl (call :: rest) world (reply :: replies) after

/-- The session goes through, which it does only as long as the handle is not taken for one of the
library's own, and its replies are those of the callbacks. -/
def StaysWithApplication (callback : Option (HttpCallback H W)) (calls : SystemCalls W) (hdl : H)
    (session : List HttpCall) (world : W) : Prop :=
  ∃ replies after, OwnReplies callback hdl session world replies after ∧
    httpSession callback calls (applicationHandle hdl) session world = .ok (replies, after)

def AllTakenUp (callback : Option (HttpCallback H W)) (hdl : H) : List HttpCall → W → Prop
  | [], _ => True
  | call :: rest, world =>
      ∃ reply after, callbackReply callback hdl call world = some (reply, after) ∧
        call.TakesUp reply.res ∧ (call = .close ∨ AllTakenUp callback hdl rest after)

theorem HttpCall.leaves_open (dhdl : DlnaHttpFileHandler H) (stays : call ≠ .close) :
    call.leaves dhdl = some dhdl := by
  cases call with
  | close => exact absurd rfl stays
  | _ => rfl

theorem httpSession_cons {replies : List HttpReply} :
    httpSession callback calls (applicationHandle hdl) (call :: rest) world = .ok (replies, after) ↔
      ∃ reply between, callbackReply callback hdl call world = some (reply, between) ∧
        call.TakesUp reply.res ∧
          ((call = .close ∧ replies = [reply] ∧ after = between) ∨
            (call ≠ .close ∧ ∃ later, replies = reply :: later ∧
              httpSession callback calls (applicationHandle hdl) rest between =
                .ok (later, after))) := by
  rw [httpSession, Outcome.bind_ok]
  constructor
  · rintro ⟨⟨⟨reply, left⟩, between⟩, ran, goesOn⟩
    obtain ⟨answered, taken, rfl⟩ := httpCall_ok.mp ran
    refine ⟨reply, between, answered, taken, ?_⟩
    by_cases closes : call = .close
    · subst closes
      cases goesOn
      exact .inl ⟨rfl, rfl, rfl⟩
    · simp only [HttpCall.leaves_open _ closes] at goesOn
      obtain ⟨⟨later, ended⟩, ranLater, isResult⟩ := Outcome.bind_ok.mp goesOn
      cases isResult
      exact .inr ⟨closes, later, rfl, ranLater⟩
  · rintro ⟨reply, between, answered, taken, ⟨rfl, rfl, rfl⟩ | ⟨stays, later, rfl, ranLater⟩⟩
    · exact ⟨_, httpCall_ok.mpr ⟨answered, taken, rfl⟩, rfl⟩
    · refine ⟨_, httpCall_ok.mpr ⟨answered, taken, rfl⟩, ?_⟩
      simp only [HttpCall.leaves_open _ stays]
      exact Outcome.bind_ok.mpr ⟨(later, after), ranLater, rfl⟩

theorem OwnReplies.later {replies : List HttpReply} {between : W} (stays : call ≠ .close)
    (answered : callbackReply callback hdl call world = some (reply, between))
    (own : OwnReplies callback hdl (call :: rest) world (reply :: replies) after) :
    OwnReplies callback hdl rest between replies after := by
  cases own with
  | closes _ _ => exact absurd rfl stays
  | goesOn _ again later =>
      rw [answered] at again
      cases again
      exact later

theorem staysWithApplication_iff (callback : Option (HttpCallback H W)) (calls : SystemCalls W)
    (hdl : H) (session : List HttpCall) (world : W) :
    StaysWithApplication callback calls hdl session world ↔
      AllTakenUp callback hdl session world := by
  induction session generalizing world with
  | nil => exact ⟨fun _ => trivial, fun _ => ⟨[], world, .nil world, rfl⟩⟩
  | cons call rest ih =>
      constructor
      · rintro ⟨replies, after, own, ran⟩
        obtain ⟨reply, between, answered, taken, goesOn⟩ := httpSession_cons.mp ran
        refine ⟨reply, between, answered, taken, ?_⟩
        rcases goesOn with ⟨closes, -⟩ | ⟨stays, later, rfl, ranLater⟩
        · exact .inl closes
        · exact .inr ((ih between).mp ⟨later, after, own.later stays answered, ranLater⟩)
      · rintro ⟨reply, between, answered, taken, goesOn⟩
        by_cases closes : call = .close
        · subst closes
          exact ⟨[reply], between, .closes rest answered,
            httpSession_cons.mpr ⟨reply, between, answered, taken, .inl ⟨rfl, rfl, rfl⟩⟩⟩
        · obtain ⟨later, after, own, ran⟩ := (ih between).mpr (goesOn.resolve_left closes)
          exact ⟨reply :: later, after, .goesOn closes answered own,
            httpSession_cons.mpr
              ⟨reply, between, answered, taken, .inr ⟨closes, later, rfl, ran⟩⟩⟩

def threeCharacters : HttpCallback Unit Text where
  read := some fun _ buflen rest =>
    (⟨Int32.ofNat (min buflen.toNat rest.length), rest.take buflen.toNat⟩, rest.drop buflen.toNat)
  seek := some fun _ _ _ rest => (0, rest)
  close := some fun _ rest => (0, rest)

def noFiles : SystemCalls Text where
  read := fun _ _ world => ((-1, []), world)
  stat := fun _ _ => none
  lseek := fun _ _ world => (false, world)
  close := fun _ world => world

theorem endOfFile_interpreted :
    ¬ ∀ (H W : Type) (callback : Option (HttpCallback H W)) (calls : SystemCalls W) (hdl : H)
        (session : List HttpCall) (world : W),
        StaysWithApplication callback calls hdl session world := by
  intro stays
  obtain ⟨replies, after, -, ran⟩ := stays Unit Text (some threeCharacters) noFiles ()
    [.read 4096, .read 4096, .close] "abc".toList
  have failed : httpSession (some threeCharacters) noFiles (applicationHandle ())
      [.read 4096, .read 4096, .close] "abc".toList = .error .wrongUnionMember := by rfl
  rw [failed] at ran
  cases ran

end Libdlna
