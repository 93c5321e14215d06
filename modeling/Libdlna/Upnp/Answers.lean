import Libdlna.Model.ActionRequests
import Libdlna.Model.ServiceTables

set_option autoImplicit false

/-!
# Answers to action requests

A request is answered with a result or with an error, unless its action has no callback, or the
callback gives up the event without either.
-/

namespace Libdlna

open CString

variable {D S : Type} {services : List (DlnaService (Callback D S))} {uuid : Text} {dlna : S}
  {ar : ActionRequest D} {makeActionResponse : Text → Text → Option D}

def DefiniteAnswer (ar : ActionRequest D) : Prop :=
  ar.errCode = dlnaESuccess ∧ ar.actionResult.isSome ∨ ar.errCode ≠ dlnaESuccess

def Unimplemented (services : List (DlnaService (Callback D S))) (ar : ActionRequest D) : Prop :=
  (upnpFindServiceAction services ar).bind (fun found => found.2.cb) = none

structure Answered (services : List (DlnaService (Callback D S))) (ar after : ActionRequest D) :
    Prop where
  definite : DefiniteAnswer after
  refused : Unimplemented services ar → after.errCode ≠ dlnaESuccess

def SetsErrorCode (cb : Callback D S) : Prop :=
  ∀ dlna ar, (cb dlna ar).ret = 0 → (cb dlna ar).request.errCode ≠ dlnaESuccess

/-- A callback that returns something else, and clears the status of its event all the same, has
left an answer. -/
def LeavesAnswer (cb : Callback D S) (dlna : S) (ar : ActionRequest D) : Prop :=
  (cb dlna ar).ret ≠ 0 → (cb dlna ar).status = 0 → DefiniteAnswer (cb dlna ar).request

theorem answerCallback_definite {cb : Callback D S} (service : DlnaService (Callback D S))
    (sets : SetsErrorCode cb) (makes : ∀ name type, (makeActionResponse name type).isSome) :
    DefiniteAnswer (answerCallback makeActionResponse service (cb dlna ar)) ↔
      LeavesAnswer cb dlna ar := by
  unfold answerCallback LeavesAnswer
  by_cases kept : (cb dlna ar).ret ≠ 0 ∧ (cb dlna ar).status ≠ 0
  · dsimp only
    rw [if_pos kept]
    refine iff_of_true (.inl ⟨rfl, ?_⟩) (fun _ cleared => absurd cleared kept.2)
    cases (cb dlna ar).request.actionResult with
    | some result => rfl
    | none => exact makes _ _
  · dsimp only
    rw [if_neg kept]
    constructor
    · exact fun definite _ _ => definite
    · intro leaves
      by_cases failed : (cb dlna ar).ret = 0
      · exact .inr (sets dlna ar failed)
      · exact leaves failed (by_contra fun set => kept ⟨failed, set⟩)

theorem mem_of_upnpFindServiceAction {C : Type} {services : List (DlnaService C)}
    {service : DlnaService C} {action : ServiceAction C}
    (found : upnpFindServiceAction services ar = some (service, action)) :
    service ∈ services ∧ action ∈ service.actions := by
  unfold upnpFindServiceAction at found
  split at found
  · cases found
  · rename_i srv known
    obtain ⟨action', listed, same⟩ := Option.map_eq_some_iff.mp found
    obtain ⟨rfl, rfl⟩ := Prod.mk.inj same
    exact ⟨List.mem_of_find?_eq_some known, List.mem_of_find?_eq_some listed⟩

def ActionAnswers (services : List (DlnaService (Callback D S))) (dlna : S)
    (ar : ActionRequest D) : Prop :=
  ∀ service action, upnpFindServiceAction services ar = some (service, action) →
    ∃ cb, action.cb = some cb ∧ LeavesAnswer cb dlna ar

def avtsServiceWith {D S : Type} (cb : Callback D S) : DlnaService (Callback D S) where
  id := some "urn:upnp-org:serviceId:AVTransport".toList
  type := "urn:schemas-upnp-org:service:AVTransport:1".toList
  scpdUrl := some "avts.xml".toList
  actions := avtsServiceActions.map fun action => action.mapCb fun _ => cb
  description := []

theorem avtsServiceWith_callback {cb cb' : Callback D S} {action : ServiceAction (Callback D S)}
    (listed : action ∈ (avtsServiceWith cb).actions) (isCb : action.cb = some cb') : cb' = cb := by
  obtain ⟨row, -, rfl⟩ := List.mem_map.mp listed
  obtain ⟨handler, -, rfl⟩ := Option.map_eq_some_iff.mp isCb
  rfl

def succeeds : Callback Unit Unit := fun dlna ar => ⟨1, 1, ar, dlna⟩

theorem succeeds_setsErrorCode : ∀ service ∈ [avtsServiceWith succeeds],
    ∀ action ∈ service.actions, ∀ cb, action.cb = some cb → SetsErrorCode cb := by
  rintro service member action listed cb isCb dlna ar failed
  obtain rfl := List.mem_singleton.mp member
  rw [avtsServiceWith_callback listed isCb] at failed
  simp [succeeds] at failed

def avtsRequest (action : String) : ActionRequest Unit where
  errCode := dlnaESuccess
  errStr := []
  devUDN := "uuid:1".toList
  serviceID := "urn:upnp-org:serviceId:AVTransport".toList
  actionName := action.toList
  actionRequest := none
  actionResult := none

end Libdlna
