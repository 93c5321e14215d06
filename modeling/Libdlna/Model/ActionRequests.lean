import Libdlna.Model.Services

set_option autoImplicit false

namespace Libdlna

open CString

def dlnaESuccess : Int := 0
def dlnaSoapEInvalidAction : Int := 401

structure ActionRequest (D : Type) where
  errCode : Int
  errStr : Text
  devUDN : Text
  serviceID : Text
  actionName : Text
  actionRequest : Option D
  actionResult : Option D

structure CallbackOutcome (D S : Type) where
  ret : Int
  status : Int
  request : ActionRequest D
  controller : S

abbrev Callback (D S : Type) := S → ActionRequest D → CallbackOutcome D S

section Services

variable {C : Type} (services : List (DlnaService C))

def dlnaServiceFind (id : Text) : Option (DlnaService C) :=
  services.find? fun service => service.id = some id

/-- The service is reported together with the action only. -/
def upnpFindServiceAction {D : Type} (ar : ActionRequest D) :
    Option (DlnaService C × ServiceAction C) :=
  match dlnaServiceFind services ar.serviceID with
  | none => none
  | some srv => (srv.actions.find? fun action => action.name = ar.actionName).map fun a => (srv, a)

end Services

section Handler

variable {D S : Type} (makeActionResponse : Text → Text → Option D)

def answerCallback (service : DlnaService (Callback D S)) (outcome : CallbackOutcome D S) :
    ActionRequest D :=
  let ar := outcome.request
  if outcome.ret ≠ 0 ∧ outcome.status ≠ 0 then
    { ar with
      errCode := dlnaESuccess
      actionResult :=
        match ar.actionResult with
        | some result => some result
        | none => makeActionResponse ar.actionName service.type }
  else ar

def upnpActionRequestHandler (services : List (DlnaService (Callback D S))) (uuid : Text) (dlna : S)
    (ar : ActionRequest D) : ActionRequest D × S :=
  if ar.errCode ≠ dlnaESuccess then (ar, dlna)
  else if ar.devUDN.drop 5 ≠ uuid then (ar, dlna)
  else
    match upnpFindServiceAction services ar with
    | some (service, action) =>
        match action.cb with
        | none => (ar, dlna)
        | some cb =>
            let outcome := cb dlna ar
            (answerCallback makeActionResponse service outcome, outcome.controller)
    | none =>
        -- there is no service here, so an unknown action is reported as an unknown service
        ({ ar with
            errStr := "Unknown Service ID".toList
            actionResult := none
            errCode := dlnaSoapEInvalidAction }, dlna)

end Handler

end Libdlna
