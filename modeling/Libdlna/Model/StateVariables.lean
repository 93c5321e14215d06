import Libdlna.Model.ActionRequests
import Libdlna.Model.ServiceTables

set_option autoImplicit false

namespace Libdlna

open CString

structure ServiceStatevar (S : Type) where
  name : Text
  get : Option (S → Option Text)

structure StatevarService (C S : Type) extends DlnaService C where
  statevar : Option (List (ServiceStatevar S))

structure StateVarRequest where
  errCode : Int
  devUDN : Text
  serviceID : Text
  stateVarName : Text
  currentVal : Option Text
  deriving DecidableEq

variable {C S : Type}

/-- The loop over the state variables, which compares the names of the actions. -/
def walkStatevars (name : Text) :
    List (ServiceAction C) → List (ServiceStatevar S) → Except Fault (Option (ServiceStatevar S))
  | _, [] => .ok none
  | [], _ :: _ => .error .nullDeref -- the entry that ends the actions has no name
  | action :: actions, var :: vars =>
      if action.name = name then .ok (some var) else walkStatevars name actions vars

def upnpFindServiceStatevar (services : List (StatevarService C S)) (ar : StateVarRequest) :
    Except Fault (Option (StatevarService C S × ServiceStatevar S)) :=
  match services.find? fun service => service.id = some ar.serviceID with
  | none => .ok none
  | some srv =>
      match srv.statevar with
      | none => .ok none
      | some vars =>
          (walkStatevars ar.stateVarName srv.actions vars).map fun found =>
            found.map fun var => (srv, var)

def upnpVarRequestHandler (services : List (StatevarService C S)) (uuid : Text) (dlna : S)
    (ar : StateVarRequest) : Except Fault StateVarRequest :=
  if ar.errCode ≠ dlnaESuccess then .ok ar
  else if ar.devUDN.drop 5 ≠ uuid then .ok ar
  else do
    match ← upnpFindServiceStatevar services ar with
    | none => .ok ar
    | some (_, statevar) =>
        match statevar.get with
        -- `value` is not initialised
        | none => .error .indeterminateValue
        | some get =>
            let result := get dlna
            .ok { ar with
              currentVal := result
              errCode := if result = none then dlnaSoapEInvalidAction else dlnaESuccess }

def cmsServiceVariables (S : Type) : List (ServiceStatevar S) :=
  ["SourceProtocolInfo", "SinkProtocolInfo", "CurrentConnectionIDs", "FeatureList",
    "A_ARG_TYPE_ConnectionStatus", "A_ARG_TYPE_ConnectionManager", "A_ARG_TYPE_Direction",
    "A_ARG_TYPE_ProtocolInfo", "A_ARG_TYPE_ConnectionID", "A_ARG_TYPE_AVTransportID",
    "A_ARG_TYPE_RcsID"].map fun name => ⟨name.toList, none⟩

end Libdlna
