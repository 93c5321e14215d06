import Libdlna.Shared.CString

set_option autoImplicit false

namespace Libdlna

open CString

inductive ArgDirection where
  | input
  | output
  deriving DecidableEq

structure ServiceArg where
  direction : ArgDirection
  name : Text
  stateVariable : Text
  deriving DecidableEq

structure ServiceAction (C : Type) where
  name : Text
  args : List ServiceArg
  cb : Option C

structure DlnaService (C : Type) where
  id : Option Text
  type : Text
  scpdUrl : Option Text
  actions : List (ServiceAction C)
  description : Text

namespace ServiceAction

variable {C D : Type}

def outputs (action : ServiceAction C) : List Text :=
  (action.args.filter fun arg => arg.direction = .output).map ServiceArg.name

def mapCb (f : C → D) (action : ServiceAction C) : ServiceAction D :=
  { name := action.name, args := action.args, cb := action.cb.map f }

end ServiceAction

end Libdlna
