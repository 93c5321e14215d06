import Libdlna.Model.Buffer
import Libdlna.Shared.Lifecycle

set_option autoImplicit false

namespace Libdlna

open CString

/-- What happens to the strings of `upnp_get_string` and the buffers of `buffer_new`. -/
abbrev Ownership := Lifecycle Nat

structure OwnedText where
  handle : Nat
  text : Text

/-- A request of an action: an argument has the value of the first child of its node, if any. -/
structure ActionEvent where
  status : Bool
  args : List (Text × Option Text)
  errCode : Nat
  -- the pairs handed to dlnaAddToActionResponse
  response : List (Text × Text)
  log : List Ownership
  deriving DecidableEq

namespace ActionEvent

variable (ev : ActionEvent)

def acquire : Nat × ActionEvent :=
  (ev.log.length, { ev with log := ev.log ++ [.acquired ev.log.length] })

def use (handle : Nat) : ActionEvent := { ev with log := ev.log ++ [.used handle] }

def release (handle : Nat) : ActionEvent := { ev with log := ev.log ++ [.released handle] }

def fail (code : Nat) : ActionEvent := { ev with errCode := code }

end ActionEvent

def upnpAddResponse (ev : ActionEvent) (key : Text) (value : Option Text) : ActionEvent :=
  match value with
  | none => ev
  | some value =>
      if ev.status then { ev with response := ev.response ++ [(key, value)] } else ev

def upnpGetString (ev : ActionEvent) (key : Text) : Option OwnedText × ActionEvent :=
  match ev.args.find? fun arg => arg.1 = key with
  | none => (none, ev)
  | some arg =>
      let (handle, ev) := ev.acquire
      (some ⟨handle, arg.2.getD []⟩, ev)

def upnpGetUi4 (ev : ActionEvent) (key : Text) : Int × ActionEvent :=
  let (value, ev) := upnpGetString ev key
  let (value, ev) :=
    if value.isNone ∧ key = "ObjectID".toList then upnpGetString ev "ContainerID".toList
    else (value, ev)
  match value with
  | none => (0, ev)
  | some value => (atoi value.text, (ev.use value.handle).release value.handle)

end Libdlna
