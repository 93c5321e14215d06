import Libdlna.Model.Gena
import Mathlib.Data.Fintype.Card
import Mathlib.Logic.Function.Basic

set_option autoImplicit false

/-!
# The release of an event

`free_notify_struct` access by access, for the jobs of one event from the moment when the call that
has raised it returns. Each of them comes to its release in one of three ways.
-/

namespace Libdlna.Gena

/-- What a thread holds when it releases a job. -/
inductive Held where
  -- `HandleReadLock`: `genaNotifyThread` has not sent anything
  | readLock
  -- `HandleLock`: it has sent the notification
  | writeLock
  -- the mutex of the pool, in `ThreadPoolShutdown`
  | poolMutex
  deriving DecidableEq

/-- The two cannot be held at one time. -/
def Held.excludes : Held → Held → Bool
  | .readLock, .writeLock => true
  | .writeLock, .readLock => true
  | .writeLock, .writeLock => true
  | .poolMutex, .poolMutex => true
  | _, _ => false

inductive ReleaseStage where
  | waits
  | enters
  -- it has read the count, and will write it
  | loaded (count : Int)
  | stored
  -- it has read 0
  | frees
  | leaves
  | ended
  deriving DecidableEq

def ReleaseStage.inside : ReleaseStage → Bool
  | .waits => false
  | .ended => false
  | _ => true

structure NotifyRelease (J : Type) where
  held : J → Held
  stage : J → ReleaseStage
  shared : Shared

namespace NotifyRelease

variable {J : Type} [DecidableEq J]

def goes (s : NotifyRelease J) (i : J) (stage : ReleaseStage) : NotifyRelease J :=
  { s with stage := Function.update s.stage i stage }

def write (s : NotifyRelease J) (shared : Shared) : NotifyRelease J :=
  { s with shared := shared }

def access (s : NotifyRelease J) : Except Fault Shared :=
  if s.shared.freed then .error .useAfterFree else .ok s.shared

variable [Fintype J]

/-- Nobody is in a release who could not be there together with `i`. -/
def admits (s : NotifyRelease J) (i : J) : Bool :=
  decide (∀ j, j ≠ i → (s.stage j).inside = true → (s.held i).excludes (s.held j) = false)

def exec (s : NotifyRelease J) (i : J) : Option (Except Fault (NotifyRelease J)) :=
  match s.stage i with
  | .waits => if s.admits i then some (.ok (s.goes i .enters)) else none
  | .enters => some (s.access.map fun shared => s.goes i (.loaded shared.referenceCount))
  | .loaded count =>
      some (s.access.map fun shared =>
        (s.goes i .stored).write { shared with referenceCount := count - 1 })
  | .stored =>
      some (s.access.map fun shared =>
        s.goes i (if shared.referenceCount = 0 then .frees else .leaves))
  | .frees =>
      some (s.access.map fun shared => (s.goes i .leaves).write { shared with freed := true })
  | .leaves => some (.ok (s.goes i .ended))
  | .ended => none

omit [DecidableEq J] in
/-- What the call has made: an event without jobs is freed at once. -/
def initial (held : J → Held) : NotifyRelease J where
  held := held
  stage := fun _ => .waits
  shared := ⟨Fintype.card J, decide (Fintype.card J = 0)⟩

end NotifyRelease

def ReleaseStep {J : Type} [DecidableEq J] [Fintype J] (x : Except Fault (NotifyRelease J)) (i : J)
    (y : Except Fault (NotifyRelease J)) : Prop :=
  ∃ s, x = .ok s ∧ s.exec i = some y

end Libdlna.Gena
