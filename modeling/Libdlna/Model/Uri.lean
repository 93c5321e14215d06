import Libdlna.Model.Item
import Libdlna.Shared.CString

set_option autoImplicit false

/-!
# Request paths

The functions on paths of `upnp/uri.c` and of `upnp/webserver.c`. They work in place: a buffer is
the list of its bytes, the terminator among them, and a pointer into it is an index.
-/

namespace Libdlna.Uri

open CString

def nul : Char := Char.ofNat 0

def fetch (buffer : Text) (i : Nat) : Except Fault Char :=
  match buffer[i]? with
  | some c => .ok c
  | none => .error .outOfBounds

def write (buffer : Text) (i : Nat) (c : Char) : Except Fault Text :=
  if i < buffer.length then .ok (buffer.set i c) else .error .outOfBounds

def isxdigit (c : Char) : Bool :=
  ('0' ≤ c && c ≤ '9') || ('a' ≤ c && c ≤ 'f') || ('A' ≤ c && c ≤ 'F')

def xdigitValue (c : Char) : Nat :=
  if c ≤ '9' then c.toNat - '0'.toNat
  else if c ≤ 'F' then c.toNat - 'A'.toNat + 10
  else c.toNat - 'a'.toNat + 10

/-- `sscanf( .., "%2x", .. )` of two digits -/
def escapedChar (high low : Char) : Char := Char.ofNat (16 * xdigitValue high + xdigitValue low)

/-- The loop of `replace_escaped` over the cells from `index` to `max`: each gets what stands three
cells further on, the first one the new character, and the last ones 0. -/
def shiftDown (tempChar : Char) : Text → Text
  | [] => []
  | _ :: rest => tempChar :: shiftDown (rest[2]?.getD nul) rest

def escapeAt (buffer : Text) (index : Nat) : Except Fault (Option Char) := do
  let percent ← fetch buffer index
  if percent = '%' then
    let high ← fetch buffer (index + 1)
    if isxdigit high then
      let low ← fetch buffer (index + 2)
      .ok (if isxdigit low then some (escapedChar high low) else none)
    else .ok none
  else .ok none

def replaceEscaped (buffer : Text) (index max : Nat) : Except Fault (Text × Nat) := do
  match ← escapeAt buffer index with
  | none => .ok (buffer, max)
  | some tempChar =>
      .ok (buffer.take index ++ shiftDown tempChar ((buffer.take max).drop index) ++
        buffer.drop max, max - 2)

def removeEscapedFrom : (turns : Nat) → (i : Nat) → (buffer : Text) → (size : Nat) →
    Except Fault (Text × Nat)
  | 0, _, buffer, size => .ok (buffer, size)
  | turns + 1, i, buffer, size =>
      if i < size then do
        let (buffer, size) ← replaceEscaped buffer i size
        removeEscapedFrom turns (i + 1) buffer size
      else .ok (buffer, size)

/-- `size` never grows, so that there are no more turns than that. -/
def removeEscapedChars (buffer : Text) (size : Nat) : Except Fault (Text × Nat) :=
  removeEscapedFrom size 0 buffer size

/-- The variables of `remove_dots`. `segments` is the array up to `lastSegment`, the last one
first. -/
structure Dots where
  buffer : Text
  copyTo : Nat
  copyFrom : Nat
  segments : List Nat
  deriving DecidableEq

inductive DotsTurn where
  | ends
  | goes (dots : Dots)
  | invalidUrl
  deriving DecidableEq

/-- `( copyFrom == in ) || ( *( copyFrom - 1 ) == '/' )` -/
def Dots.segmentStarts (dots : Dots) : Except Fault Bool :=
  if dots.copyFrom = 0 then .ok true
  else do
    let before ← fetch dots.buffer (dots.copyFrom - 1)
    .ok (before = '/')

def Dots.segmentEnds (dots : Dots) (size n : Nat) : Except Fault Bool :=
  if dots.copyFrom + n = size then .ok true
  else do
    let next ← fetch dots.buffer (dots.copyFrom + n)
    .ok (next = '/')

def Dots.leave (dots : Dots) : DotsTurn :=
  match dots.segments with
  | _ :: before :: rest =>
      .goes { dots with
        copyFrom := dots.copyFrom + 3
        copyTo := before
        segments := before :: rest }
  | _ => .invalidUrl

/-- What the tests for `./` and `../` make of a dot; `none` when it is part of a name. -/
def Dots.dot (dots : Dots) (size : Nat) : Except Fault (Option DotsTurn) := do
  if ← dots.segmentStarts then
    if ← dots.segmentEnds size 1 then
      .ok (some (.goes { dots with copyFrom := dots.copyFrom + 2 }))
    else
      let next ← fetch dots.buffer (dots.copyFrom + 1)
      if next = '.' then
        if ← dots.segmentEnds size 2 then .ok (some dots.leave) else .ok none
      else .ok none
  else .ok none

/-- `Segments` has `size` elements. -/
def Dots.copy (dots : Dots) (size : Nat) (c : Char) : Except Fault DotsTurn :=
  if c = '/' ∧ size ≤ dots.segments.length then .error .outOfBounds
  else do
    let buffer ← write dots.buffer dots.copyTo c
    .ok (.goes
      { buffer := buffer
        copyTo := dots.copyTo + 1
        copyFrom := dots.copyFrom + 1
        segments := if c = '/' then (dots.copyTo + 1) :: dots.segments else dots.segments })

def Dots.turn (dots : Dots) (size : Nat) : Except Fault DotsTurn :=
  if dots.copyFrom < size then do
    let c ← fetch dots.buffer dots.copyFrom
    if c = '?' ∨ c = '#' then .ok .ends
    else if c = '.' then
      match ← dots.dot size with
      | some turn => .ok turn
      | none => dots.copy size c
    else dots.copy size c
  else .ok .ends

/-- The first loop; `none` when it returns `DLNA_E_INVALID_URL`. -/
def removeDotsFrom (size : Nat) : (turns : Nat) → Dots → Except Fault (Option Dots)
  | 0, dots => .ok (some dots)
  | turns + 1, dots => do
      match ← dots.turn size with
      | .ends => .ok (some dots)
      | .goes dots => removeDotsFrom size turns dots
      | .invalidUrl => .ok none

def copyRest : (turns : Nat) → Dots → Except Fault Dots
  | 0, dots => .ok dots
  | turns + 1, dots => do
      let c ← fetch dots.buffer dots.copyFrom
      let buffer ← write dots.buffer dots.copyTo c
      copyRest turns { dots with
        buffer := buffer
        copyTo := dots.copyTo + 1
        copyFrom := dots.copyFrom + 1 }

/-- `Segments[0]` is written to first of all. Every turn moves `copyFrom`, so that `size` turns are
enough. -/
def removeDots (buffer : Text) (size : Nat) : Except Fault (Option Text) :=
  if size = 0 then .error .outOfBounds
  else do
    match ← removeDotsFrom size size ⟨buffer, 0, 0, []⟩ with
    | none => .ok none
    | some dots =>
        let dots ← copyRest (size - dots.copyFrom) dots
        let buffer ← write dots.buffer dots.copyTo nul
        .ok (some buffer)

def httpBadRequest : Int := 400
def httpForbidden : Int := 403

/-- `request_doc` as a C string, or the status of the answer. `remove_dots` is given the length
that the path had before the escapes were replaced. -/
def requestDoc (pathquery : Text) : Except Fault (Except Int Text) := do
  let (buffer, _) ← removeEscapedChars (pathquery ++ [nul]) pathquery.length
  match ← removeDots buffer pathquery.length with
  | none => .ok (.error httpForbidden)
  | some buffer =>
      let first ← fetch buffer 0
      if first ≠ '/' then .ok (.error httpBadRequest)
      else .ok (.ok (buffer.takeWhile (· ≠ nul)))

end Libdlna.Uri
