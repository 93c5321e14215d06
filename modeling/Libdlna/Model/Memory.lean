import Libdlna.Model.Cms
import Libdlna.Model.Media
import Libdlna.Model.Vfs
import Libdlna.Shared.NullTerminated

set_option autoImplicit false

/-!
# Functions that write memory themselves

The same functions as in the rest of the model, down to the cells of the areas they write. An area
of bytes shows the byte 0 as `none`, an array of pointers to strings shows `NULL` so. A cell that
nothing has been written to has an indeterminate value.
-/

namespace Libdlna.Memory

open CString NullTerminated

def inBounds {A : Type} : Option A → Except Fault A
  | some result => .ok result
  | none => .error .outOfBounds

inductive Argument where
  | string (s : Text)
  | integer (z : Int)

/-- A format is a list of these. A conversion prints one argument, if that has the right type. -/
inductive Directive where
  | ordinary (text : Text)
  | conversion (print : Argument → Option Text)

def conversionString : Argument → Option Text
  | .string s => some s
  | .integer _ => none

def conversionDecimal : Argument → Option Text
  | .string _ => none
  | .integer z => some (decimalInt z)

/-- What a format prints, and what it leaves of the arguments in `va`. -/
def print : List Directive → (va : List Argument) → Except Fault (Text × List Argument)
  | [], va => .ok ([], va)
  | .ordinary text :: format, va => do
      let (printed, va) ← print format va
      .ok (text ++ printed, va)
  | .conversion _ :: _, [] => .error .consumedArguments
  | .conversion convert :: format, argument :: va =>
      match convert argument with
      | none => .error .wrongUnionMember
      | some text => do
          let (printed, va) ← print format va
          .ok (text ++ printed, va)

/-- `vsnprintf`: the area, the length of the whole text and the arguments that are left. -/
def vsnprintf (area : List (Option Char)) (size : Nat) (format : List Directive)
    (va : List Argument) : Except Fault (List (Option Char) × Int × List Argument) := do
  let (text, va) ← print format va
  let area ← inBounds (copy area 0 (text.take (size - 1)))
  .ok (area, if text.length ≤ intMax then text.length else -1, va)

structure Buffer where
  buf : Option (List (Option Char))
  len : Nat
  capacity : Nat

def bufferNew : Buffer where
  buf := none
  len := 0
  capacity := 0

structure Indeterminate where
  str : Nat → Option Char
  dynstr : Nat → Option Char
  buf : Nat → Option Char

def Buffer.allocated (buffer : Buffer) : Buffer :=
  match buffer.buf with
  | some _ => buffer
  | none =>
      { buffer with
        buf := some (List.replicate bufferDefaultCapacity none)
        capacity := bufferDefaultCapacity }

def Buffer.grown (rest : Indeterminate) (buffer : Buffer) (len : Nat) : Buffer :=
  if buffer.capacity ≤ len then
    let capacity := max (len + 1) (2 * buffer.capacity)
    { buffer with buf := buffer.buf.map (reallocate rest.buf · capacity), capacity }
  else buffer

def bufferAppend (rest : Indeterminate) (buffer : Buffer) (str : Text) : Except Fault Buffer := do
  let buffer := buffer.allocated
  let len := buffer.len + str.length
  let buffer := buffer.grown rest len
  let area ← inBounds (buffer.buf.bind (concatenate · str))
  .ok { buffer with buf := some area, len := buffer.len + str.length }

def bufferAppendf (rest : Indeterminate) (buffer : Buffer) (format : List Directive)
    (va : List Argument) : Except Fault Buffer := do
  let (str, size, va) ←
    vsnprintf (allocate rest.str bufferDefaultCapacity) bufferDefaultCapacity format va
  if bufferDefaultCapacity ≤ size then do
    -- `va` is not started again
    let (dynstr, _, _) ←
      vsnprintf (allocate rest.dynstr (size.toNat + 1)) (size.toNat + 1) format va
    bufferAppend rest buffer (← inBounds (held dynstr))
  else bufferAppend rest buffer (← inBounds (held str))

def dlnaListLength (list : List (Option Text)) : Except Fault Nat :=
  (inBounds (held list)).map List.length

def dlnaListAdd (rest : Nat → Option Text) (list : List (Option Text)) (element : Option Text) :
    Except Fault (List (Option Text)) := do
  let n := (← dlnaListLength list) + 1
  if (list.take n).any fun l => l.isSome && l = element then .ok list
  else do
    let l := reallocate rest list (n + 1)
    let l ← inBounds (store l n none)
    inBounds (store l (n - 1) element)

def dlnaGetSupportedMimeTypes (rest : Nat → Option Text) (supported : List Text) :
    Except Fault (List (Option Text)) := do
  let mimes ← supported.foldlM (fun mimes mime => dlnaListAdd rest mimes (some mime)) [none]
  dlnaListAdd rest mimes none

def extSize : Nat := 32

/-- The inner loop of `match_file_extension`, from `p` on: the area, what `q` points to in it, and
the list from where the loop ends. -/
def copyToken (ext1 : List (Option Char)) (q : Nat) :
    (p : Text) → Except Fault (List (Option Char) × Nat × Text)
  | [] => .ok (ext1, q, [])
  | c :: p =>
      if c ≠ ',' ∧ q < extSize - 1 then do
        let ext1 ← inBounds (store ext1 q (some c))
        copyToken ext1 (q + 1) p
      else .ok (ext1, q, c :: p)

/-- The outer loop of `match_file_extension`; `fuel` bounds its turns. -/
def matchTokens (ext : Text) :
    (fuel : Nat) → (ext1 : List (Option Char)) → (p : Text) → Except Fault Bool
  | 0, _, _ => .error .noReturn
  | fuel + 1, ext1, p => do
      let (ext1, q, p) ← copyToken ext1 0 p
      let ext1 ← inBounds (store ext1 q none)
      let token ← inBounds (held ext1)
      if strcasecmp token ext then .ok true
      else
        match p with
        | [] => .ok false
        | _ :: p => matchTokens ext fuel ext1 p

def matchFileExtension (rest : Nat → Option Char) (fuel : Nat) (filename : Option Text)
    (extensions : Text) : Except Fault Bool :=
  match filename.bind getFileExtension with
  | some ext => matchTokens ext fuel (allocate rest extSize) extensions
  | none => .ok false

end Libdlna.Memory
