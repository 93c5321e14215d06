import Libdlna.Model.Item

set_option autoImplicit false

namespace Libdlna

open CString

structure Buffer where
  buf : Option Text
  len : Nat
  capacity : Nat
  deriving DecidableEq

def bufferDefaultCapacity : Nat := 32768

def bufferNew : Buffer where
  buf := none
  len := 0
  capacity := 0

def bufferAppend (buffer : Buffer) (str : Text) : Buffer :=
  let buffer :=
    match buffer.buf with
    | some _ => buffer
    | none => { buffer with buf := some [], capacity := bufferDefaultCapacity }
  let len := buffer.len + str.length
  let buffer :=
    if buffer.capacity ≤ len then { buffer with capacity := max (len + 1) (2 * buffer.capacity) }
    else buffer
  { buffer with buf := some (buffer.buf.getD [] ++ str), len := buffer.len + str.length }

/-- `buffer_appendf` on a text that is already formatted. -/
def bufferAppendf (buffer : Buffer) (str : Text) : Except Fault Buffer :=
  -- a text that overflows the stack area is formatted again from the same va_list
  if bufferDefaultCapacity ≤ str.length then .error .consumedArguments
  else .ok (bufferAppend buffer str)

def Buffer.contents (buffer : Buffer) : Text := buffer.buf.getD []

@[simp] theorem bufferNew_contents : bufferNew.contents = [] := rfl

@[simp] theorem bufferAppend_contents (buffer : Buffer) (str : Text) :
    (bufferAppend buffer str).contents = buffer.contents ++ str := by
  cases held : buffer.buf <;> simp [bufferAppend, Buffer.contents, held] <;> split <;> simp [held]

@[simp] theorem bufferAppend_buf (buffer : Buffer) (str : Text) :
    (bufferAppend buffer str).buf = some (buffer.contents ++ str) := by
  cases held : buffer.buf <;> simp [bufferAppend, Buffer.contents, held] <;> split <;> simp [held]

end Libdlna
