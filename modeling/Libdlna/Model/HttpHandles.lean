import Libdlna.Model.Http

set_option autoImplicit false

namespace Libdlna

open CString

inductive HttpFileDetail where
  | local (fd : Int32)
  -- `len` is the length of the content
  | memory (content : Text)
  deriving DecidableEq

structure HttpOpenFile where
  fullpath : Text
  pos : Int
  detail : HttpFileDetail
  deriving DecidableEq

/-- What the `void *` of a handle points to: `H` is the type of the application's own handles. -/
inductive HttpPriv (H : Type) where
  | file (hdl : HttpOpenFile)
  | application (hdl : H)
  deriving DecidableEq

structure DlnaHttpFileHandler (H : Type) where
  external : Bool
  priv : HttpPriv H
  deriving DecidableEq

def HttpFileHandler.allocate {H : Type} (fd : Int32) : HttpFileHandler → DlnaHttpFileHandler H
  | .local filename => { external := false, priv := .file ⟨filename, 0, .local fd⟩ }
  | .memory fullpath content => { external := false, priv := .file ⟨fullpath, 0, .memory content⟩ }

structure HttpReply where
  res : Int32
  -- what is in the buffer
  buf : Text
  deriving DecidableEq

def httpError : Int32 := -1
def httpOk : Int32 := 0

structure HttpCallback (H W : Type) where
  read : Option (HttpPriv H → UInt64 → W → HttpReply × W)
  seek : Option (HttpPriv H → Int → Int32 → W → Int32 × W)
  close : Option (HttpPriv H → W → Int32 × W)

structure SystemCalls (W : Type) where
  -- the number of bytes, or -1, and the bytes
  read : Int32 → UInt64 → W → (Int × Text) × W
  -- `st_size`
  stat : Text → W → Option Int
  -- whether the descriptor has been moved
  lseek : Int32 → Int → W → Bool × W
  close : Int32 → W → W

variable {H W : Type}

def DlnaHttpFileHandler.file (dhdl : DlnaHttpFileHandler H) : Except Fault HttpOpenFile :=
  match dhdl.priv with
  | .file hdl => .ok hdl
  | .application _ => .error .wrongUnionMember

def offT (z : Int) : Except Fault Int :=
  if z < -2 ^ 63 ∨ 2 ^ 63 ≤ z then .error .signedOverflow else .ok z

def ssizeT (buflen : UInt64) : Int := ((buflen.toNat : Int) + 2 ^ 63) % 2 ^ 64 - 2 ^ 63

def seekSet : Int32 := 0
def seekCur : Int32 := 1
def seekEnd : Int32 := 2

/-- The application is asked first, where the handle is one of its own and it has a callback. Its
answer is returned if it `succeeds`; else the library goes on by itself. -/
def trapCallback {A R : Type} (asked : Option (W → A × W)) (succeeds : A → Bool)
    (answer : A → R) (internal : W → Except Fault (R × W)) (world : W) : Except Fault (R × W) :=
  match asked with
  | none => internal world
  | some ask =>
      let (res, world) := ask world
      if succeeds res then .ok (answer res, world) else internal world

def DlnaHttpFileHandler.asked {A : Type} (dhdl : DlnaHttpFileHandler H)
    (callback : Option (HttpPriv H → W → A × W)) : Option (W → A × W) :=
  if dhdl.external then callback.map fun call => call dhdl.priv else none

def copyMemory (content : Text) (pos len : Int) : Except Fault Text :=
  if pos < 0 ∨ len < 0 ∨ (content.length : Int) < pos + len then .error .outOfBounds
  else .ok ((content.drop pos.toNat).take len.toNat)

def readFile (calls : SystemCalls W) (hdl : HttpOpenFile) (buflen : UInt64) (world : W) :
    Except Fault ((Int × Text) × W) :=
  match hdl.detail with
  | .local fd => .ok (calls.read fd buflen world)
  | .memory content => do
      let left ← offT (content.length - hdl.pos)
      let len := min (ssizeT buflen) left
      let bytes ← copyMemory content hdl.pos len
      .ok ((len, bytes), world)

def dlnaHttpRead (callback : Option (HttpCallback H W)) (calls : SystemCalls W)
    (dhdl : DlnaHttpFileHandler H) (buflen : UInt64) :
    W → Except Fault ((HttpReply × DlnaHttpFileHandler H) × W) :=
  let read := (callback.bind HttpCallback.read).map fun call priv => call priv buflen
  trapCallback (dhdl.asked read) (fun reply => 0 < reply.res) (fun reply => (reply, dhdl))
    fun world => do
      let hdl ← dhdl.file
      let ((len, buf), world) ← readFile calls hdl buflen world
      let pos ← if 0 < len then offT (hdl.pos + len) else .ok hdl.pos
      .ok ((⟨Int32.ofInt len, buf⟩, { dhdl with priv := .file { hdl with pos } }), world)

/-- The place that is sought: `none` when the file has no size to count from. -/
def seekTarget (calls : SystemCalls W) (hdl : HttpOpenFile) (offset : Int) (origin : Int32)
    (world : W) : Except Fault (Option Int) :=
  if origin = seekSet then .ok (some offset)
  else if origin = seekCur then (offT (hdl.pos + offset)).map some
  else if origin = seekEnd then
    match hdl.detail with
    | .local _ =>
        match calls.stat hdl.fullpath world with
        | none => .ok none
        | some size => (offT (size + offset)).map some
    | .memory content => (offT (content.length + offset)).map some
  else .ok (some (-1))

def moveFile (calls : SystemCalls W) (hdl : HttpOpenFile) (newpos : Int) (world : W) : Bool × W :=
  match hdl.detail with
  | .local fd => if newpos < 0 then (false, world) else calls.lseek fd newpos world
  | .memory content => (!(newpos < 0 || (content.length : Int) < newpos), world)

def dlnaHttpSeek (callback : Option (HttpCallback H W)) (calls : SystemCalls W)
    (dhdl : DlnaHttpFileHandler H) (offset : Int) (origin : Int32) :
    W → Except Fault ((Int32 × DlnaHttpFileHandler H) × W) :=
  let seek := (callback.bind HttpCallback.seek).map fun call priv => call priv offset origin
  trapCallback (dhdl.asked seek) (fun res => res = 0) (fun res => (res, dhdl))
    fun world => do
      let hdl ← dhdl.file
      match ← seekTarget calls hdl offset origin world with
      | none => .ok ((httpError, dhdl), world)
      | some newpos =>
          let (moved, world) := moveFile calls hdl newpos world
          if moved then
            .ok ((httpOk, { dhdl with priv := .file { hdl with pos := newpos } }), world)
          else .ok ((httpError, dhdl), world)

def dlnaHttpClose (callback : Option (HttpCallback H W)) (calls : SystemCalls W)
    (dhdl : DlnaHttpFileHandler H) : W → Except Fault (Int32 × W) :=
  trapCallback (dhdl.asked (callback.bind HttpCallback.close)) (fun res => res = 0) id
    fun world => do
      let hdl ← dhdl.file
      match hdl.detail with
      | .local fd => .ok (httpOk, calls.close fd world)
      | .memory _ => .ok (httpOk, world)

inductive HttpCall where
  | read (buflen : UInt64)
  | seek (offset : Int) (origin : Int32)
  | close
  deriving DecidableEq

def httpCall (callback : Option (HttpCallback H W)) (calls : SystemCalls W)
    (dhdl : DlnaHttpFileHandler H) (call : HttpCall) (world : W) :
    Except Fault ((HttpReply × Option (DlnaHttpFileHandler H)) × W) :=
  match call with
  | .read buflen =>
      (dlnaHttpRead callback calls dhdl buflen world).map fun ((reply, dhdl), world) =>
        ((reply, some dhdl), world)
  | .seek offset origin =>
      (dlnaHttpSeek callback calls dhdl offset origin world).map fun ((res, dhdl), world) =>
        ((⟨res, []⟩, some dhdl), world)
  | .close =>
      (dlnaHttpClose callback calls dhdl world).map fun (res, world) => ((⟨res, []⟩, none), world)

def httpSession (callback : Option (HttpCallback H W)) (calls : SystemCalls W) :
    DlnaHttpFileHandler H → List HttpCall → W → Except Fault (List HttpReply × W)
  | _, [], world => .ok ([], world)
  | dhdl, call :: rest, world => do
      let ((reply, left), world) ← httpCall callback calls dhdl call world
      match left with
      | none => .ok ([reply], world)
      | some dhdl => do
          let (replies, world) ← httpSession callback calls dhdl rest world
          .ok (reply :: replies, world)

end Libdlna
