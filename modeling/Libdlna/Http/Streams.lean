import Libdlna.Http.Handles
import Libdlna.Shared.ByteStream
import Libdlna.Shared.Runs

set_option autoImplicit false

/-!
# Files in memory

A service description is served from memory. Its handle is a stream of the description: the length
that a read computes from the position is never negative, because no seek leaves the text.
-/

namespace Libdlna

open CString

variable {H W : Type} {callback : Option (HttpCallback H W)} {calls : SystemCalls W}
  {fullpath content : Text} {stream : ByteStream Char}

def IsOffT (z : Int) : Prop := -2 ^ 63 ≤ z ∧ z < 2 ^ 63

def streamFile (fullpath : Text) (stream : ByteStream Char) : HttpOpenFile :=
  ⟨fullpath, stream.pos, .memory stream.content⟩

def streamHandle (fullpath : Text) (stream : ByteStream Char) : DlnaHttpFileHandler H where
  external := false
  priv := .file (streamFile fullpath stream)

def seekOrigin (origin : Int32) : Option ByteStream.Origin :=
  if origin = seekSet then some .beginning
  else if origin = seekCur then some .position
  else if origin = seekEnd then some .ending
  else none

def HttpOpenFile.SumFits (hdl : HttpOpenFile) (offset : Int) (origin : Int32) : Prop :=
  (origin = seekCur → IsOffT (hdl.pos + offset)) ∧
    ∀ content, hdl.detail = .memory content → origin = seekEnd → IsOffT (content.length + offset)

def HttpCall.Fits (hdl : HttpOpenFile) : HttpCall → Prop
  | .read buflen => buflen.toNat ≤ intMax
  | .seek offset origin => hdl.SumFits offset origin
  | .close => False

def seekStream (stream : ByteStream Char) (offset : Int) (origin : Int32) :
    Option (ByteStream Char) :=
  (seekOrigin origin).bind fun place => stream.seek (stream.target offset place)

theorem offT_ok {z : Int} (fits : IsOffT z) : offT z = .ok z := by
  have inside : ¬ (z < -2 ^ 63 ∨ 2 ^ 63 ≤ z) := by
    have := fits.1
    have := fits.2
    omega
  rw [offT, if_neg inside]

theorem ssizeT_small {buflen : UInt64} (small : buflen.toNat ≤ intMax) :
    ssizeT buflen = buflen.toNat := by
  unfold intMax at small
  unfold ssizeT
  omega

theorem toInt_ofInt {n : Nat} (small : n ≤ intMax) : (Int32.ofInt n).toInt = n := by
  unfold intMax at small
  rw [Int32.toInt_ofInt]
  apply Int.bmod_eq_of_le <;> simp only [Int32.size] <;> omega

theorem copyMemory_stream (stream : ByteStream Char) (count : Nat) :
    copyMemory stream.content stream.pos (min count stream.left : Nat) =
      .ok (stream.read count).1 := by
  have inside := stream.pos_add_left
  have bounds : ¬ ((stream.pos : Int) < 0 ∨ ((min count stream.left : Nat) : Int) < 0 ∨
      (stream.content.length : Int) < stream.pos + (min count stream.left : Nat)) := by
    omega
  rw [copyMemory, if_neg bounds, Int.toNat_natCast, Int.toNat_natCast]
  simp [ByteStream.read, ByteStream.left, List.take_eq_take_iff]

theorem readFile_memory (short : stream.content.length < 2 ^ 63) {buflen : UInt64}
    (small : buflen.toNat ≤ intMax) (world : W) :
    readFile calls (streamFile fullpath stream) buflen world =
      .ok ((((min buflen.toNat stream.left : Nat) : Int), (stream.read buflen.toNat).1), world) := by
  have inside := stream.pos_add_left
  have left : (stream.content.length : Int) - stream.pos = stream.left := by omega
  have fits : IsOffT stream.left := by
    unfold IsOffT
    omega
  have copied := copyMemory_stream stream buflen.toNat
  rw [Nat.cast_min] at copied ⊢
  unfold readFile streamFile
  dsimp only
  rw [left, offT_ok fits, ssizeT_small small]
  simp only [Bind.bind, Except.bind, copied]

theorem dlnaHttpRead_stream (short : stream.content.length < 2 ^ 63) {buflen : UInt64}
    (small : buflen.toNat ≤ intMax) (world : W) :
    dlnaHttpRead callback calls (streamHandle fullpath stream) buflen world =
      .ok ((⟨Int32.ofInt (min buflen.toNat stream.left : Nat), (stream.read buflen.toNat).1⟩,
        streamHandle fullpath (stream.read buflen.toNat).2), world) := by
  have inside := stream.pos_add_left
  have fits : IsOffT ((streamFile fullpath stream).pos + (min buflen.toNat stream.left : Nat)) := by
    change IsOffT ((stream.pos : Int) + _)
    unfold IsOffT
    omega
  have internal : readFile calls (streamFile fullpath stream) buflen world = _ :=
    readFile_memory short small world
  unfold dlnaHttpRead
  simp only [DlnaHttpFileHandler.asked, streamHandle, Bool.false_eq_true, if_false, trapCallback,
    DlnaHttpFileHandler.file, internal, offT_ok fits, Bind.bind, Except.bind]
  by_cases moves : 0 < ((min buflen.toNat stream.left : Nat) : Int)
  · rw [if_pos moves]
    rfl
  · have still : min buflen.toNat stream.left = 0 := by omega
    rw [if_neg moves]
    simp [still, streamFile, ByteStream.read]

theorem seekTarget_stream {offset : Int} {origin : Int32}
    (fits : (streamFile fullpath stream).SumFits offset origin) (world : W) :
    seekTarget calls (streamFile fullpath stream) offset origin world =
      .ok (some (((seekOrigin origin).map (stream.target offset)).getD (-1))) := by
  unfold seekTarget seekOrigin
  by_cases set : origin = seekSet
  · simp [set, ByteStream.target]
  · by_cases cur : origin = seekCur
    · have sum : IsOffT (stream.pos + offset) := fits.1 cur
      simp only [if_neg set, if_pos cur, streamFile, offT_ok sum, Except.map]
      rfl
    · by_cases ends : origin = seekEnd
      · have sum : IsOffT (stream.content.length + offset) := fits.2 stream.content rfl ends
        simp only [if_neg set, if_neg cur, if_pos ends, streamFile, offT_ok sum, Except.map]
        rfl
      · simp [set, cur, ends]

theorem dlnaHttpSeek_stream {offset : Int} {origin : Int32}
    (fits : (streamFile fullpath stream).SumFits offset origin) (world : W) :
    dlnaHttpSeek callback calls (streamHandle fullpath stream) offset origin world =
      .ok ((seekStream stream offset origin).elim (httpError, streamHandle fullpath stream)
        fun moved => (httpOk, streamHandle fullpath moved), world) := by
  have sought : seekTarget calls (streamFile fullpath stream) offset origin world = _ :=
    seekTarget_stream fits world
  unfold dlnaHttpSeek
  simp only [DlnaHttpFileHandler.asked, streamHandle, Bool.false_eq_true, if_false, trapCallback,
    DlnaHttpFileHandler.file, sought, Bind.bind, Except.bind]
  unfold seekStream
  cases seekOrigin origin with
  | none => simp [moveFile, streamFile]
  | some place =>
      by_cases inside : 0 ≤ stream.target offset place ∧
          stream.target offset place ≤ stream.content.length
      · have within : ¬ (stream.target offset place < 0 ∨
            (stream.content.length : Int) < stream.target offset place) := by omega
        simp [ByteStream.seek, moveFile, streamFile, inside, Int.toNat_of_nonneg inside.1]
      · simp [ByteStream.seek, moveFile, streamFile, inside]

/-- The handle is that of a stream, and a call on it does what it does on the stream. -/
structure ActsAsStream (callback : Option (HttpCallback H W)) (calls : SystemCalls W)
    (fullpath : Text) (dhdl : DlnaHttpFileHandler H) (stream : ByteStream Char) : Prop where
  positioned : dhdl = streamHandle fullpath stream
  reads : ∀ (buflen : UInt64) (world : W), buflen.toNat ≤ intMax →
    ∃ res : Int32, res.toInt = min buflen.toNat stream.left ∧
      dlnaHttpRead callback calls dhdl buflen world =
        .ok ((⟨res, (stream.read buflen.toNat).1⟩,
          streamHandle fullpath (stream.read buflen.toNat).2), world)
  seeks : ∀ (offset : Int) (origin : Int32) (world : W),
    (streamFile fullpath stream).SumFits offset origin →
      dlnaHttpSeek callback calls dhdl offset origin world =
        .ok ((seekStream stream offset origin).elim (httpError, dhdl)
          fun moved => (httpOk, streamHandle fullpath moved), world)

theorem streamHandle_acts (callback : Option (HttpCallback H W)) (calls : SystemCalls W)
    (fullpath : Text) (short : stream.content.length < 2 ^ 63) :
    ActsAsStream callback calls fullpath (streamHandle fullpath stream) stream where
  positioned := rfl
  reads := by
    intro buflen world small
    refine ⟨_, ?_, dlnaHttpRead_stream short small world⟩
    exact toInt_ofInt ((Nat.min_le_left _ _).trans small)
  seeks := by
    intro offset origin world fits
    exact dlnaHttpSeek_stream fits world

def fileStep (callback : Option (HttpCallback H W)) (calls : SystemCalls W)
    (dhdl : DlnaHttpFileHandler H) (call : HttpCall) (next : DlnaHttpFileHandler H) : Prop :=
  ∃ hdl reply world after, dhdl.file = .ok hdl ∧ call.Fits hdl ∧
    httpCall callback calls dhdl call world = .ok ((reply, some next), after)

def IsStreamOf (fullpath content : Text) (dhdl : DlnaHttpFileHandler H) : Prop :=
  ∃ stream : ByteStream Char, stream.content = content ∧ dhdl = streamHandle fullpath stream

theorem seekStream_content {offset : Int} {origin : Int32} {moved : ByteStream Char}
    (found : seekStream stream offset origin = some moved) : moved.content = stream.content := by
  obtain ⟨place, -, here⟩ := Option.bind_eq_some_iff.mp found
  exact ((stream.seek_some).mp here).1

theorem fileStep_stream (short : content.length < 2 ^ 63) (dhdl : DlnaHttpFileHandler H)
    (call : HttpCall) (next : DlnaHttpFileHandler H) (isStream : IsStreamOf fullpath content dhdl)
    (step : fileStep callback calls dhdl call next) : IsStreamOf fullpath content next := by
  obtain ⟨stream, rfl, rfl⟩ := isStream
  obtain ⟨hdl, reply, world, after, isFile, fits, ran⟩ := step
  cases isFile
  cases call with
  | read buflen =>
      have read : dlnaHttpRead callback calls (streamHandle fullpath stream) buflen world = _ :=
        dlnaHttpRead_stream short fits world
      simp only [httpCall, read, Except.map, Except.ok.injEq, Prod.mk.injEq, Option.some.injEq]
        at ran
      exact ⟨(stream.read buflen.toNat).2, rfl, ran.1.2.symm⟩
  | seek offset origin =>
      have sought :
          dlnaHttpSeek callback calls (streamHandle fullpath stream) offset origin world = _ :=
        dlnaHttpSeek_stream fits world
      simp only [httpCall, sought, Except.map, Except.ok.injEq, Prod.mk.injEq, Option.some.injEq]
        at ran
      cases goes : seekStream stream offset origin with
      | none =>
          rw [goes] at ran
          exact ⟨stream, rfl, ran.1.2.symm⟩
      | some moved =>
          rw [goes] at ran
          exact ⟨moved, seekStream_content goes, ran.1.2.symm⟩
  | close => exact absurd fits id

theorem memoryFile_acts_as_stream (callback : Option (HttpCallback H W)) (calls : SystemCalls W)
    (fd : Int32) (fullpath content : Text) (nonempty : content ≠ [])
    (short : content.length < 2 ^ 63) :
    ∃ handler, httpGetFileFromMemory fullpath content content.length = some handler ∧
      ∀ session dhdl, Runs.Reaches (fileStep callback calls) (handler.allocate fd) session dhdl →
        ∃ stream : ByteStream Char, stream.content = content ∧
          ActsAsStream callback calls fullpath dhdl stream := by
  have filled : content.length ≠ 0 := fun empty => nonempty (List.length_eq_zero_iff.mp empty)
  refine ⟨.memory fullpath content, if_neg filled, ?_⟩
  intro session dhdl reached
  have initial : IsStreamOf (H := H) fullpath content
      ((HttpFileHandler.memory fullpath content).allocate fd) :=
    ⟨.opened content, rfl, rfl⟩
  have isStream := reached.invariant (fileStep_stream short) initial
  obtain ⟨stream, rfl, rfl⟩ := isStream
  exact ⟨stream, rfl, streamHandle_acts callback calls fullpath short⟩

theorem memoryFile_acts_as_stream_abc :
    ∃ handler, httpGetFileFromMemory "/dlna/x.xml".toList "abc".toList "abc".toList.length =
        some handler ∧
      ∀ session (dhdl : DlnaHttpFileHandler Unit),
        Runs.Reaches (fileStep (some threeCharacters) noFiles) (handler.allocate 3) session dhdl →
          ∃ stream : ByteStream Char, stream.content = "abc".toList ∧
            ActsAsStream (some threeCharacters) noFiles "/dlna/x.xml".toList dhdl stream :=
  memoryFile_acts_as_stream (some threeCharacters) noFiles 3 "/dlna/x.xml".toList "abc".toList
    (by decide) (by decide)

end Libdlna
