import Libdlna.Model.Didl
import Libdlna.Model.Memory
import Libdlna.Shared.Outcome

set_option autoImplicit false

/-!
# Buffers as concatenations

Every document is printed into a buffer, down to whose bytes the texts are followed here.
-/

namespace Libdlna

open CString NullTerminated

structure Memory.Buffer.Holds (buffer : Memory.Buffer) (text : Text) : Prop where
  area : ∃ area, buffer.buf = some area ∧ area.length = buffer.capacity ∧ held area = some text
  len : buffer.len = text.length
  room : buffer.len < buffer.capacity

def Memory.Buffer.Sound (buffer : Memory.Buffer) (text : Text) : Prop :=
  buffer.Holds text ∨ buffer = Memory.bufferNew ∧ text = []

section Append

variable {rest : Memory.Indeterminate} {buffer : Memory.Buffer} {text str : Text}

theorem Memory.Buffer.Sound.allocated (sound : buffer.Sound text) :
    buffer.allocated.Holds text := by
  rcases sound with holds | ⟨rfl, rfl⟩
  · obtain ⟨area, isBuf, -⟩ := holds.area
    rwa [Memory.Buffer.allocated, isBuf]
  · exact ⟨⟨_, rfl, List.length_replicate, rfl⟩, rfl, by decide⟩

theorem Memory.Buffer.Holds.grown (holds : buffer.Holds text) (rest : Memory.Indeterminate)
    (len : Nat) :
    (buffer.grown rest len).Holds text ∧ len < (buffer.grown rest len).capacity := by
  unfold Memory.Buffer.grown
  split
  · rename_i full
    have room := holds.room
    obtain ⟨area, isBuf, length, isText⟩ := holds.area
    have larger : area.length ≤ max (len + 1) (2 * buffer.capacity) := by omega
    refine ⟨⟨⟨reallocate rest.buf area _, by simp [isBuf], length_reallocate .., ?_⟩,
      holds.len, ?_⟩, ?_⟩
    · exact held_reallocate rest.buf isText larger
    · dsimp only
      omega
    · dsimp only
      omega
  · rename_i roomy
    exact ⟨holds, Nat.not_le.mp roomy⟩

theorem memory_bufferAppend (sound : buffer.Sound text) (rest : Memory.Indeterminate)
    (str : Text) :
    ∃ after, Memory.bufferAppend rest buffer str = .ok after ∧ after.Holds (text ++ str) ∧
      after.capacity =
        (buffer.allocated.grown rest (buffer.allocated.len + str.length)).capacity := by
  have before := sound.allocated.len
  obtain ⟨holds, room⟩ :=
    sound.allocated.grown rest (buffer.allocated.len + str.length)
  unfold Memory.bufferAppend
  dsimp only
  generalize buffer.allocated.grown rest _ = buffer at holds room ⊢
  have same := holds.len
  obtain ⟨area, isBuf, length, isText⟩ := holds.area
  obtain ⟨filled, copied, isWhole, sameLength⟩ :=
    concatenate_fits str isText (by omega)
  refine ⟨{ buffer with buf := some filled, len := buffer.len + str.length }, ?_, ?_, rfl⟩
  · rw [isBuf, Option.bind_some, copied]
    rfl
  · refine ⟨⟨filled, rfl, sameLength.trans length, isWhole⟩, ?_, ?_⟩
    · dsimp only
      rw [same, List.length_append]
    · dsimp only
      omega

theorem Memory.Buffer.Holds.unique {text' : Text} (holds : buffer.Holds text)
    (holds' : buffer.Holds text') : text = text' := by
  obtain ⟨area, isBuf, -, isText⟩ := holds.area
  obtain ⟨area', isBuf', -, isText'⟩ := holds'.area
  rw [Option.some.inj (isBuf.symm.trans isBuf'), isText'] at isText
  exact (Option.some.inj isText).symm

theorem memory_bufferAppend_iff (sound : buffer.Sound text) {whole : Text} :
    (∃ after, Memory.bufferAppend rest buffer str = .ok after ∧ after.Holds whole) ↔
      text ++ str = whole := by
  obtain ⟨after, appended, holds, -⟩ := memory_bufferAppend sound rest str
  constructor
  · rintro ⟨after', appended', holds'⟩
    obtain rfl := Except.ok.inj (appended.symm.trans appended')
    exact holds.unique holds'
  · rintro rfl
    exact ⟨after, appended, holds⟩

end Append

structure Printing where
  format : List Memory.Directive
  va : List Memory.Argument
  text : Text
  left : List Memory.Argument
  prints : Memory.print format va = .ok (text, left)

theorem vsnprintf_allocate (indeterminate : Nat → Option Char) {size : Nat} (positive : 0 < size)
    {format : List Memory.Directive} {va left : List Memory.Argument} {text : Text}
    (prints : Memory.print format va = .ok (text, left)) :
    ∃ area, Memory.vsnprintf (allocate indeterminate size) size format va =
        .ok (area, if text.length ≤ intMax then text.length else -1, left) ∧
      held area = some (text.take (size - 1)) := by
  obtain ⟨area, copied, isText, -⟩ := copy_fits (allocate indeterminate size)
    (text.take (size - 1)) (by rw [List.length_take, length_allocate]; omega)
  refine ⟨area, ?_, isText⟩
  rw [Memory.vsnprintf, prints]
  simp only [Bind.bind, Except.bind, copied, Memory.inBounds]

section Appendf

variable {rest : Memory.Indeterminate} {buffer : Memory.Buffer} {text : Text}

theorem memory_bufferAppendf (p : Printing) :
    Memory.bufferAppendf rest buffer p.format p.va =
      if p.text.length < bufferDefaultCapacity then Memory.bufferAppend rest buffer p.text
      else if p.text.length ≤ intMax then do
        let (again, _) ← Memory.print p.format p.left
        Memory.bufferAppend rest buffer (again.take p.text.length)
      else Memory.bufferAppend rest buffer (p.text.take (bufferDefaultCapacity - 1)) := by
  obtain ⟨str, printed, isStr⟩ :=
    vsnprintf_allocate rest.str (show 0 < bufferDefaultCapacity by decide) p.prints
  rw [Memory.bufferAppendf, printed]
  simp only [Bind.bind, Except.bind, isStr, Memory.inBounds]
  by_cases short : p.text.length < bufferDefaultCapacity
  · have small : p.text.length ≤ intMax :=
      (Nat.le_of_lt short).trans (by decide)
    rw [if_pos small, if_neg (by omega), if_pos short, List.take_of_length_le (by omega)]
  · rw [if_neg short]
    by_cases representable : p.text.length ≤ intMax
    · rw [if_pos representable, if_pos (by omega), if_pos representable]
      cases again : Memory.print p.format p.left with
      | error fault => simp only [Memory.vsnprintf, again, Bind.bind, Except.bind]
      | ok result =>
          obtain ⟨dynstr, printedAgain, isDynstr⟩ :=
            vsnprintf_allocate rest.dynstr (Nat.succ_pos _) again
          rw [Int.toNat_natCast, printedAgain]
          simp only [isDynstr, Nat.succ_sub_one]
    · rw [if_neg representable, if_neg (by decide), if_neg representable]

/-- The long path formats again, from the arguments that the format has left the first time. -/
def Printing.Again (p : Printing) : Prop :=
  p.text.length ≤ intMax ∧
    ∃ again left, Memory.print p.format p.left = .ok (again, left) ∧
      again.take p.text.length = p.text

def Printing.Kept (p : Printing) : Prop := p.text.length < bufferDefaultCapacity ∨ p.Again

theorem memory_bufferAppendf_iff (sound : buffer.Sound text) (p : Printing) :
    (∃ after, Memory.bufferAppendf rest buffer p.format p.va = .ok after ∧
      after.Holds (text ++ p.text)) ↔ p.Kept := by
  rw [memory_bufferAppendf, Printing.Kept, Printing.Again]
  by_cases short : p.text.length < bufferDefaultCapacity
  · rw [if_pos short, memory_bufferAppend_iff sound]
    simp [short]
  · rw [if_neg short]
    by_cases representable : p.text.length ≤ intMax
    · rw [if_pos representable]
      cases again : Memory.print p.format p.left with
      | error fault => simp [short, Bind.bind, Except.bind]
      | ok result =>
          obtain ⟨again, left⟩ := result
          simp only [Bind.bind, Except.bind, memory_bufferAppend_iff sound,
            List.append_cancel_left_eq]
          simp [short, representable]
    · rw [if_neg representable, memory_bufferAppend_iff sound, List.append_cancel_left_eq]
      refine iff_of_false (fun same => ?_) (by simp [short, representable])
      have cut := congrArg List.length same
      rw [List.length_take, Nat.min_eq_left (by omega)] at cut
      exact short (cut ▸ by decide)

end Appendf

theorem print_ordinary {format : List Memory.Directive}
    (ordinary : ∀ directive ∈ format, ∃ text, directive = .ordinary text) :
    ∃ text, ∀ va, Memory.print format va = .ok (text, va) := by
  induction format with
  | nil => exact ⟨[], fun va => rfl⟩
  | cons directive format ih =>
      obtain ⟨⟨text, rfl⟩, others⟩ := List.forall_mem_cons.mp ordinary
      obtain ⟨later, prints⟩ := ih others
      refine ⟨text ++ later, fun va => ?_⟩
      rw [Memory.print, prints]
      rfl

theorem print_without_arguments {format : List Memory.Directive} {convert}
    (converts : .conversion convert ∈ format) :
    Memory.print format [] = .error .consumedArguments := by
  induction format with
  | nil => cases converts
  | cons directive format ih =>
      cases directive with
      | ordinary text =>
          rw [Memory.print, ih (by simpa using converts)]
          rfl
      | conversion convert => rfl

namespace Printing

theorem kept_of_ordinary (p : Printing)
    (ordinary : ∀ directive ∈ p.format, ∃ text, directive = .ordinary text)
    (representable : p.text.length ≤ intMax) : p.Kept := by
  obtain ⟨text, prints⟩ := print_ordinary ordinary
  have same := p.prints
  rw [prints] at same
  obtain ⟨rfl, -⟩ := Prod.mk.inj (Except.ok.inj same)
  exact .inr ⟨representable, p.text, p.left, prints p.left, List.take_length⟩

/-- The call has no more arguments than its format reads, and that reads one at least. -/
def ReadsAll (p : Printing) : Prop :=
  p.left = [] ∧ ∃ convert, .conversion convert ∈ p.format

theorem print_left {p : Printing} (reads : p.ReadsAll) :
    Memory.print p.format p.left = .error .consumedArguments := by
  obtain ⟨none, convert, converts⟩ := reads
  rw [none, print_without_arguments converts]

theorem kept_iff_of_readsAll {p : Printing} (reads : p.ReadsAll) :
    p.Kept ↔ p.text.length < bufferDefaultCapacity := by
  simp [Kept, Again, print_left reads]

end Printing

inductive BufferCall where
  | append (str : Text)
  | appendf (p : Printing)

def BufferCall.text : BufferCall → Text
  | .append str => str
  | .appendf p => p.text

def BufferCall.run (rest : Memory.Indeterminate) (buffer : Memory.Buffer) :
    BufferCall → Except Fault Memory.Buffer
  | .append str => Memory.bufferAppend rest buffer str
  | .appendf p => Memory.bufferAppendf rest buffer p.format p.va

def BufferCall.Kept : BufferCall → Prop
  | .append _ => True
  | .appendf p => p.Kept

def HoldsThroughout :
    Memory.Buffer → Text → List (Memory.Indeterminate × BufferCall) → Prop
  | _, _, [] => True
  | buffer, text, (rest, call) :: calls =>
      ∃ after, call.run rest buffer = .ok after ∧ after.Holds (text ++ call.text) ∧
        HoldsThroughout after (text ++ call.text) calls

theorem bufferCall_iff {buffer : Memory.Buffer} {text : Text} (sound : buffer.Sound text)
    (rest : Memory.Indeterminate) (call : BufferCall) :
    (∃ after, call.run rest buffer = .ok after ∧ after.Holds (text ++ call.text)) ↔
      call.Kept := by
  cases call with
  | append str =>
      obtain ⟨after, appended, holds, -⟩ := memory_bufferAppend sound rest str
      exact iff_of_true ⟨after, appended, holds⟩ trivial
  | appendf p => exact memory_bufferAppendf_iff sound p

theorem holdsThroughout_iff {buffer : Memory.Buffer} {text : Text} (sound : buffer.Sound text)
    (calls : List (Memory.Indeterminate × BufferCall)) :
    HoldsThroughout buffer text calls ↔ ∀ call ∈ calls, call.2.Kept := by
  induction calls generalizing buffer text with
  | nil => simp [HoldsThroughout]
  | cons call calls ih =>
      obtain ⟨rest, call⟩ := call
      rw [List.forall_mem_cons, ← bufferCall_iff sound rest call]
      constructor
      · rintro ⟨after, ran, holds, throughout⟩
        exact ⟨⟨after, ran, holds⟩, (ih (.inl holds)).mp throughout⟩
      · rintro ⟨⟨after, ran, holds⟩, kept⟩
        exact ⟨after, ran, holds, (ih (.inl holds)).mpr kept⟩

def stringPrinting (text : Text) : Printing where
  format := [.conversion Memory.conversionString]
  va := [.string text]
  text := text
  left := []
  prints := by simp [Memory.print, Memory.conversionString, Bind.bind, Except.bind]

theorem stringPrinting_readsAll (text : Text) : (stringPrinting text).ReadsAll :=
  ⟨rfl, _, List.mem_singleton_self _⟩

def clearedMemory : Memory.Indeterminate where
  str := fun _ => none
  dynstr := fun _ => none
  buf := fun _ => none

/-- The rest of the model shows of a buffer the text that it holds. -/
def shownBuffer (buffer : Memory.Buffer) : Buffer where
  buf := buffer.buf.bind held
  len := buffer.len
  capacity := buffer.capacity

section Shown

variable {rest : Memory.Indeterminate} {buffer : Memory.Buffer} {text : Text}

theorem shownBuffer_buf (holds : buffer.Holds text) :
    (shownBuffer buffer).buf = some text := by
  obtain ⟨area, isBuf, -, isText⟩ := holds.area
  rw [shownBuffer, isBuf, Option.bind_some, isText]

theorem bufferAppend_capacity (sound : buffer.Sound text) (str : Text) :
    (bufferAppend (shownBuffer buffer) str).capacity =
      (buffer.allocated.grown rest (buffer.allocated.len + str.length)).capacity := by
  have growth (buffer : Memory.Buffer) (len : Nat) :
      (buffer.grown rest len).capacity =
        if buffer.capacity ≤ len then max (len + 1) (2 * buffer.capacity) else buffer.capacity :=
    apply_ite Memory.Buffer.capacity ..
  rw [growth]
  rcases sound with before | ⟨rfl, rfl⟩
  · obtain ⟨area, isBuf, -, isText⟩ := before.area
    have started : buffer.allocated = buffer := by rw [Memory.Buffer.allocated, isBuf]
    simp only [bufferAppend, shownBuffer, started, isBuf, isText, Option.bind_some]
    exact apply_ite Buffer.capacity ..
  · exact apply_ite Buffer.capacity ..

theorem bufferAppend_len (buffer : Buffer) (str : Text) :
    (bufferAppend buffer str).len = buffer.len + str.length := by
  unfold bufferAppend
  cases buffer.buf <;> dsimp only <;> split <;> rfl

theorem memory_bufferAppend_shown (sound : buffer.Sound text) (str : Text) :
    (Memory.bufferAppend rest buffer str).map shownBuffer =
      .ok (bufferAppend (shownBuffer buffer) str) := by
  obtain ⟨after, appended, holds, capacity⟩ := memory_bufferAppend sound rest str
  obtain ⟨contents, isLen⟩ :
      (shownBuffer buffer).contents = text ∧ (shownBuffer buffer).len = text.length := by
    rcases sound with before | ⟨rfl, rfl⟩
    · exact ⟨by rw [Buffer.contents, shownBuffer_buf before, Option.getD_some], before.len⟩
    · exact ⟨rfl, rfl⟩
  have sameBuf : (shownBuffer after).buf = (bufferAppend (shownBuffer buffer) str).buf := by
    rw [shownBuffer_buf holds, bufferAppend_buf, contents]
  have sameLen : (shownBuffer after).len = (bufferAppend (shownBuffer buffer) str).len := by
    rw [bufferAppend_len, isLen, ← List.length_append]
    exact holds.len
  have sameCapacity :
      (shownBuffer after).capacity = (bufferAppend (shownBuffer buffer) str).capacity :=
    capacity.trans (bufferAppend_capacity sound str).symm
  rw [appended, Except.map]
  generalize bufferAppend (shownBuffer buffer) str = expected at sameBuf sameLen sameCapacity
  cases expected
  cases sameBuf
  cases sameLen
  cases sameCapacity
  rfl

theorem memory_bufferAppendf_shown (sound : buffer.Sound text) (p : Printing)
    (usual : p.text.length < bufferDefaultCapacity ∨ p.ReadsAll ∧ p.text.length ≤ intMax) :
    (Memory.bufferAppendf rest buffer p.format p.va).map shownBuffer =
      bufferAppendf (shownBuffer buffer) p.text := by
  rw [memory_bufferAppendf, bufferAppendf]
  by_cases short : p.text.length < bufferDefaultCapacity
  · rw [if_pos short, if_neg (Nat.not_le.mpr short), memory_bufferAppend_shown sound]
  · obtain ⟨reads, representable⟩ := usual.resolve_left short
    rw [if_neg short, if_pos representable, if_pos (Nat.not_lt.mp short), Printing.print_left reads]
    rfl

def valuePrinting (param : Text) (value : Int) : Printing where
  format := [.ordinary " ".toList, .conversion Memory.conversionString, .ordinary "=\"".toList,
    .conversion Memory.conversionDecimal, .ordinary "\"".toList]
  va := [.string param, .integer value]
  text := " ".toList ++ param ++ "=\"".toList ++ decimalInt value ++ "\"".toList
  left := []
  prints := by
    simp [Memory.print, Memory.conversionString, Memory.conversionDecimal, Bind.bind, Except.bind]

theorem memory_didlAddValue (sound : buffer.Sound text) (param : Text) (value : Int)
    (representable : (valuePrinting param value).text.length ≤ intMax) :
    (Memory.bufferAppendf rest buffer (valuePrinting param value).format
        (valuePrinting param value).va).map shownBuffer =
      didlAddValue (shownBuffer buffer) param value := by
  have reads : (valuePrinting param value).ReadsAll :=
    ⟨rfl, Memory.conversionString, by simp [valuePrinting]⟩
  exact memory_bufferAppendf_shown sound (valuePrinting param value) (.inr ⟨reads, representable⟩)

end Shown

end Libdlna
