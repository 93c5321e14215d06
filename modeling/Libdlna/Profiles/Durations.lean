import Libdlna.Model.Properties
import Libdlna.Profiles.Lookup

set_option autoImplicit false

/-!
# Durations

A duration is written as hours, minutes and seconds, with digits after the point if there is one.
The profiler writes the point and no digit, and no hours where there are none.
-/

namespace Libdlna

open CString

variable {text : Text} {d : Nat}

def Digits (s : Text) : Prop := s ≠ [] ∧ ∀ c ∈ s, c.isDigit = true

structure Sexagesimal (s : Text) (n : Nat) : Prop where
  digits : Digits s
  two : s.length = 2
  value : digitsValue s = n
  below : n < 60

def Fraction (s : Text) : Prop := s = [] ∨ ∃ digits, s = '.' :: digits ∧ Digits digits

/-- `H+:MM:SS[.F+]`, for `d` seconds and no part of one. -/
def EncodesDuration (text : Text) (d : Nat) : Prop :=
  ∃ (hours minutes seconds fraction : Text) (min sec : Nat),
    text = hours ++ ":".toList ++ minutes ++ ":".toList ++ seconds ++ fraction ∧ Digits hours ∧
      Sexagesimal minutes min ∧ Sexagesimal seconds sec ∧ Fraction fraction ∧
      digitsValue fraction.tail = 0 ∧ digitsValue hours * 3600 + min * 60 + sec = d

theorem digits_decimal (n : Nat) : Digits (decimal n) :=
  ⟨decimal_ne_nil n, fun _ member => decimal_isDigit member⟩

theorem Digits.getLast? {s : Text} (digits : Digits s) : ∃ c, s.getLast? = some c ∧ c.isDigit := by
  obtain ⟨c, last⟩ := Option.isSome_iff_exists.mp (List.getLast?_isSome.mpr digits.1)
  exact ⟨c, last, digits.2 c (List.mem_of_getLast? last)⟩

theorem EncodesDuration.getLast? (encodes : EncodesDuration text d) :
    ∃ c, text.getLast? = some c ∧ c.isDigit := by
  obtain ⟨hours, minutes, seconds, fraction, min, sec, rfl, -, -, isSeconds, isFraction, -, -⟩ :=
    encodes
  rcases isFraction with rfl | ⟨digits, rfl, isDigits⟩
  · obtain ⟨c, last, isDigit⟩ := isSeconds.digits.getLast?
    refine ⟨c, ?_, isDigit⟩
    rw [List.append_nil, List.getLast?_append, last]
    rfl
  · obtain ⟨c, last, isDigit⟩ := isDigits.getLast?
    refine ⟨c, ?_, isDigit⟩
    rw [List.getLast?_append, List.getLast?_cons, last]
    rfl

theorem twoDigits_sexagesimal {n : Nat} (below : n < 60) : Sexagesimal (twoDigits n) n := by
  have each : ∀ n : Nat, n < 60 → (twoDigits (n : Int)).length = 2 ∧
      (twoDigits (n : Int)).all Char.isDigit = true ∧ digitsValue (twoDigits (n : Int)) = n := by
    decide +kernel
  obtain ⟨two, digits, value⟩ := each n below
  exact ⟨⟨List.ne_nil_of_length_pos (by omega), List.all_eq_true.mp digits⟩, two, value, below⟩

theorem propDuration_eq (d : Nat) :
    propDuration d = (if d < 3600 then [] else decimal (d / 3600)) ++ ":".toList ++
      twoDigits (d / 60 % 60 : Nat) ++ ":".toList ++ twoDigits (d % 60 : Nat) ++ ".".toList := by
  have hours : (d : Int).tdiv 3600 = (d / 3600 : Nat) := by
    rw [Int.tdiv_eq_ediv_of_nonneg (by omega)]
    rfl
  have min : ((d : Int) - (d / 3600 : Nat) * 3600).tdiv 60 = (d / 60 % 60 : Nat) := by
    rw [Int.tdiv_eq_ediv_of_nonneg (by omega)]
    omega
  have sec : (d : Int) - (d / 3600 : Nat) * 3600 - (d / 60 % 60 : Nat) * 60 = (d % 60 : Nat) := by
    omega
  unfold propDuration
  dsimp only
  rw [hours, min, sec]
  by_cases short : d < 3600
  · have none : d / 3600 = 0 := by omega
    rw [if_pos short, none]
    rfl
  · have some : ((d / 3600 : Nat) : Int) ≠ 0 := by omega
    rw [if_neg short, if_pos some, decimalInt_natCast]

theorem propDuration_completed (d : Nat) :
    EncodesDuration ((if d < 3600 then "0".toList else []) ++ propDuration d ++ "0".toList) d := by
  have zero : Digits "0".toList := digits_decimal 0
  refine ⟨if d < 3600 then "0".toList else decimal (d / 3600), twoDigits (d / 60 % 60 : Nat),
    twoDigits (d % 60 : Nat), ".0".toList, d / 60 % 60, d % 60, ?_, ?_,
    twoDigits_sexagesimal (Nat.mod_lt _ (by decide)), twoDigits_sexagesimal
      (Nat.mod_lt _ (by decide)), .inr ⟨"0".toList, rfl, zero⟩, by decide, ?_⟩
  · rw [propDuration_eq]
    by_cases short : d < 3600 <;> simp [short]
  · by_cases short : d < 3600
    · rw [if_pos short]
      exact zero
    · rw [if_neg short]
      exact digits_decimal _
  · by_cases short : d < 3600
    · rw [if_pos short, show digitsValue "0".toList = 0 by decide]
      omega
    · rw [if_neg short, digitsValue_decimal]
      omega

theorem propDuration_getLast? (d : Nat) : (propDuration d).getLast? = some '.' := by
  rw [propDuration_eq, List.getLast?_append]
  rfl

theorem duration_never_encoded (ctx : AvFormatContext) (duration : Int) (bitsPerRawSample : Int32)
    (properties : DlnaProperties) (nonnegative : 0 ≤ duration)
    (below : duration / avTimeBase < 2 ^ 31)
    (answered : itemGetProperties (some ctx) duration bitsPerRawSample = some properties) :
    ¬ EncodesDuration properties.duration (duration / avTimeBase).toNat := by
  intro encodes
  obtain ⟨codecs, -, isProperties⟩ := Option.map_eq_some_iff.mp answered
  have seconds : toInt32 (duration.tdiv avTimeBase) = ((duration / avTimeBase).toNat : Nat) := by
    rw [Int.tdiv_eq_ediv_of_nonneg nonnegative, toInt32_small _ below]
    · have : 0 ≤ duration / avTimeBase := Int.ediv_nonneg nonnegative (by decide)
      omega
    · exact Int.ediv_nonneg nonnegative (by decide)
  obtain ⟨c, last, isDigit⟩ := encodes.getLast?
  rw [← isProperties] at last
  dsimp only at last
  rw [seconds, propDuration_getLast?] at last
  cases last
  exact absurd isDigit (by decide)

theorem song_duration :
    ∃ properties, itemGetProperties (some (soundFile "/a.mp3" "mp3" mp3Stream)) 125000000 0 =
        some properties ∧ properties.duration = ":02:05.".toList ∧
      ¬ EncodesDuration properties.duration 125 := by
  refine ⟨_, rfl, by decide, ?_⟩
  exact duration_never_encoded (soundFile "/a.mp3" "mp3" mp3Stream) 125000000 0 _ (by decide)
    (by decide) rfl

theorem concert_duration :
    ∃ properties, itemGetProperties (some (soundFile "/a.mp3" "mp3" mp3Stream)) 3725000000 0 =
        some properties ∧ properties.duration = "1:02:05.".toList ∧
      ¬ EncodesDuration properties.duration 3725 := by
  have written : propDuration 3725 = "1:02:05.".toList := by decide
  refine ⟨_, rfl, written, fun encodes => ?_⟩
  obtain ⟨c, last, isDigit⟩ := encodes.getLast?
  obtain rfl : c = '.' := (Option.some.inj last).symm
  exact absurd isDigit (by decide)

end Libdlna
