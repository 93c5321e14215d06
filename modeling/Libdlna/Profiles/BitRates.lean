import Libdlna.Profiles.Mpeg
import Libdlna.Profiles.Probes
import Libdlna.Shared.KeyedTable
import Mathlib.Algebra.Order.Field.Basic

set_option autoImplicit false

/-!
# Bit rates and frame rates of MPEG-4 video

Part 2 has one table of resolutions for each class of bit rates, and looks into no other than that
of the stream. What is compared there has been computed with whole numbers.
-/

namespace Libdlna

open AvMpeg4Part2 CString

/-- What the resolutions of the tables have in common is which of the tables list them. -/
inductive SizeClass where
  | qcif
  | cif
  | co
  | halfD1
  | vga
  | d1
  deriving DecidableEq

def sizes : List ((Int32 × Int32) × SizeClass) :=
  [((176, 144), .qcif), ((128, 96), .qcif), ((352, 288), .cif), ((320, 240), .cif),
    ((320, 180), .cif), ((352, 240), .co), ((240, 180), .co), ((208, 160), .co),
    ((176, 120), .co), ((160, 120), .co), ((160, 112), .co), ((160, 90), .co),
    ((352, 576), .halfD1), ((352, 480), .halfD1), ((640, 480), .vga), ((640, 360), .vga),
    ((720, 576), .d1), ((720, 480), .d1), ((704, 576), .d1), ((704, 480), .d1), ((544, 576), .d1),
    ((544, 480), .d1), ((480, 576), .d1), ((480, 480), .d1), ((480, 360), .d1), ((480, 270), .d1)]

def sizeClass (vc : AvCodecContext) : Option SizeClass :=
  (sizes.find? fun entry => entry.1 = (vc.width, vc.height)).map Prod.snd

theorem sizeClass_iff {vc : AvCodecContext} {c : SizeClass} :
    sizeClass vc = some c ↔ ((vc.width, vc.height), c) ∈ sizes := by
  have distinct : (sizes.map Prod.fst).Nodup := by decide
  constructor
  · intro found
    obtain ⟨entry, isEntry, rfl⟩ := Option.map_eq_some_iff.mp found
    have same : entry.1 = (vc.width, vc.height) := by simpa using List.find?_some isEntry
    rw [← same]
    exact List.mem_of_find?_eq_some isEntry
  · intro member
    rw [sizeClass, KeyedTable.find?_self distinct member]
    rfl

/-- The table lists the resolutions of these classes, each up to the given frame rate. -/
def Limits (table : List VideoProperties) (limit : SizeClass → Option Int32) : Prop :=
  (table.map fun row => ((row.width, row.height), row.fpsNum / row.fpsDen)).Perm
    (sizes.filterMap fun entry => (limit entry.2).map fun fps => (entry.1, fps))

instance (table : List VideoProperties) (limit : SizeClass → Option Int32) :
    Decidable (Limits table limit) :=
  inferInstanceAs (Decidable (List.Perm _ _))

def qcifLimit : SizeClass → Option Int32
  | .qcif => some 15
  | _ => none

def l2Limit : SizeClass → Option Int32
  | .qcif => some 30
  | .cif => some 15
  | _ => none

def coLimit : SizeClass → Option Int32
  | .qcif | .cif | .co => some 30
  | _ => none

def l4Limit : SizeClass → Option Int32
  | .qcif | .cif | .co | .halfD1 => some 30
  | _ => none

def vgaLimit : SizeClass → Option Int32
  | .vga => some 30
  | _ => none

def l5Limit : SizeClass → Option Int32
  | _ => some 30

theorem qcifLimit_le_l2Limit (c : SizeClass) (fps : Int32) (isLimit : qcifLimit c = some fps) :
    ∃ fps', l2Limit c = some fps' ∧ fps ≤ fps' := by
  cases c with
  | qcif =>
      obtain rfl := Option.some.inj isLimit
      exact ⟨30, rfl, by decide⟩
  | _ => cases isLimit

theorem coLimit_le_l4Limit (c : SizeClass) (fps : Int32) (isLimit : coLimit c = some fps) :
    ∃ fps', l4Limit c = some fps' ∧ fps ≤ fps' := by
  cases c with
  | qcif | cif | co => exact ⟨fps, isLimit, Int32.le_refl fps⟩
  | _ => cases isLimit

theorem limits_h263 : Limits profileH263Res qcifLimit := by decide
theorem limits_l0b : Limits profileP2SpL0bRes qcifLimit := by decide
theorem limits_l2 : Limits profileP2SpL2Res l2Limit := by decide
theorem limits_co : Limits profileP2SpL3CoRes coLimit := by decide
theorem limits_l4 : Limits profileP2AspL4Res l4Limit := by decide
theorem limits_vga : Limits profileP2SpL3VgaRes vgaLimit := by decide
theorem limits_l5 : Limits profileP2AspL5Res l5Limit := by decide

section Table

variable {table : List VideoProperties} {limit : SizeClass → Option Int32} {vs : AvStream}

theorem intDiv_pos {a b : Int32} (positive : 0 < b) : intDiv a b = .ok (a / b) := by
  have nonzero : b ≠ 0 := by grind
  have other : b ≠ -1 := by grind
  rw [intDiv, if_neg nonzero, if_neg fun both => other both.2]

theorem isValidVideoProfile_eq (rows : ∀ row ∈ table, 0 < row.fpsDen)
    (positive : 0 < vs.rFrameRate.den) :
    isValidVideoProfile table vs =
      .ok (table.any fun row => row.width = vs.codec.width ∧ row.height = vs.codec.height ∧
        vs.rFrameRate.num / vs.rFrameRate.den ≤ row.fpsNum / row.fpsDen) := by
  induction table with
  | nil => rfl
  | cons row table ih =>
      obtain ⟨first, others⟩ := List.forall_mem_cons.mp rows
      rw [isValidVideoProfile, ih others, intDiv_pos positive, intDiv_pos first, List.any_cons]
      simp only [Bind.bind, Except.bind]
      by_cases same : row.width = vs.codec.width ∧ row.height = vs.codec.height
      · by_cases slow : vs.rFrameRate.num / vs.rFrameRate.den ≤ row.fpsNum / row.fpsDen
        · simp [same, slow]
        · simp [same, slow]
      · rw [if_neg same]
        congr 1
        simp [same, ← and_assoc]

theorem limits_iff (limits : Limits table limit) {vc : AvCodecContext} {fps : Int32} :
    (∃ row ∈ table, (row.width, row.height) = (vc.width, vc.height) ∧
      row.fpsNum / row.fpsDen = fps) ↔ ∃ c, sizeClass vc = some c ∧ limit c = some fps := by
  have listed : ((vc.width, vc.height), fps) ∈
        table.map (fun row => ((row.width, row.height), row.fpsNum / row.fpsDen)) ↔
      ∃ entry ∈ sizes, ∃ fps', limit entry.2 = some fps' ∧
        (entry.1, fps') = ((vc.width, vc.height), fps) := by
    rw [limits.mem_iff]
    simp only [List.mem_filterMap, Option.map_eq_some_iff]
  simp only [sizeClass_iff]
  constructor
  · rintro ⟨row, member, same, rfl⟩
    obtain ⟨⟨size, c⟩, inSizes, fps', isLimit, isEntry⟩ :=
      listed.mp (List.mem_map.mpr ⟨row, member, by rw [same]⟩)
    obtain ⟨rfl, rfl⟩ := Prod.mk.inj isEntry
    exact ⟨c, inSizes, isLimit⟩
  · rintro ⟨c, inSizes, isLimit⟩
    obtain ⟨row, member, same⟩ := List.mem_map.mp (listed.mpr ⟨_, inSizes, fps, isLimit, rfl⟩)
    obtain ⟨isSize, isFps⟩ := Prod.mk.inj same
    exact ⟨row, member, isSize, isFps⟩

def WithinLimit (limit : SizeClass → Option Int32) (vs : AvStream) : Prop :=
  ∃ c fps, sizeClass vs.codec = some c ∧ limit c = some fps ∧
    vs.rFrameRate.num / vs.rFrameRate.den ≤ fps

theorem isValidVideoProfile_iff (limits : Limits table limit)
    (rows : ∀ row ∈ table, 0 < row.fpsDen) (positive : 0 < vs.rFrameRate.den) :
    ∃ valid, isValidVideoProfile table vs = .ok valid ∧
      (valid = true ↔ WithinLimit limit vs) := by
  refine ⟨_, isValidVideoProfile_eq rows positive, ?_⟩
  rw [List.any_eq_true]
  simp only [decide_eq_true_eq]
  constructor
  · rintro ⟨row, member, width, height, slow⟩
    obtain ⟨c, isClass, isLimit⟩ :=
      (limits_iff limits).mp ⟨row, member, by rw [width, height], rfl⟩
    exact ⟨c, _, isClass, isLimit, slow⟩
  · rintro ⟨c, fps, isClass, isLimit, slow⟩
    obtain ⟨row, member, same, rfl⟩ := (limits_iff limits).mpr ⟨c, isClass, isLimit⟩
    obtain ⟨width, height⟩ := Prod.mk.inj same
    exact ⟨row, member, width, height, slow⟩

end Table

def atBitRate (vs : AvStream) (b : Int32) : AvStream :=
  { vs with codec := { vs.codec with bitRate := b } }

def Accepts (vctype : Mpeg4VcodecType) (vs : AvStream) : Prop :=
  ∃ vp, mpeg4VideoGetProfile vctype vs = .ok vp ∧ vp ≠ .invalid

def rateLimit (b : Int32) (c : SizeClass) : Option Int32 :=
  if b ≤ 128000 then l2Limit c
  else if b ≤ 384000 then coLimit c
  else if b ≤ 2000000 then l4Limit c
  else if b ≤ 3000000 then vgaLimit c
  else if b ≤ 8000000 then l5Limit c
  else none

section Accepts

variable {vs : AvStream} {valid : Except Fault Bool} {rest : Except Fault Mpeg4VideoProfile}
  {vp : Mpeg4VideoProfile} {P Q : Prop}

theorem only_accepts (known : vp ≠ .invalid) (decides : ∃ b, valid = .ok b ∧ (b = true ↔ P)) :
    (∃ result, (valid.map fun valid => if valid then vp else .invalid) = .ok result ∧
      result ≠ .invalid) ↔ P := by
  obtain ⟨b, rfl, isP⟩ := decides
  rw [← isP]
  cases b <;> simp [Except.map, known]

theorem first_accepts (known : vp ≠ .invalid) (decides : ∃ b, valid = .ok b ∧ (b = true ↔ P))
    (others : (∃ result, rest = .ok result ∧ result ≠ .invalid) ↔ Q) :
    (∃ result, (do
      let valid ← valid
      if valid then .ok vp else rest) = .ok result ∧ result ≠ .invalid) ↔ P ∨ Q := by
  obtain ⟨b, rfl, isP⟩ := decides
  rw [← isP, ← others]
  cases b <;> simp [Bind.bind, Except.bind, known]

theorem WithinLimit.mono {limit limit' : SizeClass → Option Int32}
    (larger : ∀ c fps, limit c = some fps → ∃ fps', limit' c = some fps' ∧ fps ≤ fps')
    (within : WithinLimit limit vs) : WithinLimit limit' vs := by
  obtain ⟨c, fps, isClass, isLimit, slow⟩ := within
  obtain ⟨fps', isLimit', le⟩ := larger c fps isLimit
  exact ⟨c, fps', isClass, isLimit', Int32.le_trans slow le⟩

theorem accepts_p2_iff (positive : 0 < vs.rFrameRate.den) :
    Accepts .p2 vs ↔ WithinLimit (rateLimit vs.codec.bitRate) vs := by
  have l0b := isValidVideoProfile_iff limits_l0b (by decide) positive
  have l2 := isValidVideoProfile_iff limits_l2 (by decide) positive
  have co := isValidVideoProfile_iff limits_co (by decide) positive
  have l4 := isValidVideoProfile_iff limits_l4 (by decide) positive
  have vga := isValidVideoProfile_iff limits_vga (by decide) positive
  have l5 := isValidVideoProfile_iff limits_l5 (by decide) positive
  unfold Accepts mpeg4VideoGetProfile rateLimit
  dsimp only
  split
  · rw [first_accepts (by decide) l0b (only_accepts (by decide) l2)]
    exact or_iff_right_of_imp (WithinLimit.mono qcifLimit_le_l2Limit)
  split
  · exact only_accepts (by decide) co
  split
  · rw [first_accepts (by decide) co (only_accepts (by decide) l4)]
    exact or_iff_right_of_imp (WithinLimit.mono coLimit_le_l4Limit)
  split
  · exact only_accepts (by decide) vga
  split
  · exact only_accepts (by decide) l5
  · simp [WithinLimit]

theorem accepts_h263_iff (positive : 0 < vs.rFrameRate.den) :
    Accepts .h263 vs ↔ vs.codec.bitRate ≤ 64000 ∧ WithinLimit qcifLimit vs := by
  unfold Accepts mpeg4VideoGetProfile
  dsimp only
  split
  · rename_i high
    simp [Int32.not_le.mpr high]
  · rename_i low
    rw [only_accepts (by decide) (isValidVideoProfile_iff limits_h263 (by decide) positive)]
    simp [Int32.not_lt.mp low]

end Accepts

/-- A stream of this class has a profile at the bit rate `b`, and none at the lower `b'`. -/
def LosesProfile (c : SizeClass) (rate b b' : Int32) : Prop :=
  rate ≤ 30 ∧ b ≤ 8000000 ∧
    match c with
    | .qcif => 2000000 < b' ∧ b' ≤ 3000000 ∧ 3000000 < b
    | .cif =>
        2000000 < b' ∧ b' ≤ 3000000 ∧ 3000000 < b ∨
          15 < rate ∧ b' ≤ 128000 ∧ 128000 < b ∧ (b ≤ 2000000 ∨ 3000000 < b)
    | .co =>
        2000000 < b' ∧ b' ≤ 3000000 ∧ 3000000 < b ∨
          b' ≤ 128000 ∧ 128000 < b ∧ (b ≤ 2000000 ∨ 3000000 < b)
    | .halfD1 =>
        2000000 < b' ∧ b' ≤ 3000000 ∧ 3000000 < b ∨
          b' ≤ 384000 ∧ 384000 < b ∧ (b ≤ 2000000 ∨ 3000000 < b)
    | .vga => b' ≤ 2000000 ∧ 2000000 < b
    | .d1 => b' ≤ 3000000 ∧ 3000000 < b

theorem exists_ite_le {p : Prop} [Decidable p] {first second : Option Int32} {rate : Int32} :
    (∃ fps, (if p then first else second) = some fps ∧ rate ≤ fps) ↔
      if p then ∃ fps, first = some fps ∧ rate ≤ fps
      else ∃ fps, second = some fps ∧ rate ≤ fps := by
  split <;> rfl

theorem rateLimit_lower_iff (c : SizeClass) (rate : Int32) {b b' : Int32} (lower : b' ≤ b) :
    ((∃ fps, rateLimit b c = some fps ∧ rate ≤ fps) →
      ∃ fps, rateLimit b' c = some fps ∧ rate ≤ fps) ↔ ¬ LosesProfile c rate b b' := by
  unfold LosesProfile rateLimit
  cases c <;>
    simp only [exists_ite_le, l2Limit, coLimit, l4Limit, vgaLimit, l5Limit, Option.some.injEq,
      exists_eq_left', reduceCtorEq, false_and, exists_false] <;>
    grind

theorem withinLimit_of_class {limit : SizeClass → Option Int32} {vs : AvStream} {c : SizeClass}
    (isClass : sizeClass vs.codec = some c) :
    WithinLimit limit vs ↔
      ∃ fps, limit c = some fps ∧ vs.rFrameRate.num / vs.rFrameRate.den ≤ fps := by
  simp [WithinLimit, isClass]

theorem lower_bitRate_accepted_iff {vctype : Mpeg4VcodecType} {vs : AvStream}
    (positive : 0 < vs.rFrameRate.den) {b b' : Int32} (lower : b' ≤ b) :
    (Accepts vctype (atBitRate vs b) → Accepts vctype (atBitRate vs b')) ↔
      ¬ (vctype = .p2 ∧ ∃ c, sizeClass vs.codec = some c ∧
        LosesProfile c (vs.rFrameRate.num / vs.rFrameRate.den) b b') := by
  have positive' (b : Int32) : 0 < (atBitRate vs b).rFrameRate.den := positive
  cases vctype with
  | invalid => simp [Accepts, mpeg4VideoGetProfile]
  | h263 =>
      refine iff_of_true (fun accepted => ?_) (by simp)
      obtain ⟨slow, within⟩ := (accepts_h263_iff (positive' b)).mp accepted
      exact (accepts_h263_iff (positive' b')).mpr ⟨Int32.le_trans lower slow, within⟩
  | p2 =>
      rw [accepts_p2_iff (positive' b), accepts_p2_iff (positive' b')]
      cases isClass : sizeClass vs.codec with
      | none =>
          have unlisted (b : Int32) (limit : SizeClass → Option Int32) :
              ¬ WithinLimit limit (atBitRate vs b) := by
            rintro ⟨c, fps, listed, -⟩
            exact absurd (listed.symm.trans isClass) (by simp)
          simp [unlisted]
      | some c =>
          have same (b : Int32) : sizeClass (atBitRate vs b).codec = some c := isClass
          rw [withinLimit_of_class (same b), withinLimit_of_class (same b')]
          refine (rateLimit_lower_iff c _ lower).trans (not_congr ?_)
          show LosesProfile c (vs.rFrameRate.num / vs.rFrameRate.den) b b' ↔ _
          simp

def cifStream : AvStream := pictureStream .mpeg4 352 288 0 ⟨25, 1⟩

theorem lower_bitRate_accepted_iff_applies :
    Accepts .p2 (atBitRate cifStream 3500000) ∧ Accepts .p2 (atBitRate cifStream 2000000) := by
  have high : Accepts .p2 (atBitRate cifStream 3500000) := ⟨.p2AspL5, by decide, by decide⟩
  refine ⟨high, (lower_bitRate_accepted_iff (by decide) (by decide)).mpr ?_ high⟩
  rintro ⟨-, c, isClass, -, -, loses⟩
  obtain rfl : SizeClass.cif = c := Option.some.inj ((show _ = some _ from rfl).symm.trans isClass)
  exact absurd loses (by decide)

theorem cif_lost_at_lower_bitRate :
    Accepts .p2 (atBitRate cifStream 3500000) ∧ ¬ Accepts .p2 (atBitRate cifStream 2500000) := by
  refine ⟨⟨.p2AspL5, by decide, by decide⟩, ?_⟩
  rintro ⟨vp, found, known⟩
  have none : mpeg4VideoGetProfile .p2 (atBitRate cifStream 2500000) = .ok .invalid := by decide
  rw [none] at found
  exact known (Except.ok.inj found).symm

def videoTables : List (List VideoProperties) :=
  [profileH263Res, profileP2SpL0bRes, profileP2SpL2Res, profileP2SpL3VgaRes, profileP2SpL3CoRes,
    profileP2AspL4Res, profileP2AspL5Res]

def HasLimit (c : SizeClass) (fps : Int32) : Prop := fps = 30 ∨ fps = 15 ∧ (c = .qcif ∨ c = .cif)

instance (c : SizeClass) (fps : Int32) : Decidable (HasLimit c fps) :=
  inferInstanceAs (Decidable (_ ∨ _))

theorem videoTables_limits (table : List VideoProperties) (member : table ∈ videoTables) :
    ∃ limit, Limits table limit ∧ ∀ c fps, limit c = some fps → HasLimit c fps := by
  have known (limit : SizeClass → Option Int32)
      (all : ∀ c, (limit c).all (fun fps => HasLimit c fps) = true) (c : SizeClass) (fps : Int32)
      (isLimit : limit c = some fps) : HasLimit c fps := by
    simpa [isLimit] using all c
  simp only [videoTables, List.mem_cons, List.not_mem_nil, or_false] at member
  obtain rfl | rfl | rfl | rfl | rfl | rfl | rfl := member
  · exact ⟨_, limits_h263, known _ (by rintro ⟨⟩ <;> rfl)⟩
  · exact ⟨_, limits_l0b, known _ (by rintro ⟨⟩ <;> rfl)⟩
  · exact ⟨_, limits_l2, known _ (by rintro ⟨⟩ <;> rfl)⟩
  · exact ⟨_, limits_vga, known _ (by rintro ⟨⟩ <;> rfl)⟩
  · exact ⟨_, limits_co, known _ (by rintro ⟨⟩ <;> rfl)⟩
  · exact ⟨_, limits_l4, known _ (by rintro ⟨⟩ <;> rfl)⟩
  · exact ⟨_, limits_l5, known _ (by rintro ⟨⟩ <;> rfl)⟩

theorem HasLimit.table {c : SizeClass} {fps : Int32} (has : HasLimit c fps) :
    ∃ table ∈ videoTables, ∃ limit, Limits table limit ∧ limit c = some fps := by
  obtain rfl | ⟨rfl, rfl | rfl⟩ := has
  · exact ⟨_, by simp [videoTables], _, limits_l5, rfl⟩
  · exact ⟨_, by simp [videoTables], _, limits_h263, rfl⟩
  · exact ⟨_, by simp [videoTables], _, limits_l2, rfl⟩

theorem fpsDen_pos {table : List VideoProperties} (whole : ∀ row ∈ table, row.fpsDen = 1) :
    ∀ row ∈ table, 0 < row.fpsDen := by
  intro row member
  rw [whole row member]
  decide

theorem videoTables_whole : ∀ table ∈ videoTables, ∀ row ∈ table, row.fpsDen = 1 := by decide

def AvRational.exact (rate : AvRational) : ℚ := rate.num.toInt / rate.den.toInt

/-- Above the whole number, and truncated to it. -/
def JustAbove (rate : AvRational) (fps : Int32) : Prop :=
  fps.toInt * rate.den.toInt < rate.num.toInt ∧
    rate.num.toInt < (fps.toInt + 1) * rate.den.toInt

theorem truncated_le_iff {num den : Int32} (nonneg : 0 ≤ num) (positive : 0 < den) (fps : Int32) :
    num / den ≤ fps ↔ num.toInt < (fps.toInt + 1) * den.toInt := by
  have known : num ≠ Int32.minValue := by
    rintro rfl
    exact absurd nonneg (by decide)
  have nonneg' : 0 ≤ num.toInt := Int32.le_iff_toInt_le.mp nonneg
  have positive' : 0 < den.toInt := Int32.lt_iff_toInt_lt.mp positive
  rw [Int32.le_iff_toInt_le, Int32.toInt_div_of_ne_left _ _ known,
    Int.tdiv_eq_ediv_of_nonneg nonneg', ← Int.lt_add_one_iff, Int.ediv_lt_iff_lt_mul positive']

theorem AvRational.exact_le_iff {rate : AvRational} (positive : 0 < rate.den) (fps : Int32) :
    rate.exact ≤ fps.toInt ↔ rate.num.toInt ≤ fps.toInt * rate.den.toInt := by
  have positive' : (0 : ℚ) < rate.den.toInt := by
    exact_mod_cast Int32.lt_iff_toInt_lt.mp positive
  rw [AvRational.exact, div_le_iff₀ positive']
  exact_mod_cast Iff.rfl

section Exact

variable {table : List VideoProperties} {limit : SizeClass → Option Int32} {video : AvStream}

theorem isValidVideoProfile_unlisted
    (unlisted : ∀ row ∈ table, (row.width, row.height) ≠ (video.codec.width, video.codec.height)) :
    isValidVideoProfile table video = .ok false := by
  induction table with
  | nil => rfl
  | cons row table ih =>
      obtain ⟨first, others⟩ := List.forall_mem_cons.mp unlisted
      rw [isValidVideoProfile, if_neg fun same => first (Prod.ext same.1 same.2)]
      exact ih others

theorem isValidVideoProfile_unknown (unknown : video.rFrameRate.den = 0)
    (listed : ∃ row ∈ table,
      (row.width, row.height) = (video.codec.width, video.codec.height)) :
    isValidVideoProfile table video = .error .divisionByZero := by
  induction table with
  | nil => simp at listed
  | cons row table ih =>
      rw [isValidVideoProfile, unknown]
      split
      · rfl
      · rename_i other
        obtain ⟨later, member, same⟩ := listed
        rcases List.mem_cons.mp member with rfl | inRest
        · exact absurd (Prod.mk.inj same) other
        · exact ih ⟨later, inRest, same⟩

theorem isValidVideoProfile_never (unknown : video.rFrameRate.den = 0) :
    isValidVideoProfile table video ≠ .ok true := by
  by_cases listed : ∃ row ∈ table,
      (row.width, row.height) = (video.codec.width, video.codec.height)
  · simp [isValidVideoProfile_unknown unknown listed]
  · simp [isValidVideoProfile_unlisted fun row member same => listed ⟨row, member, same⟩]

def Covers (table : List VideoProperties) (video : AvStream) : Prop :=
  ∃ row ∈ table, (row.width, row.height) = (video.codec.width, video.codec.height) ∧
    video.rFrameRate.exact ≤ AvRational.exact ⟨row.fpsNum, row.fpsDen⟩

theorem covers_iff (limits : Limits table limit) (whole : ∀ row ∈ table, row.fpsDen = 1) :
    Covers table video ↔ ∃ c fps, sizeClass video.codec = some c ∧ limit c = some fps ∧
      video.rFrameRate.exact ≤ fps.toInt := by
  have rowRate (row : VideoProperties) (member : row ∈ table) :
      AvRational.exact ⟨row.fpsNum, row.fpsDen⟩ = (row.fpsNum / row.fpsDen).toInt := by
    simp [AvRational.exact, whole row member]
  constructor
  · rintro ⟨row, member, same, slow⟩
    obtain ⟨c, isClass, isLimit⟩ := (limits_iff limits).mp ⟨row, member, same, rfl⟩
    exact ⟨c, _, isClass, isLimit, rowRate row member ▸ slow⟩
  · rintro ⟨c, fps, isClass, isLimit, slow⟩
    obtain ⟨row, member, same, rfl⟩ := (limits_iff limits).mpr ⟨c, isClass, isLimit⟩
    exact ⟨row, member, same, rowRate row member ▸ slow⟩

/-- A table accepts more than its frame rates exactly for the fractions that truncate to one. -/
theorem accepts_covered_iff (limits : Limits table limit) (whole : ∀ row ∈ table, row.fpsDen = 1)
    (nonneg : 0 ≤ video.rFrameRate.num) (positive : 0 < video.rFrameRate.den) :
    (isValidVideoProfile table video = .ok true → Covers table video) ↔
      ∀ c fps, sizeClass video.codec = some c → limit c = some fps →
        ¬ JustAbove video.rFrameRate fps := by
  obtain ⟨valid, found, accepted⟩ := isValidVideoProfile_iff limits (fpsDen_pos whole) positive
  rw [found, Except.ok.injEq, accepted, covers_iff limits whole]
  simp only [WithinLimit, truncated_le_iff nonneg positive, AvRational.exact_le_iff positive,
    JustAbove]
  constructor
  · intro covered c fps isClass isLimit ⟨above, below⟩
    obtain ⟨c', fps', isClass', isLimit', slow⟩ := covered ⟨c, fps, isClass, isLimit, below⟩
    obtain rfl := Option.some.inj (isClass.symm.trans isClass')
    obtain rfl := Option.some.inj (isLimit.symm.trans isLimit')
    exact Int.not_lt.mpr slow above
  · rintro clear ⟨c, fps, isClass, isLimit, below⟩
    have notAbove := clear c fps isClass isLimit
    exact ⟨c, fps, isClass, isLimit, Int.not_lt.mp fun above => notAbove ⟨above, below⟩⟩

end Exact

theorem tables_divide_iff {video : AvStream} (nonneg : 0 ≤ video.rFrameRate.den) :
    (∀ table ∈ videoTables, isValidVideoProfile table video ≠ .error .divisionByZero) ↔
      (sizeClass video.codec ≠ none → video.rFrameRate.den ≠ 0) := by
  constructor
  · intro divides known unknown
    obtain ⟨c, isClass⟩ := Option.ne_none_iff_exists'.mp known
    obtain ⟨row, member, same, -⟩ := (limits_iff limits_l5).mpr ⟨c, isClass, rfl⟩
    exact divides profileP2AspL5Res (by simp [videoTables])
      (isValidVideoProfile_unknown unknown ⟨row, member, same⟩)
  · intro known table member
    obtain ⟨limit, limits, -⟩ := videoTables_limits table member
    by_cases unknown : video.rFrameRate.den = 0
    · have unlisted (row : VideoProperties) (inTable : row ∈ table) :
          (row.width, row.height) ≠ (video.codec.width, video.codec.height) := by
        intro same
        obtain ⟨c, isClass, -⟩ := (limits_iff limits).mp ⟨row, inTable, same, rfl⟩
        exact known (by simp [isClass]) unknown
      simp [isValidVideoProfile_unlisted unlisted]
    · have positive : 0 < video.rFrameRate.den := by grind
      simp [isValidVideoProfile_eq (fpsDen_pos (videoTables_whole table member)) positive]

theorem tables_covered_iff {video : AvStream} (nonneg : 0 ≤ video.rFrameRate.num)
    (positive : 0 < video.rFrameRate.den) :
    (∀ table ∈ videoTables, isValidVideoProfile table video = .ok true → Covers table video) ↔
      ∀ c fps, sizeClass video.codec = some c → HasLimit c fps →
        ¬ JustAbove video.rFrameRate fps := by
  constructor
  · intro covered c fps isClass has
    obtain ⟨table, member, limit, limits, isLimit⟩ := has.table
    exact (accepts_covered_iff limits (videoTables_whole table member) nonneg positive).mp
      (covered table member) c fps isClass isLimit
  · intro clear table member
    obtain ⟨limit, limits, has⟩ := videoTables_limits table member
    apply (accepts_covered_iff limits (videoTables_whole table member) nonneg positive).mpr
    intro c fps isClass isLimit
    exact clear c fps isClass (has c fps isLimit)

theorem intSub_nonneg {a b : Int32} (first : 0 ≤ a) (second : 0 ≤ b) :
    intSub a b = .ok (a - b) ∧ (0 ≤ a - b ↔ b ≤ a) := by
  have first' : 0 ≤ a.toInt := Int32.le_iff_toInt_le.mp first
  have second' : 0 ≤ b.toInt := Int32.le_iff_toInt_le.mp second
  have small := a.toInt_lt
  have small' := b.toInt_lt
  constructor
  · rw [intSub, if_neg (by omega)]
  · rw [Int32.le_iff_toInt_le, Int32.le_iff_toInt_le, Int32.toInt_sub,
      Int.bmod_eq_of_le (by omega) (by omega), Int32.toInt_zero]
    omega

section Substituted

variable {ctx : AvFormatContext} {audio video : AvStream}

def SubstitutesNonneg
    (probe : AvFormatContext → AvCodecs → Except Fault (Option StaticProfile × AvCodecs))
    (ctx : AvFormatContext) (audio video : AvStream) : Prop :=
  ∀ result, probe ctx ⟨some audio, some video⟩ = .ok result →
    ∃ video', result.2 = ⟨some audio, some video'⟩ ∧
      (0 ≤ video.codec.bitRate → 0 ≤ video'.codec.bitRate)

theorem ensureVideoBitRate_nonneg_iff (container : 0 ≤ ctx.bitRate)
    (sound : 0 ≤ audio.codec.bitRate) :
    (∃ video', ensureVideoBitRate ctx audio video = .ok video' ∧
      (0 ≤ video.codec.bitRate → 0 ≤ video'.codec.bitRate)) ↔
        (video.codec.bitRate = 0 → audio.codec.bitRate ≤ ctx.bitRate) := by
  unfold ensureVideoBitRate
  by_cases unknown : video.codec.bitRate = 0
  · obtain ⟨subtracted, nonneg⟩ := intSub_nonneg container sound
    by_cases silent : audio.codec.bitRate = 0
    · simp [unknown, silent, container, Bind.bind, Except.bind]
    · simp [unknown, silent, subtracted, nonneg, Bind.bind, Except.bind]
  · simp [unknown]

theorem SubstitutesNonneg.of_probed
    {probe : AvFormatContext → AvCodecs → Except Fault (Option StaticProfile × AvCodecs)}
    {profiles : List StaticProfile}
    (probed : ∀ {result}, probe ctx ⟨some audio, some video⟩ = .ok result →
      Mpeg4Probed ctx ⟨some audio, some video⟩ profiles result)
    (nonneg : ∃ video', ensureVideoBitRate ctx audio video = .ok video' ∧
      (0 ≤ video.codec.bitRate → 0 ≤ video'.codec.bitRate)) :
    SubstitutesNonneg probe ctx audio video := by
  intro result ran
  cases probed ran with
  | refused => exact ⟨video, rfl, id⟩
  | searched audio video video' found hasAudio hasVideo ensured listed =>
      obtain rfl := Option.some.inj hasAudio
      obtain rfl := Option.some.inj hasVideo
      obtain ⟨video'', ensured', keeps⟩ := nonneg
      obtain rfl := Except.ok.inj (ensured.symm.trans ensured')
      exact ⟨video', rfl, keeps⟩

/-- The arithmetic of the MPEG-4 probes has the results of that of fractions. The first three are
about the test on each of the tables and about the substitution as such, also for a stream that a
probe refuses before it comes to them. -/
structure ClassifiesExactly (ctx : AvFormatContext) (audio video : AvStream) : Prop where
  divides : ∀ table ∈ videoTables, isValidVideoProfile table video ≠ .error .divisionByZero
  covered : ∀ table ∈ videoTables,
    isValidVideoProfile table video = .ok true → Covers table video
  substituted : ∃ video', ensureVideoBitRate ctx audio video = .ok video' ∧
    (0 ≤ video.codec.bitRate → 0 ≤ video'.codec.bitRate)
  part2 : SubstitutesNonneg probeMpeg4Part2 ctx audio video
  avc : SubstitutesNonneg probeAvc ctx audio video

theorem classifiesExactly_iff (num : 0 ≤ video.rFrameRate.num) (den : 0 ≤ video.rFrameRate.den)
    (container : 0 ≤ ctx.bitRate) (sound : 0 ≤ audio.codec.bitRate) :
    ClassifiesExactly ctx audio video ↔
      (∀ c, sizeClass video.codec = some c →
        video.rFrameRate.den ≠ 0 ∧ ∀ fps, HasLimit c fps → ¬ JustAbove video.rFrameRate fps) ∧
      (video.codec.bitRate = 0 → audio.codec.bitRate ≤ ctx.bitRate) := by
  have positive (known : video.rFrameRate.den ≠ 0) : 0 < video.rFrameRate.den := by grind
  constructor
  · intro classifies
    have known := (tables_divide_iff den).mp classifies.divides
    refine ⟨fun c isClass => ?_, (ensureVideoBitRate_nonneg_iff container sound).mp
      classifies.substituted⟩
    have divisor : video.rFrameRate.den ≠ 0 := known (by simp [isClass])
    exact ⟨divisor, fun fps =>
      (tables_covered_iff num (positive divisor)).mp classifies.covered c fps isClass⟩
  · rintro ⟨clear, lower⟩
    have substituted := (ensureVideoBitRate_nonneg_iff container sound).mpr lower
    refine ⟨?_, ?_, substituted, .of_probed probeMpeg4Part2_probed substituted,
      .of_probed probeAvc_probed substituted⟩
    · apply (tables_divide_iff den).mpr
      intro known
      obtain ⟨c, isClass⟩ := Option.ne_none_iff_exists'.mp known
      exact (clear c isClass).1
    · by_cases unknown : video.rFrameRate.den = 0
      · intro table member accepted
        exact absurd accepted (isValidVideoProfile_never unknown)
      · apply (tables_covered_iff num (positive unknown)).mpr
        intro c fps isClass
        exact (clear c isClass).2 fps

end Substituted

theorem classifiesExactly_iff_applies :
    ClassifiesExactly (filmFile dolbyStream cifStream) dolbyStream cifStream := by
  apply (classifiesExactly_iff (by decide) (by decide) (by decide) (by decide)).mpr
  refine ⟨fun c _ => ⟨by decide, fun fps _ above => ?_⟩, fun _ => by decide⟩
  obtain ⟨above, below⟩ := above
  change fps.toInt * 1 < 25 at above
  change 25 < (fps.toInt + 1) * 1 at below
  omega

/-- A frame rate that is not known, one half a frame too high, and a film shorter than its audio. -/
def stillStream : AvStream := pictureStream .mpeg4 352 288 0 ⟨0, 0⟩

def fastStream : AvStream := pictureStream .mpeg4 352 288 0 ⟨61, 2⟩

def quarterStream : AvStream := pictureStream .mpeg4 176 144 0 ⟨15, 1⟩

def shortFilm : AvFormatContext := { filmFile dolbyStream quarterStream with bitRate := 384000 }

theorem rates_not_exact :
    ¬ ClassifiesExactly (filmFile dolbyStream stillStream) dolbyStream stillStream ∧
      ¬ ClassifiesExactly (filmFile dolbyStream fastStream) dolbyStream fastStream ∧
      ¬ ClassifiesExactly shortFilm dolbyStream quarterStream := by
  refine ⟨fun classifies => ?_, fun classifies => ?_, fun classifies => ?_⟩
  · have divided : isValidVideoProfile profileP2AspL5Res stillStream = .error .divisionByZero := by
      decide
    exact classifies.divides _ (by simp [videoTables]) divided
  · have accepted : isValidVideoProfile profileP2AspL5Res fastStream = .ok true := by decide
    obtain ⟨row, member, -, slow⟩ := classifies.covered _ (by simp [videoTables]) accepted
    have rates : ∀ row ∈ profileP2AspL5Res, (⟨row.fpsNum, row.fpsDen⟩ : AvRational) = ⟨30, 1⟩ := by
      decide
    rw [rates row member] at slow
    have above : AvRational.exact ⟨30, 1⟩ < fastStream.rFrameRate.exact :=
      show ((30 : ℤ) : ℚ) / (1 : ℤ) < ((61 : ℤ) : ℚ) / (2 : ℤ) by norm_num
    exact not_lt.mpr slow above
  · obtain ⟨video, substituted, nonneg⟩ := classifies.substituted
    have negative : ensureVideoBitRate shortFilm dolbyStream quarterStream =
        .ok (atBitRate quarterStream (-64000)) := by rfl
    obtain rfl := Except.ok.inj (negative.symm.trans substituted)
    exact absurd (nonneg (by decide)) (by decide)

end Libdlna
