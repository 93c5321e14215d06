import Libdlna.Vfs.Steps
import Mathlib.Data.Finset.Card
import Mathlib.Data.Finset.Image
import Mathlib.Order.Interval.Finset.Nat

set_option autoImplicit false

/-!
# The two generators of object ids

Containers count upwards to the first id that is free. Resources follow the checksums of their
path, each one started from the successor of the one before.
-/

namespace Libdlna

open CString Dlna

variable {d : Dlna} {id : UInt32}

def nextProbe (d : Dlna) (fullpath : Option Text) (i : UInt32) : Option UInt32 :=
  if i < uintMax ∧ vfsIsIdRegistered d (probeId fullpath i) then some (probeId fullpath i + 1)
  else none

theorem nextIdLoop_none_iff {fullpath : Option Text} {fuel : Nat} {i : UInt32} :
    nextIdLoop d fullpath fuel i = none ↔
      (FiniteLoop.after (nextProbe d fullpath) fuel i).isSome := by
  induction fuel generalizing i with
  | zero => simp [nextIdLoop, FiniteLoop.after]
  | succ fuel ih =>
      rw [nextIdLoop, FiniteLoop.after, nextProbe]
      by_cases below : i < uintMax
      · cases taken : vfsIsIdRegistered d (probeId fullpath i)
        · simp [below, taken]
        · simp [below, taken, ih]
      · simp [below]

/-- Where the model gives up, the loop of the source goes on for ever. -/
theorem vfsProvideNextId_noReturn {fullpath : Option Text}
    (lost : vfsProvideNextId d fullpath = .error .noReturn) (fuel : Nat) :
    nextIdLoop d fullpath fuel (startId d.mode) = none := by
  have running : nextIdLoop d fullpath idFuel (startId d.mode) = none := by
    unfold vfsProvideNextId at lost
    cases ends : nextIdLoop d fullpath idFuel (startId d.mode) with
    | none => rfl
    | some result =>
        by_cases empty : d.registered = []
        · simp [empty] at lost
        · cases result <;> simp [ends, empty] at lost
  rw [nextIdLoop_none_iff] at running ⊢
  have injective : Function.Injective UInt32.toFin := fun i j same => UInt32.toFin_inj.mp same
  obtain ⟨u, soon⟩ := Option.isSome_iff_exists.mp running
  obtain ⟨t, reached⟩ := FiniteLoop.after_prior _ (show UInt32.size ≤ idFuel by decide) soon
  exact FiniteLoop.endless _ injective (Option.isSome_iff_exists.mpr ⟨t, reached⟩) fuel

def CountsTo (d : Dlna) (i : UInt32) : IdSearch → Prop
  | .found id => i ≤ id ∧ id < uintMax ∧ vfsIsIdRegistered d id = false ∧
      ∀ j, i ≤ j → j < id → vfsIsIdRegistered d j = true
  | .exhausted => ∀ j, i ≤ j → j < uintMax → vfsIsIdRegistered d j = true

theorem countsTo_unique {i : UInt32} {first second : IdSearch} (one : CountsTo d i first)
    (two : CountsTo d i second) : first = second := by
  cases first with
  | exhausted =>
      cases second with
      | exhausted => rfl
      | found id => exact absurd (one id two.1 two.2.1) (by simp [two.2.2.1])
  | found id =>
      cases second with
      | exhausted => exact absurd (two id one.1 one.2.1) (by simp [one.2.2.1])
      | found other =>
          by_contra different
          rcases UInt32.lt_or_lt_of_ne (fun same => different (congrArg IdSearch.found same)) with
            less | greater
          · exact absurd (two.2.2.2 id one.1 less) (by simp [one.2.2.1])
          · exact absurd (one.2.2.2 other two.1 greater) (by simp [two.2.2.1])

theorem toNat_succ {i : UInt32} (below : i < uintMax) : (i + 1).toNat = i.toNat + 1 := by
  rw [UInt32.lt_iff_toNat_lt] at below
  simp only [uintMax] at below
  simp only [UInt32.toNat_add]
  exact Nat.mod_eq_of_lt (by simp at below ⊢; omega)

theorem countsTo_succ {i : UInt32} {result : IdSearch} (below : i < uintMax)
    (taken : vfsIsIdRegistered d i = true) (counts : CountsTo d (i + 1) result) :
    CountsTo d i result := by
  have next := toNat_succ below
  have split : ∀ j, i ≤ j → j = i ∨ i + 1 ≤ j := by
    intro j after
    rw [UInt32.le_iff_toNat_le] at after ⊢
    rw [next, ← UInt32.toNat_inj]
    omega
  cases result with
  | exhausted =>
      intro j after before
      rcases split j after with rfl | later
      · exact taken
      · exact counts j later before
  | found id =>
      obtain ⟨later, inRange, free, passed⟩ := counts
      refine ⟨?_, inRange, free, ?_⟩
      · rw [UInt32.le_iff_toNat_le] at later ⊢
        omega
      · intro j after before
        rcases split j after with rfl | later
        · exact taken
        · exact passed j later before

theorem nextIdLoop_countsTo {fuel : Nat} {i : UInt32} (bounded : i ≤ uintMax)
    (enough : uintMax.toNat < i.toNat + fuel) :
    ∃ result, nextIdLoop d none fuel i = some result ∧ CountsTo d i result := by
  rw [UInt32.le_iff_toNat_le] at bounded
  induction fuel generalizing i with
  | zero => omega
  | succ fuel ih =>
      unfold nextIdLoop
      by_cases below : i < uintMax
      · cases taken : vfsIsIdRegistered d i
        · refine ⟨.found i, by simp [below, probeId, taken], UInt32.le_rfl, below, taken, ?_⟩
          intro j after before
          rw [UInt32.le_iff_toNat_le] at after
          rw [UInt32.lt_iff_toNat_lt] at before
          omega
        · have next := toNat_succ below
          have before := UInt32.lt_iff_toNat_lt.mp below
          obtain ⟨result, answers, counts⟩ := ih (i := i + 1) (by omega) (by omega)
          exact ⟨result, by simp [below, probeId, taken, answers], countsTo_succ below taken counts⟩
      · refine ⟨.exhausted, by simp [below], ?_⟩
        intro j after before
        exact absurd (UInt32.lt_of_le_of_lt after before) below

def FirstFree (d : Dlna) (id : UInt32) : Prop :=
  CountsTo d (startId d.mode) (.found id) ∨
    (CountsTo d (startId d.mode) .exhausted ∧ id = startId d.mode - 1)

theorem startId_cases (mode : CapabilityMode) : startId mode = 1 ∨ startId mode = 100001 := by
  cases mode <;> simp [startId, startingEntryIdXbox360]

theorem startId_le (mode : CapabilityMode) : startId mode ≤ uintMax := by
  rcases startId_cases mode with start | start <;> rw [start] <;> decide

theorem idFuel_enough (i : UInt32) : uintMax.toNat < i.toNat + idFuel := by
  have limit : uintMax.toNat = 2 ^ 32 - 1 := rfl
  have fuel : idFuel = 2 ^ 32 + 1 := rfl
  omega

theorem vfsProvideNextId_none (nonempty : d.registered ≠ []) :
    vfsProvideNextId d none = .ok id ↔ FirstFree d id := by
  obtain ⟨result, answers, counts⟩ :=
    nextIdLoop_countsTo (d := d) (startId_le d.mode) (idFuel_enough _)
  unfold vfsProvideNextId FirstFree
  rw [if_neg nonempty, answers]
  cases result with
  | found first =>
      simp only [Except.ok.injEq]
      constructor
      · rintro rfl
        exact .inl counts
      · rintro (other | ⟨other, -⟩)
        · exact IdSearch.found.inj (countsTo_unique counts other)
        · exact absurd (countsTo_unique counts other) (by simp)
  | exhausted =>
      simp only [Except.ok.injEq]
      constructor
      · rintro rfl
        exact .inr ⟨counts, rfl⟩
      · rintro (other | ⟨-, rfl⟩)
        · exact absurd (countsTo_unique counts other) (by simp)
        · rfl

theorem not_countsTo_exhausted (few : d.registered.length < 2 ^ 31) :
    ¬ CountsTo d (startId d.mode) .exhausted := by
  intro full
  -- every id from the start on would belong to an item, and there are not enough of them
  have covered : (Finset.Ico (startId d.mode).toNat uintMax.toNat).image
      (fun n => some (UInt32.ofNat n)) ⊆ (d.registered.map d.idOf).toFinset := by
    intro key member
    obtain ⟨n, inRange, rfl⟩ := Finset.mem_image.mp member
    rw [Finset.mem_Ico] at inRange
    have value : (UInt32.ofNat n).toNat = n :=
      UInt32.toNat_ofNat_of_lt' (inRange.2.trans (by decide))
    have registered := full (UInt32.ofNat n) (by rw [UInt32.le_iff_toNat_le, value]; exact inRange.1)
      (by rw [UInt32.lt_iff_toNat_lt, value]; exact inRange.2)
    obtain ⟨r, inTable, isId⟩ := vfsIsIdRegistered_iff.mp registered
    simpa using ⟨r, inTable, isId⟩
  have injective : Set.InjOn (fun n => some (UInt32.ofNat n))
      (Finset.Ico (startId d.mode).toNat uintMax.toNat : Set Nat) := by
    intro m inM n inN same
    have below : ∀ k ∈ (Finset.Ico (startId d.mode).toNat uintMax.toNat : Set Nat),
        (UInt32.ofNat k).toNat = k := by
      intro k inRange
      exact UInt32.toNat_ofNat_of_lt' ((Finset.mem_Ico.mp inRange).2.trans (by decide))
    rw [← below m inM, ← below n inN, Option.some.inj same]
  have counted := Finset.card_le_card covered
  rw [Finset.card_image_of_injOn injective, Nat.card_Ico] at counted
  have total := List.toFinset_card_le (d.registered.map d.idOf)
  rw [List.length_map] at total
  have limit : uintMax.toNat = 2 ^ 32 - 1 := rfl
  have start : (startId d.mode).toNat ≤ 100001 := by
    rcases startId_cases d.mode with start | start <;> simp [start]
  omega

theorem vfsContainerId_free (nonempty : d.registered ≠ []) (few : d.registered.length < 2 ^ 31)
    {objectId : UInt32} (granted : vfsContainerId d objectId = .ok id) :
    vfsIsIdRegistered d id = false := by
  unfold vfsContainerId at granted
  by_cases provides : objectId = 0 ∨ vfsIsIdRegistered d objectId
  · rw [if_pos provides, vfsProvideNextId_none nonempty] at granted
    rcases granted with found | ⟨exhausted, -⟩
    · exact found.2.2.1
    · exact absurd exhausted (not_countsTo_exhausted few)
  · rw [if_neg provides] at granted
    rw [← Except.ok.inj granted]
    simpa using (not_or.mp provides).2

def probeAt (path : Text) : Nat → UInt32 → UInt32
  | 0, i => crc32 i path
  | k + 1, i => probeAt path k (crc32 i path + 1)

def ProbesTo (d : Dlna) (path : Text) (i : UInt32) : IdSearch → Prop
  | .found id => ∃ k, id = probeAt path k i ∧ vfsIsIdRegistered d id = false ∧
      ∀ j < k, vfsIsIdRegistered d (probeAt path j i) = true ∧ probeAt path j i + 1 ≠ uintMax
  | .exhausted => ∃ k, probeAt path k i + 1 = uintMax ∧
      (∀ j ≤ k, vfsIsIdRegistered d (probeAt path j i) = true) ∧
      ∀ j < k, probeAt path j i + 1 ≠ uintMax

theorem probesTo_unique {path : Text} {i : UInt32} {first second : IdSearch}
    (one : ProbesTo d path i first) (two : ProbesTo d path i second) : first = second := by
  cases first with
  | found id =>
      obtain ⟨k, rfl, free, passed⟩ := one
      cases second with
      | found other =>
          obtain ⟨m, rfl, free', passed'⟩ := two
          rcases lt_trichotomy k m with less | rfl | greater
          · exact absurd (passed' k less).1 (by simp [free])
          · rfl
          · exact absurd (passed m greater).1 (by simp [free'])
      | exhausted =>
          obtain ⟨m, limit, taken, -⟩ := two
          rcases Nat.lt_or_ge m k with less | notLess
          · exact absurd limit (passed m less).2
          · exact absurd (taken k notLess) (by simp [free])
  | exhausted =>
      obtain ⟨k, limit, taken, -⟩ := one
      cases second with
      | exhausted => rfl
      | found id =>
          obtain ⟨m, rfl, free, passed⟩ := two
          rcases Nat.lt_or_ge k m with less | notLess
          · exact absurd limit (passed k less).2
          · exact absurd (taken m notLess) (by simp [free])

theorem probesTo_succ {path : Text} {i : UInt32} {result : IdSearch}
    (taken : vfsIsIdRegistered d (crc32 i path) = true) (below : crc32 i path + 1 ≠ uintMax)
    (probes : ProbesTo d path (crc32 i path + 1) result) : ProbesTo d path i result := by
  cases result with
  | found id =>
      obtain ⟨k, isProbe, free, passed⟩ := probes
      refine ⟨k + 1, isProbe, free, ?_⟩
      intro j within
      cases j with
      | zero => exact ⟨taken, below⟩
      | succ j => exact passed j (by omega)
  | exhausted =>
      obtain ⟨k, limit, all, first⟩ := probes
      refine ⟨k + 1, limit, ?_, ?_⟩
      · intro j within
        cases j with
        | zero => exact taken
        | succ j => exact all j (by omega)
      · intro j within
        cases j with
        | zero => exact below
        | succ j => exact first j (by omega)

theorem lt_uintMax {i : UInt32} : i < uintMax ↔ i ≠ uintMax := by
  have bounded := i.toNat_lt
  have limit : uintMax.toNat = 2 ^ 32 - 1 := rfl
  rw [UInt32.lt_iff_toNat_lt, Ne, ← UInt32.toNat_inj]
  omega

theorem nextIdLoop_probesTo {path : Text} {fuel : Nat} {i : UInt32} {result : IdSearch}
    (started : i ≠ uintMax) (ends : nextIdLoop d (some path) fuel i = some result) :
    ProbesTo d path i result := by
  induction fuel generalizing i with
  | zero => simp [nextIdLoop] at ends
  | succ fuel ih =>
      unfold nextIdLoop at ends
      simp only [lt_uintMax.mpr started, if_true, probeId] at ends
      cases taken : vfsIsIdRegistered d (crc32 i path)
      · simp only [taken, Bool.false_eq_true, if_false, Option.some.injEq] at ends
        subst ends
        exact ⟨0, rfl, taken, by simp⟩
      · simp only [taken, if_true] at ends
        -- the increment can reach UINT_MAX, and then the loop ends
        by_cases last : crc32 i path + 1 = uintMax
        · cases fuel with
          | zero => simp [nextIdLoop] at ends
          | succ fuel =>
              have done : result = .exhausted := by simpa [nextIdLoop, last] using ends.symm
              subst done
              refine ⟨0, last, ?_, by simp⟩
              intro j within
              rw [Nat.le_zero.mp within]
              exact taken
        · exact probesTo_succ taken last (ih last ends)

theorem startId_ne (mode : CapabilityMode) : startId mode ≠ uintMax := by
  rcases startId_cases mode with start | start <;> rw [start] <;> decide

def FileId (d : Dlna) (path : Text) (id : UInt32) : Prop :=
  ProbesTo d path (startId d.mode) (.found id) ∨
    (ProbesTo d path (startId d.mode) .exhausted ∧ id = startId d.mode - 1)

theorem fileId_unique {path : Text} {other : UInt32} (one : FileId d path id)
    (two : FileId d path other) : id = other := by
  rcases one with one | ⟨one, rfl⟩ <;> rcases two with two | ⟨two, rfl⟩
  · exact IdSearch.found.inj (probesTo_unique one two)
  · exact absurd (probesTo_unique one two) (by simp)
  · exact absurd (probesTo_unique one two) (by simp)
  · rfl

theorem vfsProvideNextId_some {path : Text} (nonempty : d.registered ≠ [])
    (provided : vfsProvideNextId d (some path) = .ok id) : FileId d path id := by
  unfold vfsProvideNextId at provided
  rw [if_neg nonempty] at provided
  cases ends : nextIdLoop d (some path) idFuel (startId d.mode) with
  | none => simp [ends] at provided
  | some result =>
      have probes := nextIdLoop_probesTo (startId_ne d.mode) ends
      cases result with
      | found first =>
          simp only [ends, Except.ok.injEq] at provided
          exact .inl (provided ▸ probes)
      | exhausted =>
          simp only [ends, Except.ok.injEq] at provided
          exact .inr ⟨probes, provided.symm⟩

def IdLoopEnds (d : Dlna) (fullpath : Option Text) : Prop :=
  ∃ iterations, (nextIdLoop d fullpath iterations (startId d.mode)).isSome

theorem vfsProvideNextId_returns_iff {fullpath : Option Text} (nonempty : d.registered ≠ []) :
    (∃ id, vfsProvideNextId d fullpath = .ok id) ↔ IdLoopEnds d fullpath := by
  constructor
  · rintro ⟨id, provided⟩
    refine ⟨idFuel, ?_⟩
    rw [vfsProvideNextId, if_neg nonempty] at provided
    cases ends : nextIdLoop d fullpath idFuel (startId d.mode) with
    | none => simp [ends] at provided
    | some result => rfl
  · rintro ⟨iterations, ends⟩
    cases answer : vfsProvideNextId d fullpath with
    | ok id => exact ⟨id, rfl⟩
    | error fault =>
        have lost : vfsProvideNextId d fullpath = .error .noReturn := by
          rw [vfsProvideNextId, if_neg nonempty] at answer ⊢
          cases loop : nextIdLoop d fullpath idFuel (startId d.mode) with
          | none => rfl
          | some result => cases result <;> simp [loop] at answer
        simp [vfsProvideNextId_noReturn lost iterations] at ends

/-- The `k`-th checksum after the start ends the loop: nobody has it, or its successor is
`UINT_MAX`. -/
def EndsAt (d : Dlna) (path : Text) (k : Nat) : Prop :=
  vfsIsIdRegistered d (probeAt path k (startId d.mode)) = false ∨
    probeAt path k (startId d.mode) + 1 = uintMax

theorem probeAt_succ (path : Text) (k : Nat) (i : UInt32) :
    probeAt path (k + 1) i = crc32 (probeAt path k i + 1) path := by
  induction k generalizing i with
  | zero => rfl
  | succ k ih => exact ih (crc32 i path + 1)

theorem nextProbe_goesOn {path : Text} {i : UInt32} (below : i ≠ uintMax)
    (taken : vfsIsIdRegistered d (crc32 i path) = true) :
    nextProbe d (some path) i = some (crc32 i path + 1) :=
  if_pos ⟨lt_uintMax.mpr below, taken⟩

theorem nextProbe_uintMax {fullpath : Option Text} : nextProbe d fullpath uintMax = none :=
  if_neg fun below => lt_uintMax.mp below.1 rfl

theorem after_probes {path : Text} {k : Nat} (goesOn : ∀ j < k, ¬ EndsAt d path j)
    (taken : vfsIsIdRegistered d (probeAt path k (startId d.mode)) = true) :
    FiniteLoop.after (nextProbe d (some path)) (k + 1) (startId d.mode) =
      some (probeAt path k (startId d.mode) + 1) := by
  induction k with
  | zero => simp [FiniteLoop.after, nextProbe_goesOn (startId_ne d.mode) taken, probeAt]
  | succ k ih =>
      have here := goesOn k (Nat.lt_succ_self k)
      simp only [EndsAt, not_or, Bool.not_eq_false] at here
      have before := ih (fun j less => goesOn j (Nat.lt_succ_of_lt less)) here.1
      rw [probeAt_succ] at taken ⊢
      rw [FiniteLoop.after_add, before]
      simp [FiniteLoop.after, nextProbe_goesOn here.2 taken]

/-- There are more checksums than registered ids, so that the loop repeats itself. -/
theorem probes_endless {path : Text} (goesOn : ∀ k ≤ d.registered.length, ¬ EndsAt d path k)
    (fuel : Nat) : nextIdLoop d (some path) fuel (startId d.mode) = none := by
  rw [nextIdLoop_none_iff]
  have visits : ∀ k ≤ (d.registered.filterMap fun r => (d.idOf r).map (· + 1)).length,
      probeAt path k (startId d.mode) + 1 ∈ d.registered.filterMap
          (fun r => (d.idOf r).map (· + 1)) ∧
        FiniteLoop.after (nextProbe d (some path)) (k + 1) (startId d.mode) =
          some (probeAt path k (startId d.mode) + 1) := by
    intro k within
    have few := k.le_trans within (List.length_filterMap_le _ _)
    have here := goesOn k few
    simp only [EndsAt, not_or, Bool.not_eq_false] at here
    refine ⟨?_, after_probes (fun j less => goesOn j (less.le.trans few)) here.1⟩
    obtain ⟨r, member, isId⟩ := vfsIsIdRegistered_iff.mp here.1
    exact List.mem_filterMap.mpr ⟨r, member, by simp [isId]⟩
  exact FiniteLoop.endless_of_visits (nextProbe d (some path)) visits fuel

theorem probes_end {path : Text} {k : Nat} (ends : EndsAt d path k) :
    IdLoopEnds d (some path) := by
  classical
  -- the first checksum that ends the loop is reached
  have first := Nat.find_spec ⟨k, ends⟩
  have earlier := fun j less => Nat.find_min (⟨k, ends⟩ : ∃ k, EndsAt d path k) (m := j) less
  generalize Nat.find (⟨k, ends⟩ : ∃ k, EndsAt d path k) = n at first earlier
  have reaches : ∃ i, FiniteLoop.after (nextProbe d (some path)) n (startId d.mode) = some i ∧
      crc32 i path = probeAt path n (startId d.mode) := by
    cases n with
    | zero => exact ⟨_, rfl, rfl⟩
    | succ n =>
        have here := earlier n (Nat.lt_succ_self n)
        simp only [EndsAt, not_or, Bool.not_eq_false] at here
        exact ⟨_, after_probes (fun j less => earlier j (Nat.lt_succ_of_lt less)) here.1,
          (probeAt_succ path n _).symm⟩
  obtain ⟨i, arrives, isProbe⟩ := reaches
  refine ⟨n + 2, ?_⟩
  rw [Option.isSome_iff_ne_none, Ne, nextIdLoop_none_iff, FiniteLoop.after_add, arrives]
  by_cases goesOn : i ≠ uintMax ∧ vfsIsIdRegistered d (crc32 i path) = true
  · have last : crc32 i path + 1 = uintMax := by
      rw [isProbe] at goesOn ⊢
      exact first.resolve_left (by simp [goesOn.2])
    simp [FiniteLoop.after, nextProbe_goesOn goesOn.1 goesOn.2, last, nextProbe_uintMax]
  · have stops : nextProbe d (some path) i = none := by
      rw [← lt_uintMax] at goesOn
      exact if_neg goesOn
    simp [FiniteLoop.after, stops]

theorem idLoop_ends_iff (d : Dlna) (fullpath : Option Text) :
    IdLoopEnds d fullpath ↔
      ∀ path, fullpath = some path → ∃ k ≤ d.registered.length, EndsAt d path k := by
  cases fullpath with
  | none =>
      obtain ⟨result, answers, -⟩ :=
        nextIdLoop_countsTo (d := d) (startId_le d.mode) (idFuel_enough _)
      exact ⟨fun _ path isPath => by simp at isPath, fun _ => ⟨idFuel, by simp [answers]⟩⟩
  | some path =>
      constructor
      · rintro ⟨iterations, ends⟩ _ ⟨⟩
        by_contra never
        push Not at never
        simp [probes_endless never iterations] at ends
      · intro terminates
        obtain ⟨k, -, ends⟩ := terminates path rfl
        exact probes_end ends

/-- The checksum of this path is the id of the root, whose successor is the start. -/
theorem root_checksum_endless :
    ¬ IdLoopEnds (dlnaStart (fun _ => none) none) (some "/csrhnd.avi".toList) := by
  rintro ⟨iterations, ends⟩
  have goesOn : nextProbe (dlnaStart (fun _ => none) none) (some "/csrhnd.avi".toList) 1 = some 1 := by
    decide +kernel
  have endless := FiniteLoop.endless_of_repeats _ Nat.zero_lt_one rfl
    ((FiniteLoop.after_one _ 1).trans goesOn) iterations
  rw [← nextIdLoop_none_iff] at endless
  exact absurd (ends.symm.trans (congrArg Option.isSome endless)) (by simp)

theorem vfsProvideNextId_mp3 :
    vfsProvideNextId justStarted (some "/a.mp3".toList) = .ok 3090875270 := by
  decide +kernel

end Libdlna
