set_option autoImplicit false

/-!
# Computations that may fail

Inversion of the sequencing of `Except` computations, so that a proof takes one step apart after
the other and never unfolds the monad.
-/

namespace Outcome

variable {E A B : Type}

theorem bind_ok {first : Except E A} {next : A → Except E B} {result : B} :
    (first >>= next) = .ok result ↔ ∃ value, first = .ok value ∧ next value = .ok result := by
  cases first with
  | error fault => simp [Bind.bind, Except.bind]
  | ok value => simp [Bind.bind, Except.bind]

theorem bind_succeeds {first : Except E A} {next : A → Except E B} {P : Prop}
    (goesOn : ∀ value, (∃ result, next value = .ok result) ↔ P) :
    (∃ result, (first >>= next) = .ok result) ↔ (∃ value, first = .ok value) ∧ P := by
  constructor
  · rintro ⟨result, ran⟩
    obtain ⟨value, one, two⟩ := bind_ok.mp ran
    exact ⟨⟨value, one⟩, (goesOn value).mp ⟨result, two⟩⟩
  · rintro ⟨⟨value, one⟩, holds⟩
    obtain ⟨result, two⟩ := (goesOn value).mpr holds
    exact ⟨result, bind_ok.mpr ⟨value, one, two⟩⟩

theorem bind_error {first : Except E A} {next : A → Except E B} {fault : E} :
    (first >>= next) = .error fault ↔
      first = .error fault ∨ ∃ value, first = .ok value ∧ next value = .error fault := by
  cases first with
  | error fault' => simp [Bind.bind, Except.bind]
  | ok value => simp [Bind.bind, Except.bind]

theorem bind_error_later {first : Except E A} {next : A → Except E B} {fault : E}
    (never : first ≠ .error fault) :
    (first >>= next) = .error fault ↔ ∃ value, first = .ok value ∧ next value = .error fault :=
  bind_error.trans (or_iff_right never)

theorem bind_ne_error {first : Except E A} {next : A → Except E B} {fault : E}
    (never : first ≠ .error fault) (later : ∀ value, next value ≠ .error fault) :
    (first >>= next) ≠ .error fault := by
  intro failed
  obtain ⟨value, -, here⟩ := (bind_error_later never).mp failed
  exact later value here

theorem map_ok {first : Except E A} {f : A → B} {result : B} :
    first.map f = .ok result ↔ ∃ value, first = .ok value ∧ f value = result := by
  cases first with
  | error fault => simp [Except.map]
  | ok value => simp [Except.map]

theorem map_error {first : Except E A} {f : A → B} {fault : E} :
    first.map f = .error fault ↔ first = .error fault := by
  cases first with
  | error fault' => simp [Except.map]
  | ok value => simp [Except.map]

theorem unless_ok_iff {c : Prop} [Decidable c] {early result : A} {rest : Except E A}
    (differs : early ≠ result) :
    (if c then .ok early else rest) = .ok result ↔ ¬ c ∧ rest = .ok result := by
  by_cases here : c
  · simp [here, differs]
  · simp [here]

theorem unless_ok {c : Prop} [Decidable c] {early result : A} {rest : Except E A}
    (ran : (if c then .ok early else rest) = .ok result) (differs : early ≠ result) :
    ¬ c ∧ rest = .ok result :=
  (unless_ok_iff differs).mp ran

theorem early_or {c : Prop} [Decidable c] {early result : A} {rest : Except E A} {P : A → Prop}
    (ran : (if c then .ok early else rest) = .ok result) (here : P early)
    (later : rest = .ok result → P result) : P result := by
  by_cases stops : c
  · rw [if_pos stops] at ran
    exact Except.ok.inj ran ▸ here
  · rw [if_neg stops] at ran
    exact later ran

theorem of_isOk {result : Except E A} (succeeds : result.isOk = true) :
    ∃ value, result = .ok value := by
  cases result with
  | error fault => simp [Except.isOk, Except.toBool] at succeeds
  | ok value => exact ⟨value, rfl⟩

theorem foldlM_invariant {S : Type} {step : S → A → Except E S} (holds : S → S → Prop)
    (reflexive : ∀ s, holds s s) (transitive : ∀ s t u, holds s t → holds t u → holds s u)
    {items : List A} (each : ∀ s t, ∀ a ∈ items, step s a = .ok t → holds s t) {s t : S}
    (run : items.foldlM step s = .ok t) : holds s t := by
  induction items generalizing s with
  | nil =>
      simp only [List.foldlM_nil, pure, Except.pure, Except.ok.injEq] at run
      exact run ▸ reflexive s
  | cons a rest ih =>
      rw [List.foldlM_cons, bind_ok] at run
      obtain ⟨u, first, others⟩ := run
      exact transitive s u t (each s u a (by simp) first)
        (ih (fun s t b member => each s t b (by simp [member])) others)

theorem foldlM_map {S T : Type} {f : S → T} {step : S → A → Except E S} {step' : T → A → Except E T}
    (each : ∀ s a, (step s a).map f = step' (f s) a) (items : List A) (s : S) :
    (items.foldlM step s).map f = items.foldlM step' (f s) := by
  induction items generalizing s with
  | nil => rfl
  | cons a rest ih =>
      rw [List.foldlM_cons, List.foldlM_cons, ← each]
      cases step s a with
      | error fault => rfl
      | ok t => exact ih t

theorem foldlM_mono {S : Type} {step step' : S → A → Except E S}
    (each : ∀ s a t, step s a = .ok t → step' s a = .ok t) {items : List A} {s t : S}
    (run : items.foldlM step s = .ok t) : items.foldlM step' s = .ok t := by
  induction items generalizing s with
  | nil => exact run
  | cons a rest ih =>
      rw [List.foldlM_cons, bind_ok] at run ⊢
      obtain ⟨u, first, others⟩ := run
      exact ⟨u, each s a u first, ih others⟩

theorem foldlM_error {S : Type} {step : S → A → Except E S} {items : List A} {s : S} {fault : E}
    (run : items.foldlM step s = .error fault) : ∃ t, ∃ a ∈ items, step t a = .error fault := by
  induction items generalizing s with
  | nil => simp [pure, Except.pure] at run
  | cons a rest ih =>
      rw [List.foldlM_cons, bind_error] at run
      rcases run with here | ⟨t, -, later⟩
      · exact ⟨s, a, by simp, here⟩
      · obtain ⟨u, b, member, failed⟩ := ih later
        exact ⟨u, b, by simp [member], failed⟩

end Outcome
