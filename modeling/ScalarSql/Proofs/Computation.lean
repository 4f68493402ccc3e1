import ScalarSql.Error

/-!
# Computations that succeed

What it means that a computation with several steps succeeds: every step does, and the
next one goes on with its result.  Resolving expressions and collecting aggregates carry a
state from step to step, and the statements say which state each step starts in.
-/

set_option autoImplicit false

namespace ScalarSql

section Except

variable {ε α β : Type}

theorem bind_eq_ok {first : Except ε α} {next : α → Except ε β} {result : β} :
    (first >>= next) = .ok result ↔ ∃ value, first = .ok value ∧ next value = .ok result := by
  cases first <;> simp [bind, Except.bind]

theorem map_eq_ok {first : Except ε α} {f : α → β} {result : β} :
    first.map f = .ok result ↔ ∃ value, first = .ok value ∧ f value = result := by
  cases first <;> simp [Except.map]

theorem map_eq_error {first : Except ε α} {f : α → β} {error : ε} :
    first.map f = .error error ↔ first = .error error := by
  cases first <;> simp [Except.map]

theorem bind_eq_error {first : Except ε α} {next : α → Except ε β} {error : ε} :
    (first >>= next) = .error error ↔
      first = .error error ∨ ∃ value, first = .ok value ∧ next value = .error error := by
  cases first <;> simp [bind, Except.bind]

theorem map_ok {value : α} {f : α → β} : (.ok value : Except ε α).map f = .ok (f value) := rfl

theorem map_bind {γ : Type} {first : Except ε α} {next : α → Except ε β} {f : β → γ} :
    (first >>= next).map f = first >>= fun value => (next value).map f := by
  cases first <;> rfl

theorem bind_map {γ : Type} {first : Except ε α} {f : α → β} {next : β → Except ε γ} :
    first.map f >>= next = first >>= fun value => next (f value) := by
  cases first <;> rfl

/-- The results of a computation on several items stand where the items stand. -/
theorem getElem?_of_mapM {items : List α} {f : α → Except ε β} {results : List β}
    (computed : items.mapM f = .ok results) {position : Nat} {item : α}
    (atPosition : items[position]? = some item) :
    ∃ result, results[position]? = some result ∧ f item = .ok result := by
  induction items generalizing results position with
  | nil => cases atPosition
  | cons first rest ih =>
      simp only [List.mapM_cons, bind_eq_ok] at computed
      obtain ⟨firstResult, here, others, later, made⟩ := computed
      cases made
      cases position with
      | zero =>
          cases atPosition
          exact ⟨firstResult, rfl, here⟩
      | succ position => exact ih later atPosition

theorem mapError_eq_ok {δ : Type} {first : Except ε α} {f : ε → δ} {result : α} :
    first.mapError f = .ok result ↔ first = .ok result := by
  cases first with
  | error _ => exact ⟨nofun, nofun⟩
  | ok value =>
      show Except.ok value = Except.ok result ↔ Except.ok value = Except.ok result
      rw [Except.ok.injEq, Except.ok.injEq]

theorem toOption_eq_some {first : Except ε α} {result : α} :
    first.toOption = some result ↔ first = .ok result := by
  cases first <;> simp [Except.toOption]

/-- Two computations that succeed alike are the same or fail both. -/
theorem eq_or_errors {first second : Except ε α} (same : first.toOption = second.toOption) :
    first = second ∨ ∃ error other, first = .error error ∧ second = .error other := by
  cases first with
  | error error =>
      cases second with
      | error other => exact .inr ⟨error, other, rfl, rfl⟩
      | ok value => cases same
  | ok value => exact .inl (toOption_eq_some.mp same.symm).symm

end Except

section State

variable {σ ε α β : Type} {state : σ}

theorem state_bind_eq_ok {first : StateT σ (Except ε) α} {next : α → StateT σ (Except ε) β}
    {result : β × σ} :
    (first >>= next) state = .ok result ↔
      ∃ value between, first state = .ok (value, between) ∧ next value between = .ok result := by
  simp only [bind, StateT.bind, Except.bind]
  cases first state with
  | error _ => simp
  | ok outcome =>
      obtain ⟨value, between⟩ := outcome
      simp [and_assoc]

theorem state_map_eq_ok {first : StateT σ (Except ε) α} {f : α → β} {result : β × σ} :
    (f <$> first) state = .ok result ↔
      ∃ value, first state = .ok (value, result.2) ∧ f value = result.1 := by
  simp only [Functor.map, StateT.map, bind, Except.bind, pure, Except.pure]
  cases first state with
  | error _ => simp
  | ok outcome =>
      obtain ⟨value, after⟩ := outcome
      simp [Prod.ext_iff, and_comm, and_assoc]

theorem state_pure_eq_ok {value : α} {result : α × σ} :
    (pure value : StateT σ (Except ε) α) state = .ok result ↔ (value, state) = result := by
  show Except.ok (value, state) = Except.ok result ↔ (value, state) = result
  rw [Except.ok.injEq]

theorem state_lift_eq_ok {first : Except ε α} {result : α × σ} :
    (liftM first : StateT σ (Except ε) α) state = .ok result ↔
      first = .ok result.1 ∧ state = result.2 := by
  cases first <;> cases result <;>
    simp [liftM, monadLift, MonadLift.monadLift, StateT.lift, bind, Except.bind, pure, Except.pure]

theorem state_throw_ne_ok {error : ε} {result : α × σ} :
    (throw error : StateT σ (Except ε) α) state ≠ .ok result := by
  simp [throw, throwThe, MonadExceptOf.throw, StateT.lift, bind, Except.bind]

end State

end ScalarSql
