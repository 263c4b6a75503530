/-
Results with a trace. A computation that may fail also leaves the events that happened on the way,
and these stay when it fails.

* `Traced.pure`, `Traced.fail`, `Traced.record`: the three single steps;
* `Traced.bind`: one computation after another; nothing follows a failure;
* `bind_assoc`, `pure_bind`, `bind_pure`, `fail_bind`: the laws of doing so;
* `bind_outcome_eq_ok_iff`, `bind_outcome_eq_error_iff`: what two steps come to.
-/
namespace ShaderPreprocessor

/-- The events of a computation and what it came to. -/
structure Traced (κ ε α : Type) where
  /-- What happened, in order. -/
  events : List κ
  /-- The value, or why there is none. -/
  outcome : Except ε α

namespace Traced

variable {κ ε α β γ : Type}

/-- A value without events. -/
def pure (a : α) : Traced κ ε α := ⟨[], .ok a⟩

/-- A failure without events. -/
def fail (e : ε) : Traced κ ε α := ⟨[], .error e⟩

/-- One event. -/
def record (event : κ) : Traced κ ε Unit := ⟨[event], .ok ()⟩

/-- One computation after another, which may use the value of the first. -/
def bind (x : Traced κ ε α) (f : α → Traced κ ε β) : Traced κ ε β :=
  match x.outcome with
  | .ok a => ⟨x.events ++ (f a).events, (f a).outcome⟩
  | .error e => ⟨x.events, .error e⟩

/-- A computation with its value changed. -/
def map (f : α → β) (x : Traced κ ε α) : Traced κ ε β := ⟨x.events, x.outcome.map f⟩

/-- A computation with its failure changed. -/
def mapError {ζ : Type} (f : ε → ζ) (x : Traced κ ε α) : Traced κ ζ α :=
  ⟨x.events, x.outcome.mapError f⟩

/-- A computation with its events changed. -/
def mapEvents {ι : Type} (f : κ → ι) (x : Traced κ ε α) : Traced ι ε α :=
  ⟨x.events.map f, x.outcome⟩

@[simp] theorem pure_bind (a : α) (f : α → Traced κ ε β) : (pure a).bind f = f a := rfl

@[simp] theorem fail_bind (e : ε) (f : α → Traced κ ε β) : (fail e).bind f = fail e := rfl

@[simp] theorem bind_pure (x : Traced κ ε α) : x.bind pure = x := by
  obtain ⟨events, a | a⟩ := x <;> simp [bind, pure]

/-- It makes no difference which of two steps is put together first. -/
theorem bind_assoc (x : Traced κ ε α) (f : α → Traced κ ε β) (g : β → Traced κ ε γ) :
    (x.bind f).bind g = x.bind fun a => (f a).bind g := by
  obtain ⟨events, e | a⟩ := x
  · rfl
  · cases h : (f a).outcome <;> simp [bind, h]

/-- To change the value is to go on with the changed value. -/
theorem map_eq_bind (f : α → β) (x : Traced κ ε α) : x.map f = x.bind fun a => pure (f a) := by
  obtain ⟨events, e | a⟩ := x <;> simp [bind, pure, map, Except.map]

/-- A computation with two steps succeeds if both do. -/
theorem bind_outcome_eq_ok_iff {x : Traced κ ε α} {f : α → Traced κ ε β} {b : β} :
    (x.bind f).outcome = .ok b ↔ ∃ a, x.outcome = .ok a ∧ (f a).outcome = .ok b := by
  obtain ⟨events, e | a⟩ := x <;> simp [bind]

/-- A computation with two steps fails if the first does, or the second after the first. -/
theorem bind_outcome_eq_error_iff {x : Traced κ ε α} {f : α → Traced κ ε β} {e : ε} :
    (x.bind f).outcome = .error e ↔
      x.outcome = .error e ∨ ∃ a, x.outcome = .ok a ∧ (f a).outcome = .error e := by
  obtain ⟨events, e' | a⟩ := x <;> simp [bind]

/-- The second step matters only for the value that the first one comes to. -/
theorem bind_congr {x : Traced κ ε α} {f g : α → Traced κ ε β}
    (h : ∀ a, x.outcome = .ok a → f a = g a) : x.bind f = x.bind g := by
  obtain ⟨events, e | a⟩ := x
  · rfl
  · simp [bind, h a rfl]

theorem map_outcome_eq_ok_iff {f : α → β} {x : Traced κ ε α} {b : β} :
    (x.map f).outcome = .ok b ↔ ∃ a, x.outcome = .ok a ∧ f a = b := by
  obtain ⟨events, e | a⟩ := x <;> simp [map, Except.map]

theorem map_outcome_eq_error_iff {f : α → β} {x : Traced κ ε α} {e : ε} :
    (x.map f).outcome = .error e ↔ x.outcome = .error e := by
  obtain ⟨events, e' | a⟩ := x <;> simp [map, Except.map]

theorem mapError_outcome_eq_error_iff {ζ : Type} {f : ε → ζ} {x : Traced κ ε α} {e : ζ} :
    (x.mapError f).outcome = .error e ↔ ∃ e', x.outcome = .error e' ∧ f e' = e := by
  constructor
  · intro h
    obtain ⟨events, e' | a⟩ := x
    · exact ⟨e', rfl, Except.error.inj h⟩
    · cases h
  · rintro ⟨e', he, rfl⟩
    rw [mapError, he]
    rfl

end Traced

end ShaderPreprocessor
