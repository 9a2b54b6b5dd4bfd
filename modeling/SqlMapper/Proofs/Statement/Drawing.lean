import SqlMapper.Statement.Insert

/-!
# Runs of drawings

From a supply a drawing either fails or gives a value and leaves a supply (`Drawing.Gives`). A composed drawing gives
what its parts give one after the other (`gives_bind`), so that a run is taken apart without a look at how drawings
are made.
-/

namespace SqlMapper.Drawing

variable {α β : Type} {σ τ : Supply}

/-- From the supply `σ` the drawing gives `a` and leaves the supply `τ`. -/
def Gives (d : Drawing α) (σ : Supply) (a : α) (τ : Supply) : Prop := d.run.run σ = (.ok a, τ)

@[simp] theorem gives_pure {a b : α} : Gives (pure a) σ b τ ↔ a = b ∧ σ = τ := by
  show ((Except.ok a, σ) : Result α × Supply) = (.ok b, τ) ↔ _
  simp

/-- The parts of a composed drawing run one after the other. -/
@[simp] theorem gives_bind {d : Drawing α} {f : α → Drawing β} {b : β} :
    Gives (d >>= f) σ b τ ↔ ∃ a υ, Gives d σ a υ ∧ Gives (f a) υ b τ := by
  unfold Gives
  rw [ExceptT.run_bind, StateT.run_bind]
  rcases d.run.run σ with ⟨r, υ⟩
  cases r with
  | error e =>
    constructor
    · exact fun h => by cases h
    · rintro ⟨_, _, h, _⟩
      cases h
  | ok a =>
    constructor
    · exact fun h => ⟨a, υ, rfl, h⟩
    · rintro ⟨a, υ, h, h'⟩
      cases h
      exact h'

@[simp] theorem gives_map {d : Drawing α} {f : α → β} {b : β} :
    Gives (f <$> d) σ b τ ↔ ∃ a, Gives d σ a τ ∧ f a = b := by
  rw [map_eq_pure_bind, gives_bind]
  constructor
  · rintro ⟨a, υ, h, h'⟩
    obtain ⟨rfl, rfl⟩ := gives_pure.1 h'
    exact ⟨a, h, rfl⟩
  · rintro ⟨a, h, rfl⟩
    exact ⟨a, τ, h, gives_pure.2 ⟨rfl, rfl⟩⟩

@[simp] theorem not_gives_fail {cause : Cause} {a : α} : ¬ Gives (Drawing.fail cause) σ a τ := by
  show ¬ ((Except.error _, σ) : Result α × Supply) = (.ok a, τ)
  simp

@[simp] theorem gives_get {υ : Supply} : Gives get σ υ τ ↔ σ = υ ∧ σ = τ := by
  show ((Except.ok σ, σ) : Result Supply × Supply) = (.ok υ, τ) ↔ _
  simp

@[simp] theorem gives_set {υ : Supply} {u : PUnit} : Gives (set υ) σ u τ ↔ υ = τ := by
  show ((Except.ok ⟨⟩, υ) : Result PUnit × Supply) = (.ok u, τ) ↔ _
  simp

/-- A result draws nothing. -/
@[simp] theorem gives_lift {r : Result α} {a : α} : Gives (monadLift r) σ a τ ↔ r = .ok a ∧ σ = τ := by
  cases r with
  | ok b =>
    show ((Except.ok b, σ) : Result α × Supply) = (.ok a, τ) ↔ _
    simp
  | error e =>
    show ((Except.error e, σ) : Result α × Supply) = (.ok a, τ) ↔ _
    simp

end SqlMapper.Drawing
