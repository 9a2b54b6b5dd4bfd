import Mathlib.Data.List.Forall2
import SqlMapper.Error

/-!
# Steps that may fail

A sequence of steps succeeds exactly when each step does, so that an operation that succeeded can be taken apart
without a look at its faults. So does one step that is made for each item of a list (`forall₂_of_mapM`), and so do
steps in a state, of which each starts where the one before it ends (`run_bind`). What the errors of all steps have in
common, the error of the sequence has (`FailsWith.bind`); a panic is no error that a step returns.
-/

namespace SqlMapper.Result

variable {ε α β : Type} {r : Except ε α} {next : α → Except ε β} {a : α} {b : β}

@[simp] theorem pure_eq_ok {c : α} : (pure a : Except ε α) = .ok c ↔ a = c := by
  show (Except.ok a : Except ε α) = .ok c ↔ _
  simp

@[simp] theorem fail_ne_ok {cause : Cause} : fail cause ≠ .ok a := by
  simp [fail]

@[simp] theorem orPanic_eq_ok {o : Option α} : orPanic o = .ok a ↔ o = some a := by
  cases o <;> simp [orPanic]

/-- The steps of a sequence that succeeds succeed one after the other. -/
@[simp] theorem bind_eq_ok : (r >>= next) = .ok b ↔ ∃ a, r = .ok a ∧ next a = .ok b := by
  cases r with
  | ok a =>
    show next a = .ok b ↔ _
    simp
  | error e =>
    show (Except.error e : Except ε β) = .ok b ↔ _
    simp

theorem ok_bind (a : α) (next : α → Except ε β) : (Except.ok a >>= next) = next a := rfl

/-- The second step starts in the state that the first one leaves, unless that one fails. -/
theorem run_bind {σ : Type} (m : ExceptT ε (StateM σ) α) (f : α → ExceptT ε (StateM σ) β) (s : σ) :
    (m >>= f).run s = match m.run s with
      | (.ok a, s') => (f a).run s'
      | (.error e, s') => (.error e, s') := by
  show (m >>= f).run.run s = match m.run.run s with
      | (.ok a, s') => (f a).run s'
      | (.error e, s') => (.error e, s')
  rw [ExceptT.run_bind, StateT.run_bind]
  rcases m.run.run s with ⟨_ | _, _⟩ <;> rfl

/-- Where the steps return an error, it has the property. -/
def FailsWith {α : Type} (r : Result α) (P : Error → Prop) : Prop := ∀ e, r = .error e → e.isPanic = false → P e

namespace FailsWith

variable {α β : Type} {r : Result α} {P Q : Error → Prop}

theorem ok (a : α) : FailsWith (.ok a) P := fun _ h => nomatch h

theorem error {e : Error} (h : e.isPanic = false → P e) : FailsWith (.error e : Result α) P := by
  rintro _ ⟨⟩
  exact h

theorem orPanic : ∀ o : Option α, FailsWith (orPanic o) P
  | some a => ok a
  | none => error nofun

/-- The error of a sequence is that of one of its steps. -/
theorem bind {next : α → Result β} (h : FailsWith r P) (hnext : ∀ a, r = .ok a → FailsWith (next a) P) :
    FailsWith (r >>= next) P := by
  cases r with
  | ok a => exact hnext a rfl
  | error e => exact error (h e rfl)

theorem map (f : α → β) (h : FailsWith r P) : FailsWith (r.map f) P := by
  cases r with
  | ok a => exact ok (f a)
  | error e => exact error (h e rfl)

theorem imp (h : FailsWith r P) (hPQ : ∀ e, P e → Q e) : FailsWith r Q := fun e he hp => hPQ e (h e he hp)

end FailsWith

/-- A step that is made for each item of a list succeeds for each of them. -/
theorem forall₂_of_mapM {step : α → Except ε β} : ∀ {items : List α} {results : List β},
    items.mapM step = .ok results → List.Forall₂ (fun a b => step a = .ok b) items results
  | [], _, h => by
    cases h
    exact .nil
  | a :: items, _, h => by
    rw [List.mapM_cons] at h
    obtain ⟨b, hb, h⟩ := bind_eq_ok.1 h
    obtain ⟨results, hresults, h⟩ := bind_eq_ok.1 h
    cases h
    exact .cons hb (forall₂_of_mapM hresults)

/-- Lists that belong together with a third one belong together item by item. -/
theorem forall₂_comp {γ : Type} {R : α → β → Prop} {S : β → γ → Prop} : ∀ {items : List α} {results : List β}
    {ends : List γ}, List.Forall₂ R items results → List.Forall₂ S results ends →
      List.Forall₂ (fun a c => ∃ b, R a b ∧ S b c) items ends
  | _, _, _, .nil, .nil => .nil
  | _, _, _, .cons hR hRs, .cons hS hSs => .cons ⟨_, hR, hS⟩ (forall₂_comp hRs hSs)

/-- Of two lists that belong together, every item of the second belongs to one of the first. -/
theorem exists_of_mem {R : α → β → Prop} {items : List α} {results : List β} (h : List.Forall₂ R items results)
    (hb : b ∈ results) : ∃ a ∈ items, R a b := by
  induction h with
  | nil => cases hb
  | cons ha _ ih =>
    rcases List.mem_cons.1 hb with rfl | hb
    · exact ⟨_, List.mem_cons_self, ha⟩
    · obtain ⟨a, hmem, ha⟩ := ih hb
      exact ⟨a, List.mem_cons_of_mem _ hmem, ha⟩

end SqlMapper.Result
