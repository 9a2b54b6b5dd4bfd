import SqlMapper.Proofs.Result
import SqlMapper.Proofs.Statement.Drawing
import SqlMapper.Record.Requests

/-!
# What actions send

What an action with a recorded executor has sent, next to its result (`Action.Meets`). An action that is composed sends
what its parts send one after the other, up to the first that fails (`Meets.bind`). So running a statement sends that
statement, or nothing and fails (`Meets.execute`).
-/

namespace SqlMapper

/-- Whatever the world, the result of the action and the statements that it sends are as told. -/
def Action.Meets {σ α : Type} (a : Action (σ × List Query) α) (post : Result α → List Query → Prop) : Prop :=
  ∀ w, ∃ sent, (a.run w).2.executor.2 = w.executor.2 ++ sent ∧ post (a.run w).1 sent

namespace Action

variable {σ α β : Type} {a : Action (σ × List Query) α} {f : α → Action (σ × List Query) β}

theorem Meets.imp {post post' : Result α → List Query → Prop} (h : a.Meets post)
    (himp : ∀ result sent, post result sent → post' result sent) : a.Meets post' := fun w => by
  obtain ⟨sent, hsent, hpost⟩ := h w
  exact ⟨sent, hsent, himp _ _ hpost⟩

/-- An answer is given without a statement. -/
theorem meets_ofResult (r : Result α) :
    (ofResult r : Action (σ × List Query) α).Meets fun result sent => result = r ∧ sent = [] :=
  fun _ => ⟨[], (List.append_nil _).symm, rfl, rfl⟩

theorem meets_pure (x : α) :
    (pure x : Action (σ × List Query) α).Meets fun result sent => result = .ok x ∧ sent = [] :=
  meets_ofResult (.ok x)

theorem meets_fail (cause : Cause) :
    (fail cause : Action (σ × List Query) α).Meets fun result sent => result = .error ⟨cause, []⟩ ∧ sent = [] :=
  meets_ofResult (.error ⟨cause, []⟩)

/-- Default values are drawn without a statement. -/
theorem meets_drawing (d : Drawing α) : (drawing d : Action (σ × List Query) α).Meets fun result sent =>
    (∀ x, result = .ok x → ∃ s s', d.Gives s x s') ∧ sent = [] :=
  fun w => ⟨[], (List.append_nil _).symm, fun _ hx => ⟨w.supply, (d.run w.supply).2, Prod.ext hx rfl⟩, rfl⟩

/-- The first part sends its statements, and unless it fails the second one sends further ones. -/
theorem Meets.bind {post : Result α → List Query → Prop} {post' : Result β → List Query → Prop} (h : a.Meets post)
    (hfailed : ∀ x sent, post (.error x) sent → post' (.error x) sent)
    (hok : ∀ x sent, post (.ok x) sent → (f x).Meets fun result sent' => post' result (sent ++ sent')) :
    (a >>= f).Meets post' := by
  intro w
  obtain ⟨sent, hsent, hpost⟩ := h w
  rw [Result.run_bind]
  rcases ha : a.run w with ⟨result, w'⟩
  rw [ha] at hsent hpost
  cases result with
  | error x => exact ⟨sent, hsent, hfailed x sent hpost⟩
  | ok x =>
    obtain ⟨sent', hsent', hpost'⟩ := hok x sent hpost w'
    refine ⟨sent ++ sent', ?_, hpost'⟩
    rw [← List.append_assoc, ← hsent]
    exact hsent'

theorem Meets.map {post : Result β → List Query → Prop} {g : α → β}
    (h : a.Meets fun result sent => post (result.map g) sent) : (g <$> a).Meets post := by
  rw [map_eq_pure_bind]
  refine h.bind (fun _ _ hpost => hpost) fun x sent hpost => (meets_pure (g x)).imp ?_
  rintro _ _ ⟨rfl, rfl⟩
  rw [List.append_nil]
  exact hpost

/-- The statement is kept, whatever the executor makes of it. -/
theorem meets_execute (e : Executor σ) (q : Query) : (e.recorded.execute q).Meets fun _ sent => sent = [q] :=
  fun _ => ⟨[q], rfl, rfl⟩

/-- A statement that was made is sent, or none is. -/
theorem Meets.execute {a : Action (σ × List Query) Query} {made : Query → Prop} (e : Executor σ)
    (h : a.Meets fun result sent => (∀ q, result = .ok q → made q) ∧ sent = []) :
    (a >>= e.recorded.execute).Meets fun _ sent => sent = [] ∨ ∃ q, made q ∧ sent = [q] := by
  refine h.bind ?_ ?_
  · rintro _ _ ⟨-, rfl⟩
    exact .inl rfl
  · rintro q _ ⟨hmade, rfl⟩
    refine (meets_execute e q).imp ?_
    rintro _ _ rfl
    exact .inr ⟨q, hmade q rfl, rfl⟩

end Action

variable {σ : Type} (e : Executor σ)

theorem Insert.meets_run (i : Insert) : (i.run e.recorded).Meets fun _ sent =>
    sent = [] ∨ ∃ q, (∃ s s', i.render.Gives s q s') ∧ sent = [q] :=
  (Action.meets_drawing i.render).execute e

theorem Update.meets_run (u : Update) : (u.run e.recorded).Meets fun _ sent =>
    sent = [] ∨ ∃ q, u.render = .ok q ∧ sent = [q] :=
  ((Action.meets_ofResult u.render).imp fun _ _ h => ⟨fun _ hq => h.1 ▸ hq, h.2⟩).execute e

theorem Delete.meets_run (d : Delete) : (d.run e.recorded).Meets fun _ sent =>
    sent = [] ∨ ∃ q, d.render = .ok q ∧ sent = [q] :=
  ((Action.meets_ofResult d.render).imp fun _ _ h => ⟨fun _ hq => h.1 ▸ hq, h.2⟩).execute e

end SqlMapper
