import SqlMapper.Proofs.Running.Sending

/-!
# Records that change in their place

A request to a record that changes in its place does what the operation does that gives the changed record
(`Request.run_eq`), and where that operation fails the record is as it was: nothing that may fail comes after the
change. So what is told of the operation is told of the turn (`Record.serve_meets`).
-/

namespace SqlMapper

/-- In place of a record, the method does what an action does that gives the record as it is afterwards; it leaves the
record where the action fails. -/
def Method.Follows {σ α : Type} (m : Method σ α) (r : Record) (a : Action σ (α × Record)) : Prop :=
  ∀ w, m.run (r, w) = match a.run w with
    | (.ok (x, r'), w') => (.ok x, r', w')
    | (.error x, w') => (.error x, r, w')

namespace Method

variable {σ α β : Type} {r : Record}

theorem follows_pure (x : α) : (pure x : Method σ α).Follows r (pure (x, r)) := fun _ => rfl

/-- An action leaves the record, whether it fails or not. -/
theorem run_act (a : Action σ α) (w : World σ) : (act a).run (r, w) = ((a.run w).1, r, (a.run w).2) := rfl

theorem follows_act (a : Action σ α) : (act a).Follows r (a >>= fun x => pure (x, r)) := fun w => by
  rw [Result.run_bind, run_act]
  rcases a.run w with ⟨_ | _, _⟩ <;> rfl

theorem follows_record {f : Record → Method σ α} {a : Action σ (α × Record)} (h : (f r).Follows r a) :
    (record >>= f).Follows r a := h

/-- Nothing follows a failure, and what follows an action finds the record as it was. -/
theorem follows_act_bind {a : Action σ α} {f : α → Method σ β} {b : α → Action σ (β × Record)}
    (h : ∀ x, (f x).Follows r (b x)) : (act a >>= f).Follows r (a >>= b) := fun w => by
  rw [Result.run_bind, Result.run_bind, run_act]
  rcases a.run w with ⟨_ | x, w'⟩
  · rfl
  · exact h x w'

/-- What a method gives counts no more, but what it does stays. -/
theorem run_discard (m : Method σ α) (s : Record × World σ) : (discard m : Method σ Unit).run s = match m.run s with
    | (.ok _, s') => (.ok (), s')
    | (.error x, s') => (.error x, s') := by
  show ((fun _ => ()) <$> m : Method σ Unit).run s = _
  rw [map_eq_pure_bind, Result.run_bind]
  rcases m.run s with ⟨_ | _, _⟩ <;> rfl

end Method

namespace Record

open Method

variable {σ : Type} {r : Record}

theorem set_follows (attr : String) (v : Value) : (Method.set attr v : Method σ Unit).Follows r
    (Action.ofResult (r.set attr v) >>= fun r' => pure ((), r')) := fun w => by
  unfold Method.set Record.set
  show (act (Action.ofResult (r.table.field attr)) >>= _).run (r, w) = _
  rw [Result.run_bind, run_act]
  cases r.table.field attr with
  | error x => rfl
  | ok f =>
    show (if r.changesKey f attr v then _ else _ : Method σ Unit).run (r, w) = _
    rw [Result.ok_bind]
    cases r.changesKey f attr v <;> rfl

/-- The key is adopted last, when nothing can fail any more. -/
theorem adopt_follows (affected : RowsAffected) : (match affected.lastInsertId with
      | none => pure affected
      | some id => do
        let key ← act (.ofResult (r.table.primaryKey.field.toApp (idValue id)))
        change (·.load r.table.primaryKey.attr key)
        pure affected : Method σ RowsAffected).Follows r
    (Action.ofResult (r.adopt affected.lastInsertId) >>= fun r' => pure (affected, r')) := fun w => by
  cases affected.lastInsertId with
  | none => rfl
  | some id =>
    unfold adopt
    dsimp only
    rw [Result.run_bind, run_act]
    cases r.table.primaryKey.field.toApp (idValue id) <;> rfl

theorem save_follows (e : Executor σ) : (Method.save e).Follows r (r.save e) := by
  unfold Method.save Record.save
  refine follows_record ?_
  dsimp only
  cases r.table.primaryKey.isAutoIncrement with
  | false => exact follows_act _
  | true =>
    cases r.key? with
    | none => exact follows_act_bind adopt_follows
    | some key =>
      cases r.otherValues.isEmpty with
      | true => exact follows_pure _
      | false => exact follows_act_bind fun u => follows_act _

theorem remove_follows (e : Executor σ) : (Method.remove e).Follows r (r.remove e >>= fun x => pure (x, r)) :=
  follows_record (follows_act _)

/-- What a request makes of a record. -/
def Request.outcome (request : Request) (r : Record) (e : Executor σ) : Action σ Record :=
  match request with
  | set attr v => Action.ofResult (r.set attr v)
  | save => Prod.snd <$> r.save e
  | remove => (fun _ => r) <$> r.remove e

/-- A request leaves the record where it fails. -/
theorem Request.run_eq (request : Request) (e : Executor σ) (w : World σ) :
    (request.run e).run (r, w) = match (request.outcome r e).run w with
      | (.ok r', w') => (.ok (), r', w')
      | (.error x, w') => (.error x, r, w') := by
  unfold Request.run outcome
  cases request with
  | set attr v =>
    dsimp only
    rw [set_follows attr v w]
    cases r.set attr v <;> rfl
  | save =>
    dsimp only
    rw [run_discard, save_follows e w, map_eq_pure_bind, Result.run_bind]
    rcases (r.save e).run w with ⟨_ | _, _⟩ <;> rfl
  | remove =>
    dsimp only
    rw [run_discard, remove_follows e w, map_eq_pure_bind, Result.run_bind, Result.run_bind]
    rcases (r.remove e).run w with ⟨_ | _, _⟩ <;> rfl

/-- A turn that fails leaves the record, and otherwise gives what the operation gives. -/
theorem serve_meets {request : Request} {e : Executor σ} {post : Result Record → List Query → Prop}
    (h : (request.outcome r e.recorded).Meets post) (w : World σ) : ∃ after sent failure,
      (r.serve e request w).1 = ⟨request, r, after, sent, failure⟩ ∧
        ((failure = none ∧ post (.ok after) sent) ∨ ∃ x, failure = some x ∧ after = r ∧ post (.error x) sent) := by
  let w' : World (σ × List Query) := { w with executor := (w.executor, []) }
  obtain ⟨sent, hsent, hpost⟩ := h w'
  unfold serve
  rw [show (request.run e.recorded).run (r, w') = _ from request.run_eq e.recorded w']
  rcases hout : (request.outcome r e.recorded).run w' with ⟨x | r', w''⟩
  · rw [hout] at hsent hpost
    obtain rfl : w''.executor.2 = sent := hsent
    exact ⟨r, _, some x, rfl, .inr ⟨x, rfl, rfl, hpost⟩⟩
  · rw [hout] at hsent hpost
    obtain rfl : w''.executor.2 = sent := hsent
    exact ⟨r', _, none, rfl, .inl ⟨rfl, hpost⟩⟩

end Record

end SqlMapper
