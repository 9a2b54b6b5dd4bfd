import SqlMapper.Proofs.Result
import SqlMapper.Running.Session

/-!
# Connectors at work

A connector binds an executor only while none is bound, releases and shows the bound one, and lets an executor that it
knows work without a change to the others. A call that is awaited at once is what the connector does as an executor
(`Connector.start_call`).
-/

namespace SqlMapper

/-- An observed executor works as it would, and keeps the statement. -/
theorem Observed.run_receiving {σ α : Type} (command : Command) (act : Action σ α) (w : World (Observed σ)) :
    (receiving command act).run w =
      let (result, w') := act.run { w with executor := w.executor.state }
      (result, { w' with
        executor := { w.executor with state := w'.executor, received := w.executor.received ++ [command] } }) :=
  rfl

/-- Whatever comes of it, an observed executor has received the statement. -/
theorem Command.run_observed {σ : Type} (e : Executor σ) (command : Command) (w : World (Observed σ)) :
    ∃ result state supply log, (command.run e.observed).run w =
      (result, ⟨⟨w.executor.offer, state, w.executor.received ++ [command]⟩, supply, log⟩) := by
  unfold run
  cases command with
  | execute q =>
    dsimp only [Executor.observed]
    rw [Result.run_bind, Observed.run_receiving]
    cases (e.execute q).run { w with executor := w.executor.state } with
    | mk result w' => cases result <;> exact ⟨_, _, _, _, rfl⟩
  | fetch q limit =>
    dsimp only [Executor.observed]
    rw [Result.run_bind, Observed.run_receiving]
    cases (e.fetch q limit).run { w with executor := w.executor.state } with
    | mk result w' => cases result <;> exact ⟨_, _, _, _, rfl⟩

namespace Connector

variable {σ α : Type} {w : World (Connector σ)} {handle : Handle} {x : σ}

theorem bind_of_some (h : w.executor.slot = some handle) :
    (bind x).run w = (.error ⟨.binding .alreadyBound, []⟩, w) := by
  rcases w with ⟨⟨members, slot⟩, supply, log⟩
  obtain rfl : slot = some handle := h
  rfl

theorem bind_of_none (h : w.executor.slot = none) : (bind x).run w = (.ok ⟨w.executor.members.length⟩,
    { (w.logging [.debug "Executor bound"]) with
      executor := ⟨w.executor.members ++ [x], some ⟨w.executor.members.length⟩⟩ }) := by
  rcases w with ⟨⟨members, slot⟩, supply, log⟩
  obtain rfl : slot = none := h
  rfl

theorem unbind_of_some (h : w.executor.slot = some handle) : unbind.run w = (.ok handle,
    { (w.logging [.debug "Executor unbound"]) with executor := { w.executor with slot := none } }) := by
  rcases w with ⟨⟨members, slot⟩, supply, log⟩
  obtain rfl : slot = some handle := h
  rfl

theorem unbind_of_none (h : w.executor.slot = none) : unbind.run w = (.error ⟨.binding .notBound, []⟩, w) := by
  rcases w with ⟨⟨members, slot⟩, supply, log⟩
  obtain rfl : slot = none := h
  rfl

theorem current_of_some (h : w.executor.slot = some handle) : current.run w = (.ok handle, w) := by
  rcases w with ⟨⟨members, slot⟩, supply, log⟩
  obtain rfl : slot = some handle := h
  rfl

theorem current_of_none (h : w.executor.slot = none) : current.run w = (.error ⟨.binding .unbound, []⟩, w) := by
  rcases w with ⟨⟨members, slot⟩, supply, log⟩
  obtain rfl : slot = none := h
  rfl

/-- Work with an executor changes its own state in the connector. -/
theorem within_of_some {act : Action σ α} (h : w.executor.member? handle = some x) :
    (within handle act).run w =
      let (result, w') := act.run { w with executor := x }
      (result, { w' with executor := w.executor.updated handle w'.executor }) := by
  unfold within
  rw [Result.run_bind, show (get : Action (Connector σ) (World (Connector σ))).run w = (.ok w, w) from rfl]
  dsimp only
  rw [h]
  rfl

theorem within_of_none {act : Action σ α} (h : w.executor.member? handle = none) :
    (within handle act).run w = (.error ⟨.binding .unbound, []⟩, w) := by
  unfold within
  rw [Result.run_bind, show (get : Action (Connector σ) (World (Connector σ))).run w = (.ok w, w) from rfl]
  dsimp only
  rw [h]
  rfl

/-- As an executor, the connector lets the bound one run a statement. -/
theorem run_executor (e : Executor σ) (command : Command) (w : World (Connector σ)) :
    (command.run (executor e)).run w = (current >>= fun handle => within handle (command.run e)).run w := by
  cases hs : w.executor.slot with
  | none =>
    rw [Result.run_bind current, current_of_none hs]
    cases command <;> (unfold Command.run executor; rw [Result.run_bind, Result.run_bind, current_of_none hs])
  | some handle =>
    rw [Result.run_bind current, current_of_some hs]
    cases hm : w.executor.member? handle with
    | none =>
      dsimp only
      rw [within_of_none hm]
      cases command <;>
        (unfold Command.run executor; rw [Result.run_bind, Result.run_bind, current_of_some hs]; dsimp only
         rw [within_of_none hm])
    | some x =>
      dsimp only
      rw [within_of_some hm]
      cases command with
      | execute q =>
        unfold Command.run executor
        rw [Result.run_bind, Result.run_bind, current_of_some hs]
        dsimp only
        rw [within_of_some hm, Result.run_bind]
        cases (e.execute q).run { w with executor := x } with
        | mk result w' => cases result <;> rfl
      | fetch q limit =>
        unfold Command.run executor
        rw [Result.run_bind, Result.run_bind, current_of_some hs]
        dsimp only
        rw [within_of_some hm, Result.run_bind]
        cases (e.fetch q limit).run { w with executor := x } with
        | mk result w' => cases result <;> rfl

/-- A call that is awaited at once does what the connector does as an executor. -/
theorem start_call (e : Executor σ) (command : Command) (w : World (Connector σ)) :
    (w.executor.call command).start e w = ((command.run (executor e)).run w).map Item.ofResult id := by
  rw [run_executor, Result.run_bind]
  cases hs : w.executor.slot with
  | none =>
    rw [current_of_none hs]
    unfold Call.start call
    rw [hs]
    rfl
  | some handle =>
    rw [current_of_some hs]
    unfold Call.start call
    rw [hs]

end Connector

end SqlMapper
