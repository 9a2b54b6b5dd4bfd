import Mathlib.Data.List.Forall2
import SqlMapper.Proofs.Running.Connector
import SqlMapper.Proofs.Running.Turns
import SqlMapper.Running.Replay

/-!
# What a connector delivers

Whatever is asked of a connector, every turn is answered for the executor that is bound by the turns before it, and
every executor has received what is owed to it and nothing else: this is what one request keeps
(`Session.Consistent.serve`), and so a whole session (`Session.run_delivers`). An executor receives a statement when the
call is awaited for the first time, wherever the connector has gone meanwhile (`Connector.Call.start_observed`).
-/

namespace SqlMapper

/-- An item of a list that has got one more item is an old one at its place, or the new one at the end. -/
theorem getElem?_concat_eq_some {α : Type} {items : List α} {n : Nat} {last a : α} :
    (items ++ [last])[n]? = some a ↔ items[n]? = some a ∨ n = items.length ∧ last = a := by
  rcases Nat.lt_trichotomy n items.length with hn | rfl | hn
  · rw [List.getElem?_append_left hn]
    exact ⟨.inl, fun h => h.resolve_right fun he => by omega⟩
  · simp
  · rw [List.getElem?_eq_none (by simp; omega), List.getElem?_eq_none (by omega)]
    simp
    omega

/-- An item of a list in which one was replaced is the new one at its place, or an old one at another place. -/
theorem getElem?_set_eq_some {α : Type} {items : List α} {n m : Nat} {old new a : α} (hn : items[n]? = some old) :
    (items.set n new)[m]? = some a ↔ m = n ∧ new = a ∨ m ≠ n ∧ items[m]? = some a := by
  by_cases he : m = n
  · subst he
    rw [List.getElem?_set_self', hn]
    simp
  · rw [List.getElem?_set_ne (Ne.symm he)]
    simp [he]

/-- What the items of a list have in common with an item that replaces one of them stays as it is. -/
theorem map_set_of_eq {α β : Type} {f : α → β} {items : List α} {n : Nat} {old new : α} (hn : items[n]? = some old)
    (hf : f new = f old) : (items.set n new).map f = items.map f := by
  obtain ⟨hlt, rfl⟩ := List.getElem?_eq_some_iff.1 hn
  rw [List.map_set, hf, ← List.map_set, List.set_getElem_self]

/-- What an executor tells: when it was offered, and what it has received. -/
def Observed.told {σ : Type} (x : Observed σ) : Nat × List Command := (x.offer, x.received)

namespace Connector.Call

open Session

variable {σ : Type} {c : Call} {w : World (Connector (Observed σ))}

/-- The executor of a call receives its statement, and no other executor receives anything. -/
theorem start_observed (e : Executor σ)
    (hc : ∀ handle, c.target = some handle → (w.executor.member? handle).isSome = true) :
    (c.start e.observed w).2.executor.slot = w.executor.slot ∧
      ∀ handle, ((c.start e.observed w).2.executor.member? handle).map Observed.told =
        (w.executor.member? handle).map fun x =>
          (x.offer, x.received ++ (commandFor handle (c.target, c.command)).toList) := by
  unfold start
  cases ht : c.target with
  | none => exact ⟨rfl, fun handle => by simp [commandFor]; rfl⟩
  | some target =>
    obtain ⟨x, hx⟩ := Option.isSome_iff_exists.1 (hc target ht)
    obtain ⟨result, state, supply, log, hrun⟩ := Command.run_observed e c.command { w with executor := x }
    have hmembers : ∀ handle, ((w.executor.updated target ⟨x.offer, state, x.received ++ [c.command]⟩).member?
        handle).map Observed.told = (w.executor.member? handle).map fun x =>
          (x.offer, x.received ++ (commandFor handle (some target, c.command)).toList) := by
      intro handle
      unfold member? updated
      by_cases h : handle = target
      · subst h
        rw [member?] at hx
        rw [List.getElem?_set_self', hx]
        simp [Observed.told, commandFor]
      · have hindex : target.index ≠ handle.index := fun he => h (by cases handle; cases target; simp_all)
        rw [List.getElem?_set_ne hindex]
        simp [commandFor, Ne.symm h]
        rfl
    dsimp only
    rw [within_of_some hx, hrun]
    cases result with
    | ok items => exact ⟨rfl, hmembers⟩
    | error fault => exact ⟨rfl, hmembers⟩

/-- A call that was not awaited before runs its statement, and one that was has nothing more to run. -/
theorem await_observed (e : Executor σ)
    (hc : ∀ handle, c.target = some handle → (w.executor.member? handle).isSome = true) :
    (c.await e.observed w).2.2.executor.slot = w.executor.slot ∧
      ∀ handle, ((c.await e.observed w).2.2.executor.member? handle).map Observed.told =
        (w.executor.member? handle).map fun x => (x.offer, x.received ++
          if c.rest.isSome then [] else (commandFor handle (c.target, c.command)).toList) := by
  unfold await
  cases hr : c.rest with
  | some items => exact ⟨rfl, fun handle => by simp; rfl⟩
  | none => simpa using start_observed e hc

/-- A call that was made while no executor was bound fails when it is awaited. -/
theorem await_of_none {e : Executor (Observed σ)} (ht : c.target = none) (hr : c.rest = none) :
    (c.await e w).1 = .fault ⟨.binding .unbound, []⟩ := by
  unfold await start
  rw [hr, ht]
  rfl

/-- An awaited call stays the call that it is. -/
theorem await_call {e : Executor (Observed σ)} : (c.await e w).2.1.target = c.target ∧
    (c.await e w).2.1.command = c.command ∧ (c.await e w).2.1.rest.isSome = true :=
  ⟨rfl, rfl, rfl⟩

end Connector.Call

namespace Session

variable {σ : Type} {s : Session σ} {e : Executor σ}

/-- What the session holds is what its turns say. -/
structure Consistent (s : Session σ) : Prop where
  slot : s.world.executor.slot = holder s.turns
  /-- Whoever is bound was offered. -/
  known : ∀ handle, s.world.executor.slot = some handle → (s.world.executor.member? handle).isSome = true
  made : s.calls.map (fun c => (c.target, c.command)) = made s.turns
  meant : ∀ c ∈ s.calls, ∀ handle, c.target = some handle → (s.world.executor.member? handle).isSome = true
  begun : ∀ k c, s.calls[k]? = some c → (c.rest.isSome = true ↔ k ∈ awaited s.turns)
  counted : ∀ k ∈ awaited s.turns, k < s.calls.length
  /-- The executors are those that were offered in the turns in which one was bound. -/
  offered : ∀ n handle, s.turns[n]? = some (.bind (.ok handle)) ↔
    (s.world.executor.member? handle).map Observed.offer = some n
  received : ∀ handle x, s.world.executor.member? handle = some x → x.received = owed s.turns handle
  fits : ∀ before turn, before ++ [turn] <+: s.turns → turn.Fits before

theorem consistent_start (supply : Supply) (log : Log) : (start supply log : Session σ).Consistent where
  slot := rfl
  known := fun handle h => by cases h
  made := rfl
  meant := fun c hc => absurd hc List.not_mem_nil
  begun := fun k c h => by cases h
  counted := fun k hk => by cases hk
  offered := fun n handle => ⟨fun h => (by cases h), fun h => (by cases h)⟩
  received := fun handle x h => by cases h
  fits := fun before turn h => by simp [start] at h

namespace Consistent

/-- The turns fit if the last one does. -/
theorem fits_concat (h : s.Consistent) {turn : Turn} (hturn : turn.Fits s.turns) :
    ∀ before turn', before ++ [turn'] <+: s.turns ++ [turn] → turn'.Fits before := by
  intro before turn' hp
  rcases List.prefix_concat_iff.1 hp with he | hp
  · obtain ⟨rfl, hlast⟩ := List.append_inj' he rfl
    obtain rfl := List.singleton_inj.1 hlast
    exact hturn
  · exact h.fits before turn' hp

/-- A quiet turn changes at most which executor is bound. -/
theorem quiet (h : s.Consistent) {s' : Session σ} {turn : Turn} (hturns : s'.turns = s.turns ++ [turn])
    (hcalls : s'.calls = s.calls) (hmembers : s'.world.executor.members = s.world.executor.members)
    (hslot : s'.world.executor.slot = turn.after s.world.executor.slot) (hquiet : turn.IsQuiet)
    (hfits : turn.Fits s.turns) : s'.Consistent := by
  have hmember : ∀ handle, s'.world.executor.member? handle = s.world.executor.member? handle := fun handle => by
    rw [Connector.member?, hmembers, Connector.member?]
  refine ⟨?_, ?_, ?_, ?_, ?_, ?_, ?_, ?_, ?_⟩
  · rw [hslot, hturns, holder_concat, h.slot]
  · intro handle hs
    rw [hmember]
    exact h.known handle (hquiet.bound_of_after (hslot ▸ hs))
  · rw [hcalls, hturns, made_concat, hquiet.made?_eq_none, Option.toList_none, List.append_nil, h.made]
  · intro c hc handle ht
    rw [hmember]
    exact h.meant c (hcalls ▸ hc) handle ht
  · rw [hcalls, hturns, awaited_concat_of_none hquiet.awaited?_eq_none]
    exact h.begun
  · rw [hcalls, hturns, awaited_concat_of_none hquiet.awaited?_eq_none]
    exact h.counted
  · intro n handle
    rw [hturns, hmember, getElem?_concat_eq_some, ← h.offered]
    exact or_iff_left fun hn => hquiet.ne_bind hn.2
  · intro handle x hx
    rw [hturns, owed_concat_of_none hquiet.awaited?_eq_none fun _ => hquiet.made?_eq_none]
    exact h.received handle x (hmember handle ▸ hx)
  · rw [hturns]
    exact h.fits_concat hfits

/-- Nothing is owed to an executor that was not offered. -/
theorem owed_eq_nil (h : s.Consistent) {handle : Handle} (hnone : s.world.executor.member? handle = none) :
    owed s.turns handle = [] := by
  refine List.filterMap_eq_nil_iff.2 fun k _ => ?_
  rw [← h.made, List.getElem?_map]
  cases hc : s.calls[k]? with
  | none => rfl
  | some c =>
    refine if_neg fun ht => ?_
    have hknown := h.meant c (List.mem_of_getElem? hc) handle ht
    rw [hnone] at hknown
    cases hknown

/-- An executor is bound, unless one is bound already. -/
theorem bind (h : s.Consistent) (x : σ) :
    (s.acting (Connector.bind { offer := s.turns.length, state := x }) .bind).Consistent := by
  unfold acting
  cases hs : s.world.executor.slot with
  | some handle =>
    rw [Connector.bind_of_some hs]
    refine h.quiet rfl rfl rfl rfl trivial ?_
    rw [Turn.Fits, ← h.slot, hs]
  | none =>
    rw [Connector.bind_of_none hs]
    have hnew : s.world.executor.member? ⟨s.world.executor.members.length⟩ = none :=
      List.getElem?_eq_none (Nat.le_refl _)
    refine ⟨?_, ?_, ?_, ?_, ?_, ?_, ?_, ?_, ?_⟩
    · rw [holder_concat]
      rfl
    · rintro handle ⟨⟩
      exact Option.isSome_iff_exists.2 ⟨_, List.getElem?_concat_length⟩
    · rw [made_concat]
      exact h.made.trans (List.append_nil _).symm
    · intro c hc handle ht
      obtain ⟨y, hy⟩ := Option.isSome_iff_exists.1 (h.meant c hc handle ht)
      exact Option.isSome_iff_exists.2 ⟨y, getElem?_concat_eq_some.2 (.inl hy)⟩
    · rw [awaited_concat_of_none rfl]
      exact h.begun
    · rw [awaited_concat_of_none rfl]
      exact h.counted
    · intro n handle
      rw [getElem?_concat_eq_some, Option.map_eq_some_iff, h.offered, Option.map_eq_some_iff]
      constructor
      · rintro (⟨y, hy, rfl⟩ | ⟨rfl, hlast⟩)
        · exact ⟨y, getElem?_concat_eq_some.2 (.inl hy), rfl⟩
        · cases hlast
          exact ⟨_, List.getElem?_concat_length, rfl⟩
      · rintro ⟨y, hy, rfl⟩
        rcases getElem?_concat_eq_some.1 hy with hy | ⟨hindex, rfl⟩
        · exact .inl ⟨y, hy, rfl⟩
        · cases handle
          cases hindex
          exact .inr ⟨rfl, rfl⟩
    · intro handle y hy
      rw [owed_concat_of_none rfl fun _ => rfl]
      rcases getElem?_concat_eq_some.1 hy with hy | ⟨hindex, rfl⟩
      · exact h.received handle y hy
      · cases handle
        cases hindex
        exact (h.owed_eq_nil hnew).symm
    · refine h.fits_concat ?_
      rw [Turn.Fits, ← h.slot, hs]
      exact ⟨_, rfl⟩

/-- The bound executor is released, if there is one. -/
theorem unbind (h : s.Consistent) : (s.acting Connector.unbind .unbind).Consistent := by
  unfold acting
  cases hs : s.world.executor.slot with
  | some handle =>
    rw [Connector.unbind_of_some hs]
    refine h.quiet rfl rfl rfl rfl trivial ?_
    rw [Turn.Fits, ← h.slot, hs]
    rfl
  | none =>
    rw [Connector.unbind_of_none hs]
    refine h.quiet rfl rfl rfl rfl trivial ?_
    rw [Turn.Fits, ← h.slot, hs]
    rfl

theorem current (h : s.Consistent) : (s.acting Connector.current .current).Consistent := by
  unfold acting
  cases hs : s.world.executor.slot with
  | some handle =>
    rw [Connector.current_of_some hs]
    refine h.quiet rfl rfl rfl rfl trivial ?_
    rw [Turn.Fits, ← h.slot, hs]
    rfl
  | none =>
    rw [Connector.current_of_none hs]
    refine h.quiet rfl rfl rfl rfl trivial ?_
    rw [Turn.Fits, ← h.slot, hs]
    rfl

/-- A call is made for the bound executor. -/
theorem call (h : s.Consistent) (command : Command) :
    ({ s with calls := s.calls ++ [s.world.executor.call command], turns := s.turns ++ [.call command] } :
      Session σ).Consistent := by
  have hlength : s.calls.length = (Session.made s.turns).length := by rw [← h.made, List.length_map]
  refine ⟨?_, h.known, ?_, ?_, ?_, ?_, ?_, ?_, ?_⟩
  · rw [holder_concat]
    exact h.slot
  · rw [List.map_append, made_concat, h.made, ← h.slot]
    rfl
  · intro c hc handle ht
    rcases List.mem_append.1 hc with hc | hc
    · exact h.meant c hc handle ht
    · obtain rfl := List.mem_singleton.1 hc
      exact h.known handle ht
  · intro k c hc
    rw [awaited_concat_of_none rfl]
    rcases getElem?_concat_eq_some.1 hc with hc | ⟨rfl, rfl⟩
    · exact h.begun k c hc
    · have hlater : s.calls.length ∉ awaited s.turns := fun hk => Nat.lt_irrefl _ (h.counted _ hk)
      simp [Connector.call, hlater]
  · intro k hk
    rw [awaited_concat_of_none rfl] at hk
    have := h.counted k hk
    rw [List.length_append]
    omega
  · intro n handle
    rw [getElem?_concat_eq_some, ← h.offered]
    exact or_iff_left nofun
  · intro handle x hx
    rw [owed_concat_call fun k hk => hlength ▸ h.counted k hk]
    exact h.received handle x hx
  · exact h.fits_concat trivial

/-- There is nothing to await before a call was made. -/
theorem await_nothing (h : s.Consistent) {k : Nat} (hk : s.calls[k]? = none) :
    ({ s with turns := s.turns ++ [.await k none] } : Session σ).Consistent := by
  refine h.quiet rfl rfl rfl rfl trivial ?_
  rw [Turn.Fits, ← h.made, List.getElem?_map, hk]
  rfl

/-- A call that is awaited was made by its turn, for the executor that was bound then. -/
theorem made_of_call (h : s.Consistent) {k : Nat} {c : Connector.Call} (hc : s.calls[k]? = some c) :
    (Session.made s.turns)[k]? = some (c.target, c.command) := by
  rw [← h.made, List.getElem?_map, hc]
  rfl

/-- Awaiting a call for the first time delivers its statement to the executor that it is meant for. -/
theorem await (h : s.Consistent) (e : Executor σ) {k : Nat} {c : Connector.Call} (hk : s.calls[k]? = some c) :
    ({ world := (c.await e.observed s.world).2.2, calls := s.calls.set k (c.await e.observed s.world).2.1,
       turns := s.turns ++ [.await k (some (c.await e.observed s.world).1)] } : Session σ).Consistent := by
  have hmem : c ∈ s.calls := List.mem_of_getElem? hk
  obtain ⟨hslot, htold⟩ := c.await_observed e (h.meant c hmem)
  obtain ⟨htarget, hcommand, hrest⟩ := c.await_call (w := s.world) (e := e.observed)
  have hfault := c.await_of_none (w := s.world) (e := e.observed)
  generalize c.await e.observed s.world = awaited' at *
  obtain ⟨item, c', w⟩ := awaited'
  dsimp only at *
  have hsome : ∀ handle, (w.executor.member? handle).isSome = (s.world.executor.member? handle).isSome := by
    intro handle
    have := congrArg Option.isSome (htold handle)
    rwa [Option.isSome_map, Option.isSome_map] at this
  have hoffer : ∀ handle, (w.executor.member? handle).map Observed.offer =
      (s.world.executor.member? handle).map Observed.offer := by
    intro handle
    have := congrArg (Option.map Prod.fst) (htold handle)
    rwa [Option.map_map, Option.map_map] at this
  refine ⟨?_, ?_, ?_, ?_, ?_, ?_, ?_, ?_, ?_⟩
  · rw [holder_concat, hslot]
    exact h.slot
  · intro handle hs
    rw [hsome]
    exact h.known handle (hslot ▸ hs)
  · have hmap : (s.calls.set k c').map (fun c => (c.target, c.command)) =
        s.calls.map fun c => (c.target, c.command) := map_set_of_eq hk (by rw [htarget, hcommand])
    rw [hmap, made_concat, h.made]
    exact (List.append_nil _).symm
  · intro c'' hc'' handle ht
    rw [hsome]
    rcases List.mem_or_eq_of_mem_set hc'' with hc'' | rfl
    · exact h.meant c'' hc'' handle ht
    · exact h.meant c hmem handle (htarget ▸ ht)
  · intro j c'' hj
    rw [mem_awaited_concat_await]
    rcases (getElem?_set_eq_some hk).1 hj with ⟨rfl, rfl⟩ | ⟨hne, hj⟩
    · simp [hrest]
    · rw [h.begun j c'' hj, or_iff_left hne]
  · intro j hj
    rw [List.length_set]
    rcases mem_awaited_concat_await.1 hj with hj | rfl
    · exact h.counted j hj
    · exact (List.getElem?_eq_some_iff.1 hk).1
  · intro n handle
    rw [getElem?_concat_eq_some, hoffer, ← h.offered]
    exact or_iff_left nofun
  · intro handle y hy
    have hyold := htold handle
    rw [hy, Option.map_some] at hyold
    obtain ⟨x, hx, hxy⟩ := Option.map_eq_some_iff.1 hyold.symm
    have hreceived : y.received = x.received ++
        if c.rest.isSome then [] else (commandFor handle (c.target, c.command)).toList :=
      (congrArg Prod.snd hxy).symm
    rw [hreceived, h.received handle x hx, owed_concat_await, h.made_of_call hk]
    simp only [h.begun k c hk]
    rfl
  · refine h.fits_concat ⟨c.target, c.command, h.made_of_call hk, fun ht hnew => ?_⟩
    have hr : c.rest = none := by
      refine Option.not_isSome_iff_eq_none.1 fun hr => hnew ?_
      exact (h.begun k c hk).1 hr
    exact hfault ht hr

/-- **What one request keeps.** -/
theorem serve (h : s.Consistent) (e : Executor σ) (request : Request σ) : (s.serve e request).Consistent := by
  cases request with
  | bind x => exact h.bind x
  | unbind => exact h.unbind
  | current => exact h.current
  | isBound =>
    refine h.quiet rfl rfl rfl rfl trivial ?_
    rw [Turn.Fits, ← h.slot]
    rfl
  | call command => exact h.call command
  | await k =>
    unfold Session.serve
    dsimp only
    cases hk : s.calls[k]? with
    | none => exact h.await_nothing hk
    | some c => exact h.await e hk

/-- A session keeps what each request keeps. -/
theorem run (e : Executor σ) : ∀ {requests : List (Request σ)} {s : Session σ}, s.Consistent →
    (s.run e requests).Consistent
  | [], _, h => h
  | request :: _, _, h => (h.serve e request).run e

end Consistent

/-! ## All requests -/

/-- The turn answers the request. -/
def Request.IsAnswered : Request σ → Turn → Prop
  | .bind _, .bind _ | .unbind, .unbind _ | .current, .current _ | .isBound, .isBound _ => True
  | .call command, .call command' => command = command'
  | .await k, .await k' _ => k = k'
  | _, _ => False

theorem exists_turn (e : Executor σ) (s : Session σ) (request : Request σ) :
    ∃ turn, (s.serve e request).turns = s.turns ++ [turn] ∧ request.IsAnswered turn := by
  cases request with
  | await k =>
    unfold serve
    dsimp only
    cases s.calls[k]? with
    | none => exact ⟨_, rfl, rfl⟩
    | some c => exact ⟨_, rfl, rfl⟩
  | call command => exact ⟨_, rfl, rfl⟩
  | _ => exact ⟨_, rfl, trivial⟩

/-- Each request is answered by one turn. -/
theorem exists_turns (e : Executor σ) : ∀ (requests : List (Request σ)) (s : Session σ),
    ∃ turns, (s.run e requests).turns = s.turns ++ turns ∧ List.Forall₂ Request.IsAnswered requests turns
  | [], s => ⟨[], (List.append_nil _).symm, .nil⟩
  | request :: requests, s => by
    obtain ⟨turn, hturn, hanswered⟩ := exists_turn e s request
    obtain ⟨turns, hturns, hall⟩ := exists_turns e requests (s.serve e request)
    refine ⟨turn :: turns, ?_, .cons hanswered hall⟩
    rw [hturn, List.append_assoc, List.singleton_append] at hturns
    exact hturns

/-- **What a connector delivers**, whatever is asked of it and whatever the executors answer. Each request is answered
in turn, for the executor that is bound by the turns before it, and executors are bound and released in alternation. The
executors that were bound, and no refused ones, have received the statements of the calls that were made while they were
bound and awaited at some time since, once for each call and in the order in which they were awaited first. A call that
was made while nothing was bound is refused when it is awaited. -/
theorem run_delivers (e : Executor σ) (supply : Supply) (log : Log) (requests : List (Request σ)) :
    let s := (start supply log).run e requests
    List.Forall₂ Request.IsAnswered requests s.turns ∧
      (∀ before turn, before ++ [turn] <+: s.turns → turn.Fits before) ∧
      Alternates (s.turns.filterMap Turn.shift?) ∧
      (∀ n handle, s.turns[n]? = some (.bind (.ok handle)) ↔
        (s.world.executor.member? handle).map Observed.offer = some n) ∧
      (∀ n error, s.turns[n]? = some (.bind (.error error)) → ∀ x ∈ s.world.executor.members, x.offer ≠ n) ∧
      ∀ handle x, s.world.executor.member? handle = some x → x.received = owed s.turns handle := by
  intro s
  have h : s.Consistent := (consistent_start supply log).run e
  obtain ⟨turns, hturns, hanswered⟩ := exists_turns e requests (start supply log)
  refine ⟨hturns ▸ hanswered, h.fits, ?_, h.offered, fun n error hn x hx hoffer => ?_, h.received⟩
  · exact alternates_of_fits s.turns [] h.fits
  · obtain ⟨i, hi⟩ := List.getElem?_of_mem hx
    have hbound : s.turns[n]? = some (.bind (.ok ⟨i⟩)) := by
      refine (h.offered n ⟨i⟩).2 ?_
      rw [Connector.member?, hi, Option.map_some, hoffer]
    cases hn.symm.trans hbound

end Session

/-! ## A handover -/

namespace Sample

/-- A call that runs a text. -/
def running (sql : String) : Command := .execute (.raw sql)

/-- An executor is released before its call is awaited. The next one is bound meanwhile, while a third one is refused,
and its call is awaited twice. The last call is made when nothing is bound. -/
def handover : List (Session.Request Replay) :=
  [.bind default, .call (running "DO 1;"), .unbind, .bind default, .bind default, .await 0, .call (running "DO 2;"),
    .await 1, .await 1, .unbind, .call (running "DO 3;"), .await 2]

/-- The session in which the handover is made. -/
def handoverSession : Session Replay := (Session.start .start []).run Replay.executor handover

end Sample

/-- The released executor gets the first statement, the next one the second statement and that only once, and the third
statement gets to nobody. -/
theorem handover_delivers :
    (Sample.handoverSession.world.executor.member? ⟨0⟩).map Observed.received = some [Sample.running "DO 1;"] ∧
      (Sample.handoverSession.world.executor.member? ⟨1⟩).map Observed.received = some [Sample.running "DO 2;"] ∧
      (∀ x ∈ Sample.handoverSession.world.executor.members, x.offer ≠ 4) ∧
      Sample.handoverSession.turns[11]? = some (.await 2 (some (.fault ⟨.binding .unbound, []⟩))) := by
  obtain ⟨-, -, -, -, hrefused, hreceived⟩ := Session.run_delivers Replay.executor .start [] Sample.handover
  obtain ⟨first, hfirst⟩ : ∃ x, Sample.handoverSession.world.executor.member? ⟨0⟩ = some x := ⟨_, rfl⟩
  obtain ⟨second, hsecond⟩ : ∃ x, Sample.handoverSession.world.executor.member? ⟨1⟩ = some x := ⟨_, rfl⟩
  refine ⟨?_, ?_, hrefused 4 ⟨.binding .alreadyBound, []⟩ rfl, rfl⟩
  · rw [hfirst, Option.map_some, hreceived ⟨0⟩ first hfirst]
    rfl
  · rw [hsecond, Option.map_some, hreceived ⟨1⟩ second hsecond]
    rfl

end SqlMapper
