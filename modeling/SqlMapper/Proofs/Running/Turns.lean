import Mathlib.Data.List.Basic
import SqlMapper.Running.Session

/-!
# What the turns of a session say

The turns of a session say which executor is bound after each of them (`Session.holder`), which calls were made while it
was bound, and which of these were awaited: their statements are owed to the executor (`Session.owed`). A turn fits if
it is answered for the executor that is bound by the turns before it (`Session.Turn.Fits`). Where all turns fit,
executors are bound and released in alternation (`Session.alternates_of_fits`).
-/

namespace SqlMapper.Session

namespace Turn

/-- The bound executor after a turn. -/
def after (holder : Option Handle) : Turn → Option Handle
  | bind (.ok handle) => some handle
  | unbind (.ok _) => none
  | _ => holder

/-- A call that is made while the given executor is bound. -/
def made? (holder : Option Handle) : Turn → Option (Option Handle × Command)
  | call command => some (holder, command)
  | _ => none

/-- The call that is awaited. -/
def awaited? : Turn → Option Nat
  | await k (some _) => some k
  | _ => none

/-- No executor is bound, and no call is made or awaited. -/
def IsQuiet : Turn → Prop
  | bind (.ok _) | call _ | await _ (some _) => False
  | _ => True

namespace IsQuiet

variable {turn : Turn} {bound : Option Handle} {handle : Handle}

theorem awaited?_eq_none (h : turn.IsQuiet) : turn.awaited? = none := by
  cases turn with
  | await k item =>
    cases item with
    | none => rfl
    | some item => exact h.elim
  | _ => rfl

theorem made?_eq_none (h : turn.IsQuiet) : turn.made? bound = none := by
  cases turn with
  | call command => exact h.elim
  | _ => rfl

theorem ne_bind (h : turn.IsQuiet) : turn ≠ bind (.ok handle) := by
  rintro rfl
  exact h

/-- Whoever is bound after a quiet turn was bound before it. -/
theorem bound_of_after (h : turn.IsQuiet) (ha : turn.after bound = some handle) : bound = some handle := by
  cases turn with
  | bind result =>
    cases result with
    | ok handle => exact h.elim
    | error e => exact ha
  | unbind result =>
    cases result with
    | ok handle => cases ha
    | error e => exact ha
  | _ => exact ha

end IsQuiet

end Turn

/-- The bound executor after some turns. -/
def holder (turns : List Turn) : Option Handle := turns.foldl Turn.after none

/-- The calls that are made in turns that begin with the given executor bound, with the one that is bound then. -/
def madeFrom : Option Handle → List Turn → List (Option Handle × Command)
  | _, [] => []
  | bound, turn :: turns => (turn.made? bound).toList ++ madeFrom (turn.after bound) turns

/-- The calls that were made, each with the executor that was bound then. -/
def made (turns : List Turn) : List (Option Handle × Command) := madeFrom none turns

/-- The calls that were awaited, each once, in the order in which they were awaited first. -/
def awaited (turns : List Turn) : List Nat := (turns.filterMap Turn.awaited?).eraseDups

/-- The statement of a call that is meant for the executor. -/
def commandFor (handle : Handle) : Option Handle × Command → Option Command
  | (target, command) => if target = some handle then some command else none

/-- The statements of the awaited calls that were made while the executor was bound. -/
def owed (turns : List Turn) (handle : Handle) : List Command :=
  (awaited turns).filterMap fun k => (made turns)[k]?.bind (commandFor handle)

/-! ### Turn by turn -/

section Turns

variable {turns : List Turn} {turn : Turn} {handle : Handle}

@[simp] theorem holder_concat : holder (turns ++ [turn]) = turn.after (holder turns) := by
  rw [holder, List.foldl_append]
  rfl

theorem madeFrom_concat : ∀ {turns : List Turn} {bound : Option Handle},
    madeFrom bound (turns ++ [turn]) = madeFrom bound turns ++ (turn.made? (turns.foldl Turn.after bound)).toList
  | [], bound => by simp [madeFrom]
  | first :: turns, bound => by
    rw [List.cons_append, madeFrom, madeFrom, madeFrom_concat, List.append_assoc, List.foldl_cons]

@[simp] theorem made_concat : made (turns ++ [turn]) = made turns ++ (turn.made? (holder turns)).toList :=
  madeFrom_concat

/-- A turn that awaits no call leaves the awaited calls as they are. -/
theorem awaited_concat_of_none (h : turn.awaited? = none) : awaited (turns ++ [turn]) = awaited turns := by
  rw [awaited, List.filterMap_append, List.filterMap_cons_none h, List.filterMap_nil, List.append_nil, awaited]

/-- A call that was awaited before is not counted again. -/
theorem awaited_concat_await {k : Nat} {item : Item} : awaited (turns ++ [Turn.await k (some item)]) =
    if k ∈ awaited turns then awaited turns else awaited turns ++ [k] := by
  have hfilter :
      (turns ++ [Turn.await k (some item)]).filterMap Turn.awaited? = turns.filterMap Turn.awaited? ++ [k] := by
    rw [List.filterMap_append]
    rfl
  rw [awaited, hfilter, List.eraseDups_append, ← awaited]
  simp only [awaited, List.mem_eraseDups, List.removeAll, List.filter_cons, List.filter_nil, List.elem_eq_mem]
  by_cases hk : k ∈ turns.filterMap Turn.awaited?
  · simp [hk]
  · simp [hk, List.eraseDups_cons]

theorem mem_awaited_concat_await {j k : Nat} {item : Item} :
    j ∈ awaited (turns ++ [.await k (some item)]) ↔ j ∈ awaited turns ∨ j = k := by
  rw [awaited_concat_await]
  split
  · next hk => exact ⟨.inl, fun h => h.elim id fun he => he ▸ hk⟩
  · rw [List.mem_append, List.mem_singleton]

/-- Turns in which nothing is called or awaited leave it at what is owed. -/
theorem owed_concat_of_none (ha : turn.awaited? = none) (hm : ∀ bound, turn.made? bound = none) :
    owed (turns ++ [turn]) handle = owed turns handle := by
  rw [owed, awaited_concat_of_none ha, made_concat, hm, Option.toList_none, List.append_nil, owed]

/-- A call that was only made is not owed yet. -/
theorem owed_concat_call {command : Command} (h : ∀ k ∈ awaited turns, k < (made turns).length) :
    owed (turns ++ [.call command]) handle = owed turns handle := by
  rw [owed, awaited_concat_of_none rfl, made_concat, owed]
  refine List.filterMap_congr fun k hk => ?_
  rw [List.getElem?_append_left (h k hk)]

/-- A call that is awaited for the first time is owed from then on. -/
theorem owed_concat_await {k : Nat} {item : Item} : owed (turns ++ [.await k (some item)]) handle =
    owed turns handle ++ if k ∈ awaited turns then [] else ((made turns)[k]?.bind (commandFor handle)).toList := by
  have hmade : made (turns ++ [.await k (some item)]) = made turns := by
    rw [made_concat]
    exact List.append_nil _
  rw [owed, awaited_concat_await, hmade]
  split
  · rw [List.append_nil, owed]
  · rw [List.filterMap_append, ← owed]
    cases h : (made turns)[k]?.bind (commandFor handle) with
    | none => simp [h]
    | some command => simp [h]

end Turns

/-! ## Answers for the bound executor -/

/-- A bound executor, or else the refusal. -/
def held (bound : Option Handle) (refusal : BindingFault) : Result Handle :=
  match bound with
  | some handle => .ok handle
  | none => .error ⟨.binding refusal, []⟩

/-- The turn is answered for the executor that is bound by the turns before it. -/
def Turn.Fits (before : List Turn) : Turn → Prop
  | bind result =>
    match holder before with
    | some _ => result = .error ⟨.binding .alreadyBound, []⟩
    | none => ∃ handle, result = .ok handle
  | unbind result => result = held (holder before) .notBound
  | current result => result = held (holder before) .unbound
  | isBound answer => answer = (holder before).isSome
  | call _ => True
  | await k none => (made before)[k]? = none
  | await k (some item) => ∃ bound command, (made before)[k]? = some (bound, command) ∧
      (bound = none → k ∉ awaited before → item = .fault ⟨.binding .unbound, []⟩)

/-- An executor is bound or released. -/
inductive Shift where
  | bound (handle : Handle)
  | released (handle : Handle)

/-- What a turn changes about who is bound. -/
def Turn.shift? : Turn → Option Shift
  | bind (.ok handle) => some (.bound handle)
  | unbind (.ok handle) => some (.released handle)
  | _ => none

/-- An executor is bound first, and each one is released before the next one is bound. -/
def Alternates : List Shift → Prop
  | [] => True
  | [.bound _] => True
  | .bound handle :: .released handle' :: rest => handle' = handle ∧ Alternates rest
  | _ => False

/-- Turns that fit alternate: behind a bound executor comes its release. -/
theorem alternates_of_fits : ∀ (rest before : List Turn),
    (∀ before' turn, before' ++ [turn] <+: before ++ rest → turn.Fits before') →
      Alternates ((holder before).toList.map Shift.bound ++ rest.filterMap Turn.shift?)
  | [], before, _ => by
    cases holder before with
    | none => trivial
    | some handle => trivial
  | turn :: rest, before, h => by
    have hfits : turn.Fits before := h before turn ⟨rest, by simp⟩
    have ih : Alternates ((turn.after (holder before)).toList.map Shift.bound ++ rest.filterMap Turn.shift?) := by
      rw [← holder_concat]
      refine alternates_of_fits rest (before ++ [turn]) fun before' turn' hp => h before' turn' ?_
      rwa [List.append_assoc, List.singleton_append] at hp
    cases turn with
    | bind result =>
      unfold Turn.Fits at hfits
      cases hb : holder before with
      | none =>
        rw [hb] at hfits
        obtain ⟨handle, rfl⟩ := hfits
        exact ih
      | some handle =>
        rw [hb] at hfits ih
        obtain rfl : result = _ := hfits
        exact ih
    | unbind result =>
      obtain rfl : result = held (holder before) .notBound := hfits
      cases hb : holder before with
      | none =>
        rw [hb] at ih
        exact ih
      | some handle =>
        rw [hb] at ih
        exact ⟨rfl, ih⟩
    | current result => exact ih
    | isBound answer => exact ih
    | call command => exact ih
    | await k item => exact ih

end SqlMapper.Session
