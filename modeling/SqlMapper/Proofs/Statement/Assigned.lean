import Mathlib.Data.List.Forall2
import Mathlib.Data.List.Nodup
import SqlMapper.Proofs.Ordered
import SqlMapper.Proofs.Rendering.Piece
import SqlMapper.Proofs.Result
import SqlMapper.Proofs.Statement.Query
import SqlMapper.Proofs.Table.WellFormed

/-!
# Assigned columns

What an update comes to after any sequence of calls (`Update.holds_of_runAll`): it assigns what an ordered map of the
assignments holds that were asked for, so each column once, in the order in which the attributes came first and each
with the operand that came last. No call assigns a numbered key (`Table.Assigns.unnumbered`). The statement lists just
these assignments (`Update.sql_of_render`).
-/

namespace SqlMapper

variable {t : Table}

/-! ## Calls -/

namespace Update

/-- What an application asks of an update. -/
inductive Call where
  | set (attr : String) (v : Value)
  | setAll (pairs : List (String × Value))
  | setExpr (attr : String) (value : Operand)
  | filter (condition : Expr)

/-- Serves a call. -/
def Call.run (u : Update) : Call → Result Update
  | set attr v => u.set attr v
  | setAll pairs => u.setAll pairs
  | setExpr attr value => u.assign attr value
  | filter condition => .ok { u with filter := some condition }

/-- Serves calls one after the other. -/
def runAll (u : Update) : List Call → Result Update
  | [] => .ok u
  | call :: rest => do (← call.run u).runAll rest

/-- The assignments that a call asks for. -/
def Call.assignments : Call → List (String × Operand)
  | set attr v => [(attr, .value v)]
  | setAll pairs => pairs.map fun p => (p.1, .value p.2)
  | setExpr attr value => [(attr, value)]
  | filter _ => []

/-- The assignments that calls ask for, in order. -/
def history (calls : List Call) : List (String × Operand) := calls.flatMap Call.assignments

end Update

/-! ## Assignments -/

/-- The assignment is to the column of the attribute, which the server does not number. -/
structure Table.Assigns (t : Table) (p : String × Operand) (a : Field × Operand) : Prop where
  field : t.fields.get? p.1 = some a.1
  unnumbered : a.1.isAutoIncrement = false
  value : a.2 = p.2

/-- The column shows the attribute. -/
theorem Table.Assigns.attributeOf {p : String × Operand} {a : Field × Operand} (ht : t.WellFormed)
    (h : t.Assigns p a) : t.attributeOf a.1.name = some p.1 :=
  (ht.attributeOf _ _).2 ⟨a.1, h.field, rfl⟩

/-- Two attributes have one column if they are one. -/
theorem Table.Assigns.name_eq_iff {p : String × Operand} {a : Field × Operand} {attr : String} {f : Field}
    (ht : t.WellFormed) (h : t.Assigns p a) (hf : t.fields.get? attr = some f) : a.1.name = f.name ↔ p.1 = attr := by
  have hattr : t.attributeOf f.name = some attr := (ht.attributeOf _ _).2 ⟨f, hf, rfl⟩
  constructor
  · intro hn
    rw [← hn, h.attributeOf ht] at hattr
    exact Option.some.inj hattr
  · rintro rfl
    rw [Option.some.inj (h.field.symm.trans hf)]

namespace Update

variable {u u' : Update} {m : Ordered Operand} {attr : String} {f : Field} {value : Operand}
variable {pairs : List (String × Operand)} {assignments : List (Field × Operand)}

/-- A further assignment to a column takes the place of the earlier one. -/
theorem forall₂_assigned_of_mem (ht : t.WellFormed) (hf : t.fields.get? attr = some f)
    (h : List.Forall₂ t.Assigns pairs assignments) (hn : (pairs.map Prod.fst).Nodup)
    (hm : attr ∈ pairs.map Prod.fst) :
    List.Forall₂ t.Assigns (Ordered.replaced attr value pairs) (assigned f value assignments) := by
  induction h with
  | nil => exact absurd hm List.not_mem_nil
  | @cons p a pairs assignments hp hrest ih =>
    obtain ⟨hfresh, hn⟩ := List.nodup_cons.1 hn
    have hname := hp.name_eq_iff ht hf
    rw [Ordered.replaced, List.map_cons, ← Ordered.replaced, assigned]
    by_cases h : p.1 = attr
    · subst h
      rw [if_pos rfl, if_pos (hname.2 rfl), Ordered.replaced_of_notMem hfresh]
      exact .cons ⟨hp.field, hp.unnumbered, rfl⟩ hrest
    · rw [if_neg h, if_neg (mt hname.1 h)]
      exact .cons hp (ih hn ((List.mem_cons.1 hm).resolve_left (Ne.symm h)))

/-- A first assignment to a column comes last. -/
theorem forall₂_assigned_of_notMem (ht : t.WellFormed) (hf : t.fields.get? attr = some f)
    (hu : f.isAutoIncrement = false) (h : List.Forall₂ t.Assigns pairs assignments)
    (hm : attr ∉ pairs.map Prod.fst) :
    List.Forall₂ t.Assigns (pairs ++ [(attr, value)]) (assigned f value assignments) := by
  induction h with
  | nil => exact .cons ⟨hf, hu, rfl⟩ .nil
  | @cons p a pairs assignments hp hrest ih =>
    rw [List.map_cons, List.mem_cons, not_or] at hm
    rw [List.cons_append, assigned, if_neg (mt (hp.name_eq_iff ht hf).1 (Ne.symm hm.1))]
    exact .cons hp (ih hm.2)

/-- The update is one of the table, and assigns what the map holds. -/
structure Holds (t : Table) (m : Ordered Operand) (u : Update) : Prop where
  table : u.table = t
  assignments : List.Forall₂ t.Assigns m.pairs u.assignments

/-- An assignment is a write to the map. -/
theorem Holds.assign (ht : t.WellFormed) (h : u.Holds t m) (hu : u.assign attr value = .ok u') :
    u'.Holds t (m.insert attr value) := by
  obtain ⟨rfl, hassigned⟩ := h
  obtain ⟨f, hf, hu⟩ := Result.bind_eq_ok.1 hu
  have hget : u.table.fields.get? attr = some f := by
    unfold Table.field at hf
    split at hf
    · next g hg => rw [hg, Except.ok.inj hf]
    · cases hf
  cases hnumbered : f.isAutoIncrement with
  | true =>
    rw [hnumbered, if_pos rfl] at hu
    cases hu
  | false =>
    rw [hnumbered, if_neg (by decide)] at hu
    obtain rfl := Except.ok.inj hu
    refine ⟨rfl, ?_⟩
    by_cases hm : attr ∈ m.keys
    · rw [Ordered.pairs_insert_of_mem hm]
      exact forall₂_assigned_of_mem ht hget hassigned m.nodup hm
    · rw [Ordered.pairs_insert_of_notMem hm]
      exact forall₂_assigned_of_notMem ht hget hnumbered hassigned hm

theorem Holds.setAll (ht : t.WellFormed) : ∀ {pairs : List (String × Value)} {u u' : Update} {m : Ordered Operand},
    u.Holds t m → u.setAll pairs = .ok u' → u'.Holds t (m.insertAll (pairs.map fun p => (p.1, .value p.2)))
  | [], _, _, _, h, hu => by
    obtain rfl := Except.ok.inj hu
    exact h
  | (attr, v) :: pairs, _, _, _, h, hu => by
    obtain ⟨_, hset, hu⟩ := Result.bind_eq_ok.1 hu
    have hrest := (h.assign ht hset).setAll ht hu
    exact hrest

/-- A call is a write to the map for each assignment that it asks for. -/
theorem Holds.run (ht : t.WellFormed) (h : u.Holds t m) {call : Call} (hu : call.run u = .ok u') :
    u'.Holds t (m.insertAll call.assignments) := by
  cases call with
  | set attr v => exact h.assign ht hu
  | setAll pairs => exact h.setAll ht hu
  | setExpr attr value => exact h.assign ht hu
  | filter condition =>
    obtain rfl := Except.ok.inj hu
    exact ⟨h.table, h.assignments⟩

theorem Holds.runAll (ht : t.WellFormed) : ∀ {calls : List Call} {u u' : Update} {m : Ordered Operand},
    u.Holds t m → u.runAll calls = .ok u' → u'.Holds t (m.insertAll (history calls))
  | [], _, _, _, h, hu => by
    obtain rfl := Except.ok.inj hu
    exact h
  | call :: calls, _, _, _, h, hu => by
    obtain ⟨_, hcall, hu⟩ := Result.bind_eq_ok.1 hu
    have hrest := (h.run ht hcall).runAll ht hu
    rw [history, List.flatMap_cons, Ordered.insertAll_append]
    exact hrest

/-- By induction over the calls, an update holds what they ask for. -/
theorem holds_of_runAll (ht : t.WellFormed) {calls : List Call}
    (hu : ({ table := t } : Update).runAll calls = .ok u) : u.Holds t (.ofList (history calls)) :=
  Holds.runAll ht ⟨rfl, .nil⟩ hu

/-! ## Columns -/

/-- The columns that are assigned. -/
def columns (u : Update) : List String := u.assignments.map (·.1.name)

/-- Each column is that of an attribute of its own. -/
theorem Holds.nodup_columns (ht : t.WellFormed) (h : u.Holds t m) : u.columns.Nodup := by
  have hattrs : u.columns.map t.attributeOf = m.keys.map some := by
    rw [columns, List.map_map, Ordered.keys, List.map_map, ← List.forall₂_eq_eq_eq, List.forall₂_map_left_iff,
      List.forall₂_map_right_iff]
    exact h.assignments.flip.imp fun _ _ hp => hp.attributeOf ht
  refine List.Nodup.of_map t.attributeOf ?_
  rw [hattrs]
  exact m.nodup.map fun _ _ => Option.some.inj

/-- Every assignment is to the column of an attribute, which the server does not number. -/
theorem Holds.exists_assigns (h : u.Holds t m) {a : Field × Operand} (ha : a ∈ u.assignments) :
    ∃ p ∈ m.pairs, t.Assigns p a :=
  Result.exists_of_mem h.assignments ha

/-! ## The statement -/

/-- The list of assignments as it is written. -/
def setList (u : Update) : String :=
  Text.commaSeparated (u.assignments.map fun a =>
    Literal.identifier a.1.name ++ "=" ++ (Operand.piece { converter := some a.1 } a.2).text)

/-- The statement lists the assignments in order, and its condition follows. -/
theorem sql_of_render {q : Query} (h : u.render = .ok q) : q.sql = Query.terminated
    ("UPDATE " ++ u.table.ref.text ++ " SET " ++ u.setList ++ (Expr.clause {} " WHERE " u.filter).text) := by
  obtain ⟨hok, rfl⟩ := Query.ofPiece_eq_ok_iff.1 (render_eq_ok h)
  have hset := (Piece.append_failure_eq_none.1 hok).1
  have hassigned := (Piece.append_failure_eq_none.1 hset).2
  rw [piece_eq] at hok ⊢
  dsimp only
  rw [Piece.append_text hok, Piece.append_text hset,
    Piece.separated_of_ok (Piece.separated_failure_eq_none.1 hassigned), List.map_map]
  have htexts : (u.assignments.map (Piece.text ∘ fun a => assignment a.1 a.2)) = u.assignments.map fun a =>
      Literal.identifier a.1.name ++ "=" ++ (Operand.piece { converter := some a.1 } a.2).text :=
    List.map_congr_left fun a _ => congrArg Piece.text (Piece.append_of_ok rfl)
  rw [htexts]
  rfl

end Update

end SqlMapper
