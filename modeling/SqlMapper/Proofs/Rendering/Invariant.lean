import SqlMapper.Proofs.Rendering.Options
import SqlMapper.Proofs.Rendering.Spelling

/-!
# Invariants of pieces

Rendering composes pieces of placeholders, names, numbers, verbatim texts and a few fixed texts (`Piece.keywords`). What
these have and every composition keeps (`Piece.Invariant`), the piece of an expression has (`Expr.piece_invariant`),
and so has the piece of a statement that reads or changes rows and is no insert.
-/

namespace SqlMapper

open Piece

theorem BinaryOp.mem_all (op : BinaryOp) : op ∈ BinaryOp.all := by cases op <;> decide

namespace Piece

/-- The words and signs of clauses. -/
def clauseTexts : List String :=
  ["", ", ", ".", "=", "NULL", "-", "NOT ", "EXISTS ", "NOT EXISTS ", " IS NULL", " IS NOT NULL", " BETWEEN ",
    " NOT BETWEEN ", " AND ", " ASC", " DESC", " AS ", "SELECT ", "SELECT DISTINCT ", " FROM ", " JOIN ", " LEFT JOIN ",
    " ON ", " WHERE ", " GROUP BY ", " HAVING ", " ORDER BY ", " LIMIT ", " OFFSET ", "UPDATE ", " SET ",
    "DELETE FROM "]

/-- The texts that stand between operands and around names, whatever is rendered. -/
def keywords : List String := clauseTexts ++ BinaryOp.all.map fun op => " " ++ op.symbol ++ " "

/-- What the pieces of placeholders, names and texts have, and those of refused values, and composition keeps. -/
structure Invariant (r : Spelling) (P : Piece → Prop) : Prop where
  append {a b : Piece} : P a → P b → P (a ++ b)
  inParens {p : Piece} : P p → P p.inParens
  call {function : String} {args : Piece} (distinct : Bool) : r.verbatim function → P args →
    P (ofText (function ++ "(" ++ if distinct then "DISTINCT " else "") ++ args ++ ofText ")")
  placeholder (v : Value) : P (placeholder v)
  failed {f : Field} {v : Value} {e : Error} : f.toWire v = .error e → P (failed e)
  keyword {s : String} : s ∈ keywords → P (ofText s)
  identifier {s : String} : r.name s → P (ofText (Literal.identifier s))
  verbatim {s : String} : r.verbatim s → P (ofText s)
  number (n : Nat) : P (ofText (Nat.repr n))

theorem ofText_append (s t : String) : ofText (s ++ t) = ofText s ++ ofText t := rfl

namespace Invariant

variable {r : Spelling} {P : Piece → Prop}

/-- Texts one after the other. -/
theorem text (h : Invariant r P) {s t : String} (hs : P (ofText s)) (ht : P (ofText t)) : P (ofText (s ++ t)) := by
  rw [ofText_append]
  exact h.append hs ht

theorem nothing (h : Invariant r P) : P nothing := h.keyword (by decide)

theorem separated (h : Invariant r P) : ∀ {ps : List Piece}, (∀ p ∈ ps, P p) → P (separated ps)
  | [], _ => h.nothing
  | [p], hp => hp p List.mem_cons_self
  | p :: q :: ps, hp => by
    rw [separated_cons_cons]
    have ih := h.separated fun s hs => hp s (List.mem_cons_of_mem _ hs)
    exact h.append (h.append (hp p List.mem_cons_self) (h.keyword (by decide))) ih

/-- A bound value, whatever its conversion comes to. -/
theorem value (h : Invariant r P) {o : Options} (hb : o.bind = true) (v : Value) : P (o.value v) := by
  cases hc : o.converted v with
  | error e =>
    obtain ⟨f, hf⟩ := Options.exists_toWire_of_error hc
    rw [Options.value_of_error hc]
    exact h.failed hf
  | ok w =>
    rw [Options.value_of_ok hc]
    unfold Options.placed
    rw [if_pos hb]
    split
    · apply h.separated
      intro p hp
      obtain ⟨item, -, rfl⟩ := List.mem_map.1 hp
      exact h.placeholder item
    · exact h.placeholder _

theorem commaSeparated (h : Invariant r P) : ∀ {items : List String}, (∀ s ∈ items, P (ofText s)) →
    P (ofText (Text.commaSeparated items))
  | [], _ => h.nothing
  | [s], hs => by
    rw [Text.commaSeparated_singleton]
    exact hs s List.mem_cons_self
  | s :: t :: items, hs => by
    have ih := h.commaSeparated fun u hu => hs u (List.mem_cons_of_mem _ hu)
    rw [Text.commaSeparated_cons_cons]
    exact h.text (h.text (hs s List.mem_cons_self) (h.keyword (by decide))) ih

theorem tableRef (h : Invariant r P) {t : TableRef} (ht : t.Spelled r) : P (ofText t.text) := by
  obtain ⟨hdb, hn⟩ := ht
  unfold TableRef.text
  refine h.text ?_ (h.identifier hn)
  cases hd : t.db with
  | none => exact h.nothing
  | some db => exact h.text (h.identifier (hdb db hd)) (h.keyword (by decide))

theorem column (h : Invariant r P) {c : Column} (hc : c.Spelled r) (qualify : Bool) : P (ofText (c.written qualify)) := by
  unfold Column.written
  refine h.text ?_ (h.identifier hc.2)
  split
  · exact h.text (h.tableRef hc.1) (h.keyword (by decide))
  · exact h.nothing

theorem operator (h : Invariant r P) (op : BinaryOp) : P (ofText (" " ++ op.symbol ++ " ")) :=
  h.keyword (List.mem_append_right _ (List.mem_map_of_mem op.mem_all))

theorem limitClause (h : Invariant r P) (limit offset : Option Nat) : P (limitClause limit offset) := by
  unfold SqlMapper.limitClause
  cases limit with
  | none => exact h.nothing
  | some n =>
    refine h.text (h.text (h.keyword (by decide)) (h.number n)) ?_
    cases offset with
    | none => exact h.nothing
    | some m => exact h.text (h.keyword (by decide)) (h.number m)

end Invariant

end Piece

section Expressions

variable {r : Spelling} {P : Piece → Prop}

mutual

/-- **An invariant of pieces holds of every expression** that obeys the spelling, in a scope that binds values. -/
theorem Expr.piece_invariant (inv : Invariant r P) : ∀ {o : Options} {e : Expr}, o.bind = true → e.Spelled r →
    P (e.piece o)
  | o, .column _, _, h => inv.column h o.qualify
  | _, .raw _, _, h => inv.verbatim h
  | _, .call _ distinct _, hb, h => by
    rw [Expr.piece]
    refine inv.call distinct h.1 (inv.separated ?_)
    apply Operand.pieces_invariant inv _ h.2
    exact hb
  | _, .binary op _ rhs, hb, h => by
    rw [Expr.piece]
    refine inv.inParens (inv.append (inv.append (Operand.piece_invariant inv hb h.1) (inv.operator op)) ?_)
    split
    · exact Operand.piece_invariant inv hb h.2
    · split
      · exact inv.keyword (by decide)
      · exact Operand.piece_invariant inv hb h.2
  | _, .unary op _, hb, h => by
    cases op with
    | negative | not | «exists» | notExists =>
      rw [Expr.piece]
      exact inv.inParens (inv.append (inv.keyword (by decide)) (Operand.piece_invariant inv hb h))
    | isNull | isNotNull =>
      rw [Expr.piece]
      exact inv.inParens (inv.append (Operand.piece_invariant inv hb h) (inv.keyword (by decide)))
  | _, .between negated _ _ _, hb, h => by
    obtain ⟨hoperand, hlow, hhigh⟩ := h
    rw [Expr.piece]
    refine inv.inParens (inv.append (inv.append (inv.append (inv.append ?_ ?_) ?_) (inv.keyword (by decide))) ?_)
    · exact Operand.piece_invariant inv hb hoperand
    · cases negated <;> exact inv.keyword (by decide)
    · exact Operand.piece_invariant inv hb hlow
    · exact Operand.piece_invariant inv hb hhigh
  | _, .ordered _ order, hb, h => by
    cases order <;> rw [Expr.piece] <;>
    · refine inv.append (Expr.piece_invariant inv hb h) ?_
      exact inv.keyword (by decide)
  | _, .aliased _ _, hb, h => by
    rw [Expr.piece]
    exact inv.append (Expr.piece_invariant inv hb h.1) (inv.text (inv.keyword (by decide)) (inv.identifier h.2))
  | _, .select _, _, h => by
    rw [Expr.piece]
    exact inv.inParens (Select.piece_invariant inv h)

theorem Operand.piece_invariant (inv : Invariant r P) : ∀ {o : Options} {a : Operand}, o.bind = true → a.Spelled r →
    P (Operand.piece o a)
  | _, .value v, hb, _ => inv.value hb v
  | _, .expr _, hb, h => Expr.piece_invariant inv hb h
  | _, .raw _, _, h => inv.verbatim h

theorem Operand.pieces_invariant (inv : Invariant r P) : ∀ {o : Options} {args : List Operand}, o.bind = true →
    Operand.SpelledAll r args → ∀ p ∈ Operand.pieces o args, P p
  | _, [], _, _, _, hp => absurd hp List.not_mem_nil
  | _, _ :: _, hb, h, p, hp => by
    rcases List.mem_cons.1 hp with rfl | hp
    · exact Operand.piece_invariant inv hb h.1
    · exact Operand.pieces_invariant inv hb h.2 p hp

theorem Expr.pieces_invariant (inv : Invariant r P) : ∀ {o : Options} {es : List Expr}, o.bind = true →
    Expr.SpelledAll r es → ∀ p ∈ Expr.pieces o es, P p
  | _, [], _, _, _, hp => absurd hp List.not_mem_nil
  | _, _ :: _, hb, h, p, hp => by
    rcases List.mem_cons.1 hp with rfl | hp
    · exact Expr.piece_invariant inv hb h.1
    · exact Expr.pieces_invariant inv hb h.2 p hp

theorem Expr.clause_invariant (inv : Invariant r P) : ∀ {o : Options} {keyword : String} {e : Option Expr},
    o.bind = true → keyword ∈ keywords → Expr.SpelledIn r e → P (Expr.clause o keyword e)
  | _, _, none, _, _, _ => inv.nothing
  | _, _, some _, hb, hk, h => inv.append (inv.keyword hk) (Expr.piece_invariant inv hb h)

theorem Join.pieces_invariant (inv : Invariant r P) : ∀ {o : Options} {joins : List Join}, o.bind = true →
    Join.SpelledAll r joins → P (Join.pieces o joins)
  | _, [], _, _ => inv.nothing
  | _, .mk kind _ _ :: _, hb, h => by
    obtain ⟨htable, hcondition, hrest⟩ := h
    cases kind <;> rw [Join.pieces] <;>
    · refine inv.append (inv.append ?_ (Expr.piece_invariant inv hb hcondition)) (Join.pieces_invariant inv hb hrest)
      exact inv.text (inv.text (inv.keyword (by decide)) (inv.tableRef htable)) (inv.keyword (by decide))

/-- A select binds its values whatever stands around it. -/
theorem Select.piece_invariant (inv : Invariant r P) : ∀ {o : Options} {s : Select}, s.Spelled r → P (s.piece o)
  | _, ⟨table, columns, distinct, joins, filter, groupBy, having, orderBy, limit, offset, _, _⟩, h => by
    obtain ⟨htable, hcolumns, hjoins, hfilter, hgroup, hhaving, horder⟩ := h
    rw [Select.piece]
    refine inv.append (inv.append (inv.append (inv.append (inv.append (inv.append (inv.append (inv.append ?_ ?_) ?_)
      (Join.pieces_invariant inv rfl hjoins)) ?_) ?_) ?_) ?_) (inv.limitClause limit offset)
    · cases distinct <;> exact inv.keyword (by decide)
    · split
      · apply inv.commaSeparated
        intro s hs
        obtain ⟨c, hc, rfl⟩ := List.mem_map.1 hs
        obtain ⟨⟨attr, f⟩, hp, rfl⟩ := List.mem_map.1 hc
        exact inv.column (c := ⟨table.ref, attr, f⟩) ⟨htable.1, htable.2 _ hp⟩ _
      · apply inv.separated
        exact Expr.pieces_invariant inv rfl hcolumns
    · exact inv.text (inv.keyword (by decide)) (inv.tableRef htable.1)
    · exact Expr.clause_invariant inv rfl (by decide) hfilter
    · split
      · exact inv.nothing
      · refine inv.append (inv.keyword (by decide)) (inv.separated ?_)
        exact Expr.pieces_invariant inv rfl hgroup
    · exact Expr.clause_invariant inv rfl (by decide) hhaving
    · split
      · exact inv.nothing
      · refine inv.append (inv.keyword (by decide)) (inv.separated ?_)
        exact Expr.pieces_invariant inv rfl horder

end

theorem Update.piece_invariant (inv : Invariant r P) {u : Update} (htable : u.table.ref.Spelled r)
    (hset : ∀ a ∈ u.assignments, r.name a.1.name ∧ a.2.Spelled r) (hfilter : Expr.SpelledIn r u.filter) :
    P u.piece := by
  unfold piece
  refine inv.append (inv.append ?_ (inv.separated ?_)) (Expr.clause_invariant inv rfl (by decide) hfilter)
  · exact inv.text (inv.text (inv.keyword (by decide)) (inv.tableRef htable)) (inv.keyword (by decide))
  · intro p hp
    obtain ⟨⟨f, value⟩, ha, rfl⟩ := List.mem_map.1 hp
    obtain ⟨hf, hv⟩ := hset _ ha
    refine inv.append ?_ (Operand.piece_invariant inv rfl hv)
    exact inv.text (inv.identifier hf) (inv.keyword (by decide))

theorem Delete.piece_invariant (inv : Invariant r P) {d : Delete} (htable : d.table.ref.Spelled r)
    (hfilter : Expr.SpelledIn r d.filter) : P d.piece := by
  unfold piece
  refine inv.append (inv.append ?_ (Expr.clause_invariant inv rfl (by decide) hfilter)) (inv.limitClause _ _)
  exact inv.text (inv.keyword (by decide)) (inv.tableRef htable)

end Expressions

end SqlMapper
