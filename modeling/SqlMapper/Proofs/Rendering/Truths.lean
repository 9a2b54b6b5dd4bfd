import SqlMapper.Proofs.Field.RoundTrip
import SqlMapper.Proofs.Rendering.Literals

/-!
# Truth values

A comparison, a test or a junction of conditions has a truth value, whatever it is made of (`Expr.IsTruth`). A literal
beside it is left as it is given where no column reaches it from within (`Expr.IsTruth.leavesLiterals_iff`). Junctions,
negations, tests and ranges shut their columns in. A comparison does not: the column that converts its own operands is
handed on to whatever the comparison is an operand of (`isAnn_refuses_true`).
-/

namespace SqlMapper

open Piece

/-- The operator compares its operands, and so gives a truth value. -/
def BinaryOp.isComparison : BinaryOp → Bool
  | multiplication | division | remainder | addition | subtraction | bitwiseAnd | bitwiseOr | bitwiseXor => false
  | and | or => false
  | _ => true

/-- The value of the expression is a truth value, by the operator at its root. -/
inductive Expr.IsTruth : Expr → Prop
  | comparison {op : BinaryOp} {lhs rhs : Operand} : op.isComparison = true → IsTruth (.binary op lhs rhs)
  | junction {op : BinaryOp} {lhs rhs : Operand} : op.isLogical = true → IsTruth (.binary op lhs rhs)
  | test {op : UnaryOp} {arg : Operand} : op ≠ .negative → IsTruth (.unary op arg)
  | range {negated : Bool} {operand low high : Operand} : IsTruth (.between negated operand low high)

/-- The column stands in the expression with nothing around it but operators that are no junctions, minus signs, orders
and labels. -/
inductive Expr.Exposes (c : Column) : Expr → Prop
  | column : Exposes c (.column c)
  | left {op : BinaryOp} {e : Expr} {rhs : Operand} : op.isLogical = false → Exposes c e →
      Exposes c (.binary op (.expr e) rhs)
  | right {op : BinaryOp} {lhs : Operand} {e : Expr} : op.isLogical = false → Exposes c e →
      Exposes c (.binary op lhs (.expr e))
  | negative {e : Expr} : Exposes c e → Exposes c (.unary .negative (.expr e))
  | ordered {e : Expr} {order : Order} : Exposes c e → Exposes c (.ordered e order)
  | aliased {e : Expr} {label : String} : Exposes c e → Exposes c (.aliased e label)

/-- The options of operands that no field converts. -/
def Options.plain (o : Options) : Options := { o with parenthesize := false, converter := none }

/-- The panic of a value that a scope has to write as a literal, and that has none. -/
def Options.unwritten (o : Options) (v : Value) : Option Error :=
  if o.bind || v.literal.isSome then none else some .outOfCalendar

/-- Literals on either side of an operator, or at the ends of a range, are placed as they are given when the expression
is what they are compared with. Nothing can fail then but the expression itself, or a literal that cannot be written. -/
structure Expr.LeavesLiterals (e : Expr) : Prop where
  right : ∀ (o : Options) (op : BinaryOp) (v : Value),
    Expr.piece o (.binary op (.expr e) (.value v)) = (Expr.piece o.plain e ++ ofText (" " ++ op.symbol ++ " ") ++
      if op.isNullTest && v.isNull then ofText "NULL"
      else { o with nested := op.isMembership || o.nested }.placed v).inParens
  left : ∀ (o : Options) (op : BinaryOp) (v : Value),
    Expr.piece o (.binary op (.value v) (.expr e)) = (o.placed v ++ ofText (" " ++ op.symbol ++ " ") ++
      Expr.piece { o.plain with nested := op.isMembership || o.nested } e).inParens
  ends : ∀ (o : Options) (negated : Bool) (low high : Value),
    Expr.piece o (.between negated (.expr e) (.value low) (.value high)) = (Expr.piece o.plain e ++
      ofText (if negated then " NOT BETWEEN " else " BETWEEN ") ++ o.placed low ++ ofText " AND " ++
      o.placed high).inParens

/-! ## The field of an expression -/

section

variable {c : Column} {e : Expr} {f : Field}

mutual

/-- The field of an expression is that of a column that it exposes. -/
theorem Expr.exists_exposed : ∀ {e : Expr}, e.field? = some f → ∃ c, e.Exposes c ∧ c.field = f
  | .column c, h => ⟨c, .column, Option.some.inj h⟩
  | .binary op lhs rhs, h => by
    rw [Expr.field?] at h
    cases hop : op.isLogical with
    | true =>
      rw [if_pos hop] at h
      cases h
    | false =>
      rw [hop, if_neg Bool.false_ne_true, Option.or_eq_some_iff] at h
      rcases h with h | ⟨-, h⟩
      · obtain ⟨e, c, rfl, hc, hf⟩ := Operand.exists_exposed h
        exact ⟨c, .left hop hc, hf⟩
      · obtain ⟨e, c, rfl, hc, hf⟩ := Operand.exists_exposed h
        exact ⟨c, .right hop hc, hf⟩
  | .unary op arg, h => by
    cases op with
    | negative =>
      rw [Expr.field?] at h
      obtain ⟨e, c, rfl, hc, hf⟩ := Operand.exists_exposed h
      exact ⟨c, .negative hc, hf⟩
    | _ => cases h
  | .ordered e _, h => by
    obtain ⟨c, hc, hf⟩ := Expr.exists_exposed (e := e) h
    exact ⟨c, .ordered hc, hf⟩
  | .aliased e _, h => by
    obtain ⟨c, hc, hf⟩ := Expr.exists_exposed (e := e) h
    exact ⟨c, .aliased hc, hf⟩
  | .raw _, h => by cases h
  | .call .., h => by cases h
  | .between .., h => by cases h
  | .select _, h => by cases h

theorem Operand.exists_exposed : ∀ {a : Operand}, Expr.operandField? a = some f →
    ∃ e c, a = .expr e ∧ e.Exposes c ∧ c.field = f
  | .expr e, h => by
    obtain ⟨c, hc, hf⟩ := Expr.exists_exposed (e := e) h
    exact ⟨e, c, rfl, hc, hf⟩
  | .value _, h => by cases h
  | .raw _, h => by cases h

end

/-- An expression that exposes a column has a field. -/
theorem Expr.Exposes.isSome_field? (h : e.Exposes c) : e.field?.isSome = true := by
  induction h with
  | column => rfl
  | left hop _ ih =>
    rw [Expr.field?, hop, if_neg Bool.false_ne_true, Option.isSome_or]
    exact Bool.or_eq_true_iff.2 (.inl ih)
  | right hop _ ih =>
    rw [Expr.field?, hop, if_neg Bool.false_ne_true, Option.isSome_or]
    exact Bool.or_eq_true_iff.2 (.inr ih)
  | negative _ ih | ordered _ ih | aliased _ ih => exact ih

theorem Expr.field?_eq_none_iff : e.field? = none ↔ ∀ c, ¬ e.Exposes c := by
  constructor
  · intro h c hc
    have hsome := hc.isSome_field?
    rw [h] at hsome
    cases hsome
  · intro h
    cases hf : e.field? with
    | none => rfl
    | some f =>
      obtain ⟨c, hc, -⟩ := Expr.exists_exposed hf
      exact absurd hc (h c)

/-! ## Literals beside an expression -/

/-- The first parameter of a piece that begins with a placeholder. -/
theorem Piece.head?_params_placeholder (w : Value) (s : String) (p : Piece) :
    (placeholder w ++ ofText s ++ p).inParens.params.head? = some w := by
  rw [append_assoc, append_of_ok rfl]
  rfl

/-- The operator beside a literal has the field of its other operand, if it is no junction. -/
theorem Expr.field?_of_none (h : e.field? = none) (op : BinaryOp) (v : Value) :
    Expr.field? (.binary op (.expr e) (.value v)) = none ∧ Expr.field? (.binary op (.value v) (.expr e)) = none := by
  have hoperand : Expr.operandField? (.expr e) = none := h
  have hvalue : Expr.operandField? (.value v) = none := rfl
  rw [Expr.field?, Expr.field?, hoperand, hvalue]
  cases op.isLogical <;> exact ⟨rfl, rfl⟩

theorem Expr.leavesLiterals_of_none (h : e.field? = none) : e.LeavesLiterals where
  right o op v := by
    rw [Expr.piece, (Expr.field?_of_none h op v).1, Operand.piece, Operand.piece, Operand.piece, Operand.isNull]
    cases hop : op.isMembership with
    | false => rfl
    | true =>
      have hnull : op.isNullTest = false := by cases op <;> first | rfl | cases hop
      rw [hnull]
      rfl
  left o op v := by
    have hisNull : (op.isNullTest && (Operand.expr e).isNull) = false := Bool.and_false _
    rw [Expr.piece, (Expr.field?_of_none h op v).2, hisNull, Operand.piece, Operand.piece, Operand.piece]
    cases op.isMembership <;> rfl
  ends o negated low high := by
    have hfield : (Operand.expr e).field? = none := h
    rw [Expr.piece, hfield, Operand.piece, Operand.piece, Operand.piece]
    rfl

/-- No column binds bytes. -/
theorem Field.toWire_bytes_ne {bs cs : List UInt8} : f.toWire (.bytes bs) ≠ .ok (.bytes cs) := by
  intro h
  rw [Field.toWire] at h
  have hbinds := Field.scalarToWire_binds h
  generalize f.kind = k at hbinds
  cases hbinds

/-- Bytes on the left of an equality show whether a field converts the literals beside the expression. -/
theorem Expr.LeavesLiterals.field? (h : e.LeavesLiterals) : e.field? = none := by
  cases hf : e.field? with
  | none => rfl
  | some f =>
    have hfield : Expr.field? (.binary .equal (.value (.bytes [])) (.expr e)) = some f := hf
    have hpiece : Expr.piece {} (.binary .equal (.value (.bytes [])) (.expr e)) =
        (Options.value { converter := some f } (.bytes []) ++ ofText " = " ++
          Expr.piece { converter := some f } e).inParens := by
      rw [Expr.piece, hfield]
      rfl
    have hleft := congrArg (·.params.head?) (hpiece.symm.trans (h.left {} .equal (.bytes [])))
    have hplaced : Options.placed {} (.bytes []) = placeholder (.bytes []) := rfl
    dsimp only at hleft
    rw [hplaced, head?_params_placeholder] at hleft
    cases hw : f.toWire (.bytes []) with
    | error err =>
      have hconverted : Options.converted { converter := some f } (.bytes []) = .error err := hw
      rw [Options.value_of_error hconverted] at hleft
      cases hleft
    | ok w =>
      rw [Options.value_of_toWire rfl rfl hw rfl, head?_params_placeholder, Option.some.injEq] at hleft
      exact absurd (hleft ▸ hw) Field.toWire_bytes_ne

theorem Options.placed_failure (o : Options) (v : Value) : (o.placed v).failure = o.unwritten v := by
  unfold unwritten
  cases hb : o.bind with
  | true => exact (placed_params hb v).1
  | false =>
    unfold placed
    rw [if_neg (hb ▸ Bool.false_ne_true)]
    cases v.literal with
    | none => rfl
    | some s => exact ofText_failure s

/-- A literal that is left as it is given cannot fail, if it can be written at all. -/
theorem Expr.LeavesLiterals.failure (h : e.LeavesLiterals) (o : Options) (op : BinaryOp) (v : Value) :
    (Expr.piece o (.binary op (.expr e) (.value v))).failure = (Expr.piece o.plain e).failure.or (o.unwritten v) := by
  rw [h.right]
  show Piece.failure (_ ++ _ ++ _) = _
  rw [append_failure, append_failure, ofText_failure, Option.or_none]
  split
  · next hnull =>
    obtain rfl := Value.eq_null (Bool.and_eq_true_iff.1 hnull).2
    have hwritten : o.unwritten .null = none := if_pos (Bool.or_true _)
    rw [ofText_failure, hwritten]
  · rw [Options.placed_failure]
    rfl

/-- **What a truth value does to a literal beside it.** A truth value leaves literals as they are given exactly if it
has no field, and then nothing but the truth value itself can fail, unless the literal has to be written and cannot be.
It has no field exactly if it exposes no column, and only comparisons expose one. -/
theorem Expr.IsTruth.leavesLiterals_iff (h : e.IsTruth) :
    (e.field? = none ↔ e.LeavesLiterals) ∧
      (e.field? = none → ∀ o op v,
        (Expr.piece o (.binary op (.expr e) (.value v))).failure =
          (Expr.piece o.plain e).failure.or (o.unwritten v)) ∧
      (e.field? = none ↔ ∀ c, ¬ e.Exposes c) ∧
      ((∀ op lhs rhs, e = .binary op lhs rhs → op.isComparison = false) → e.field? = none) := by
  refine ⟨⟨Expr.leavesLiterals_of_none, LeavesLiterals.field?⟩,
    fun hnone => (Expr.leavesLiterals_of_none hnone).failure, Expr.field?_eq_none_iff, fun hop => ?_⟩
  cases h with
  | comparison hcomparison =>
    rw [hop _ _ _ rfl] at hcomparison
    cases hcomparison
  | junction hlogical => rw [Expr.field?, if_pos hlogical]
  | @test op arg hne =>
    cases op with
    | negative => exact absurd rfl hne
    | _ => rfl
  | range => rfl

end

/-- That a name is a given one. -/
def Sample.isAnn : Expr := .binary .equal (column person 1) (.value (.text "Ann"))

/-- That a person's age is known and the name is a given one. -/
def Sample.isAnnOfAge : Expr := .binary .and (.expr (.unary .isNotNull (column person 2))) (.expr isAnn)

theorem leavesLiterals_iff_isAnnOfAge : Sample.isAnnOfAge.IsTruth ∧ Sample.isAnnOfAge.LeavesLiterals ∧
    (Expr.piece {} (.binary .equal (.expr Sample.isAnnOfAge) (.value (.boolean true)))).params =
      [.text "Ann", .boolean true] := by
  have htruth : Sample.isAnnOfAge.IsTruth := .junction rfl
  exact ⟨htruth, htruth.leavesLiterals_iff.1.1 rfl, rfl⟩

/-- A comparison with a name takes `true` for another name. -/
theorem isAnn_refuses_true : Sample.isAnn.IsTruth ∧
    Sample.isAnn.field? = some (Sample.named "name" (.varchar 45)) ∧
    (Expr.piece {} Sample.isAnn).failure = none ∧
    (Expr.piece {} (.binary .equal (.expr Sample.isAnn) (.value (.boolean true)))).failure =
      some (Error.expected "name" "a string" (.boolean true)) :=
  ⟨.comparison rfl, rfl, rfl, rfl⟩

end SqlMapper
