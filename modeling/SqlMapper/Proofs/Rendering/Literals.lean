import SqlMapper.Proofs.Rendering.Options
import SqlMapper.Proofs.Sample
import SqlMapper.Rendering.Context

/-!
# The literals of an expression

The literal values of an expression in the order of its text, each with the field that converts it and with whether a
list stays one parameter there (`Expr.literals`). They decide what rendering comes to (`Piece.Binds`): it fails with
the first error of their conversions, and otherwise it binds what they are converted to (`Expr.piece_binds`). So the
field of a value is the one of the node around it, however the converter is inherited on the way.
-/

namespace SqlMapper

open Piece

/-! ## Literals -/

/-- The parameters that a converted value gives: its items for a list that is not one parameter. -/
def Value.parameters (isWhole : Bool) (w : Value) : List Value :=
  match w, isWhole with
  | .list items, false => items
  | w, _ => [w]

/-- A literal value at its place in an expression. -/
structure Occurrence where
  value : Value
  /-- The field of the node around the literal. -/
  field : Option Field
  /-- A list is one parameter, and not one for each item. -/
  isWhole : Bool

namespace Occurrence

/-- The value after the conversion by its field. -/
def wire (l : Occurrence) : Result Value :=
  match l.field with
  | some f => f.toWire l.value
  | none => .ok l.value

/-- The error of the conversion. -/
def error? (l : Occurrence) : Option Error :=
  match l.wire with
  | .ok _ => none
  | .error e => some e

/-- The parameters that the literal gives. -/
def params (l : Occurrence) : List Value :=
  match l.wire with
  | .ok w => w.parameters l.isWhole
  | .error _ => []

end Occurrence

/-- The operator asks whether its operand has rows. -/
def UnaryOp.isExistence : UnaryOp → Bool
  | .exists | .notExists => true
  | _ => false

mutual

/-- The literals of an expression in the order of its text. -/
def Expr.literals : Expr → List Occurrence
  | .column _ | .raw _ => []
  | .call _ _ args => Operand.literalsAll none args
  | .binary op lhs rhs =>
    let field := if op.isLogical then none else lhs.field?.or rhs.field?
    Operand.literals field false lhs ++
      if op.isNullTest && rhs.isNull then [] else Operand.literals field op.isMembership rhs
  | .unary op arg => Operand.literals arg.field? op.isExistence arg
  | .between _ operand low high =>
    Operand.literals operand.field? false operand ++ Operand.literals operand.field? false low ++
      Operand.literals operand.field? false high
  | .ordered e _ => e.literals
  | .aliased e _ => e.literals
  | .select s => s.literals

/-- The literals of an operand of a node with the given field. -/
def Operand.literals (field : Option Field) (isWhole : Bool) : Operand → List Occurrence
  | .value v => [⟨v, field, isWhole⟩]
  | .expr e => e.literals
  | .raw _ => []

def Operand.literalsAll (field : Option Field) : List Operand → List Occurrence
  | [] => []
  | a :: rest => Operand.literals field false a ++ Operand.literalsAll field rest

def Expr.literalsAll : List Expr → List Occurrence
  | [] => []
  | e :: rest => e.literals ++ Expr.literalsAll rest

def Expr.literalsIn : Option Expr → List Occurrence
  | none => []
  | some e => e.literals

def Join.literalsAll : List Join → List Occurrence
  | [] => []
  | .mk _ _ condition :: rest => condition.literals ++ Join.literalsAll rest

/-- The literals of the clauses of a select, which no field around the select converts. -/
def Select.literals : Select → List Occurrence
  | ⟨_, columns, _, joins, filter, groupBy, having, orderBy, _, _, _, _⟩ =>
    Expr.literalsAll columns ++ Join.literalsAll joins ++ Expr.literalsIn filter ++ Expr.literalsAll groupBy ++
      Expr.literalsIn having ++ Expr.literalsAll orderBy

end

/-- The operand is a literal, verbatim text or a select. -/
inductive Operand.Plain : Operand → Prop
  | value (v : Value) : Operand.Plain (.value v)
  | raw (sql : String) : Operand.Plain (.raw sql)
  | select (s : Select) : Operand.Plain (.expr (.select s))

mutual

/-- Membership and existence are tested in plain operands only. -/
def Expr.PlainSearch : Expr → Prop
  | .column _ | .raw _ => True
  | .call _ _ args => Operand.PlainSearchAll args
  | .binary op lhs rhs => (op.isMembership = true → rhs.Plain) ∧ lhs.PlainSearch ∧ rhs.PlainSearch
  | .unary op arg => (op.isExistence = true → arg.Plain) ∧ arg.PlainSearch
  | .between _ operand low high => operand.PlainSearch ∧ low.PlainSearch ∧ high.PlainSearch
  | .ordered e _ => e.PlainSearch
  | .aliased e _ => e.PlainSearch
  | .select s => s.PlainSearch

def Operand.PlainSearch : Operand → Prop
  | .value _ | .raw _ => True
  | .expr e => e.PlainSearch

def Operand.PlainSearchAll : List Operand → Prop
  | [] => True
  | a :: rest => a.PlainSearch ∧ Operand.PlainSearchAll rest

def Expr.PlainSearchAll : List Expr → Prop
  | [] => True
  | e :: rest => e.PlainSearch ∧ Expr.PlainSearchAll rest

def Expr.PlainSearchIn : Option Expr → Prop
  | none => True
  | some e => e.PlainSearch

def Join.PlainSearchAll : List Join → Prop
  | [] => True
  | .mk _ _ condition :: rest => condition.PlainSearch ∧ Join.PlainSearchAll rest

def Select.PlainSearch : Select → Prop
  | ⟨_, columns, _, joins, filter, groupBy, having, orderBy, _, _, _, _⟩ =>
    Expr.PlainSearchAll columns ∧ Join.PlainSearchAll joins ∧ Expr.PlainSearchIn filter ∧
      Expr.PlainSearchAll groupBy ∧ Expr.PlainSearchIn having ∧ Expr.PlainSearchAll orderBy

end

/-! ## What pieces bind -/

/-- The piece fails with the first error of the literals, and otherwise its parameters are those of the literals. -/
def Piece.Binds (p : Piece) (ls : List Occurrence) : Prop :=
  p.failure = ls.findSome? Occurrence.error? ∧ (p.failure = none → p.params = ls.flatMap Occurrence.params)

namespace Piece

variable {a b p : Piece} {ls ms : List Occurrence}

theorem binds_ofText (s : String) : (ofText s).Binds [] := ⟨rfl, fun _ => rfl⟩

theorem Binds.append (ha : a.Binds ls) (hb : b.Binds ms) : (a ++ b).Binds (ls ++ ms) := by
  refine ⟨?_, fun h => ?_⟩
  · rw [append_failure, ha.1, hb.1, List.findSome?_append]
  · obtain ⟨h₁, h₂⟩ := append_failure_eq_none.1 h
    rw [append_params h, ha.2 h₁, hb.2 h₂, List.flatMap_append]

theorem Binds.append_nil (ha : a.Binds ls) (hb : b.Binds []) : (a ++ b).Binds ls :=
  List.append_nil ls ▸ Binds.append ha hb

theorem Binds.append_ofText (ha : a.Binds ls) (s : String) : (a ++ ofText s).Binds ls :=
  Binds.append_nil ha (binds_ofText s)

theorem Binds.ofText_append (s : String) (hb : b.Binds ls) : (ofText s ++ b).Binds ls :=
  Binds.append (binds_ofText s) hb

theorem Binds.inParens (h : p.Binds ls) : p.inParens.Binds ls := h

/-- The commas bind nothing. -/
theorem Binds.separated_cons {ps : List Piece} (hp : p.Binds ls) (hps : (separated ps).Binds ms) :
    (separated (p :: ps)).Binds (ls ++ ms) := by
  cases ps with
  | nil =>
    rw [separated_singleton, ← append_nothing p]
    exact Binds.append hp hps
  | cons q ps =>
    rw [separated_cons_cons]
    exact Binds.append (Binds.append_ofText hp _) hps

end Piece

theorem Options.placed_params {o : Options} (hb : o.bind = true) (w : Value) :
    (o.placed w).failure = none ∧ (o.placed w).params = w.parameters o.nested := by
  cases hn : o.nested with
  | true =>
    rw [placed_of_single hb (.inl hn)]
    cases w <;> exact ⟨rfl, rfl⟩
  | false =>
    cases w with
    | list items =>
      rw [placed_list hb hn, separated_placeholders]
      exact ⟨rfl, rfl⟩
    | _ =>
      rw [placed_of_single hb (.inr rfl)]
      exact ⟨rfl, rfl⟩

/-- A value is the literal at the place that its scope describes. -/
theorem Options.value_binds {o : Options} (hb : o.bind = true) (v : Value) :
    (o.value v).Binds [⟨v, o.converter, o.nested⟩] := by
  have hw : Occurrence.wire ⟨v, o.converter, o.nested⟩ = o.converted v := rfl
  unfold Piece.Binds
  rw [List.findSome?_singleton, List.flatMap_singleton, Occurrence.error?, Occurrence.params, hw]
  cases hc : o.converted v with
  | error e =>
    rw [value_of_error hc]
    exact ⟨rfl, fun h => nomatch h⟩
  | ok w =>
    rw [value_of_ok hc]
    exact ⟨(placed_params hb w).1, fun _ => (placed_params hb w).2⟩

theorem limitClause_binds (limit offset : Option Nat) : (limitClause limit offset).Binds [] := by
  cases limit <;> exact binds_ofText _

/-! ## Expressions -/

mutual

/-- **An expression binds its literals**, in a scope that binds values and gives lists a parameter for each item. -/
theorem Expr.piece_binds : ∀ {o : Options} {e : Expr}, o.bind = true → o.nested = false → e.PlainSearch →
    (e.piece o).Binds e.literals
  | _, .column _, _, _, _ => binds_ofText _
  | _, .raw _, _, _, _ => binds_ofText _
  | o, .call _ _ _, hb, hn, h => by
    rw [Expr.piece, Expr.literals]
    refine Binds.append_ofText (Binds.ofText_append _ ?_) _
    exact Operand.pieces_binds (o := { o with converter := none }) hb hn h
  | _, .binary op _ rhs, hb, hn, h => by
    obtain ⟨hplain, hlhs, hrhs⟩ := h
    rw [Expr.piece, Expr.literals]
    refine Binds.inParens (Binds.append (Binds.append_ofText ?_ _) ?_)
    · exact Operand.piece_binds_of_flat hb hn hlhs
    · cases hop : op.isMembership with
      | true =>
        have ht : op.isNullTest = false := by cases op <;> first | rfl | cases hop
        rw [ht]
        exact Operand.piece_binds_of_plain hb rfl (hplain hop) hrhs
      | false =>
        cases op.isNullTest && rhs.isNull with
        | true => exact binds_ofText _
        | false => exact Operand.piece_binds_of_flat hb hn hrhs
  | _, .unary op _, hb, hn, h => by
    obtain ⟨hplain, harg⟩ := h
    cases op with
    | negative | not =>
      rw [Expr.piece, Expr.literals]
      refine Binds.inParens (Binds.ofText_append _ ?_)
      exact Operand.piece_binds_of_flat hb hn harg
    | isNull | isNotNull =>
      rw [Expr.piece, Expr.literals]
      refine Binds.inParens (Binds.append_ofText ?_ _)
      exact Operand.piece_binds_of_flat hb hn harg
    | «exists» | notExists =>
      rw [Expr.piece, Expr.literals]
      refine Binds.inParens (Binds.ofText_append _ ?_)
      exact Operand.piece_binds_of_plain hb rfl (hplain rfl) harg
  | _, .between _ _ _ _, hb, hn, h => by
    obtain ⟨hoperand, hlow, hhigh⟩ := h
    rw [Expr.piece, Expr.literals]
    refine Binds.inParens (Binds.append (Binds.append_ofText (Binds.append (Binds.append_ofText ?_ _) ?_) _) ?_)
    · exact Operand.piece_binds_of_flat hb hn hoperand
    · exact Operand.piece_binds_of_flat hb hn hlow
    · exact Operand.piece_binds_of_flat hb hn hhigh
  | _, .ordered _ order, hb, hn, h => by
    cases order <;> rw [Expr.piece, Expr.literals] <;>
    · apply Binds.append_ofText
      exact Expr.piece_binds hb hn h
  | _, .aliased _ _, hb, hn, h => by
    rw [Expr.piece, Expr.literals]
    apply Binds.append_ofText
    exact Expr.piece_binds hb hn h
  | _, .select _, _, _, h => by
    rw [Expr.piece, Expr.literals]
    apply Binds.inParens
    exact Select.piece_binds h

/-- An operand of a node whose lists have a parameter for each item. -/
theorem Operand.piece_binds_of_flat : ∀ {o : Options} {a : Operand}, o.bind = true → o.nested = false →
    a.PlainSearch → (Operand.piece o a).Binds (Operand.literals o.converter false a)
  | _, .value v, hb, hn, _ => hn ▸ Options.value_binds hb v
  | _, .expr _, hb, hn, h => Expr.piece_binds hb hn h
  | _, .raw _, _, _, _ => binds_ofText _

/-- An operand that is searched. Whether lists are one parameter does not reach into a select. -/
theorem Operand.piece_binds_of_plain : ∀ {o : Options} {a : Operand}, o.bind = true → o.nested = true → a.Plain →
    a.PlainSearch → (Operand.piece o a).Binds (Operand.literals o.converter true a)
  | _, .value v, hb, hn, _, _ => hn ▸ Options.value_binds hb v
  | _, .expr e, _, _, hp, h => by
    cases e with
    | select s =>
      rw [Operand.piece, Expr.piece, Operand.literals, Expr.literals]
      apply Binds.inParens
      exact Select.piece_binds h
    | _ => cases hp
  | _, .raw _, _, _, _, _ => binds_ofText _

theorem Operand.pieces_binds : ∀ {o : Options} {args : List Operand}, o.bind = true → o.nested = false →
    Operand.PlainSearchAll args → (separated (Operand.pieces o args)).Binds (Operand.literalsAll o.converter args)
  | _, [], _, _, _ => binds_ofText _
  | _, _ :: _, hb, hn, h => by
    rw [Operand.pieces, Operand.literalsAll]
    apply Binds.separated_cons
    · exact Operand.piece_binds_of_flat hb hn h.1
    · exact Operand.pieces_binds hb hn h.2

theorem Expr.pieces_binds : ∀ {o : Options} {es : List Expr}, o.bind = true → o.nested = false →
    Expr.PlainSearchAll es → (separated (Expr.pieces o es)).Binds (Expr.literalsAll es)
  | _, [], _, _, _ => binds_ofText _
  | _, _ :: _, hb, hn, h => by
    rw [Expr.pieces, Expr.literalsAll]
    apply Binds.separated_cons
    · exact Expr.piece_binds hb hn h.1
    · exact Expr.pieces_binds hb hn h.2

theorem Expr.clause_binds : ∀ {o : Options} {keyword : String} {e : Option Expr}, o.bind = true → o.nested = false →
    Expr.PlainSearchIn e → (Expr.clause o keyword e).Binds (Expr.literalsIn e)
  | _, _, none, _, _, _ => binds_ofText _
  | _, _, some _, hb, hn, h => Binds.ofText_append _ (Expr.piece_binds hb hn h)

theorem Join.pieces_binds : ∀ {o : Options} {joins : List Join}, o.bind = true → o.nested = false →
    Join.PlainSearchAll joins → (Join.pieces o joins).Binds (Join.literalsAll joins)
  | _, [], _, _, _ => binds_ofText _
  | _, .mk kind _ _ :: _, hb, hn, h => by
    cases kind <;> rw [Join.pieces, Join.literalsAll] <;>
    · refine Binds.append (Binds.ofText_append _ ?_) ?_
      · exact Expr.piece_binds hb hn h.1
      · exact Join.pieces_binds hb hn h.2

/-- A select starts anew: it binds values, and no converter reaches into it. -/
theorem Select.piece_binds : ∀ {o : Options} {s : Select}, s.PlainSearch → (s.piece o).Binds s.literals
  | _, ⟨_, columns, _, _, _, groupBy, _, orderBy, limit, offset, _, _⟩, h => by
    obtain ⟨hcolumns, hjoins, hfilter, hgroup, hhaving, horder⟩ := h
    rw [Select.piece, Select.literals]
    refine Binds.append_nil (Binds.append (Binds.append (Binds.append (Binds.append (Binds.append (Binds.append_ofText
      (Binds.ofText_append _ ?_) _) ?_) ?_) ?_) ?_) ?_) (limitClause_binds limit offset)
    · cases columns with
      | nil => exact binds_ofText _
      | cons e columns => exact Expr.pieces_binds rfl rfl hcolumns
    · exact Join.pieces_binds rfl rfl hjoins
    · exact Expr.clause_binds rfl rfl hfilter
    · cases groupBy with
      | nil => exact binds_ofText _
      | cons e groupBy =>
        apply Binds.ofText_append
        exact Expr.pieces_binds rfl rfl hgroup
    · exact Expr.clause_binds rfl rfl hhaving
    · cases orderBy with
      | nil => exact binds_ofText _
      | cons e orderBy =>
        apply Binds.ofText_append
        exact Expr.pieces_binds rfl rfl horder

end

/-- **Rendering an expression binds its literals in order**: it fails with the error of the first literal that cannot
be converted, and otherwise the parameters that it adds are those of the literals. -/
theorem Context.addExpr_binds {c : Context} {e : Expr} (hb : c.options.bind = true) (hn : c.options.nested = false)
    (he : e.PlainSearch) : (c.addExpr e).2 = e.literals.findSome? Occurrence.error? ∧
      ((c.addExpr e).2 = none → (c.addExpr e).1.params = c.params ++ e.literals.flatMap Occurrence.params) := by
  obtain ⟨hfailure, hparams⟩ := Expr.piece_binds hb hn he
  exact ⟨hfailure, fun h => congrArg (c.params ++ ·) (hparams h)⟩

/-- Truth values under the age of a person, which makes them numbers, and under a call, which does not. -/
def Sample.truths : Expr :=
  .binary .and
    (.expr (.binary .inOp (column person 2) (.value (.list [.boolean true, .int 7]))))
    (.expr (.binary .or
      (.expr (.binary .equal (.expr (.binary .addition (column person 2) (.value (.boolean true))))
        (.value (.boolean false))))
      (.expr (.unary .isNotNull (.expr (.call "COALESCE" false [column person 2, .value (.boolean true)]))))))

theorem Sample.truths_plainSearch : truths.PlainSearch := by
  simp [truths, Expr.PlainSearch, Operand.PlainSearch, Operand.PlainSearchAll, column, BinaryOp.isMembership,
    UnaryOp.isExistence, Operand.Plain.value]

theorem addExpr_binds_truths : (Context.addExpr {} Sample.truths).2 = none ∧
    (Context.addExpr {} Sample.truths).1.params = [.list [.int 1, .int 7], .int 1, .int 0, .boolean true] := by
  obtain ⟨hfailure, hparams⟩ := Context.addExpr_binds (c := {}) rfl rfl Sample.truths_plainSearch
  have hok : Sample.truths.literals.findSome? Occurrence.error? = none := rfl
  exact ⟨hfailure.trans hok, (hparams (hfailure.trans hok)).trans rfl⟩

end SqlMapper
