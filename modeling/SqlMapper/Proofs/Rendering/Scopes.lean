import SqlMapper.Proofs.Rendering.Invariant
import SqlMapper.Proofs.Rendering.Piece
import SqlMapper.Proofs.Sample
import SqlMapper.Rendering.Writing

/-!
# Scopes are left as they were found

Whatever a writer of an expression is given, it comes back with the options and the saved scopes that it found, even
after an error: all it does is to add a piece, which the current options decide (`Writing.Adds`). Every way to put
writers together keeps this, and the piece is the one that the expression has (`Writing.Renders`), since no piece
depends on the clause that is written.
-/

namespace SqlMapper

open Piece

theorem Options.scope_of_parenthesize {o : Options} (h : o.parenthesize = true) (part : Options → Piece) :
    o.scope part = (part { o with parenthesize := false }).inParens := if_pos h

theorem Options.scope_of_not_parenthesize {o : Options} (h : o.parenthesize = false) (part : Options → Piece) :
    o.scope part = part o := if_neg (by simp [h])

namespace Context

variable (c : Context) (p q : Piece) {o : Options}

@[simp] theorem add_options : (c.add p).options = c.options := rfl

theorem add_nothing : c.add nothing = c := by
  simp [add, nothing, ofText]

theorem add_failed (e : Error) : c.add (failed e) = c := by
  simp [add, failed]

/-- Pieces are added one after the other. -/
theorem add_append (h : p.failure = none) : c.add (p ++ q) = (c.add p).add q := by
  rw [append_of_ok h]
  simp [add, String.append_assoc]

theorem openScope_options_of_not_parenthesize (h : o.parenthesize = false) : (c.openScope o).options = o := by
  cases o
  cases h
  rfl

/-- A scope without parentheses leaves only what is added in it. -/
theorem closeScope_add_openScope (h : o.parenthesize = false) :
    ((c.openScope o).add p).closeScope o.parenthesize = c.add p := by
  simp [openScope, closeScope, add, h]

/-- The parentheses of a scope stand around what is added in it. -/
theorem closeScope_add_openScope_inParens (h : o.parenthesize = true) :
    ((c.openScope o).add p).closeScope o.parenthesize = c.add p.inParens := by
  simp [openScope, closeScope, add, h, inParens, String.append_assoc]

end Context

namespace Writing

variable {v w : Writing} {p q : Options → Piece}

/-- All that the writer does is to add a piece, which the options decide. -/
def Adds (w : Writing) (p : Options → Piece) : Prop := ∀ c : Context, w c = (c.add (p c.options), (p c.options).failure)

theorem adds_text (s : String) : (text s).Adds fun _ => ofText s := by
  intro c
  simp [text, Context.add, ofText]

theorem adds_nothing : nothing.Adds fun _ => Piece.nothing := by
  intro c
  rw [Context.add_nothing]
  rfl

theorem adds_placeholder (x : Value) : (placeholder x).Adds fun _ => Piece.placeholder x := fun _ => rfl

/-- Nothing is added behind an error. -/
theorem Adds.append (hv : v.Adds p) (hw : w.Adds q) : (v ++ w).Adds fun o => p o ++ q o := by
  intro c
  show v.andThen w c = _
  unfold andThen
  rw [hv c]
  cases h : (p c.options).failure with
  | some e => simp [append_of_failed h, h]
  | none => simp [hw _, Context.add_append _ _ _ h, h]

/-- A scope adds what is added under its options, in its parentheses. -/
theorem Adds.inScope (update : Options → Options) (hw : w.Adds p) :
    (inScope update w).Adds fun o => (update o).scope p := by
  intro c
  unfold Writing.inScope
  dsimp only
  rw [hw]
  cases h : (update c.options).parenthesize with
  | true =>
    rw [← h, Context.closeScope_add_openScope_inParens _ _ h, Options.scope_of_parenthesize h]
    rfl
  | false =>
    rw [← h, Context.closeScope_add_openScope _ _ h, Options.scope_of_not_parenthesize h,
      Context.openScope_options_of_not_parenthesize _ h]

theorem adds_separated_map {α : Type} {f : α → Writing} {g : Options → α → Piece}
    (h : ∀ a, (f a).Adds fun o => g o a) : ∀ as : List α,
    (separated (as.map f)).Adds fun o => Piece.separated (as.map (g o))
  | [] => adds_nothing
  | [a] => h a
  | a :: b :: as => ((h a).append (adds_text ", ")).append (adds_separated_map h (b :: as))

theorem adds_placed (x : Value) : (placed x).Adds fun o => o.placed x := by
  intro c
  unfold placed Options.placed
  cases hb : c.options.bind with
  | false =>
    cases x.literal with
    | none =>
      simp only [hb, Bool.false_eq_true, if_false, Context.add_failed]
      rfl
    | some s => simpa [hb] using adds_text s c
  | true =>
    cases x with
    | list items =>
      cases hn : c.options.nested with
      | false => simpa [hb, hn, Function.comp_def] using adds_separated_map adds_placeholder items c
      | true => simpa [hb, hn] using adds_placeholder (.list items) c
    | _ => simpa [hb] using adds_placeholder _ c

/-- A value adds what the options make of it. -/
theorem adds_value (x : Value) : (value x).Adds fun o => o.value x := by
  intro c
  unfold value
  cases hx : c.options.converted x with
  | error e =>
    dsimp only
    rw [Options.value_of_error hx, Context.add_failed]
    rfl
  | ok y =>
    dsimp only
    rw [Options.value_of_ok hx]
    exact adds_placed y c

theorem adds_column (c : Column) : (column c).Adds fun o => ofText (c.written o.qualify) := fun d => adds_text _ d

/-- The writer adds a piece, and unless a parenthesis is due that piece is `p`, whatever clause is written. -/
def Renders (w : Writing) (p : Options → Piece) : Prop :=
  ∃ q, w.Adds q ∧
    ∀ (o : Options) (fragment : Fragment), o.parenthesize = false → q { o with fragment := fragment } = p o

theorem Adds.renders (h : w.Adds p) (hp : ∀ o fragment, p { o with fragment := fragment } = p o) : w.Renders p :=
  ⟨p, h, fun o fragment _ => hp o fragment⟩

theorem renders_text (s : String) : (text s).Renders fun _ => ofText s := (adds_text s).renders fun _ _ => rfl

theorem renders_nothing : nothing.Renders fun _ => Piece.nothing := adds_nothing.renders fun _ _ => rfl

theorem renders_value (x : Value) : (value x).Renders fun o => o.value x := (adds_value x).renders fun _ _ => rfl

theorem renders_column (c : Column) : (column c).Renders fun o => ofText (c.written o.qualify) :=
  (adds_column c).renders fun _ _ => rfl

/-- The columns of a table are written one by one. -/
theorem renders_columns (cs : List Column) : (separated (cs.map column)).Renders fun o =>
    ofText (Text.commaSeparated (cs.map (·.written o.qualify))) := by
  have hcs : (separated (cs.map column)).Renders fun o =>
      Piece.separated (cs.map fun c => ofText (c.written o.qualify)) :=
    (adds_separated_map adds_column cs).renders fun _ _ => rfl
  simpa only [← separated_ofText, List.map_map, Function.comp_def] using hcs

theorem Renders.append (hv : v.Renders p) (hw : w.Renders q) : (v ++ w).Renders fun o => p o ++ q o := by
  obtain ⟨p', hv, hp⟩ := hv
  obtain ⟨q', hw, hq⟩ := hw
  refine ⟨_, hv.append hw, fun o fragment ho => ?_⟩
  rw [hp o fragment ho, hq o fragment ho]

theorem Renders.ite {b : Prop} [Decidable b] (hv : v.Renders p) (hw : w.Renders q) :
    (if b then v else w).Renders fun o => if b then p o else q o := by
  by_cases h : b
  · simpa [h] using hv
  · simpa [h] using hw

/-- A scope without parentheses renders under the options that it changes. -/
theorem Renders.inScope (hw : w.Renders p) (update change : Options → Options)
    (hu : ∀ o fragment, ∃ fragment', update { o with fragment := fragment } = { change o with fragment := fragment' })
    (hc : ∀ o, o.parenthesize = false → (change o).parenthesize = false) :
    (Writing.inScope update w).Renders fun o => p (change o) := by
  obtain ⟨q, hw, hq⟩ := hw
  refine ⟨_, hw.inScope update, fun o fragment ho => ?_⟩
  obtain ⟨fragment', hf⟩ := hu o fragment
  rw [hf]
  exact (Options.scope_of_not_parenthesize (o := { change o with fragment := fragment' }) (hc o ho) q).trans
    (hq (change o) fragment' (hc o ho))

/-- A scope in parentheses puts them around what it renders. -/
theorem Renders.inParens (hw : w.Renders p) (update change : Options → Options)
    (hu : ∀ o fragment, update { o with fragment := fragment } =
      { change o with fragment := fragment, parenthesize := true }) :
    (Writing.inScope update w).Renders fun o => (p { change o with parenthesize := false }).inParens := by
  obtain ⟨q, hw, hq⟩ := hw
  refine ⟨_, hw.inScope update, fun o fragment _ => ?_⟩
  rw [hu o fragment, Options.scope_of_parenthesize rfl]
  exact congrArg Piece.inParens (hq { change o with parenthesize := false } fragment rfl)

theorem Renders.inOperator (hw : w.Renders p) (converter : Option Field) :
    (Writing.inOperator converter w).Renders fun o =>
      (p { o with parenthesize := false, converter := converter }).inParens :=
  hw.inParens _ (fun o => { o with converter := converter }) fun _ _ => rfl

theorem Renders.inNested (hw : w.Renders p) : (Writing.inNested w).Renders fun o => p { o with nested := true } :=
  hw.inScope _ (fun o => { o with nested := true }) (fun _ fragment => ⟨fragment, rfl⟩) fun _ ho => ho

/-- The clause that is written does not show. -/
theorem Renders.inClause (hw : w.Renders p) (fragment : Fragment) : (Writing.inClause fragment w).Renders p :=
  hw.inScope _ id (fun _ _ => ⟨fragment, rfl⟩) fun _ ho => ho

end Writing

open Writing

theorem renders_limit (limit offset : Option Nat) :
    (writeLimit limit offset).Renders fun _ => limitClause limit offset := by
  cases limit with
  | none => exact renders_nothing
  | some n => exact renders_text _

mutual

/-- **A writer renders the piece of its expression.** -/
theorem Expr.write_renders : ∀ e : Expr, e.write.Renders fun o => e.piece o
  | .column c => renders_column c
  | .raw sql => renders_text sql
  | .call function distinct args => by
    have hargs := ((Operand.writes_renders args).append (renders_text ")")).inScope
      (fun o => { o with converter := none }) (fun o => { o with converter := none })
      (fun _ fragment => ⟨fragment, rfl⟩) fun _ ho => ho
    rw [Expr.write]
    simp only [Expr.piece, append_assoc]
    exact (renders_text _).append hargs
  | .binary op lhs rhs => by
    rw [Expr.write]
    exact (((Operand.write_renders lhs).append (renders_text _)).append
      ((Operand.write_renders rhs).inNested.ite ((renders_text _).ite (Operand.write_renders rhs)))).inOperator _
  | .unary op arg => by
    have harg := Operand.write_renders arg
    cases op with
    | negative | not =>
      rw [Expr.write]
      exact ((renders_text _).append harg).inOperator _
    | isNull | isNotNull =>
      rw [Expr.write]
      exact (harg.append (renders_text _)).inOperator _
    | «exists» | notExists =>
      rw [Expr.write]
      exact ((renders_text _).append harg.inNested).inOperator _
  | .between negated operand low high => by
    rw [Expr.write]
    exact (((((Operand.write_renders operand).append (renders_text _)).append (Operand.write_renders low)).append
      (renders_text _)).append (Operand.write_renders high)).inOperator _
  | .ordered e order => (Expr.write_renders e).append (renders_text _)
  | .aliased e label => (Expr.write_renders e).append (renders_text _)
  | .select s => by
    rw [Expr.write]
    exact (Select.write_renders s).inParens _ (fun o => { o with qualify := true }) fun _ _ => rfl

theorem Operand.write_renders : ∀ a : Operand, (Operand.write a).Renders fun o => Operand.piece o a
  | .value v => renders_value v
  | .expr e => Expr.write_renders e
  | .raw sql => renders_text sql

theorem Operand.writes_renders : ∀ args : List Operand,
    (separated (Operand.writes args)).Renders fun o => Piece.separated (Operand.pieces o args)
  | [] => renders_nothing
  | [a] => Operand.write_renders a
  | a :: b :: args => ((Operand.write_renders a).append (renders_text ", ")).append (Operand.writes_renders (b :: args))

theorem Expr.writes_renders : ∀ es : List Expr,
    (separated (Expr.writes es)).Renders fun o => Piece.separated (Expr.pieces o es)
  | [] => renders_nothing
  | [e] => Expr.write_renders e
  | e :: d :: es => ((Expr.write_renders e).append (renders_text ", ")).append (Expr.writes_renders (d :: es))

theorem Expr.writeClause_renders (fragment : Fragment) (keyword : String) : ∀ e : Option Expr,
    (Expr.writeClause fragment keyword e).Renders fun o => Expr.clause o keyword e
  | none => renders_nothing
  | some e => ((renders_text keyword).append (Expr.write_renders e)).inClause fragment

theorem Join.write_renders : ∀ joins : List Join, (Join.write joins).Renders fun o => Join.pieces o joins
  | [] => renders_nothing
  | .mk _ _ condition :: joins =>
    (((renders_text _).append (Expr.write_renders condition)).inClause .join).append (Join.write_renders joins)

theorem Select.write_renders : ∀ s : Select, (Select.write s).Renders fun o => s.piece o
  | ⟨table, columns, distinct, joins, filter, groupBy, having, orderBy, limit, offset, _, _⟩ => by
    have hcolumns := (renders_columns table.columns).ite (b := columns.isEmpty) (Expr.writes_renders columns)
    have hgroup := renders_nothing.ite (b := groupBy.isEmpty)
      (((renders_text " GROUP BY ").append (Expr.writes_renders groupBy)).inClause .selectGroupBy)
    have horder := renders_nothing.ite (b := orderBy.isEmpty)
      (((renders_text " ORDER BY ").append (Expr.writes_renders orderBy)).inClause .selectOrderBy)
    have hclauses := ((((((((renders_text (if distinct then "SELECT DISTINCT " else "SELECT ")).append hcolumns).append
      ((renders_text (" FROM " ++ table.ref.text)).inClause .selectFrom)).append (Join.write_renders joins)).append
      (Expr.writeClause_renders .selectWhere " WHERE " filter)).append hgroup).append
      (Expr.writeClause_renders .selectHaving " HAVING " having)).append horder).append (renders_limit limit offset)
    rw [Select.write]
    exact hclauses.inScope _
      (fun o => { o with qualify := o.qualify || !joins.isEmpty, bind := true, nested := false, converter := none })
      (fun _ _ => ⟨.select, rfl⟩) fun _ ho => ho

end

/-- The writer leaves the options and the saved scopes as they are and only adds. What it adds, and the error that it
may come to, depend on the current options alone. -/
def Writing.Confined (w : Writing) : Prop :=
  ∃ p : Options → Piece, ∀ c : Context, (w c).1.options = c.options ∧ (w c).1.saved = c.saved ∧
    (w c).1.text = c.text ++ (p c.options).text ∧ (w c).1.params = c.params ++ (p c.options).params ∧
      (w c).2 = (p c.options).failure

theorem Writing.Renders.confined {w : Writing} {p : Options → Piece} (h : w.Renders p) : w.Confined := by
  obtain ⟨q, hw, -⟩ := h
  refine ⟨q, fun c => ?_⟩
  rw [hw c]
  exact ⟨rfl, rfl, rfl, rfl, rfl⟩

/-- No parenthesis is due between scopes. -/
theorem Writing.Renders.eq_add {w : Writing} {p : Options → Piece} (h : w.Renders p) {c : Context}
    (hc : c.options.parenthesize = false) : w c = (c.add (p c.options), (p c.options).failure) := by
  obtain ⟨q, hw, hq⟩ := h
  rw [hw c, ← hq c.options c.options.fragment hc]

/-- **Scopes never leak**: writing an expression, an operand or a select is confined to what it adds, also when it comes
to an error, and unless a parenthesis is due it adds the piece that rendering gives. -/
theorem write_confined :
    (∀ e : Expr, e.write.Confined ∧ ∀ c : Context, c.options.parenthesize = false → e.write c = c.addExpr e) ∧
    (∀ a : Operand, a.write.Confined ∧ ∀ c : Context, c.options.parenthesize = false → a.write c = c.addOperand a) ∧
    (∀ s : Select, s.write.Confined ∧ ∀ c : Context, c.options.parenthesize = false →
      s.write c = (c.add (s.piece c.options), (s.piece c.options).failure)) :=
  ⟨fun e => ⟨e.write_renders.confined, fun _ hc => e.write_renders.eq_add hc⟩,
    fun a => ⟨a.write_renders.confined, fun _ hc => a.write_renders.eq_add hc⟩,
    fun s => ⟨s.write_renders.confined, fun _ hc => s.write_renders.eq_add hc⟩⟩

/-- A number that is compared with a word, behind a column that takes all values. -/
def Sample.misread : Expr :=
  .binary .or (.expr (.unary .isNull (column person 2))) (.expr (.binary .equal (column person 0) (.value (.text "x"))))

/-- A delete up to its condition. -/
def Sample.deletion : Context :=
  { text := "DELETE FROM `person` WHERE ", options := { fragment := .deleteFromWhere }, saved := [{}] }

theorem write_confined_misread : Sample.deletion.options.parenthesize = false ∧
    Sample.misread.write Sample.deletion = Sample.deletion.addExpr Sample.misread ∧
    (Sample.misread.write Sample.deletion).1.text = "DELETE FROM `person` WHERE ((`age` IS NULL) OR (`id` = ))" ∧
    (Sample.misread.write Sample.deletion).1.saved = [{}] ∧ (Sample.misread.write Sample.deletion).2.isSome = true := by
  have hc : Sample.deletion.options.parenthesize = false := rfl
  have heq := (write_confined.1 Sample.misread).2 Sample.deletion hc
  refine ⟨hc, heq, ?_⟩
  rw [heq]
  exact ⟨rfl, rfl, rfl⟩

end SqlMapper
