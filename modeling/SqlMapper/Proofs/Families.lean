import SqlMapper.Proofs.Field.Refusal
import SqlMapper.Proofs.Rendering.Invariant
import SqlMapper.Proofs.Statement.Batch
import SqlMapper.Record.Row
import SqlMapper.Statement.Definition
import SqlMapper.Table.Declaration

/-!
# Families of errors

Each operation of the mapping fails within its own families, whatever it is given (`failsWith_families`): compiling a
declaration with errors about the schema, converting a value, loading a row and rendering a select with errors about
data, changing rows with errors about the use of the statement or about data, and composing conditions with errors about
their operands. A rendered statement can fail in any value inside it, at any depth; that all of these failures are
refusals of a field is an invariant of pieces (`refusesAlone_invariant`). A panic is none of these errors, since no
operation returns it.
-/

namespace SqlMapper

open Result

/-- The error is in one of the families. -/
def Error.BelongsTo (families : List Family) (e : Error) : Prop := ∃ family ∈ families, e.family? = some family

namespace Error.BelongsTo

variable {e : Error} {families families' : List Family}

theorem mono (h : e.BelongsTo families) (hs : families ⊆ families') : e.BelongsTo families' := by
  obtain ⟨family, hm, he⟩ := h
  exact ⟨family, hs hm, he⟩

theorem of_refuses {f : Field} (h : f.Refuses e) : e.BelongsTo [.data] := by
  obtain ⟨fault, rfl⟩ := h
  exact ⟨.data, by simp, rfl⟩

end Error.BelongsTo

open Error

/-- A cause within the families makes an operation that fails within them. -/
theorem failsWith_fail {α : Type} {cause : Cause} {family : Family} {families : List Family}
    (hc : cause.family? = some family) (hm : family ∈ families) :
    (fail cause : Result α).FailsWith (BelongsTo families) :=
  .error fun _ => ⟨family, hm, hc⟩

/-! ## Declarations -/

namespace Declaration

variable {table : String}

theorem schema_failsWith {α : Type} {fault : SchemaFault} :
    (fail (.schema table fault) : Result α).FailsWith (BelongsTo [.schema]) :=
  failsWith_fail rfl (by simp)

/-- A default that its own field refuses is a fault of the declaration, not of the value. -/
theorem checkField_failsWith {f : Field} : (checkField table f).FailsWith (BelongsTo [.schema]) := by
  unfold checkField
  extract_lets checkDefault
  have hdefault : ∀ u, (checkDefault u).FailsWith (BelongsTo [.schema]) := by
    intro u
    unfold checkDefault
    split
    · split
      · exact .ok _
      · split
        · next hpanic => exact .error fun hreturned => absurd (hpanic.symm.trans hreturned) Bool.noConfusion
        · exact schema_failsWith
    · exact .ok _
  split
  · split
    · exact schema_failsWith.bind fun _ _ => hdefault ()
    · split
      · exact schema_failsWith.bind fun _ _ => hdefault ()
      · split
        · exact hdefault ()
        · exact schema_failsWith.bind fun _ _ => hdefault ()
  · exact hdefault ()

theorem addFields_failsWith : ∀ {rest : List (String × Field)} {declared : List String} {fields : Ordered Field},
    (addFields table declared fields rest).FailsWith (BelongsTo [.schema])
  | [], _, _ => .ok _
  | (attr, f) :: rest, declared, fields => by
    unfold addFields
    split
    · exact failsWith_fail rfl (by simp)
    · exact checkField_failsWith.bind fun _ _ => addFields_failsWith

theorem findKey_failsWith : ∀ {rest : List (String × Field)} {columns : List String} {key : Option (String × Field)},
    (findKey table columns key rest).FailsWith (BelongsTo [.schema])
  | [], _, _ => .ok _
  | (attr, f) :: rest, columns, key => by
    unfold findKey
    split
    · exact failsWith_fail rfl (by simp)
    · split
      · split
        · exact failsWith_fail rfl (by simp)
        · exact findKey_failsWith
      · exact findKey_failsWith

theorem indexColumns_failsWith {fields : Ordered Field} {index : String} : ∀ {names : List String},
    (indexColumns table fields index names).FailsWith (BelongsTo [.schema])
  | [] => .ok _
  | name :: rest => by
    unfold indexColumns
    split
    · exact schema_failsWith
    · split
      · exact schema_failsWith
      · exact indexColumns_failsWith.bind fun _ _ => .ok _

theorem addIndexes_failsWith {fields : Ordered Field} : ∀ {rest indexes : List Index},
    (addIndexes table fields indexes rest).FailsWith (BelongsTo [.schema])
  | [], _ => .ok _
  | index :: rest, indexes => by
    unfold addIndexes
    split
    · exact schema_failsWith
    · exact indexColumns_failsWith.bind fun _ _ => addIndexes_failsWith

theorem compile_failsWith (d : Declaration) : d.compile.FailsWith (BelongsTo [.schema]) := by
  unfold compile
  refine addFields_failsWith.bind fun fields _ => findKey_failsWith.bind fun key _ => ?_
  cases key with
  | none => exact failsWith_fail rfl (by simp)
  | some p => exact addIndexes_failsWith.bind fun _ _ => .ok _

end Declaration

/-! ## Rows -/

/-- The error is a refusal by a field of the table. -/
def Table.Refuses (t : Table) (e : Error) : Prop := ∃ p ∈ t.fields.pairs, p.2.Refuses e

/-- The attribute that is stored in a column has a field. -/
theorem Table.exists_field_of_attributeOf {t : Table} {column attr : String} (h : t.attributeOf column = some attr) :
    ∃ f, (attr, f) ∈ t.fields.pairs ∧ t.field attr = .ok f := by
  obtain ⟨⟨_, f⟩, hfind, rfl⟩ := Option.map_eq_some_iff.1 h
  have hm := List.mem_of_find?_eq_some hfind
  refine ⟨f, hm, ?_⟩
  unfold field
  rw [Ordered.mem_pairs_iff.1 hm]

namespace Row

/-- A record is filled unless one of its fields refuses what the database delivers. -/
theorem fill_failsWith : ∀ {pairs : List (String × Value)} {r : Record}, (fill r pairs).FailsWith r.table.Refuses
  | [], _ => .ok _
  | (label, v) :: rest, r => by
    unfold fill
    split
    · exact fill_failsWith
    · next attr h =>
      obtain ⟨f, hm, hf⟩ := r.table.exists_field_of_attributeOf h
      rw [hf, ok_bind]
      exact ((Field.toApp_failsWith v).imp fun _ he => ⟨_, hm, he⟩).bind fun w _ => fill_failsWith (r := r.load attr w)

theorem load_failsWith (t : Table) (row : FetchedRow) : ∀ shape, (load t row shape).FailsWith t.Refuses
  | .tuple | .map => .ok _
  | .model => by
    rw [load]
    split
    · exact (fill_failsWith (r := .ofTable t)).map _
    · exact .ok _

end Row

/-! ## Values in statements -/

/-- Every name and every text is spelled so. -/
def Spelling.free : Spelling := ⟨fun _ => True, fun _ => True⟩

theorem TableRef.spelled_free (t : TableRef) : t.Spelled .free := ⟨fun _ _ => trivial, trivial⟩

theorem Table.spelled_free (t : Table) : t.Spelled .free := ⟨t.ref.spelled_free, fun _ _ => trivial⟩

mutual

theorem Expr.spelled_free : ∀ e : Expr, e.Spelled .free
  | .column c => ⟨c.table.spelled_free, trivial⟩
  | .raw _ => trivial
  | .call _ _ args => ⟨trivial, Operand.spelledAll_free args⟩
  | .binary _ lhs rhs => ⟨lhs.spelled_free, rhs.spelled_free⟩
  | .unary _ arg => arg.spelled_free
  | .between _ operand low high => ⟨operand.spelled_free, low.spelled_free, high.spelled_free⟩
  | .ordered e _ => e.spelled_free
  | .aliased e _ => ⟨e.spelled_free, trivial⟩
  | .select s => s.spelled_free

theorem Operand.spelled_free : ∀ a : Operand, a.Spelled .free
  | .value _ => trivial
  | .expr e => e.spelled_free
  | .raw _ => trivial

theorem Operand.spelledAll_free : ∀ args, Operand.SpelledAll .free args
  | [] => trivial
  | a :: rest => ⟨a.spelled_free, Operand.spelledAll_free rest⟩

theorem Expr.spelledAll_free : ∀ es, Expr.SpelledAll .free es
  | [] => trivial
  | e :: rest => ⟨e.spelled_free, Expr.spelledAll_free rest⟩

theorem Expr.spelledIn_free : ∀ e, Expr.SpelledIn .free e
  | none => trivial
  | some e => e.spelled_free

theorem Join.spelledAll_free : ∀ joins, Join.SpelledAll .free joins
  | [] => trivial
  | .mk _ table condition :: rest => ⟨table.ref.spelled_free, condition.spelled_free, Join.spelledAll_free rest⟩

theorem Select.spelled_free : ∀ s : Select, s.Spelled .free
  | ⟨table, columns, _, joins, filter, groupBy, having, orderBy, _, _, _, _⟩ =>
    ⟨table.spelled_free, Expr.spelledAll_free columns, Join.spelledAll_free joins, Expr.spelledIn_free filter,
      Expr.spelledAll_free groupBy, Expr.spelledIn_free having, Expr.spelledAll_free orderBy⟩

end

/-- If the piece fails with an error, a field has refused a value in it. -/
def Piece.RefusesAlone (p : Piece) : Prop :=
  ∀ e, p.failure = some e → e.isPanic = false → ∃ f : Field, f.Refuses e

theorem Piece.RefusesAlone.append {a b : Piece} (ha : a.RefusesAlone) (hb : b.RefusesAlone) :
    (a ++ b).RefusesAlone := by
  intro e he hreturned
  rw [append_failure] at he
  rcases Option.or_eq_some_iff.1 he with he | ⟨-, he⟩
  · exact ha e he hreturned
  · exact hb e he hreturned

/-- **Only refused values make a piece fail**, in whatever rendering composes. -/
theorem refusesAlone_invariant : Piece.Invariant .free Piece.RefusesAlone where
  append := .append
  inParens h := h
  call _ _ hargs := .append (.append nofun hargs) nofun
  placeholder _ := nofun
  failed h := by
    rintro e ⟨⟩ hreturned
    exact ⟨_, Field.toWire_failsWith _ _ h hreturned⟩
  keyword _ := nofun
  identifier _ := nofun
  verbatim _ := nofun
  number _ := nofun

theorem Piece.RefusesAlone.ofPiece {p : Piece} (h : p.RefusesAlone) :
    (Query.ofPiece p).FailsWith (BelongsTo [.data]) := by
  unfold Query.ofPiece outcome
  split
  · next e he =>
    refine FailsWith.error fun hreturned => ?_
    obtain ⟨f, hf⟩ := h e he hreturned
    exact .of_refuses hf
  · exact .ok _

theorem Select.render_failsWith (s : Select) : s.render.FailsWith (BelongsTo [.data]) :=
  (piece_invariant refusesAlone_invariant s.spelled_free).ofPiece

theorem Update.render_failsWith (u : Update) : u.render.FailsWith (BelongsTo [.usage, .data]) := by
  unfold render
  split
  · exact failsWith_fail rfl (by simp)
  · have hpiece := u.piece_invariant refusesAlone_invariant u.table.ref.spelled_free
      (fun a _ => ⟨trivial, a.2.spelled_free⟩) (Expr.spelledIn_free _)
    exact hpiece.ofPiece.imp fun _ he => he.mono (by simp)

theorem Delete.render_failsWith (d : Delete) : d.render.FailsWith (BelongsTo [.usage, .data]) := by
  unfold render
  split
  · exact failsWith_fail rfl (by simp)
  · have hpiece := d.piece_invariant refusesAlone_invariant d.table.ref.spelled_free (Expr.spelledIn_free _)
    exact hpiece.ofPiece.imp fun _ he => he.mono (by simp)

/-! ## Inserts -/

namespace Drawing

variable {α β : Type} {P : Error → Prop}

/-- Where the drawing fails, its error has the property, whatever it draws from. -/
def FailsWith (d : Drawing α) (P : Error → Prop) : Prop := ∀ σ, (d.answer σ).FailsWith P

namespace FailsWith

theorem pure (a : α) : FailsWith (Pure.pure a) P := fun _ => .ok a

theorem get : FailsWith MonadState.get P := fun σ => .ok σ

theorem set (σ : Supply) : FailsWith (MonadStateOf.set σ) P := fun _ => .ok PUnit.unit

theorem fail {cause : Cause} (h : P ⟨cause, []⟩) : FailsWith (Drawing.fail cause : Drawing α) P :=
  fun _ => .error fun _ => h

theorem lift {r : Result α} (h : r.FailsWith P) : FailsWith (monadLift r) P := by
  intro σ
  cases r with
  | ok a => exact .ok a
  | error e => exact .error (h e rfl)

theorem bind {d : Drawing α} {f : α → Drawing β} (hd : d.FailsWith P) (hf : ∀ a, (f a).FailsWith P) :
    (d >>= f).FailsWith P := by
  intro σ
  cases h : d.answer σ with
  | ok a =>
    obtain ⟨τ, ha⟩ := answer_eq_ok.1 h
    rw [answer_bind_of_gives ha]
    exact hf a τ
  | error e =>
    rw [answer_bind_of_error h]
    exact .error (hd σ e h)

end FailsWith

end Drawing

namespace Insert

variable {i : Insert} {row : Values} {attr : String} {f : Field}

theorem resolved_failsWith : (i.resolved row attr f).FailsWith (BelongsTo [.usage, .data]) := by
  have hrefused : ∀ d : Drawing (Option Value), d.FailsWith (BelongsTo [.usage, .data]) →
      (Drawing.fail (.notAllowed (.insert attr i.table.name)) >>= fun _ : Unit => d).FailsWith
        (BelongsTo [.usage, .data]) := by
    intro d hd
    exact .bind (.fail ⟨.usage, by simp, rfl⟩) fun _ => hd
  unfold resolved
  cases i.provided row attr with
  | none =>
    extract_lets _ _ supplied
    have hsupplied : ∀ u, (supplied u).FailsWith (BelongsTo [.usage, .data]) :=
      fun _ => Drawing.FailsWith.get.bind fun _ => (Drawing.FailsWith.set _).bind fun _ => .pure _
    split
    · exact .pure _
    · split
      · exact hrefused _ (hsupplied ())
      · exact hsupplied ()
  | some v =>
    dsimp only
    split
    · exact .pure _
    · split
      · exact hrefused _ (.pure _)
      · exact .pure _

theorem bound_failsWith : (i.bound row attr f).FailsWith (BelongsTo [.usage, .data]) := by
  unfold bound
  refine resolved_failsWith.bind fun resolved => ?_
  split
  · exact .pure _
  · split
    · split
      · exact .pure _
      · exact .fail ⟨.data, by simp, rfl⟩
    · refine .bind (.lift ?_) fun _ => .pure _
      exact (Field.toWire_failsWith _).imp fun _ he => (BelongsTo.of_refuses he).mono (by simp)

theorem boundFields_failsWith : ∀ {fs : List (String × Field)},
    (i.boundFields row fs).FailsWith (BelongsTo [.usage, .data])
  | [] => .pure _
  | (attr, f) :: rest => by
    unfold boundFields
    refine bound_failsWith.bind fun w => ?_
    split
    · exact boundFields_failsWith
    · exact boundFields_failsWith.bind fun _ => .pure _

theorem normalize_failsWith : (i.normalize row).FailsWith (BelongsTo [.usage, .data]) := by
  unfold normalize
  split
  · exact .fail ⟨.usage, by simp, rfl⟩
  · exact boundFields_failsWith

theorem batch_failsWith {columns : List String} : ∀ {rows : List Values},
    (i.batch columns rows).FailsWith (BelongsTo [.usage, .data])
  | [] => .pure _
  | row :: rows => by
    unfold batch
    refine normalize_failsWith.bind fun bound => ?_
    split
    · exact .bind (.fail ⟨.usage, by simp, rfl⟩) fun _ => batch_failsWith.bind fun _ => .pure _
    · exact batch_failsWith.bind fun _ => .pure _

theorem render_failsWith (i : Insert) : i.render.FailsWith (BelongsTo [.usage, .data]) := by
  unfold render
  split
  · exact .fail ⟨.usage, by simp, rfl⟩
  · refine normalize_failsWith.bind fun bound => ?_
    split
    · exact .pure _
    · exact batch_failsWith.bind fun _ => .pure _

end Insert

/-! ## Building and defining -/

theorem Table.field_failsWith (t : Table) (attr : String) : (t.field attr).FailsWith (BelongsTo [.usage]) := by
  unfold field
  split
  · exact .ok _
  · exact failsWith_fail rfl (by simp)

theorem Update.assign_failsWith (u : Update) (attr : String) (value : Operand) :
    (u.assign attr value).FailsWith (BelongsTo [.usage]) := by
  refine (u.table.field_failsWith attr).bind fun f _ => ?_
  split
  · exact failsWith_fail rfl (by simp)
  · exact .ok _

theorem Update.setAll_failsWith : ∀ (pairs : List (String × Value)) (u : Update),
    (u.setAll pairs).FailsWith (BelongsTo [.usage])
  | [], _ => .ok _
  | (attr, v) :: rest, u => (u.assign_failsWith attr (.value v)).bind fun u _ => setAll_failsWith rest u

theorem CreateTable.columns_failsWith : ∀ {fs : List (String × Field)},
    (columns fs).FailsWith (BelongsTo [.usage])
  | [] => .ok _
  | (_, f) :: rest => by
    have hdefinition : f.definition.FailsWith (BelongsTo [.usage]) := by
      unfold Field.definition
      split
      · exact failsWith_fail rfl (by simp)
      · exact (FailsWith.orPanic _).map _
    exact hdefinition.bind fun _ _ => columns_failsWith.bind fun _ _ => .ok _

theorem CreateTable.render_failsWith (c : CreateTable) : c.render.FailsWith (BelongsTo [.usage]) :=
  columns_failsWith.bind fun _ _ => .ok _

/-! ## Conditions -/

namespace Error

/-- The error says what was found in the place of a list or a subquery. -/
def IsOperandType (e : Error) : Prop := ∃ operator found, e = ⟨.operandType operator found, []⟩

/-- The error says that there is no condition to combine. -/
def IsNoConditions (e : Error) : Prop := ∃ operator, e = ⟨.usage (.noConditions operator), []⟩

end Error

theorem Operand.requireSequence_failsWith (a : Operand) (operator : String) :
    (a.requireSequence operator).FailsWith IsOperandType := by
  unfold requireSequence
  split
  · exact .ok _
  · exact .error fun _ => ⟨_, _, rfl⟩

/-- An expression that is made of a sequence alone. -/
theorem Operand.sequence_failsWith (a : Operand) (operator : String) (e : Expr) :
    (a.requireSequence operator >>= fun _ => pure e).FailsWith IsOperandType :=
  (a.requireSequence_failsWith operator).bind fun _ _ => .ok e

theorem Expr.combine_failsWith (op : BinaryOp) : ∀ conditions, (combine op conditions).FailsWith IsNoConditions
  | [] => .error fun _ => ⟨_, rfl⟩
  | _ :: _ => .ok _

theorem Select.filterAll_failsWith (s : Select) (conditions : List Expr) :
    (s.filterAll conditions).FailsWith IsNoConditions :=
  (Expr.combine_failsWith .and conditions).bind fun _ _ => .ok _

/-! ## All operations -/

/-- **Every error is in a family of its operation**, and none is outside the families. What a field refuses, it refuses
under the name of its column. -/
theorem failsWith_families :
    (∀ d : Declaration, d.compile.FailsWith (BelongsTo [.schema])) ∧
    (∀ (f : Field) v, (f.toWire v).FailsWith (fun e => e.BelongsTo [.data] ∧ f.Refuses e) ∧
      (f.toApp v).FailsWith fun e => e.BelongsTo [.data] ∧ f.Refuses e) ∧
    (∀ t row shape, (Row.load t row shape).FailsWith fun e => e.BelongsTo [.data] ∧ t.Refuses e) ∧
    (∀ s : Select, s.render.FailsWith (BelongsTo [.data])) ∧
    (∀ i : Insert, i.render.FailsWith (BelongsTo [.usage, .data])) ∧
    (∀ u : Update, u.render.FailsWith (BelongsTo [.usage, .data]) ∧
      (∀ attr value, (u.assign attr value).FailsWith (BelongsTo [.usage, .data])) ∧
      ∀ pairs, (u.setAll pairs).FailsWith (BelongsTo [.usage, .data])) ∧
    (∀ d : Delete, d.render.FailsWith (BelongsTo [.usage, .data])) ∧
    (∀ c : CreateTable, c.render.FailsWith (BelongsTo [.usage, .data])) ∧
    (∀ (e : Expr) (a : Operand), (e.isIn a).FailsWith IsOperandType ∧ (e.isNotIn a).FailsWith IsOperandType ∧
      a.existing.FailsWith IsOperandType ∧ a.missing.FailsWith IsOperandType) ∧
    (∀ conditions, (Expr.allOf conditions).FailsWith IsNoConditions ∧ (Expr.anyOf conditions).FailsWith IsNoConditions ∧
      ∀ s : Select, (s.filterAll conditions).FailsWith IsNoConditions) := by
  have hrefuses : ∀ (f : Field) e, f.Refuses e → e.BelongsTo [.data] ∧ f.Refuses e :=
    fun f e he => ⟨.of_refuses he, he⟩
  have husage : ∀ e : Error, e.BelongsTo [.usage] → e.BelongsTo [.usage, .data] := fun e he => he.mono (by simp)
  refine ⟨Declaration.compile_failsWith, fun f v => ⟨?_, ?_⟩, fun t row shape => ?_, Select.render_failsWith,
    Insert.render_failsWith, fun u => ⟨u.render_failsWith, fun attr value => ?_, fun pairs => ?_⟩,
    Delete.render_failsWith, fun c => ?_, fun e a => ?_, fun conditions => ?_⟩
  · exact (Field.toWire_failsWith v).imp (hrefuses f)
  · exact (Field.toApp_failsWith v).imp (hrefuses f)
  · refine (Row.load_failsWith t row shape).imp ?_
    rintro e ⟨p, hp, he⟩
    exact ⟨.of_refuses he, p, hp, he⟩
  · exact (u.assign_failsWith attr value).imp husage
  · exact (Update.setAll_failsWith pairs u).imp husage
  · exact c.render_failsWith.imp husage
  · exact ⟨a.sequence_failsWith _ _, a.sequence_failsWith _ _, a.sequence_failsWith _ _, a.sequence_failsWith _ _⟩
  · exact ⟨Expr.combine_failsWith .and conditions, Expr.combine_failsWith .or conditions,
      fun s => s.filterAll_failsWith conditions⟩

/-- The debts of an amount that is no number. -/
def Sample.muchDebt : Select :=
  { Select.ofTable debt with filter := some (.binary .equal (column debt 2) (.value (.text "much"))) }

theorem failsWith_families_muchDebt :
    Sample.muchDebt.render = .error (.expected "amount" "a decimal" (.text "much")) ∧
      Error.BelongsTo [.data] (.expected "amount" "a decimal" (.text "much")) ∧
      ({ className := "Empty" } : Declaration).compile = fail (.missingPrimaryKey "empty") ∧
      Error.BelongsTo [.schema] (Cause.missingPrimaryKey "empty") := by
  have hselect : Sample.muchDebt.render = .error (.expected "amount" "a decimal" (.text "much")) := rfl
  have hcompile : ({ className := "Empty" } : Declaration).compile = fail (.missingPrimaryKey "empty") := rfl
  obtain ⟨hschema, -, -, hdata, -⟩ := failsWith_families
  exact ⟨hselect, hdata _ _ hselect rfl, hcompile, hschema _ _ hcompile rfl⟩

end SqlMapper
