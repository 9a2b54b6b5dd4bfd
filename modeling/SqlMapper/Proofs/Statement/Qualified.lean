import SqlMapper.Proofs.Rendering.Clauses
import SqlMapper.Proofs.Rendering.Places
import SqlMapper.Proofs.Rendering.Scopes
import SqlMapper.Proofs.Sample
import SqlMapper.Proofs.Statement.Query

/-!
# Columns with their tables

A column is written with its table exactly if a select around it joins or is embedded in another statement
(`columns_qualified`). The table itself plays no other part: statements that differ in the table of one column fail
alike, or their texts differ in that one place (`Piece.Shows`). Each node around a column leaves a scope to its parts
that asks for tables if its own does, and a select may begin to ask for them (`Frame.shows`); no scope stops.
-/

namespace SqlMapper

open Piece

/-! ## Pieces that differ in one place -/

/-- The pieces fail alike, or nothing but one text in one place tells them apart. -/
def Piece.Shows {ι : Type} (p : ι → Piece) (s : ι → String) : Prop :=
  (∃ e, ∀ i, (p i).failure = some e) ∨ ∃ before after params, ∀ i, p i = ⟨before ++ s i ++ after, params, none⟩

namespace Piece

variable {ι : Type} {p : ι → Piece} {s : ι → String}

theorem shows_ofText (s : ι → String) : Shows (fun i => ofText (s i)) s :=
  .inr ⟨"", "", [], fun i => by rw [String.empty_append, String.append_empty]; rfl⟩

theorem Shows.append_left (a : Piece) (h : Shows p s) : Shows (fun i => a ++ p i) s := by
  cases ha : a.failure with
  | some e => exact .inl ⟨e, fun i => (append_failure a (p i)).trans (by rw [ha]; rfl)⟩
  | none =>
    rcases h with ⟨e, he⟩ | ⟨before, after, params, hp⟩
    · exact .inl ⟨e, fun i => (append_failure a (p i)).trans (by rw [ha, he]; rfl)⟩
    · refine .inr ⟨a.text ++ before, after, a.params ++ params, fun i => (append_of_ok ha).trans ?_⟩
      rw [hp]
      simp only [String.append_assoc]

theorem Shows.append_right (h : Shows p s) (b : Piece) : Shows (fun i => p i ++ b) s := by
  rcases h with ⟨e, he⟩ | ⟨before, after, params, hp⟩
  · exact .inl ⟨e, fun i => (append_failure (p i) b).trans (by rw [he]; rfl)⟩
  · have hok (i : ι) : (p i).failure = none := by rw [hp]
    cases hb : b.failure with
    | some e => exact .inl ⟨e, fun i => (append_failure (p i) b).trans (by rw [hok, hb]; rfl)⟩
    | none =>
      refine .inr ⟨before, after ++ b.text, params ++ b.params, fun i => (append_of_ok (hok i)).trans ?_⟩
      rw [hb, hp]
      simp only [String.append_assoc]

theorem Shows.inParens (h : Shows p s) : Shows (fun i => (p i).inParens) s := by
  rcases h with h | ⟨before, after, params, hp⟩
  · exact .inl h
  · refine .inr ⟨"(" ++ before, after ++ ")", params, fun i => (congrArg Piece.inParens (hp i)).trans ?_⟩
    simp only [Piece.inParens, String.append_assoc]

theorem Shows.separated (h : Shows p s) (after : List Piece) : ∀ before : List Piece,
    Shows (fun i => separated (before ++ p i :: after)) s
  | [] => by
    cases after with
    | nil => exact h
    | cons q after => exact (h.append_right _).append_right _
  | q :: before => by
    have ih := (h.separated after before).append_left (q ++ ofText ", ")
    cases before <;> exact ih

/-- One of several pieces shows the text, and the others are always the same. -/
theorem Shows.concat_map {κ : Type} {p : ι → κ → Piece} {k : κ} (h : Shows (p · k) s) {q : κ → Piece}
    (hq : ∀ k', k' ≠ k → ∀ i, p i k' = q k') : ∀ {ks : List κ}, ks.Nodup → k ∈ ks →
    Shows (fun i => concat (ks.map (p i))) s
  | k' :: ks, hks, hk => by
    obtain ⟨hnot, hks⟩ := List.nodup_cons.1 hks
    simp only [List.map_cons, concat_cons]
    rcases List.mem_cons.1 hk with rfl | hk
    · have hrest (i : ι) : ks.map (p i) = ks.map q :=
        List.map_congr_left fun k' hk' => hq k' (fun h => hnot (h ▸ hk')) i
      simp only [hrest]
      exact h.append_right _
    · have hfirst (i : ι) : p i k' = q k' := hq k' (fun h => hnot (h ▸ hk)) i
      simp only [hfirst]
      exact (h.concat_map hq hks hk).append_left _

end Piece

/-! ## Nodes around a column -/

/-- Expressions that differ in the table of a column at one place. In every scope they show the column, with its table
if the scope asks for it or a select around the place does. -/
structure Expr.Shows (f : Field) (attr : String) (inner : Bool) (e : TableRef → Expr) : Prop where
  field (t t' : TableRef) : (e t).field? = (e t').field?
  piece (o : Options) : Piece.Shows (fun t => (e t).piece o) fun t => Column.written ⟨t, attr, f⟩ (o.qualify || inner)

variable {f : Field} {attr : String} {inner : Bool} {e : TableRef → Expr}

theorem Expr.shows_column (f : Field) (attr : String) : Expr.Shows f attr false fun t => .column ⟨t, attr, f⟩ where
  field _ _ := rfl
  piece o := by
    rw [Bool.or_false]
    exact shows_ofText _

theorem Operand.pieces_append (o : Options) : ∀ before after : List Operand,
    Operand.pieces o (before ++ after) = Operand.pieces o before ++ Operand.pieces o after
  | [], _ => rfl
  | a :: before, after => congrArg (Operand.piece o a :: ·) (Operand.pieces_append o before after)

theorem Expr.pieces_append (o : Options) : ∀ before after : List Expr,
    Expr.pieces o (before ++ after) = Expr.pieces o before ++ Expr.pieces o after
  | [], _ => rfl
  | e :: before, after => congrArg (e.piece o :: ·) (Expr.pieces_append o before after)

namespace Expr.Shows

theorem pieces (h : Shows f attr inner e) (o : Options) (before after : List Expr) :
    Piece.Shows (fun t => separated (Expr.pieces o (before ++ e t :: after)))
      fun t => Column.written ⟨t, attr, f⟩ (o.qualify || inner) := by
  simp only [Expr.pieces_append, Expr.pieces]
  exact (h.piece o).separated _ _

theorem operands (h : Shows f attr inner e) (o : Options) (before after : List Operand) :
    Piece.Shows (fun t => separated (Operand.pieces o (before ++ .expr (e t) :: after)))
      fun t => Column.written ⟨t, attr, f⟩ (o.qualify || inner) := by
  simp only [Operand.pieces_append, Operand.pieces, Operand.piece]
  exact (h.piece o).separated _ _

theorem joins (h : Shows f attr inner e) (o : Options) (kind : JoinKind) (table : Table) (before after : List Join) :
    Piece.Shows (fun t => Join.pieces o (before ++ .mk kind table (e t) :: after))
      fun t => Column.written ⟨t, attr, f⟩ (o.qualify || inner) := by
  induction before with
  | nil => exact ((h.piece o).append_left _).append_right _
  | cons j before ih =>
    cases j
    exact ih.append_left _

end Expr.Shows

/-! ## Selects around a column -/

/-- The clause of a gap. -/
def Select.Gap.clause : Select.Gap → Clause
  | .column .. => .select
  | .condition .. => .join
  | .filter => .filter
  | .groupBy .. => .groupBy
  | .having => .having
  | .orderBy .. => .orderBy

namespace Select

variable (s : Select) (gap : Select.Gap) (o : Options)

theorem put_inner (e : Expr) : (s.put e gap).inner o =
    { o with qualify := o.qualify || s.joinsAround gap, bind := true, nested := false, converter := none } := by
  cases gap <;> simp [put, inner, joinsAround]

/-- The other clauses know nothing of the gap. -/
theorem put_clause_of_ne {k : Clause} (h : k ≠ gap.clause) (e : Expr) : (s.put e gap).clause o k = s.clause o k := by
  cases gap <;> cases k <;> first | rfl | exact absurd rfl h

/-- The clause of the gap shows what stands in it. -/
theorem shows_clause (h : Expr.Shows f attr inner e) : Piece.Shows (fun t => (s.put (e t) gap).clause o gap.clause)
    fun t => Column.written ⟨t, attr, f⟩ (o.qualify || inner) := by
  have hcons {α : Type} (before : List α) (a : α) (after : List α) : (before ++ a :: after).isEmpty = false := by simp
  cases gap with
  | column before after =>
    simp only [put, clause, Gap.clause, hcons, if_neg Bool.false_ne_true]
    exact (h.pieces o before after).append_left (ofText (if s.distinct then "SELECT DISTINCT " else "SELECT "))
  | condition before kind table after => exact h.joins o kind table before after
  | filter => exact (h.piece o).append_left _
  | groupBy before after =>
    simp only [put, clause, Gap.clause, hcons, if_neg Bool.false_ne_true]
    exact (h.pieces o before after).append_left _
  | having => exact (h.piece o).append_left _
  | orderBy before after =>
    simp only [put, clause, Gap.clause, hcons, if_neg Bool.false_ne_true]
    exact (h.pieces o before after).append_left _

/-- A select shows what stands in its gap, with the table if it joins. -/
theorem shows_piece (h : Expr.Shows f attr inner e) : Piece.Shows (fun t => (s.put (e t) gap).piece o)
    fun t => Column.written ⟨t, attr, f⟩ (o.qualify || s.joinsAround gap || inner) := by
  simp only [piece_eq, put_inner]
  exact (s.shows_clause gap _ h).concat_map (fun _ hk t => s.put_clause_of_ne gap _ hk (e t)) (by decide)
    (Clause.mem_all gap.clause)

end Select

/-! ## Places of a column -/

/-- What the field of a node comes to depends on the fields of its parts. -/
theorem Frame.field?_put (frame : Frame) {e e' : Expr} (h : e.field? = e'.field?) :
    (frame.put e).field? = (frame.put e').field? := by
  cases frame <;> simp only [put, Expr.field?, Expr.operandField?, h]

/-- **A node shows what stands in its gap**, with the table if it is a select. -/
theorem Frame.shows (frame : Frame) (h : Expr.Shows f attr inner e) :
    Expr.Shows f attr (frame.enclosure?.any Enclosure.qualifies || inner) fun t => frame.put (e t) where
  field t t' := frame.field?_put (h.field t t')
  piece o := by
    -- the node converts the values beside the gap by a field that no table changes
    obtain ⟨g, hg⟩ : ∃ g, ∀ t, (e t).field? = g := ⟨_, fun t => h.field t ⟨none, ""⟩⟩
    cases frame with
    | argument function distinct before after =>
      simp only [put, Expr.piece]
      exact ((h.operands { o with converter := none } before after).append_left _).append_right _
    | left op rhs =>
      simp only [put, Expr.piece, Expr.field?, Expr.operandField?, Operand.piece, hg]
      exact (((h.piece _).append_right _).append_right _).inParens
    | right op lhs =>
      simp only [put, Expr.piece, Expr.field?, Expr.operandField?, Operand.piece, Operand.isNull, Bool.and_false, hg]
      cases op.isMembership with
      | true => exact ((h.piece _).append_left _).inParens
      | false => exact ((h.piece _).append_left _).inParens
    | unary op =>
      simp only [put, Expr.piece, Operand.field?, Expr.operandField?, Operand.piece, hg]
      cases op with
      | negative | not | «exists» | notExists => exact ((h.piece _).append_left _).inParens
      | isNull | isNotNull => exact ((h.piece _).append_right _).inParens
    | tested negated low high =>
      simp only [put, Expr.piece, Operand.field?, Expr.operandField?, Operand.piece, hg]
      exact (((((h.piece _).append_right _).append_right _).append_right _).append_right _).inParens
    | lowest negated operand high =>
      simp only [put, Expr.piece, Operand.piece]
      exact ((((h.piece _).append_left _).append_right _).append_right _).inParens
    | highest negated operand low =>
      simp only [put, Expr.piece, Operand.piece]
      exact ((h.piece _).append_left _).inParens
    | ordered order => exact (h.piece o).append_right _
    | aliased label => exact (h.piece o).append_right _
    | select s gap =>
      have hselect := s.shows_piece gap { o with parenthesize := false, qualify := true } h
      simpa [put, Expr.piece, enclosure?, Enclosure.qualifies] using hselect.inParens

/-- **Nodes inside of nodes**, by the step of one node. -/
theorem Expr.shows_inside (f : Field) (attr : String) : ∀ frames : List Frame,
    Expr.Shows f attr ((frames.filterMap Frame.enclosure?).any Enclosure.qualifies)
      fun t => (Expr.column ⟨t, attr, f⟩).inside frames
  | [] => Expr.shows_column f attr
  | frame :: frames => by
    have ih := frame.shows (Expr.shows_inside f attr frames)
    cases hs : frame.enclosure? with
    | none =>
      rw [hs] at ih
      rw [List.filterMap_cons_none hs]
      exact ih
    | some s =>
      rw [hs] at ih
      rw [List.filterMap_cons_some hs, List.any_cons]
      exact ih

/-! ## Statements -/

/-- Rendering the statements comes to one error, or nothing but one text in one place tells them apart. -/
def Statement.Shows {ι : Type} (st : ι → Statement) (s : ι → String) : Prop :=
  (∃ err, ∀ i, (st i).render = throw err) ∨
    ∃ before after params, ∀ i, (st i).render = pure ⟨Query.terminated (before ++ s i ++ after), .single params⟩

theorem Statement.shows_of_piece {ι : Type} {st : ι → Statement} {s : ι → String} {p : ι → Piece} (h : Piece.Shows p s)
    (hst : ∀ i, (st i).render = monadLift (Query.ofPiece (p i))) : Statement.Shows st s := by
  rcases h with ⟨err, herr⟩ | ⟨before, after, params, hp⟩
  · refine .inl ⟨err, fun i => ?_⟩
    rw [hst, Query.ofPiece, Piece.outcome, herr]
    rfl
  · refine .inr ⟨before, after, params, fun i => ?_⟩
    rw [hst, hp]
    rfl

theorem Expr.Shows.clause (h : Expr.Shows f attr inner e) (o : Options) (keyword : String) :
    Piece.Shows (fun t => Expr.clause o keyword (some (e t)))
      fun t => Column.written ⟨t, attr, f⟩ (o.qualify || inner) := (h.piece o).append_left _

theorem Update.render_of_ne_nil {u : Update} (h : u.assignments ≠ []) : u.render = Query.ofPiece u.piece :=
  if_neg (by simpa using h)

/-- A column at a place, by the selects around the place. -/
theorem Statement.Place.shows (p : Statement.Place) (f : Field) (attr : String) :
    Statement.Shows (fun t => p.put (.column ⟨t, attr, f⟩))
      fun t => Column.written ⟨t, attr, f⟩ (p.enclosures.any Enclosure.qualifies) := by
  obtain ⟨gap, frames⟩ := p
  have he := Expr.shows_inside f attr frames
  cases gap with
  | select s gap =>
    have hpiece := s.shows_piece gap {} he
    refine Statement.shows_of_piece (p := fun t => (s.put ((Expr.column ⟨t, attr, f⟩).inside frames) gap).piece {}) ?_
      fun _ => rfl
    simpa [enclosures, Statement.Gap.enclosure?, Enclosure.qualifies] using hpiece
  | assignment u before g after =>
    have hvalue := (he.piece { converter := some g }).append_left (ofText (Literal.identifier g.name ++ "="))
    have hset := hvalue.separated (after.map fun a => Update.assignment a.1 a.2)
      (before.map fun a => Update.assignment a.1 a.2)
    refine Statement.shows_of_piece ((hset.append_left (ofText ("UPDATE " ++ u.table.ref.text ++ " SET "))).append_right
      (Expr.clause {} " WHERE " u.filter)) fun t => ?_
    have hne : before ++ (g, .expr ((Expr.column ⟨t, attr, f⟩).inside frames)) :: after ≠ [] := by simp
    refine congrArg monadLift ((Update.render_of_ne_nil hne).trans ?_)
    rw [Update.piece_eq, List.map_append, List.map_cons]
    rfl
  | updated u =>
    cases hu : u.assignments with
    | nil =>
      -- nothing is assigned, so that nothing is rendered
      refine .inl ⟨⟨.usage (.nothingToUpdate u.table.name), []⟩, fun t => congrArg monadLift (if_pos ?_)⟩
      rw [hu]
      rfl
    | cons a rest =>
      have hne : u.assignments ≠ [] := by simp [hu]
      refine Statement.shows_of_piece ((he.clause {} " WHERE ").append_left (ofText ("UPDATE " ++ u.table.ref.text ++
        " SET ") ++ separated (u.assignments.map fun a => Update.assignment a.1 a.2))) fun t => ?_
      exact congrArg monadLift (Update.render_of_ne_nil hne)
  | deleted d =>
    exact Statement.shows_of_piece (((he.clause {} " WHERE ").append_left (ofText ("DELETE FROM " ++ d.table.ref.text))
      ).append_right (limitClause d.limit none)) fun t => rfl

theorem Expr.pieces_columns (o : Options) : ∀ cs : List Column,
    Expr.pieces o (cs.map .column) = (cs.map (·.written o.qualify)).map ofText
  | [] => rfl
  | c :: cs => congrArg (ofText (c.written o.qualify) :: ·) (Expr.pieces_columns o cs)

/-- A select without columns has those of its table. -/
theorem Select.piece_of_no_columns (s : Select) (o : Options) :
    Select.piece o { s with columns := [] } = Select.piece o { s with columns := s.table.columns.map .column } := by
  rw [piece_eq, piece_eq]
  refine congrArg concat (List.map_congr_left fun k _ => ?_)
  cases k with
  | select =>
    refine congrArg (ofText (if s.distinct then "SELECT DISTINCT " else "SELECT ") ++ ·) ?_
    show _ = if (s.table.columns.map Expr.column).isEmpty then _ else _
    rw [Expr.pieces_columns, separated_ofText]
    exact (ite_self _).symm
  | _ => rfl

/-- **A column is written with its table exactly if a select around it joins or is embedded.** Every column of a select,
an update or a delete stands at a place. There its table decides neither whether rendering fails nor anything else of
the text than the name in front of the column. The columns of a table stand for a select that lists none. What follows
a select, closed or failed, is written as without it. -/
theorem columns_qualified :
    (∀ (st : Statement) (c : Column), c ∈ st.columnNodes → ∃ p : Statement.Place, p.put (.column c) = st) ∧
    (∀ (p : Statement.Place) (f : Field) (attr : String),
      (∃ err, ∀ t, (p.put (.column ⟨t, attr, f⟩)).render = throw err) ∨
      ∃ before after params, ∀ t, (p.put (.column ⟨t, attr, f⟩)).render = pure
        ⟨Query.terminated (before ++ ((if p.enclosures.any fun s => s.joins || s.embedded then t.text ++ "." else "") ++
          Literal.identifier f.name) ++ after), .single params⟩) ∧
    (∀ (s : Select) (o : Options),
      Select.piece o { s with columns := [] } = Select.piece o { s with columns := s.table.columns.map .column }) ∧
    ∀ (s : Select) (a : Operand) (c : Context),
      let d := ((Expr.select s).write c).1
      ∃ p, a.write c = (c.add p, p.failure) ∧ a.write d = (d.add p, p.failure) := by
  refine ⟨fun st c => Statement.exists_place, fun p f attr => p.shows f attr, Select.piece_of_no_columns,
    fun s a c => ?_⟩
  obtain ⟨q, hselect, -⟩ := Expr.write_renders (.select s)
  obtain ⟨r, hsibling, -⟩ := Operand.write_renders a
  have hoptions : ((Expr.select s).write c).1.options = c.options := by rw [hselect c, Context.add_options]
  refine ⟨r c.options, hsibling c, ?_⟩
  rw [hsibling, hoptions]

/-- The age of one person becomes what that person owes. -/
def Sample.aging : Update where
  table := person
  assignments := [(named "age" (.integer .int), .expr (.select
    { Select.ofTable debt with
      columns := [.call "SUM" false [column debt 2]]
      filter := some (.binary .equal (column debt 1) (column person 0)) }))]
  filter := some (.binary .equal (column person 0) (.value (.int 7)))

/-- The key of the person has its table inside of the select and none behind it. -/
theorem columns_qualified_aging :
    (∃ p : Statement.Place, p.put (.column ⟨Sample.person.ref, "id", Sample.named "id" .auto⟩) = .update Sample.aging) ∧
    Sample.aging.piece.text = "UPDATE `person` SET `age`=(SELECT SUM(`shop`.`debt`.`amount`) FROM `shop`.`debt` " ++
      "WHERE (`shop`.`debt`.`person_id` = `person`.`id`)) WHERE (`id` = %s)" := by
  refine ⟨columns_qualified.1 _ _ ?_, rfl⟩
  exact List.mem_append_right _ (List.mem_singleton.2 rfl)

end SqlMapper
