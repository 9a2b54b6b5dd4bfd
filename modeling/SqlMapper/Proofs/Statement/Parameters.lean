import SqlMapper.Proofs.Rendering.Parameters
import SqlMapper.Proofs.Sample
import SqlMapper.Proofs.Statement.Insert
import SqlMapper.Proofs.Statement.Query

/-!
# Placeholders and parameters of statements

A rendered statement without percent sign in its names and verbatim texts marks as many parameters as each of its
sets has, so the server takes it and binds exactly these parameters, in order, lists by their items
(`Statement.render_bindsExactly`). The text of an insert marks one parameter for each column (`Insert.marks_text`),
and the piece of any other statement is balanced.
-/

namespace SqlMapper

open Placeholder Piece

/-- The sets of parameters that a statement runs with. -/
def Params.sets : Params → List (List Value)
  | single values => [values]
  | many rows => rows

/-- Each set has a parameter for each placeholder, and the server binds all of them in order, lists by their items. -/
def Query.BindsExactly (q : Query) : Prop :=
  ∀ params ∈ q.params.sets, marked q.sql.toList = params.length ∧
    ∃ text, Placeholder.bind q.sql params = .ok (text, params.flatMap values)

/-! ## Queries -/

theorem marks_terminated {sql : String} {n : Nat} (h : Marks sql n) : Marks (Query.terminated sql) n := by
  unfold Query.terminated
  split
  · exact h
  · exact h.append_zero (marks_zero_of_no_percent (by decide))

theorem Query.bindsExactly_of_marks {q : Query} {n : Nat} (h : Marks q.sql n)
    (hlen : ∀ params ∈ q.params.sets, params.length = n) : q.BindsExactly := by
  intro params hp
  have hm : marked q.sql.toList = params.length := by rw [h.2, hlen params hp]
  exact ⟨hm, _, bind_eq_ok hm⟩

/-- The statement of a balanced piece binds the parameters of the piece. -/
theorem Query.bindsExactly_ofPiece {p : Piece} {q : Query} (hp : p.Balanced) (h : Query.ofPiece p = .ok q) :
    q.BindsExactly := by
  obtain ⟨-, rfl⟩ := Query.ofPiece_eq_ok_iff.1 h
  refine Query.bindsExactly_of_marks (marks_terminated hp) ?_
  intro params hs
  rw [List.mem_singleton.1 hs]

/-! ## Statements -/

/-- The text of an insert marks one parameter for each column. -/
theorem Insert.marks_text {i : Insert} (htable : i.table.ref.Spelled .percentFree) {columns : List String}
    (hcolumns : ∀ c ∈ columns, '%' ∉ c.toList) : Marks (i.text columns) columns.length := by
  have hnames : Marks (Text.joinedBy ", " (columns.map Literal.identifier)) 0 := by
    apply marks_joinedBy (marks_zero_of_no_percent (by decide))
    intro s hs
    obtain ⟨c, hc, rfl⟩ := List.mem_map.1 hs
    exact marks_identifier (hcolumns c hc)
  have htext : Marks i.table.ref.text 0 := balanced_invariant.tableRef htable
  have hmarks : Marks (Text.commaSeparated (columns.map fun _ => "%s")) columns.length := by
    have hitems : ∀ s ∈ columns.map fun _ => "%s", Marks s 1 := by
      intro s hs
      obtain ⟨_, _, rfl⟩ := List.mem_map.1 hs
      exact marks_placeholder
    have := marks_commaSeparated hitems
    rwa [List.length_map] at this
  unfold text
  refine Marks.append_zero (Marks.zero_append ?_ hmarks) (marks_zero_of_no_percent (by decide))
  refine Marks.append_zero (Marks.append_zero (Marks.append_zero (Marks.append_zero ?_ htext) ?_) hnames) ?_
  · split <;> exact marks_zero_of_no_percent (by decide)
  · exact marks_zero_of_no_percent (by decide)
  · exact marks_zero_of_no_percent (by decide)

/-- The columns of a normalized row are columns of the table. -/
theorem Insert.mem_columns_of_normalize {i : Insert} {row : Values} {σ τ : Supply} {bound : List (Field × Value)}
    (h : (i.normalize row).Gives σ bound τ) {p : Field × Value} (hp : p ∈ bound) :
    ∃ attr, (attr, p.1) ∈ i.table.fields.pairs := by
  have hsub := boundFields_sublist (normalize_gives h).2
  obtain ⟨⟨attr, f⟩, hf, hfp⟩ := List.mem_map.1 (hsub.subset (List.mem_map_of_mem hp))
  exact ⟨attr, hfp ▸ hf⟩

theorem Insert.bindsExactly_of_gives {i : Insert} (hs : i.table.Spelled .percentFree) {σ τ : Supply} {q : Query}
    (h : i.render.Gives σ q τ) : q.BindsExactly := by
  obtain ⟨first, rest, bound, υ, -, hb, hsql, hparams⟩ := render_gives h
  have hcolumns : ∀ c ∈ bound.map (·.1.name), '%' ∉ c.toList := by
    intro c hc
    obtain ⟨p, hp, rfl⟩ := List.mem_map.1 hc
    obtain ⟨attr, hf⟩ := mem_columns_of_normalize hb hp
    exact hs.2 _ hf
  refine Query.bindsExactly_of_marks (n := (bound.map (·.1.name)).length) ?_ ?_
  · rw [hsql]
    exact marks_terminated (Insert.marks_text hs.1 hcolumns)
  · intro params hp
    rcases hparams with hq | ⟨sets, hbatch, hq⟩
    · rw [hq] at hp
      rw [List.mem_singleton.1 hp, List.length_map, List.length_map]
    · rw [hq] at hp
      rcases List.mem_cons.1 hp with rfl | hp
      · rw [List.length_map, List.length_map]
      · exact batch_gives hbatch params hp

/-- **Every placeholder has its parameter**: a statement that reads or changes rows, without percent sign in its names
and verbatim texts, marks as many parameters as each of its sets has, and the server binds exactly these. -/
theorem Statement.render_bindsExactly {s : Statement} (hs : s.Spelled .percentFree) {σ τ : Supply} {q : Query}
    (h : s.render.Gives σ q τ) : q.BindsExactly := by
  cases hs with
  | select hs =>
    exact Query.bindsExactly_ofPiece (Select.piece_invariant balanced_invariant hs) (Drawing.gives_lift.1 h).1
  | insert hs => exact Insert.bindsExactly_of_gives hs h
  | update htable hset hfilter =>
    exact Query.bindsExactly_ofPiece (Update.piece_invariant balanced_invariant htable hset hfilter)
      (Update.render_eq_ok (Drawing.gives_lift.1 h).1)
  | delete htable hfilter =>
    exact Query.bindsExactly_ofPiece (Delete.piece_invariant balanced_invariant htable hfilter)
      (Delete.render_eq_ok (Drawing.gives_lift.1 h).1)

/-- People whose age leaves a remainder or who are owed something by one of some people. -/
def Sample.owing : Select :=
  { Select.ofTable person with
    columns := [.column ⟨person.ref, "name", named "name" (.varchar 45)⟩]
    filter := some (.binary .or
      (.expr (.binary .equal (.expr (.binary .remainder (column person 2) (.value (.int 7)))) (.value (.int 3))))
      (.expr (.binary .inOp (column person 0) (.expr (.select
        { Select.ofTable debt with
          columns := [.column ⟨debt.ref, "person", named "person_id" (.integer .int)⟩]
          filter := some (.binary .inOp (.expr (.call "COALESCE" false [column debt 1, .value (.list [.null, .int 0])]))
            (.value (.list [.int 5, .int 10]))) })))))
    limit := some 5 }

theorem Sample.owing_spelled : owing.Spelled .percentFree := by
  simp [owing, Select.Spelled, Expr.SpelledAll, Expr.SpelledIn, Join.SpelledAll, Expr.Spelled, Operand.Spelled,
    Operand.SpelledAll, Select.ofTable, column, Table.Spelled, TableRef.Spelled, Column.Spelled, Column.name, person,
    debt, named, Table.columns, Spelling.percentFree]

theorem render_bindsExactly_owing : (Statement.select Sample.owing).Spelled .percentFree ∧
    ∃ sql, (Statement.select Sample.owing).render.Gives .start
        ⟨sql, .single [.int 7, .int 3, .null, .int 0, .list [.int 5, .int 10]]⟩ .start ∧
      Query.BindsExactly ⟨sql, .single [.int 7, .int 3, .null, .int 0, .list [.int 5, .int 10]]⟩ := by
  have hs := Statement.Spelled.select Sample.owing_spelled
  have hg : (Statement.select Sample.owing).render.Gives .start
      ⟨_, .single [.int 7, .int 3, .null, .int 0, .list [.int 5, .int 10]]⟩ .start :=
    Drawing.gives_lift.2 ⟨Query.ofPiece_eq_ok_iff.2 ⟨rfl, rfl⟩, rfl⟩
  exact ⟨hs, _, hg, Statement.render_bindsExactly hs hg⟩

end SqlMapper
