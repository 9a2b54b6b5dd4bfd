import SqlMapper.Proofs.Rendering.Neutral
import SqlMapper.Proofs.Result
import SqlMapper.Proofs.Sample
import SqlMapper.Proofs.Statement.Insert
import SqlMapper.Proofs.Statement.Query

/-!
# Single statements

Whatever the names, comments and values of a statement are, its text is one statement to the server: parentheses
outside of quoted texts are balanced, and the only semicolon outside of quoted texts ends the text
(`Statement.isSingle_of_render`). The texts that a statement writes as they are must have no mark
(`Statement.Unmarked`). The text in front of the semicolon is neutral in every statement, since each of its parts is.
-/

namespace SqlMapper

open Piece

variable {doubles : Bool}

/-! ## Queries -/

/-- A scan finds the text balanced and outside of quoted texts, where the only semicolon is the last character. -/
def Query.IsSingle (doubles : Bool) (q : Query) : Prop :=
  ∃ body, q.sql = body ++ ";" ∧ Scan.start.run doubles body.toList = some ⟨.outside, 0, 0⟩ ∧
    Scan.start.run doubles q.sql.toList = some ⟨.outside, 0, 1⟩

/-- No neutral text ends with a semicolon: outside of quoted texts it would count, and inside of them it would not end
the quoted text. -/
theorem Neutral.getLast?_ne {s : String} (h : Neutral doubles s) : s.toList.getLast? ≠ some ';' := by
  intro hlast
  obtain ⟨cs, hcs⟩ := List.getLast?_eq_some_iff.1 hlast
  unfold Neutral Nests at h
  rw [hcs, Scan.run_append] at h
  obtain ⟨t, -, hstep⟩ := Option.bind_eq_some_iff.1 h
  simp only [Scan.run_cons, Scan.run_nil, Option.bind_fun_some] at hstep
  have hq : Quote.begun? doubles ';' = none := by cases doubles <;> rfl
  rcases t with ⟨_ | q | q, depth, ended⟩
  · simp [Scan.step, hq] at hstep
  · cases q <;> simp [Scan.step, Quote.mark] at hstep
  · simp [Scan.step] at hstep

theorem Query.isSingle_of_neutral {s : String} {params : Params} (h : Neutral doubles s) :
    IsSingle doubles ⟨terminated s, params⟩ := by
  have ht : terminated s = s ++ ";" := if_neg h.getLast?_ne
  refine ⟨s, ht, h, ?_⟩
  show Scan.start.run doubles (terminated s).toList = _
  rw [ht, String.toList_append]
  refine (Scan.run_append_of_eq h).trans ?_
  cases doubles <;> rfl

theorem Query.isSingle_ofPiece {p : Piece} {q : Query} (hp : p.IsNeutral doubles) (h : Query.ofPiece p = .ok q) :
    q.IsSingle doubles := by
  obtain ⟨hok, rfl⟩ := Query.ofPiece_eq_ok_iff.1 h
  exact Query.isSingle_of_neutral (hp hok)

/-! ## Inserts -/

theorem neutral_identifiers (names : List String) :
    Neutral doubles (Text.joinedBy ", " (names.map Literal.identifier)) := by
  apply neutral_joinedBy (neutral_fixed (by decide))
  intro s hs
  obtain ⟨name, -, rfl⟩ := List.mem_map.1 hs
  exact neutral_identifier name

theorem Insert.neutral_text (i : Insert) (columns : List String) : Neutral doubles (i.text columns) := by
  have hverb : Neutral doubles (if i.isReplace then "REPLACE INTO " else "INSERT INTO ") :=
    .ite (neutral_fixed (by decide)) (neutral_fixed (by decide))
  have hopen : Nests doubles 0 1 " (" := nests_fixed (by decide)
  have hvalues : Nests doubles 1 1 ") VALUES (" := nests_fixed (by decide)
  have hplaceholders : Neutral doubles (Text.commaSeparated (columns.map fun _ => "%s")) := by
    apply neutral_commaSeparated
    intro s hs
    obtain ⟨_, -, rfl⟩ := List.mem_map.1 hs
    exact neutral_fixed (by decide)
  have hclose : Nests doubles 1 0 ")" := nests_fixed (by decide)
  unfold text
  exact (((((hverb.append (neutral_tableRef i.table.ref)).append hopen).append
    ((neutral_identifiers columns).nests 1)).append hvalues).append (hplaceholders.nests 1)).append hclose

/-! ## Table definitions -/

/-- The texts of a column that its definition writes as they are. -/
def Field.verbatims (f : Field) : List String :=
  f.charset.toList ++
    match f.default with
    | .raw sql => [sql]
    | _ => []

/-- The texts of a table that its definition writes as they are. -/
def Table.verbatims (t : Table) : List String :=
  t.engine :: t.charset :: t.fields.pairs.flatMap fun p => p.2.verbatims

theorem neutral_repr (n : Nat) : Neutral doubles (Nat.repr n) := neutral_of_harmless (harmless_repr n)

/-- The arguments of a type, one number or two. -/
theorem neutral_arguments {opened : String} (h : Nests doubles 0 1 opened) (n : Nat) :
    Neutral doubles (opened ++ Nat.repr n ++ ")") :=
  (h.append ((neutral_repr n).nests 1)).append (nests_fixed (by decide))

theorem neutral_precision {opened : String} (h : Nests doubles 0 1 opened) (digits decimals : Nat) :
    Neutral doubles (opened ++ Nat.repr digits ++ "," ++ Nat.repr decimals ++ ")") :=
  neutral_arguments ((h.append ((neutral_repr digits).nests 1)).append (nests_fixed (by decide))) decimals

theorem Field.neutral_typeName (f : Field) : Neutral doubles f.typeName := by
  unfold typeName
  cases f.kind with
  | integer size length =>
    have hopen : Nests doubles 0 1 "(" := nests_fixed (by decide)
    refine neutral_arguments (Nests.append ?_ hopen) _
    cases size <;> exact neutral_fixed (by decide)
  | char length | varchar length => exact neutral_arguments (nests_fixed (by decide)) length
  | decimal precision scale rounding => exact neutral_precision (nests_fixed (by decide)) precision scale
  | float double precision =>
    refine Nests.append (Neutral.ite (neutral_fixed (by decide)) (neutral_fixed (by decide))) ?_
    cases precision with
    | none => exact neutral_empty
    | some precision => exact neutral_precision (nests_fixed (by decide)) precision.1 precision.2
  | text | date | time | datetime | boolean | timestamp | uuid =>
    dsimp only
    exact neutral_fixed (by decide)

theorem Field.neutral_implicitDefault {f : Field} {sql : String} (h : f.implicitDefault = some sql) :
    Neutral doubles sql := by
  unfold implicitDefault at h
  split at h <;> cases h <;> exact neutral_fixed (by decide)

theorem Field.neutral_defaultClause {f : Field} {clause : String} (hc : f.defaultClause = some clause)
    (h : ∀ s ∈ f.verbatims, Harmless doubles s.toList) : Neutral doubles clause := by
  have hword : Neutral doubles " DEFAULT " := neutral_fixed (by decide)
  unfold defaultClause at hc
  cases hd : f.default with
  | value v =>
    rw [hd] at hc
    obtain ⟨s, hs, rfl⟩ := Option.map_eq_some_iff.1 hc
    obtain ⟨w, -, hw⟩ := Option.bind_eq_some_iff.1 hs
    exact hword.append (w.neutral_literal s hw)
  | raw sql =>
    rw [hd] at hc
    cases hc
    exact hword.append (neutral_of_harmless (h sql (by simp [verbatims, hd])))
  | none | generated =>
    rw [hd] at hc
    dsimp only at hc
    split at hc
    · cases hc
      exact neutral_fixed (by decide)
    · split at hc
      · next hsql =>
        cases hc
        exact hword.append (neutral_implicitDefault hsql)
      · cases hc
        exact neutral_empty

/-- A comment, if there is one. -/
theorem neutral_comment (comment : String) :
    Neutral doubles (if comment.isEmpty then "" else " COMMENT " ++ Literal.quoted comment) :=
  .ite neutral_empty ((neutral_fixed (by decide)).append (neutral_quoted comment))

/-- An option, if the column has it. -/
theorem neutral_option {p : Prop} [Decidable p] {s t : String} (hs : ∀ doubles, Neutral doubles s)
    (ht : ∀ doubles, Neutral doubles t) : Nests doubles 0 0 (if p then s else t) :=
  Neutral.ite (hs doubles) (ht doubles)

theorem Field.neutral_namedDefinition {f : Field} {clause : String} (hc : f.defaultClause = some clause)
    (h : ∀ s ∈ f.verbatims, Harmless doubles s.toList) : Neutral doubles (f.namedDefinition clause) := by
  have hspace : Neutral doubles " " := neutral_fixed (by decide)
  unfold namedDefinition
  refine Nests.append (Nests.append (Nests.append (Nests.append (Nests.append (Nests.append (Nests.append
    (((neutral_identifier f.name).append hspace).append f.neutral_typeName) (neutral_option ?_ ?_))
    (neutral_option ?_ ?_)) ?_) (neutral_option ?_ ?_)) (neutral_option ?_ ?_)) (f.neutral_defaultClause hc h))
    (neutral_comment f.comment)
  case refine_5 =>
    split
    · next charset hc =>
      refine Nests.append (neutral_fixed (by decide)) (neutral_of_harmless (h charset ?_))
      simp [verbatims, hc]
    · exact neutral_empty
  all_goals decide

theorem neutral_join : ∀ {items : List String}, (∀ s ∈ items, Neutral doubles s) → Neutral doubles (String.join items)
  | [], _ => neutral_empty
  | s :: items, h => by
    rw [String.join_cons]
    exact (h s List.mem_cons_self).append (neutral_join fun t ht => h t (List.mem_cons_of_mem _ ht))

theorem Index.neutral_definition (i : Index) : Neutral doubles i.definition := by
  have hunique : Neutral doubles (if i.isUnique then "UNIQUE " else "") :=
    .ite (neutral_fixed (by decide)) neutral_empty
  have hkey : Neutral doubles "KEY " := neutral_fixed (by decide)
  have hopen : Nests doubles 0 1 " (" := nests_fixed (by decide)
  have hclose : Nests doubles 1 0 ")" := nests_fixed (by decide)
  unfold definition
  exact (((((hunique.append hkey).append (neutral_identifier i.name)).append hopen).append
    ((neutral_identifiers i.columns).nests 1)).append hclose).append (neutral_comment i.comment)

theorem Field.definition_eq_ok {f : Field} {s : String} (h : f.definition = .ok s) :
    ∃ clause, f.defaultClause = some clause ∧ f.namedDefinition clause = s := by
  unfold definition at h
  split at h
  · exact absurd h Result.fail_ne_ok
  · obtain ⟨clause, hc, hs⟩ := map_eq_ok h
    exact ⟨clause, Result.orPanic_eq_ok.1 hc, hs⟩

/-- Every definition of a column is that of a field. -/
theorem CreateTable.mem_columns : ∀ {fs : List (String × Field)} {definitions : List String},
    columns fs = .ok definitions → ∀ s ∈ definitions,
      ∃ p ∈ fs, ∃ clause, p.2.defaultClause = some clause ∧ p.2.namedDefinition clause = s
  | [], _, h, _, hs => by
    cases h
    exact absurd hs List.not_mem_nil
  | (attr, f) :: fs, _, h, s, hs => by
    unfold columns at h
    obtain ⟨d, hd, h⟩ := Result.bind_eq_ok.1 h
    obtain ⟨rest, hrest, h⟩ := Result.bind_eq_ok.1 h
    cases h
    rcases List.mem_cons.1 hs with rfl | hs
    · exact ⟨(attr, f), List.mem_cons_self, Field.definition_eq_ok hd⟩
    · obtain ⟨p, hp, hd⟩ := mem_columns hrest s hs
      exact ⟨p, List.mem_cons_of_mem _ hp, hd⟩

/-- The words in front of a table that is created or dropped, with its name. -/
theorem neutral_verb {verb condition : String} (hverb : Neutral doubles verb) (hcondition : Neutral doubles condition)
    (temporary safe : Bool) (table : TableRef) :
    Neutral doubles (verb ++ (if temporary then "TEMPORARY " else "") ++ "TABLE " ++ (if safe then condition else "") ++
      table.text) := by
  have htemporary : Neutral doubles (if temporary then "TEMPORARY " else "") :=
    .ite (neutral_fixed (by decide)) neutral_empty
  have htable : Neutral doubles "TABLE " := neutral_fixed (by decide)
  have hsafe : Neutral doubles (if safe then condition else "") := .ite hcondition neutral_empty
  exact (((hverb.append htemporary).append htable).append hsafe).append (neutral_tableRef table)

theorem CreateTable.isSingle_of_render_eq_ok {c : CreateTable} (hc : ∀ s ∈ c.table.verbatims, Harmless doubles s.toList)
    {q : Query} (h : c.render = .ok q) : q.IsSingle doubles := by
  unfold render at h
  obtain ⟨definitions, hdefinitions, h⟩ := Result.bind_eq_ok.1 h
  cases Result.pure_eq_ok.1 h
  have hcolumns : Neutral doubles (Text.commaSeparated definitions) := by
    apply neutral_commaSeparated
    intro s hs
    obtain ⟨p, hp, clause, hclause, rfl⟩ := mem_columns hdefinitions s hs
    apply Field.neutral_namedDefinition hclause
    intro t ht
    exact hc t (List.mem_cons_of_mem _ (List.mem_cons_of_mem _ (List.mem_flatMap.2 ⟨p, hp, ht⟩)))
  have hkey : Neutral doubles (", PRIMARY KEY (" ++ Literal.identifier c.table.primaryKey.field.name ++ ")") :=
    ((nests_fixed (by decide)).append ((neutral_identifier _).nests 1)).append (nests_fixed (by decide))
  have hindexes : Neutral doubles (String.join (c.table.indexes.map fun i => ", " ++ i.definition)) := by
    apply neutral_join
    intro s hs
    obtain ⟨i, -, rfl⟩ := List.mem_map.1 hs
    exact Nests.append (neutral_fixed (by decide)) i.neutral_definition
  have hseed : Neutral doubles (if c.table.primaryKey.isAutoIncrement then
      " AUTO_INCREMENT=" ++ Nat.repr c.table.primaryKey.seed else "") :=
    .ite (Nests.append (neutral_fixed (by decide)) (neutral_repr _)) neutral_empty
  have hengine : Neutral doubles c.table.engine := neutral_of_harmless (hc _ List.mem_cons_self)
  have hcharset : Neutral doubles c.table.charset :=
    neutral_of_harmless (hc _ (List.mem_cons_of_mem _ List.mem_cons_self))
  have hcreate : Neutral doubles "CREATE " := neutral_fixed (by decide)
  have hcondition : Neutral doubles "IF NOT EXISTS " := neutral_fixed (by decide)
  have hverb := neutral_verb hcreate hcondition c.temporary c.safe c.table.ref
  have hopen : Nests doubles 0 1 " (" := nests_fixed (by decide)
  have hclose : Nests doubles 1 0 ") ENGINE=" := nests_fixed (by decide)
  have hset : Neutral doubles " DEFAULT CHARSET=" := neutral_fixed (by decide)
  have hcomment : Neutral doubles " COMMENT=" := neutral_fixed (by decide)
  refine Query.isSingle_of_neutral ?_
  have hbody := (((hverb.append hopen).append (hcolumns.nests 1)).append (hkey.nests 1)).append (hindexes.nests 1)
  exact ((((((hbody.append hclose).append hengine).append hseed).append hset).append hcharset).append
    hcomment).append (neutral_quoted _)

theorem DropTable.isSingle_render (d : DropTable) : d.render.IsSingle doubles := by
  refine Query.isSingle_of_neutral (neutral_verb ?_ ?_ d.temporary d.safe d.table) <;>
  · exact neutral_fixed (by decide)

theorem TableFact.isSingle_render (fact : TableFact) (table : TableRef) : (fact.render table).IsSingle doubles := by
  refine Query.isSingle_of_neutral ?_
  refine Nests.append ?_ (neutral_tableRef table)
  cases fact <;> exact neutral_fixed (by decide)

/-! ## Statements -/

/-- A statement of any kind that has no mark in the texts that it writes as they are. Its names are arbitrary. -/
inductive Statement.Unmarked (doubles : Bool) : Statement → Prop
  | rows {s : Statement} : s.Spelled (.unmarked doubles) → Unmarked doubles s
  | create {c : CreateTable} : (∀ s ∈ c.table.verbatims, Harmless doubles s.toList) → Unmarked doubles (.create c)
  | drop (d : DropTable) : Unmarked doubles (.drop d)
  | describe (fact : TableFact) (table : TableRef) : Unmarked doubles (.describe fact table)

/-- **A rendered statement is one statement to the server**: no name, comment or value opens or closes a quoted text or
a parenthesis, or ends the statement before its text ends. -/
theorem Statement.isSingle_of_render {s : Statement} (hs : s.Unmarked doubles) {σ τ : Supply} {q : Query}
    (h : s.render.Gives σ q τ) : q.IsSingle doubles := by
  cases hs with
  | rows hs =>
    cases hs with
    | select hs =>
      exact Query.isSingle_ofPiece (Select.piece_invariant neutral_invariant hs) (Drawing.gives_lift.1 h).1
    | insert hs =>
      obtain ⟨sql, params⟩ := q
      obtain ⟨_, _, _, _, -, -, rfl, -⟩ := Insert.render_gives h
      exact Query.isSingle_of_neutral (Insert.neutral_text _ _)
    | update htable hset hfilter =>
      exact Query.isSingle_ofPiece (Update.piece_invariant neutral_invariant htable hset hfilter)
        (Update.render_eq_ok (Drawing.gives_lift.1 h).1)
    | delete htable hfilter =>
      exact Query.isSingle_ofPiece (Delete.piece_invariant neutral_invariant htable hfilter)
        (Delete.render_eq_ok (Drawing.gives_lift.1 h).1)
  | create hc => exact CreateTable.isSingle_of_render_eq_ok hc (Drawing.gives_lift.1 h).1
  | drop d =>
    obtain ⟨rfl, -⟩ := Drawing.gives_pure.1 h
    exact d.isSingle_render
  | describe fact table =>
    obtain ⟨rfl, -⟩ := Drawing.gives_pure.1 h
    exact fact.isSingle_render table

/-- A table whose names, comments and default hold every mark. -/
def Sample.marked : Table :=
  let key := named "id" .auto
  let note : Field :=
    { named "note`); -- " (.varchar 45) with
      default := .value (.text "it's; (\x5c")
      comment := "\x5c'; DROP TABLE a; --" }
  { ref := ⟨some "shop`", "`(\x22';"⟩
    fields := ⟨[("id", key), ("note", note)], by decide⟩
    primaryKey := ⟨"id", key, true, 1⟩
    indexes := [⟨"by` (", ["note`); -- "], "(';", true⟩]
    engine := "InnoDB"
    charset := "utf8mb4"
    comment := "'); (`\x5c" }

theorem isSingle_marked : (Statement.create ⟨Sample.marked, true, false⟩).Unmarked true ∧
    ∃ sql, (Statement.create ⟨Sample.marked, true, false⟩).render.Gives .start ⟨sql, .none⟩ .start ∧
      Query.IsSingle true ⟨sql, .none⟩ := by
  have hs : (Statement.create ⟨Sample.marked, true, false⟩).Unmarked true := .create (by decide)
  have hg : (Statement.create ⟨Sample.marked, true, false⟩).render.Gives .start ⟨_, .none⟩ .start :=
    Drawing.gives_lift.2 ⟨rfl, rfl⟩
  exact ⟨hs, _, hg, Statement.isSingle_of_render hs hg⟩

end SqlMapper
