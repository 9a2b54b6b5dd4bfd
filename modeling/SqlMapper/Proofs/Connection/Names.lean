import SqlMapper.Proofs.Connection.Placeholder
import SqlMapper.Proofs.Rendering.Parameters
import SqlMapper.Proofs.Statement.Batch
import SqlMapper.Proofs.Table.WellFormed

/-!
# Names and placeholders

Names are written in backticks without regard to percent signs, and the placeholders of a statement are looked for in
its names too. So the statement of an insert of one row reaches the server as it is meant exactly if none of its names
has a mark in it (`Insert.bind_render_iff`): a placeholder that is found in a name takes a parameter of its own, and a
doubled percent sign loses its half. The front of the statement is made of its names and of characters without marks
(`Insert.spells_front`), and is read name by name, since no name in backticks ends with a percent sign.
-/

namespace SqlMapper

namespace Placeholder

variable {a b cs : List Char}

/-! ## Binding -/

/-- Without parameters, a text is placed as it is if it has no marks. -/
theorem placed_tokens_eq_iff : placed (tokens cs) [] = cs ↔ Unmarked cs := by
  have hle : ∀ parts : List Token, (placed parts []).length ≤ parts.length := by
    intro parts
    induction parts with
    | nil => exact Nat.le_refl 0
    | cons part parts ih => cases part <;> simp only [placed, List.length_cons] <;> omega
  constructor
  · intro h
    have hlength := hle (tokens cs)
    rw [h] at hlength
    exact unmarked_of_length hlength
  · intro h
    have hplaced := placed_chars cs [] []
    rw [List.append_nil, placed, List.append_nil] at hplaced
    rw [show tokens cs = cs.map .char from h, hplaced]

theorem marks_of_scalar {v : Value} (h : v.isList = false) : marks v = "?" := by
  cases v with
  | list items => cases h
  | _ => rfl

theorem flatMap_values {params : List Value} (h : ∀ v ∈ params, v.isList = false) : params.flatMap values = params := by
  induction params with
  | nil => rfl
  | cons v params ih =>
    have hv : values v = [v] := by
      cases v with
      | list items => exact absurd (h _ List.mem_cons_self) (by simp [Value.isList])
      | _ => rfl
    rw [List.flatMap_cons, hv, ih fun w hw => h w (List.mem_cons_of_mem _ hw), List.singleton_append]

/-- Parameters with commas between them become question marks. -/
theorem placed_commaSeparated {α : Type} : ∀ {items : List α} {params : List Value}, items.length = params.length →
    (∀ v ∈ params, v.isList = false) →
      placed (tokens (Text.commaSeparated (items.map fun _ => "%s")).toList) params =
        (Text.commaSeparated (items.map fun _ => "?")).toList
  | [], [], _, _ => rfl
  | [_], [v], _, h => by
    rw [List.map_singleton, List.map_singleton, Text.commaSeparated_singleton, Text.commaSeparated_singleton]
    show (marks v).toList ++ [] = _
    rw [marks_of_scalar (h v List.mem_cons_self), List.append_nil]
  | a :: b :: items, v :: params, hl, h => by
    have hrest : (b :: items).length = params.length := Nat.succ.inj hl
    have ih := placed_commaSeparated hrest fun w hw => h w (List.mem_cons_of_mem _ hw)
    have htokens : ∀ rest : String, tokens ("%s" ++ ", " ++ rest).toList =
        .parameter :: .char ',' :: .char ' ' :: tokens rest.toList := by
      intro rest
      rw [String.toList_append, String.toList_append, List.append_assoc]
      show tokens ('%' :: 's' :: ',' :: ' ' :: rest.toList) = _
      rw [tokens_mark, tokens_cons (by decide), tokens_cons (by decide)]
    simp only [List.map_cons] at ih ⊢
    rw [Text.commaSeparated_cons_cons, htokens, placed, placed, placed, ih, marks_of_scalar (h v List.mem_cons_self),
      Text.commaSeparated_cons_cons, String.toList_append, String.toList_append, List.append_assoc]
    rfl

end Placeholder

open Placeholder

/-! ## Names in backticks -/

/-- The name has a mark in it. -/
def HasMark (s : String) : Prop := ['%', '%'] <:+: s.toList ∨ ['%', 's'] <:+: s.toList

instance (s : String) : Decidable (HasMark s) := inferInstanceAs (Decidable (_ ∨ _))

/-- Doubling the backticks of a text changes no other character at its front. -/
theorem singleton_prefix_escaped_iff {d : Char} (hd : d ≠ '\x60') (cs : List Char) :
    [d] <+: cs.flatMap Literal.escapeIdentifier ++ ['\x60'] ↔ [d] <+: cs := by
  cases cs with
  | nil => simp [List.cons_prefix_cons, hd]
  | cons c cs =>
    by_cases hc : c = '\x60'
    · subst hc
      simp [Literal.escapeIdentifier, List.cons_prefix_cons, hd]
    · simp [Literal.escapeIdentifier, List.cons_prefix_cons, hc]

/-- Doubling the backticks makes no mark and breaks none. -/
theorem infix_escaped_iff {d : Char} (hd : d ≠ '\x60') : ∀ {cs : List Char},
    ['%', d] <:+: cs.flatMap Literal.escapeIdentifier ++ ['\x60'] ↔ ['%', d] <:+: cs
  | [] => by simp [List.infix_cons_iff, List.cons_prefix_cons]
  | c :: cs => by
    have ih : ['%', d] <:+: cs.flatMap Literal.escapeIdentifier ++ ['\x60'] ↔ ['%', d] <:+: cs := infix_escaped_iff hd
    by_cases hc : c = '\x60'
    · subst hc
      simp [Literal.escapeIdentifier, List.infix_cons_iff, List.cons_prefix_cons, ih]
    · rw [List.flatMap_cons, Literal.escapeIdentifier, if_neg hc, List.singleton_append, List.cons_append,
        List.infix_cons_iff, List.cons_prefix_cons, singleton_prefix_escaped_iff hd, ih, List.infix_cons_iff,
        List.cons_prefix_cons]

/-- The text is made of the names and of characters without marks, and is read to its end: it is without marks exactly
if the names are. -/
structure Spells (cs : List Char) (names : List String) : Prop where
  closed : Closed cs
  unmarked : Unmarked cs ↔ ∀ s ∈ names, ¬ HasMark s

theorem Spells.append {a b : List Char} {names names' : List String} (ha : Spells a names) (hb : Spells b names') :
    Spells (a ++ b) (names ++ names') := by
  refine ⟨ha.closed.append hb.closed, ?_⟩
  rw [unmarked_append ha.closed, ha.unmarked, hb.unmarked, List.forall_mem_append]

theorem spells_of_no_percent {cs : List Char} (h : '%' ∉ cs) : Spells cs [] :=
  ⟨closed_of_no_percent h, iff_of_true (tokens_of_no_percent h) fun _ hs => absurd hs List.not_mem_nil⟩

theorem spells_identifier (s : String) : Spells (Literal.identifier s).toList [s] := by
  have hlast : (Literal.identifier s).toList.getLast? = some '\x60' := by
    rw [Literal.toList_identifier, quotedChars, ← List.cons_append, List.getLast?_concat]
  refine ⟨closed_of_getLast? (by rw [hlast]; decide), ?_⟩
  rw [unmarked_iff, Literal.toList_identifier, quotedChars, List.infix_cons_iff, List.infix_cons_iff,
    List.cons_prefix_cons, List.cons_prefix_cons, infix_escaped_iff (by decide), infix_escaped_iff (by decide)]
  simp [HasMark]

/-- The names of a table: that of the database, if there is one, and its own. -/
def TableRef.names (t : TableRef) : List String := t.db.toList ++ [t.name]

theorem TableRef.spells (t : TableRef) : Spells t.text.toList t.names := by
  unfold TableRef.text names
  rw [String.toList_append]
  refine Spells.append ?_ (spells_identifier t.name)
  cases t.db with
  | none => exact spells_of_no_percent (by decide)
  | some db =>
    rw [String.toList_append]
    exact (spells_identifier db).append (spells_of_no_percent (by decide))

theorem spells_nextNames : ∀ names : List String, Spells (nextNames names) names
  | [] => spells_of_no_percent (by decide)
  | s :: names => by
    rw [nextNames_cons]
    exact (spells_of_no_percent (by decide)).append ((spells_identifier s).append (spells_nextNames names))

theorem spells_joinedBy : ∀ names : List String, Spells (Text.joinedBy ", " (names.map Literal.identifier)).toList names
  | [] => spells_of_no_percent (by decide)
  | s :: names => by
    rw [toList_joinedBy_identifiers]
    exact (spells_identifier s).append (spells_nextNames names)

/-! ## Inserts -/

namespace Insert

variable {i : Insert} {row : Values} {σ τ : Supply} {columns : List String} {params : List Value}

/-- The statement text in front of the values. -/
def front (i : Insert) (columns : List String) : String :=
  (if i.isReplace then "REPLACE INTO " else "INSERT INTO ") ++ i.table.ref.text ++ " (" ++
    Text.joinedBy ", " (columns.map Literal.identifier) ++ ") VALUES ("

/-- The statement text with a mark for each value. -/
def textWith (i : Insert) (mark : String) (columns : List String) : String :=
  i.front columns ++ Text.commaSeparated (columns.map fun _ => mark) ++ ")"

theorem text_eq (i : Insert) (columns : List String) : i.text columns = i.textWith "%s" columns := rfl

theorem spells_front (i : Insert) (columns : List String) :
    Spells (i.front columns).toList (i.table.ref.names ++ columns) := by
  have hverb : Spells (if i.isReplace then "REPLACE INTO " else "INSERT INTO ").toList [] :=
    spells_of_no_percent (by cases i.isReplace <;> decide)
  have hopen : Spells " (".toList [] := spells_of_no_percent (by decide)
  have hvalues : Spells ") VALUES (".toList [] := spells_of_no_percent (by decide)
  have hfront := (((hverb.append i.table.ref.spells).append hopen).append (spells_joinedBy columns)).append hvalues
  rw [List.append_nil, List.append_nil, List.nil_append] at hfront
  simpa only [front, String.toList_append] using hfront

theorem toList_terminated_textWith (i : Insert) (mark : String) (columns : List String) :
    (Query.terminated (i.textWith mark columns)).toList =
      (i.front columns).toList ++ ((Text.commaSeparated (columns.map fun _ => mark)).toList ++ ");".toList) := by
  rw [textWith, Query.terminated_paren, String.toList_append, String.toList_append, List.append_assoc]

theorem marks_values (columns : List String) :
    Marks (Text.commaSeparated (columns.map fun _ => "%s")) columns.length := by
  have hall : ∀ s ∈ columns.map fun _ => "%s", Marks s 1 := by
    intro s hs
    obtain ⟨_, -, rfl⟩ := List.mem_map.1 hs
    exact marks_placeholder
  have hmarks := marks_commaSeparated hall
  rwa [List.length_map] at hmarks

/-- The front is read to its end, and so are the marks of the values behind it. -/
theorem tokens_terminated_textWith (i : Insert) (columns : List String) :
    tokens (Query.terminated (i.textWith "%s" columns)).toList =
      tokens (i.front columns).toList ++
        (tokens (Text.commaSeparated (columns.map fun _ => "%s")).toList ++ tokens ");".toList) := by
  rw [toList_terminated_textWith, (i.spells_front columns).closed, (marks_values columns).1]

theorem marked_terminated_textWith (i : Insert) (columns : List String) :
    marked (Query.terminated (i.textWith "%s" columns)).toList = marked (i.front columns).toList + columns.length := by
  have hend : marked ");".toList = 0 := marked_of_no_percent (by decide)
  rw [marked, tokens_terminated_textWith, List.count_append, List.count_append]
  show marked _ + (marked _ + marked _) = _
  rw [(marks_values columns).2, hend, Nat.add_zero]

/-- Where the front has no placeholders, the values are bound to those behind it. -/
theorem bind_textWith (hl : columns.length = params.length) (hs : ∀ v ∈ params, v.isList = false)
    (hfront : marked (i.front columns).toList = 0) :
    Placeholder.bind (Query.terminated (i.textWith "%s" columns)) params =
      .ok (String.ofList (placed (tokens (i.front columns).toList) [] ++
        ((Text.commaSeparated (columns.map fun _ => "?")).toList ++ ");".toList)), params) := by
  have hmarked : marked (Query.terminated (i.textWith "%s" columns)).toList = params.length := by
    rw [marked_terminated_textWith, hfront, Nat.zero_add, hl]
  have hvalues : placed (tokens (Text.commaSeparated (columns.map fun _ => "%s")).toList ++ tokens ");".toList)
      params = (Text.commaSeparated (columns.map fun _ => "?")).toList ++ ");".toList := by
    have hsplit := placed_append ((marks_values columns).2.trans hl) (tokens ");".toList) []
    rw [List.append_nil, placed_commaSeparated hl hs] at hsplit
    exact hsplit
  have hplaced := placed_append (show _ = ([] : List Value).length from hfront)
    (tokens (Text.commaSeparated (columns.map fun _ => "%s")).toList ++ tokens ");".toList) params
  rw [List.nil_append, hvalues] at hplaced
  rw [bind_eq_ok hmarked, flatMap_values hs, tokens_terminated_textWith, hplaced]

/-- The statement reaches the server as it is meant exactly if its names have no marks. -/
theorem bind_textWith_iff (hl : columns.length = params.length) (hs : ∀ v ∈ params, v.isList = false) :
    Placeholder.bind (Query.terminated (i.textWith "%s" columns)) params =
      .ok (Query.terminated (i.textWith "?" columns), params) ↔
    ∀ s ∈ i.table.ref.names ++ columns, ¬ HasMark s := by
  rw [← (i.spells_front columns).unmarked, ← placed_tokens_eq_iff]
  constructor
  · intro h
    have hmarked := marked_of_bind h
    rw [marked_terminated_textWith] at hmarked
    rw [bind_textWith hl hs (by omega)] at h
    have hchars := congrArg String.toList (Prod.mk.inj (Except.ok.inj h)).1
    rw [String.toList_ofList, toList_terminated_textWith] at hchars
    exact List.append_cancel_right hchars
  · intro h
    have hfront : marked (i.front columns).toList = 0 := by
      rw [marked, show tokens _ = _ from placed_tokens_eq_iff.1 h, List.count_eq_zero]
      simp
    rw [bind_textWith hl hs hfront, h, ← toList_terminated_textWith, String.ofList_toList]

/-- **Names survive the translation of placeholders exactly if they have no marks.** An insert of one row, or a
replacement, lists columns of its table and binds a value for each. If the values are no lists, the server binds these
values to question marks in an otherwise unchanged text exactly if no name in it has a mark. -/
theorem bind_render_iff (hrows : i.rows = [row]) {q : Query} (h : i.render.Gives σ q τ) :
    ∃ columns params, q = ⟨Query.terminated (i.text columns), .single params⟩ ∧ columns.length = params.length ∧
      columns.Sublist (i.table.fields.pairs.map (·.2.name)) ∧
      ((∀ v ∈ params, v.isList = false) →
        (Placeholder.bind q.sql params = .ok (Query.terminated (i.textWith "?" columns), params) ↔
          ∀ s ∈ i.table.ref.names ++ columns, ¬ HasMark s)) := by
  have halone : i = i.alone row := by
    cases i
    exact congrArg (fun rows => (⟨_, rows, _, _⟩ : Insert)) hrows
  rw [halone] at h
  obtain ⟨bound, hbound, hq⟩ := render_alone_gives.1 h
  obtain rfl := Except.ok.inj ((i.ofPiece_written bound).symm.trans hq)
  have hl : (bound.map (·.1.name)).length = (bound.map (·.2)).length := by rw [List.length_map, List.length_map]
  refine ⟨_, _, rfl, hl, ?_, fun hs => ?_⟩
  · have hfields := (boundFields_sublist (normalize_gives hbound).2).map Field.name
    rwa [List.map_map, List.map_map] at hfields
  · rw [text_eq]
    exact bind_textWith_iff hl hs

end Insert

/-! ## Names with percent signs -/

namespace Sample

/-- Measured values in a column of the given name. -/
def measured (column : String) : Declaration :=
  { className := "Measure", name := some "measure"
    fields := [("id", .auto), ("value", named column (.integer .int))] }

/-- The table of measured values. -/
def measuredTable (column : String) : Table :=
  { ref := ⟨none, "measure"⟩
    fields := ⟨[("id", named "id" .auto), ("value", named column (.integer .int))], by simp⟩
    primaryKey := ⟨"id", named "id" .auto, true, 1⟩
    indexes := []
    engine := "InnoDB"
    charset := "utf8mb4"
    comment := "" }

/-- Inserts the value 5. -/
def measure (column : String) : Insert :=
  { table := measuredTable column, rows := [⟨[("value", .int 5)], by decide⟩] }

end Sample

theorem bind_render_iff_rate :
    (Sample.measure "rate%").rows = [⟨[("value", .int 5)], by decide⟩] ∧
    (Sample.measure "rate%").render.Gives .start
      ⟨"INSERT INTO `measure` (`rate%`) VALUES (%s);", .single [.int 5]⟩ .start ∧
    Placeholder.bind "INSERT INTO `measure` (`rate%`) VALUES (%s);" [.int 5] =
      .ok ("INSERT INTO `measure` (`rate%`) VALUES (?);", [.int 5]) := by
  have hrows : (Sample.measure "rate%").rows = [⟨[("value", .int 5)], by decide⟩] := rfl
  have hq : (Sample.measure "rate%").render.Gives .start
      ⟨"INSERT INTO `measure` (`rate%`) VALUES (%s);", .single [.int 5]⟩ .start := rfl
  refine ⟨hrows, hq, ?_⟩
  obtain ⟨columns, params, hquery, -, -, hbind⟩ := Insert.bind_render_iff hrows hq
  obtain ⟨hsql, hparams⟩ := Query.mk.inj hquery
  obtain rfl := Params.single.inj hparams
  have htext : Query.terminated ((Sample.measure "rate%").text ["rate%"]) =
      "INSERT INTO `measure` (`rate%`) VALUES (%s);" := rfl
  obtain rfl := Insert.columns_eq_of_text_eq (htext.trans hsql)
  exact (hbind (by decide)).2 (by decide +kernel)

/-- A column with a mark in its name: the server looks for a second parameter in it, and refuses the statement. -/
theorem share_refused : (Sample.measuredTable "market%share").Compiled ∧
    (Sample.measure "market%share").render.Gives .start
      ⟨"INSERT INTO `measure` (`market%share`) VALUES (%s);", .single [.int 5]⟩ .start ∧
    Placeholder.bind "INSERT INTO `measure` (`market%share`) VALUES (%s);" [.int 5] =
      .error (ConnectionFault.missingParameter 1).error := by
  have hcompile : (Sample.measured "market%share").compile = .ok (Sample.measuredTable "market%share") := rfl
  exact ⟨.of_declaration (by simp [Sample.measured]) trivial hcompile, rfl, rfl⟩

end SqlMapper
