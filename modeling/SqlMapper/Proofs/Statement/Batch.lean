import Mathlib.Data.List.Forall2
import SqlMapper.Proofs.Rendering.Grouping
import SqlMapper.Proofs.Sample
import SqlMapper.Proofs.Statement.Insert
import SqlMapper.Proofs.Statement.Query
import SqlMapper.Proofs.Value.Literal

/-!
# Batches and single rows

A batch is rendered exactly if each of its rows is rendered alone and all of them have one text; the batch has that
text then, and for each row the parameters that the row has alone (`Insert.render_batch_agrees`). The columns of a row
decide its text, and the text shows the columns, since names in backticks are read one after the other
(`Insert.columns_eq_of_text_eq`). No row may draw a default from a stream: what a row draws depends on the rows before.
-/

namespace SqlMapper

/-! ## Drawings that draw nothing -/

namespace Drawing

variable {α β : Type} {σ τ : Supply}

/-- What a drawing comes to from a supply. -/
def answer (d : Drawing α) (σ : Supply) : Result α := (d.run.run σ).1

theorem answer_eq_ok {d : Drawing α} {a : α} : d.answer σ = .ok a ↔ ∃ τ, d.Gives σ a τ := by
  constructor
  · exact fun h => ⟨(d.run.run σ).2, Prod.ext h rfl⟩
  · rintro ⟨τ, h⟩
    exact congrArg Prod.fst h

theorem answer_fail (cause : Cause) (σ : Supply) : (Drawing.fail cause : Drawing α).answer σ = SqlMapper.fail cause :=
  rfl

/-- After a part that gives a value the rest decides. -/
theorem answer_bind_of_gives {d : Drawing α} {f : α → Drawing β} {a : α} (h : d.Gives σ a τ) :
    (d >>= f).answer σ = (f a).answer τ := by
  unfold answer
  rw [ExceptT.run_bind, StateT.run_bind, show d.run.run σ = (.ok a, τ) from h]
  rfl

/-- A part that fails ends the whole. -/
theorem answer_bind_of_error {d : Drawing α} {f : α → Drawing β} {e : Error} (h : d.answer σ = .error e) :
    (d >>= f).answer σ = .error e := by
  unfold answer at h ⊢
  rw [ExceptT.run_bind, StateT.run_bind]
  rcases hd : d.run.run σ with ⟨r, υ⟩
  rw [hd] at h
  obtain rfl : r = .error e := h
  rfl

/-- What the drawing gives from one supply it gives from every supply, and draws nothing. -/
def Steady (d : Drawing α) : Prop := ∀ ⦃σ τ : Supply⦄ ⦃a : α⦄, d.Gives σ a τ → ∀ υ, d.Gives υ a υ

theorem Steady.eq {d : Drawing α} (h : d.Steady) {a : α} (hd : d.Gives σ a τ) : τ = σ :=
  (congrArg Prod.snd (hd.symm.trans (h hd σ) : ((Except.ok a, τ) : Result α × Supply) = (.ok a, σ)))

theorem steady_pure (a : α) : Steady (pure a) := by
  intro σ τ b h υ
  obtain ⟨rfl, -⟩ := gives_pure.1 h
  exact gives_pure.2 ⟨rfl, rfl⟩

theorem steady_fail (cause : Cause) : Steady (Drawing.fail cause : Drawing α) := fun _ _ _ h => absurd h not_gives_fail

theorem steady_lift (r : Result α) : Steady (monadLift r) := by
  intro σ τ a h υ
  exact gives_lift.2 ⟨(gives_lift.1 h).1, rfl⟩

theorem Steady.ite {c : Prop} [Decidable c] {d e : Drawing α} (hd : d.Steady) (he : e.Steady) :
    (if c then d else e).Steady := by
  split
  · exact hd
  · exact he

/-- Steps that draw nothing draw nothing together. -/
theorem Steady.bind {d : Drawing α} {f : α → Drawing β} (hd : d.Steady) (hf : ∀ a, (f a).Steady) :
    (d >>= f).Steady := by
  intro σ τ b h υ
  obtain ⟨a, _, ha, hb⟩ := gives_bind.1 h
  exact gives_bind.2 ⟨a, υ, hd ha υ, hf a hb υ⟩

end Drawing

/-! ## Names in a list -/

/-- A name in backticks is read up to the backtick that ends it. -/
theorem Literal.identifier_append_inj {s s' : String} {r r' : List Char} (hr : r.head? ≠ some '\x60')
    (hr' : r'.head? ≠ some '\x60') (h : (identifier s).toList ++ r = (identifier s').toList ++ r') :
    s = s' ∧ r = r' := by
  rw [toList_identifier, toList_identifier] at h
  exact quotedChars_append_inj hr hr' (List.cons.inj h).2

/-- Names with a comma in front of each. -/
def nextNames (names : List String) : List Char := names.flatMap fun s => ", ".toList ++ (Literal.identifier s).toList

theorem nextNames_cons (s : String) (names : List String) :
    nextNames (s :: names) = ", ".toList ++ ((Literal.identifier s).toList ++ nextNames names) := by
  rw [nextNames, List.flatMap_cons, List.append_assoc, nextNames]

theorem toList_joinedBy_identifiers : ∀ (s : String) (names : List String),
    (Text.joinedBy ", " ((s :: names).map Literal.identifier)).toList = (Literal.identifier s).toList ++ nextNames names
  | s, [] => (List.append_nil _).symm
  | s, t :: names => by
    have ih := toList_joinedBy_identifiers t names
    rw [List.map_cons] at ih
    rw [List.map_cons, List.map_cons, Text.joinedBy, Literal.identifier_ne_empty, String.toList_append,
      String.toList_append, ih, nextNames_cons, List.append_assoc]
    · rfl
    · simp

/-- No backtick follows a name in a list that a parenthesis ends. -/
theorem head?_nextNames_append (names : List String) (r : List Char) :
    (nextNames names ++ ')' :: r).head? ≠ some '\x60' := by
  cases names with
  | nil => simp [nextNames]
  | cons s names => simp [nextNames_cons]

theorem nextNames_append_inj {r r' : List Char} : ∀ {names names' : List String},
    nextNames names ++ ')' :: r = nextNames names' ++ ')' :: r' → names = names'
  | [], [], _ => rfl
  | [], s' :: names', h => by
    rw [nextNames_cons] at h
    cases (List.cons.inj h).1
  | s :: names, [], h => by
    rw [nextNames_cons] at h
    cases (List.cons.inj h).1
  | s :: names, s' :: names', h => by
    simp only [nextNames_cons, List.append_assoc] at h
    obtain ⟨rfl, hrest⟩ := Literal.identifier_append_inj (head?_nextNames_append _ _) (head?_nextNames_append _ _)
      (List.append_cancel_left h)
    rw [nextNames_append_inj hrest]

/-- Names in a pair of parentheses are read one after the other. -/
theorem joinedBy_identifiers_append_inj {r r' : List Char} {names names' : List String}
    (h : (Text.joinedBy ", " (names.map Literal.identifier)).toList ++ ')' :: r =
      (Text.joinedBy ", " (names'.map Literal.identifier)).toList ++ ')' :: r') : names = names' := by
  cases names with
  | nil =>
    cases names' with
    | nil => rfl
    | cons s' names' =>
      rw [toList_joinedBy_identifiers, Literal.toList_identifier] at h
      cases (List.cons.inj h).1
  | cons s names =>
    cases names' with
    | nil =>
      rw [toList_joinedBy_identifiers, Literal.toList_identifier] at h
      cases (List.cons.inj h).1
    | cons s' names' =>
      rw [toList_joinedBy_identifiers, toList_joinedBy_identifiers, List.append_assoc, List.append_assoc] at h
      obtain ⟨rfl, hrest⟩ := Literal.identifier_append_inj (head?_nextNames_append _ _) (head?_nextNames_append _ _) h
      rw [nextNames_append_inj hrest]

/-! ## Rows alone -/

/-- No field draws its default from a stream. -/
def Table.DrawsNothing (t : Table) : Prop :=
  ∀ p ∈ t.fields.pairs, ∀ source generator, p.2.default ≠ .generated source generator

namespace Insert

open Drawing

variable {i : Insert} {row : Values} {σ τ : Supply}

/-- The same insert of a single row. -/
def alone (i : Insert) (row : Values) : Insert := { i with rows := [row] }

/-- The statement of a row as it is written: each value becomes a placeholder in a scope of its own, where a list is one
parameter. -/
def written (i : Insert) (bound : List (Field × Value)) : Piece :=
  .ofText ((if i.isReplace then "REPLACE INTO " else "INSERT INTO ") ++ i.table.ref.text ++ " (" ++
      Text.joinedBy ", " (bound.map fun b => Literal.identifier b.1.name) ++ ") VALUES (") ++
    .separated (bound.map fun b => Options.value { fragment := .insertIntoValues, nested := true } b.2) ++ .ofText ")"

/-- Values that are written one by one have the text of a batch, and are bound in order. -/
theorem ofPiece_written (i : Insert) (bound : List (Field × Value)) : Query.ofPiece (i.written bound) =
    .ok ⟨Query.terminated (i.text (bound.map (·.1.name))), .single (bound.map (·.2))⟩ := by
  have hvalues : (bound.map fun b => Options.value { fragment := .insertIntoValues, nested := true } b.2) =
      (bound.map (·.2)).map Piece.placeholder := by
    rw [List.map_map]
    exact List.map_congr_left fun b _ => (Options.value_of_ok rfl).trans (Options.placed_of_single rfl (.inl rfl))
  have hwritten : i.written bound = ⟨i.text (bound.map (·.1.name)), bound.map (·.2) ++ [], none⟩ := by
    unfold written text
    rw [hvalues, Piece.separated_placeholders, List.map_map, List.map_map, List.map_map]
    rfl
  rw [List.append_nil] at hwritten
  exact Query.ofPiece_eq_ok_iff.2 (by rw [hwritten]; exact ⟨rfl, rfl⟩)

/-- The text shows the columns. -/
theorem columns_eq_of_text_eq {columns columns' : List String}
    (h : Query.terminated (i.text columns) = Query.terminated (i.text columns')) : columns = columns' := by
  unfold text at h
  rw [Query.terminated_paren, Query.terminated_paren] at h
  have hchars := congrArg String.toList h
  simp only [String.toList_append, List.append_assoc] at hchars
  exact joinedBy_identifiers_append_inj
    (List.append_cancel_left (List.append_cancel_left (List.append_cancel_left hchars)))

theorem readsLike_alone (i : Insert) (row : Values) : (i.alone row).ReadsLike i := ⟨rfl, rfl, fun _ _ => rfl⟩

/-- The rows of an insert do not change what a row comes to. -/
theorem normalize_alone (i : Insert) (row row' : Values) : (i.alone row).normalize row' = i.normalize row' :=
  (i.readsLike_alone row).normalize

/-- A single row is normalized and written. -/
theorem render_alone_gives {q : Query} :
    (i.alone row).render.Gives σ q τ ↔
      ∃ bound, (i.normalize row).Gives σ bound τ ∧ Query.ofPiece (i.written bound) = .ok q := by
  have hrender : (i.alone row).render = i.normalize row >>= fun bound =>
      pure ⟨Query.terminated (i.text (bound.map (·.1.name))), .single (bound.map (·.2))⟩ := by
    show ((i.alone row).normalize row >>= _) = _
    rw [normalize_alone]
    rfl
  rw [hrender, gives_bind]
  constructor
  · rintro ⟨bound, υ, hb, h⟩
    obtain ⟨rfl, rfl⟩ := gives_pure.1 h
    exact ⟨bound, hb, i.ofPiece_written bound⟩
  · rintro ⟨bound, hb, h⟩
    exact ⟨bound, τ, hb, gives_pure.2 ⟨Except.ok.inj ((i.ofPiece_written bound).symm.trans h), rfl⟩⟩

/-! ## Steady rows -/

/-- A default that is no stream draws nothing. -/
theorem steady_default {f : Field} (hf : ∀ source generator, f.default ≠ .generated source generator) :
    (do
      let (v, supply) := f.resolveDefault (← get)
      set supply
      return v : Drawing (Option Value)).Steady := by
  intro σ τ v h υ
  unfold Field.resolveDefault at h ⊢
  cases hd : f.default with
  | generated source generator => exact absurd hd (hf source generator)
  | _ => simp_all

theorem steady_resolved (i : Insert) (row : Values) (attr : String) {f : Field}
    (hf : ∀ source generator, f.default ≠ .generated source generator) : (i.resolved row attr f).Steady := by
  unfold resolved
  -- a key that the row may not give fails in front of the value
  cases i.provided row attr with
  | none => exact (steady_pure _).ite (((steady_fail _).bind fun _ => steady_default hf).ite (steady_default hf))
  | some v => exact (steady_pure _).ite (((steady_fail _).bind fun _ => steady_pure _).ite (steady_pure _))

theorem steady_bound (i : Insert) (row : Values) (attr : String) {f : Field}
    (hf : ∀ source generator, f.default ≠ .generated source generator) : (i.bound row attr f).Steady := by
  refine (steady_resolved i row attr hf).bind fun resolved => ?_
  cases resolved with
  | none => exact steady_pure _
  | some v =>
    exact ((steady_pure _).ite (steady_fail _)).ite ((steady_lift _).bind fun _ => steady_pure _)

theorem steady_boundFields (i : Insert) (row : Values) : ∀ {fs : List (String × Field)},
    (∀ p ∈ fs, ∀ source generator, p.2.default ≠ .generated source generator) → (i.boundFields row fs).Steady
  | [], _ => steady_pure _
  | (attr, f) :: fs, h => by
    have ih := steady_boundFields i row fun p hp => h p (List.mem_cons_of_mem _ hp)
    unfold boundFields
    refine (steady_bound i row attr (h (attr, f) List.mem_cons_self)).bind fun w => ?_
    split
    · exact ih
    · exact ih.bind fun _ => steady_pure _

/-- A row of a table without streams comes to the same from every supply. -/
theorem steady_normalize (h : i.table.DrawsNothing) (row : Values) : (i.normalize row).Steady := by
  unfold normalize
  split
  · exact steady_fail _
  · exact steady_boundFields i row h

/-! ## Batches -/

/-- The row comes to the columns, and its values are the set. -/
def Fills (i : Insert) (columns : List String) (row : Values) (set : List Value) : Prop :=
  ∃ bound, (∀ σ, (i.normalize row).Gives σ bound σ) ∧ bound.map (·.1.name) = columns ∧ bound.map (·.2) = set

/-- A batch pairs each row with its values, if all rows come to the columns. -/
theorem batch_gives_iff (hi : i.table.DrawsNothing) {columns : List String} : ∀ {rows : List Values}
    {σ τ : Supply} {sets : List (List Value)}, (i.batch columns rows).Gives σ sets τ ↔
      τ = σ ∧ List.Forall₂ (i.Fills columns) rows sets
  | [], σ, τ, sets => by
    unfold batch
    rw [gives_pure, List.forall₂_nil_left_iff]
    exact ⟨fun h => ⟨h.2.symm, h.1.symm⟩, fun h => ⟨h.2.symm, h.1.symm⟩⟩
  | row :: rows, σ, τ, sets => by
    unfold batch
    rw [gives_bind, List.forall₂_cons_left_iff]
    constructor
    · rintro ⟨bound, υ, hb, h⟩
      obtain rfl := (steady_normalize hi row).eq hb
      by_cases hc : bound.map (·.1.name) = columns
      · simp only [hc, ne_eq, not_true_eq_false, if_false, gives_bind, gives_pure] at h
        obtain ⟨sets, _, hsets, rfl, rfl⟩ := h
        obtain ⟨hσ, hrows⟩ := (batch_gives_iff hi).1 hsets
        exact ⟨hσ, _, _, ⟨bound, steady_normalize hi row hb, hc, rfl⟩, hrows, rfl⟩
      · simp [hc] at h
    · rintro ⟨rfl, _, sets, ⟨bound, hb, hc, rfl⟩, hrows, rfl⟩
      refine ⟨bound, τ, hb τ, ?_⟩
      simp only [hc, ne_eq, not_true_eq_false, if_false, gives_bind, gives_pure]
      exact ⟨sets, τ, (batch_gives_iff hi).2 ⟨rfl, hrows⟩, rfl, rfl⟩

/-- A batch is rendered if all rows come to the same columns. -/
theorem render_gives_iff (hi : i.table.DrawsNothing) (hrows : 2 ≤ i.rows.length) {q : Query} :
    i.render.Gives σ q τ ↔ τ = σ ∧ ∃ columns sets, List.Forall₂ (i.Fills columns) i.rows sets ∧
      q = ⟨Query.terminated (i.text columns), .many sets⟩ := by
  obtain ⟨first, second, rest, hcons⟩ : ∃ first second rest, i.rows = first :: second :: rest := by
    match i.rows, hrows with
    | first :: second :: rest, _ => exact ⟨first, second, rest, rfl⟩
  unfold render
  rw [hcons]
  simp only [List.isEmpty_cons, Bool.false_eq_true, if_false, gives_bind, gives_pure]
  constructor
  · rintro ⟨bound, υ, hb, sets, _, hsets, rfl, rfl⟩
    obtain rfl := (steady_normalize hi first).eq hb
    obtain ⟨hσ, hpairs⟩ := (batch_gives_iff hi).1 hsets
    exact ⟨hσ, _, _, .cons ⟨bound, steady_normalize hi first hb, rfl, rfl⟩ hpairs, rfl⟩
  · rintro ⟨rfl, columns, sets, hpairs, rfl⟩
    obtain ⟨_, sets, ⟨bound, hb, rfl, rfl⟩, hrest, rfl⟩ := List.forall₂_cons_left_iff.1 hpairs
    exact ⟨bound, τ, hb τ, sets, τ, (batch_gives_iff hi).2 ⟨rfl, hrest⟩, rfl, rfl⟩

theorem Fills.answer_alone {columns : List String} {set : List Value} (h : i.Fills columns row set) (σ : Supply) :
    (i.alone row).render.answer σ = .ok ⟨Query.terminated (i.text columns), .single set⟩ := by
  obtain ⟨bound, hb, rfl, rfl⟩ := h
  exact answer_eq_ok.2 ⟨σ, render_alone_gives.2 ⟨bound, hb σ, i.ofPiece_written bound⟩⟩

theorem fills_of_answer (hi : i.table.DrawsNothing) {q : Query} (h : (i.alone row).render.answer σ = .ok q) :
    ∃ columns set, i.Fills columns row set ∧ q = ⟨Query.terminated (i.text columns), .single set⟩ := by
  obtain ⟨τ, hq⟩ := answer_eq_ok.1 h
  obtain ⟨bound, hb, hpiece⟩ := render_alone_gives.1 hq
  obtain rfl := Except.ok.inj ((i.ofPiece_written bound).symm.trans hpiece)
  exact ⟨_, _, ⟨bound, steady_normalize hi row hb, rfl, rfl⟩, rfl⟩

/-- Rows that are rendered alone with one text fill one set of columns. -/
theorem forall₂_fills {sql : String} {columns : List String} (hi : i.table.DrawsNothing)
    (hsql : sql = Query.terminated (i.text columns)) : ∀ {rows : List Values},
    (∀ row ∈ rows, ∃ q, (i.alone row).render.answer σ = .ok q ∧ q.sql = sql) →
      ∃ sets, List.Forall₂ (i.Fills columns) rows sets
  | [], _ => ⟨[], .nil⟩
  | row :: rows, h => by
    obtain ⟨sets, hsets⟩ := forall₂_fills hi hsql fun r hr => h r (List.mem_cons_of_mem _ hr)
    obtain ⟨q, hq, rfl⟩ := h row List.mem_cons_self
    obtain ⟨columns', set, hfills, rfl⟩ := fills_of_answer hi hq
    obtain rfl := columns_eq_of_text_eq hsql
    exact ⟨set :: sets, .cons hfills hsets⟩

/-- **A batch agrees with its rows**: it is rendered exactly if each row is rendered alone and all of them have one
text. It has that text then, and its sets are the parameters of the rows, in order. -/
theorem render_batch_agrees (hi : i.table.DrawsNothing) (hrows : 2 ≤ i.rows.length) (σ τ : Supply) :
    ((∃ q, i.render.answer σ = .ok q) ↔
      ∃ sql, ∀ row ∈ i.rows, ∃ q, (i.alone row).render.answer τ = .ok q ∧ q.sql = sql) ∧
    ∀ q, i.render.answer σ = .ok q → ∃ sets, q.params = .many sets ∧
      List.Forall₂ (fun row set => (i.alone row).render.answer τ = .ok ⟨q.sql, .single set⟩) i.rows sets := by
  refine ⟨⟨?_, ?_⟩, ?_⟩
  · rintro ⟨q, hq⟩
    obtain ⟨υ, hq⟩ := answer_eq_ok.1 hq
    obtain ⟨-, columns, sets, hpairs, -⟩ := (render_gives_iff hi hrows).1 hq
    exact ⟨Query.terminated (i.text columns), ((List.forall₂_and_left _ _).1 (hpairs.imp
      fun row set h => ⟨⟨_, h.answer_alone τ, rfl⟩, h⟩)).1⟩
  · rintro ⟨sql, h⟩
    obtain ⟨first, hfirst⟩ := List.exists_mem_of_length_pos (by omega : 0 < i.rows.length)
    obtain ⟨q, hq, rfl⟩ := h first hfirst
    obtain ⟨columns, _, -, rfl⟩ := fills_of_answer hi hq
    obtain ⟨sets, hpairs⟩ := forall₂_fills hi rfl h
    exact ⟨_, answer_eq_ok.2 ⟨σ, (render_gives_iff hi hrows).2 ⟨rfl, columns, sets, hpairs, rfl⟩⟩⟩
  · intro q hq
    obtain ⟨υ, hq⟩ := answer_eq_ok.1 hq
    obtain ⟨-, columns, sets, hpairs, rfl⟩ := (render_gives_iff hi hrows).1 hq
    exact ⟨sets, rfl, hpairs.imp fun _ _ h => h.answer_alone τ⟩

end Insert

/-- A batch in which one row leaves out the age. -/
def Sample.hiring : Insert :=
  { table := person
    rows := [⟨[("name", .text "Ann")], by decide⟩, ⟨[("age", .int 31), ("name", .text "Ben")], by decide⟩] }

theorem Sample.person_drawsNothing : person.DrawsNothing := by
  intro p hp source generator
  simp only [person, List.mem_cons, List.not_mem_nil, or_false] at hp
  rcases hp with rfl | rfl | rfl <;> exact nofun

theorem render_batch_agrees_hiring : Sample.hiring.table.DrawsNothing ∧ 2 ≤ Sample.hiring.rows.length ∧
    ∃ q, Sample.hiring.render.answer .start = .ok q ∧ ∃ sets, q.params = .many sets ∧
      List.Forall₂ (fun row set => (Sample.hiring.alone row).render.answer .start = .ok ⟨q.sql, .single set⟩)
        Sample.hiring.rows sets := by
  have hdraws : Sample.hiring.table.DrawsNothing := Sample.person_drawsNothing
  have hrows : 2 ≤ Sample.hiring.rows.length := by decide
  have hq : Sample.hiring.render.answer .start = .ok ⟨"INSERT INTO `person` (`name`, `age`) VALUES (%s, %s);",
      .many [[.text "Ann", .null], [.text "Ben", .int 31]]⟩ := rfl
  exact ⟨hdraws, hrows, _, hq, (Insert.render_batch_agrees hdraws hrows .start .start).2 _ hq⟩

end SqlMapper
