import SqlMapper.Proofs.Rendering.Alike
import SqlMapper.Proofs.Sample
import SqlMapper.Proofs.Statement.Insert
import SqlMapper.Proofs.Statement.Query
import SqlMapper.Statement

/-!
# Statements with other values

No content of a value reaches the text of a statement: two statements that differ in the contents of their literal
values alone (`Statement.Alike`) have one text where both are rendered (`Statement.Alike.sql_eq`). For an insert the
values decide which columns are listed, but only by being `NULL` or not (`Insert.bound_alike`), so two rows with alike
values come out with the same columns (`Insert.boundFields_alike`).
-/

namespace SqlMapper

open Drawing

/-- The statements of pieces with one text. -/
theorem Query.sql_eq_of_sameText {p p' : Piece} {q q' : Query} (h : p.SameText p') (hq : Query.ofPiece p = .ok q)
    (hq' : Query.ofPiece p' = .ok q') : q.sql = q'.sql := by
  obtain ⟨hp, rfl⟩ := Query.ofPiece_eq_ok_iff.1 hq
  obtain ⟨hp', rfl⟩ := Query.ofPiece_eq_ok_iff.1 hq'
  exact congrArg terminated (h hp hp')

/-! ## Supplies -/

/-- The streams of some fields go on with the same values from both supplies. -/
def Supply.Agree (fs : List (String × Field)) (σ σ' : Supply) : Prop :=
  ∀ p ∈ fs, ∀ source generator, p.2.default = .generated source generator →
    ∀ n, generator.value σ.now (σ.drawn source + n) = generator.value σ'.now (σ'.drawn source + n)

/-- The next values of agreeing supplies are the same, and the supplies agree on what comes after. -/
theorem Supply.Agree.resolveDefault {fs : List (String × Field)} {σ σ' : Supply} (h : Supply.Agree fs σ σ')
    {p : String × Field} (hp : p ∈ fs) : (p.2.resolveDefault σ).1 = (p.2.resolveDefault σ').1 ∧
      Supply.Agree fs (p.2.resolveDefault σ).2 (p.2.resolveDefault σ').2 := by
  unfold Field.resolveDefault
  cases hd : p.2.default with
  | none | value _ | raw _ => exact ⟨rfl, h⟩
  | generated source generator =>
    refine ⟨congrArg some (h p hp source generator hd 0), ?_⟩
    intro q hq other g hg n
    show g.value σ.now ((if other = source then σ.drawn other + 1 else σ.drawn other) + n) =
      g.value σ'.now ((if other = source then σ'.drawn other + 1 else σ'.drawn other) + n)
    split
    · have := h q hq other g hg (1 + n)
      rwa [← Nat.add_assoc, ← Nat.add_assoc] at this
    · exact h q hq other g hg n

/-! ## Rows -/

/-- The rows have the same names, and `NULL` under the same of them. -/
def Values.Alike (row row' : Values) : Prop :=
  ∀ attr, (row.get? attr).map Value.isNull = (row'.get? attr).map Value.isNull

namespace Insert

variable {i i' : Insert} {row row' : Values} {attr : String} {f : Field} {fs : List (String × Field)}
  {σ σ' τ τ' : Supply}

/-- The inserts differ in their rows alone. -/
structure SameTarget (i i' : Insert) : Prop where
  table : i.table = i'.table
  columns : i.columns = i'.columns
  isReplace : i.isReplace = i'.isReplace

theorem provided_alike (hi : SameTarget i i') (h : Values.Alike row row') (attr : String) :
    (i.provided row attr).map Value.isNull = (i'.provided row' attr).map Value.isNull := by
  have hs : i.selects attr = i'.selects attr := by unfold selects; rw [hi.columns]
  unfold provided
  rw [hs]
  split
  · exact h attr
  · rfl

/-- Two rows with alike values resolve a column to `NULL` both or neither, or leave it out both. -/
theorem resolved_alike (hi : SameTarget i i') (hrow : Values.Alike row row') (hf : (attr, f) ∈ fs)
    (hσ : Supply.Agree fs σ σ') {r r' : Option Value} (h : (i.resolved row attr f).Gives σ r τ)
    (h' : (i'.resolved row' attr f).Gives σ' r' τ') :
    r.map Value.isNull = r'.map Value.isNull ∧ Supply.Agree fs τ τ' := by
  have hp := provided_alike hi hrow attr
  rcases resolved_gives h with ⟨ha, hn, rfl, rfl⟩ | ⟨v, hv, rfl, rfl, ha⟩ | ⟨hv, ha, hr⟩
  · -- left out by the one row, so that the other cannot provide a number either
    rcases resolved_gives h' with ⟨-, -, rfl, rfl⟩ | ⟨v', hv', rfl, rfl, ha'⟩ | ⟨-, ha', -⟩
    · exact ⟨rfl, hσ⟩
    · have hnull := (ha' ha).1
      cases hv : i.provided row attr with
      | none => rw [hv, hv'] at hp; cases hp
      | some v => simp_all
    · rw [ha] at ha'; cases ha'
  · rcases resolved_gives h' with ⟨ha', hn', rfl, rfl⟩ | ⟨v', hv', rfl, rfl, -⟩ | ⟨hv', -, -⟩
    · have hnull := (ha ha').1
      cases hv' : i'.provided row' attr with
      | none => rw [hv, hv'] at hp; cases hp
      | some v' => simp_all
    · rw [hv, hv'] at hp
      exact ⟨hp, hσ⟩
    · rw [hv, hv'] at hp; cases hp
  · rcases resolved_gives h' with ⟨ha', -, -, -⟩ | ⟨v', hv', -, -, -⟩ | ⟨-, -, hr'⟩
    · rw [ha] at ha'; cases ha'
    · rw [hv, hv'] at hp; cases hp
    · have hd := hσ.resolveDefault hf
      rw [hr, hr'] at hd
      exact ⟨congrArg _ hd.1, hd.2⟩

/-- Two rows with alike values list a column both or neither. -/
theorem bound_alike (hi : SameTarget i i') (hrow : Values.Alike row row') (hf : (attr, f) ∈ fs)
    (hσ : Supply.Agree fs σ σ') {r r' : Option Value} (h : (i.bound row attr f).Gives σ r τ)
    (h' : (i'.bound row' attr f).Gives σ' r' τ') : r.isSome = r'.isSome ∧ Supply.Agree fs τ τ' := by
  rcases bound_gives h with ⟨hv, rfl⟩ | ⟨v, hv, hn, hk, rfl⟩ | ⟨v, w, hv, hn, hw, rfl⟩ <;>
    rcases bound_gives h' with ⟨hv', rfl⟩ | ⟨v', hv', hn', hk', rfl⟩ | ⟨v', w', hv', hn', hw', rfl⟩ <;>
    obtain ⟨hnull, hτ⟩ := resolved_alike hi hrow hf hσ hv hv'
  all_goals refine ⟨?_, hτ⟩
  all_goals simp_all

/-- Two rows with alike values have the same columns. -/
theorem boundFields_alike (hi : SameTarget i i') (hrow : Values.Alike row row') :
    ∀ {gs : List (String × Field)} {σ σ' τ τ' : Supply} {r r' : List (Field × Value)}, gs ⊆ fs →
      Supply.Agree fs σ σ' → (i.boundFields row gs).Gives σ r τ → (i'.boundFields row' gs).Gives σ' r' τ' →
      r.map Prod.fst = r'.map Prod.fst
  | [], _, _, _, _, _, _, _, _, h, h' => by
    unfold boundFields at h h'
    rw [← (gives_pure.1 h).1, ← (gives_pure.1 h').1]
  | (attr, f) :: gs, _, _, _, _, _, _, hsub, hσ, h, h' => by
    obtain ⟨w, υ, rest, hw, hrest, rfl⟩ := boundFields_cons_gives h
    obtain ⟨w', υ', rest', hw', hrest', rfl⟩ := boundFields_cons_gives h'
    obtain ⟨hsome, hυ⟩ := bound_alike hi hrow (hsub List.mem_cons_self) hσ hw hw'
    have ih := boundFields_alike hi hrow (fun p hp => hsub (List.mem_cons_of_mem _ hp)) hυ hrest hrest'
    cases w with
    | none =>
      cases w' with
      | none => exact ih
      | some w' => cases hsome
    | some w =>
      cases w' with
      | none => cases hsome
      | some w' => exact congrArg (f :: ·) ih

/-- The text of an insert is the same for alike first rows. -/
theorem sql_eq_of_alike (hi : SameTarget i i') (hrows : List.Forall₂ Values.Alike i.rows i'.rows)
    (hσ : Supply.Agree i.table.fields.pairs σ σ') {q q' : Query} (h : i.render.Gives σ q τ)
    (h' : i'.render.Gives σ' q' τ') : q.sql = q'.sql := by
  obtain ⟨first, rest, bound, υ, hr, hb, hsql, -⟩ := render_gives h
  obtain ⟨first', rest', bound', υ', hr', hb', hsql', -⟩ := render_gives h'
  rw [hr, hr'] at hrows
  obtain ⟨hfirst, -⟩ := List.forall₂_cons.1 hrows
  have hf := (normalize_gives hb).2
  have hf' := (normalize_gives hb').2
  rw [← hi.table] at hf'
  have hfields := boundFields_alike hi hfirst (fun _ hp => hp) hσ hf hf'
  have hcolumns : bound.map (·.1.name) = bound'.map (·.1.name) := by
    have := congrArg (List.map Field.name) hfields
    rwa [List.map_map, List.map_map] at this
  rw [hsql, hsql', hcolumns]
  unfold text
  rw [hi.table, hi.isReplace]

end Insert

/-! ## Statements -/

theorem Update.piece_sameText (table : Table) {assignments assignments' : List (Field × Operand)}
    {filter filter' : Option Expr}
    (hset : List.Forall₂ (fun a a' => a.1 = a'.1 ∧ Operand.Alike a.2 a'.2) assignments assignments')
    (hfilter : Expr.AlikeIn filter filter') :
    (Update.piece ⟨table, assignments, filter⟩).SameText (Update.piece ⟨table, assignments', filter'⟩) := by
  unfold piece
  refine Piece.SameText.append (Piece.SameText.append .rfl (Piece.SameText.separated ?_))
    (hfilter.sameText ⟨rfl, rfl, rfl, rfl⟩)
  rw [List.forall₂_map_left_iff, List.forall₂_map_right_iff]
  refine hset.imp ?_
  rintro ⟨f, a⟩ ⟨f', a'⟩ ⟨rfl, ha⟩
  exact Piece.SameText.append .rfl (ha.sameText ⟨rfl, rfl, rfl, rfl⟩)

/-- The statements differ in the contents of their literal values alone. -/
inductive Statement.Alike : Statement → Statement → Prop
  | select {s s' : Select} : s.Alike s' → Statement.Alike (.select s) (.select s')
  | insert {i i' : Insert} : i.SameTarget i' → List.Forall₂ Values.Alike i.rows i'.rows →
      Statement.Alike (.insert i) (.insert i')
  | update (table : Table) {assignments assignments' : List (Field × Operand)} {filter filter' : Option Expr} :
      List.Forall₂ (fun a a' => a.1 = a'.1 ∧ Operand.Alike a.2 a'.2) assignments assignments' →
      Expr.AlikeIn filter filter' →
      Statement.Alike (.update ⟨table, assignments, filter⟩) (.update ⟨table, assignments', filter'⟩)
  | delete (table : Table) (limit : Option Nat) {filter filter' : Option Expr} {allowsAll allowsAll' : Bool} :
      Expr.AlikeIn filter filter' →
      Statement.Alike (.delete ⟨table, filter, limit, allowsAll⟩) (.delete ⟨table, filter', limit, allowsAll'⟩)

/-- The streams that an insert may draw from go on with the same values; no other statement draws. -/
def Statement.DrawsAlike (σ σ' : Supply) : Statement → Prop
  | .insert i => Supply.Agree i.table.fields.pairs σ σ'
  | _ => True

/-- **No content of a value reaches the text**: statements that differ in the contents of their literal values alone
are rendered to one text. -/
theorem Statement.Alike.sql_eq {s s' : Statement} (h : s.Alike s') {σ σ' τ τ' : Supply} {q q' : Query}
    (hσ : s.DrawsAlike σ σ') (hq : s.render.Gives σ q τ) (hq' : s'.render.Gives σ' q' τ') : q.sql = q'.sql := by
  cases h with
  | select hs =>
    exact Query.sql_eq_of_sameText (hs.sameText rfl) (gives_lift.1 hq).1 (gives_lift.1 hq').1
  | insert hi hrows => exact Insert.sql_eq_of_alike hi hrows hσ hq hq'
  | update table hset hfilter =>
    exact Query.sql_eq_of_sameText (Update.piece_sameText table hset hfilter)
      (Update.render_eq_ok (gives_lift.1 hq).1) (Update.render_eq_ok (gives_lift.1 hq').1)
  | delete table limit hfilter =>
    refine Query.sql_eq_of_sameText ?_ (Delete.render_eq_ok (gives_lift.1 hq).1)
      (Delete.render_eq_ok (gives_lift.1 hq').1)
    exact Piece.SameText.append (Piece.SameText.append .rfl (hfilter.sameText ⟨rfl, rfl, rfl, rfl⟩)) .rfl

/-- People of a name among some people. -/
def Sample.lookup (name : String) (ids : List Value) : Select :=
  { Select.ofTable person with
    filter := some (.binary .and (.expr (.binary .equal (column person 1) (.value (.text name))))
      (.expr (.binary .inOp (column person 0) (.value (.list ids))))) }

theorem Sample.lookup_alike (name name' : String) (ids ids' : List Value) :
    (lookup name ids).Alike (lookup name' ids') :=
  .mk _ _ _ _ _ _ _ _ .nil .nil
    (.some (.binary _ (.expr (.binary _ (.expr (.column _)) (.value ⟨rfl, rfl⟩)))
      (.expr (.membership _ _ rfl (.expr (.column _))))))
    .nil .none .nil

theorem sql_eq_lookup :
    ∃ q q', (Statement.select (Sample.lookup "Ann" [.int 1])).render.Gives .start q .start ∧
      (Statement.select (Sample.lookup "' OR '' = '" [.int 7, .int 8])).render.Gives .start q' .start ∧
      q.sql = q'.sql := by
  have hq : (Statement.select (Sample.lookup "Ann" [.int 1])).render.Gives .start _ .start :=
    gives_lift.2 ⟨Query.ofPiece_eq_ok_iff.2 ⟨rfl, rfl⟩, rfl⟩
  have hq' : (Statement.select (Sample.lookup "' OR '' = '" [.int 7, .int 8])).render.Gives .start _ .start :=
    gives_lift.2 ⟨Query.ofPiece_eq_ok_iff.2 ⟨rfl, rfl⟩, rfl⟩
  exact ⟨_, _, hq, hq', Statement.Alike.sql_eq (.select (Sample.lookup_alike _ _ _ _)) trivial hq hq'⟩

end SqlMapper
