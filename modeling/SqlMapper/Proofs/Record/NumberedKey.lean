import SqlMapper.Proofs.Record.Lifecycle
import SqlMapper.Proofs.Statement.Assigned

/-!
# Numbered keys

The number that the server gives to a row is not written by a client, except to replace the row
(`Table.key_notMem_columns`): an update refuses an assignment to the key, an insert leaves the key out or refuses the
row, and what a record sends when it is saved is such an insert or such an update. Where a key is numbered, no other
column has its name, so that a statement without numbered columns does not list the key (`WellFormed.name_ne_key`).
-/

namespace SqlMapper

variable {t : Table}

/-- A column that is not numbered is not the key. -/
theorem Table.WellFormed.name_ne_key (ht : t.WellFormed) (ha : t.primaryKey.isAutoIncrement = true) {attr : String}
    {f : Field} (hf : t.fields.get? attr = some f) (hu : f.isAutoIncrement = false) :
    f.name ≠ t.primaryKey.field.name := by
  intro hn
  have hkey : t.fields.get? t.primaryKey.attr = some t.primaryKey.field := Ordered.mem_pairs_iff.1 ht.key_mem.1
  have hattr := (ht.attributeOf f.name attr).2 ⟨f, hf, rfl⟩
  rw [(ht.attributeOf f.name t.primaryKey.attr).2 ⟨_, hkey, hn.symm⟩] at hattr
  obtain rfl := Option.some.inj hattr
  obtain rfl := Option.some.inj (hkey.symm.trans hf)
  rw [← ht.key_numbered, ha] at hu
  cases hu

/-! ## Inserts -/

namespace Insert

open Drawing

variable {i : Insert} {row : Values} {attr : String} {f : Field} {σ τ : Supply}

/-- A numbered column is listed only to replace a row. -/
theorem unnumbered_of_bound {w : Value} (hr : i.isReplace = false) (h : (i.bound row attr f).Gives σ (some w) τ) :
    f.isAutoIncrement = false := by
  rcases bound_gives h with ⟨-, hnone⟩ | ⟨_, -, -, -, hnone⟩ | ⟨v, _, hv, -, -, -⟩
  · cases hnone
  · cases hnone
  · rcases resolved_gives hv with ⟨-, -, hnone, -⟩ | ⟨_, -, -, -, ha⟩ | ⟨-, ha, -⟩
    · cases hnone
    · refine Bool.eq_false_iff.2 fun hf => ?_
      rw [(ha hf).2] at hr
      cases hr
    · exact ha

theorem unnumbered_of_boundFields (hr : i.isReplace = false) : ∀ {fs : List (String × Field)} {σ τ : Supply}
    {bound : List (Field × Value)}, (i.boundFields row fs).Gives σ bound τ →
      ∀ b ∈ bound, ∃ p ∈ fs, p.2 = b.1 ∧ b.1.isAutoIncrement = false
  | [], _, _, _, h, _, hb => by
    unfold boundFields at h
    obtain ⟨rfl, -⟩ := gives_pure.1 h
    cases hb
  | (attr, f) :: fs, _, _, _, h, b, hb => by
    obtain ⟨w, υ, rest, hw, hrest, rfl⟩ := boundFields_cons_gives h
    rcases List.mem_append.1 hb with hb | hb
    · cases w with
      | none => cases hb
      | some w =>
        obtain rfl := List.mem_singleton.1 hb
        exact ⟨(attr, f), List.mem_cons_self, rfl, unnumbered_of_bound hr hw⟩
    · obtain ⟨p, hp, h⟩ := unnumbered_of_boundFields hr hrest b hb
      exact ⟨p, List.mem_cons_of_mem _ hp, h⟩

/-- The statement of an insert does not list the key. -/
theorem exists_columns_of_render (ht : i.table.WellFormed) (ha : i.table.primaryKey.isAutoIncrement = true)
    (hr : i.isReplace = false) {q : Query} (h : i.render.Gives σ q τ) :
    ∃ columns, q.sql = Query.terminated (i.text columns) ∧ i.table.primaryKey.field.name ∉ columns := by
  obtain ⟨first, rest, bound, υ, -, hbound, hsql, -⟩ := render_gives h
  refine ⟨_, hsql, fun hm => ?_⟩
  obtain ⟨b, hb, hname⟩ := List.mem_map.1 hm
  obtain ⟨⟨attr, f⟩, hp, rfl, hu⟩ := unnumbered_of_boundFields hr (normalize_gives hbound).2 b hb
  exact ht.name_ne_key ha (Ordered.mem_pairs_iff.1 hp) hu hname

end Insert

/-! ## Updates -/

/-- An update that calls have made does not list the key. -/
theorem Update.Holds.key_notMem {u : Update} {m : Ordered Operand} (ht : t.WellFormed)
    (ha : t.primaryKey.isAutoIncrement = true) (h : u.Holds t m) : t.primaryKey.field.name ∉ u.columns := by
  intro hm
  obtain ⟨a, hmem, hname⟩ := List.mem_map.1 hm
  obtain ⟨p, -, hp⟩ := h.exists_assigns hmem
  exact ht.name_ne_key ha hp.field hp.unnumbered hname

/-! ## Saving -/

/-- The statement writes the columns of rows of the table: it inserts rows with them, or it assigns values to them. -/
inductive Table.Writes (t : Table) : Query → List String → Prop
  | insert {i : Insert} {σ τ : Supply} {q : Query} {columns : List String} : i.table = t → i.isReplace = false →
      i.render.Gives σ q τ → q.sql = Query.terminated (i.text columns) → Writes t q columns
  | update {u : Update} {q : Query} : u.table = t → (∀ a ∈ u.assignments, ∃ v, a.2 = .value v) → u.render = .ok q →
      Writes t q u.columns

/-- The statement writes no key. -/
def Table.SparesKey (t : Table) (q : Query) : Prop := ∃ columns, t.Writes q columns ∧ t.primaryKey.field.name ∉ columns

namespace Action

variable {σ α β : Type} {P : Query → Prop}

/-- Every statement that the action sends has the property. -/
def Sends (a : Action (σ × List Query) α) (P : Query → Prop) : Prop := a.Meets fun _ sent => ∀ q ∈ sent, P q

theorem sends_pure (x : α) : (pure x : Action (σ × List Query) α).Sends P := by
  refine (meets_pure x).imp ?_
  rintro _ _ ⟨-, rfl⟩ q hq
  cases hq

theorem Sends.bind {a : Action (σ × List Query) α} {f : α → Action (σ × List Query) β} (ha : a.Sends P)
    (hf : ∀ x, (f x).Sends P) : (a >>= f).Sends P :=
  Meets.bind ha (fun _ _ h => h) fun x _ h => (hf x).imp fun _ _ h' q hq =>
    (List.mem_append.1 hq).elim (h q) (h' q)

/-- An answer that is no failure is what the rest goes on with. -/
theorem sends_ofResult_bind {r : Result α} {f : α → Action (σ × List Query) β} (hf : ∀ x, r = .ok x → (f x).Sends P) :
    (ofResult r >>= f).Sends P := by
  refine (meets_ofResult r).bind ?_ ?_
  · rintro _ _ ⟨-, rfl⟩ q hq
    cases hq
  · rintro x _ ⟨hx, rfl⟩
    exact hf x hx.symm

end Action

namespace Record

variable {σ : Type}

/-- A record sends nothing that writes the key when it is saved. -/
theorem save_sends (ht : t.WellFormed) (ha : t.primaryKey.isAutoIncrement = true) {r : Record} (hr : r.table = t)
    (e : Executor σ) : (r.save e.recorded).Sends t.SparesKey := by
  subst hr
  cases hk : r.key? with
  | none =>
    rw [save_of_none ha hk]
    refine Action.Sends.bind ?_ fun affected => Action.sends_ofResult_bind fun _ _ => Action.sends_pure _
    refine (Insert.meets_run e _).imp ?_
    rintro _ _ (rfl | ⟨q, ⟨s, s', hq⟩, rfl⟩) q' hq'
    · cases hq'
    · obtain rfl := List.mem_singleton.1 hq'
      obtain ⟨columns, hsql, hkey⟩ := Insert.exists_columns_of_render ht ha rfl hq
      exact ⟨columns, .insert rfl rfl hq hsql, hkey⟩
  | some key =>
    rw [save_of_some ha hk]
    split
    · exact Action.sends_pure _
    · refine Action.sends_ofResult_bind fun u hu => Action.Sends.bind ?_ fun _ => Action.sends_pure _
      obtain ⟨htable, hassigned⟩ := Update.Holds.setAll ht (m := .empty) ⟨rfl, .nil⟩ hu
      have hfiltered : Update.Holds r.table _ { u with filter := some (keyIs r.table key) } := ⟨htable, hassigned⟩
      have hvalues := (Update.setAll_eq_ok hu fun _ hm => absurd hm List.not_mem_nil).2
      refine (Update.meets_run e _).imp ?_
      rintro _ _ (rfl | ⟨q, hq, rfl⟩) q' hq'
      · cases hq'
      · obtain rfl := List.mem_singleton.1 hq'
        exact ⟨_, .update hfiltered.table hvalues hq, hfiltered.key_notMem ht ha⟩

theorem sparesKey_of_sent (ht : t.WellFormed) (ha : t.primaryKey.isAutoIncrement = true) {r : Record}
    (hr : r.table = t) (e : Executor σ) (w : World σ) {q : Query} (hq : q ∈ (r.serve e .save w).1.sent) :
    t.SparesKey q := by
  have hmeets : (Request.save.outcome r e.recorded).Meets fun _ sent => ∀ q ∈ sent, t.SparesKey q :=
    Action.Meets.map (save_sends ht ha hr e)
  obtain ⟨after, sent, failure, hturn, hpost⟩ := serve_meets hmeets w
  rw [hturn] at hq
  rcases hpost with ⟨-, hsent⟩ | ⟨_, -, -, hsent⟩
  · exact hsent q hq
  · exact hsent q hq

end Record

/-! ## All statements -/

/-- **A numbered key is not written** except to replace a row, and an update assigns each column once: whatever calls
make an update, it assigns the columns of the attributes in the order in which they were first assigned, each the
operand that came last, and its statement lists these assignments; the key is not among them. No insert lists the key,
and neither does what a record sends when it is saved. -/
theorem Table.key_notMem_columns (ht : t.Compiled) (ha : t.primaryKey.isAutoIncrement = true) :
    (∀ calls u, ({ table := t } : Update).runAll calls = .ok u →
      (∃ m : Ordered Operand, m.keys = ((Update.history calls).map Prod.fst).eraseDups ∧
        (∀ attr, m.get? attr = (Update.history calls).reverse.lookup attr) ∧
        List.Forall₂ t.Assigns m.pairs u.assignments) ∧
      u.columns.Nodup ∧ t.primaryKey.field.name ∉ u.columns ∧
      ∀ q, u.render = .ok q → q.sql = Query.terminated ("UPDATE " ++ t.ref.text ++ " SET " ++ u.setList ++
        (Expr.clause {} " WHERE " u.filter).text)) ∧
    (∀ (i : Insert) σ τ q, i.table = t → i.isReplace = false → i.render.Gives σ q τ →
      ∃ columns, q.sql = Query.terminated (i.text columns) ∧ t.primaryKey.field.name ∉ columns) ∧
    ∀ {σ : Type} (r : Record) (e : Executor σ) w, r.table = t → ∀ q ∈ (r.serve e .save w).1.sent, t.SparesKey q := by
  have hwell := ht.wellFormed
  refine ⟨fun calls u hu => ?_, ?_, fun r e w hr q hq => Record.sparesKey_of_sent hwell ha hr e w hq⟩
  · have hholds := Update.holds_of_runAll hwell hu
    refine ⟨⟨_, Ordered.keys_ofList _, fun _ => Ordered.get?_ofList _, hholds.assignments⟩, hholds.nodup_columns hwell,
      hholds.key_notMem hwell ha, fun q hq => ?_⟩
    rw [Update.sql_of_render hq, hholds.table]
  · rintro i σ τ q rfl hr hq
    exact Insert.exists_columns_of_render hwell ha hr hq

/-- The title of a thing is assigned twice, under a condition that is given in between. -/
def Sample.titledCalls : List Update.Call :=
  [.set "title" (.text "Draft"), .filter (.raw "1=1"), .setAll [("title", .text "Sketch")]]

theorem key_notMem_columns_titled : ∃ u, ({ table := Sample.titledTable } : Update).runAll Sample.titledCalls = .ok u ∧
    u.columns = ["title"] ∧ "id" ∉ u.columns ∧ u.columns.Nodup ∧
    u.render = .ok ⟨"UPDATE `titled` SET `title`=%s WHERE 1=1;", .single [.text "Sketch"]⟩ ∧
    ∀ q ∈ ((Record.ofTable Sample.titledTable).serve Replay.executor .save Sample.titledAnswers).1.sent,
      Sample.titledTable.SparesKey q := by
  have hc : Sample.titledTable.Compiled := .of_declaration (by simp [Sample.titled]) trivial Sample.titled_compile
  obtain ⟨hupdates, -, hsaves⟩ := Table.key_notMem_columns hc rfl
  obtain ⟨u, hu, hcolumns, hq⟩ : ∃ u, ({ table := Sample.titledTable } : Update).runAll Sample.titledCalls = .ok u ∧
      u.columns = ["title"] ∧
      u.render = .ok ⟨"UPDATE `titled` SET `title`=%s WHERE 1=1;", .single [.text "Sketch"]⟩ := ⟨_, rfl, rfl, rfl⟩
  obtain ⟨-, hnodup, hkey, -⟩ := hupdates _ u hu
  exact ⟨u, hu, hcolumns, hkey, hnodup, hq, hsaves _ _ _ rfl⟩

end SqlMapper
