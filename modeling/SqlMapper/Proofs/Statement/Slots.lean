import SqlMapper.Proofs.Connection.Slots
import SqlMapper.Proofs.Statement.Assigned
import SqlMapper.Proofs.Statement.Parameters
import SqlMapper.Proofs.Table.Undeclared

/-!
# Values and their columns

A field converts a list item by item, so that a list gets into the slot of a column: as one parameter in an insert, and
as a parameter for each item in an update. Either way the column gets the items of the list for its value, and the sets
of a batch come to different texts where one has a list in a column and another has none. Where each parameter stands
for one value, each column gets one (`columns_bindOneEach_iff`).
-/

namespace SqlMapper

open Placeholder

/-- An ordered map holds pairs that were written to it. -/
theorem Ordered.mem_of_mem_ofList {α : Type} {pairs : List (String × α)} {p : String × α}
    (h : p ∈ (ofList pairs).pairs) : p ∈ pairs := by
  rw [mem_pairs_iff, get?_ofList] at h
  obtain ⟨l, r, hpairs, -⟩ := List.lookup_eq_some_iff.1 h
  have hmem : p ∈ pairs.reverse := hpairs ▸ List.mem_append_right l List.mem_cons_self
  exact List.mem_reverse.1 hmem

/-! ## Values that a field converts -/

namespace Field

variable {f : Field} {v w : Value}

theorem toWireAll_forall₂ : ∀ {vs ws : List Value}, f.toWireAll vs = .ok ws →
    List.Forall₂ (fun v w => f.toWire v = .ok w) vs ws
  | [], _, h => by
    cases h
    exact .nil
  | v :: vs, _, h => by
    rw [toWireAll] at h
    obtain ⟨w, hw, h⟩ := Result.bind_eq_ok.1 h
    obtain ⟨ws, hws, h⟩ := Result.bind_eq_ok.1 h
    cases h
    exact .cons hw (toWireAll_forall₂ hws)

/-- What a value stands for is converted value by value. -/
theorem forall₂_values (h : f.toWire v = .ok w) :
    List.Forall₂ (fun v w => f.toWire v = .ok w) (values v) (values w) := by
  have hcount := toWire_itemCount? h
  cases v with
  | list items =>
    rw [toWire] at h
    obtain ⟨ws, hws, rfl⟩ := map_eq_ok h
    exact toWireAll_forall₂ hws
  | _ =>
    cases w with
    | list items => cases hcount
    | _ => exact .cons h .nil

theorem isList_of_toWire (h : f.toWire v = .ok w) : w.isList = v.isList := by
  have hcount := toWire_itemCount? h
  cases v <;> cases w <;> first | rfl | cases hcount

/-- Converted values stand for as many values as those that they were converted from. -/
theorem length_flatMap_values {vs ws : List Value} (h : List.Forall₂ (fun v w => f.toWire v = .ok w) vs ws) :
    (ws.flatMap values).length = (vs.flatMap values).length := by
  induction h with
  | nil => rfl
  | cons hvw _ ih =>
    rw [List.flatMap_cons, List.flatMap_cons, List.length_append, List.length_append, ih,
      (forall₂_values hvw).length_eq]

end Field

/-- A value that is bound has a parameter for each value that its conversion stands for. -/
theorem Options.params_value {o : Options} {v w : Value} (hb : o.bind = true) (hn : o.nested = false)
    (h : o.converted v = .ok w) : (o.value v).params = values w := by
  rw [value_of_ok h]
  cases w with
  | list items => rw [placed_list hb hn, Piece.separated_placeholders, values]
  | _ =>
    rw [placed_of_single hb (.inr rfl)]
    rfl

/-! ## Inserts -/

namespace Insert

open Drawing

variable {i : Insert} {row : Values} {σ τ : Supply} {columns : List String}

/-- An insert with a set of parameters: a placeholder for each column. -/
def layout (i : Insert) (columns : List String) (set : List Value) : Layout where
  front := i.front columns
  slots := (columns.zip set).map fun p => (p.1, .placeholder p.2)
  rest := .ofText ")"

/-- The slots are those of the columns, and have the parameters of the set. -/
theorem piece_layout {set : List Value} (hl : set.length = columns.length) :
    (i.layout columns set).piece = ⟨i.text columns, set, none⟩ := by
  have hslots : (i.layout columns set).slots.map Prod.snd = set.map Piece.placeholder := by
    rw [layout, List.map_map]
    show (columns.zip set).map (Piece.placeholder ∘ Prod.snd) = _
    rw [← List.map_map, List.map_snd_zip hl.le]
  have htexts : (set.map fun _ => "%s") = columns.map fun _ => "%s" := by
    rw [List.map_const', List.map_const', hl]
  rw [Layout.piece, hslots, Piece.separated_placeholders, htexts]
  show Piece.mk (i.text columns) (set ++ []) none = _
  rw [List.append_nil]

theorem columns_layout {set : List Value} (hl : set.length = columns.length) :
    (i.layout columns set).slots.map Prod.fst = columns := by
  rw [layout, List.map_map]
  exact List.map_fst_zip hl.ge

theorem sound_layout (hs : i.table.Spelled .percentFree) (hcolumns : ∀ c ∈ columns, '%' ∉ c.toList) (set : List Value) :
    (i.layout columns set).Sound where
  front := by
    have hnames : ∀ s ∈ i.table.ref.names ++ columns, ¬ HasMark s := by
      have hfree : ∀ s : String, '%' ∉ s.toList → ¬ HasMark s := fun s h hm =>
        hm.elim (fun hp => h (hp.subset List.mem_cons_self)) fun hp => h (hp.subset List.mem_cons_self)
      intro s hm
      rcases List.mem_append.1 hm with hm | hm
      · rcases List.mem_append.1 hm with hm | hm
        · exact hfree s (hs.1.1 s (Option.mem_toList.1 hm))
        · rw [List.mem_singleton.1 hm]
          exact hfree _ hs.1.2
      · exact hfree s (hcolumns s hm)
    have hspells := i.spells_front columns
    exact ⟨hspells.closed, marked_of_unmarked (hspells.unmarked.2 hnames)⟩
  slots := by
    intro s h
    obtain ⟨p, -, rfl⟩ := List.mem_map.1 h
    exact marks_placeholder

/-! ### Sets of parameters -/

/-- The set has the values of a row that comes to the columns. -/
def Normalizes (i : Insert) (columns : List String) (row : Values) (set : List Value) : Prop :=
  ∃ σ bound τ, (i.normalize row).Gives σ bound τ ∧ bound.map (·.1.name) = columns ∧ bound.map (·.2) = set

theorem Normalizes.length_eq {set : List Value} (h : i.Normalizes columns row set) : set.length = columns.length := by
  obtain ⟨_, bound, _, -, rfl, rfl⟩ := h
  rw [List.length_map, List.length_map]

theorem Normalizes.sublist {set : List Value} (h : i.Normalizes columns row set) :
    columns.Sublist (i.table.fields.pairs.map (·.2.name)) := by
  obtain ⟨_, bound, _, hbound, rfl, -⟩ := h
  have hfields := (boundFields_sublist (normalize_gives hbound).2).map Field.name
  rwa [List.map_map, List.map_map] at hfields

/-- Every set of a batch has the values of one of its rows. -/
theorem exists_row_of_mem_batch : ∀ {rows : List Values} {σ τ : Supply} {sets : List (List Value)},
    (i.batch columns rows).Gives σ sets τ → ∀ set ∈ sets, ∃ row ∈ rows, i.Normalizes columns row set
  | [], _, _, _, h, _, hset => by
    unfold batch at h
    obtain ⟨rfl, -⟩ := gives_pure.1 h
    cases hset
  | row :: rows, σ, _, _, h, set, hset => by
    unfold batch at h
    obtain ⟨bound, υ, hbound, h⟩ := gives_bind.1 h
    by_cases hc : bound.map (·.1.name) = columns
    · simp only [hc, ne_eq, not_true_eq_false, if_false, gives_bind, gives_pure] at h
      obtain ⟨sets, _, hsets, rfl, rfl⟩ := h
      rcases List.mem_cons.1 hset with rfl | hset
      · exact ⟨row, List.mem_cons_self, σ, bound, υ, hbound, hc, rfl⟩
      · obtain ⟨row', hrow, h⟩ := exists_row_of_mem_batch hsets set hset
        exact ⟨row', List.mem_cons_of_mem _ hrow, h⟩
    · simp [hc] at h

/-- Every set of a statement has the values of a row, and all rows come to the columns of the text. -/
theorem exists_normalizes {q : Query} (h : i.render.Gives σ q τ) :
    ∃ columns first set, i.Normalizes columns first set ∧ q.sql = Query.terminated (i.text columns) ∧
      ∀ set ∈ q.params.sets, ∃ row ∈ i.rows, i.Normalizes columns row set := by
  obtain ⟨first, rest, bound, υ, hrows, hbound, hsql, hparams⟩ := render_gives h
  have hfirst : i.Normalizes (bound.map (·.1.name)) first (bound.map (·.2)) := ⟨σ, bound, υ, hbound, rfl, rfl⟩
  refine ⟨_, first, _, hfirst, hsql, fun set hset => ?_⟩
  rw [hrows]
  rcases hparams with hq | ⟨sets, hsets, hq⟩
  · rw [hq] at hset
    rw [List.mem_singleton.1 hset]
    exact ⟨first, List.mem_cons_self, hfirst⟩
  · rw [hq] at hset
    rcases List.mem_cons.1 hset with rfl | hset
    · exact ⟨first, List.mem_cons_self, hfirst⟩
    · obtain ⟨row, hrow, h⟩ := exists_row_of_mem_batch hsets set hset
      exact ⟨row, List.mem_cons_of_mem _ hrow, h⟩

/-- No row gives a list, and no default of the table comes to one. -/
structure TakesNoList (i : Insert) : Prop where
  rows : ∀ row ∈ i.rows, ∀ p ∈ row.pairs, p.2.isList = false
  defaults : ∀ p ∈ i.table.fields.pairs, ∀ σ v, (p.2.resolveDefault σ).1 = some v → v.isList = false

theorem TakesNoList.resolved (h : i.TakesNoList) (hrow : row ∈ i.rows) {attr : String} {f : Field} {v : Value}
    (hf : (attr, f) ∈ i.table.fields.pairs) (hv : (i.resolved row attr f).Gives σ (some v) τ) : v.isList = false := by
  rcases resolved_gives hv with ⟨-, -, hnone, -⟩ | ⟨_, hp, hsome, -⟩ | ⟨-, -, hdefault⟩
  · cases hnone
  · cases hsome
    have hget : row.get? attr = some v := by
      unfold provided at hp
      split at hp
      · exact hp
      · cases hp
    exact h.rows row hrow _ (Ordered.mem_pairs_iff.2 hget)
  · exact h.defaults _ hf σ v (by rw [hdefault])

theorem TakesNoList.boundFields (h : i.TakesNoList) (hrow : row ∈ i.rows) : ∀ {fs : List (String × Field)}
    {σ τ : Supply} {bound : List (Field × Value)}, (∀ p ∈ fs, p ∈ i.table.fields.pairs) →
    (i.boundFields row fs).Gives σ bound τ → ∀ p ∈ bound, p.2.isList = false
  | [], _, _, _, _, hb, _, hp => by
    unfold Insert.boundFields at hb
    obtain ⟨rfl, -⟩ := gives_pure.1 hb
    cases hp
  | (attr, f) :: fs, _, _, _, hfs, hb, p, hp => by
    obtain ⟨w, υ, rest, hw, hrest, rfl⟩ := boundFields_cons_gives hb
    have ih := h.boundFields hrow (fun p hp => hfs p (List.mem_cons_of_mem _ hp)) hrest
    rcases List.mem_append.1 hp with hp | hp
    · obtain ⟨w, rfl, rfl⟩ := Option.map_eq_some_iff.1 (Option.mem_toList.1 hp)
      rcases bound_gives hw with ⟨-, hnone⟩ | ⟨_, -, -, -, hnone⟩ | ⟨v, _, hv, -, hwire, hsome⟩
      · cases hnone
      · cases hnone
      · cases hsome
        exact (Field.isList_of_toWire hwire).trans (h.resolved hrow (hfs _ List.mem_cons_self) hv)
    · exact ih p hp

/-- Rows without lists make parameters without lists. -/
theorem TakesNoList.normalizes (h : i.TakesNoList) (hrow : row ∈ i.rows) {set : List Value}
    (hset : i.Normalizes columns row set) : ∀ w ∈ set, w.isList = false := by
  obtain ⟨_, bound, _, hbound, -, rfl⟩ := hset
  intro w hw
  obtain ⟨p, hp, rfl⟩ := List.mem_map.1 hw
  exact h.boundFields hrow (fun _ h => h) (normalize_gives hbound).2 p hp

/-- Where no list is taken, every parameter stands for one value, and all sets are alike in having no list. -/
theorem TakesNoList.of_normalizes (h : i.TakesNoList) {sets : List (List Value)}
    (hsets : ∀ set ∈ sets, ∃ row ∈ i.rows, i.Normalizes columns row set) :
    (∀ set ∈ sets, ∀ w ∈ set, (values w).length = 1) ∧
      ∀ set ∈ sets, ∀ set' ∈ sets, set.map Value.isList = set'.map Value.isList := by
  have hlists : ∀ set ∈ sets, set.map Value.isList = columns.map fun _ => false := by
    intro set hset
    obtain ⟨row, hrow, hn⟩ := hsets set hset
    rw [List.map_congr_left (h.normalizes hrow hn), List.map_const', List.map_const', hn.length_eq]
  refine ⟨fun set hset w hw => ?_, fun set hset set' hset' => (hlists set hset).trans (hlists set' hset').symm⟩
  obtain ⟨row, hrow, hn⟩ := hsets set hset
  exact length_values_of_scalar (h.normalizes hrow hn w hw)

/-! ### One value for each column -/

/-- A slot has one value exactly if its parameter stands for one. -/
theorem one_of_slots_iff {set : List Value} (hl : set.length = columns.length) :
    (∀ s ∈ (i.layout columns set).slots, (s.2.params.flatMap values).length = 1) ↔
      ∀ w ∈ set, (values w).length = 1 := by
  have hsnd : (columns.zip set).map Prod.snd = set := List.map_snd_zip hl.le
  constructor
  · intro h w hw
    rw [← hsnd] at hw
    obtain ⟨p, hp, rfl⟩ := List.mem_map.1 hw
    have hone := h _ (List.mem_map_of_mem hp)
    rwa [show (Piece.placeholder p.2).params = [p.2] from rfl, List.flatMap_singleton] at hone
  · intro h s hs
    obtain ⟨p, hp, rfl⟩ := List.mem_map.1 hs
    have hw : p.2 ∈ set := hsnd ▸ List.mem_map_of_mem hp
    rw [show (Piece.placeholder p.2).params = [p.2] from rfl, List.flatMap_singleton]
    exact h _ hw

/-- A set binds one value to each column exactly if its parameters stand for one value each. -/
theorem bindsOneEach_iff (hs : i.table.Spelled .percentFree) {set : List Value} (h : i.Normalizes columns row set) :
    (∃ text, (i.layout columns set).BindsOneEach (Query.terminated (i.text columns)) text) ↔
      ∀ w ∈ set, (values w).length = 1 := by
  have hcolumns : ∀ c ∈ columns, '%' ∉ c.toList := by
    intro c hc
    obtain ⟨p, hp, rfl⟩ := List.mem_map.1 (h.sublist.subset hc)
    exact hs.2 p hp
  have hpiece := i.piece_layout h.length_eq
  have hiff := Layout.bindsOneEach_iff (sound_layout hs hcolumns set) (by rw [hpiece])
  rw [hpiece] at hiff
  have hrest : (Piece.ofText ")").IsBoundTo [] := Piece.isBoundTo_iff.2 ⟨marked_of_no_percent (by decide), rfl⟩
  rw [hiff, one_of_slots_iff h.length_eq]
  exact and_iff_left ⟨[], hrest⟩

/-- The sets of a statement bind one value to each column in one text exactly if their parameters stand for one value
each, and the lists among them are in the same columns of all sets. -/
theorem allBindOneEach_iff (hs : i.table.Spelled .percentFree) {sets : List (List Value)}
    (hsets : ∀ set ∈ sets, ∃ row, i.Normalizes columns row set) :
    (∃ text, ∀ set ∈ sets, (i.layout columns set).BindsOneEach (Query.terminated (i.text columns)) text) ↔
      (∀ set ∈ sets, ∀ w ∈ set, (values w).length = 1) ∧
        ∀ set ∈ sets, ∀ set' ∈ sets, set.map Value.isList = set'.map Value.isList := by
  have hlength : ∀ set ∈ sets, set.length = columns.length := fun set hset =>
    (hsets set hset).elim fun _ h => h.length_eq
  have hone : ∀ set ∈ sets, (∃ text, (i.layout columns set).BindsOneEach (Query.terminated (i.text columns)) text) ↔
      ∀ w ∈ set, (values w).length = 1 := fun set hset => (hsets set hset).elim fun _ h => bindsOneEach_iff hs h
  have hbind : ∀ {set text}, set ∈ sets →
      (i.layout columns set).BindsOneEach (Query.terminated (i.text columns)) text →
      ∃ bound, Placeholder.bind (Query.terminated (i.text columns)) set = .ok (text, bound) := by
    rintro set text hset ⟨bound, rest, h, -⟩
    rw [i.piece_layout (hlength set hset)] at h
    exact ⟨_, h⟩
  constructor
  · rintro ⟨text, h⟩
    refine ⟨fun set hset => (hone set hset).1 ⟨text, h set hset⟩, fun set hset set' hset' => ?_⟩
    obtain ⟨_, hb⟩ := hbind hset (h set hset)
    obtain ⟨_, hb'⟩ := hbind hset' (h set' hset')
    have hmarks := (text_eq_iff hb hb').1 rfl
    rw [← List.forall₂_eq_eq_eq, List.forall₂_map_left_iff, List.forall₂_map_right_iff] at hmarks ⊢
    exact hmarks.imp fun _ _ => isList_eq_of_marks
  · rintro ⟨hvalues, hlists⟩
    cases sets with
    | nil => exact ⟨"", fun _ h => absurd h List.not_mem_nil⟩
    | cons first sets =>
      -- the text of the first set is that of all
      obtain ⟨text, hfirst⟩ := (hone first List.mem_cons_self).2 (hvalues first List.mem_cons_self)
      refine ⟨text, fun set hset => ?_⟩
      obtain ⟨text', hset'⟩ := (hone set hset).2 (hvalues set hset)
      obtain ⟨_, hb⟩ := hbind List.mem_cons_self hfirst
      obtain ⟨_, hb'⟩ := hbind hset hset'
      have htext : text' = text := by
        have hlist := hlists set hset first List.mem_cons_self
        exact (text_eq_iff hb' hb).2 (map_marks_eq (hvalues set hset) (hvalues first List.mem_cons_self) hlist)
      rwa [htext] at hset'

end Insert

/-! ## Updates -/

namespace Update

variable {t : Table} {u : Update} {calls : List Call}

/-- The call gives values. -/
def Call.GivesValues : Call → Prop
  | setExpr _ _ => False
  | _ => True

/-- An update: an assignment to each column, and the condition. -/
def layout (u : Update) : Layout where
  front := "UPDATE " ++ u.table.ref.text ++ " SET "
  slots := u.assignments.map fun a => (a.1.name, assignment a.1 a.2)
  rest := Expr.clause {} " WHERE " u.filter

theorem piece_layout (u : Update) : u.layout.piece = u.piece := by
  rw [Layout.piece, piece_eq]
  show _ ++ Piece.separated ((u.assignments.map _).map Prod.snd) ++ _ = _
  rw [List.map_map]
  rfl

theorem columns_layout (u : Update) : u.layout.slots.map Prod.fst = u.columns := by
  show (u.assignments.map _).map Prod.fst = _
  rw [List.map_map]
  rfl

/-- A value has a parameter for each of its items, if it is a list, and they stand for as many values as these. -/
theorem length_assignment {f : Field} {v : Value} (hok : (assignment f (.value v)).failure = none) :
    ((assignment f (.value v)).params.flatMap values).length = ((values v).flatMap values).length := by
  have hvalue : (Options.value { converter := some f } v).failure = none := (Piece.append_failure_eq_none.1 hok).2
  obtain ⟨w, hw⟩ := Options.converted_of_value hvalue
  have hparams : (assignment f (.value v)).params = values w :=
    (Piece.append_params hok).trans (Options.params_value rfl rfl hw)
  rw [hparams, Field.length_flatMap_values (Field.forall₂_values hw)]

theorem values_of_history (h : ∀ call ∈ calls, call.GivesValues) : ∀ p ∈ history calls, ∃ v, p.2 = .value v := by
  intro p hp
  obtain ⟨call, hcall, hp⟩ := List.mem_flatMap.1 hp
  cases call with
  | set attr v =>
    rw [List.mem_singleton.1 hp]
    exact ⟨v, rfl⟩
  | setAll pairs =>
    obtain ⟨q, -, rfl⟩ := List.mem_map.1 hp
    exact ⟨q.2, rfl⟩
  | setExpr attr value => exact (h _ hcall).elim
  | filter condition => cases hp

theorem sound_layout (hs : t.Spelled .percentFree) (hcalls : ∀ call ∈ calls, call.GivesValues)
    (hu : u.Holds t (.ofList (history calls))) : u.layout.Sound where
  front := by
    have htable : (Piece.ofText u.table.ref.text).Balanced := balanced_invariant.tableRef (hu.table ▸ hs.1)
    have hverb : (Piece.ofText "UPDATE ").Balanced := balanced_invariant.keyword (by decide)
    have hset : (Piece.ofText " SET ").Balanced := balanced_invariant.keyword (by decide)
    exact balanced_invariant.text (balanced_invariant.text hverb htable) hset
  slots := by
    intro s h
    obtain ⟨a, ha, rfl⟩ := List.mem_map.1 h
    obtain ⟨p, hp, hpa⟩ := hu.exists_assigns ha
    obtain ⟨v, hv⟩ := values_of_history hcalls p (Ordered.mem_of_mem_ofList hp)
    have hname : '%' ∉ a.1.name.toList := hs.2 (p.1, a.1) (Ordered.mem_pairs_iff.2 hpa.field)
    have hequals : (Piece.ofText (Literal.identifier a.1.name ++ "=")).Balanced :=
      balanced_invariant.text (balanced_invariant.identifier hname) (balanced_invariant.keyword (by decide))
    refine hequals.append ?_
    rw [hpa.value, hv]
    exact balanced_invariant.value rfl v

/-- An update of values binds one value to each column exactly if the last value of each attribute stands for one, and
the condition can be translated. -/
theorem bindsOneEach_iff (hs : t.Spelled .percentFree) (hcalls : ∀ call ∈ calls, call.GivesValues)
    (hu : u.Holds t (.ofList (history calls))) {q : Query} (hq : u.render = .ok q) :
    (∃ text, u.layout.BindsOneEach q.sql text) ↔
      (∀ p ∈ (Ordered.ofList (history calls)).pairs, ∀ v, p.2 = .value v → ((values v).flatMap values).length = 1) ∧
        ∃ bound, u.layout.rest.IsBoundTo bound := by
  have hpiece := render_eq_ok hq
  rw [← u.piece_layout] at hpiece
  obtain ⟨hok, rfl⟩ := Query.ofPiece_eq_ok_iff.1 hpiece
  have hfailure : ∀ a ∈ u.assignments, (assignment a.1 a.2).failure = none := by
    have hall := Piece.separated_failure_eq_none.1
      (Piece.append_failure_eq_none.1 (Piece.append_failure_eq_none.1 hok).1).2
    exact fun a ha => hall _ (List.mem_map_of_mem (List.mem_map_of_mem ha))
  rw [Layout.bindsOneEach_iff (sound_layout hs hcalls hu) hok]
  -- an attribute of the calls has one assignment, and an assignment one slot
  refine and_congr_left' ⟨fun h p hp v hv => ?_, fun h s hs => ?_⟩
  · obtain ⟨a, ha, hpa⟩ := Result.exists_of_mem hu.assignments.flip hp
    have hvalue : a.2 = .value v := hpa.value.trans hv
    have hone := h _ (List.mem_map_of_mem ha)
    have hok := hfailure a ha
    rw [hvalue] at hok
    rw [hvalue, length_assignment hok] at hone
    exact hone
  · obtain ⟨a, ha, rfl⟩ := List.mem_map.1 hs
    obtain ⟨p, hp, hpa⟩ := hu.exists_assigns ha
    obtain ⟨v, hv⟩ := values_of_history hcalls p (Ordered.mem_of_mem_ofList hp)
    have hvalue : a.2 = .value v := hpa.value.trans hv
    have hok := hfailure a ha
    rw [hvalue] at hok
    dsimp only
    rw [hvalue, length_assignment hok]
    exact h p hp v hv

end Update

/-- **Each column gets one value exactly if its parameter stands for one.** The names of the table have no percent sign.

The sets of an insert or a replacement, of one row or of several, have a parameter for each column. The server binds one
value for each column, in the order of the columns, and in one text for all sets, exactly if no parameter is a list of
no item or of several, and no column has a list in one set and none in another. That is so where no row gives a list,
and no default is one.

An update of values assigns to each column what was given for it last. The server binds one value for each column, in
the order in which the columns came first, and behind these the values of the condition, exactly if each of the values
is one, or a list whose items come to one, and the condition can be translated at all. It can be where no percent sign
is spelled in it. -/
theorem columns_bindOneEach_iff {t : Table} (hs : t.Spelled .percentFree) :
    (∀ (i : Insert) (σ τ : Supply) (q : Query), i.table = t → i.render.Gives σ q τ →
      ∃ columns, columns.Sublist (t.fields.pairs.map (·.2.name)) ∧
        (∀ set ∈ q.params.sets, (i.layout columns set).slots.map Prod.fst = columns ∧
          Query.ofPiece (i.layout columns set).piece = .ok ⟨q.sql, .single set⟩) ∧
        ((∃ text, ∀ set ∈ q.params.sets, (i.layout columns set).BindsOneEach q.sql text) ↔
          (∀ set ∈ q.params.sets, ∀ w ∈ set, (values w).length = 1) ∧
            ∀ set ∈ q.params.sets, ∀ set' ∈ q.params.sets, set.map Value.isList = set'.map Value.isList) ∧
        (i.TakesNoList → ∃ text, ∀ set ∈ q.params.sets, (i.layout columns set).BindsOneEach q.sql text)) ∧
    ∀ (calls : List Update.Call) (u : Update) (q : Query), t.WellFormed → (∀ call ∈ calls, call.GivesValues) →
      ({ table := t } : Update).runAll calls = .ok u → u.render = .ok q →
      List.Forall₂ t.Assigns (Ordered.ofList (Update.history calls)).pairs u.assignments ∧
        u.layout.slots.map Prod.fst = u.columns ∧ u.columns.Nodup ∧ Query.ofPiece u.layout.piece = .ok q ∧
        ((∃ text, u.layout.BindsOneEach q.sql text) ↔
          (∀ p ∈ (Ordered.ofList (Update.history calls)).pairs, ∀ v, p.2 = .value v →
            ((values v).flatMap values).length = 1) ∧ ∃ bound, u.layout.rest.IsBoundTo bound) ∧
        (Expr.SpelledIn .percentFree u.filter → ∃ bound, u.layout.rest.IsBoundTo bound) := by
  refine ⟨?_, fun calls u q ht hcalls hu hq => ?_⟩
  · rintro i σ τ q rfl hq
    obtain ⟨columns, first, set, hfirst, hsql, hsets⟩ := Insert.exists_normalizes hq
    have hiff := Insert.allBindOneEach_iff hs fun set hset => (hsets set hset).imp fun _ => And.right
    rw [hsql]
    refine ⟨columns, hfirst.sublist, fun set hset => ?_, hiff, fun hscalar => hiff.2 (hscalar.of_normalizes hsets)⟩
    obtain ⟨row, -, hrow⟩ := hsets set hset
    refine ⟨Insert.columns_layout hrow.length_eq, Query.ofPiece_eq_ok_iff.2 ?_⟩
    rw [i.piece_layout hrow.length_eq]
    exact ⟨rfl, rfl⟩
  · have hholds := Update.holds_of_runAll ht hu
    have hpiece := Update.render_eq_ok hq
    rw [← u.piece_layout] at hpiece
    refine ⟨hholds.assignments, u.columns_layout, hholds.nodup_columns ht, hpiece,
      Update.bindsOneEach_iff hs hcalls hholds hq, fun hfilter => ?_⟩
    have hrest : (Expr.clause {} " WHERE " u.filter).Balanced :=
      Expr.clause_invariant balanced_invariant rfl (by decide) hfilter
    exact ⟨_, Piece.isBoundTo_iff.2 ⟨hrest.2, rfl⟩⟩

namespace Sample

theorem person_percentFree : person.Spelled .percentFree := by
  simp [person, named, Table.Spelled, TableRef.Spelled, Spelling.percentFree]

theorem hiring_takesNoList : hiring.TakesNoList where
  rows := by decide
  defaults := by
    intro p hp σ v h
    simp only [hiring, person, List.mem_cons, List.not_mem_nil, or_false] at hp
    rcases hp with rfl | rfl | rfl <;> cases h <;> rfl

/-- A birthday, in which the age is corrected. -/
def birthday : List Update.Call :=
  [.set "age" (.int 30), .setAll [("name", .text "Ann"), ("age", .int 31)],
    .filter (.binary .equal (column person 0) (.value (.int 5)))]

/-- An update whose age is a list of two ages. -/
def twoAges : Update :=
  { table := person
    assignments := [({ named "age" (.integer .int) with nullable := true }, .value (.list [.int 31, .int 32]))] }

/-- Two rows, of which the first has a list with one age. -/
def oneAgeListed : Insert :=
  { table := person
    rows := [⟨[("name", .text "Ann"), ("age", .list [.int 31])], by decide⟩,
      ⟨[("name", .text "Ben"), ("age", .int 32)], by decide⟩] }

end Sample

/-- Two rows without lists, and an update that assigns the age twice. -/
theorem columns_bindOneEach_iff_birthday : Sample.person.Spelled .percentFree ∧
    (∃ columns text, ∀ set ∈ [[Value.text "Ann", .null], [.text "Ben", .int 31]],
      (Sample.hiring.layout columns set).BindsOneEach "INSERT INTO `person` (`name`, `age`) VALUES (%s, %s);" text) ∧
    ∃ u : Update, ({ table := Sample.person } : Update).runAll Sample.birthday = .ok u ∧ u.columns = ["age", "name"] ∧
      ∃ text, u.layout.BindsOneEach "UPDATE `person` SET `age`=%s, `name`=%s WHERE (`id` = %s);" text := by
  refine ⟨Sample.person_percentFree, ?_, _, rfl, rfl, ?_⟩
  · have hq : Sample.hiring.render.Gives .start ⟨"INSERT INTO `person` (`name`, `age`) VALUES (%s, %s);",
        .many [[.text "Ann", .null], [.text "Ben", .int 31]]⟩ .start := rfl
    obtain ⟨columns, -, -, -, h⟩ := (columns_bindOneEach_iff Sample.person_percentFree).1 _ _ _ _ rfl hq
    obtain ⟨text, h⟩ := h Sample.hiring_takesNoList
    exact ⟨columns, text, h⟩
  · have hcalls : ∀ call ∈ Sample.birthday, call.GivesValues := by simp [Sample.birthday, Update.Call.GivesValues]
    obtain ⟨-, -, -, -, hiff, hfilter⟩ := (columns_bindOneEach_iff Sample.person_percentFree).2 Sample.birthday _
      ⟨"UPDATE `person` SET `age`=%s, `name`=%s WHERE (`id` = %s);", .single [.int 31, .text "Ann", .int 5]⟩
      Sample.person_compiled.wellFormed hcalls rfl rfl
    refine hiff.2 ⟨fun p hp v hv => ?_, hfilter ?_⟩
    · have hpairs : (Ordered.ofList (Update.history Sample.birthday)).pairs =
          [("age", .value (.int 31)), ("name", .value (.text "Ann"))] := rfl
      rw [hpairs] at hp
      simp only [List.mem_cons, List.not_mem_nil, or_false] at hp
      rcases hp with rfl | rfl <;> cases hv <;> rfl
    · simp [Expr.SpelledIn, Expr.Spelled, Operand.Spelled, Sample.column, Sample.person, Sample.named, Table.columns,
        Column.Spelled, Column.name, TableRef.Spelled, Spelling.percentFree]

/-- A list in a column: an update binds both ages to the one column, and the sets of a batch come to two texts. -/
theorem listed_ages_misbound :
    (({ table := Sample.person } : Update).set "age" (.list [.int 31, .int 32]) = .ok Sample.twoAges ∧
      Sample.twoAges.render = .ok ⟨"UPDATE `person` SET `age`=%s, %s;", .single [.int 31, .int 32]⟩ ∧
      Placeholder.bind "UPDATE `person` SET `age`=%s, %s;" [.int 31, .int 32] =
        .ok ("UPDATE `person` SET `age`=?, ?;", [.int 31, .int 32]) ∧
      Sample.twoAges.columns = ["age"] ∧
      ¬ ∃ text, Sample.twoAges.layout.BindsOneEach "UPDATE `person` SET `age`=%s, %s;" text) ∧
    Sample.oneAgeListed.render.answer .start = .ok ⟨"INSERT INTO `person` (`name`, `age`) VALUES (%s, %s);",
      .many [[.text "Ann", .list [.int 31]], [.text "Ben", .int 32]]⟩ ∧
    Placeholder.bind "INSERT INTO `person` (`name`, `age`) VALUES (%s, %s);" [.text "Ann", .list [.int 31]] =
      .ok ("INSERT INTO `person` (`name`, `age`) VALUES (?, (?));", [.text "Ann", .int 31]) ∧
    Placeholder.bind "INSERT INTO `person` (`name`, `age`) VALUES (%s, %s);" [.text "Ben", .int 32] =
      .ok ("INSERT INTO `person` (`name`, `age`) VALUES (?, ?);", [.text "Ben", .int 32]) := by
  have hset : ({ table := Sample.person } : Update).runAll [.set "age" (.list [.int 31, .int 32])] =
      .ok Sample.twoAges := rfl
  have hrender : Sample.twoAges.render = .ok ⟨"UPDATE `person` SET `age`=%s, %s;", .single [.int 31, .int 32]⟩ := rfl
  have hcalls : ∀ call ∈ [Update.Call.set "age" (.list [.int 31, .int 32])], call.GivesValues := by
    simp [Update.Call.GivesValues]
  have hiff := Update.bindsOneEach_iff Sample.person_percentFree hcalls
    (Update.holds_of_runAll Sample.person_compiled.wellFormed hset) hrender
  refine ⟨⟨hset, hrender, rfl, rfl, fun h => ?_⟩, rfl, rfl, rfl⟩
  have hone := (hiff.1 h).1 ("age", .value (.list [.int 31, .int 32])) List.mem_cons_self _ rfl
  cases hone

end SqlMapper
