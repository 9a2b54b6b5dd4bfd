import Mathlib.Data.List.Forall2
import SqlMapper.Model.Samples
import SqlMapper.Proofs.Field.Native
import SqlMapper.Proofs.Record.Saving

/-!
# Replaced instances are read back

A model is faithful if the column of each attribute stores the values of its type (`Member.Faithful`), and if its table
was compiled from just these columns (`Model.Faithful`). An instance of such a model that gives a value to every column
(`Model.Given`) makes a statement that replaces its row, and the row that the statement stores loads as a record that
describes the instance again (`Model.fromRecord_of_replace`), as long as the clocks of its columns show its instants
(`Model.Shows`).

Attribute by attribute, the value is bound by its column, and what the column reads from the bound value is read as the
value again (`Member.exists_bound`). The statement and the record then come from the row as a whole. The sample models
are among these models (`Samples.faithful_models`).
-/

namespace SqlMapper

/-! ## Faithful attributes -/

/-- The column of an attribute stores the values of its type: its kind is one that the type has, it takes `NULL` for an
option, and only for other types it is numbered. -/
structure Member.Faithful (m : Member) : Prop where
  stored : m.type.StoredAs m.field.kind
  nullable : m.type.isOption = true → m.field.nullable = true
  numbered : m.field.isAutoIncrement = true → m.type.isOption = false

instance (m : Member) : Decidable m.Faithful :=
  decidable_of_iff (m.type.StoredAs m.field.kind ∧ (m.type.isOption = true → m.field.nullable = true) ∧
      (m.field.isAutoIncrement = true → m.type.isOption = false))
    ⟨fun ⟨hs, hn, ha⟩ => ⟨hs, hn, ha⟩, fun h => ⟨h.stored, h.nullable, h.numbered⟩⟩

/-- The value of an attribute that an instance gives to a statement. The type keeps it, it is not the zero of a row
without a number, and it is not the absence that a declared default stands for. -/
structure Member.Given (m : Member) (p : String × Value) : Prop where
  attr : p.1 = m.attr
  keeps : m.type.Keeps p.2
  numbered : m.field.isAutoIncrement = true → Member.isUnset p.2 = false
  provided : m.type.isOption = true → m.hasDefault = true → p.2.isNull = false

/-- The column of an attribute, the value that is given to it, and the value that is bound: the column takes the one and
can store the other, and what it reads from that, if its clocks show it, is read as the given value. -/
structure Member.Bound (m : Member) (g : Insert.Given) : Prop where
  attr : g.attr = m.attr
  field : g.field = Declaration.named m.attr m.field
  fits : g.Fits true
  stores : g.field.Stores g.wire
  reads : g.field.Shows g.value → ∃ v, Value.readAs m.type (g.field.loaded g.wire) = .ok v ∧ g.value.Matches v

namespace Member

variable {m : Member} {p : String × Value}

/-- The value is not left to the server or to a default. -/
theorem leavesOut_of_given (h : m.Given p) : m.leavesOut p.2 = false := by
  unfold leavesOut
  split
  · next ha => exact h.numbered ha
  · cases ho : m.type.isOption with
    | false => rfl
    | true =>
      cases hd : m.hasDefault with
      | false => rfl
      | true => rw [h.provided ho hd]; rfl

/-- A given value is bound by its column and read back. -/
theorem exists_bound (hm : m.Faithful) (h : m.Given p) : ∃ g, m.Bound g ∧ (g.attr, g.value) = p := by
  obtain ⟨attr, v⟩ := p
  obtain rfl : attr = m.attr := h.attr
  have hoption : v.isNull = true → m.type.isOption = true := fun hn => by
    obtain ⟨u, hu⟩ := h.keeps.exists_option hn
    rw [hu]
    rfl
  have hkind : m.type.StoredAs (Declaration.named m.attr m.field).kind := by
    rw [Declaration.named_kind]
    exact hm.stored
  have hnullable : v.isNull = true → (Declaration.named m.attr m.field).nullable = true := fun hn => by
    rw [Declaration.named_nullable]
    exact hm.nullable (hoption hn)
  have hnumbered : (Declaration.named m.attr m.field).isAutoIncrement = true → v.isNull = false := fun ha => by
    rw [Declaration.named_isAutoIncrement] at ha
    refine Bool.eq_false_iff.2 fun hn => ?_
    rw [hm.numbered ha] at hoption
    cases hoption hn
  obtain ⟨w, hw, hstores, hread⟩ := Field.exists_stores_of_keeps hkind h.keeps hnullable
  exact ⟨⟨m.attr, _, v, w⟩, ⟨rfl, rfl, ⟨hw, hnullable, fun ha => ⟨hnumbered ha, rfl⟩⟩, hstores, hread⟩, rfl⟩

/-- No value is left out of a statement. -/
theorem given_zip {members : List Member} {x : Instance} (hx : List.Forall₂ Member.Given members x) :
    ((members.zip x).filterMap fun (member, p) => if member.leavesOut p.2 then none else some p) = x ∧
      x.map Prod.fst = members.map Member.attr := by
  induction hx with
  | nil => exact ⟨rfl, rfl⟩
  | cons hp _ ih =>
    rw [List.zip_cons_cons, List.filterMap_cons, ih.1, List.map_cons, List.map_cons, ih.2, hp.attr]
    dsimp only
    rw [leavesOut_of_given hp]
    exact ⟨rfl, rfl⟩

/-- All given values are bound by their columns and read back. -/
theorem exists_bounds : ∀ {members : List Member} {x : Instance}, (∀ m ∈ members, m.Faithful) →
    List.Forall₂ Member.Given members x →
      ∃ gs, List.Forall₂ Member.Bound members gs ∧ (gs.map fun g => (g.attr, g.value)) = x
  | [], [], _, _ => ⟨[], .nil, rfl⟩
  | m :: members, p :: x, hm, .cons hp hx => by
    obtain ⟨g, hg, hgp⟩ := exists_bound (hm m List.mem_cons_self) hp
    obtain ⟨gs, hgs, hgx⟩ := exists_bounds (fun m' h' => hm m' (List.mem_cons_of_mem m h')) hx
    exact ⟨g :: gs, .cons hg hgs, by rw [List.map_cons, hgp, hgx]⟩

end Member

/-! ## Faithful models -/

/-- The attributes of a model are faithful, and its table was compiled from just their columns. -/
structure Model.Faithful (m : Model) : Prop where
  wellFormed : m.table.WellFormed
  fields : m.table.fields.pairs = m.members.map fun member => (member.attr, Declaration.named member.attr member.field)
  members : ∀ member ∈ m.members, member.Faithful

/-- An instance that gives a value to every column. -/
def Model.Given (m : Model) (x : Instance) : Prop := List.Forall₂ Member.Given m.members x

/-- The clocks of the columns show the instants of the instance. -/
def Model.Shows (m : Model) (x : Instance) : Prop := ∀ q ∈ m.members.zip x, q.1.field.Shows q.2.2

/-- Instants of the model are shown on clocks of universal time. -/
def Model.IsUniversal (m : Model) : Prop := ∀ member ∈ m.members, member.field.IsUniversal

/-- A table that is compiled from faithful attributes, on no other table, makes a faithful model. -/
theorem Model.faithful_of_compile {d : Declaration} {m : Model} (hbase : d.base = none)
    (hfields : d.fields = m.members.map fun member => (member.attr, member.field)) (hc : d.compile = .ok m.table)
    (hmembers : ∀ member ∈ m.members, member.Faithful) : m.Faithful := by
  have hnone : ∀ b ∈ d.base, b.WellFormed := by
    rw [hbase]
    exact fun b hb => (by cases hb)
  have hinherited : d.inheritedFields = .empty := by
    unfold Declaration.inheritedFields
    rw [hbase]
    rfl
  have hadded := (Declaration.compile_eq_ok hc).1
  rw [hinherited, hfields] at hadded
  refine ⟨Declaration.wellFormed_of_base hnone hc, ?_, hmembers⟩
  rw [Declaration.pairs_addFields hadded fun p _ => List.not_mem_nil, List.map_map]
  rfl

namespace Model

variable {m : Model} {x : Instance} {gs : List Insert.Given} {r : Record}

theorem fields_of_bound (hm : m.Faithful) (hgs : List.Forall₂ Member.Bound m.members gs) :
    (gs.map fun g => (g.attr, g.field)) = m.table.fields.pairs := by
  rw [hm.fields]
  generalize m.members = members at hgs
  induction hgs with
  | nil => rfl
  | cons hg _ ih => rw [List.map_cons, List.map_cons, ih, hg.attr, hg.field]

theorem fits_of_bound {members : List Member} (hgs : List.Forall₂ Member.Bound members gs) :
    ∀ g ∈ gs, g.Fits true ∧ g.field.Stores g.wire := by
  induction hgs with
  | nil => exact fun g hg => (by cases hg)
  | cons hg _ ih =>
    intro g' h'
    rcases List.mem_cons.1 h' with rfl | h'
    · exact ⟨hg.fits, hg.stores⟩
    · exact ih g' h'

theorem kind_of_bound {member : Member} {g : Insert.Given} (hg : member.Bound g) :
    g.field.kind = member.field.kind := by
  rw [hg.field, Declaration.named_kind]

/-- Clocks show an instance where they show what is bound for it. -/
theorem shows_iff_of_bound {members : List Member} (hgs : List.Forall₂ Member.Bound members gs) :
    (∀ q ∈ members.zip (gs.map fun g => (g.attr, g.value)), q.1.field.Shows q.2.2) ↔
      ∀ g ∈ gs, g.field.Shows g.wire := by
  induction hgs with
  | nil => exact iff_of_true (fun _ hq => nomatch hq) fun _ hg => nomatch hg
  | @cons member g members gs hg _ ih =>
    have hshows : g.field.Shows g.wire ↔ member.field.Shows g.value := by
      rw [Field.shows_iff_of_toWire hg.fits.bound, Field.Shows, Field.Shows, kind_of_bound hg]
    rw [List.map_cons, List.zip_cons_cons, List.forall_mem_cons, List.forall_mem_cons, ih, hshows]

/-- An instance that gives a value to every column gives just these values to a statement. -/
theorem pairs_toValues (hm : m.Faithful) (hx : m.Given x) : (m.toValues x).pairs = x := by
  have hkeys : m.table.fields.keys = m.members.map Member.attr := by
    rw [Ordered.keys, hm.fields, List.map_map]
    rfl
  obtain ⟨hgiven, hattrs⟩ := Member.given_zip hx
  rw [toValues, hgiven]
  refine Ordered.pairs_ofList ?_
  rw [hattrs, ← hkeys]
  exact m.table.fields.nodup

/-- Attributes are read from a record one after the other. -/
theorem readMembers_of_bound {members : List Member} (hgs : List.Forall₂ Member.Bound members gs)
    (hr : ∀ g ∈ gs, r.get? g.attr = some (g.field.loaded g.wire)) (hshows : ∀ g ∈ gs, g.field.Shows g.wire) :
    ∃ y, m.readMembers r members = .ok y ∧ List.Forall₂ (fun g q => g.attr = q.1 ∧ g.value.Matches q.2) gs y := by
  induction hgs with
  | nil => exact ⟨[], rfl, .nil⟩
  | @cons member g members gs hg _ ih =>
    obtain ⟨v, hv, hmatch⟩ := hg.reads ((Field.shows_iff_of_toWire hg.fits.bound).1 (hshows g List.mem_cons_self))
    obtain ⟨y, hy, hys⟩ := ih (fun g' h' => hr g' (List.mem_cons_of_mem g h'))
      fun g' h' => hshows g' (List.mem_cons_of_mem g h')
    have hget : r.get? member.attr = some (g.field.loaded g.wire) := hg.attr ▸ hr g List.mem_cons_self
    refine ⟨(member.attr, v) :: y, ?_, .cons ⟨hg.attr, hmatch⟩ hys⟩
    rw [readMembers, hget, Option.getD_some, hv]
    exact Result.bind_eq_ok.2 ⟨v, rfl, Result.bind_eq_ok.2 ⟨y, hy, rfl⟩⟩

/-- **A replaced instance is read back.** Replacing the row of an instance makes a statement that lists every column,
whatever the supply, and the row that it stores loads as a record that describes the instance again. Only an instant
that the clocks of its column do not show is a panic, and clocks of universal time show each. -/
theorem fromRecord_of_replace (hm : m.Faithful) (hx : m.Given x) (s : Supply) :
    ∃ ws, (m.replace (m.toValues x)).render.Gives s ⟨m.table.replaceText, .single ws⟩ s ∧
      (m.Shows x → ∃ r y, Row.load m.table (m.table.delivered ws) .model = .ok (.record r) ∧ m.fromRecord r = .ok y ∧
        List.Forall₂ (fun p q => p.1 = q.1 ∧ p.2.Matches q.2) x y) ∧
      (¬ m.Shows x → Row.load m.table (m.table.delivered ws) .model = .error .outOfCalendar) ∧
      (m.IsUniversal → m.Shows x) := by
  obtain ⟨gs, hgs, rfl⟩ := Member.exists_bounds hm.members hx
  have hfields := fields_of_bound hm hgs
  have hall := fits_of_bound hgs
  have hcolumns : m.table.columns = gs.map fun g => ⟨m.table.ref, g.attr, g.field⟩ := by
    rw [Table.columns, ← hfields, List.map_map]
    rfl
  have hcells : m.table.cells (gs.map Insert.Given.wire) =
      gs.map fun g => (⟨m.table.ref, g.attr, g.field⟩, g.wire) := by
    rw [Table.cells, hcolumns, List.zip_map']
  have hstores : m.table.Stores (gs.map Insert.Given.wire) := by
    refine ⟨by rw [hcolumns, List.length_map, List.length_map], fun c hc => ?_⟩
    rw [hcells] at hc
    obtain ⟨g, hg, rfl⟩ := List.mem_map.1 hc
    exact (hall g hg).2
  have hshown : m.Shows (gs.map fun g => (g.attr, g.value)) ↔ ∀ g ∈ gs, g.field.Shows g.wire := shows_iff_of_bound hgs
  have htable : m.table.Shows (gs.map Insert.Given.wire) ↔ ∀ g ∈ gs, g.field.Shows g.wire := by
    rw [Table.Shows, hcells, List.forall_mem_map]
  refine ⟨gs.map Insert.Given.wire, ?_, fun hshows => ?_, fun hshows => ?_, fun huniversal => ?_⟩
  · have hgives := Insert.render_given (i := m.replace (m.toValues (gs.map fun g => (g.attr, g.value)))) (σ := s) rfl
      rfl hfields (pairs_toValues hm hx) fun g hg => (hall g hg).1
    have hnames : (gs.map fun g => g.field.name) = m.table.columns.map Column.name := by
      rw [hcolumns, List.map_map]
      rfl
    rw [hnames] at hgives
    exact (Insert.terminated_text (i := m.replace (m.toValues (gs.map fun g => (g.attr, g.value)))) rfl) ▸ hgives
  · obtain ⟨r, hload, -, hvalues⟩ := Row.load_of_stores hm.wellFormed hstores (htable.2 (hshown.1 hshows))
    have hget : ∀ g ∈ gs, r.get? g.attr = some (g.field.loaded g.wire) := by
      intro g hg
      refine Ordered.mem_pairs_iff.1 ?_
      rw [hvalues, hcells, loadedValues, List.map_map]
      exact List.mem_map_of_mem (f := fun g : Insert.Given => (g.attr, g.field.loaded g.wire)) hg
    obtain ⟨y, hy, hmatch⟩ := readMembers_of_bound (m := m) hgs hget (hshown.1 hshows)
    exact ⟨r, y, hload, hy, List.forall₂_map_left_iff.2 hmatch⟩
  · exact Row.load_eq_panic hm.wellFormed hstores fun h => hshows (hshown.2 (htable.1 h))
  · refine hshown.2 (htable.1 (hstores.shows fun c hc => ?_))
    rw [hcolumns] at hc
    obtain ⟨g, hg, rfl⟩ := List.mem_map.1 hc
    obtain ⟨member, hmember, hbound⟩ := Result.exists_of_mem hgs hg
    exact fun clocks hk => huniversal member hmember clocks ((kind_of_bound hbound).symm.trans hk)

/-- A model that is declared with faithful attributes, on no other table, is faithful. -/
theorem faithful_of_declare {d : Declaration} {members : List Member} (h : declare d members = .ok m)
    (hbase : d.base = none) (hmembers : ∀ member ∈ members, member.Faithful) :
    m.Faithful ∧ m.members = members := by
  obtain ⟨table, htable, h⟩ := Result.bind_eq_ok.1 h
  cases h
  exact ⟨faithful_of_compile (d := { d with fields := members.map fun m => (m.attr, m.field) }) hbase rfl htable
    hmembers, rfl⟩

end Model

/-! ## The sample models -/

/-- **Each sample model is faithful**, and shows instants on clocks of universal time. -/
theorem Samples.faithful_models : ∀ p ∈ models, ∃ m, p.2 = .ok m ∧ m.Faithful ∧ m.IsUniversal := by
  have hdeclared {d : Declaration} {members : List Member} (hok : ∃ m, Model.declare d members = .ok m)
      (hbase : d.base = none) (hmembers : ∀ member ∈ members, member.Faithful ∧ member.field.IsUniversal) :
      ∃ m, Model.declare d members = .ok m ∧ m.Faithful ∧ m.IsUniversal := by
    obtain ⟨m, hm⟩ := hok
    obtain ⟨hfaithful, rfl⟩ := Model.faithful_of_declare hm hbase fun member h => (hmembers member h).1
    exact ⟨m, hm, hfaithful, fun member h => (hmembers member h).2⟩
  simp only [models, List.forall_mem_cons]
  exact ⟨hdeclared ⟨_, rfl⟩ rfl (by decide), hdeclared ⟨_, rfl⟩ rfl (by decide), hdeclared ⟨_, rfl⟩ rfl (by decide),
    hdeclared ⟨_, rfl⟩ rfl (by decide), hdeclared ⟨_, rfl⟩ rfl (by decide), hdeclared ⟨_, rfl⟩ rfl (by decide),
    hdeclared ⟨_, rfl⟩ rfl (by decide), List.forall_mem_nil _⟩

/-- So replaced instances of the sample models are read back. -/
theorem Samples.fromRecord_of_replace {p : String × Result Model} (hp : p ∈ models) :
    ∃ m, p.2 = .ok m ∧ ∀ x s, m.Given x →
      ∃ ws r y, (m.replace (m.toValues x)).render.Gives s ⟨m.table.replaceText, .single ws⟩ s ∧
        Row.load m.table (m.table.delivered ws) .model = .ok (.record r) ∧ m.fromRecord r = .ok y ∧
        List.Forall₂ (fun p q => p.1 = q.1 ∧ p.2.Matches q.2) x y := by
  obtain ⟨m, hm, hfaithful, huniversal⟩ := faithful_models p hp
  refine ⟨m, hm, fun x s hx => ?_⟩
  obtain ⟨ws, hgives, hread, -, hshows⟩ := Model.fromRecord_of_replace hfaithful hx s
  obtain ⟨r, y, hload, hy, hmatch⟩ := hread (hshows huniversal)
  exact ⟨ws, r, y, hgives, hload, hy, hmatch⟩

end SqlMapper
