import Mathlib.Data.List.Forall2
import SqlMapper.Proofs.Statement.Insert

/-!
# What a row resolves to

A row gives values to some attributes. Each field of the table that the row does not leave out takes a value: the given
one, or else what its default stands for (`Field.filling`). Streams are drawn from on the way, so the fields are filled
one after the other (`resolution`). A row is bound exactly if the columns can be bound that it resolves to, where a
replacement leaves out a column that is to become `NULL` and may not, if the row names the row that it replaces
(`Insert.Binds`, `Insert.boundFields_gives_iff`).
-/

namespace SqlMapper

/-- The server evaluates the default. -/
def FieldDefault.isRaw : FieldDefault → Bool
  | raw _ => true
  | _ => false

namespace Field

/-- A row that gives this to the field leaves its column out: no number for a numbered key, or nothing at all where the
server evaluates the default. -/
def isLeftOut (f : Field) (given : Option Value) : Bool :=
  if f.isAutoIncrement then given.all Value.isNull else given.isNone && f.default.isRaw

/-- The value that the column takes, and the supply that is left: what the row gives, or else the literal of the
default, the next value of its stream, or `NULL`. -/
def filling (f : Field) (given : Option Value) (σ : Supply) : Value × Supply :=
  match given, f.default with
  | some v, _ => (v, σ)
  | none, .value v => (v, σ)
  | none, .generated source generator => σ.draw source generator
  | none, _ => (.null, σ)

/-- The value is `NULL`, and the column is not nullable. -/
def misses (f : Field) (v : Value) : Bool := v.isNull && !f.nullable

end Field

/-- The columns of a row in the order of declaration with the values that they take, and the supply that is left, when
`given` is what the row gives to each attribute. -/
def resolution (given : String → Option Value) : List (String × Field) → Supply → List (Field × Value) × Supply
  | [], σ => ([], σ)
  | (attr, f) :: fs, σ =>
    if f.isLeftOut (given attr) then resolution given fs σ
    else
      let (v, υ) := f.filling (given attr) σ
      let (rest, τ) := resolution given fs υ
      ((f, v) :: rest, τ)

section Resolution

variable {given : String → Option Value} {attr : String} {f : Field} {fs : List (String × Field)} {σ : Supply}

@[simp] theorem resolution_nil : resolution given [] σ = ([], σ) := rfl

theorem resolution_of_leftOut (h : f.isLeftOut (given attr) = true) :
    resolution given ((attr, f) :: fs) σ = resolution given fs σ :=
  if_pos h

theorem resolution_of_listed (h : f.isLeftOut (given attr) = false) :
    resolution given ((attr, f) :: fs) σ =
      ((f, (f.filling (given attr) σ).1) :: (resolution given fs (f.filling (given attr) σ).2).1,
        (resolution given fs (f.filling (given attr) σ).2).2) :=
  if_neg (Bool.eq_false_iff.1 h)

/-- The columns of a row are those of the fields that it does not leave out, whatever the supply. -/
theorem fields_resolution : ∀ {fs : List (String × Field)} {σ : Supply}, (resolution given fs σ).1.map Prod.fst =
    (fs.filter fun p => !p.2.isLeftOut (given p.1)).map Prod.snd
  | [], _ => rfl
  | (attr, f) :: fs, σ => by
    cases h : f.isLeftOut (given attr) with
    | true => rw [resolution_of_leftOut h, fields_resolution, List.filter_cons_of_neg (by simp [h])]
    | false =>
      rw [resolution_of_listed h, List.map_cons, fields_resolution, List.filter_cons_of_pos (by simp [h]),
        List.map_cons]

end Resolution

/-- The row uses attributes of the table. -/
def Table.Declares (t : Table) (row : Values) : Prop := ∀ attr ∈ row.keys, attr ∈ t.fields.keys

namespace Insert

open Drawing

variable {i : Insert} {row : Values} {attr : String} {f : Field} {fs : List (String × Field)} {σ τ : Supply}

/-! ## One column -/

/-- Only a replacement may number a row. -/
def MayNumber (i : Insert) (f : Field) (given : Option Value) : Prop :=
  f.isAutoIncrement = true → i.isReplace = false → given.all Value.isNull = true

/-- A field that may be numbered is left out, or takes its value. -/
theorem resolved_gives_iff {r : Option Value} : (i.resolved row attr f).Gives σ r τ ↔
    i.MayNumber f (i.provided row attr) ∧
      ((f.isLeftOut (i.provided row attr) = true ∧ r = none ∧ τ = σ) ∨
        (f.isLeftOut (i.provided row attr) = false ∧ r = some (f.filling (i.provided row attr) σ).1 ∧
          τ = (f.filling (i.provided row attr) σ).2)) := by
  unfold resolved MayNumber Field.isLeftOut
  rw [eq_comm (a := r), eq_comm (a := τ), eq_comm (a := r), eq_comm (a := τ)]
  cases hp : i.provided row attr with
  | none =>
    cases ha : f.isAutoIncrement with
    | true => simp
    | false => cases hd : f.default <;> simp [hd, FieldDefault.isRaw, Field.filling, Field.resolveDefault, and_comm]
  | some v =>
    cases ha : f.isAutoIncrement with
    | false => simp [Field.filling]
    | true =>
      cases hv : v.isNull with
      | true => simp [hv]
      | false => cases hr : i.isReplace <;> simp [hv, Field.filling]

/-- What becomes of the value of a column: it is converted and bound, unless it is `NULL` in a column that may not be.
The column is left out then, and the row has to name the row that it replaces. -/
def Places (i : Insert) (row : Values) (f : Field) (v : Value) (r : Option Value) : Prop :=
  (f.misses v = true ∧ (i.isReplace && i.hasKey row) = true ∧ r = none) ∨
    (f.misses v = false ∧ ∃ w, f.toWire v = .ok w ∧ r = some w)

/-- A column is left out, or its value finds its place. -/
theorem bound_gives_iff {r : Option Value} : (i.bound row attr f).Gives σ r τ ↔
    i.MayNumber f (i.provided row attr) ∧
      ((f.isLeftOut (i.provided row attr) = true ∧ r = none ∧ τ = σ) ∨
        (f.isLeftOut (i.provided row attr) = false ∧ i.Places row f (f.filling (i.provided row attr) σ).1 r ∧
          τ = (f.filling (i.provided row attr) σ).2)) := by
  have hplaces : ∀ v υ, Gives (if (v.isNull && !f.nullable) = true then
      (if (i.isReplace && i.hasKey row) = true then pure none
        else Drawing.fail (.data f.name (.null attr i.table.name)))
      else do
        let w ← f.toWire v
        return some w) υ r τ ↔ i.Places row f v r ∧ τ = υ := by
    intro v υ
    rw [show (v.isNull && !f.nullable) = f.misses v from rfl]
    unfold Places
    cases hm : f.misses v with
    | true => cases hk : i.isReplace && i.hasKey row <;> simp [eq_comm (a := r), eq_comm (a := τ)]
    | false =>
      simp only [Bool.false_eq_true, if_false, gives_bind, gives_lift, gives_pure, false_and, true_and, false_or]
      constructor
      · rintro ⟨w, _, ⟨hw, rfl⟩, rfl, rfl⟩
        exact ⟨⟨w, hw, rfl⟩, rfl⟩
      · rintro ⟨⟨w, hw, rfl⟩, rfl⟩
        exact ⟨w, τ, ⟨hw, rfl⟩, rfl, rfl⟩
  unfold bound
  rw [gives_bind]
  constructor
  · rintro ⟨resolved, υ, hr, h⟩
    obtain ⟨hnumber, ⟨hleft, rfl, rfl⟩ | ⟨hlisted, rfl, rfl⟩⟩ := resolved_gives_iff.1 hr
    · obtain ⟨rfl, rfl⟩ := gives_pure.1 h
      exact ⟨hnumber, .inl ⟨hleft, rfl, rfl⟩⟩
    · exact ⟨hnumber, .inr ⟨hlisted, (hplaces _ _).1 h⟩⟩
  · rintro ⟨hnumber, ⟨hleft, rfl, rfl⟩ | ⟨hlisted, h⟩⟩
    · exact ⟨none, τ, resolved_gives_iff.2 ⟨hnumber, .inl ⟨hleft, rfl, rfl⟩⟩, gives_pure.2 ⟨rfl, rfl⟩⟩
    · exact ⟨_, _, resolved_gives_iff.2 ⟨hnumber, .inr ⟨hlisted, rfl, rfl⟩⟩, (hplaces _ _).2 h⟩

/-! ## All columns -/

/-- The columns of a row are what is bound for its fields, one after the other. -/
theorem boundFields_cons_gives_iff {r : List (Field × Value)} :
    (i.boundFields row ((attr, f) :: fs)).Gives σ r τ ↔ ∃ w υ rest, (i.bound row attr f).Gives σ w υ ∧
      (i.boundFields row fs).Gives υ rest τ ∧ r = (w.map fun w => (f, w)).toList ++ rest := by
  refine ⟨boundFields_cons_gives, ?_⟩
  rintro ⟨w, υ, rest, hw, hrest, rfl⟩
  unfold boundFields
  refine gives_bind.2 ⟨w, υ, hw, ?_⟩
  cases w with
  | none => exact hrest
  | some w => exact gives_bind.2 ⟨rest, τ, hrest, gives_pure.2 ⟨rfl, rfl⟩⟩

/-- The row is bound to the columns `r`: no number is given where only a replacement may, a value that its column
misses is left out where the replaced row has one, and every other value is converted, in the order of declaration. -/
structure Binds (i : Insert) (row : Values) (fs : List (String × Field)) (σ : Supply) (r : List (Field × Value))
    (τ : Supply) : Prop where
  numbered : ∀ p ∈ fs, i.MayNumber p.2 (i.provided row p.1)
  missed : ∀ p ∈ (resolution (i.provided row) fs σ).1, p.1.misses p.2 = true → (i.isReplace && i.hasKey row) = true
  bound : List.Forall₂ (fun p b => b.1 = p.1 ∧ p.1.toWire p.2 = .ok b.2)
    ((resolution (i.provided row) fs σ).1.filter fun p => !p.1.misses p.2) r
  left : τ = (resolution (i.provided row) fs σ).2

theorem binds_nil {r : List (Field × Value)} : i.Binds row [] σ r τ ↔ [] = r ∧ σ = τ := by
  constructor
  · rintro ⟨-, -, hb, rfl⟩
    exact ⟨(List.forall₂_nil_left_iff.1 hb).symm, rfl⟩
  · rintro ⟨rfl, rfl⟩
    exact ⟨by simp, by simp, by simp, rfl⟩

theorem binds_of_leftOut (h : f.isLeftOut (i.provided row attr) = true) {r : List (Field × Value)} :
    i.Binds row ((attr, f) :: fs) σ r τ ↔ i.MayNumber f (i.provided row attr) ∧ i.Binds row fs σ r τ := by
  constructor
  · rintro ⟨hn, hm, hb, hτ⟩
    rw [resolution_of_leftOut h] at hm hb hτ
    exact ⟨hn (attr, f) List.mem_cons_self, fun p hp => hn p (List.mem_cons_of_mem _ hp), hm, hb, hτ⟩
  · rintro ⟨hf, hn, hm, hb, hτ⟩
    rw [← resolution_of_leftOut h] at hm hb hτ
    exact ⟨List.forall_mem_cons.2 ⟨hf, hn⟩, hm, hb, hτ⟩

theorem binds_of_listed (h : f.isLeftOut (i.provided row attr) = false) {r : List (Field × Value)} :
    i.Binds row ((attr, f) :: fs) σ r τ ↔ i.MayNumber f (i.provided row attr) ∧ ∃ w rest,
      i.Places row f (f.filling (i.provided row attr) σ).1 w ∧
        i.Binds row fs (f.filling (i.provided row attr) σ).2 rest τ ∧ r = (w.map fun w => (f, w)).toList ++ rest := by
  constructor
  · rintro ⟨hn, hm, hb, hτ⟩
    rw [resolution_of_listed h] at hm hb hτ
    obtain ⟨hf, hn⟩ := List.forall_mem_cons.1 hn
    obtain ⟨hmf, hm⟩ := List.forall_mem_cons.1 hm
    refine ⟨hf, ?_⟩
    cases hmiss : f.misses (f.filling (i.provided row attr) σ).1 with
    | true =>
      rw [List.filter_cons_of_neg (by simp [hmiss])] at hb
      exact ⟨none, r, .inl ⟨hmiss, hmf hmiss, rfl⟩, ⟨hn, hm, hb, hτ⟩, rfl⟩
    | false =>
      rw [List.filter_cons_of_pos (by simp [hmiss])] at hb
      obtain ⟨⟨g, w⟩, rest, ⟨hg, hw⟩, hrest, rfl⟩ := List.forall₂_cons_left_iff.1 hb
      obtain rfl : f = g := hg.symm
      exact ⟨some w, rest, .inr ⟨hmiss, w, hw, rfl⟩, ⟨hn, hm, hrest, hτ⟩, rfl⟩
  · rintro ⟨hf, w, rest, hplaces, ⟨hn, hm, hb, hτ⟩, rfl⟩
    refine ⟨List.forall_mem_cons.2 ⟨hf, hn⟩, ?_, ?_, ?_⟩
    · rw [resolution_of_listed h]
      refine List.forall_mem_cons.2 ⟨fun hmiss => ?_, hm⟩
      rcases hplaces with ⟨-, hk, -⟩ | ⟨hmiss', -⟩
      · exact hk
      · exact absurd (hmiss.symm.trans hmiss') nofun
    · rw [resolution_of_listed h]
      rcases hplaces with ⟨hmiss, -, rfl⟩ | ⟨hmiss, w, hw, rfl⟩
      · rw [List.filter_cons_of_neg (by simp [hmiss])]
        exact hb
      · rw [List.filter_cons_of_pos (by simp [hmiss])]
        exact .cons ⟨rfl, hw⟩ hb
    · rw [resolution_of_listed h]
      exact hτ

/-- **What a row is bound to**, field by field and whatever the supply. -/
theorem boundFields_gives_iff : ∀ {fs : List (String × Field)} {σ : Supply} {r : List (Field × Value)},
    (i.boundFields row fs).Gives σ r τ ↔ i.Binds row fs σ r τ
  | [], σ, r => by rw [boundFields, gives_pure, binds_nil]
  | (attr, f) :: fs, σ, r => by
    rw [boundFields_cons_gives_iff]
    simp only [bound_gives_iff, boundFields_gives_iff]
    cases h : f.isLeftOut (i.provided row attr) with
    | true =>
      rw [binds_of_leftOut h]
      constructor
      · rintro ⟨w, υ, rest, ⟨hf, ⟨-, rfl, rfl⟩ | ⟨h, -⟩⟩, hrest, rfl⟩
        · exact ⟨hf, hrest⟩
        · cases h
      · rintro ⟨hf, hrest⟩
        exact ⟨none, σ, r, ⟨hf, .inl ⟨rfl, rfl, rfl⟩⟩, hrest, rfl⟩
    | false =>
      rw [binds_of_listed h]
      constructor
      · rintro ⟨w, υ, rest, ⟨hf, ⟨h, -⟩ | ⟨-, hw, rfl⟩⟩, hrest, rfl⟩
        · cases h
        · exact ⟨hf, w, rest, hw, hrest, rfl⟩
      · rintro ⟨hf, w, rest, hw, hrest, rfl⟩
        exact ⟨w, _, rest, ⟨hf, .inr ⟨rfl, hw, rfl⟩⟩, hrest, rfl⟩

/-- The bound columns have the names of the columns that take their values. -/
theorem Binds.map_name {r : List (Field × Value)} (h : i.Binds row fs σ r τ) : r.map (·.1.name) =
    ((resolution (i.provided row) fs σ).1.filter fun p => !p.1.misses p.2).map (·.1.name) := by
  rw [eq_comm, ← List.forall₂_eq_eq_eq, List.forall₂_map_left_iff, List.forall₂_map_right_iff]
  exact h.bound.imp fun _ _ hb => congrArg Field.name hb.1.symm

/-- A row is normalized exactly if it uses attributes of the table and is bound. -/
theorem normalize_gives_iff {r : List (Field × Value)} : (i.normalize row).Gives σ r τ ↔
    i.table.Declares row ∧ i.Binds row i.table.fields.pairs σ r τ := by
  rw [← boundFields_gives_iff]
  constructor
  · intro h
    obtain ⟨hkeys, h⟩ := normalize_gives h
    exact ⟨fun attr ha => Ordered.contains_eq_true.1 (hkeys attr ha), h⟩
  · rintro ⟨hkeys, h⟩
    have hknown : (row.keys.find? fun attr => !i.table.fields.contains attr) = none :=
      List.find?_eq_none.2 fun attr ha => by simp [Ordered.contains_eq_true.2 (hkeys attr ha)]
    unfold normalize
    rw [hknown]
    exact h

end Insert

end SqlMapper
