import Mathlib.Data.List.Induction
import SqlMapper.Field.Basic

/-!
# Building fields

A field is built from a type by setters, one after the other (`Field.Script`), and every field can be built so
(`Script.field_of`). What the setters come to is read off one property at a time: the last setter that says whether the
column takes `NULL` wins (`Script.nullable_field`), and so does the last default (`Script.default_field`), while a key
stays a key (`Script.isPrimaryKey_field`).
-/

namespace SqlMapper.Field

open Number

/-- A setter of a field with its arguments. -/
inductive Setter where
  | name (text : String)
  | nullable
  | notNull
  | default (v : Value)
  | defaultRaw (sql : String)
  | defaultWith (source : Nat) (generator : Generator)
  | comment (text : String)
  | primaryKey
  | autoIncrement
  | unsigned
  | zerofill
  | charset (text : String)
  | length (n : Nat)
  | precision (digits decimals : Nat)
  | rounding (mode : Decimal.Rounding)
  | formats (texts : List String)
  | utc (isUtc : Bool) (ahead : Int)

namespace Setter

/-- What the setter makes of a field. -/
def apply (f : Field) : Setter → Field
  | name text => { f with name := text }
  | nullable => { f with nullable := true }
  | notNull => { f with nullable := false }
  | default v => { f with default := .value v }
  | defaultRaw sql => { f with default := .raw sql }
  | defaultWith source generator => { f with default := .generated source generator }
  | comment text => { f with comment := text }
  | primaryKey => f.primaryKey
  | autoIncrement => f.autoIncrement
  | unsigned => f.unsigned
  | zerofill => { f with isZerofill := true }
  | charset text => { f with charset := some text }
  | length n => f.withLength n
  | precision digits decimals => f.withPrecision digits decimals
  | rounding mode => f.withRounding mode
  | formats texts => f.withFormats texts
  | utc isUtc ahead => f.withUtc isUtc ahead

/-- What the setter says about `NULL`, if it says anything: a key does not take it. -/
def nullability : Setter → Option Bool
  | nullable => some true
  | notNull | primaryKey | autoIncrement => some false
  | _ => none

/-- The default that the setter declares. -/
def default? : Setter → Option FieldDefault
  | default v => some (.value v)
  | defaultRaw sql => some (.raw sql)
  | defaultWith source generator => some (.generated source generator)
  | _ => none

/-- The name that the setter gives to the column. -/
def name? : Setter → Option String
  | name text => some text
  | _ => none

/-- The setter concerns columns of one type, and leaves others alone. -/
def ofType : Setter → Bool
  | length _ | precision .. | rounding _ | formats _ | utc .. => true
  | _ => false

/-- The setter makes the column the primary key. -/
def makesKey : Setter → Bool
  | primaryKey => true
  | _ => false

end Setter

/-- The type of a field and the setters that it was built with, in order. -/
structure Script where
  kind : FieldKind
  setters : List Setter

namespace Script

/-- The field that is built. -/
def field (s : Script) : Field := s.setters.foldl Setter.apply (ofKind s.kind)

/-- The last setter that says whether the column takes `NULL` says that it does. -/
def allowsNull (s : Script) : Bool := (s.setters.reverse.findSome? Setter.nullability).getD false

/-- The last default that is declared. -/
def lastDefault (s : Script) : FieldDefault := (s.setters.reverse.findSome? Setter.default?).getD .none

/-- One of the setters makes the column the primary key. -/
def makesKey (s : Script) : Bool := s.setters.any Setter.makesKey

end Script

/-! ## One setter -/

section

variable {setter : Setter}

/-- A setter of one type of columns changes the type and nothing else. -/
theorem exists_kind (h : setter.ofType = true) (f : Field) : ∃ kind, setter.apply f = { f with kind := kind } := by
  cases setter with
  | length | precision | rounding | formats | utc =>
    simp only [Setter.apply, withLength, withPrecision, withRounding, withFormats, withUtc]
    split <;> exact ⟨_, rfl⟩
  | _ => cases h

/-- A property that does not depend on the type is left alone by the setters of one type of columns. -/
theorem apply_of_ofType {α : Type} (property : Field → α) {f : Field} (h : setter.ofType = true)
    (hkind : ∀ kind, property { f with kind := kind } = property f) : property (setter.apply f) = property f := by
  obtain ⟨kind, hk⟩ := exists_kind h f
  rw [hk, hkind]

theorem apply_eq {α : Type} {property : Field → α} {f : Field} {a : α}
    (hkind : ∀ kind, property { f with kind := kind } = property f)
    (hown : setter.ofType = true → property f = a) (hother : setter.ofType = false → property (setter.apply f) = a) :
    property (setter.apply f) = a := by
  cases ht : setter.ofType with
  | true => exact (apply_of_ofType property ht hkind).trans (hown ht)
  | false => exact hother ht

theorem nullable_apply (setter : Setter) (f : Field) :
    (setter.apply f).nullable = setter.nullability.getD f.nullable := by
  apply apply_eq fun _ => rfl
  all_goals
    intro ht
    cases setter <;> first | rfl | cases ht

theorem default_apply (setter : Setter) (f : Field) : (setter.apply f).default = setter.default?.getD f.default := by
  apply apply_eq fun _ => rfl
  all_goals
    intro ht
    cases setter <;> first | rfl | cases ht

theorem name_apply (setter : Setter) (f : Field) : (setter.apply f).name = setter.name?.getD f.name := by
  apply apply_eq fun _ => rfl
  all_goals
    intro ht
    cases setter <;> first | rfl | cases ht

theorem isPrimaryKey_apply (setter : Setter) (f : Field) :
    (setter.apply f).isPrimaryKey = (f.isPrimaryKey || setter.makesKey) := by
  apply apply_eq fun _ => rfl
  all_goals
    intro ht
    cases setter <;> first | exact (Bool.or_false _).symm | exact (Bool.or_true _).symm | cases ht

end

/-! ## All setters -/

/-- A property that some setters set is what the last of these says, whatever field they are applied to. -/
theorem last_wins_foldl {α : Type} {property : Field → α} {said : Setter → Option α}
    (hstep : ∀ setter f, property (setter.apply f) = (said setter).getD (property f)) (setters : List Setter)
    (f : Field) : property (setters.foldl Setter.apply f) = (setters.reverse.findSome? said).getD (property f) := by
  induction setters using List.reverseRecOn with
  | nil => rfl
  | append_singleton setters setter ih =>
    rw [List.foldl_append, List.foldl_cons, List.foldl_nil, hstep, ih, List.reverse_append, List.reverse_singleton,
      List.singleton_append, List.findSome?_cons]
    cases said setter <;> rfl

/-- A flag that some steps set and none takes back is set if one of the steps sets it. -/
theorem any_foldl {β : Type} {step : Field → β → Field} {flag : Field → Bool} {sets : β → Bool}
    (hstep : ∀ b f, flag (step f b) = (flag f || sets b)) (steps : List β) (f : Field) :
    flag (steps.foldl step f) = (flag f || steps.any sets) := by
  induction steps generalizing f with
  | nil => exact (Bool.or_false _).symm
  | cons b steps ih => rw [List.foldl_cons, ih, hstep, List.any_cons, Bool.or_assoc]

namespace Script

/-- A property that some setters set is what the last of these says. -/
theorem last_wins {α : Type} {property : Field → α} {said : Setter → Option α}
    (hstep : ∀ setter f, property (setter.apply f) = (said setter).getD (property f)) (s : Script) :
    property s.field = (s.setters.reverse.findSome? said).getD (property (ofKind s.kind)) :=
  last_wins_foldl hstep s.setters (ofKind s.kind)

/-- **The last word about `NULL` wins.** -/
theorem nullable_field (s : Script) : s.field.nullable = s.allowsNull := last_wins nullable_apply s

/-- **The last default wins.** -/
theorem default_field (s : Script) : s.field.default = s.lastDefault := last_wins default_apply s

/-- **A key stays a key.** -/
theorem isPrimaryKey_field (s : Script) : s.field.isPrimaryKey = s.makesKey := any_foldl isPrimaryKey_apply _ _

end Script

/-! ## A script for each field -/

/-- The setter of a flag that is set. -/
def Setter.of (flag : Bool) (setter : Setter) : List Setter := if flag then [setter] else []

/-- The setter of a default. -/
def Setter.ofDefault : FieldDefault → List Setter
  | .none => []
  | .value v => [.default v]
  | .raw sql => [.defaultRaw sql]
  | .generated source generator => [.defaultWith source generator]

/-- Setters for a field. What makes a key takes back that the column takes `NULL`, and so comes first. -/
def Script.of (f : Field) : Script where
  kind := f.kind
  setters := Setter.of f.isPrimaryKey .primaryKey ++ Setter.of f.isAutoIncrement .autoIncrement ++
    Setter.of f.nullable .nullable ++ Setter.of f.isUnsigned .unsigned ++ Setter.of f.isZerofill .zerofill ++
    Setter.ofDefault f.default ++ f.charset.toList.map .charset ++ [.name f.name, .comment f.comment]

/-- **Every field is built by setters**, whatever its flags are. -/
theorem Script.field_of (f : Field) : (Script.of f).field = f := by
  obtain ⟨name, kind, nullable, default, comment, isPrimaryKey, isAutoIncrement, isUnsigned, isZerofill, charset⟩ := f
  have hof (flag : Bool) (setter : Setter) (g : Field) :
      (Setter.of flag setter).foldl Setter.apply g = if flag then setter.apply g else g := by
    cases flag <;> rfl
  simp only [Script.field, Script.of, List.foldl_append, hof]
  cases default <;> cases charset <;> cases nullable <;> cases isPrimaryKey <;> cases isAutoIncrement <;>
    cases isUnsigned <;> cases isZerofill <;> rfl

end SqlMapper.Field
