import SqlMapper.Expression.Build

/-!
# Samples

A day and two small tables, for statements that show what a theorem says.
-/

namespace SqlMapper.Sample

/-- The leap day of 2024. -/
def leapDay : Calendar.Date := ⟨2024, 2, 29, by decide⟩

/-- A field under the name of its column. -/
def named (name : String) (f : Field) : Field := { f with name := name }

/-- People with a number, a name and perhaps an age. -/
def person : Table :=
  { ref := ⟨none, "person"⟩
    fields := ⟨[("id", named "id" .auto), ("name", named "name" (.varchar 45)),
      ("age", { named "age" (.integer .int) with nullable := true })], by decide⟩
    primaryKey := ⟨"id", named "id" .auto, true, 1⟩
    indexes := []
    engine := "InnoDB"
    charset := "utf8mb4"
    comment := "" }

/-- What people owe, in a database of its own. -/
def debt : Table :=
  { ref := ⟨some "shop", "debt"⟩
    fields := ⟨[("id", named "id" .auto), ("person", named "person_id" (.integer .int)),
      ("amount", named "amount" (.decimal 10 2))], by decide⟩
    primaryKey := ⟨"id", named "id" .auto, true, 1⟩
    indexes := []
    engine := "InnoDB"
    charset := "utf8mb4"
    comment := "" }

/-- The column of a table at a position. -/
def column (t : Table) (position : Nat) : Operand := .expr (.column (t.columns.getD position default))

end SqlMapper.Sample
