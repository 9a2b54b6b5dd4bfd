import SqlMapper.Table.Basic
import SqlMapper.Text.Lowercase

/-!
# Table declarations

A declaration describes a table and possibly a table that it extends. Compiling it checks the fields one by one, then
their columns and the primary key, then the indexes, and gives the table or the first fault. Fields, indexes and
options of the extended table are taken over unless the declaration has its own.
-/

namespace SqlMapper

/-- The engine of a table that does not name one. -/
def defaultEngine : String := "InnoDB"

/-- The character set of a table that does not name one. -/
def defaultCharset : String := "utf8mb4"

/-- The description of a table. -/
structure Declaration where
  className : String
  name : Option String := none
  db : Option String := none
  base : Option Table := none
  fields : List (String × Field) := []
  indexes : List Index := []
  engine : Option String := none
  charset : Option String := none
  comment : Option String := none
  autoIncrement : Option Nat := none

namespace Declaration

/-- The name of the table: the declared one, or the name of the class in lower case. -/
def tableName (d : Declaration) : String := d.name.getD (Text.lowercase d.className)

/-- A field with its column name: the declared one, or the attribute. -/
def named (attr : String) (f : Field) : Field := if f.name.isEmpty then { f with name := attr } else f

/-- The faults of a single field. -/
def checkField (table : String) (f : Field) : Result Unit := do
  if f.isAutoIncrement then
    if !f.isPrimaryKey then fail (.schema table (.autoIncrementNotKey f.name))
    else if !f.kind.isInteger then fail (.schema table (.autoIncrementNotInteger f.name))
    else
      match f.default with
      | .none => .ok ()
      | _ => fail (.schema table (.autoIncrementWithDefault f.name))
  match f.default with
  | .value v =>
    match f.toWire v with
    | .ok _ => .ok ()
    | .error e => if e.isPanic then .error e else fail (.schema table (.invalidDefault f.name e.message))
  | _ => .ok ()

/-- A column that an insert has to provide, which may not be meant. -/
def needsValue (f : Field) : Bool :=
  !f.nullable && !f.isPrimaryKey && f.implicitDefault.isNone &&
    match f.default with
    | .none => true
    | _ => false

/-- Adds the declared fields to the inherited ones. An attribute can be declared once. -/
def addFields (table : String) : (declared : List String) → (fields : Ordered Field) → List (String × Field) →
    Result (Ordered Field)
  | _, fields, [] => .ok fields
  | declared, fields, (attr, f) :: rest =>
    if declared.contains attr then fail (.duplicateField table attr)
    else do
      checkField table (named attr f)
      addFields table (attr :: declared) (fields.insert attr (named attr f)) rest

/-- Walks through the columns: each name once, and at most one primary key. -/
def findKey (table : String) : (columns : List String) → (key : Option (String × Field)) →
    List (String × Field) → Result (Option (String × Field))
  | _, key, [] => .ok key
  | columns, key, (attr, f) :: rest =>
    if columns.contains f.name then fail (.duplicateField table f.name)
    else if f.isPrimaryKey then
      match key with
      | some (first, _) => fail (.duplicatePrimaryKey table first attr)
      | none => findKey table (f.name :: columns) (some (attr, f)) rest
    else findKey table (f.name :: columns) key rest

/-- The field that an index means by a name: an attribute, or else a column. -/
def indexedField (fields : Ordered Field) (name : String) : Option Field :=
  (fields.get? name).or ((fields.pairs.find? fun p => p.2.name = name).map Prod.snd)

/-- The columns of an index by their names in the database. -/
def indexColumns (table : String) (fields : Ordered Field) (index : String) : List String → Result (List String)
  | [] => .ok []
  | name :: rest =>
    match indexedField fields name with
    | none => fail (.schema table (.unknownIndexColumn index name))
    | some f =>
      if f.kind.isText then fail (.schema table (.textInIndex f.name index))
      else do return f.name :: (← indexColumns table fields index rest)

/-- Adds the declared indexes to the inherited ones. A later index replaces one of the same name. -/
def addIndexes (table : String) (fields : Ordered Field) : (indexes : List Index) → List Index →
    Result (List Index)
  | indexes, [] => .ok indexes
  | indexes, index :: rest =>
    if index.columns.isEmpty then fail (.schema table (.emptyIndex index.name))
    else do
      let columns ← indexColumns table fields index.name index.columns
      addIndexes table fields (indexes.filter (·.name ≠ index.name) ++ [{ index with columns := columns }]) rest

/-- The inherited fields, before the declared ones. -/
def inheritedFields (d : Declaration) : Ordered Field := (d.base.map (·.fields)).getD .empty

/-- The table that a declaration describes, or its first fault. -/
def compile (d : Declaration) : Result Table := do
  let name := d.tableName
  let fields ← addFields name [] d.inheritedFields d.fields
  let key ← findKey name [] none fields.pairs
  match key with
  | none => fail (.missingPrimaryKey name)
  | some (attr, f) => do
    let seed := (d.autoIncrement.or (d.base.map (·.primaryKey.seed))).getD 1
    let indexes ← addIndexes name fields ((d.base.map (·.indexes)).getD []) d.indexes
    return {
      ref := ⟨d.db.or (d.base.bind (·.ref.db)), name⟩
      fields := fields
      primaryKey := ⟨attr, f, f.isAutoIncrement, seed⟩
      indexes := indexes
      engine := (d.engine.or (d.base.map (·.engine))).getD defaultEngine
      charset := (d.charset.or (d.base.map (·.charset))).getD defaultCharset
      comment := (d.comment.or (d.base.map (·.comment))).getD "" }

/-- What checking the declared fields reports, up to the first fault. -/
def fieldLog (table : String) : (declared : List String) → List (String × Field) → Log
  | _, [] => []
  | declared, (attr, f) :: rest =>
    if declared.contains attr then []
    else
      match checkField table (named attr f) with
      | .error _ => []
      | .ok _ =>
        (if needsValue (named attr f) then
            [.warn s!"Column \x60{table}\x60.\x60{(named attr f).name}\x60 is NOT NULL without a default"]
          else []) ++ fieldLog table (attr :: declared) rest

/-- What finding the primary key reports. -/
def keyLog (table : String) (f : Field) : Log :=
  if f.isAutoIncrement && f.name ≠ "id" then
    [.warn s!"Auto-increment primary key of \x60{table}\x60 is named \x60{f.name}\x60 instead of \x60id\x60"]
  else []

/-- What compiling a declaration reports. -/
def compileLog (d : Declaration) : Log :=
  let name := d.tableName
  let nameLog :=
    if d.name.isSome then []
    else [.warn s!"Table name not declared for \x60{d.className}\x60, using \x60{name}\x60"]
  let keyLog :=
    match addFields name [] d.inheritedFields d.fields with
    | .error _ => []
    | .ok fields =>
      match findKey name [] none fields.pairs with
      | .ok (some (_, f)) => keyLog name f
      | _ => []
  nameLog ++ fieldLog name [] d.fields ++ keyLog

end Declaration

end SqlMapper
