import SqlMapper.Struct.Column

/-!
# Tables of structs

What an annotated struct says about its table: a column for every field, settings of the table, and indexes. Exactly
one column is the primary key. The table is built by the chain of calls that follows from it.
-/

namespace SqlMapper.Struct

open Source

/-- An index that a struct declares. -/
structure StructIndex where
  isUnique : Bool
  name : String
  columns : List String
deriving DecidableEq, Repr

/-- What a struct says about its table. -/
structure StructTable where
  name : String
  columns : List Column
  tableName : Option String := none
  db : Option String := none
  engine : Option String := none
  charset : Option String := none
  comment : Option String := none
  autoIncrement : Option String := none
  indexes : List StructIndex := []

namespace StructTable

/-- A text where an index is declared. -/
def indexText (e : List Token) : Reading String :=
  match textExpression? e with
  | some text => .ok text
  | none => throw .indexUsage

/-- The columns of an index: a single one, or a tuple of them. -/
def indexColumns (e : List Token) : Reading (List String) :=
  match tuple? e with
  | some elements => elements.mapM indexText
  | none => do return [← indexText e]

/-- An index: its name and its columns. -/
def readIndex (isUnique : Bool) (e : List Token) : Reading StructIndex :=
  match tuple? e with
  | some [name, columns] => do return ⟨isUnique, ← indexText name, ← indexColumns columns⟩
  | _ => throw .indexUsage

/-- Adds an index. -/
def withIndex (t : StructTable) (i : StructIndex) : StructTable := { t with indexes := t.indexes ++ [i] }

/-- Takes up one setting. -/
def take (t : StructTable) (setting : String) (rest : List Token) : Reading (StructTable × List Token) :=
  match setting with
  | "name" => valued textLiteral (fun l => { t with tableName := some l }) rest
  | "db" => valued textLiteral (fun l => { t with db := some l }) rest
  | "engine" => valued textLiteral (fun l => { t with engine := some l }) rest
  | "charset" => valued textLiteral (fun l => { t with charset := some l }) rest
  | "comment" => valued textLiteral (fun l => { t with comment := some l }) rest
  | "auto_increment" => valued integerLiteral (fun l => { t with autoIncrement := some l }) rest
  | "key" => inspected (readIndex false) t.withIndex rest
  | "unique" => inspected (readIndex true) t.withIndex rest
  | _ => throw (.unknownSetting setting)

/-- The table of a declaration. -/
def ofItem (i : Item) : Reading StructTable := do
  if i.isGeneric then throw .generic
  match i.fields with
  | none => throw .unnamed
  | some fields =>
    let columns ← fields.mapM Column.ofItem
    let t ← readGroups take { name := i.name, columns := columns } i.groups
    match t.columns.filter (·.isKey) with
    | [_] => return t
    | [] => throw (.noKey i.name)
    | _ => throw (.severalKeys i.name)

/-- A call that is made for a setting that was given. -/
def callFor (call : String → TableCall) (setting : Option String) : List TableCall := (setting.map call).toList

/-- The definition of the table: its settings, its fields and its indexes. -/
def chain (t : StructTable) : Reading TableChain := do
  let fields ← t.columns.mapM fun c => do return TableCall.field c.attr (← c.chain)
  return ⟨t.name,
    callFor .name t.tableName ++ callFor .db t.db ++ callFor .engine t.engine ++ callFor .charset t.charset ++
      callFor .comment t.comment ++ callFor .autoIncrement t.autoIncrement ++ fields ++
      t.indexes.map fun i => .index i.isUnique i.name i.columns⟩

/-- The definition of the table that a declaration is annotated for. -/
def derive (i : ItemText) : Reading TableChain := do (← ofItem (← i.read)).chain

end StructTable

end SqlMapper.Struct
