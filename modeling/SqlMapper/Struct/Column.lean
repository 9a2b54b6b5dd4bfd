import SqlMapper.Struct.Chain
import SqlMapper.Struct.Item
import SqlMapper.Struct.Setting

/-!
# Columns of a struct

What the type of a field and its settings say about its column, and the definition of the field that follows from it.
A setting that is given twice holds as it was given last; the settings of the key only ever add to each other.
-/

namespace SqlMapper.Struct

open Source

/-- A storage that is declared instead of the usual one of the type. -/
inductive Storage where
  | varchar (length : String)
  | char (length : String)
  | text
  | decimal (precision scale : String)
deriving DecidableEq, Repr

/-- What a struct says about a column. -/
structure Column where
  attr : String
  /-- The last name of the type, inside the option if it is one. -/
  base : String
  isOption : Bool
  name : Option String := none
  storage : Option Storage := none
  isKey : Bool := false
  isAuto : Bool := false
  isUnsigned : Bool := false
  isZerofill : Bool := false
  utc : Option String := none
  length : Option String := none
  charset : Option String := none
  comment : Option String := none
  default : Option (List Token) := none
  defaultRaw : Option String := none

namespace Column

/-- A pair of integers. -/
def integerPair (e : List Token) : Reading (String × String) :=
  match tuple? e with
  | some [a, b] =>
    match integerExpression? a, integerExpression? b with
    | some a, some b => .ok (a, b)
    | _, _ => throw .decimalUsage
  | _ => throw .decimalUsage

/-- Takes up one setting. -/
def take (c : Column) (setting : String) (rest : List Token) : Reading (Column × List Token) :=
  match setting with
  | "primary_key" => flag setting { c with isKey := true } rest
  | "auto" => flag setting { c with isKey := true, isAuto := true } rest
  | "unsigned" => flag setting { c with isUnsigned := true } rest
  | "zerofill" => flag setting { c with isZerofill := true } rest
  | "text" => flag setting { c with storage := some .text } rest
  | "utc" =>
    if hasValue rest then valued switchLiteral (fun l => { c with utc := some l }) rest
    else .ok ({ c with utc := some "true" }, rest)
  | "name" => valued textLiteral (fun l => { c with name := some l }) rest
  | "varchar" => valued integerLiteral (fun l => { c with storage := some (.varchar l) }) rest
  | "char" => valued integerLiteral (fun l => { c with storage := some (.char l) }) rest
  | "decimal" =>
    inspected integerPair (fun p => { c with storage := some (.decimal p.1 p.2) }) rest
  | "length" => valued integerLiteral (fun l => { c with length := some l }) rest
  | "charset" => valued textLiteral (fun l => { c with charset := some l }) rest
  | "comment" => valued textLiteral (fun l => { c with comment := some l }) rest
  | "default" => valued expression (fun e => { c with default := some e }) rest
  | "default_raw" => valued textLiteral (fun l => { c with defaultRaw := some l }) rest
  | _ => throw (.unknownSetting setting)

/-- The column of a field. -/
def ofItem (f : FieldItem) : Reading Column := do
  match f.type.base with
  | none => throw .unsupportedType
  | some base =>
    let c ← readGroups take { attr := f.attr, base := base, isOption := f.type.isOption } f.groups
    if c.default.isSome && c.defaultRaw.isSome then throw .bothDefaults
    else if c.isKey && c.isOption then throw .optionalKey
    else return c

/-- The usual storage of the types, and whether it has no sign. -/
def usualTypes : List (String × FieldType × Bool) :=
  [("i8", .tinyint, false), ("i16", .smallint, false), ("i32", .int, false), ("i64", .bigint, false),
    ("isize", .bigint, false), ("u8", .tinyint, true), ("u16", .smallint, true), ("u32", .int, true),
    ("u64", .bigint, true), ("usize", .bigint, true), ("bool", .boolean, false), ("f32", .float, false),
    ("f64", .double, false), ("Decimal", .decimal "10" "0", false), ("String", .varchar "255", false),
    ("Date", .date, false), ("Time", .time, false), ("PrimitiveDateTime", .datetime, false),
    ("OffsetDateTime", .timestamp, false), ("Uuid", .uuid, false)]

/-- The types that integers have. -/
def integerTypes : List String := ["i8", "i16", "i32", "i64", "isize", "u8", "u16", "u32", "u64", "usize"]

/-- The declared storage, if it fits the type. -/
def Storage.fieldType? (base : String) : Storage → Option FieldType
  | .varchar length => if base = "String" then some (.varchar length) else none
  | .char length => if base = "String" then some (.char length) else none
  | .text => if base = "String" then some .text else none
  | .decimal precision scale => if base = "Decimal" then some (.decimal precision scale) else none

/-- The storage of the column, and whether its type has no sign. -/
def fieldType (c : Column) : Reading (FieldType × Bool) :=
  match c.storage with
  | some storage =>
    match Storage.fieldType? c.base storage with
    | some type => .ok (type, false)
    | none => throw (.storage c.attr)
  | none =>
    match usualTypes.lookup c.base with
    | some type => .ok type
    | none => throw (.unmappedType c.base)

/-- A call that is made if its condition holds. -/
def callIf (condition : Bool) (call : FieldCall) : List FieldCall := if condition then [call] else []

/-- A call that is made for a setting that was given. -/
def callFor {α : Type} (call : α → FieldCall) (setting : Option α) : List FieldCall := (setting.map call).toList

/-- The calls for the settings, in their fixed order; the type may have no sign of itself. -/
def calls (c : Column) (isUnsigned : Bool) : List FieldCall :=
  callFor .name c.name ++ callIf c.isOption .nullable ++ callIf c.isKey .primaryKey ++
    callIf c.isAuto .autoIncrement ++ callIf (isUnsigned || c.isUnsigned) .unsigned ++ callIf c.isZerofill .zerofill ++
    callFor .length c.length ++ callFor .utc c.utc ++ callFor .charset c.charset ++ callFor .comment c.comment ++
    callFor .default c.default ++ callFor .defaultRaw c.defaultRaw

/-- The definition of the field. -/
def chain (c : Column) : Reading FieldChain := do
  let (type, isUnsigned) ← c.fieldType
  if c.isAuto && (c.storage.isSome || !integerTypes.contains c.base) then throw .autoNotInteger
  else return ⟨type, c.calls isUnsigned⟩

end Column

end SqlMapper.Struct
