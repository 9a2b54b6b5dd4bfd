import SqlMapper.Source.Lexeme
import SqlMapper.Source.TypeName
import SqlMapper.Struct.Fault

/-!
# Struct declarations

The text of an annotated declaration, part by part, and the same declaration as tokens. Every part has to be readable
before anything else about the declaration is looked at.
-/

namespace SqlMapper.Struct

open Source

/-- What is declared. -/
inductive ItemKind where
  | struct
  | tuple
  | unit
  | enum
deriving DecidableEq, Repr

/-- The text of a setting: a word, and a value for some. -/
structure SettingText where
  name : String
  value : Option String
deriving DecidableEq, Repr

/-- The text of a field with its groups of settings. -/
structure FieldText where
  name : String
  type : String
  groups : List (List SettingText)
deriving DecidableEq, Repr

/-- The text of a declaration. -/
structure ItemText where
  name : String
  kind : ItemKind
  generics : String
  groups : List (List SettingText)
  fields : List FieldText
deriving DecidableEq, Repr

/-- A field with the tokens of its settings. -/
structure FieldItem where
  attr : String
  type : TypeName
  groups : List (List Token)

/-- A declaration with the tokens of its settings. -/
structure Item where
  name : String
  isGeneric : Bool
  /-- The fields, if they have names. -/
  fields : Option (List FieldItem)
  groups : List (List Token)

/-- The tokens of a part. -/
def readTokens (text : String) : Reading (List Token) :=
  match tokens text with
  | some ts => .ok ts
  | none => throw (.source .unreadable)

/-- The tokens of a setting. -/
def SettingText.read (s : SettingText) : Reading (List Token) := do
  let name ← readTokens s.name
  match s.value with
  | none => return name
  | some value => return name ++ .mark '=' false :: (← readTokens value)

/-- The tokens of a group of settings. -/
def readGroup : List SettingText → Reading (List Token)
  | [] => .ok []
  | [s] => s.read
  | s :: rest => do return (← s.read) ++ .mark ',' false :: (← readGroup rest)

/-- Words that name nothing. -/
def keywords : List String :=
  ["_", "abstract", "as", "async", "await", "become", "box", "break", "const", "continue", "crate", "do", "dyn",
    "else", "enum", "extern", "false", "final", "fn", "for", "if", "impl", "in", "let", "loop", "macro", "match", "mod",
    "move", "mut", "override", "priv", "pub", "ref", "return", "Self", "self", "static", "struct", "super", "trait",
    "true", "try", "type", "typeof", "unsafe", "unsized", "use", "virtual", "where", "while", "yield"]

/-- A name. -/
def readName (text : String) : Reading String := do
  match ← readTokens text with
  | [.word name] =>
    if keywords.contains name then
      throw (.source (.expected s!"identifier, found keyword \x60{name}\x60" false))
    else return name
  | _ => throw (.source (.expected "identifier" false))

/-- Some parameters stand between the angle brackets. -/
def hasParameters : List Token → Bool
  | .mark '<' _ :: .mark '>' _ :: _ => false
  | .mark '<' _ :: _ => true
  | _ => false

/-- What a type may begin with. -/
def typeBeginnings : String :=
  "one of: \x60for\x60, parentheses, \x60fn\x60, \x60unsafe\x60, \x60extern\x60, identifier, \x60::\x60, \x60<\x60, " ++
    "\x60dyn\x60, square brackets, \x60*\x60, \x60&\x60, \x60!\x60, \x60impl\x60, \x60_\x60, lifetime"

/-- The name of a type. -/
def readType (text : String) : Reading TypeName := do
  let ts ← readTokens text
  if (ts.head?.map beginsType).getD false then return .ofTokens ts
  else throw (.source (.expected typeBeginnings false))

/-- The tokens of a field. -/
def FieldText.read (f : FieldText) : Reading FieldItem := do
  let groups ← f.groups.mapM readGroup
  return ⟨← readName f.name, ← readType f.type, groups⟩

/-- The tokens of a declaration. -/
def ItemText.read (i : ItemText) : Reading Item := do
  let groups ← i.groups.mapM readGroup
  let name ← readName i.name
  let generics ← readTokens i.generics
  let fields ← if i.kind = .struct then some <$> i.fields.mapM FieldText.read else pure none
  return ⟨name, hasParameters generics, fields, groups⟩

end SqlMapper.Struct
