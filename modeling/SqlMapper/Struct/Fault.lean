import SqlMapper.Error
import SqlMapper.Source.Fault

/-!
# Faults of struct declarations

Why no table can be built from an annotated struct.
-/

namespace SqlMapper.Struct

/-- Why a struct declares no table. -/
inductive StructFault where
  | source (fault : Source.SourceFault)
  | generic
  /-- Not a struct with named fields. -/
  | unnamed
  /-- The name of a setting is a path. -/
  | path
  | flagWithValue (flag : String)
  | unknownSetting (name : String)
  | decimalUsage
  | indexUsage
  | bothDefaults
  | optionalKey
  | unsupportedType
  | unmappedType (name : String)
  /-- The declared storage is for another type. -/
  | storage (attr : String)
  | autoNotInteger
  | noKey (name : String)
  | severalKeys (name : String)
deriving DecidableEq, Repr

namespace StructFault

/-- The fault in words. -/
def message : StructFault → String
  | source fault => fault.message
  | generic => "Model cannot be derived for generic types"
  | unnamed => "Model can only be derived for structs with named fields"
  | path => "Expected a single identifier"
  | flagWithValue flag => s!"\x60{flag}\x60 does not take a value, use it like: \x60#[keel({flag})]\x60"
  | unknownSetting name => s!"Unknown attribute \x60{name}\x60 inside keel macro"
  | decimalUsage => "Use it like: \x60#[keel(decimal = (10, 2))]\x60"
  | indexUsage =>
    "Use it like: \x60#[keel(key = (\"idx_name\", \"column\"))]\x60 " ++
      "or \x60#[keel(unique = (\"idx_name\", (\"c1\", \"c2\")))]\x60"
  | bothDefaults => "\x60default\x60 and \x60default_raw\x60 cannot be used together"
  | optionalKey => "The primary key cannot be an Option"
  | unsupportedType => "Unsupported field type"
  | unmappedType name => s!"Type \x60{name}\x60 cannot be mapped to a column"
  | storage attr => s!"The storage declared for \x60{attr}\x60 does not fit its type"
  | autoNotInteger => "An auto-increment primary key must be an integer"
  | noKey name =>
    s!"Model \x60{name}\x60 must declare a primary key with \x60#[keel(primary_key)]\x60 or \x60#[keel(auto)]\x60"
  | severalKeys name => s!"Model \x60{name}\x60 declares more than one primary key"

/-- The fault as an error. -/
def error (fault : StructFault) : Error := ⟨.other fault.message, []⟩

end StructFault

/-- A step of reading a struct. -/
abbrev Reading (α : Type) := Except StructFault α

/-- A reader of source text as a step of reading a struct. -/
def ofSource {α : Type} (r : Except Source.SourceFault α) : Reading α := r.mapError .source

end SqlMapper.Struct
