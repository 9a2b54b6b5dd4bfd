import SqlMapper.Value.Literal

/-!
# Indexes

Secondary indexes that are declared next to the fields of a table.
-/

namespace SqlMapper

/-- An index over some columns. -/
structure Index where
  name : String
  columns : List String
  comment : String
  isUnique : Bool
deriving DecidableEq, Repr

namespace Index

/-- An index. -/
def ofColumns (name : String) (columns : List String) : Index := ⟨name, columns, "", false⟩

/-- An index without equal entries. -/
def unique (name : String) (columns : List String) : Index := ⟨name, columns, "", true⟩

/-- The index as a table definition writes it. -/
def definition (i : Index) : String :=
  (if i.isUnique then "UNIQUE " else "") ++ "KEY " ++ Literal.identifier i.name ++ " (" ++
    Text.joinedBy ", " (i.columns.map Literal.identifier) ++ ")" ++
    if i.comment.isEmpty then "" else " COMMENT " ++ Literal.quoted i.comment

end Index

end SqlMapper
