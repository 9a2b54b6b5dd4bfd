import SqlMapper.Error

/-!
# Pieces of statements

A piece is what rendering a part of a statement adds to it: text, the parameters that the placeholders in the text
stand for, and the error that cut the rendering short, if there was one. Pieces follow each other; nothing follows an
error. What was written before an error stays.
-/

namespace SqlMapper

/-- What rendering a part of a statement adds to it. -/
structure Piece where
  text : String
  params : List Value
  failure : Option Error

namespace Piece

/-- Text without parameters. -/
def ofText (s : String) : Piece := ⟨s, [], none⟩

/-- The empty piece. -/
def nothing : Piece := ofText ""

instance : Inhabited Piece := ⟨nothing⟩

/-- An error before anything is written. -/
def failed (e : Error) : Piece := ⟨"", [], some e⟩

/-- One piece after another. -/
def andThen (a b : Piece) : Piece :=
  match a.failure with
  | some _ => a
  | none => ⟨a.text ++ b.text, a.params ++ b.params, b.failure⟩

instance : Append Piece := ⟨andThen⟩

/-- A piece in parentheses, which are closed even after an error. -/
def inParens (p : Piece) : Piece := { p with text := "(" ++ p.text ++ ")" }

/-- Pieces with commas between them. -/
def separated : List Piece → Piece
  | [] => nothing
  | [p] => p
  | p :: rest => p ++ ofText ", " ++ separated rest

/-- A placeholder and the value that it stands for. -/
def placeholder (v : Value) : Piece := ⟨"%s", [v], none⟩

/-- Text and parameters, unless there was an error. -/
def outcome (p : Piece) : Result (String × List Value) :=
  match p.failure with
  | some e => .error e
  | none => .ok (p.text, p.params)

end Piece

end SqlMapper
