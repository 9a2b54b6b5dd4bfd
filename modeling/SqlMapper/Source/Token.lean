/-!
# Tokens of source text

The words, literals and marks that the text of a declaration consists of. Brackets are matched: what stands between two
of them is one token. Texts are read into tokens in `Source.Lexeme`.
-/

namespace SqlMapper.Source

/-- A kind of brackets. -/
inductive Delimiter where
  | paren
  | bracket
  | brace
deriving DecidableEq, Repr

/-- The bracket that opens a group. -/
def Delimiter.opening : Delimiter → Char
  | paren => '('
  | bracket => '['
  | brace => '\x7b'

/-- The bracket that closes a group. -/
def Delimiter.closing : Delimiter → Char
  | paren => ')'
  | bracket => ']'
  | brace => '\x7d'

/-- A token. -/
inductive Token where
  /-- An identifier or keyword; a raw identifier keeps its `r#`. -/
  | word (name : String)
  /-- The name of a lifetime with its quote. -/
  | lifetime (name : String)
  /-- A literal as it is written. -/
  | literal (text : String)
  /-- A punctuation character, and whether another one follows at once. -/
  | mark (c : Char) (joined : Bool)
  /-- Tokens between brackets. -/
  | group (delimiter : Delimiter) (inner : List Token)
deriving Repr

mutual

/-- A token as it is written, without blanks inside groups. -/
def Token.text : Token → List Char
  | .word name => name.toList
  | .lifetime name => name.toList
  | .literal text => text.toList
  | .mark c _ => [c]
  | .group d inner => d.opening :: textOf inner ++ [d.closing]

/-- Tokens as they are written, without blanks between them. -/
def textOf : List Token → List Char
  | [] => []
  | t :: rest => t.text ++ textOf rest

end

/-- The parts between the commas of a list of tokens. A comma at the end does not begin another part. -/
def parts : List Token → List (List Token)
  | [] => []
  | .mark ',' _ :: rest => [] :: parts rest
  | t :: rest =>
    match parts rest with
    | [] => [[t]]
    | part :: more => (t :: part) :: more

/-- The token is a comma. -/
def Token.isComma : Token → Bool
  | .mark ',' _ => true
  | _ => false

/-- The elements of a tuple: nothing, or expressions with at least one comma, in parentheses. -/
def tuple? : List Token → Option (List (List Token))
  | [.group .paren inner] => if inner.isEmpty || inner.any Token.isComma then some (parts inner) else none
  | _ => none

end SqlMapper.Source
