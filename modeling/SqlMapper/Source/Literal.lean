import SqlMapper.Source.Fault

/-!
# Literals

Which literals denote texts and integers, and how one is read where nothing else may stand. A literal is kept as it is
written.
-/

namespace SqlMapper.Source

/-- Begins with a quote, or is a raw text. -/
def isTextLiteral (text : String) : Bool :=
  match text.toList with
  | '\x22' :: _ | 'r' :: _ => true
  | _ => false

/-- A letter or an underscore, or a character beyond ASCII. -/
def beginsSuffix (c : Char) : Bool := c.isAlpha || c = '_' || 128 ≤ c.toNat

/-- The letter begins an exponent: at least one digit follows, or a sign, and nothing else does. -/
def isExponent (rest : List Char) : Bool :=
  let rest := rest.filter (· ≠ '_')
  match rest.dropWhile Char.isDigit with
  | [] => !rest.isEmpty
  | c :: _ => c = '+' || c = '-' || (!(rest.takeWhile Char.isDigit).isEmpty && beginsSuffix c)

/-- Digits with a suffix, in base ten. -/
def isDecimalInteger (cs : List Char) : Bool :=
  match cs.dropWhile fun c => c.isDigit || c = '_' with
  | [] => true
  | '.' :: _ => false
  | c :: rest => if c = 'e' || c = 'E' then !isExponent rest else beginsSuffix c

/-- Is written like an integer: in one of four bases, and with a suffix at most. -/
def isIntegerLiteral (text : String) : Bool :=
  match text.toList with
  | '0' :: base :: rest =>
    if base = 'x' then rest.any fun c => c.isDigit || ('a' ≤ c.toLower && c.toLower ≤ 'f')
    else if base = 'o' || base = 'b' then rest.any Char.isDigit
    else isDecimalInteger ('0' :: base :: rest)
  | c :: rest => c.isDigit && isDecimalInteger (c :: rest)
  | [] => false

/-- Reads a text. -/
def textLiteral : List Token → Except SourceFault (String × List Token)
  | .literal text :: rest =>
    if isTextLiteral text then .ok (text, rest) else missing "string literal" (.literal text :: rest)
  | tokens => missing "string literal" tokens

/-- Reads an integer, which may be negative. -/
def integerLiteral : List Token → Except SourceFault (String × List Token)
  | .literal text :: rest =>
    if isIntegerLiteral text then .ok (text, rest) else missing "integer literal" (.literal text :: rest)
  | .mark '-' joined :: .literal text :: rest =>
    if isIntegerLiteral text then .ok ("-" ++ text, rest)
    else missing "integer literal" (.mark '-' joined :: .literal text :: rest)
  | tokens => missing "integer literal" tokens

/-- Reads a truth value. -/
def switchLiteral : List Token → Except SourceFault (String × List Token)
  | .word "true" :: rest => .ok ("true", rest)
  | .word "false" :: rest => .ok ("false", rest)
  | tokens => missing "boolean literal" tokens

/-- The expression is a text. -/
def textExpression? : List Token → Option String
  | [.literal text] => if isTextLiteral text then some text else none
  | _ => none

/-- The expression is an integer. -/
def integerExpression? : List Token → Option String
  | [.literal text] => if isIntegerLiteral text then some text else none
  | _ => none

end SqlMapper.Source
