import SqlMapper.Source.Fault

/-!
# Extents of expressions

Where an expression ends: an operand, then operators with further operands, calls, members and so on as long as they
can follow. What stands in parentheses or square brackets are expressions between commas. The text is not evaluated, so
nothing else about it is kept.
-/

namespace SqlMapper.Source

/-- What a walk through an expression has just passed. -/
inductive Place where
  /-- An operator that takes an operand, which may be left out after a range. -/
  | operand (needed : Bool)
  /-- An operand; an operator may follow. -/
  | operator
  /-- A point before the name of a member. -/
  | member
  /-- A double colon before a name or before type arguments. -/
  | segment
  /-- Type arguments with some angle brackets open. -/
  | arguments (depth : Nat)
  /-- The bar before the parameters of a function. -/
  | parameters
deriving DecidableEq, Repr

/-- Words that an operand may begin with. -/
def leadingWords : List String :=
  ["mut", "move", "box", "async", "unsafe", "const", "static", "raw", "if", "match", "while", "loop", "for"]

/-- Words that no operand begins with. -/
def reservedWords : List String :=
  ["as", "else", "enum", "extern", "fn", "impl", "in", "mod", "pub", "ref", "struct", "trait", "type", "use", "where",
    "dyn", "do", "final", "abstract", "become", "macro", "override", "priv", "typeof", "unsized", "virtual"]

/-- Two marks that are one operator between operands. -/
def isDouble (a b : Char) : Bool :=
  (b = '=' && ['=', '<', '>', '!', '+', '-', '*', '/', '%', '^', '&', '|'].contains a) ||
    (a = b && ['&', '|', '<', '>'].contains a)

/-- A mark that is an operator between operands. -/
def isSingle (c : Char) : Bool := ['+', '-', '*', '/', '%', '^', '&', '|', '<', '>', '='].contains c

/-- A mark before an operand. -/
def isLeadingMark (c : Char) : Bool := ['-', '!', '*', '&'].contains c

mutual

/-- The inside of brackets must be expressions between commas. -/
def Token.checkInside : Token → Except SourceFault Unit
  | .group .paren inner => (walk true (.operand false) inner).map fun _ => ()
  | .group .bracket inner => (walk true (.operand false) inner).map fun _ => ()
  | _ => .ok ()

/-- Walks through an expression and gives what follows it; inside brackets, through all expressions. -/
def walk (inside : Bool) : Place → List Token → Except SourceFault (List Token)
  | .operand needed, [] => if needed then missing "an expression" [] else .ok []
  | .operand _, .literal _ :: rest => walk inside .operator rest
  | .operand _, .word name :: rest =>
    if name = "return" || name = "break" then walk inside (.operand false) rest
    else if leadingWords.contains name then walk inside (.operand true) rest
    else if reservedWords.contains name then missing "an expression" [.word name]
    else walk inside .operator rest
  | .operand _, .group d inner :: rest => do
    (Token.group d inner).checkInside
    walk inside .operator rest
  | .operand _, .mark '.' true :: .mark '.' _ :: rest => walk inside (.operand false) rest
  | .operand _, .mark ':' true :: .mark ':' _ :: rest => walk inside .segment rest
  | .operand _, .mark '<' _ :: rest => walk inside (.arguments 0) rest
  | .operand _, .mark '|' _ :: rest => walk inside .parameters rest
  | .operand _, .mark '#' _ :: .group .bracket _ :: rest => walk inside (.operand true) rest
  | .operand _, .mark '#' _ :: rest => missing "square brackets" rest
  | .operand needed, .mark c joined :: rest =>
    if isLeadingMark c then walk inside (.operand true) rest
    else if needed || inside then missing "an expression" [.mark c joined]
    else .ok (.mark c joined :: rest)
  | .operand _, t :: _ => missing "an expression" [t]
  | .operator, .mark '.' true :: .mark '.' true :: .mark '=' _ :: rest => walk inside (.operand true) rest
  | .operator, .mark '.' true :: .mark '.' _ :: rest => walk inside (.operand false) rest
  | .operator, .mark '.' _ :: rest => walk inside .member rest
  | .operator, .mark ':' true :: .mark ':' _ :: rest => walk inside .segment rest
  | .operator, .mark '?' _ :: rest => walk inside .operator rest
  | .operator, .mark '!' false :: .group _ _ :: rest => walk inside .operator rest
  | .operator, .mark '=' true :: .mark '>' joined :: rest =>
    if inside then missingMark "," else .ok (.mark '=' true :: .mark '>' joined :: rest)
  | .operator, .mark '<' true :: .mark '<' true :: .mark '=' _ :: rest => walk inside (.operand true) rest
  | .operator, .mark '>' true :: .mark '>' true :: .mark '=' _ :: rest => walk inside (.operand true) rest
  | .operator, .mark a true :: .mark b joined :: rest =>
    if isDouble a b then walk inside (.operand true) rest
    else if isSingle a then walk inside (.operand true) (.mark b joined :: rest)
    else if !inside then .ok (.mark a true :: .mark b joined :: rest)
    else if a = ',' || a = ';' then walk inside (.operand false) (.mark b joined :: rest)
    else missingMark ","
  | .operator, .mark c joined :: rest =>
    if isSingle c then walk inside (.operand true) rest
    else if !inside then .ok (.mark c joined :: rest)
    else if c = ',' || c = ';' then walk inside (.operand false) rest
    else missingMark ","
  | .operator, .group d inner :: rest => do
    (Token.group d inner).checkInside
    walk inside .operator rest
  | .operator, .word name :: rest =>
    if name = "as" || name = "else" then walk inside (.operand true) rest
    else if inside then missingMark ","
    else .ok (.word name :: rest)
  | .operator, [] => .ok []
  | .operator, rest => if inside then missingMark "," else .ok rest
  | .member, .word _ :: rest => walk inside .operator rest
  | .member, .literal _ :: rest => walk inside .operator rest
  | .member, rest => missing "identifier or integer" rest
  | .segment, .word _ :: rest => walk inside .operator rest
  | .segment, .mark '<' _ :: rest => walk inside (.arguments 0) rest
  | .segment, rest => missing "identifier" rest
  | .arguments depth, .mark '-' true :: .mark '>' _ :: rest => walk inside (.arguments depth) rest
  | .arguments depth, .mark '<' _ :: rest => walk inside (.arguments (depth + 1)) rest
  | .arguments 0, .mark '>' _ :: rest => walk inside .operator rest
  | .arguments (depth + 1), .mark '>' _ :: rest => walk inside (.arguments depth) rest
  | .arguments depth, _ :: rest => walk inside (.arguments depth) rest
  | .arguments _, [] => missingMark ">"
  | .parameters, .mark '|' _ :: rest => walk inside (.operand true) rest
  | .parameters, _ :: rest => walk inside .parameters rest
  | .parameters, [] => missingMark "|"

end

/-- The expression at the beginning of some tokens, and what follows it. -/
def expression (tokens : List Token) : Except SourceFault (List Token × List Token) := do
  let rest ← walk false (.operand true) tokens
  return (tokens.take (tokens.length - rest.length), rest)

end SqlMapper.Source
