import SqlMapper.Source.Token

/-!
# Faults of source text

What a reader says about a text that is no declaration: brackets or quotes that are not closed, and a token that
another kind of token should stand for.
-/

namespace SqlMapper.Source

/-- Why a text is no declaration. -/
inductive SourceFault where
  | unreadable
  /-- Something else was expected; the text may have ended. -/
  | expected (what : String) (ended : Bool)
  /-- A setting that begins with something else than a word. -/
  | notSetting (isLiteral : Bool)
deriving DecidableEq, Repr

/-- The fault in words. -/
def SourceFault.message : SourceFault → String
  | unreadable => "cannot parse string into token stream"
  | expected what ended => (if ended then "unexpected end of input, " else "") ++ "expected " ++ what
  | notSetting isLiteral =>
    "unexpected " ++ (if isLiteral then "literal" else "token") ++ " in nested attribute, expected ident"

/-- Something else was expected before the given tokens. -/
def missing {α : Type} (what : String) (tokens : List Token) : Except SourceFault α :=
  .error (.expected what tokens.isEmpty)

/-- A mark was expected, wherever the text stands. -/
def missingMark {α : Type} (mark : String) : Except SourceFault α := .error (.expected s!"\x60{mark}\x60" false)

end SqlMapper.Source
