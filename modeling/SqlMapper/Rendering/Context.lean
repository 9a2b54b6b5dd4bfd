import SqlMapper.Rendering.Expression
import SqlMapper.Statement.Query

/-!
# Rendering contexts

A statement in the making: the text and the parameters so far, the options of the innermost scope, and those of the
scopes around it. Opening a scope keeps the options to come back to, and closing it restores them and closes its
parenthesis.
-/

namespace SqlMapper

/-- A statement in the making. -/
structure Context where
  text : String := ""
  params : List Value := []
  options : Options := {}
  /-- Options of the scopes around the innermost one, the nearest first. -/
  saved : List Options := []
deriving Inhabited

namespace Context

/-- Adds a piece. What a failed piece has written stays. -/
def add (c : Context) (p : Piece) : Context := { c with text := c.text ++ p.text, params := c.params ++ p.params }

/-- Opens a scope with the given options. -/
def openScope (c : Context) (o : Options) : Context :=
  { text := if o.parenthesize then c.text ++ "(" else c.text
    params := c.params
    options := { o with parenthesize := false }
    saved := c.options :: c.saved }

/-- Closes the innermost scope, which stands in parentheses or does not. -/
def closeScope (c : Context) (parenthesized : Bool) : Context :=
  { text := if parenthesized then c.text ++ ")" else c.text
    params := c.params
    options := c.saved.headD c.options
    saved := c.saved.drop 1 }

/-- Renders an expression under the current options. -/
def addExpr (c : Context) (e : Expr) : Context × Option Error :=
  let p := e.piece c.options
  (c.add p, p.failure)

/-- Renders an operand under the current options. -/
def addOperand (c : Context) (o : Operand) : Context × Option Error :=
  let p := Operand.piece c.options o
  (c.add p, p.failure)

/-- Renders a literal value under the current options. -/
def addValue (c : Context) (v : Value) : Context × Option Error :=
  let p := c.options.value v
  (c.add p, p.failure)

/-- The statement as it is. -/
def query (c : Context) : Query := ⟨Query.terminated c.text, .single c.params⟩

end Context

end SqlMapper
