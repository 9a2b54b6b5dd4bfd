import SqlMapper.Model.Running

/-!
# Expectations

What a suite demands of the executor that it runs on. A suite is an action; it fails at the first expectation that does
not hold, and then sends no further statement.
-/

namespace SqlMapper.Suite

variable {σ α : Type}

/-- Demands that a condition holds. -/
def expect (holds : Bool) : Action σ Unit :=
  if holds then return else Action.fail (.other "an expectation does not hold")

/-- Demands a value. -/
def present (a : Option α) : Action σ α :=
  match a with
  | some a => return a
  | none => Action.fail (.other "an expected value is missing")

/-- Demands that an action fails. What it changed stays. -/
def refused (act : Action σ α) : Action σ Unit := do
  let failed ← tryCatch (do let _ ← act; return false) fun _ => return true
  expect failed

/-- Demands that an operation succeeds. -/
def accepted (r : Result α) : Action σ α := Action.ofResult r

/-- Demands that a value is the expected one. -/
def same (found expected : Value) : Action σ Unit := expect (found.same expected)

/-- The value of an attribute of an instance. -/
def valueOf (x : Instance) (attr : String) : Value := (x.lookup attr).getD .null

/-- Two instances have the same values. -/
def sameInstance (x y : Instance) : Bool :=
  x.map Prod.fst == y.map Prod.fst && Value.sameAll (x.map Prod.snd) (y.map Prod.snd)

/-- The column of an attribute as an expression. -/
def column (m : Model) (attr : String) : Action σ Expr := do return .column (← accepted (m.column attr))

/-- The rows whose attribute compares with a value. -/
def whereAttr (m : Model) (attr : String) (op : BinaryOp) (v : Value) : Action σ Expr := do
  return (← column m attr).withOp op (.value v)

/-- The select of the rows that meet a condition. -/
def selecting (m : Model) (condition : Expr) : Select := { m.select with filter := some condition }

end SqlMapper.Suite
