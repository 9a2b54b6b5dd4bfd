import SqlMapper.Running.Script
import SqlMapper.Suite.Books
import SqlMapper.Suite.People

/-!
# Running the suites

The suites run one after the other on one executor. On a script they end, whatever it replies: a walk through rows
stops when the replies are used up.
-/

namespace SqlMapper.Suite

/-- An identifier of the random kind with the given number. -/
def numbered (n : Nat) : Uuid := ⟨BitVec.ofNat 128 (4 * Nat.pow 16 19 + 8 * Nat.pow 16 15 + n)⟩

/-- All suites; `budget` bounds the rows that are read one by one. -/
def all {σ : Type} (e : Executor σ) (budget : Nat) (reference : Nat → Uuid) : Action σ Unit := do
  people e budget
  books e reference

/-- How the suites end on a script: whether all expectations held, and the statements that were sent. -/
def onScript (replies : List Reply) : Bool × List Received :=
  let (r, w) := (all Script.executor (replies.length + 1) numbered).run (World.start ⟨replies, []⟩)
  (r.isOk, w.executor.received)

end SqlMapper.Suite
