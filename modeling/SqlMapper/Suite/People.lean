import SqlMapper.Model.Samples
import SqlMapper.Suite.Expectation

/-!
# The suite of people

Exercises a table whose rows the server numbers: rows are added, found by key, filtered, counted, paged through,
walked through, updated, changed as records and deleted.
-/

namespace SqlMapper.Suite

open NativeType Samples

variable {σ : Type}

/-- A person: the number, and for each value its attribute. -/
def person : Result Model :=
  Model.declare
    { className := "User", name := some "keel_user", comment := some "registered people"
      indexes := [.ofColumns "idx_age" ["age"]] } [
    .auto "id" .i64,
    .ofType "name" (option string) (varchar 45),
    .ofType "age" (integer .u32) (withDefault (.int 18)),
    .ofType "active" bool (withDefault (.boolean true))]

/-- An active person without a number. -/
def newcomer (name : String) (age : UInt64) : Instance :=
  [("id", .int 0), ("name", .text name), ("age", .uint age), ("active", .boolean true)]

/-- The texts among the values of an attribute. -/
def textsOf (attr : String) (xs : List Instance) : List String :=
  xs.filterMap fun x =>
    match valueOf x attr with
    | .text s => some s
    | _ => none

/-- Creates the table anew and adds five people; gives the number of the first. -/
def settlePeople (e : Executor σ) (m : Model) : Action σ UInt64 := do
  m.dropTable e true
  m.create e false
  let added ← m.add e (m.toValues (newcomer "alice" 30))
  expect (added.rows == 1)
  let id ← present added.lastInsertId
  let added ← m.addAll e
    ([newcomer "bob" 17, newcomer "carol" 42, newcomer "dave" 25, newcomer "erin" 61].map m.toValues)
  expect (added.rows == 4)
  return .ofNat id

/-- Finds people by number. -/
def findPeople (e : Executor σ) (m : Model) (id : UInt64) : Action σ Unit := do
  let found ← present (← m.get e (.uint id))
  same (valueOf found "name") (.text "alice")
  same (valueOf found "age") (.uint 30)
  same (valueOf found "active") (.boolean true)
  expect (← m.get e (.uint (id + 1000))).isNone
  let rows ← m.getAll e [.uint id, .uint (id + 1)] ["name"]
  expect (rows.length == 2)

/-- Finds people by what they are. -/
def filterPeople (e : Executor σ) (m : Model) : Action σ Unit := do
  let adults ← (selecting m (← whereAttr m "age" .greaterEqual (.int 18))).count e
  expect (adults == 4)
  let isNamed ← accepted ((← column m "name").isIn (.value (.list [.text "bob", .text "dave"])))
  let named ← ({ selecting m isNamed with orderBy := [.ordered (← column m "id") .ascending] } : Select).allAs e
    m.fromRecord
  expect (textsOf "name" named == ["bob", "dave"])
  let found ← present
    (← (selecting m ((← column m "name").startingWith true "c")).firstAs e m.fromRecord)
  same (valueOf found "age") (.uint 42)
  expect !(← (selecting m (← whereAttr m "age" .greater (.int 100))).exist e)

/-- Reads people page by page and row by row, at most `budget` rows at a time. -/
def walkPeople (e : Executor σ) (m : Model) (budget : Nat) : Action σ Unit := do
  let inOrder : Select := { m.select with orderBy := [.ordered (← column m "id") .ascending] }
  let page ← inOrder.paginate e 2 2
  expect (Value.sameAll (page.filterMap (·.get? "name")) [.text "carol", .text "dave"])
  let visited ← ((← accepted (inOrder.slice 1 5 2)).walk e budget : StateM (World σ) _)
  let rows ← visited.mapM accepted
  expect (Value.sameAll (rows.map fun r => (r.get? "name").getD .null) [.text "bob", .text "dave"])
  let visited ← (m.select.walk e budget : StateM (World σ) _)
  let rows ← visited.mapM accepted
  expect (rows.length == 5)

/-- Updates people. -/
def updatePeople (e : Executor σ) (m : Model) (id : UInt64) : Action σ Unit := do
  let oldest ← ({ m.select with columns := [.call "MAX" false [.expr (← column m "age")]] } : Select).scalar e
  same (← accepted (oldest.readAs (integer .u32))) (.uint 61)
  let isFirst ← whereAttr m "id" .equal (.uint id)
  let update ← accepted (m.update (.ofList [("age", .uint 31)]))
  let updated ← ({ update with filter := some isFirst } : Update).run e
  expect (updated.rows == 1)
  let isBob ← whereAttr m "name" .equal (.text "bob")
  let older := (← column m "age").withOp .addition (.value (.uint 1))
  let update ← accepted (({ table := m.table } : Update).assign "age" (.expr older))
  let _ ← ({ update with filter := some isBob } : Update).run e
  let bob ← present (← (selecting m isBob).firstAs e m.fromRecord)
  same (valueOf bob "age") (.uint 18)

/-- Changes people as records. -/
def changePeople (e : Executor σ) (m : Model) (id : UInt64) : Action σ Unit := do
  let loaded ← (selecting m (← whereAttr m "id" .equal (.uint id))).first e
  let record ← present (loaded.bind (·.record?))
  same (← accepted (record.getAs "age" (integer .u32))) (.uint 31)
  refused (accepted (record.set "id" (.uint (id + 1))) : Action σ Record)
  let record ← accepted (record.set "name" (.text "alicia"))
  let _ ← record.save e
  let fresh ← accepted ((Record.ofTable m.table).setAll [("name", .text "frank"), ("age", .uint 50)])
  let (_, fresh) ← fresh.save e
  expect fresh.key?.isSome
  let _ ← fresh.remove e
  let left ← m.select.count e
  expect (left == 5)

/-- Deletes people. -/
def deletePeople (e : Executor σ) (m : Model) : Action σ Unit := do
  refused (accepted m.delete.render : Action σ Query)
  let isYoung ← whereAttr m "age" .less (.int 20)
  let deleted ← ({ m.delete with filter := some isYoung } : Delete).run e
  expect (deleted.rows == 1)
  let _ ← ({ m.delete with allowsAll := true } : Delete).run e
  expect (← m.select.all e).isEmpty

/-- The suite of people; `budget` bounds the rows that are read one by one. -/
def people (e : Executor σ) (budget : Nat) : Action σ Unit := do
  let m ← accepted person
  let id ← settlePeople e m
  findPeople e m id
  filterPeople e m
  walkPeople e m budget
  updatePeople e m id
  changePeople e m id
  deletePeople e m

end SqlMapper.Suite
