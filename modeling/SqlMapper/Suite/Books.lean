import SqlMapper.Model.Samples
import SqlMapper.Suite.Expectation

/-!
# The suite of books

Exercises a table with a key of its own and a second table that refers to it: rows are replaced, read back and
compared, found by ranges, patterns and subqueries, joined, and saved as records.
-/

namespace SqlMapper.Suite

open NativeType Samples

variable {σ : Type}

/-- Books in a table with the usual engine and character set. -/
def volume : Result Model := bookIn defaultEngine defaultCharset

/-- Reviews of books. -/
def review : Result Model :=
  Model.declare { className := "Review", name := some "keel_review" } [
    .auto "id" .u64,
    .ofType "isbn" string (char 13),
    .ofType "stars" (integer .i8) (withDefault (.int 3))]

/-- The fourteenth of March of a year. -/
def published (year : Int) : Action σ Calendar.Date := present (Calendar.Date.of? year 3 14)

/-- A price. -/
def price (text : String) : Action σ Number.Decimal := present (Number.Decimal.read text)

/-- A book without summary that is not in stock. -/
def bookOf (isbn title cost : String) (year : Int) (reference : Uuid) : Action σ Instance := do
  return [("isbn", .text isbn), ("title", .text title), ("price", .decimal (← price cost)),
    ("published", .date (← published year)), ("reference", .uuid reference), ("summary", .null), ("stocked", .null)]

/-- The instance with another value for an attribute. -/
def withValue (attr : String) (v : Value) (x : Instance) : Instance :=
  x.map fun p => if p.1 = attr then (attr, v) else p

/-- The book that the suite looks for. -/
def duneKey : Value := .text "9780441013593"

/-- The key of the book that the suite saves as a record. -/
def draftKey : Value := .text "9780000000001"

/-- A review without a number. -/
def reviewOf (isbn : Value) (stars : Int64) : Instance := [("id", .uint 0), ("isbn", isbn), ("stars", .int stars)]

/-- Creates both tables anew. -/
def setUpBooks (e : Executor σ) (books reviews : Model) : Action σ Unit := do
  reviews.dropTable e true
  books.dropTable e true
  books.create e false
  books.create e true
  reviews.create e true
  let columns ← books.describe e .columns
  expect (columns.length == 7)

/-- Replaces books and reads one back, before and after its price has changed; gives the date of that one. -/
def replaceBooks (e : Executor σ) (m : Model) (reference : Nat → Uuid) : Action σ Calendar.Date := do
  let plain ← bookOf "9780441013593" "Dune" "9.99" 1965 (reference 0)
  let stocked ← present (Calendar.Moment.ofUnixSeconds? 1700000000)
  let dune := withValue "stocked" (.timestamp stocked) (withValue "summary" (.text "Spice must flow") plain)
  let _ ← (m.replace (m.toValues dune)).run e
  let others := [← bookOf "9780553283686" "Hyperion" "8.5" 1989 (reference 1),
    ← bookOf "9780765326355" "The Way of Kings" "12.75" 2010 (reference 2)]
  let _ ← (m.replaceAll (others.map m.toValues) []).run e
  let found ← present (← m.get e duneKey)
  expect (sameInstance found dune)
  let cost := Value.decimal (← price "10.49")
  let _ ← (m.replace (m.toValues (withValue "price" cost dune))).run e
  let isDune ← whereAttr m "isbn" .equal duneKey
  let found ← ({ selecting m isDune with columns := [← column m "price"] } : Select).scalar e
  same (← accepted (found.readAs NativeType.decimal)) cost
  let count ← m.select.count e
  expect (count == 3)
  published 1965

/-- A second book of the same title and date must be refused. -/
def addDuplicate (e : Executor σ) (m : Model) (reference : Uuid) : Action σ Unit := do
  let duplicate ← bookOf "9999999999999" "Dune" "1" 1965 reference
  refused (m.add e (m.toValues duplicate))

/-- Finds books by ranges and patterns. -/
def filterBooks (e : Executor σ) (m : Model) : Action σ Unit := do
  let low ← present (Calendar.Date.of? 1980 1 1)
  let high ← present (Calendar.Date.of? 2020 1 1)
  let isRecent := Expr.between false (.expr (← column m "published")) (.value (.date low)) (.value (.date high))
  let isOther := (← column m "title").withOp .notLike (.value (.text "%Kings%"))
  let recent ← (selecting m (.binary .and (.expr isRecent) (.expr isOther))).allAs e m.fromRecord
  expect (Value.sameAll (recent.map (valueOf · "title")) [.text "Hyperion"])
  let count ← (selecting m (.unary .isNull (.expr (← column m "summary")))).count e
  expect (count == 2)

/-- Finds books through their reviews. -/
def relateBooks (e : Executor σ) (books reviews : Model) : Action σ Unit := do
  let written := [reviewOf duneKey 5, reviewOf (.text "9780553283686") 4]
  let _ ← reviews.addAll e (written.map reviews.toValues)
  let isbn ← column books "isbn"
  let reviewed ← column reviews "isbn"
  let stars ← column reviews "stars"
  let isReviewed ← accepted
    (isbn.isIn (.expr (.select { reviews.select with columns := [reviewed] })))
  let count ← (selecting books isReviewed).count e
  expect (count == 2)
  let matching := reviewed.equal (.expr isbn)
  let hasReview ← accepted
    (Operand.existing (.expr (.select { selecting reviews matching with columns := [.raw "1"] })))
  let unreviewed ← present (← (selecting books (.unary .not (.expr hasReview))).firstAs e books.fromRecord)
  same (valueOf unreviewed "title") (.text "The Way of Kings")
  let joined := books.select.join .inner reviews.table matching
  let rows ← ({ joined with
    columns := [← column books "title", stars], orderBy := [.ordered stars .descending], shape := .tuple } : Select).all e
  let tuples := rows.map (·.toTuple)
  expect (tuples.length == 2)
  let title ← present ((tuples.head?.bind List.head?).bind Value.asText?)
  expect (title == "Dune")

/-- Saves a book as a record, changes it, and removes it. -/
def saveBook (e : Executor σ) (m : Model) (date : Calendar.Date) : Action σ Unit := do
  let one ← price "1"
  let draft ← accepted ((Record.ofTable m.table).setAll
    [("isbn", draftKey), ("title", .text "Draft"), ("price", .decimal one), ("published", .date date),
      ("reference", .uuid .nil)])
  refused (accepted (draft.set "author" (.text "nobody")) : Action σ Record)
  let (_, draft) ← draft.save e
  let final ← accepted (draft.set "title" (.text "Final"))
  let (_, final) ← final.save e
  let last ← present (← m.get e draftKey)
  same (valueOf last "title") (.text "Final")
  same (valueOf last "reference") (.uuid .nil)
  let _ ← final.remove e
  expect (← m.get e draftKey).isNone

/-- The suite of books; `reference` gives the identifiers of new books. -/
def books (e : Executor σ) (reference : Nat → Uuid) : Action σ Unit := do
  let books ← accepted volume
  let reviews ← accepted review
  setUpBooks e books reviews
  let date ← replaceBooks e books reference
  addDuplicate e books (reference 3)
  filterBooks e books
  relateBooks e books reviews
  saveBook e books date
  reviews.dropTable e false
  books.dropTable e false

end SqlMapper.Suite
