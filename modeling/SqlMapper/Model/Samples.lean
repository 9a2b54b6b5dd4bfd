import SqlMapper.Model.Basic

/-!
# Sample models

Seven models that between them use every type of attribute and every option of fields, indexes and tables.
-/

namespace SqlMapper.Samples

open NativeType

/-- A column with a literal default. -/
def withDefault (v : Value) (f : Field) : Field := { f with default := .value v }

/-- A column that the server fills with the current instant. -/
def stamped (f : Field) : Field := { f with default := .raw "CURRENT_TIMESTAMP" }

/-- A column of short texts. -/
def varchar (length : Nat) (f : Field) : Field := { f with kind := .varchar length }

/-- A column of texts of one length. -/
def char (length : Nat) (f : Field) : Field := { f with kind := .char length }

/-- A column of long texts. -/
def text (f : Field) : Field := { f with kind := .text }

/-- A column of decimals with a number of digits and a number of decimals. -/
def decimal (precision scale : Nat) (f : Field) : Field := { f with kind := .decimal precision scale none }

/-- An attribute with nothing but its type. -/
def plain (attr : String) (type : NativeType) : Member := .ofType attr type id

/-- People. -/
def user : Result Model :=
  Model.declare { className := "User", name := some "user" } [
    .auto "id" .i32,
    .ofType "name" (option string) (varchar 45),
    .ofType "age" (integer .i32) (withDefault (.int 0))]

/-- What people write. -/
def post : Result Model :=
  Model.declare { className := "Post", name := some "post" } [
    .auto "id" .i32,
    plain "author" (integer .i32),
    .ofType "title" string (varchar 80)]

/-- Things with the instant of their creation. -/
def item : Result Model :=
  Model.declare { className := "Item", name := some "t" } [
    .auto "id" .i64,
    .ofType "name" string (varchar 20),
    .ofType "created_at" (option datetime) stamped]

/-- Values by name, under a key that the application chooses. -/
def setting : Result Model :=
  Model.declare { className := "Setting", name := some "setting" } [
    .ofType "key" string fun f => (varchar 40 f).primaryKey,
    .ofType "value" string (varchar 200),
    .ofType "version" (integer .i32) (withDefault (.int 1))]

/-- Customers, in a database of their own, with indexes. -/
def account : Result Model :=
  Model.declare
    { className := "Account", name := some "account", db := some "shop", comment := some "customer accounts"
      autoIncrement := some 1000
      indexes := [.ofColumns "idx_created" ["created"], .unique "uk_email" ["email", "region"]] } [
    .auto "id" .u64,
    .ofType "email" string fun f => { varchar 120 f with comment := "login" },
    .ofType "region" string fun f => withDefault (.text "EU") (char 2 f),
    .ofType "active" bool fun f => withDefault (.boolean true) { f with name := "is_active" },
    .ofType "balance" NativeType.decimal fun f => withDefault (.int 0) (decimal 10 2 f),
    .ofType "pin" (integer .i32) fun f => { f.unsigned.withLength 4 with isZerofill := true },
    .ofType "created" datetime stamped,
    .ofType "notes" (option string) fun f => { text f with charset := some "latin1" },
    plain "token" uuid,
    plain "seen" (option timestamp)]

/-- Books, in a table with an engine and a character set. -/
def bookIn (engine charset : String) : Result Model :=
  Model.declare
    { className := "Book", name := some "keel_book", engine := some engine, charset := some charset
      indexes := [.unique "uk_title" ["title", "published"]] } [
    .ofType "isbn" string fun f => (char 13 f).primaryKey,
    .ofType "title" string (varchar 200),
    .ofType "price" NativeType.decimal (decimal 8 2),
    plain "published" date,
    plain "reference" uuid,
    .ofType "summary" (option string) text,
    plain "stocked" (option timestamp)]

/-- Books, in a table with an engine and a character set that are not the usual ones. -/
def book : Result Model := bookIn "Memory" "utf8"

/-- An attribute of each type that the other models leave out. -/
def kitchen : Result Model :=
  Model.declare { className := "Kitchen" } [
    .ofType "id" (integer .u32) fun f => { f.primaryKey.autoIncrement with name := "kid" },
    plain "a" (integer .i8),
    plain "b" (integer .i16),
    plain "c" (integer .u8),
    plain "d" (integer .u16),
    plain "e" (option (integer .u32)),
    plain "f" (integer .u64),
    plain "g" f32,
    plain "h" f64,
    .ofType "i" (option (integer .i16)) (withDefault (.int 7)),
    plain "j" NativeType.decimal,
    plain "k" (option time),
    .ofType "l" (option timestamp) (·.withUtc false),
    plain "m" (integer .isize),
    plain "n" (integer .usize),
    plain "o" bool]

/-- The sample models by name. -/
def models : List (String × Result Model) :=
  [("User", user), ("Post", post), ("Item", item), ("Setting", setting), ("Account", account), ("Book", book),
    ("Kitchen", kitchen)]

end SqlMapper.Samples
