import SqlMapper.Value.Shown
import SqlMapper.Calendar.Pattern

/-!
# Errors

Every failure is a cause inside a chain of contexts. A cause that concerns the mapping itself belongs to one of four
families: the declaration of a table, the use of a statement or record, a value that does not fit its column, and the
executor that is bound. Failures outside the families concern single values and the connection. A panic is no error
that an operation returns, but the end of everything that was going on; it is kept among the causes, since nothing
follows it either.
-/

namespace SqlMapper

/-- What a mapping error is about. -/
inductive Family where
  | schema
  | usage
  | data
  | binding
deriving DecidableEq, Repr

/-- The name of a family, for programs that tell families apart. -/
def Family.name : Family → String
  | schema => "Schema"
  | usage => "Usage"
  | data => "Data"
  | binding => "Binding"

/-- Why a table declaration is refused, apart from keys and names. -/
inductive SchemaFault where
  | autoIncrementNotKey (column : String)
  | autoIncrementNotInteger (column : String)
  | autoIncrementWithDefault (column : String)
  | invalidDefault (column reason : String)
  | emptyIndex (index : String)
  | unknownIndexColumn (index column : String)
  | textInIndex (column index : String)
deriving DecidableEq, Repr

/-- The refusal in words. -/
def SchemaFault.message : SchemaFault → String
  | .autoIncrementNotKey column => s!"auto-increment column \x60{column}\x60 must be the primary key"
  | .autoIncrementNotInteger column => s!"auto-increment column \x60{column}\x60 must be an integer"
  | .autoIncrementWithDefault column => s!"auto-increment column \x60{column}\x60 cannot have a default"
  | .invalidDefault column reason => s!"invalid default of \x60{column}\x60: {reason}"
  | .emptyIndex index => s!"index \x60{index}\x60 does not list any column"
  | .unknownIndexColumn index column => s!"index \x60{index}\x60 refers to unknown column \x60{column}\x60"
  | .textInIndex column index => s!"column \x60{column}\x60 of type text cannot be part of index \x60{index}\x60"

/-- A write that a generated key does not allow. -/
inductive KeyWrite where
  | change (attr table : String)
  | insert (attr table : String)
  | update (attr table : String)
deriving DecidableEq, Repr

/-- The write in words. -/
def KeyWrite.message : KeyWrite → String
  | .change attr table => s!"Changing the auto-increment primary key \x60{attr}\x60 of \x60{table}\x60"
  | .insert attr table =>
    s!"Setting the auto-increment primary key \x60{attr}\x60 of \x60{table}\x60 on insert"
  | .update attr table => s!"Updating the auto-increment primary key \x60{attr}\x60 of \x60{table}\x60"

/-- A statement, select or record used in a way that has no meaning. -/
inductive UsageFault where
  | noConditions (operator : String)
  | nothingToInsert (table : String)
  | nothingToUpdate (table : String)
  | unequalRows (table : String)
  | offsetWithoutLimit (table : String)
  | emptySlice (start stop : Nat)
  | zeroStep
  | pageZero
  | notRecords (table : String)
  | removeWithoutKey (table : String)
  | unnamedColumn
deriving DecidableEq, Repr

/-- The misuse in words. -/
def UsageFault.message : UsageFault → String
  | .noConditions operator => s!"Cannot combine an empty list of conditions with {operator}"
  | .nothingToInsert table => s!"Nothing to insert into \x60{table}\x60"
  | .nothingToUpdate table => s!"Nothing to update in \x60{table}\x60"
  | .unequalRows table => s!"Rows of a batch insert into \x60{table}\x60 must resolve to the same columns"
  | .offsetWithoutLimit table => s!"OFFSET on \x60{table}\x60 requires a LIMIT"
  | .emptySlice start stop => s!"Slice start {start} must be lower than its stop {stop}"
  | .zeroStep => "Slice step must be positive"
  | .pageZero => "Pages are numbered from 1"
  | .notRecords table => s!"The selected columns do not match the fields of \x60{table}\x60"
  | .removeWithoutKey table => s!"Cannot remove a \x60{table}\x60 record without primary key"
  | .unnamedColumn => "Cannot render a field that is not bound to a column name"

/-- Why a value does not fit its column. -/
inductive DataFault where
  | expected (what : String) (found : Value)
  | null (attr table : String)
  | invalidFormat (format : String) (fault : Calendar.PatternFault)
  | noFormatMatches (input : String)
  | timestampRange

/-- The misfit in words. -/
def DataFault.message : DataFault → String
  | .expected what found => s!"expected {what}, found {found.kindName} {found.shown}"
  | .null attr table => s!"\x60{attr}\x60 of \x60{table}\x60 cannot be NULL"
  | .invalidFormat format fault => s!"invalid format \x60{format}\x60: {fault.message}"
  | .noFormatMatches input => s!"\x60{input}\x60 does not match any of the accepted formats"
  | .timestampRange => "timestamp was not in range"

/-- Why no executor could be bound, released or used. -/
inductive BindingFault where
  | alreadyBound
  | notBound
  | unbound
deriving DecidableEq, Repr

/-- The refusal in words. -/
def BindingFault.message : BindingFault → String
  | .alreadyBound => "An executor is already bound, unbind it first"
  | .notBound => "No executor is bound"
  | .unbound => "Cannot run a statement, the connector is unbound"

/-- Why a value cannot be read as a native type. -/
inductive ConversionFault where
  | mismatch (found : Value) (target : String)
  | outOfRange (n : Int) (target : String)
  | timestampRange

/-- The misfit in words. -/
def ConversionFault.message : ConversionFault → String
  | .mismatch found target => s!"Cannot convert {found.kindName} value {found.shown} into {target}"
  | .outOfRange n target => s!"Value {Number.integerText n} is out of range for {target}"
  | .timestampRange => "timestamp was not in range"

/-- What went wrong. -/
inductive Cause where
  | duplicatePrimaryKey (table first second : String)
  | missingPrimaryKey (table : String)
  | duplicateField (table name : String)
  | schema (table : String) (fault : SchemaFault)
  | unknownColumn (table column : String)
  | notAllowed (write : KeyWrite)
  /-- A delete without a filter that nobody confirmed. -/
  | dangerous (table : String)
  | usage (fault : UsageFault)
  | operandType (operator found : String)
  | data (column : String) (fault : DataFault)
  | binding (fault : BindingFault)
  | conversion (fault : ConversionFault)
  /-- A failure outside the mapping, in its own words. -/
  | other (message : String)
  /-- The end of the program in the middle of an operation, which returns nothing. -/
  | panic (message : String)

/-- The family of a cause that concerns the mapping itself. -/
def Cause.family? : Cause → Option Family
  | duplicatePrimaryKey .. | missingPrimaryKey _ | duplicateField .. | schema .. => some .schema
  | unknownColumn .. | notAllowed _ | dangerous _ | usage _ => some .usage
  | data .. | operandType .. => some .data
  | binding _ => some .binding
  | conversion _ | other _ | panic _ => none

/-- The name of the kind of a cause, for programs that tell kinds apart. -/
def Cause.name : Cause → String
  | duplicatePrimaryKey .. => "DuplicatePrimaryKey"
  | missingPrimaryKey _ => "MissingPrimaryKey"
  | duplicateField .. => "DuplicateField"
  | schema .. => "Schema"
  | unknownColumn .. => "UnknownColumn"
  | notAllowed _ => "NotAllowed"
  | dangerous _ => "Dangerous"
  | usage _ => "Usage"
  | operandType .. => "OperandType"
  | data .. => "Data"
  | binding _ => "Binding"
  | conversion _ | other _ => "Error"
  | panic _ => "Panic"

/-- The cause in words. -/
def Cause.message : Cause → String
  | duplicatePrimaryKey table first second =>
    s!"Table \x60{table}\x60 declares more than one primary key (\x60{first}\x60 and \x60{second}\x60)"
  | missingPrimaryKey table => s!"Table \x60{table}\x60 does not declare a primary key"
  | duplicateField table name => s!"Table \x60{table}\x60 declares \x60{name}\x60 more than once"
  | schema table fault => s!"Invalid declaration for table \x60{table}\x60: {fault.message}"
  | unknownColumn table column => s!"Column \x60{column}\x60 does not exist in table \x60{table}\x60"
  | notAllowed write => s!"{write.message} is not allowed"
  | dangerous table =>
    s!"Dangerous operation: DELETE without WHERE would empty \x60{table}\x60, call allow_all() to confirm"
  | usage fault => fault.message
  | operandType operator found =>
    s!"Invalid operand type: the right side of \x60{operator}\x60 must be a list or a subquery, found {found}"
  | data column fault => s!"Invalid value for column \x60{column}\x60: {fault.message}"
  | binding fault => fault.message
  | conversion fault => fault.message
  | other message | panic message => message

/-- A cause and what was being done, the outermost first. -/
structure Error where
  cause : Cause
  contexts : List String := []

namespace Error

instance : Coe Cause Error := ⟨fun cause => ⟨cause, []⟩⟩

instance : Inhabited Error := ⟨⟨.other "", []⟩⟩

/-- The error stands for a panic. -/
def isPanic (e : Error) : Bool :=
  match e.cause with
  | .panic _ => true
  | _ => false

/-- The panic of a moment that is shown on clocks that are outside the calendar then. -/
def outOfCalendar : Error := (Cause.panic "local datetime out of valid range" : Cause)

/-- The error inside one more context. Nobody adds a context to a panic. -/
def within (context : String) (e : Error) : Error :=
  if e.isPanic then e else { e with contexts := context :: e.contexts }

/-- The family of an error, found through its contexts. -/
def family? (e : Error) : Option Family := e.cause.family?

/-- Contexts and cause, the outermost first. -/
def message (e : Error) : String := String.intercalate ": " (e.contexts ++ [e.cause.message])

/-- A value that a field does not take. -/
def expected (column what : String) (found : Value) : Error := (Cause.data column (.expected what found) : Cause)

end Error

/-- The answer of an operation that may fail. -/
abbrev Result (α : Type) := Except Error α

/-- Fails with a cause. -/
def fail {α : Type} (cause : Cause) : Result α := .error ⟨cause, []⟩

/-- What other clocks show at a moment, or a panic where it is outside their calendar. -/
def orPanic {α : Type} : Option α → Result α
  | some a => .ok a
  | none => .error .outOfCalendar

end SqlMapper
