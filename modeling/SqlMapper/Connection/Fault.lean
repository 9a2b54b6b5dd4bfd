import SqlMapper.Error
import SqlMapper.Number.Size
import SqlMapper.Url.Reading

/-!
# Faults of connections

What goes wrong between a rendered statement and a server: placeholders without parameters, values that the server's
protocol has no form for, addresses that no connection can be opened with, and a pool that is closed.
-/

namespace SqlMapper

/-- Why a connection cannot do what it is asked. -/
inductive ConnectionFault where
  /-- A placeholder without a parameter, after the given number of bound values. -/
  | missingParameter (bound : Nat)
  | leftParameters (count : Nat)
  | dateRange (d : Calendar.DateTime)
  | unexpandedList
  | unreadable (shown : String)
  | unreadableRow
  | severalSets
  | closed
  | url (fault : UrlFault)
  | scheme (found : String)
  | size (name text : String)
  | boolean (name text : String)
  | digits (fault : Number.SizeFault)
  | poolSize (least most : Nat)
  | incompleteUrl
  | unknownParameter (name : String)
  | parameterValue (name text : String)
deriving DecidableEq

namespace ConnectionFault

/-- The fault in words. -/
def message : ConnectionFault → String
  | missingParameter bound =>
    s!"The statement has more placeholders than the {Nat.repr bound} parameters provided"
  | leftParameters count => s!"{Nat.repr count} parameters were provided without a matching placeholder"
  | dateRange d => s!"Date {d.text} is out of range for MySQL"
  | unexpandedList => "A list value must be expanded into placeholders before it is bound"
  | unreadable shown => s!"Couldn't convert the value \x60{shown}\x60 to a desired type"
  | unreadableRow => "row not convertible"
  | severalSets => "A query cannot fetch rows with multiple parameter sets"
  | closed => "Pool was disconnected."
  | url fault => fault.message
  | scheme found => s!"MySQL connection url must start with \x60mysql://\x60, found scheme \x60{found}\x60"
  | size name text => s!"Parameter \x60{name}\x60 expects a positive integer, found \x60{text}\x60"
  | boolean name text => s!"Parameter \x60{name}\x60 expects a boolean, found \x60{text}\x60"
  | digits fault => fault.message
  | poolSize least most =>
    s!"Invalid pool size: pool_min ({Nat.repr least}) must not exceed pool_max ({Nat.repr most})"
  | incompleteUrl => "Invalid or incomplete connection URL"
  | unknownParameter name => s!"Unknown connection URL parameter \x60{name}'"
  | parameterValue name text => s!"Invalid value \x60{text}' for URL parameter \x60{name}'"

/-- The fault as an error. -/
def error (fault : ConnectionFault) : Error := ⟨.other fault.message, []⟩

end ConnectionFault

end SqlMapper
