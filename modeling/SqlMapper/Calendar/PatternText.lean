import SqlMapper.Text.Utf8

/-!
# The text of date and time patterns

How a pattern is built from brackets: inside them stand a name, `key:value` modifiers and nested patterns in brackets of
their own, with blanks before each. A backslash takes the meaning from a bracket or another backslash. A text that is
not built this way is refused with the byte at which it goes wrong. Which names and modifiers there are is not asked
here.
-/

namespace SqlMapper.Calendar

/-- Why a pattern is refused. -/
inductive PatternFault where
  | unclosedBracket (index : Nat)
  | invalidComponent (name : String) (index : Nat)
  | invalidModifier (value : String) (index : Nat)
  | missingComponent (index : Nat)
  | missingModifier (name : String) (index : Nat)
  | expected (what : String) (index : Nat)
  | notSupported (what context : String) (index : Nat)
deriving DecidableEq, Repr

/-- The refusal in words. -/
def PatternFault.message : PatternFault → String
  | .unclosedBracket index => s!"unclosed opening bracket at byte index {index}"
  | .invalidComponent name index => s!"invalid component name \x60{name}\x60 at byte index {index}"
  | .invalidModifier value index => s!"invalid modifier \x60{value}\x60 at byte index {index}"
  | .missingComponent index => s!"missing component name at byte index {index}"
  | .missingModifier name index => s!"missing required modifier \x60{name}\x60 for component at byte index {index}"
  | .expected what index => s!"expected {what} at byte index {index}"
  | .notSupported what context index => s!"{what} is not supported in {context} at byte index {index}"

namespace Pattern

/-! ## Tokens -/

/-- What a byte of a pattern means. -/
inductive Token where
  | literal (bytes : List UInt8)
  | opening (index : Nat)
  | closing (index : Nat)
  | blank (start stop : Nat)
  | word (bytes : List UInt8) (start stop : Nat)
  | fault (f : PatternFault)

/-- ASCII white space. -/
def isBlankByte (b : UInt8) : Bool := b = 0x20 || b = 0x09 || b = 0x0a || b = 0x0c || b = 0x0d

/-- A byte that ends a run of text. -/
def isSpecial (b : UInt8) : Bool := b = 0x5c || b = 0x5b || b = 0x5d

/-- The longest run of bytes that satisfy `p`, and the rest. -/
def spanBytes (p : UInt8 → Bool) (bytes : List UInt8) : List UInt8 × List UInt8 :=
  (bytes.takeWhile p, bytes.dropWhile p)

/-- Splits a pattern into tokens. Inside brackets blanks and words are apart. -/
def tokens : (fuel index depth : Nat) → List UInt8 → List Token
  | 0, _, _, _ => []
  | _, _, _, [] => []
  | fuel + 1, index, depth, b :: rest =>
    if b = 0x5c then
      match rest with
      | [] => [.fault (.expected "valid escape sequence" index)]
      | c :: rest' =>
        if isSpecial c then
          (if depth = 0 then .literal [c] else .word [c] index (index + 1)) :: tokens fuel (index + 2) depth rest'
        else [.fault (.expected "valid escape sequence" (index + 1))]
    else if b = 0x5b then .opening index :: tokens fuel (index + 1) (depth + 1) rest
    else if b = 0x5d && 0 < depth then .closing index :: tokens fuel (index + 1) (depth - 1) rest
    else if depth = 0 then
      let (run, rest') := spanBytes (fun c => !isSpecial c) rest
      .literal (b :: run) :: tokens fuel (index + 1 + run.length) depth rest'
    else
      let blank := isBlankByte b
      let (run, rest') := spanBytes (fun c => !isSpecial c && isBlankByte c = blank) rest
      let stop := index + run.length
      (if blank then .blank index stop else .word (b :: run) index stop) :: tokens fuel (stop + 1) depth rest'

/-! ## Brackets -/

/-- A modifier with the places of its key and its value. -/
structure Modifier where
  key : String
  keyIndex : Nat
  value : String
  valueIndex : Nat

/-- Splits a modifier at its colon. -/
def modifierOf (bytes : List UInt8) (start stop : Nat) : Except PatternFault Modifier :=
  let key := bytes.takeWhile (· ≠ 0x3a)
  let value := (bytes.dropWhile (· ≠ 0x3a)).drop 1
  if !bytes.contains 0x3a then .error (.invalidModifier (Text.Utf8.decodeLossy bytes) start)
  else if key.isEmpty then .error (.invalidModifier "" start)
  else if value.isEmpty then .error (.invalidModifier "" stop)
  else .ok ⟨Text.Utf8.decodeLossy key, start, Text.Utf8.decodeLossy value, start + key.length + 1⟩

/-- What stands at the beginning of a pair of brackets, with the places of the brackets. -/
structure Head where
  opening : Nat
  closing : Nat
  name : List UInt8
  nameIndex : Nat
  modifiers : List Modifier

mutual

/-- A pair of brackets as it is written. -/
inductive Bracketed where
  | mk (head : Head) (nested : List Nested)

/-- A nested pattern. Of its parts only those in brackets are kept. -/
inductive Nested where
  | mk (opening : Nat) (parts : List Bracketed)

end

/-- Where a nested pattern begins. -/
def Nested.opening : Nested → Nat
  | .mk opening _ => opening

/-- Nothing but blanks comes before the name of the component after a bracket. -/
def nameOf (opening : Nat) : List Token → Except PatternFault (List UInt8 × Nat × List Token)
  | .blank _ _ :: .word bytes start _ :: rest => .ok (bytes, start, rest)
  | .word bytes start _ :: rest => .ok (bytes, start, rest)
  | .blank start _ :: _ => .error (.missingComponent start)
  | _ => .error (.missingComponent opening)

/-- What follows the name inside brackets. -/
structure Tail where
  modifiers : List Modifier
  nested : List Nested
  closing : Nat

mutual

/-- Reads a pair of brackets after the opening one. -/
def bracketed : (fuel opening : Nat) → List Token → Except PatternFault (Bracketed × List Token)
  | 0, opening, _ => .error (.unclosedBracket opening)
  | fuel + 1, opening, ts => do
    let (name, nameIndex, rest) ← nameOf opening ts
    let (tail, rest) ← tailOf fuel opening rest
    return (.mk ⟨opening, tail.closing, name, nameIndex, tail.modifiers⟩ tail.nested, rest)

/-- Reads modifiers and nested patterns up to the closing bracket. -/
def tailOf : (fuel opening : Nat) → List Token → Except PatternFault (Tail × List Token)
  | fuel + 1, opening, .blank _ _ :: .opening index :: rest => do
    let (parts, rest) ← partsOf fuel rest
    match rest with
    | .closing _ :: rest => do
      let (tail, rest) ← tailOf fuel opening rest
      return ({ tail with nested := .mk index parts :: tail.nested }, rest)
    | _ => .error (.unclosedBracket index)
  | fuel + 1, opening, .blank _ _ :: .word bytes start stop :: rest => do
    let modifier ← modifierOf bytes start stop
    let (tail, rest) ← tailOf fuel opening rest
    return ({ tail with modifiers := modifier :: tail.modifiers }, rest)
  | _, _, .opening index :: _ => .error (.expected "whitespace before nested format description" index)
  | _, _, .blank _ _ :: .closing index :: rest => .ok (⟨[], [], index⟩, rest)
  | _, _, .closing index :: rest => .ok (⟨[], [], index⟩, rest)
  | _, opening, _ => .error (.unclosedBracket opening)

/-- Reads the parts of a nested pattern up to its closing bracket. -/
def partsOf : (fuel : Nat) → List Token → Except PatternFault (List Bracketed × List Token)
  | fuel + 1, .opening index :: rest => do
    let (part, rest) ← bracketed fuel index rest
    let (parts, rest) ← partsOf fuel rest
    return (part :: parts, rest)
  | _, .closing index :: rest => .ok ([], .closing index :: rest)
  | _, .fault f :: _ => .error f
  | fuel + 1, _ :: rest => partsOf fuel rest
  | _, _ => .ok ([], [])

end

end Pattern

end SqlMapper.Calendar
