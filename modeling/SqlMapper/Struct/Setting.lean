import SqlMapper.Source.Expression
import SqlMapper.Source.Literal
import SqlMapper.Struct.Fault

/-!
# Settings

The annotations of a struct and of its fields come in groups of settings between commas. A setting is a word, and may
have a value after an equals sign. What values a word takes is for the reader of the setting to say.
-/

namespace SqlMapper.Struct

open Source

/-- The further segments of a path; none are there if the path is a single word. -/
def pathRest : List Token → Except SourceFault (Bool × List Token)
  | .mark ':' true :: .mark ':' _ :: .word _ :: rest => do
    let (_, rest) ← pathRest rest
    return (true, rest)
  | .mark ':' true :: .mark ':' _ :: rest => missing "ident" rest
  | rest => .ok (false, rest)

/-- The first word of a setting. -/
def firstWord : List Token → Except SourceFault (String × List Token)
  | .word name :: rest => .ok (name, rest)
  | [] => missing "nested attribute" []
  | .literal _ :: _ => .error (.notSetting true)
  | .mark '-' _ :: .literal text :: _ => .error (.notSetting ((text.toList.head?.map Char.isDigit).getD false))
  | _ => .error (.notSetting false)

/-- The word of a setting and what follows it. -/
def settingWord (tokens : List Token) : Reading (String × List Token) :=
  match tokens with
  | .mark ':' true :: .mark ':' _ :: rest => do
    let (_, rest) ← ofSource (firstWord rest)
    let _ ← ofSource (pathRest rest)
    throw .path
  | tokens => do
    let (name, rest) ← ofSource (firstWord tokens)
    let (isPath, rest) ← ofSource (pathRest rest)
    if isPath then throw .path
    return (name, rest)

/-- Reads settings one after another; `take` reads the value of a setting and gives what follows it. -/
def readSettings {σ : Type} (take : σ → String → List Token → Reading (σ × List Token)) (s : σ)
    (tokens : List Token) : Reading σ :=
  if tokens.isEmpty then .ok s
  else
    match settingWord tokens with
    | .error fault => .error fault
    | .ok (name, rest) =>
      match take s name rest with
      | .error fault => .error fault
      | .ok (s, []) => .ok s
      | .ok (s, .mark ',' _ :: rest) =>
        if _h : rest.length < tokens.length then readSettings take s rest else .ok s
      | .ok _ => ofSource (missingMark ",")
termination_by tokens.length
decreasing_by assumption

/-- Reads groups of settings one after another. -/
def readGroups {σ : Type} (take : σ → String → List Token → Reading (σ × List Token)) (s : σ) :
    List (List Token) → Reading σ
  | [] => .ok s
  | tokens :: rest => do readGroups take (← readSettings take s tokens) rest

/-- The setting has a value. -/
def hasValue : List Token → Bool
  | .mark '=' _ :: _ => true
  | _ => false

/-- A setting without value. -/
def flag {σ : Type} (name : String) (s : σ) (rest : List Token) : Reading (σ × List Token) :=
  if hasValue rest then throw (.flagWithValue name) else .ok (s, rest)

/-- A setting with a value that a reader reads. -/
def valued {α σ : Type} (read : List Token → Except SourceFault (α × List Token)) (set : α → σ)
    (rest : List Token) : Reading (σ × List Token) :=
  match rest with
  | .mark '=' _ :: rest => do
    let (a, rest) ← ofSource (read rest)
    return (set a, rest)
  | _ => ofSource (missingMark "=")

/-- A setting with an expression that is looked at. -/
def inspected {α σ : Type} (inspect : List Token → Reading α) (set : α → σ) (rest : List Token) :
    Reading (σ × List Token) :=
  match rest with
  | .mark '=' _ :: rest => do
    let (e, rest) ← ofSource (expression rest)
    return (set (← inspect e), rest)
  | _ => ofSource (missingMark "=")

end SqlMapper.Struct
