import SqlMapper.Source.Token

/-!
# Names of types

What a declaration looks at in the type of an attribute: the last name of its path, and whether the type is an option.
Types that are no paths, such as tuples and references, have no name.
-/

namespace SqlMapper.Source

/-- The tokens up to a comma that stands outside angle brackets. -/
def firstArgument : (depth : Nat) → List Token → List Token
  | 0, .mark ',' _ :: _ => []
  | depth, .mark '-' true :: .mark '>' joined :: rest =>
    .mark '-' true :: .mark '>' joined :: firstArgument depth rest
  | depth, .mark '<' joined :: rest => .mark '<' joined :: firstArgument (depth + 1) rest
  | depth, .mark '>' joined :: rest => .mark '>' joined :: firstArgument (depth - 1) rest
  | depth, t :: rest => t :: firstArgument depth rest
  | _, [] => []

/-- The first argument, if it is a type. -/
def typeArgument? (arguments : List Token) : Option (List Token) :=
  match firstArgument 0 arguments with
  | [] | .lifetime _ :: _ | .literal _ :: _ | .mark '-' _ :: _ | .group .brace _ :: _ => none
  | .word _ :: .mark '=' _ :: _ | .word _ :: .mark ':' false :: _ => none
  | .word "true" :: _ | .word "false" :: _ => none
  | argument => some argument

/-- Words that begin types other than paths. -/
def typeKeywords : List String := ["_", "dyn", "extern", "fn", "for", "impl", "unsafe"]

/-- The last segment of a path with its arguments, after the given segment; `depth` angle brackets are open. -/
def lastSegment : (segment : Option String) → (arguments : List Token) → (depth : Nat) → List Token →
    Option (String × List Token)
  | some name, arguments, 0, [] => some (name, arguments)
  | none, _, 0, .word name :: rest =>
    if typeKeywords.contains name then none else lastSegment (some name) [] 0 rest
  | some name, [], 0, .group .paren _ :: rest => lastSegment (some name) [] 0 rest
  | some name, [], 0, .mark ':' true :: .mark ':' _ :: .mark '<' _ :: rest => lastSegment (some name) [] 1 rest
  | some name, [], 0, .mark '<' _ :: rest => lastSegment (some name) [] 1 rest
  | some _, _, 0, .mark ':' true :: .mark ':' _ :: rest => lastSegment none [] 0 rest
  | segment, arguments, depth + 1, .mark '-' true :: .mark '>' joined :: rest =>
    lastSegment segment (arguments ++ [.mark '-' true, .mark '>' joined]) (depth + 1) rest
  | segment, arguments, depth + 1, .mark '<' joined :: rest =>
    lastSegment segment (arguments ++ [.mark '<' joined]) (depth + 2) rest
  | segment, arguments, depth + 1, .mark '>' joined :: rest =>
    lastSegment segment (if depth = 0 then arguments else arguments ++ [.mark '>' joined]) depth rest
  | segment, arguments, depth + 1, t :: rest => lastSegment segment (arguments ++ [t]) (depth + 1) rest
  | _, _, _, _ => none

/-- The last segment of a path, which may begin with a double colon. -/
def pathSegment (tokens : List Token) : Option (String × List Token) :=
  match tokens with
  | .mark ':' true :: .mark ':' _ :: rest => lastSegment none [] 0 rest
  | tokens => lastSegment none [] 0 tokens

/-- A type as far as a declaration looks at it. -/
structure TypeName where
  /-- The last name of the path, inside the option if it is one. -/
  base : Option String
  isOption : Bool
deriving DecidableEq, Repr

/-- A type may begin with the token. -/
def beginsType : Token → Bool
  | .literal _ => false
  | .mark c _ => ['*', '&', '!', '<', ':'].contains c
  | .group .brace _ => false
  | _ => true

/-- The name of a type. -/
def TypeName.ofTokens (tokens : List Token) : TypeName :=
  match pathSegment tokens with
  | some ("Option", arguments) =>
    match typeArgument? arguments with
    | some inner => ⟨(pathSegment inner).map Prod.fst, true⟩
    | none => ⟨some "Option", false⟩
  | some (name, _) => ⟨some name, false⟩
  | none => ⟨none, false⟩

end SqlMapper.Source
