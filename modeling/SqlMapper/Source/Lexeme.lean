import SqlMapper.Source.Token
import SqlMapper.Text.Hex
import SqlMapper.Text.WordCharacter

/-!
# Reading tokens

The text of a declaration is first cut into lexemes: single tokens and single brackets. Blanks and comments separate
them. Then brackets are matched. A text whose literals or brackets are not closed has no tokens.
-/

namespace SqlMapper.Source

/-- A token without parts, or a bracket. -/
inductive Lexeme where
  | token (t : Token)
  | opening (d : Delimiter)
  | closing (d : Delimiter)

namespace Lexeme

/-- Separates tokens. -/
def isBlank (c : Char) : Bool :=
  c = ' ' || (0x09 ≤ c.toNat && c.toNat ≤ 0x0d) || c.toNat = 0x85 || c.toNat = 0xa0 || c.toNat = 0x1680 ||
    (0x2000 ≤ c.toNat && c.toNat ≤ 0x200a) || c.toNat = 0x200e || c.toNat = 0x200f || c.toNat = 0x2028 ||
    c.toNat = 0x2029 || c.toNat = 0x202f || c.toNat = 0x205f || c.toNat = 0x3000

/-- A punctuation character. -/
def isMark (c : Char) : Bool := "~!@#$%^&*-=+|;:,<.>/?".contains c

/-- Punctuation follows. A slash that begins a comment is none. -/
def marksNext : List Char → Bool
  | '/' :: '/' :: _ | '/' :: '*' :: _ => false
  | c :: _ => isMark c || c = '\x27'
  | [] => false

/-- The text of a literal or word, and what follows it. -/
abbrev Read := Option (List Char × List Char)

/-- What a reader has read, after some more characters. -/
def Read.after (cs : List Char) : Read → Read
  | some (text, rest) => some (cs ++ text, rest)
  | none => none

/-- The text before the first character that is not of a kind, and the rest. -/
def spanOf (p : Char → Bool) (cs : List Char) : List Char × List Char := (cs.takeWhile p, cs.dropWhile p)

/-- What stands between the quotes of a literal. -/
inductive Content where
  /-- Characters. -/
  | text
  /-- Bytes; ASCII characters stand for theirs. -/
  | bytes
  /-- Characters and bytes other than zero. -/
  | nonzero
deriving DecidableEq, Repr

namespace Content

/-- A character that may be written as it is. -/
def admits : Content → Char → Bool
  | text, _ => true
  | bytes, c => c.toNat < 128
  | nonzero, c => c.toNat ≠ 0

/-- Two hexadecimal digits after a backslash and an `x`. -/
def admitsDigits (content : Content) (a b : Char) : Bool :=
  match content, Text.Hex.value? [a, b] with
  | text, some code => code < 128
  | bytes, some _ => true
  | nonzero, some code => code ≠ 0
  | _, none => false

/-- The characters after a backslash, a `u` and an opening brace: the code of a character in at most six hexadecimal
digits, which underscores may follow, and a closing brace. -/
def admitsCode (content : Content) (cs : List Char) : Bool :=
  let number := cs.takeWhile (· ≠ '\x7d')
  match Text.Hex.value? (number.filter (· ≠ '_')) with
  | some code =>
    content ≠ bytes && (content = text || code ≠ 0) && number.head?.isSome && number.head? ≠ some '_' &&
      (number.filter (· ≠ '_')).length ≤ 6 && decide code.isValidChar && number.length < cs.length
  | none => false

/-- A letter after a backslash that stands for a character. -/
def admitsLetter (content : Content) (c : Char) : Bool :=
  ['n', 'r', 't', '\x5c', '\x27', '\x22'].contains c || (c = '0' && content ≠ nonzero)

end Content

/-- The rest of a literal up to its closing quote. A backslash may stand before the end of a line, and a return only
before a line feed. -/
def quoted (content : Content) : List Char → Read
  | '\x22' :: rest => some (['\x22'], rest)
  | '\x5c' :: 'x' :: a :: b :: rest =>
    if content.admitsDigits a b then (quoted content rest).after ['\x5c', 'x', a, b] else none
  | '\x5c' :: 'u' :: '\x7b' :: rest =>
    if content.admitsCode rest then (quoted content rest).after ['\x5c', 'u', '\x7b'] else none
  | '\x5c' :: '\r' :: '\n' :: rest => (quoted content rest).after ['\x5c', '\r', '\n']
  | '\x5c' :: c :: rest =>
    if content.admitsLetter c || c = '\n' then (quoted content rest).after ['\x5c', c] else none
  | '\r' :: '\n' :: rest => (quoted content rest).after ['\r', '\n']
  | c :: rest => if c ≠ '\x5c' && c ≠ '\r' && content.admits c then (quoted content rest).after [c] else none
  | [] => none

/-- One character of a literal, written as it is or with a backslash. -/
def single (content : Content) : List Char → Read
  | '\x5c' :: 'x' :: a :: b :: rest => if content.admitsDigits a b then some (['\x5c', 'x', a, b], rest) else none
  | '\x5c' :: 'u' :: '\x7b' :: rest =>
    if content.admitsCode rest then
      let (number, rest) := spanOf (· ≠ '\x7d') rest
      some ('\x5c' :: 'u' :: '\x7b' :: number ++ ['\x7d'], rest.drop 1)
    else none
  | '\x5c' :: c :: rest => if content.admitsLetter c then some (['\x5c', c], rest) else none
  | c :: rest => if c ≠ '\x5c' && content.admits c then some ([c], rest) else none
  | [] => none

/-- The rest of a raw literal up to a quote and some number signs. -/
def rawQuoted (content : Content) (hashes : List Char) : List Char → Read
  | '\x22' :: rest =>
    if hashes.isPrefixOf rest then some ('\x22' :: hashes, rest.drop hashes.length)
    else (rawQuoted content hashes rest).after ['\x22']
  | '\r' :: '\n' :: rest => (rawQuoted content hashes rest).after ['\r', '\n']
  | c :: rest => if c ≠ '\r' && content.admits c then (rawQuoted content hashes rest).after [c] else none
  | [] => none

/-- A raw literal from its number signs on; there are at most 255 of them. -/
def raw (content : Content) (cs : List Char) : Read :=
  let (hashes, rest) := spanOf (· = '#') cs
  match rest with
  | '\x22' :: rest =>
    if hashes.length ≤ 255 then (rawQuoted content hashes rest).after (hashes ++ ['\x22']) else none
  | _ => none

/-- The exponent of a number, if digits follow its mark. -/
def exponent? : List Char → Read
  | e :: sign :: rest =>
    if e ≠ 'e' && e ≠ 'E' then none
    else
      let mark := if sign = '+' || sign = '-' then [e, sign] else [e]
      let (digits, after) := spanOf (fun c => c.isDigit || c = '_') (if mark.length = 2 then rest else sign :: rest)
      if digits.any Char.isDigit then some (mark ++ digits, after) else none
  | _ => none

/-- The decimals of a number: a point that no word and no other point follows. -/
def decimals? : List Char → Read
  | '.' :: rest =>
    if (rest.head?.map fun c => c = '.' || Text.isWordStart c).getD false then none
    else
      let (digits, after) := spanOf (fun c => c.isDigit || c = '_') rest
      some ('.' :: digits, after)
  | _ => none

/-- A reader that may read nothing. -/
def optional (read : List Char → Read) (cs : List Char) : List Char × List Char := (read cs).getD ([], cs)

/-- A number in base ten with its decimals and exponent. -/
def decimal (cs : List Char) : List Char × List Char :=
  let (whole, rest) := spanOf (fun c => c.isDigit || c = '_') cs
  let (decimals, rest) := optional decimals? rest
  let (exponent, rest) := optional exponent? rest
  (whole ++ decimals ++ exponent, rest)

/-- The digits of a number in another base. -/
def digitsIn (base : Nat) (cs : List Char) : Read :=
  let (digits, rest) := spanOf (fun c => c.isDigit || c = '_' || (base = 16 && (Text.Hex.digitValue? c).isSome)) cs
  if digits.all (· = '_') || digits.any (fun c => c.isDigit && base ≤ (Text.Hex.digitValue? c).getD 0) then none
  else some (digits, rest)

/-- A number with its base. -/
def number : List Char → Read
  | '0' :: 'x' :: rest => (digitsIn 16 rest).after ['0', 'x']
  | '0' :: 'o' :: rest => (digitsIn 8 rest).after ['0', 'o']
  | '0' :: 'b' :: rest => (digitsIn 2 rest).after ['0', 'b']
  | cs => some (decimal cs)

/-- A literal with the word that may follow it directly. -/
def suffixed (read : List Char × List Char) : Lexeme × List Char :=
  if (read.2.head?.map Text.isWordStart).getD false then
    let (suffix, rest) := spanOf Text.isWordPart read.2
    (.token (.literal (.ofList (read.1 ++ suffix))), rest)
  else (.token (.literal (.ofList read.1)), read.2)

/-- A number with the word that may follow it directly. Nothing else that continues a word may follow it. -/
def numeral (cs : List Char) : Option (Lexeme × List Char) := do
  let read ← number cs
  if (read.2.head?.map fun c => Text.isWordPart c && !Text.isWordStart c).getD false then none
  else some (suffixed read)

/-- Names that a raw identifier cannot have. -/
def neverRaw : List String := ["_", "super", "self", "Self", "crate"]

/-- An identifier or keyword, or a raw identifier with its mark. -/
def identifier? (cs : List Char) : Read :=
  match cs with
  | 'r' :: '#' :: rest =>
    if (rest.head?.map Text.isWordStart).getD false && !neverRaw.contains (.ofList (rest.takeWhile Text.isWordPart))
    then Read.after ['r', '#'] (some (spanOf Text.isWordPart rest))
    else none
  | c :: _ => if Text.isWordStart c then some (spanOf Text.isWordPart cs) else none
  | [] => none

/-- A lifetime after its quote. No quote and no number sign may follow it. -/
def lifetime (cs : List Char) : Option (Lexeme × List Char) := do
  let (name, rest) ← identifier? cs
  if rest.head? = some '\x27' || (rest.head? = some '#' && name.take 2 ≠ ['r', '#']) then none
  else some (.token (.lifetime (.ofList ('\x27' :: name))), rest)

/-- A single character between quotes, after the given letters and the first quote. -/
def character (content : Content) (letters cs : List Char) : Option (Lexeme × List Char) :=
  match single content cs with
  | some (c, '\x27' :: rest) => some (suffixed (letters ++ '\x27' :: c ++ ['\x27'], rest))
  | _ => none

/-- A literal between quotes, after the given letters and the first quote. -/
def between (content : Content) (letters cs : List Char) : Option (Lexeme × List Char) :=
  ((quoted content cs).after (letters ++ ['\x22'])).map suffixed

/-- A raw literal after the given letters. -/
def rawAfter (content : Content) (letters cs : List Char) : Option (Lexeme × List Char) :=
  ((raw content cs).after letters).map suffixed

/-- A word, or a literal that letters introduce. -/
def word (cs : List Char) : Option (Lexeme × List Char) :=
  match cs with
  | 'b' :: '\x22' :: rest => between .bytes ['b'] rest
  | 'c' :: '\x22' :: rest => between .nonzero ['c'] rest
  | 'b' :: '\x27' :: rest => character .bytes ['b'] rest
  | 'r' :: '\x22' :: rest => rawAfter .text ['r'] ('\x22' :: rest)
  | 'r' :: '#' :: '\x22' :: rest => rawAfter .text ['r'] ('#' :: '\x22' :: rest)
  | 'r' :: '#' :: '#' :: rest => rawAfter .text ['r'] ('#' :: '#' :: rest)
  | 'b' :: 'r' :: '\x22' :: rest => rawAfter .bytes ['b', 'r'] ('\x22' :: rest)
  | 'b' :: 'r' :: '#' :: rest => rawAfter .bytes ['b', 'r'] ('#' :: rest)
  | 'c' :: 'r' :: '\x22' :: rest => rawAfter .nonzero ['c', 'r'] ('\x22' :: rest)
  | 'c' :: 'r' :: '#' :: rest => rawAfter .nonzero ['c', 'r'] ('#' :: rest)
  | _ => (identifier? cs).map fun (name, rest) => (.token (.word (.ofList name)), rest)

/-- The rest after a comment in marks, which may hold others. -/
def comment : (depth : Nat) → List Char → Option (List Char)
  | depth, '/' :: '*' :: rest => comment (depth + 1) rest
  | 0, '*' :: '/' :: rest => some rest
  | depth + 1, '*' :: '/' :: rest => comment depth rest
  | depth, _ :: rest => comment depth rest
  | _, [] => none

/-- The first lexeme, none at a blank or comment, and what follows. -/
def first : List Char → Option (Option Lexeme × List Char)
  | [] => none
  | '/' :: '/' :: rest => some (none, rest.dropWhile (· ≠ '\n'))
  | '/' :: '*' :: rest => (comment 0 rest).map fun rest => (none, rest)
  | '(' :: rest => some (some (.opening .paren), rest)
  | ')' :: rest => some (some (.closing .paren), rest)
  | '[' :: rest => some (some (.opening .bracket), rest)
  | ']' :: rest => some (some (.closing .bracket), rest)
  | '\x7b' :: rest => some (some (.opening .brace), rest)
  | '\x7d' :: rest => some (some (.closing .brace), rest)
  | '\x22' :: rest => (between .text [] rest).map fun (l, rest) => (some l, rest)
  | '\x27' :: rest => (character .text [] rest <|> lifetime rest).map fun (l, rest) => (some l, rest)
  | c :: rest =>
    if isBlank c then some (none, rest)
    else if c.isDigit then (numeral (c :: rest)).map fun (l, rest) => (some l, rest)
    else if Text.isWordStart c then (word (c :: rest)).map fun (l, rest) => (some l, rest)
    else if isMark c then some (some (.token (.mark c (marksNext rest))), rest)
    else none

/-- The lexemes of a text. -/
def all (cs : List Char) : Option (List Lexeme) :=
  if cs.isEmpty then some []
  else
    match first cs with
    | none => none
    | some (l, rest) => if _h : rest.length < cs.length then (all rest).map fun ls => l.toList ++ ls else none
termination_by cs.length
decreasing_by assumption

end Lexeme

/-- Matches brackets; the open ones are kept with the tokens before them, the innermost first. -/
def group : (open_ : List (Delimiter × List Token)) → (before : List Token) → List Lexeme → Option (List Token)
  | [], before, [] => some before
  | _ :: _, _, [] => none
  | open_, before, .token t :: rest => group open_ (before ++ [t]) rest
  | open_, before, .opening d :: rest => group ((d, before) :: open_) [] rest
  | [], _, .closing _ :: _ => none
  | (d, outer) :: open_, before, .closing d' :: rest =>
    if d = d' then group open_ (outer ++ [.group d before]) rest else none

/-- The tokens of a text. -/
def tokens (text : String) : Option (List Token) := do group [] [] (← Lexeme.all text.toList)

end SqlMapper.Source
