import SqlMapper.Proofs.Rendering.Options
import SqlMapper.Rendering.Expression

/-!
# Outlines of expressions

An outline is what the text of an expression can show: the tree with a hole for every literal and the written names of
its columns (`Expr.outline?`). A test for `NULL` has one outline, whichever node it comes from. Where an expression has
an outline and is rendered without error, its text is the one of the outline (`Expr.piece_writes`).
-/

namespace SqlMapper

open Piece

/-! ## Outlines -/

/-- The characters that tell where an operand begins and ends. No letter and no digit is one of them. -/
def isDelimiter (c : Char) : Bool := [' ', '(', ')', '\x60', '%', '-'].contains c

/-- The text is not empty and has no delimiter. -/
def isWord (s : String) : Bool := !s.toList.isEmpty && s.toList.all fun c => !isDelimiter c

/-- The name of a function that is written as a word. -/
@[ext]
structure FunctionName where
  text : String
  isWord : isWord text = true

namespace FunctionName

/-- The name of a function, if it is a word. -/
def of? (s : String) : Option FunctionName := if h : SqlMapper.isWord s = true then some ⟨s, h⟩ else none

theorem text_of? {s : String} {f : FunctionName} (h : of? s = some f) : f.text = s := by
  unfold of? at h
  split at h
  · rw [← Option.some.inj h]
  · cases h

/-- Letters and digits are a name. -/
theorem of?_isSome {s : String} (hs : s.toList ≠ []) (h : ∀ c ∈ s.toList, c.isAlphanum = true) :
    (of? s).isSome = true := by
  have hd : ∀ c ∈ s.toList, isDelimiter c = false := by
    intro c hc
    cases hm : isDelimiter c with
    | false => rfl
    | true =>
      have ha := h c hc
      simp only [isDelimiter, List.contains_cons, List.contains_nil, Bool.or_false, Bool.or_eq_true, beq_iff_eq] at hm
      rcases hm with rfl | rfl | rfl | rfl | rfl | rfl <;> exact absurd ha (by decide)
  have hw : SqlMapper.isWord s = true := by
    unfold SqlMapper.isWord
    rw [List.isEmpty_eq_false_iff.2 hs, Bool.not_false, Bool.true_and, List.all_eq_true]
    intro c hc
    rw [hd c hc, Bool.not_false]
  unfold of?
  rw [dif_pos hw]
  rfl

theorem nonempty (f : FunctionName) : f.text.toList ≠ [] := by
  have h := (Bool.and_eq_true_iff.1 f.isWord).1
  rintro he
  rw [he] at h
  cases h

theorem unmarked (f : FunctionName) {c : Char} (hc : c ∈ f.text.toList) : isDelimiter c = false := by
  have h := List.all_eq_true.1 (Bool.and_eq_true_iff.1 f.isWord).2 c hc
  rwa [Bool.not_eq_true'] at h

end FunctionName

/-- The written name of a column: names in backticks with dots between them. -/
structure WrittenName where
  qualifiers : List String
  name : String
deriving DecidableEq

/-- An expression without the contents of its literals. -/
inductive Outline where
  | hole
  | column (written : WrittenName)
  | call (function : FunctionName) (distinct : Bool) (args : List Outline)
  | binary (op : BinaryOp) (lhs rhs : Outline)
  | unary (op : UnaryOp) (arg : Outline)
  | between (negated : Bool) (operand low high : Outline)

/-- The written name of a column. -/
def Column.writtenName (c : Column) (qualify : Bool) : WrittenName :=
  ⟨if qualify then c.table.db.toList ++ [c.table.name] else [], c.name⟩

/-- The test that an operator makes of an operand beside `NULL`. -/
def BinaryOp.nullTest : BinaryOp → UnaryOp
  | .isNot => .isNotNull
  | _ => .isNull

mutual

/-- The outline of an expression of columns, literals, operators and function calls. Lists stand directly in membership
tests only. -/
def Expr.outline? (qualify : Bool) : Expr → Option Outline
  | .column c => some (.column (c.writtenName qualify))
  | .call function distinct args => do
    return .call (← FunctionName.of? function) distinct (← Operand.outlines? qualify args)
  | .binary op lhs rhs =>
    if op.isNullTest && rhs.isNull then (Operand.outline? qualify false lhs).map (.unary op.nullTest)
    else do return .binary op (← Operand.outline? qualify false lhs) (← Operand.outline? qualify op.isMembership rhs)
  | .unary op arg => (Operand.outline? qualify false arg).map (.unary op)
  | .between negated operand low high => do
    return .between negated (← Operand.outline? qualify false operand) (← Operand.outline? qualify false low)
      (← Operand.outline? qualify false high)
  | .raw _ | .ordered .. | .aliased .. | .select _ => none

/-- The outline of an operand that may be a list or not. -/
def Operand.outline? (qualify mayBeList : Bool) : Operand → Option Outline
  | .value v => if v.isList && !mayBeList then none else some .hole
  | .expr e => Expr.outline? qualify e
  | .raw _ => none

def Operand.outlines? (qualify : Bool) : List Operand → Option (List Outline)
  | [] => some []
  | a :: rest => do return (← Operand.outline? qualify false a) :: (← Operand.outlines? qualify rest)

end

/-! ## Texts of outlines -/

/-- What stands beside the operands inside a pair of parentheses: words in front of the first operand, or what comes
between it and the next or behind the last one. -/
inductive Keyword where
  | plain
  | negative
  | not
  | exists
  | notExists
  | close
  | isNull
  | isNotNull
  | operator (op : BinaryOp)
  | between (negated : Bool)
deriving DecidableEq

namespace Keyword

/-- The text of a keyword. What closes the parenthesis belongs to it. -/
def chars : Keyword → List Char
  | .plain => []
  | .negative => "-".toList
  | .not => "NOT ".toList
  | .exists => "EXISTS ".toList
  | .notExists => "NOT EXISTS ".toList
  | .close => ")".toList
  | .isNull => " IS NULL)".toList
  | .isNotNull => " IS NOT NULL)".toList
  | .operator op => (" " ++ op.symbol ++ " ").toList
  | .between negated => (if negated then " NOT BETWEEN " else " BETWEEN ").toList

/-- An operand follows the keyword. -/
def isOpen : Keyword → Bool
  | .close | .isNull | .isNotNull => false
  | _ => true

/-- The keyword stands behind an operand. -/
def follows : Keyword → Bool
  | .plain | .negative | .not | .exists | .notExists => false
  | _ => true

end Keyword

/-- The keyword in front of the operand of an operator. -/
def UnaryOp.opening : UnaryOp → Keyword
  | .negative => .negative
  | .not => .not
  | .exists => .exists
  | .notExists => .notExists
  | .isNull | .isNotNull => .plain

/-- The keyword behind the operand of an operator. -/
def UnaryOp.closing : UnaryOp → Keyword
  | .isNull => .isNull
  | .isNotNull => .isNotNull
  | _ => .close

/-- The text of an identifier behind its first backtick. -/
def quotedChars (s : String) : List Char := s.toList.flatMap Literal.escapeIdentifier ++ ['\x60']

/-- The text of a written name. -/
def WrittenName.chars (w : WrittenName) : List Char :=
  w.qualifiers.flatMap (fun q => '\x60' :: (quotedChars q ++ ['.'])) ++ '\x60' :: quotedChars w.name

mutual

/-- The text of an outline. -/
def Outline.chars : Outline → List Char
  | .hole => "%s".toList
  | .column w => w.chars
  | .call f distinct args =>
    f.text.toList ++ '(' :: ((if distinct then "DISTINCT " else "").toList ++ Outline.argChars args)
  | .binary op lhs rhs =>
    '(' :: (lhs.chars ++ ((Keyword.operator op).chars ++ (rhs.chars ++ Keyword.close.chars)))
  | .unary op arg => '(' :: (op.opening.chars ++ (arg.chars ++ op.closing.chars))
  | .between negated operand low high =>
    '(' :: (operand.chars ++ ((Keyword.between negated).chars ++ (low.chars ++
      ((Keyword.operator .and).chars ++ (high.chars ++ Keyword.close.chars)))))

/-- The text of some arguments with the parenthesis that closes them. -/
def Outline.argChars : List Outline → List Char
  | [] => [')']
  | t :: ts => t.chars ++ Outline.moreArgChars ts

/-- The text of the arguments behind another. -/
def Outline.moreArgChars : List Outline → List Char
  | [] => [')']
  | t :: ts => ", ".toList ++ (t.chars ++ Outline.moreArgChars ts)

end

/-! ## Texts of expressions -/

/-- Where the piece does not fail, this is its text. -/
def Piece.Writes (p : Piece) (cs : List Char) : Prop := p.failure = none → p.text.toList = cs

namespace Piece

variable {a b p : Piece} {cs ds : List Char}

theorem writes_ofText (s : String) : (ofText s).Writes s.toList := fun _ => rfl

theorem Writes.append (ha : a.Writes cs) (hb : b.Writes ds) : (a ++ b).Writes (cs ++ ds) := by
  intro h
  obtain ⟨h₁, h₂⟩ := append_failure_eq_none.1 h
  rw [append_text h, String.toList_append, ha h₁, hb h₂]

theorem Writes.inParens (h : p.Writes cs) : p.inParens.Writes ('(' :: (cs ++ Keyword.close.chars)) := by
  intro hf
  rw [inParens_text, String.toList_append, String.toList_append, h hf]
  rfl

theorem Writes.congr (h : p.Writes cs) (e : cs = ds) : p.Writes ds := e ▸ h

end Piece

theorem Literal.toList_identifier (s : String) : (Literal.identifier s).toList = '\x60' :: quotedChars s := by
  rw [Literal.identifier, String.toList_ofList, quotedChars, List.cons_append]

/-- The written name is what is written. -/
theorem Column.toList_written (c : Column) (qualify : Bool) :
    (c.written qualify).toList = (c.writtenName qualify).chars := by
  unfold Column.written Column.writtenName WrittenName.chars
  rw [String.toList_append, Literal.toList_identifier]
  cases qualify with
  | false => rfl
  | true =>
    cases hdb : c.table.db with
    | none => simp [TableRef.text, hdb, Literal.toList_identifier]
    | some db => simp [TableRef.text, hdb, Literal.toList_identifier]

mutual

/-- **An expression is written as its outline**, in a scope that binds values. -/
theorem Expr.piece_writes : ∀ {o : Options} {e : Expr} {t : Outline}, o.bind = true → e.outline? o.qualify = some t →
    (e.piece o).Writes t.chars
  | o, .column c, _, _, h => by
    cases h
    exact Writes.congr (writes_ofText _) (c.toList_written o.qualify)
  | o, .call f distinct _, _, hb, h => by
    simp only [Expr.outline?, Option.bind_eq_bind, Option.bind_eq_some_iff, Option.pure_def, Option.some.injEq] at h
    obtain ⟨name, hname, ts, hts, rfl⟩ := h
    obtain ⟨cs, hcs, hclosed⟩ := Operand.pieces_write (o := { o with converter := none }) hb hts
    rw [Expr.piece]
    refine Writes.congr (Writes.append (Writes.append (writes_ofText _) hcs) (writes_ofText _)) ?_
    rw [Outline.chars, FunctionName.text_of? hname, List.append_assoc]
    show _ ++ (cs ++ Keyword.close.chars) = _
    rw [hclosed, String.toList_append, String.toList_append]
    simp
  | _, .binary op lhs rhs, _, hb, h => by
    rw [Expr.outline?] at h
    rw [Expr.piece]
    cases hnull : op.isNullTest && rhs.isNull with
    | true =>
      rw [if_pos hnull] at h
      obtain ⟨x, hx, rfl⟩ := Option.map_eq_some_iff.1 h
      refine Writes.congr (Writes.inParens (Writes.append (Writes.append (Operand.piece_writes hb hx nofun)
        (writes_ofText _)) (?_ : Piece.Writes _ "NULL".toList))) ?_
      · cases op with
        | isOp | isNot => exact writes_ofText _
        | _ => cases hnull
      · rw [Outline.chars, List.append_assoc, List.append_assoc]
        cases op with
        | isOp | isNot => rfl
        | _ => cases hnull
    | false =>
      rw [if_neg (by simp [hnull])] at h
      simp only [Option.bind_eq_bind, Option.bind_eq_some_iff, Option.pure_def, Option.some.injEq] at h
      obtain ⟨x, hx, y, hy, rfl⟩ := h
      refine Writes.congr (Writes.inParens (Writes.append (Writes.append (Operand.piece_writes hb hx nofun)
        (writes_ofText _)) (?_ : Piece.Writes _ y.chars))) ?_
      · cases hop : op.isMembership with
        | true => exact Operand.piece_writes hb hy (fun _ => rfl)
        | false => exact Operand.piece_writes hb hy (fun h => nomatch hop.symm.trans h)
      · rw [Outline.chars, List.append_assoc, List.append_assoc]
        rfl
  | _, .unary op _, _, hb, h => by
    obtain ⟨x, hx, rfl⟩ := Option.map_eq_some_iff.1 h
    rw [Outline.chars]
    cases op with
    | negative | not | «exists» | notExists =>
      rw [Expr.piece]
      exact Writes.congr (Writes.inParens (Writes.append (writes_ofText _) (Operand.piece_writes hb hx nofun)))
        (by rw [List.append_assoc]; rfl)
    | isNull | isNotNull =>
      rw [Expr.piece]
      exact Writes.congr (Writes.inParens (Writes.append (Operand.piece_writes hb hx nofun) (writes_ofText _)))
        (by rw [List.append_assoc]; rfl)
  | _, .between negated _ _ _, _, hb, h => by
    simp only [Expr.outline?, Option.bind_eq_bind, Option.bind_eq_some_iff, Option.pure_def, Option.some.injEq] at h
    obtain ⟨x, hx, low, hlow, high, hhigh, rfl⟩ := h
    rw [Expr.piece]
    refine Writes.congr (Writes.inParens (Writes.append (Writes.append (Writes.append (Writes.append
      (Operand.piece_writes hb hx nofun) (writes_ofText _)) (Operand.piece_writes hb hlow nofun)) (writes_ofText _))
      (Operand.piece_writes hb hhigh nofun))) ?_
    rw [Outline.chars]
    simp only [List.append_assoc]
    rfl

theorem Operand.piece_writes : ∀ {o : Options} {a : Operand} {mayBeList : Bool} {t : Outline}, o.bind = true →
    Operand.outline? o.qualify mayBeList a = some t → (mayBeList = true → o.nested = true) →
      (Operand.piece o a).Writes t.chars
  | o, .value v, mayBeList, _, hb, h, hn => by
    rw [Operand.outline?] at h
    split at h
    · cases h
    · rename_i hv
      cases h
      intro hf
      have hsingle : o.nested = true ∨ v.itemCount? = none := by
        cases mayBeList with
        | true => exact .inl (hn rfl)
        | false => cases v <;> first | exact .inr rfl | exact absurd rfl hv
      obtain ⟨w, hw⟩ := Options.value_of_single hb hsingle hf
      rw [Operand.piece, hw]
      rfl
  | _, .expr _, _, _, hb, h, _ => Expr.piece_writes hb h

theorem Operand.pieces_write : ∀ {o : Options} {args : List Operand} {ts : List Outline}, o.bind = true →
    Operand.outlines? o.qualify args = some ts →
      ∃ cs, (separated (Operand.pieces o args)).Writes cs ∧ cs ++ Keyword.close.chars = Outline.argChars ts
  | _, [], _, _, h => by
    cases h
    exact ⟨[], writes_ofText _, rfl⟩
  | _, [a], _, hb, h => by
    simp only [Operand.outlines?, Option.bind_eq_bind, Option.bind_eq_some_iff, Option.pure_def, Option.some.injEq] at h
    obtain ⟨x, hx, _, rfl, rfl⟩ := h
    refine ⟨x.chars, Operand.piece_writes hb hx nofun, rfl⟩
  | _, a :: b :: rest, _, hb, h => by
    rw [Operand.outlines?] at h
    simp only [Option.bind_eq_bind, Option.bind_eq_some_iff, Option.pure_def, Option.some.injEq] at h
    obtain ⟨x, hx, xs, hxs, rfl⟩ := h
    obtain ⟨cs, hcs, hclosed⟩ := Operand.pieces_write hb hxs
    have hwrites := Writes.append (Writes.append (Operand.piece_writes hb hx nofun) (writes_ofText ", ")) hcs
    refine ⟨_, hwrites, ?_⟩
    simp only [Operand.outlines?, Option.bind_eq_bind, Option.bind_eq_some_iff, Option.pure_def,
      Option.some.injEq] at hxs
    obtain ⟨y, -, ys, -, rfl⟩ := hxs
    rw [List.append_assoc, List.append_assoc, hclosed]
    rfl

end

end SqlMapper
