import Mathlib.Data.List.Infix
import SqlMapper.Proofs.Rendering.Options
import SqlMapper.Proofs.Sample
import SqlMapper.Rendering.Expression

/-!
# What pattern matches mean to the server

A search pattern consists of fixed characters and wild cards (`SearchPattern.parts`), and admits the texts that are made
of such parts (`SearchPattern.admits`). An escaped text is a run of fixed characters, whatever is in it
(`parts_escapePattern_append`), so a search for a fragment binds one pattern, which admits the texts that contain the
fragment, begin with it or end with it.
-/

namespace SqlMapper

/-! ## Search patterns -/

/-- A part of a search pattern. -/
inductive PatternPart where
  /-- Any run of characters. -/
  | run
  /-- Any one character. -/
  | any
  | char (c : Char)
deriving DecidableEq, Repr

namespace SearchPattern

/-- The parts of a pattern. The character behind a backslash is fixed, and a backslash at the end stands for itself. -/
def parts : List Char → List PatternPart
  | '%' :: p => .run :: parts p
  | '_' :: p => .any :: parts p
  | '\x5c' :: c :: p => .char c :: parts p
  | c :: p => .char c :: parts p
  | [] => []

/-- A text is made of the parts. -/
def admits : List PatternPart → List Char → Bool
  | [], t => t.isEmpty
  | .run :: ps, t => t.tails.any (admits ps)
  | .any :: ps, t =>
    match t with
    | _ :: t => admits ps t
    | [] => false
  | .char c :: ps, t =>
    match t with
    | d :: t => d = c && admits ps t
    | [] => false

variable {ps : List PatternPart} {s t : List Char}

/-- A wild card for a run leaves the other parts any end of the text. -/
theorem admits_run_iff : admits (.run :: ps) t = true ↔ ∃ u, u <:+ t ∧ admits ps u = true := by
  rw [admits, List.any_eq_true]
  exact exists_congr fun u => and_congr_left' (List.mem_tails u t)

theorem admits_run : admits [.run] t = true := admits_run_iff.2 ⟨[], List.nil_suffix, rfl⟩

/-- Fixed characters stand at the front of the text. -/
theorem admits_fixed_iff : admits (s.map .char ++ ps) t = true ↔ ∃ u, s ++ u = t ∧ admits ps u = true := by
  induction s generalizing t with
  | nil => simp
  | cons c s ih =>
    cases t with
    | nil => simp [admits]
    | cons d t =>
      rw [List.map_cons, List.cons_append, admits, Bool.and_eq_true, decide_eq_true_iff, ih]
      constructor
      · rintro ⟨rfl, u, rfl, hu⟩
        exact ⟨u, rfl, hu⟩
      · rintro ⟨u, h, hu⟩
        obtain ⟨rfl, rfl⟩ := List.cons.inj h
        exact ⟨rfl, u, rfl, hu⟩

theorem parts_percent (p : List Char) : parts ('%' :: p) = .run :: parts p := rfl

theorem toList_percent : "%".toList = ['%'] := rfl

/-- A character without meaning in patterns is fixed. -/
theorem parts_cons {c : Char} (h : ¬ (c = '%' ∨ c = '_' ∨ c = '\x5c')) (p : List Char) :
    parts (c :: p) = .char c :: parts p := by
  rw [not_or, not_or] at h
  rw [parts]
  · exact h.1
  · exact h.2.1
  · exact fun _ _ hc => absurd hc h.2.2

/-- An escaped text is a run of fixed characters. -/
theorem parts_escapePattern_append (s : String) (p : List Char) :
    parts ((Literal.escapePattern s).toList ++ p) = s.toList.map .char ++ parts p := by
  rw [Literal.escapePattern, String.toList_ofList]
  induction s.toList with
  | nil => rfl
  | cons c cs ih =>
    rw [List.flatMap_cons, List.append_assoc, List.map_cons, List.cons_append, ← ih]
    split
    · next h =>
      -- a backslash in front of the character takes its meaning
      rfl
    · next h => exact parts_cons h _

/-! ## Fragments -/

/-- The text matches the pattern. -/
def Holds (pattern t : String) : Prop := admits (parts pattern.toList) t.toList = true

instance (pattern t : String) : Decidable (Holds pattern t) := inferInstanceAs (Decidable (_ = true))

theorem holds_infix_iff (s t : String) : Holds ("%" ++ Literal.escapePattern s ++ "%") t ↔ s.toList <:+: t.toList := by
  have hparts : parts ("%" ++ Literal.escapePattern s ++ "%").toList = .run :: (s.toList.map .char ++ [.run]) := by
    rw [String.toList_append, String.toList_append, List.append_assoc, toList_percent, List.singleton_append,
      parts_percent, parts_escapePattern_append, parts_percent, parts]
  rw [Holds, hparts, admits_run_iff]
  constructor
  · rintro ⟨u, ⟨front, hu⟩, hs⟩
    obtain ⟨rest, rfl, -⟩ := admits_fixed_iff.1 hs
    exact ⟨front, rest, by rw [← hu, List.append_assoc]⟩
  · rintro ⟨front, rest, h⟩
    exact ⟨s.toList ++ rest, ⟨front, by rw [← h, List.append_assoc]⟩, admits_fixed_iff.2 ⟨rest, rfl, admits_run⟩⟩

theorem holds_prefix_iff (s t : String) : Holds ("" ++ Literal.escapePattern s ++ "%") t ↔ s.toList <+: t.toList := by
  have hparts : parts ("" ++ Literal.escapePattern s ++ "%").toList = s.toList.map .char ++ [.run] := by
    rw [String.empty_append, String.toList_append, toList_percent, parts_escapePattern_append, parts_percent, parts]
  rw [Holds, hparts, admits_fixed_iff]
  exact exists_congr fun u => and_iff_left admits_run

theorem holds_suffix_iff (s t : String) : Holds ("%" ++ Literal.escapePattern s ++ "") t ↔ s.toList <:+ t.toList := by
  have hparts : parts ("%" ++ Literal.escapePattern s ++ "").toList = .run :: (s.toList.map .char ++ []) := by
    rw [String.append_empty, String.toList_append, ← List.append_nil (Literal.escapePattern s).toList, toList_percent,
      List.singleton_append, parts_percent, parts_escapePattern_append, parts]
  rw [Holds, hparts, admits_run_iff]
  constructor
  · rintro ⟨u, hu, hs⟩
    obtain ⟨rest, rfl, hrest⟩ := admits_fixed_iff.1 hs
    rw [List.isEmpty_iff.1 hrest, List.append_nil] at hu
    exact hu
  · exact fun h => ⟨s.toList, h, admits_fixed_iff.2 ⟨[], List.append_nil _, rfl⟩⟩

end SearchPattern

/-! ## Pattern matches of columns -/

/-- The column holds strings. -/
def FieldKind.isString : FieldKind → Bool
  | char _ | varchar _ | text => true
  | _ => false

/-- A column of strings takes a text as it is. -/
theorem Field.toWire_text {f : Field} (hf : f.kind.isString = true) (s : String) :
    f.toWire (.text s) = .ok (.text s) := by
  rw [toWire, scalarToWire]
  cases hk : f.kind with
  | char | varchar | text => rfl
  | _ => simp [hk, FieldKind.isString] at hf

/-- The pattern match of a column, written for a pattern that is bound. -/
def Column.matchPiece (c : Column) (qualify caseSensitive : Bool) (pattern : String) : Piece :=
  ⟨"(" ++ (c.written qualify ++ (if caseSensitive then " LIKE BINARY " else " LIKE ") ++ "%s") ++ ")",
    [.text pattern], none⟩

theorem Expr.matching_piece {c : Column} {o : Options} (hc : c.field.kind.isString = true) (hb : o.bind = true)
    (caseSensitive : Bool) (before fixed after : String) :
    ((Expr.column c).matching caseSensitive before fixed after).piece o =
      c.matchPiece o.qualify caseSensitive (before ++ Literal.escapePattern fixed ++ after) := by
  have hvalue : Options.value { o with parenthesize := false, converter := some c.field }
      (.text (before ++ Literal.escapePattern fixed ++ after)) =
        .placeholder (.text (before ++ Literal.escapePattern fixed ++ after)) :=
    Options.value_of_toWire hb rfl (Field.toWire_text hc _) rfl
  have hpiece : ((Expr.column c).matching caseSensitive before fixed after).piece o =
      (.ofText (c.written o.qualify) ++ .ofText (if caseSensitive then " LIKE BINARY " else " LIKE ") ++
        Options.value { o with parenthesize := false, converter := some c.field }
          (.text (before ++ Literal.escapePattern fixed ++ after)) : Piece).inParens := by
    cases caseSensitive <;>
    · rw [matching, withOp, piece]
      rfl
  rw [hpiece, hvalue]
  rfl

/-- **A search for a fragment finds the fragment.** For a column of strings, a test whether it contains a fragment,
begins with it or ends with it, with or without regard to case, binds one text. As a pattern it is matched by just the
texts that contain the fragment, begin with it or end with it, whichever characters it has. -/
theorem Expr.binds_fragment {c : Column} {o : Options} (hc : c.field.kind.isString = true) (hb : o.bind = true)
    (caseSensitive : Bool) (fragment : String) :
    (∃ pattern, ((Expr.column c).containing caseSensitive fragment).piece o =
        c.matchPiece o.qualify caseSensitive pattern ∧
      ∀ t, SearchPattern.Holds pattern t ↔ fragment.toList <:+: t.toList) ∧
    (∃ pattern, ((Expr.column c).startingWith caseSensitive fragment).piece o =
        c.matchPiece o.qualify caseSensitive pattern ∧
      ∀ t, SearchPattern.Holds pattern t ↔ fragment.toList <+: t.toList) ∧
    (∃ pattern, ((Expr.column c).endingWith caseSensitive fragment).piece o =
        c.matchPiece o.qualify caseSensitive pattern ∧
      ∀ t, SearchPattern.Holds pattern t ↔ fragment.toList <:+ t.toList) := by
  refine ⟨⟨_, matching_piece hc hb caseSensitive "%" fragment "%", ?_⟩,
    ⟨_, matching_piece hc hb caseSensitive "" fragment "%", ?_⟩,
    ⟨_, matching_piece hc hb caseSensitive "%" fragment "", ?_⟩⟩
  · exact SearchPattern.holds_infix_iff fragment
  · exact SearchPattern.holds_prefix_iff fragment
  · exact SearchPattern.holds_suffix_iff fragment

/-- The name of a person. -/
def Sample.personName : Column := ⟨person.ref, "name", named "name" (.varchar 45)⟩

/-- A fragment with a wild card behind a backslash. -/
theorem binds_fragment_discount : Sample.personName.field.kind.isString = true ∧ ({} : Options).bind = true ∧
    ∃ pattern, ((Expr.column Sample.personName).containing true "50\\%").piece {} =
        ⟨"(`name` LIKE BINARY %s)", [.text pattern], none⟩ ∧
      SearchPattern.Holds pattern "now 50\\% off" ∧ ¬ SearchPattern.Holds pattern "now 50\\ off" ∧
      ¬ SearchPattern.Holds pattern "now 50% off" := by
  have hc : Sample.personName.field.kind.isString = true := rfl
  have hb : ({} : Options).bind = true := rfl
  obtain ⟨⟨pattern, hpiece, hholds⟩, -, -⟩ := Expr.binds_fragment hc hb true "50\\%"
  exact ⟨hc, hb, pattern, hpiece, (hholds _).2 (by decide), mt (hholds _).1 (by decide), mt (hholds _).1 (by decide)⟩

end SqlMapper
