import SqlMapper.Expression.Build
import SqlMapper.Proofs.Connection.Placeholder
import SqlMapper.Proofs.Field.RoundTrip
import SqlMapper.Proofs.Rendering.Grouping
import SqlMapper.Proofs.Sample

/-!
# What membership tests mean to the server

The server reads a membership test in one way (`MembershipTest.chars_inj`), and decides it by three truth values: a
list with `NULL` in it leaves open what is not found. A list of values becomes as many marks, and the test for it means
what it says (`MembershipTest.truth_of`). An empty list becomes a list of `NULL` alone: nothing is in it, but nothing is
known to be outside of it either.
-/

namespace SqlMapper

/-! ## Membership tests -/

/-- An item of a list in a statement for the server. -/
inductive ListItem where
  | null
  /-- The next bound value. -/
  | mark
deriving DecidableEq

namespace ListItem

def chars : ListItem → List Char
  | null => "NULL".toList
  | mark => ['?']

/-- The text of items behind another, with the parentheses that close the list and the test. -/
def moreChars : List ListItem → List Char
  | [] => "))".toList
  | i :: is => ", ".toList ++ (i.chars ++ moreChars is)

/-- The values of items, where the marks take the bound values in order. -/
def values : List ListItem → List Value → List Value
  | [], _ => []
  | null :: is, bound => .null :: values is bound
  | mark :: is, v :: bound => v :: values is bound
  | mark :: is, [] => values is []

theorem values_marks : ∀ ws : List Value, values (ws.map fun _ => mark) ws = ws
  | [] => rfl
  | w :: ws => congrArg (w :: ·) (values_marks ws)

theorem chars_append_inj {i j : ListItem} {r r' : List Char} (h : i.chars ++ r = j.chars ++ r') : i = j ∧ r = r' := by
  cases i <;> cases j
  · exact ⟨rfl, List.append_cancel_left h⟩
  · cases (List.cons.inj h).1
  · cases (List.cons.inj h).1
  · exact ⟨rfl, List.append_cancel_left h⟩

theorem moreChars_inj : ∀ {is js : List ListItem}, moreChars is = moreChars js → is = js
  | [], [], _ => rfl
  | [], _ :: _, h => by cases (List.cons.inj h).1
  | _ :: _, [], h => by cases (List.cons.inj h).1
  | _ :: _, _ :: _, h => by
    obtain ⟨rfl, hrest⟩ := chars_append_inj (List.append_cancel_left h)
    rw [moreChars_inj hrest]

end ListItem

/-- A membership test of a column, as the server reads it. The list has an item. -/
structure MembershipTest where
  column : WrittenName
  negated : Bool
  first : ListItem
  others : List ListItem

/-- Membership by three truth values, none if it is not known: it is known of no value whether it is `NULL`. -/
def membership (equals : Value → Value → Bool) (x : Value) (ws : List Value) : Option Bool :=
  if x.isNull then none
  else if ws.any fun w => !w.isNull && equals x w then some true
  else if ws.any Value.isNull then none
  else some false

/-- Among values that are there, membership is known. -/
theorem membership_of_not_null {equals : Value → Value → Bool} {x : Value} {ws : List Value} (hx : x.isNull = false)
    (hws : ∀ w ∈ ws, w.isNull = false) : membership equals x ws = some (ws.any (equals x)) := by
  have hfound : (ws.any fun w => !w.isNull && equals x w) = ws.any (equals x) := by
    rw [Bool.eq_iff_iff, List.any_eq_true, List.any_eq_true]
    exact exists_congr fun w => and_congr_right fun hw => by simp [hws w hw]
  have hnull : ws.any Value.isNull = false := List.any_eq_false.2 fun w hw => by simp [hws w hw]
  unfold membership
  rw [hx, hfound, hnull]
  cases ws.any (equals x) <;> rfl

namespace MembershipTest

/-- The keyword between the column and the list. -/
def keyword (negated : Bool) : String := if negated then " NOT IN " else " IN "

/-- The text of the test. -/
def chars (t : MembershipTest) : List Char :=
  '(' :: (t.column.chars ++ ((keyword t.negated).toList ++ '(' :: (t.first.chars ++ ListItem.moreChars t.others)))

/-- What the test comes to for a value of the column, where the marks take the bound values. -/
def truth (t : MembershipTest) (equals : Value → Value → Bool) (x : Value) (bound : List Value) : Option Bool :=
  (membership equals x (ListItem.values (t.first :: t.others) bound)).map fun b => if t.negated then !b else b

theorem keyword_append_inj {b b' : Bool} {r r' : List Char}
    (h : (keyword b).toList ++ r = (keyword b').toList ++ r') : b = b' ∧ r = r' := by
  cases b <;> cases b'
  · exact ⟨rfl, List.append_cancel_left h⟩
  · simp [keyword] at h
  · simp [keyword] at h
  · exact ⟨rfl, List.append_cancel_left h⟩

theorem endsName_keyword (b : Bool) (r : List Char) : EndsName ((keyword b).toList ++ r) := by
  cases b <;> exact endsName_cons (by decide) (by decide) _

/-- The text of a membership test is read in one way. -/
theorem chars_inj : ∀ {t u : MembershipTest}, t.chars = u.chars → t = u
  | ⟨⟨_, _⟩, _, _, _⟩, ⟨⟨_, _⟩, _, _, _⟩, h => by
    obtain ⟨hcolumn, hrest⟩ := WrittenName.chars_append_inj (endsName_keyword _ _) (endsName_keyword _ _)
      (List.cons.inj h).2
    obtain ⟨hnegated, hlist⟩ := keyword_append_inj hrest
    obtain ⟨hfirst, hothers⟩ := ListItem.chars_append_inj (List.cons.inj hlist).2
    rw [MembershipTest.mk.injEq]
    exact ⟨hcolumn, hnegated, hfirst, ListItem.moreChars_inj hothers⟩

/-- The test that a list of values becomes. -/
def ofList (column : WrittenName) (negated : Bool) : List Value → MembershipTest
  | [] => ⟨column, negated, .null, []⟩
  | _ :: ws => ⟨column, negated, .mark, ws.map fun _ => .mark⟩

theorem moreChars_marks : ∀ ws : List Value, ListItem.moreChars (ws.map fun _ => .mark) =
    ws.flatMap (fun _ => ", ?".toList) ++ "))".toList
  | [] => rfl
  | w :: ws => by
    rw [List.map_cons, ListItem.moreChars, moreChars_marks ws]
    rfl

theorem toList_marks : ∀ (w : Value) (ws : List Value),
    (String.intercalate ", " ((w :: ws).map fun _ => "?")).toList = '?' :: ws.flatMap fun _ => ", ?".toList
  | _, [] => by simp
  | _, w :: ws => by
    have ih := toList_marks w ws
    rw [List.map_cons] at ih
    rw [List.map_cons, List.map_cons, String.intercalate_cons_cons, String.toList_append, String.toList_append, ih]
    rfl

/-- The marks of a list stand in its parentheses. -/
theorem chars_ofList (column : WrittenName) (negated : Bool) (ws : List Value) : (ofList column negated ws).chars =
    '(' :: (column.chars ++ ((keyword negated).toList ++ ((Placeholder.marks (.list ws)).toList ++ [')']))) := by
  cases ws with
  | nil => rfl
  | cons w ws =>
    have hmarks : Placeholder.marks (.list (w :: ws)) =
      "(" ++ String.intercalate ", " ((w :: ws).map fun _ => "?") ++ ")" := rfl
    rw [hmarks, String.toList_append, String.toList_append, toList_marks]
    show '(' :: (column.chars ++ ((keyword negated).toList ++
      '(' :: '?' :: ListItem.moreChars (ws.map fun _ => .mark))) = _
    rw [moreChars_marks]
    simp

/-- The test for a list of values decides membership among them. The test for an empty list decides nothing. -/
theorem truth_ofList {column : WrittenName} {negated : Bool} {ws : List Value} {equals : Value → Value → Bool}
    {x : Value} (hx : x.isNull = false) (hws : ∀ w ∈ ws, w.isNull = false) : (ofList column negated ws).truth equals x ws =
      if ws = [] then none else some (if negated then !ws.any (equals x) else ws.any (equals x)) := by
  cases ws with
  | nil => simp [ofList, truth, ListItem.values, membership, Value.isNull]
  | cons w ws =>
    have hvalues : ListItem.values (.mark :: ws.map fun _ => .mark) (w :: ws) = w :: ws :=
      ListItem.values_marks (w :: ws)
    unfold ofList truth
    rw [hvalues, membership_of_not_null hx hws, if_neg (List.cons_ne_nil _ _)]
    rfl

theorem truth_ofList_eq_true {column : WrittenName} {negated : Bool} {ws : List Value} {equals : Value → Value → Bool}
    {x : Value} (hx : x.isNull = false) (hws : ∀ w ∈ ws, w.isNull = false) :
    (ofList column negated ws).truth equals x ws = some true ↔
      if negated then ws ≠ [] ∧ ∀ w ∈ ws, equals x w = false else ∃ w ∈ ws, equals x w = true := by
  rw [truth_ofList hx hws]
  cases negated <;> cases ws <;> simp

end MembershipTest

/-! ## Texts for the server -/

open Placeholder

/-- A name in backticks that has no mark in it stands for itself. -/
theorem Column.plain_written {c : Column} {qualify : Bool} (hpercent : ¬ ['%', '%'] <:+: (c.written qualify).toList)
    (hmark : ¬ ['%', 's'] <:+: (c.written qualify).toList) : Plain (c.written qualify).toList := by
  refine plain_of_unmarked hpercent hmark ?_
  rw [c.toList_written, WrittenName.chars, quotedChars, ← List.cons_append, ← List.append_assoc, List.getLast?_concat]
  decide

/-- The written test of a column that has a list for its parameter. -/
def Column.membershipText (c : Column) (qualify negated : Bool) : String :=
  "(" ++ (c.written qualify ++ MembershipTest.keyword negated ++ "%s") ++ ")"

/-- The membership test of a column, written for a list that the column takes. -/
theorem Expr.membership_piece {c : Column} {o : Options} (negated : Bool) (hb : o.bind = true) {items ws : List Value}
    (hws : c.field.toWire (.list items) = .ok (.list ws)) :
    ((Expr.column c).withOp (if negated then .notIn else .inOp) (.value (.list items))).piece o =
      ⟨c.membershipText o.qualify negated, [.list ws], none⟩ := by
  have hconverted : Options.converted { o with parenthesize := false, converter := some c.field, nested := true }
      (.list items) = .ok (.list ws) := hws
  have hvalue : Options.value { o with parenthesize := false, converter := some c.field, nested := true }
      (.list items) = Piece.placeholder (.list ws) :=
    (Options.value_of_ok hconverted).trans (Options.placed_of_single hb (.inl rfl))
  have hpiece : ((Expr.column c).withOp (if negated then .notIn else .inOp) (.value (.list items))).piece o =
      (Piece.ofText (c.written o.qualify) ++ Piece.ofText (MembershipTest.keyword negated) ++
        Options.value { o with parenthesize := false, converter := some c.field, nested := true }
          (.list items)).inParens := by
    cases negated <;>
    · rw [Expr.withOp, Expr.piece]
      rfl
  rw [hpiece, hvalue]
  rfl

section Text

variable {c : Column} {qualify : Bool} (negated : Bool)

/-- The list of a membership test is a parameter, and all else stands for itself. -/
theorem tokens_membershipText (hname : Plain (c.written qualify).toList) (rest : List Char) :
    tokens ((c.membershipText qualify negated).toList ++ rest) =
      ('(' :: ((c.written qualify).toList ++ (MembershipTest.keyword negated).toList)).map .char ++
        (.parameter :: .char ')' :: tokens rest) := by
  have hopen : Plain ['('] := plain_of_no_percent (by decide)
  have hkeyword : Plain (MembershipTest.keyword negated).toList := plain_of_no_percent (by cases negated <;> decide)
  have hfront := (hopen.append hname).append hkeyword ("%s)".toList ++ rest)
  have hback : tokens ("%s)".toList ++ rest) = .parameter :: .char ')' :: tokens rest := by
    show tokens ('%' :: 's' :: ')' :: rest) = _
    rw [tokens_mark, tokens_cons (by decide)]
  rw [hback] at hfront
  simpa [Column.membershipText, String.toList_append] using hfront

theorem marked_membershipText_append (hname : Plain (c.written qualify).toList) (rest : List Char) :
    marked ((c.membershipText qualify negated).toList ++ rest) = marked rest + 1 := by
  rw [marked, tokens_membershipText negated hname, List.count_append, marked,
    List.count_eq_zero.2 (by simp : Token.parameter ∉ _), List.count_cons_self,
    List.count_cons_of_ne (by decide), Nat.zero_add]

/-- A membership test becomes the test for its list. -/
theorem placed_membershipText_append (hname : Plain (c.written qualify).toList) (rest : List Char)
    (ws params : List Value) :
    placed (tokens ((c.membershipText qualify negated).toList ++ rest)) (.list ws :: params) =
      (MembershipTest.ofList (c.writtenName qualify) negated ws).chars ++ placed (tokens rest) params := by
  rw [tokens_membershipText negated hname, placed_chars, placed, placed, MembershipTest.chars_ofList, c.toList_written]
  simp

end Text

/-- **Membership keeps its meaning**, but for the absence from an empty list. Whatever stands around it, a membership
test of a column and a list without `NULL` reaches the server as one membership test, with the converted items bound to
its marks. For a value of the column that is not `NULL` it is true exactly if the value is one of these items, or if it
is none of them and there are any. -/
theorem membership_of_bind {c : Column} {o : Options} {negated : Bool} {items ws : List Value} {before after : String}
    {ps qs : List Value} (hb : o.bind = true) (hpercent : ¬ ['%', '%'] <:+: (c.written o.qualify).toList)
    (hmark : ¬ ['%', 's'] <:+: (c.written o.qualify).toList) (hitems : ∀ v ∈ items, v.isNull = false)
    (hws : c.field.toWire (.list items) = .ok (.list ws)) (hbefore : Marks before ps.length)
    (hafter : marked after.toList = qs.length) :
    ∃ (e : Expr) (t : MembershipTest) (before' after' : String),
      (if negated then (Expr.column c).isNotIn (.value (.list items)) else (Expr.column c).isIn (.value (.list items))) =
        .ok e ∧
      (e.piece o).failure = none ∧
      Placeholder.bind before ps = .ok (before', ps.flatMap values) ∧
      Placeholder.bind after qs = .ok (after', qs.flatMap values) ∧
      Placeholder.bind (before ++ (e.piece o).text ++ after) (ps ++ (e.piece o).params ++ qs) =
        .ok (before' ++ String.ofList t.chars ++ after', ps.flatMap values ++ ws ++ qs.flatMap values) ∧
      t.column = c.writtenName o.qualify ∧ (∀ u : MembershipTest, u.chars = t.chars → u = t) ∧
      ∀ (equals : Value → Value → Bool) (x : Value), x.isNull = false →
        (t.truth equals x ws = some true ↔
          if negated then ws ≠ [] ∧ ∀ w ∈ ws, equals x w = false else ∃ w ∈ ws, equals x w = true) := by
  have hname := Column.plain_written hpercent hmark
  have hpiece := Expr.membership_piece negated hb hws
  have hnull : ∀ w ∈ ws, w.isNull = false := by
    rw [Field.toWire] at hws
    obtain ⟨ws', hws', h⟩ := Field.map_eq_ok hws
    cases h
    exact Field.toWireAll_isNull hws' hitems
  refine ⟨(Expr.column c).withOp (if negated then .notIn else .inOp) (.value (.list items)),
    .ofList (c.writtenName o.qualify) negated ws, .ofList (placed (tokens before.toList) ps),
    .ofList (placed (tokens after.toList) qs), ?_, ?_, bind_eq_ok hbefore.2, bind_eq_ok hafter, ?_, ?_, ?_, ?_⟩
  · cases negated <;> rfl
  · rw [hpiece]
  · have hmarked : marked (before ++ c.membershipText o.qualify negated ++ after).toList =
        (ps ++ [Value.list ws] ++ qs).length := by
      rw [String.toList_append, String.toList_append, List.append_assoc, hbefore.1.marked_append, hbefore.2,
        marked_membershipText_append negated hname, hafter]
      simp
    have hplaced : placed (tokens (before ++ c.membershipText o.qualify negated ++ after).toList)
        (ps ++ [.list ws] ++ qs) = placed (tokens before.toList) ps ++
          ((MembershipTest.ofList (c.writtenName o.qualify) negated ws).chars ++ placed (tokens after.toList) qs) := by
      rw [String.toList_append, String.toList_append, List.append_assoc, hbefore.1, List.append_assoc,
        placed_append hbefore.2, List.singleton_append, placed_membershipText_append negated hname]
    rw [hpiece]
    refine (bind_eq_ok hmarked).trans ?_
    rw [hplaced, String.ofList_append, String.ofList_append, String.append_assoc, List.flatMap_append,
      List.flatMap_append, List.flatMap_singleton]
    rfl
  · cases ws <;> rfl
  · exact fun u hu => MembershipTest.chars_inj hu
  · exact fun equals x hx => MembershipTest.truth_ofList_eq_true hx hnull

/-- The number of a person. -/
def Sample.personId : Column := ⟨person.ref, "id", named "id" .auto⟩

theorem membership_of_bind_personId :
    (∀ v ∈ [Value.int 1, .text "2"], v.isNull = false) ∧
    Sample.personId.field.toWire (.list [.int 1, .text "2"]) = .ok (.list [.int 1, .int 2]) ∧
    Marks "DELETE FROM `person` WHERE (`age` > %s) AND " 1 ∧
    ∃ (e : Expr) (t : MembershipTest) (before' after' : String),
      (Expr.column Sample.personId).isNotIn (.value (.list [.int 1, .text "2"])) = .ok e ∧
      Placeholder.bind ("DELETE FROM `person` WHERE (`age` > %s) AND " ++ (e.piece {}).text ++ ";")
          ([.int 30] ++ (e.piece {}).params ++ []) =
        .ok (before' ++ String.ofList t.chars ++ after', [.int 30, .int 1, .int 2]) ∧
      ∀ (equals : Value → Value → Bool) (x : Value), x.isNull = false →
        (t.truth equals x [.int 1, .int 2] = some true ↔ equals x (.int 1) = false ∧ equals x (.int 2) = false) := by
  have hitems : ∀ v ∈ [Value.int 1, .text "2"], v.isNull = false := by decide
  have hws : Sample.personId.field.toWire (.list [.int 1, .text "2"]) = .ok (.list [.int 1, .int 2]) := rfl
  have hmarks : Marks "DELETE FROM `person` WHERE (`age` > %s) AND " 1 := by
    have hbefore : "DELETE FROM `person` WHERE (`age` > %s) AND " =
        "DELETE FROM `person` WHERE (`age` > " ++ "%s" ++ ") AND " := by decide +kernel
    rw [hbefore]
    exact ((marks_zero_of_no_percent (by decide)).zero_append marks_placeholder).append_zero
      (marks_zero_of_no_percent (by decide))
  obtain ⟨e, t, before', after', he, -, -, -, hsql, -, -, ht⟩ := @membership_of_bind Sample.personId {} true
    [.int 1, .text "2"] [.int 1, .int 2] _ ";" [.int 30] [] rfl (by decide +kernel) (by decide +kernel) hitems hws
    hmarks (by decide +kernel)
  refine ⟨hitems, hws, hmarks, e, t, before', after', he, hsql, fun equals x hx => (ht equals x hx).trans ?_⟩
  simp

/-- A number is no item of an empty list, but the server does not find it absent. -/
theorem not_absent_from_empty : ∃ (e : Expr) (t : MembershipTest),
    (Expr.column Sample.personId).isNotIn (.value (.list [])) = .ok e ∧
    Placeholder.bind (e.piece {}).text (e.piece {}).params = .ok (String.ofList t.chars, []) ∧
    (∀ u : MembershipTest, u.chars = t.chars → u = t) ∧
    ∀ equals : Value → Value → Bool, (∀ w ∈ ([] : List Value), equals (.int 1) w = false) ∧
      t.truth equals (.int 1) [] ≠ some true := by
  refine ⟨(Expr.column Sample.personId).withOp .notIn (.value (.list [])), ⟨⟨[], "id"⟩, true, .null, []⟩, rfl, ?_,
    fun u hu => MembershipTest.chars_inj hu, fun equals => ?_⟩
  · rfl
  · exact ⟨fun _ hw => absurd hw List.not_mem_nil, nofun⟩

end SqlMapper
