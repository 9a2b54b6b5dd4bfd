import SqlMapper.Proofs.Rendering.Literals
import SqlMapper.Proofs.Rendering.Parameters
import SqlMapper.Proofs.Rendering.Scopes
import SqlMapper.Proofs.Value.Literal

/-!
# Inline values

A scope that binds values and one that writes them as literals give the same statement, up to the places of the values:
the literals stand where the placeholders would (`Operand.writtenUnder_inline`). A literal may look like a placeholder
itself. So the places are counted in the bound text, where only placeholders do, and each of its parts is filled with
its own literals whatever follows it (`Fills`). A moment outside of the calendar can be bound but not written, so that
the inline rendering panics where it comes to one.
-/

namespace SqlMapper

namespace Placeholder

/-! ## Filling placeholders -/

/-- The text with its placeholders replaced by texts, the first by the first. There have to be as many texts as
placeholders. -/
def fill : List Char → List String → Option (List Char)
  | [], [] => some []
  | [], _ :: _ => none
  | '%' :: 's' :: rest, w :: ws => (fill rest ws).map (w.toList ++ ·)
  | '%' :: 's' :: _, [] => none
  | c :: rest, ws => (fill rest ws).map (c :: ·)

/-- The placeholders of a text are filled with some texts, whatever follows. -/
def Fills (s : String) (ws : List String) (filled : String) : Prop :=
  ∀ rest vs, fill (s.toList ++ rest) (ws ++ vs) = (fill rest vs).map (filled.toList ++ ·)

variable {s t filled filled' : String} {ws ws' : List String}

/-- Any other character is kept. -/
theorem fill_cons {c : Char} (hc : c ≠ '%') (rest : List Char) (ws : List String) :
    fill (c :: rest) ws = (fill rest ws).map (c :: ·) := by
  rw [fill]
  · exact fun _ _ _ _ h _ => hc h
  · exact fun _ _ h _ => hc h

theorem Fills.append (h : Fills s ws filled) (h' : Fills t ws' filled') :
    Fills (s ++ t) (ws ++ ws') (filled ++ filled') := by
  intro rest vs
  rw [String.toList_append, String.toList_append, List.append_assoc, List.append_assoc, h, h', Option.map_map]
  congr 1
  funext cs
  exact (List.append_assoc _ _ _).symm

/-- A text that is filled is filled by its own texts alone. -/
theorem Fills.fill_eq (h : Fills s ws filled) : fill s.toList ws = some filled.toList := by
  simpa [fill] using h [] []

theorem fills_placeholder (w : String) : Fills "%s" [w] w := fun _ _ => rfl

/-- There is no placeholder in the text. -/
def Kept (s : String) : Prop := Fills s [] s

theorem Kept.append (h : Kept s) (h' : Kept t) : Kept (s ++ t) := Fills.append h h'

theorem kept_of_no_percent (h : '%' ∉ s.toList) : Kept s := by
  intro rest vs
  rw [List.nil_append]
  generalize s.toList = cs at h
  induction cs with
  | nil => simp
  | cons c cs ih =>
    rw [List.mem_cons, not_or] at h
    rw [List.cons_append, fill_cons (Ne.symm h.1), ih h.2, Option.map_map]
    rfl

/-- The percent sign of the remainder is no placeholder, since a space follows it. -/
theorem kept_remainder : Kept " % " := by
  intro rest vs
  have hpercent (cs : List Char) : fill ('%' :: ' ' :: cs) vs = (fill (' ' :: cs) vs).map ('%' :: ·) := by
    rw [fill]
    · simp
    · simp
  have hsplit : " % ".toList ++ rest = ' ' :: '%' :: ' ' :: rest := rfl
  rw [List.nil_append, hsplit, fill_cons (by decide), hpercent, fill_cons (by decide), Option.map_map, Option.map_map]
  rfl

theorem kept_operator (op : BinaryOp) : Kept (" " ++ op.symbol ++ " ") := by
  cases op with
  | remainder => exact kept_remainder
  | _ => exact kept_of_no_percent (by decide)

theorem kept_identifier (h : '%' ∉ s.toList) : Kept (Literal.identifier s) :=
  kept_of_no_percent (percent_notMem_identifier h)

theorem kept_tableRef {r : TableRef} (h : r.Spelled .percentFree) : Kept r.text := by
  obtain ⟨hdb, hname⟩ := h
  unfold TableRef.text
  refine Kept.append ?_ (kept_identifier hname)
  cases hd : r.db with
  | none => exact kept_of_no_percent (by decide)
  | some db => exact (kept_identifier (hdb db hd)).append (kept_of_no_percent (by decide))

theorem kept_column {c : Column} (h : c.Spelled .percentFree) (qualify : Bool) : Kept (c.written qualify) := by
  unfold Column.written
  refine Kept.append ?_ (kept_identifier h.2)
  split
  · exact (kept_tableRef h.1).append (kept_of_no_percent (by decide))
  · exact kept_of_no_percent (by decide)

end Placeholder

open Piece Placeholder

/-! ## Pieces with literals in the place of placeholders -/

/-- One piece has the literals of the other's parameters in the place of its placeholders, and both fail alike. Where a
parameter has no literal, there is a panic. -/
structure Piece.Inlines (bound inline : Piece) : Prop where
  params : inline.params = []
  fills : ∀ ls, Value.literals bound.params = some ls →
    inline.failure = bound.failure ∧ Fills bound.text ls inline.text
  panics : Value.literals bound.params = none → inline.failure = some .outOfCalendar

namespace Piece

variable {a b p q : Piece} {s : String}

/-- A piece without parameters is its own inline form. -/
theorem inlines_self (hp : p.params = []) (ht : Kept p.text) : p.Inlines p := by
  refine ⟨hp, fun ls hls => ⟨rfl, ?_⟩, fun h => ?_⟩
  · rw [hp] at hls
    cases hls
    exact ht
  · rw [hp] at h
    cases h

theorem inlines_ofText (h : Kept s) : (ofText s).Inlines (ofText s) := inlines_self rfl h

/-- A fixed text. -/
theorem inlines_fixed (h : '%' ∉ s.toList) : (ofText s).Inlines (ofText s) := inlines_ofText (kept_of_no_percent h)

theorem inlines_failed (e : Error) : (failed e).Inlines (failed e) :=
  inlines_self rfl (kept_of_no_percent (s := "") (by decide))

/-- The literal of a value stands for its placeholder, if it has one. -/
theorem inlines_placeholder {v : Value} (hs : v.literal = some s) : (placeholder v).Inlines (ofText s) := by
  have hliterals : Value.literals [v] = some [s] := Value.literals_cons_eq_some.2 ⟨s, [], hs, rfl, rfl⟩
  refine ⟨rfl, fun ls hls => ?_, fun h => ?_⟩
  · obtain rfl := Option.some.inj (hliterals.symm.trans hls)
    exact ⟨rfl, fills_placeholder s⟩
  · cases hliterals.symm.trans h

theorem inlines_unwritten {v : Value} (hs : v.literal = none) : (placeholder v).Inlines (failed .outOfCalendar) := by
  refine ⟨rfl, fun ls hls => ?_, fun _ => rfl⟩
  obtain ⟨s, _, h, -, -⟩ := Value.literals_cons_eq_some.1 hls
  cases hs.symm.trans h

theorem Inlines.append (h : a.Inlines b) (h' : p.Inlines q) : (a ++ p).Inlines (b ++ q) := by
  cases hls : Value.literals a.params with
  | none =>
    -- the inline text ends with the panic, whatever the bound one goes on with
    have hnone : Value.literals (a ++ p).params = none := by
      cases hf : a.failure with
      | some e => rw [append_of_failed hf, hls]
      | none =>
        rw [append_of_ok hf, Value.literals_append, hls]
        rfl
    rw [append_of_failed (h.panics hls)]
    exact ⟨h.params, fun ls hsome => (by cases hnone.symm.trans hsome), fun _ => h.panics hls⟩
  | some ls =>
    obtain ⟨hfailure, hfills⟩ := h.fills ls hls
    cases hf : a.failure with
    | some e =>
      rw [append_of_failed hf, append_of_failed (hfailure.trans hf)]
      exact h
    | none =>
      have hliterals : Value.literals (a.params ++ p.params) = (Value.literals p.params).map (ls ++ ·) := by
        rw [Value.literals_append, hls]
        rfl
      rw [append_of_ok hf, append_of_ok (hfailure.trans hf)]
      refine ⟨?_, fun ls' hls' => ?_, fun hnone => ?_⟩
      · rw [h.params, h'.params, List.append_nil]
      · obtain ⟨ls'', hls'', rfl⟩ := Option.map_eq_some_iff.1 (hliterals.symm.trans hls')
        exact ⟨(h'.fills ls'' hls'').1, hfills.append (h'.fills ls'' hls'').2⟩
      · exact h'.panics (Option.map_eq_none_iff.1 (hliterals.symm.trans hnone))

theorem Inlines.inParens (h : p.Inlines q) : p.inParens.Inlines q.inParens := by
  refine ⟨h.params, fun ls hls => ⟨(h.fills ls hls).1, ?_⟩, h.panics⟩
  have hopen : Kept "(" := kept_of_no_percent (by decide)
  have hclose : Kept ")" := kept_of_no_percent (by decide)
  have hfills := (Fills.append hopen (h.fills ls hls).2).append hclose
  rwa [List.append_nil] at hfills

theorem Inlines.separated : ∀ {ps qs : List Piece}, List.Forall₂ Inlines ps qs →
    (separated ps).Inlines (separated qs)
  | [], _, .nil => inlines_fixed (by decide)
  | [_], _, .cons h .nil => h
  | _ :: _ :: _, _, .cons h (.cons h' hs) => by
    rw [separated_cons_cons, separated_cons_cons]
    exact (h.append (inlines_fixed (by decide))).append (Inlines.separated (.cons h' hs))

end Piece

/-! ## Expressions -/

mutual

/-- There is no select in the expression, and its lists stand only where they are searched. -/
def Expr.Inlinable : Expr → Prop
  | .column _ | .raw _ => True
  | .call _ _ args => Operand.InlinableAll args
  | .binary op lhs rhs => Operand.Inlinable false lhs ∧ Operand.Inlinable op.isMembership rhs
  | .unary op arg => Operand.Inlinable op.isExistence arg
  | .between _ operand low high =>
    Operand.Inlinable false operand ∧ Operand.Inlinable false low ∧ Operand.Inlinable false high
  | .ordered e _ => e.Inlinable
  | .aliased e _ => e.Inlinable
  | .select _ => False

/-- An operand at a place that is searched or not. -/
def Operand.Inlinable (searched : Bool) : Operand → Prop
  | .value v => v.isList = true → searched = true
  | .expr e => e.Inlinable
  | .raw _ => True

def Operand.InlinableAll : List Operand → Prop
  | [] => True
  | a :: rest => Operand.Inlinable false a ∧ Operand.InlinableAll rest

end

namespace Options

variable {o : Options} {v : Value}

/-- The same options, with values written as literals. -/
def inline (o : Options) : Options := { o with bind := false }

/-- A value is written as the literal of what its placeholder stands for. -/
theorem value_inlines (hb : o.bind = true) (h : v.isList = true → o.nested = true) :
    (o.value v).Inlines (o.inline.value v) := by
  cases hc : o.converted v with
  | error e =>
    rw [value_of_error hc, value_of_error (o := o.inline) hc]
    exact inlines_failed e
  | ok w =>
    -- a conversion makes no list of a scalar, so that one placeholder stands for the value
    have hsingle : o.nested = true ∨ w.itemCount? = none := by
      cases hl : v.isList with
      | true => exact .inl (h hl)
      | false => exact .inr ((converted_itemCount? hc).trans (Value.itemCount?_eq_none hl))
    rw [value_of_ok hc, value_of_ok (o := o.inline) hc, placed_of_single hb hsingle]
    unfold placed
    rw [if_neg (show ¬ o.inline.bind = true from Bool.false_ne_true)]
    cases hw : w.literal with
    | none => exact inlines_unwritten hw
    | some s => exact inlines_placeholder hw

/-- Parentheses are the same around both. -/
theorem scope_inlines {part : Options → Piece} (hb : o.bind = true)
    (h : ∀ {o : Options}, o.bind = true → (part o).Inlines (part o.inline)) :
    (o.scope part).Inlines (o.inline.scope part) := by
  cases hp : o.parenthesize with
  | true =>
    rw [scope_of_parenthesize hp, scope_of_parenthesize (o := o.inline) hp]
    exact (h (o := { o with parenthesize := false }) hb).inParens
  | false =>
    rw [scope_of_not_parenthesize hp, scope_of_not_parenthesize (o := o.inline) hp]
    exact h hb

end Options

mutual

/-- **Inline values stand where the placeholders would**, in any expression that can be written inline. -/
theorem Expr.piece_inlines : ∀ {o : Options} {e : Expr}, o.bind = true → e.Inlinable → e.Spelled .percentFree →
    (e.piece o).Inlines (e.piece o.inline)
  | o, .column _, _, _, hs => inlines_ofText (kept_column hs o.qualify)
  | _, .raw _, _, _, hs => inlines_fixed hs
  | o, .call _ distinct _, hb, h, hs => by
    rw [Expr.piece, Expr.piece]
    refine Inlines.append (Inlines.append (inlines_ofText ?_) (.separated ?_)) (inlines_fixed (by decide))
    · refine Kept.append (Kept.append (kept_of_no_percent hs.1) (kept_of_no_percent (by decide))) ?_
      cases distinct <;> exact kept_of_no_percent (by decide)
    · exact Operand.pieces_inlines (o := { o with converter := none }) hb h hs.2
  | o, .binary op lhs rhs, hb, h, hs => by
    rw [Expr.piece, Expr.piece]
    refine Inlines.inParens (Inlines.append (Inlines.append ?_ (inlines_ofText (kept_operator op))) ?_)
    · exact Operand.piece_inlines false hb nofun h.1 hs.1
    · cases hop : op.isMembership with
      | true => exact Operand.piece_inlines true hb (fun _ => rfl) (hop ▸ h.2) hs.2
      | false =>
        cases op.isNullTest && rhs.isNull with
        | true => exact inlines_fixed (by decide)
        | false => exact Operand.piece_inlines false hb nofun (hop ▸ h.2) hs.2
  | o, .unary op arg, hb, h, hs => by
    cases op with
    | negative | not =>
      rw [Expr.piece, Expr.piece]
      refine Inlines.inParens (Inlines.append (inlines_fixed (by decide)) ?_)
      exact Operand.piece_inlines false hb nofun h hs
    | isNull | isNotNull =>
      rw [Expr.piece, Expr.piece]
      refine Inlines.inParens (Inlines.append ?_ (inlines_fixed (by decide)))
      exact Operand.piece_inlines false hb nofun h hs
    | «exists» | notExists =>
      rw [Expr.piece, Expr.piece]
      refine Inlines.inParens (Inlines.append (inlines_fixed (by decide)) ?_)
      exact Operand.piece_inlines true hb (fun _ => rfl) h hs
  | o, .between negated operand low high, hb, h, hs => by
    rw [Expr.piece, Expr.piece]
    refine Inlines.inParens (Inlines.append (Inlines.append (Inlines.append (Inlines.append ?_ ?_) ?_)
      (inlines_fixed (by decide))) ?_)
    · exact Operand.piece_inlines false hb nofun h.1 hs.1
    · cases negated <;> exact inlines_fixed (by decide)
    · exact Operand.piece_inlines false hb nofun h.2.1 hs.2.1
    · exact Operand.piece_inlines false hb nofun h.2.2 hs.2.2
  | o, .ordered e order, hb, h, hs => by
    cases order <;> rw [Expr.piece, Expr.piece] <;>
    · exact Inlines.append (Expr.piece_inlines hb h hs) (inlines_fixed (by decide))
  | o, .aliased e label, hb, h, hs => by
    rw [Expr.piece, Expr.piece]
    refine Inlines.append (Expr.piece_inlines hb h hs.1) (inlines_ofText ?_)
    exact (kept_of_no_percent (by decide)).append (kept_identifier hs.2)

/-- An operand whose lists are one parameter, if there can be any. -/
theorem Operand.piece_inlines : ∀ {o : Options} (searched : Bool) {a : Operand}, o.bind = true →
    (searched = true → o.nested = true) → Operand.Inlinable searched a → Operand.Spelled .percentFree a →
    (Operand.piece o a).Inlines (Operand.piece o.inline a)
  | _, _, .value _, hb, hn, h, _ => Options.value_inlines hb fun hl => hn (h hl)
  | _, _, .expr _, hb, _, h, hs => Expr.piece_inlines hb h hs
  | _, _, .raw _, _, _, _, hs => inlines_fixed hs

theorem Operand.pieces_inlines : ∀ {o : Options} {args : List Operand}, o.bind = true → Operand.InlinableAll args →
    Operand.SpelledAll .percentFree args →
    List.Forall₂ Piece.Inlines (Operand.pieces o args) (Operand.pieces o.inline args)
  | _, [], _, _, _ => .nil
  | _, _ :: _, hb, h, hs =>
    .cons (Operand.piece_inlines false hb nofun h.1 hs.1) (Operand.pieces_inlines hb h.2 hs.2)

end

/-- An operand that is written under some options, in a context of its own. -/
def Operand.writtenUnder (a : Operand) (o : Options) : Context × Option Error := Writing.inScope (fun _ => o) a.write {}

theorem Operand.writtenUnder_eq (a : Operand) (o : Options) :
    a.writtenUnder o = (({} : Context).add (o.scope a.piece), (o.scope a.piece).failure) := by
  obtain ⟨q, hw, hq⟩ := Operand.write_renders a
  have hscope : o.scope q = o.scope a.piece := by
    cases h : o.parenthesize with
    | true =>
      rw [Options.scope_of_parenthesize h, Options.scope_of_parenthesize h]
      exact congrArg Piece.inParens (hq { o with parenthesize := false } o.fragment rfl)
    | false =>
      rw [Options.scope_of_not_parenthesize h, Options.scope_of_not_parenthesize h]
      exact hq o o.fragment h
  rw [← hscope]
  exact hw.inScope (fun _ => o) {}

/-- The known people of odd age with a mark in their name. -/
def Sample.odd : Operand :=
  .expr (.binary .and (.expr (.binary .inOp (column person 0) (.value (.list [.int 1, .int 7]))))
    (.expr (.binary .and (.expr (.binary .like (column person 1) (.value (.text "%s"))))
      (.expr (.binary .equal (.expr (.binary .remainder (column person 2) (.value (.int 2))))
        (.value (.boolean true)))))))

theorem Sample.writtenUnder_odd : odd.writtenUnder { bind := true, qualify := true } =
    ({ text := "((`person`.`id` IN %s) AND ((`person`.`name` LIKE BINARY %s) AND ((`person`.`age` % %s) = %s)))"
       params := [.list [.int 1, .int 7], .text "%s", .int 2, .int 1] }, none) :=
  (Operand.writtenUnder_eq _ _).trans rfl

theorem Sample.writtenUnder_odd_inline : odd.writtenUnder { bind := false, qualify := true } =
    ({ text := "((`person`.`id` IN (1, 7)) AND ((`person`.`name` LIKE BINARY '%s') AND ((`person`.`age` % 2) = 1)))" },
      none) :=
  (Operand.writtenUnder_eq _ _).trans rfl

theorem Sample.odd_percentFree : Operand.Spelled .percentFree odd := by
  have hcolumn : ∀ c ∈ person.columns, c.Spelled .percentFree := by
    simp [person, named, Table.columns, Column.Spelled, TableRef.Spelled, Spelling.percentFree, Column.name]
  exact ⟨⟨hcolumn _ (List.getElem_mem (n := 0) (by decide)), trivial⟩,
    ⟨hcolumn _ (List.getElem_mem (n := 1) (by decide)), trivial⟩,
    ⟨hcolumn _ (List.getElem_mem (n := 2) (by decide)), trivial⟩, trivial⟩

/-- The people who were seen at the end of the calendar, by clocks that are behind. -/
def Sample.seenLast : Operand :=
  .expr (.binary .equal (.raw "seen") (.value (.timestamp ⟨Calendar.DateTime.last, -3600⟩)))

end SqlMapper
