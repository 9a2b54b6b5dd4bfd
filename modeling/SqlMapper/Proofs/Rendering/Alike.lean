import Mathlib.Data.List.Forall2
import SqlMapper.Proofs.Rendering.Options
import SqlMapper.Rendering.Expression

/-!
# Expressions with other values

Two expressions are alike (`Expr.Alike`) if they differ in the contents of their literal values alone. Where neither
of them fails, the texts that they add to a statement are the same (`Expr.Alike.sameText`), under any two scopes that
bind values and do not differ in how they write lists and columns: the converters of the scopes play no part.
-/

namespace SqlMapper

open Piece

/-! ## Alike values and expressions -/

/-- Both values are `NULL` or neither is, and they are scalars or lists of one length. -/
def Value.Alike (v w : Value) : Prop := v.isNull = w.isNull ∧ v.itemCount? = w.itemCount?

mutual

/-- The expressions differ in the contents of their literal values alone. The lists that a membership test looks into
may have any length. -/
inductive Expr.Alike : Expr → Expr → Prop
  | column (c : Column) : Expr.Alike (.column c) (.column c)
  | raw (sql : String) : Expr.Alike (.raw sql) (.raw sql)
  | call (function : String) (distinct : Bool) {args args' : List Operand} :
      Operand.AlikeAll args args' → Expr.Alike (.call function distinct args) (.call function distinct args')
  | binary (op : BinaryOp) {lhs lhs' rhs rhs' : Operand} :
      Operand.Alike lhs lhs' → Operand.Alike rhs rhs' → Expr.Alike (.binary op lhs rhs) (.binary op lhs' rhs')
  | membership {op : BinaryOp} {lhs lhs' : Operand} (items items' : List Value) : op.isMembership = true →
      Operand.Alike lhs lhs' →
      Expr.Alike (.binary op lhs (.value (.list items))) (.binary op lhs' (.value (.list items')))
  | unary (op : UnaryOp) {arg arg' : Operand} : Operand.Alike arg arg' → Expr.Alike (.unary op arg) (.unary op arg')
  | between (negated : Bool) {operand operand' low low' high high' : Operand} :
      Operand.Alike operand operand' → Operand.Alike low low' → Operand.Alike high high' →
      Expr.Alike (.between negated operand low high) (.between negated operand' low' high')
  | ordered (order : Order) {e e' : Expr} : Expr.Alike e e' → Expr.Alike (.ordered e order) (.ordered e' order)
  | aliased (label : String) {e e' : Expr} : Expr.Alike e e' → Expr.Alike (.aliased e label) (.aliased e' label)
  | select {s s' : Select} : Select.Alike s s' → Expr.Alike (.select s) (.select s')

inductive Operand.Alike : Operand → Operand → Prop
  | value {v w : Value} : Value.Alike v w → Operand.Alike (.value v) (.value w)
  | expr {e e' : Expr} : Expr.Alike e e' → Operand.Alike (.expr e) (.expr e')
  | raw (sql : String) : Operand.Alike (.raw sql) (.raw sql)

inductive Operand.AlikeAll : List Operand → List Operand → Prop
  | nil : Operand.AlikeAll [] []
  | cons {a a' : Operand} {rest rest' : List Operand} :
      Operand.Alike a a' → Operand.AlikeAll rest rest' → Operand.AlikeAll (a :: rest) (a' :: rest')

inductive Expr.AlikeAll : List Expr → List Expr → Prop
  | nil : Expr.AlikeAll [] []
  | cons {e e' : Expr} {rest rest' : List Expr} :
      Expr.Alike e e' → Expr.AlikeAll rest rest' → Expr.AlikeAll (e :: rest) (e' :: rest')

inductive Expr.AlikeIn : Option Expr → Option Expr → Prop
  | none : Expr.AlikeIn none none
  | some {e e' : Expr} : Expr.Alike e e' → Expr.AlikeIn (some e) (some e')

inductive Join.AlikeAll : List Join → List Join → Prop
  | nil : Join.AlikeAll [] []
  | cons (kind : JoinKind) (table : Table) {condition condition' : Expr} {rest rest' : List Join} :
      Expr.Alike condition condition' → Join.AlikeAll rest rest' →
      Join.AlikeAll (.mk kind table condition :: rest) (.mk kind table condition' :: rest')

/-- The selects differ in the contents of the literal values of their clauses. -/
inductive Select.Alike : Select → Select → Prop
  | mk (table : Table) (distinct : Bool) (limit offset : Option Nat) (shape shape' : Shape)
      (window window' : Option Window) {columns columns' groupBy groupBy' orderBy orderBy' : List Expr}
      {joins joins' : List Join} {filter filter' having having' : Option Expr} :
      Expr.AlikeAll columns columns' → Join.AlikeAll joins joins' → Expr.AlikeIn filter filter' →
      Expr.AlikeAll groupBy groupBy' → Expr.AlikeIn having having' → Expr.AlikeAll orderBy orderBy' →
      Select.Alike ⟨table, columns, distinct, joins, filter, groupBy, having, orderBy, limit, offset, shape, window⟩
        ⟨table, columns', distinct, joins', filter', groupBy', having', orderBy', limit, offset, shape', window'⟩

end

theorem Operand.Alike.isNull_eq {a a' : Operand} (h : Operand.Alike a a') : a.isNull = a'.isNull := by
  cases h with
  | value hv => exact hv.1
  | expr _ => rfl
  | raw sql => rfl

theorem Expr.AlikeAll.isEmpty_eq {es es' : List Expr} (h : Expr.AlikeAll es es') : es.isEmpty = es'.isEmpty := by
  cases h <;> rfl

theorem Join.AlikeAll.isEmpty_eq {joins joins' : List Join} (h : Join.AlikeAll joins joins') :
    joins.isEmpty = joins'.isEmpty := by
  cases h <;> rfl

/-! ## Pieces with one text -/

/-- Where neither piece fails, their texts are the same. -/
def Piece.SameText (p q : Piece) : Prop := p.failure = none → q.failure = none → p.text = q.text

namespace Piece

variable {a b p q : Piece}

theorem SameText.rfl : p.SameText p := fun _ _ => Eq.refl _

theorem SameText.append (h : a.SameText b) (h' : p.SameText q) : (a ++ p).SameText (b ++ q) := by
  intro hp hq
  rw [append_text hp, append_text hq, h (append_failure_eq_none.1 hp).1 (append_failure_eq_none.1 hq).1,
    h' (append_failure_eq_none.1 hp).2 (append_failure_eq_none.1 hq).2]

theorem SameText.inParens (h : p.SameText q) : p.inParens.SameText q.inParens := by
  intro hp hq
  rw [inParens_text, inParens_text, h hp hq]

theorem SameText.separated : ∀ {ps qs : List Piece}, List.Forall₂ SameText ps qs →
    (separated ps).SameText (separated qs)
  | [], _, .nil => SameText.rfl
  | [_], _, .cons h .nil => h
  | _ :: _ :: _, _, .cons h (.cons h' hs) => by
    rw [separated_cons_cons, separated_cons_cons]
    exact (h.append SameText.rfl).append (SameText.separated (.cons h' hs))

end Piece

/-- The placeholders of two lists of one length. -/
theorem Piece.forall₂_placeholder : ∀ {items items' : List Value}, items.length = items'.length →
    List.Forall₂ SameText (items.map placeholder) (items'.map placeholder)
  | [], [], _ => .nil
  | _ :: _, _ :: _, h => .cons (fun _ _ => rfl) (forall₂_placeholder (Nat.succ.inj h))

/-! ## Values -/

/-- Scopes that bind values and write lists and columns in one way. -/
structure Options.Agree (o o' : Options) : Prop where
  bind : o.bind = true
  bind' : o'.bind = true
  nested : o.nested = o'.nested
  qualify : o.qualify = o'.qualify

namespace Options

variable {o o' : Options} {v w : Value}

theorem placed_sameText (h : o.Agree o') (hv : v.itemCount? = w.itemCount?) : (o.placed v).SameText (o'.placed w) := by
  cases hn : o'.nested with
  | true =>
    rw [placed_of_single h.bind (.inl (h.nested.trans hn)), placed_of_single h.bind' (.inl hn)]
    exact fun _ _ => rfl
  | false =>
    cases hc : w.itemCount? with
    | none =>
      rw [placed_of_single h.bind (.inr (hv.trans hc)), placed_of_single h.bind' (.inr hc)]
      exact fun _ _ => rfl
    | some n =>
      obtain ⟨items, rfl⟩ := Value.exists_of_itemCount? hc
      obtain ⟨items', rfl⟩ := Value.exists_of_itemCount? (hv.trans hc)
      rw [placed_list h.bind (h.nested.trans hn), placed_list h.bind' hn]
      exact .separated (forall₂_placeholder (Option.some.inj hv))

/-- The values of alike literals have one text, whatever their conversions come to. -/
theorem value_sameText (h : o.Agree o') (hv : v.itemCount? = w.itemCount?) : (o.value v).SameText (o'.value w) := by
  intro hp hq
  obtain ⟨v', hc⟩ := converted_of_value hp
  obtain ⟨w', hc'⟩ := converted_of_value hq
  have hw : v'.itemCount? = w'.itemCount? := by rw [converted_itemCount? hc, converted_itemCount? hc', hv]
  rw [value_of_ok hc] at hp ⊢
  rw [value_of_ok hc'] at hq ⊢
  exact placed_sameText h hw hp hq

/-- The content of a list that is one parameter plays no part. -/
theorem value_list_sameText (hb : o.bind = true) (hb' : o'.bind = true) (hn : o.nested = true) (hn' : o'.nested = true)
    (items items' : List Value) : (o.value (.list items)).SameText (o'.value (.list items')) := by
  intro hp hq
  obtain ⟨v, hv⟩ := value_of_single hb (.inl hn) hp
  obtain ⟨w, hw⟩ := value_of_single hb' (.inl hn') hq
  rw [hv, hw, placeholder_text, placeholder_text]

end Options

/-! ## Expressions -/

mutual

/-- **Alike expressions have one text**, where neither of them fails. -/
theorem Expr.Alike.sameText : ∀ {e e' : Expr} {o o' : Options}, e.Alike e' → o.Agree o' →
    (e.piece o).SameText (e'.piece o')
  | _, _, o, o', .column c, h => by
    rw [Expr.piece, Expr.piece, h.qualify]
    exact SameText.rfl
  | _, _, _, _, .raw _, _ => SameText.rfl
  | _, _, _, _, .call _ _ hargs, h => by
    rw [Expr.piece, Expr.piece]
    refine (SameText.rfl.append (SameText.separated ?_)).append SameText.rfl
    exact hargs.sameText ⟨h.bind, h.bind', h.nested, h.qualify⟩
  | _, _, _, _, .binary op hl hr, h => by
    rw [Expr.piece, Expr.piece, hr.isNull_eq]
    refine (SameText.append (SameText.append ?_ SameText.rfl) ?_).inParens
    · exact hl.sameText ⟨h.bind, h.bind', h.nested, h.qualify⟩
    · split
      · exact hr.sameText ⟨h.bind, h.bind', rfl, h.qualify⟩
      · split
        · exact SameText.rfl
        · exact hr.sameText ⟨h.bind, h.bind', h.nested, h.qualify⟩
  | _, _, _, _, .membership items items' hop hl, h => by
    rw [Expr.piece, Expr.piece, if_pos hop, if_pos hop]
    refine (SameText.append (SameText.append ?_ SameText.rfl) ?_).inParens
    · exact hl.sameText ⟨h.bind, h.bind', h.nested, h.qualify⟩
    · rw [Operand.piece, Operand.piece]
      apply Options.value_list_sameText
      exacts [h.bind, h.bind', rfl, rfl]
  | _, _, _, _, .unary op harg, h => by
    cases op with
    | negative | not =>
      rw [Expr.piece, Expr.piece]
      refine (SameText.append SameText.rfl ?_).inParens
      exact harg.sameText ⟨h.bind, h.bind', h.nested, h.qualify⟩
    | isNull | isNotNull =>
      rw [Expr.piece, Expr.piece]
      refine (SameText.append ?_ SameText.rfl).inParens
      exact harg.sameText ⟨h.bind, h.bind', h.nested, h.qualify⟩
    | «exists» | notExists =>
      rw [Expr.piece, Expr.piece]
      refine (SameText.append SameText.rfl ?_).inParens
      exact harg.sameText ⟨h.bind, h.bind', rfl, h.qualify⟩
  | _, _, _, _, .between negated hoperand hlow hhigh, h => by
    rw [Expr.piece, Expr.piece]
    refine (SameText.append (SameText.append (SameText.append (SameText.append ?_ SameText.rfl) ?_) SameText.rfl)
      ?_).inParens
    · exact hoperand.sameText ⟨h.bind, h.bind', h.nested, h.qualify⟩
    · exact hlow.sameText ⟨h.bind, h.bind', h.nested, h.qualify⟩
    · exact hhigh.sameText ⟨h.bind, h.bind', h.nested, h.qualify⟩
  | _, _, _, _, .ordered order he, h => by
    cases order <;> rw [Expr.piece, Expr.piece] <;> exact SameText.append (he.sameText h) SameText.rfl
  | _, _, _, _, .aliased label he, h => by
    rw [Expr.piece, Expr.piece]
    exact SameText.append (he.sameText h) SameText.rfl
  | _, _, _, _, .select hs, h => by
    rw [Expr.piece, Expr.piece]
    apply SameText.inParens
    exact hs.sameText rfl

theorem Operand.Alike.sameText : ∀ {a a' : Operand} {o o' : Options}, a.Alike a' → o.Agree o' →
    (Operand.piece o a).SameText (Operand.piece o' a')
  | _, _, _, _, .value hv, h => Options.value_sameText h hv.2
  | _, _, _, _, .expr he, h => he.sameText h
  | _, _, _, _, .raw _, _ => SameText.rfl

theorem Operand.AlikeAll.sameText : ∀ {args args' : List Operand} {o o' : Options}, Operand.AlikeAll args args' →
    o.Agree o' → List.Forall₂ SameText (Operand.pieces o args) (Operand.pieces o' args')
  | _, _, _, _, .nil, _ => .nil
  | _, _, _, _, .cons ha hrest, h => .cons (ha.sameText h) (hrest.sameText h)

theorem Expr.AlikeAll.sameText : ∀ {es es' : List Expr} {o o' : Options}, Expr.AlikeAll es es' → o.Agree o' →
    List.Forall₂ SameText (Expr.pieces o es) (Expr.pieces o' es')
  | _, _, _, _, .nil, _ => .nil
  | _, _, _, _, .cons he hrest, h => .cons (he.sameText h) (hrest.sameText h)

theorem Expr.AlikeIn.sameText : ∀ {e e' : Option Expr} {o o' : Options} {keyword : String}, Expr.AlikeIn e e' →
    o.Agree o' → (Expr.clause o keyword e).SameText (Expr.clause o' keyword e')
  | _, _, _, _, _, .none, _ => SameText.rfl
  | _, _, _, _, _, .some he, h => SameText.append SameText.rfl (he.sameText h)

theorem Join.AlikeAll.sameText : ∀ {joins joins' : List Join} {o o' : Options}, Join.AlikeAll joins joins' →
    o.Agree o' → (Join.pieces o joins).SameText (Join.pieces o' joins')
  | _, _, _, _, .nil, _ => SameText.rfl
  | _, _, _, _, .cons kind _ he hrest, h => by
    cases kind <;> rw [Join.pieces, Join.pieces] <;>
      exact SameText.append (SameText.append SameText.rfl (he.sameText h)) (hrest.sameText h)

/-- A select binds its values in any scope, so only the way that columns are written counts. -/
theorem Select.Alike.sameText : ∀ {s s' : Select} {o o' : Options}, s.Alike s' → o.qualify = o'.qualify →
    (s.piece o).SameText (s'.piece o')
  | _, _, o, o', .mk _ _ _ _ _ _ _ _ hcolumns hjoins hfilter hgroup hhaving horder, hq => by
    rw [Select.piece, Select.piece, hcolumns.isEmpty_eq, hgroup.isEmpty_eq, horder.isEmpty_eq, hjoins.isEmpty_eq, hq]
    refine SameText.append (SameText.append (SameText.append (SameText.append (SameText.append (SameText.append
      (SameText.append (SameText.append SameText.rfl ?_) SameText.rfl) ?_) ?_) ?_) ?_) ?_) SameText.rfl
    · split
      · exact SameText.rfl
      · apply SameText.separated
        exact hcolumns.sameText ⟨rfl, rfl, rfl, rfl⟩
    · exact hjoins.sameText ⟨rfl, rfl, rfl, rfl⟩
    · exact hfilter.sameText ⟨rfl, rfl, rfl, rfl⟩
    · split
      · exact SameText.rfl
      · apply SameText.append SameText.rfl
        apply SameText.separated
        exact hgroup.sameText ⟨rfl, rfl, rfl, rfl⟩
    · exact hhaving.sameText ⟨rfl, rfl, rfl, rfl⟩
    · split
      · exact SameText.rfl
      · apply SameText.append SameText.rfl
        apply SameText.separated
        exact horder.sameText ⟨rfl, rfl, rfl, rfl⟩

end

end SqlMapper
