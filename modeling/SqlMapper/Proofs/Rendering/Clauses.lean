import SqlMapper.Proofs.Rendering.Piece
import SqlMapper.Rendering.Expression

/-!
# Clauses of a select

A select is written clause by clause, in one order (`Select.piece_eq`). What a clause adds depends on the options of the
select and on the parts that the clause is made of, and a clause that nothing asks for adds nothing.
-/

namespace SqlMapper

namespace Piece

/-! ## Pieces one after the other -/

/-- The pieces one after the other. -/
def concat (ps : List Piece) : Piece := ps.foldr (· ++ ·) nothing

theorem concat_cons (p : Piece) (ps : List Piece) : concat (p :: ps) = p ++ concat ps := rfl

theorem concat_failure_eq_none : ∀ {ps : List Piece}, (concat ps).failure = none ↔ ∀ p ∈ ps, p.failure = none
  | [] => iff_of_true rfl nofun
  | p :: ps => by rw [concat_cons, append_failure_eq_none, concat_failure_eq_none, List.forall_mem_cons]

/-- Pieces that do not fail are written and bind their parameters one after the other. -/
theorem concat_of_ok : ∀ {ps : List Piece}, (∀ p ∈ ps, p.failure = none) →
    concat ps = ⟨String.join (ps.map text), ps.flatMap params, none⟩
  | [], _ => rfl
  | p :: ps, h => by
    obtain ⟨hp, hps⟩ := List.forall_mem_cons.1 h
    rw [concat_cons, concat_of_ok hps, append_of_ok hp]
    simp

/-- The text begins with a word, whether something fails behind it or not. -/
def Begins (word : String) (p : Piece) : Prop := ∃ rest, p.text = word ++ rest

theorem begins_ofText (word s : String) : (ofText (word ++ s)).Begins word := ⟨s, rfl⟩

theorem Begins.append {word : String} {a : Piece} (h : a.Begins word) (b : Piece) : (a ++ b).Begins word := by
  cases ha : a.failure with
  | some e => rwa [append_of_failed ha]
  | none =>
    obtain ⟨rest, hrest⟩ := h
    refine ⟨rest ++ b.text, ?_⟩
    rw [append_of_ok ha, hrest, String.append_assoc]

theorem ofText_append_begins (word : String) (b : Piece) : (ofText word ++ b).Begins word := ⟨b.text, rfl⟩

end Piece

open Piece

/-! ## Clauses -/

/-- A clause of a select. -/
inductive Clause where
  | select
  | source
  | join
  | filter
  | groupBy
  | having
  | orderBy
  | limit
  | offset
deriving DecidableEq, Repr

/-- The clauses in the order of the text. -/
def Clause.all : List Clause := [.select, .source, .join, .filter, .groupBy, .having, .orderBy, .limit, .offset]

/-- The words that a clause begins with. -/
def Clause.keywords : Clause → List String
  | .select => ["SELECT ", "SELECT DISTINCT "]
  | .source => [" FROM "]
  | .join => [" JOIN ", " LEFT JOIN "]
  | .filter => [" WHERE "]
  | .groupBy => [" GROUP BY "]
  | .having => [" HAVING "]
  | .orderBy => [" ORDER BY "]
  | .limit => [" LIMIT "]
  | .offset => [" OFFSET "]

theorem Clause.mem_all (k : Clause) : k ∈ Clause.all := by cases k <;> decide

namespace Select

/-- The options of the clauses of a select. -/
def inner (s : Select) (o : Options) : Options :=
  { o with qualify := o.qualify || !s.joins.isEmpty, bind := true, nested := false, converter := none }

/-- What a clause adds to the select. -/
def clause (s : Select) (o : Options) : Clause → Piece
  | .select => ofText (if s.distinct then "SELECT DISTINCT " else "SELECT ") ++
      (if s.columns.isEmpty then ofText (Text.commaSeparated (s.table.columns.map (·.written o.qualify)))
      else separated (Expr.pieces o s.columns))
  | .source => ofText (" FROM " ++ s.table.ref.text)
  | .join => Join.pieces o s.joins
  | .filter => Expr.clause o " WHERE " s.filter
  | .groupBy => if s.groupBy.isEmpty then nothing else ofText " GROUP BY " ++ separated (Expr.pieces o s.groupBy)
  | .having => Expr.clause o " HAVING " s.having
  | .orderBy => if s.orderBy.isEmpty then nothing else ofText " ORDER BY " ++ separated (Expr.pieces o s.orderBy)
  | .limit => (s.limit.map fun n => ofText (" LIMIT " ++ Nat.repr n)).getD nothing
  | .offset =>
    if s.limit.isSome then (s.offset.map fun n => ofText (" OFFSET " ++ Nat.repr n)).getD nothing else nothing

/-- **A select is its clauses in order.** -/
theorem piece_eq (s : Select) (o : Options) : s.piece o = concat (Clause.all.map (s.clause (s.inner o))) := by
  have hlimit : limitClause s.limit s.offset = s.clause (s.inner o) .limit ++ s.clause (s.inner o) .offset := by
    unfold limitClause clause
    cases s.limit with
    | none => rfl
    | some n => cases s.offset <;> rfl
  obtain ⟨table, columns, distinct, joins, filter, groupBy, having, orderBy, limit, offset, shape, window⟩ := s
  rw [Select.piece, hlimit]
  simp only [Clause.all, List.map_cons, List.map_nil, concat, List.foldr_cons, List.foldr_nil, append_nothing, clause,
    inner, append_assoc]

/-- The select has something for the clause. -/
def has (s : Select) : Clause → Bool
  | .select | .source => true
  | .join => !s.joins.isEmpty
  | .filter => s.filter.isSome
  | .groupBy => !s.groupBy.isEmpty
  | .having => s.having.isSome
  | .orderBy => !s.orderBy.isEmpty
  | .limit => s.limit.isSome
  | .offset => s.offset.isSome

variable {s : Select} {k : Clause}

/-- A clause that there is nothing for is not written. -/
theorem clause_of_not_has (h : s.has k = false) (o : Options) : s.clause o k = nothing := by
  cases k with
  | select | source => cases h
  | join =>
    have hjoins : s.joins = [] := by simpa [has] using h
    rw [clause, hjoins, Join.pieces]
  | filter =>
    have hfilter : s.filter = none := by simpa [has] using h
    rw [clause, hfilter, Expr.clause]
  | groupBy =>
    have hgroup : s.groupBy = [] := by simpa [has] using h
    rw [clause, hgroup]
    rfl
  | having =>
    have hhaving : s.having = none := by simpa [has] using h
    rw [clause, hhaving, Expr.clause]
  | orderBy =>
    have horder : s.orderBy = [] := by simpa [has] using h
    rw [clause, horder]
    rfl
  | limit =>
    have hlimit : s.limit = none := by simpa [has] using h
    rw [clause, hlimit]
    rfl
  | offset =>
    have hoffset : s.offset = none := by simpa [has] using h
    rw [clause, hoffset]
    exact ite_self _

/-- A clause that there is something for begins with its words, if rows are left out only where they are limited. -/
theorem clause_of_has (h : s.has k = true) (hlimited : s.offset.isSome = true → s.limit.isSome = true) (o : Options) :
    ∃ word ∈ k.keywords, (s.clause o k).Begins word := by
  cases k with
  | select =>
    refine ⟨if s.distinct then "SELECT DISTINCT " else "SELECT ", ?_, ofText_append_begins _ _⟩
    cases s.distinct <;> decide
  | source => exact ⟨" FROM ", List.mem_singleton_self _, begins_ofText _ _⟩
  | join =>
    cases hjoins : s.joins with
    | nil => simp [has, hjoins] at h
    | cons j joins =>
      obtain ⟨kind, table, condition⟩ := j
      rw [clause, hjoins]
      cases kind with
      | inner =>
        refine ⟨" JOIN ", by decide, Begins.append (Begins.append ?_ _) _⟩
        exact ⟨table.ref.text ++ " ON ", String.append_assoc⟩
      | left =>
        refine ⟨" LEFT JOIN ", by decide, Begins.append (Begins.append ?_ _) _⟩
        exact ⟨table.ref.text ++ " ON ", String.append_assoc⟩
  | filter =>
    obtain ⟨e, he⟩ := Option.isSome_iff_exists.1 h
    rw [clause, he]
    exact ⟨" WHERE ", List.mem_singleton_self _, ofText_append_begins _ _⟩
  | groupBy =>
    have hgroup : s.groupBy.isEmpty = false := by simpa [has] using h
    rw [clause, hgroup]
    exact ⟨" GROUP BY ", List.mem_singleton_self _, ofText_append_begins _ _⟩
  | having =>
    obtain ⟨e, he⟩ := Option.isSome_iff_exists.1 h
    rw [clause, he]
    exact ⟨" HAVING ", List.mem_singleton_self _, ofText_append_begins _ _⟩
  | orderBy =>
    have horder : s.orderBy.isEmpty = false := by simpa [has] using h
    rw [clause, horder]
    exact ⟨" ORDER BY ", List.mem_singleton_self _, ofText_append_begins _ _⟩
  | limit =>
    obtain ⟨n, hn⟩ := Option.isSome_iff_exists.1 h
    rw [clause, hn]
    exact ⟨" LIMIT ", List.mem_singleton_self _, begins_ofText _ _⟩
  | offset =>
    obtain ⟨n, hn⟩ := Option.isSome_iff_exists.1 h
    rw [clause, if_pos (hlimited h), hn]
    exact ⟨" OFFSET ", List.mem_singleton_self _, begins_ofText _ _⟩

end Select

end SqlMapper
