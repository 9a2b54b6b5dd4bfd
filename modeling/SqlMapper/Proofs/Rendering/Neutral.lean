import SqlMapper.Proofs.Rendering.Invariant
import SqlMapper.Proofs.Value.Literal

/-!
# Pieces under a scan

Names may hold any character, and the texts that are written as they are hold no mark (`Spelling.unmarked`). Then every
piece that does not fail has a neutral text (`neutral_invariant`). An error inside of a function call leaves its
parenthesis open, so nothing is said of the texts of pieces that fail.
-/

namespace SqlMapper

variable {doubles : Bool}

/-- Any names, and no mark in the texts that are written as they are. -/
def Spelling.unmarked (doubles : Bool) : Spelling := ⟨fun _ => True, fun s => Harmless doubles s.toList⟩

theorem neutral_keyword {s : String} (h : s ∈ Piece.keywords) : Neutral doubles s := by
  have hneutral : ∀ s ∈ Piece.keywords, ∀ doubles, Neutral doubles s := by decide
  exact hneutral s h doubles

namespace Piece

/-- The text is neutral, if no error cut it short. -/
def IsNeutral (doubles : Bool) (p : Piece) : Prop := p.failure = none → Neutral doubles p.text

theorem IsNeutral.append {a b : Piece} (ha : a.IsNeutral doubles) (hb : b.IsNeutral doubles) :
    (a ++ b).IsNeutral doubles := by
  intro h
  obtain ⟨hfa, hfb⟩ := append_failure_eq_none.1 h
  rw [append_text h]
  exact (ha hfa).append (hb hfb)

theorem IsNeutral.call {function : String} {args : Piece} (distinct : Bool) (hf : Harmless doubles function.toList)
    (hargs : args.IsNeutral doubles) :
    (ofText (function ++ "(" ++ if distinct then "DISTINCT " else "") ++ args ++ ofText ")").IsNeutral doubles := by
  intro h
  obtain ⟨hopened, -⟩ := append_failure_eq_none.1 h
  obtain ⟨-, hfailure⟩ := append_failure_eq_none.1 hopened
  have hopen : Nests doubles 0 1 "(" := nests_fixed (by decide)
  have hword : Neutral doubles (if distinct then "DISTINCT " else "") :=
    .ite (neutral_fixed (by decide)) (neutral_fixed (by decide))
  have hclose : Nests doubles 1 0 ")" := nests_fixed (by decide)
  rw [append_text h, append_text hopened]
  have hopened := (neutral_of_harmless hf).append hopen
  exact ((hopened.append (hword.nests 1)).append ((hargs hfailure).nests 1)).append hclose

end Piece

/-- **Whatever rendering composes is neutral**, unless it fails. -/
theorem neutral_invariant : Piece.Invariant (.unmarked doubles) (Piece.IsNeutral doubles) where
  append := Piece.IsNeutral.append
  inParens hp h := (hp h).inParens
  call distinct hf hargs := Piece.IsNeutral.call distinct hf hargs
  placeholder _ _ := neutral_fixed (s := "%s") (by decide)
  failed _ h := by cases h
  keyword h _ := neutral_keyword h
  identifier _ _ := neutral_identifier _
  verbatim h _ := neutral_of_harmless h
  number n _ := neutral_of_harmless (harmless_repr n)

/-- The items of a list of neutral texts. -/
theorem neutral_commaSeparated {items : List String} (h : ∀ s ∈ items, Neutral doubles s) :
    Neutral doubles (Text.commaSeparated items) :=
  neutral_invariant.commaSeparated (fun s hs _ => h s hs) rfl

theorem neutral_tableRef (t : TableRef) : Neutral doubles t.text :=
  neutral_invariant.tableRef ⟨fun _ _ => trivial, trivial⟩ rfl

end SqlMapper
