import SqlMapper.Proofs.Connection.Placeholder

/-!
# Translated texts

A text with placeholders has one reading from left to right (`Reads`), and the server takes it exactly if it marks as
many parameters as there are: the text then has the mark of the i-th parameter in the place of the i-th placeholder
(`bind_of_reads`). Two texts can be read apart unless a percent sign between them makes a mark with what follows it
(`tokens_append_iff`), and such texts are translated apart.
-/

namespace SqlMapper.Placeholder

variable {a b cs : List Char} {ts : List Token}

/-! ## Reading from left to right -/

/-- With a percent sign in front of it, the text begins with a mark. -/
def CompletesMark (cs : List Char) : Prop := cs.head? = some '%' ∨ cs.head? = some 's'

instance (cs : List Char) : Decidable (CompletesMark cs) := inferInstanceAs (Decidable (_ ∨ _))

/-- A text is read from left to right: a mark is taken whole, and any other character stands for itself. -/
inductive Reads : List Char → List Token → Prop
  | nil : Reads [] []
  | percent {cs : List Char} {ts : List Token} : Reads cs ts → Reads ('%' :: '%' :: cs) (.percent :: ts)
  | parameter {cs : List Char} {ts : List Token} : Reads cs ts → Reads ('%' :: 's' :: cs) (.parameter :: ts)
  | char {c : Char} {cs : List Char} {ts : List Token} : (c = '%' → ¬ CompletesMark cs) → Reads cs ts →
      Reads (c :: cs) (.char c :: ts)

/-- A character that begins no mark is a part by itself. -/
theorem tokens_cons_of_not_completes {c : Char} (h : c = '%' → ¬ CompletesMark cs) :
    tokens (c :: cs) = .char c :: tokens cs :=
  tokens_char (fun _ hc hcs => h hc (.inl (by rw [hcs]; rfl))) fun _ hc hcs => h hc (.inr (by rw [hcs]; rfl))

/-- A character in front of which no row of the reading applies begins no mark. -/
theorem not_completes_of_tokens {c : Char} (hpercent : ∀ rest, c = '%' → cs = '%' :: rest → False)
    (hmark : ∀ rest, c = '%' → cs = 's' :: rest → False) : c = '%' → ¬ CompletesMark cs := by
  rintro hc (h | h)
  · obtain ⟨rest, rfl⟩ := List.head?_eq_some_iff.1 h
    exact hpercent rest hc rfl
  · obtain ⟨rest, rfl⟩ := List.head?_eq_some_iff.1 h
    exact hmark rest hc rfl

theorem reads_tokens (cs : List Char) : Reads cs (tokens cs) := by
  induction cs using tokens.induct with
  | case1 rest ih => exact .percent ih
  | case2 rest ih => exact .parameter ih
  | case3 c rest hpercent hmark ih =>
    rw [tokens_char hpercent hmark]
    exact .char (not_completes_of_tokens hpercent hmark) ih
  | case4 => exact .nil

/-- There is one reading. -/
theorem Reads.eq_tokens (h : Reads cs ts) : ts = tokens cs := by
  induction h with
  | nil => rfl
  | percent _ ih => rw [ih, tokens_percent]
  | parameter _ ih => rw [ih, tokens_mark]
  | char hc _ ih => rw [ih, tokens_cons_of_not_completes hc]

/-! ## Texts one after the other -/

/-- The last part of the first text is a percent sign that makes a mark with the start of the second one. -/
def MarkBetween (a b : List Char) : Prop := (tokens a).getLast? = some (.char '%') ∧ CompletesMark b

theorem tokens_eq_nil (h : tokens cs = []) : cs = [] := by
  have hreads := reads_tokens cs
  rw [h] at hreads
  cases hreads
  rfl

/-- A first part that is no percent sign, or has a part behind it, is not between the texts. -/
theorem markBetween_cons {t : Token} {rest : List Char} (h : tokens a = t :: tokens rest)
    (ht : t = .char '%' → rest ≠ []) : MarkBetween a b ↔ MarkBetween rest b := by
  unfold MarkBetween
  rw [h, List.getLast?_cons]
  cases hlast : (tokens rest).getLast? with
  | none =>
    have hrest : rest = [] := tokens_eq_nil (List.getLast?_eq_none_iff.1 hlast)
    have hne : t ≠ .char '%' := fun h => ht h hrest
    simp [hne]
  | some u => simp

/-- **Two texts can be read apart** exactly if no mark lies between them. -/
theorem tokens_append_iff : tokens (a ++ b) = tokens a ++ tokens b ↔ ¬ MarkBetween a b := by
  induction a using tokens.induct with
  | case1 rest ih =>
    rw [markBetween_cons (tokens_percent rest) (by simp), ← ih]
    simp
  | case2 rest ih =>
    rw [markBetween_cons (tokens_mark rest) (by simp), ← ih]
    simp
  | case3 c rest hpercent hmark ih =>
    have hc := not_completes_of_tokens hpercent hmark
    have hcons := tokens_cons_of_not_completes hc
    cases rest with
    | nil =>
      by_cases hb : c = '%' ∧ CompletesMark b
      · obtain ⟨rfl, hb⟩ := hb
        refine iff_of_false ?_ (not_not_intro ⟨rfl, hb⟩)
        rcases hb with hb | hb <;>
        · obtain ⟨rest, rfl⟩ := List.head?_eq_some_iff.1 hb
          simp [hcons]
      · rw [not_and] at hb
        refine iff_of_true ?_ ?_
        · rw [List.singleton_append, tokens_cons_of_not_completes hb, hcons]
          rfl
        · rintro ⟨hlast, hb'⟩
          rw [hcons] at hlast
          exact hb (Token.char.inj (Option.some.inj hlast)) hb'
    | cons d rest =>
      -- what follows the character decides alone, so the longer text begins with the same part
      have hlong : tokens (c :: (d :: rest ++ b)) = .char c :: tokens (d :: rest ++ b) :=
        tokens_cons_of_not_completes hc
      rw [markBetween_cons hcons fun _ => List.cons_ne_nil d rest, ← ih, List.cons_append, hlong, hcons]
      simp
  | case4 => simp [MarkBetween]

/-! ## The text for the server -/

/-- A part as it is written, where a placeholder is written as `mark`. -/
def Token.chars (mark : String) : Token → List Char
  | .char c => [c]
  | .percent => ['%']
  | .parameter => mark.toList

/-- The parts as they are written, each placeholder as the mark of the parameter that has as many in front of it. -/
def written (ts : List Token) (params : List Value) : List Char :=
  (ts.mapIdx fun k t => t.chars (marks (params.getD ((ts.take k).count .parameter) .null))).flatten

/-- A placeholder takes the first parameter, and any other part leaves it to those that follow. -/
theorem written_cons (t : Token) (ts : List Token) (params : List Value) :
    written (t :: ts) params = t.chars (marks (params.getD 0 .null)) ++
      written ts (if t = .parameter then params.tail else params) := by
  have hrest : ∀ k, params.getD (((t :: ts).take (k + 1)).count .parameter) .null =
      (if t = .parameter then params.tail else params).getD ((ts.take k).count .parameter) .null := by
    intro k
    rw [List.take_succ_cons]
    split
    · next h =>
      rw [h, List.count_cons_self]
      cases params <;> simp
    · next h => rw [List.count_cons_of_ne h]
  unfold written
  rw [List.mapIdx_cons, List.flatten_cons]
  simp only [hrest]
  rfl

/-- The parts are placed as they are written. -/
theorem placed_eq_written : ∀ {ts : List Token} {params : List Value}, ts.count .parameter = params.length →
    placed ts params = written ts params
  | [], _, _ => rfl
  | .parameter :: _, [], h => by simp at h
  | .parameter :: ts, v :: params, h => by
    rw [placed, placed_eq_written (by simpa using h), written_cons]
    rfl
  | .percent :: ts, params, h => by
    rw [placed, placed_eq_written (by simpa using h), written_cons]
    rfl
  | .char c :: ts, params, h => by
    rw [placed, placed_eq_written (by simpa using h), written_cons]
    rfl

/-- The items of a list have a mark each. -/
theorem marks_list (v : Value) (items : List Value) : marks (.list (v :: items)) =
    "(" ++ String.intercalate ", " (List.replicate (items.length + 1) "?") ++ ")" := by
  rw [marks, List.map_const', List.length_cons]
  exact List.cons_ne_nil v items

theorem bind_eq_written {sql : String} {params : List Value} (h : marked sql.toList = params.length) :
    bind sql params = .ok (String.ofList (written (tokens sql.toList) params), params.flatMap values) := by
  rw [bind_eq_ok h, placed_eq_written h]

/-- Texts that can be read apart are translated apart. -/
theorem bind_append {s s' : String} {params params' bound bound' : List Value} {text text' : String}
    (h : bind s params = .ok (text, bound)) (h' : bind s' params' = .ok (text', bound'))
    (hs : ¬ MarkBetween s.toList s'.toList) :
    bind (s ++ s') (params ++ params') = .ok (text ++ text', bound ++ bound') := by
  have hm := marked_of_bind h
  have hm' := marked_of_bind h'
  have htokens : tokens (s ++ s').toList = tokens s.toList ++ tokens s'.toList := by
    rw [String.toList_append]
    exact tokens_append_iff.2 hs
  have hmarked : marked (s ++ s').toList = (params ++ params').length := by
    rw [marked, htokens, List.count_append, List.length_append, ← hm, ← hm']
    rfl
  rw [bind_eq_ok hm] at h
  rw [bind_eq_ok hm'] at h'
  obtain ⟨rfl, rfl⟩ := Prod.mk.inj (Except.ok.inj h)
  obtain ⟨rfl, rfl⟩ := Prod.mk.inj (Except.ok.inj h')
  rw [bind_eq_ok hmarked, htokens, placed_append hm, List.flatMap_append, String.ofList_append]

/-- **The server gets what is written.** A text has one reading, and the server takes the text exactly if that has as
many placeholders as there are parameters. Every part then stands as it is written, the i-th placeholder as the marks of
the i-th parameter: one for a value, one for each item of a list in parentheses, and `NULL` in the place of no item. The
parameters are bound in order, lists by their items. A second text that is taken too may follow, unless a percent sign
at the end of the first one makes a mark with its start. -/
theorem bind_of_reads (sql : String) (params : List Value) :
    ∃ ts, (∀ us, Reads sql.toList us ↔ us = ts) ∧
      ((∃ text bound, bind sql params = .ok (text, bound)) ↔ ts.count .parameter = params.length) ∧
      (∀ text bound, bind sql params = .ok (text, bound) →
        text = String.ofList (written ts params) ∧ bound = params.flatMap values ∧
        ∀ sql' params' text' bound', bind sql' params' = .ok (text', bound') →
          ¬ (ts.getLast? = some (.char '%') ∧ CompletesMark sql'.toList) →
          bind (sql ++ sql') (params ++ params') = .ok (text ++ text', bound ++ bound')) ∧
      (∀ v : Value, v.isList = false → marks v = "?" ∧ values v = [v]) ∧
      (∀ items : List Value, values (.list items) = items ∧ marks (.list items) =
        if items = [] then "(NULL)"
        else "(" ++ String.intercalate ", " (List.replicate items.length "?") ++ ")") := by
  refine ⟨tokens sql.toList, ?_, ?_, ?_, ?_, ?_⟩
  · exact fun us => ⟨Reads.eq_tokens, fun h => h ▸ reads_tokens _⟩
  · exact ⟨fun ⟨_, _, h⟩ => marked_of_bind h, fun h => ⟨_, _, bind_eq_written h⟩⟩
  · intro text bound h
    have hwritten := bind_eq_written (marked_of_bind h)
    obtain ⟨rfl, rfl⟩ := Prod.mk.inj (Except.ok.inj (h.symm.trans hwritten))
    exact ⟨rfl, rfl, fun sql' params' text' bound' h' hs => bind_append h h' hs⟩
  · intro v hv
    cases v with
    | list items => cases hv
    | _ => exact ⟨rfl, rfl⟩
  · intro items
    cases items with
    | nil => exact ⟨rfl, rfl⟩
    | cons v items => exact ⟨rfl, (marks_list v items).trans (if_neg (List.cons_ne_nil v items)).symm⟩

/-- A text that ends with a percent sign, and one that begins like the rest of a mark. -/
theorem bind_of_reads_discount :
    ∃ ts, (∀ us, Reads "off %% by %s%".toList us ↔ us = ts) ∧ ts.getLast? = some (.char '%') ∧
      bind "off %% by %s%" [.list [.int 5, .null]] = .ok ("off % by (?, ?)%", [.int 5, .null]) ∧
      bind (" in %s" ++ "s%%") [.list []] = .ok (" in (NULL)s%", []) := by
  obtain ⟨ts, hreads, -⟩ := bind_of_reads "off %% by %s%" [.list [.int 5, .null]]
  obtain ⟨us, hreads', -, happend, -⟩ := bind_of_reads " in %s" [.list []]
  have hts := (hreads _).1 (reads_tokens _)
  have hus := (hreads' _).1 (reads_tokens _)
  refine ⟨ts, hreads, ?_, ?_, ?_⟩
  · rw [← hts]
    decide
  · rfl
  · exact (happend " in (NULL)" [] rfl).2.2 "s%%" [] "s%" [] rfl (by rw [← hus]; decide)

end SqlMapper.Placeholder
