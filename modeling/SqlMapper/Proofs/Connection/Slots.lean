import SqlMapper.Proofs.Connection.Names
import SqlMapper.Proofs.Connection.Translation

/-!
# Slots of statements

A statement that gives values to columns has a slot for each of them (`Layout`), and what the server binds to the marks
in a slot goes to its column. Each column gets one value exactly if the parameters in its slot stand for one, and what
follows the slots can be translated (`Layout.bindsOneEach_iff`). The text for the server shows of each parameter whether
it is a list, and how long the list is (`Placeholder.text_eq_iff`).
-/

namespace SqlMapper

namespace Placeholder

variable {v w : Value} {params params' : List Value}

/-! ## Marks that tell parameters apart -/

theorem notMem_commaSeparated {c : Char} (hc : c ∉ ", ".toList) : ∀ {items : List String},
    (∀ s ∈ items, c ∉ s.toList) → c ∉ (Text.commaSeparated items).toList
  | [], _ => by simp [Text.commaSeparated, String.intercalate]
  | [s], h => by
    rw [Text.commaSeparated_singleton]
    exact h s List.mem_cons_self
  | s :: t :: items, h => by
    have ih := notMem_commaSeparated hc fun u hu => h u (List.mem_cons_of_mem _ hu)
    rw [Text.commaSeparated_cons_cons, String.toList_append, String.toList_append, List.mem_append, List.mem_append]
    exact not_or.2 ⟨not_or.2 ⟨h s List.mem_cons_self, hc⟩, ih⟩

/-- A list is marked by a text in one pair of parentheses. -/
theorem exists_marks_list (items : List Value) :
    ∃ body, ')' ∉ body ∧ (marks (.list items)).toList = '(' :: (body ++ [')']) := by
  cases items with
  | nil => exact ⟨"NULL".toList, by decide, rfl⟩
  | cons v items =>
    refine ⟨(Text.commaSeparated ((v :: items).map fun _ => "?")).toList, ?_, ?_⟩
    · refine notMem_commaSeparated (by decide) fun s hs => ?_
      obtain ⟨_, -, rfl⟩ := List.mem_map.1 hs
      decide
    · show ("(" ++ Text.commaSeparated ((v :: items).map fun _ => "?") ++ ")").toList = _
      rw [String.toList_append, String.toList_append]
      rfl

theorem marks_cases (v : Value) : (v.isList = false ∧ marks v = "?") ∨
    (v.isList = true ∧ ∃ body, ')' ∉ body ∧ (marks v).toList = '(' :: (body ++ [')'])) := by
  cases v with
  | list items => exact .inr ⟨rfl, exists_marks_list items⟩
  | _ => exact .inl ⟨rfl, rfl⟩

/-- What stands before the first parenthesis that closes is read off the front of a text. -/
theorem append_close_inj {a b r r' : List Char} (ha : ')' ∉ a) (hb : ')' ∉ b) (h : a ++ ')' :: r = b ++ ')' :: r') :
    a = b ∧ r = r' := by
  have key : ∀ {a b c r r' : List Char}, ')' ∉ b → b = a ++ c → ')' :: r = c ++ ')' :: r' → a = b ∧ r = r' := by
    rintro a _ c r r' hb rfl hc
    cases c with
    | nil => exact ⟨(List.append_nil a).symm, (List.cons.inj hc).2⟩
    | cons d c =>
      obtain ⟨rfl, -⟩ := List.cons.inj hc
      simp at hb
  rcases List.append_eq_append_iff.1 h with ⟨c, hc, hr⟩ | ⟨c, hc, hr⟩
  · exact key hb hc hr
  · exact (key ha hc hr).imp Eq.symm Eq.symm

/-- The marks of a parameter are read off the front of a text. -/
theorem marks_append_inj {r r' : List Char} (h : (marks v).toList ++ r = (marks w).toList ++ r') :
    marks v = marks w ∧ r = r' := by
  rcases marks_cases v with ⟨-, hv⟩ | ⟨-, body, hbody, hv⟩ <;>
    rcases marks_cases w with ⟨-, hw⟩ | ⟨-, body', hbody', hw⟩
  · rw [hv, hw] at h ⊢
    exact ⟨rfl, List.append_cancel_left h⟩
  -- a list and any other value differ in the first character of their marks
  · rw [hv, hw] at h
    cases (List.cons.inj h).1
  · rw [hv, hw] at h
    cases (List.cons.inj h).1
  · rw [hv, hw, List.cons_append, List.cons_append, List.append_assoc, List.append_assoc] at h
    obtain ⟨rfl, hr⟩ := append_close_inj hbody hbody' (List.cons.inj h).2
    exact ⟨String.toList_injective (hv.trans hw.symm), hr⟩

/-- The marks show whether a parameter is a list. -/
theorem isList_eq_of_marks (h : marks v = marks w) : v.isList = w.isList := by
  rcases marks_cases v with ⟨hl, hv⟩ | ⟨hl, body, -, hv⟩ <;>
    rcases marks_cases w with ⟨hl', hw⟩ | ⟨hl', body', -, hw⟩
  · rw [hl, hl']
  · rw [← h, hv] at hw
    cases (List.cons.inj hw).1
  · rw [h, hw] at hv
    cases (List.cons.inj hv).1
  · rw [hl, hl']

theorem length_values_of_scalar (h : v.isList = false) : (values v).length = 1 := by
  cases v with
  | list items => cases h
  | _ => rfl

/-- The marks of a parameter with one value show whether it is a list, and nothing else. -/
theorem marks_eq_of_isList (hv : (values v).length = 1) (hw : (values w).length = 1) (h : v.isList = w.isList) :
    marks v = marks w := by
  cases v with
  | list items =>
    cases w with
    | list items' =>
      obtain ⟨_, rfl⟩ := List.length_eq_one_iff.1 hv
      obtain ⟨_, rfl⟩ := List.length_eq_one_iff.1 hw
      rfl
    | _ => cases h
  | _ => exact (marks_of_scalar h.symm).symm

theorem map_marks_eq (h : ∀ v ∈ params, (values v).length = 1) (h' : ∀ w ∈ params', (values w).length = 1)
    (hl : params.map Value.isList = params'.map Value.isList) : params.map marks = params'.map marks := by
  induction params generalizing params' with
  | nil => rw [List.map_eq_nil_iff.1 hl.symm]
  | cons v params ih =>
    cases params' with
    | nil => cases hl
    | cons w params' =>
      obtain ⟨hv, h⟩ := List.forall_mem_cons.1 h
      obtain ⟨hw, h'⟩ := List.forall_mem_cons.1 h'
      obtain ⟨hvw, hl⟩ := List.cons.inj hl
      rw [List.map_cons, List.map_cons, marks_eq_of_isList hv hw hvw, ih h h' hl]

/-- Two lists of parameters come to one text exactly if they are marked alike. -/
theorem placed_eq_iff : ∀ {ts : List Token} {params params' : List Value}, ts.count .parameter = params.length →
    ts.count .parameter = params'.length → (placed ts params = placed ts params' ↔ params.map marks = params'.map marks)
  | [], [], [], _, _ => iff_of_true rfl rfl
  | [], _ :: _, _, h, _ => by simp at h
  | [], [], _ :: _, _, h => by simp at h
  | .parameter :: _, [], _, h, _ => by simp at h
  | .parameter :: _, _ :: _, [], _, h => by simp at h
  | .parameter :: ts, v :: params, w :: params', h, h' => by
    have ih : placed ts params = placed ts params' ↔ params.map marks = params'.map marks :=
      placed_eq_iff (by simpa using h) (by simpa using h')
    rw [placed, placed, List.map_cons, List.map_cons, List.cons.injEq, ← ih]
    exact ⟨marks_append_inj, fun h => by rw [h.1, h.2]⟩
  | .percent :: ts, params, params', h, h' => by
    rw [placed, placed, List.cons.injEq, placed_eq_iff (by simpa using h) (by simpa using h')]
    exact and_iff_right rfl
  | .char c :: ts, params, params', h, h' => by
    rw [placed, placed, List.cons.injEq, placed_eq_iff (by simpa using h) (by simpa using h')]
    exact and_iff_right rfl

/-- A text is translated alike for two lists of parameters exactly if these are marked alike. -/
theorem text_eq_iff {sql text text' : String} {bound bound' : List Value} (h : bind sql params = .ok (text, bound))
    (h' : bind sql params' = .ok (text', bound')) : text = text' ↔ params.map marks = params'.map marks := by
  have hm := marked_of_bind h
  have hm' := marked_of_bind h'
  rw [bind_eq_ok hm] at h
  rw [bind_eq_ok hm'] at h'
  obtain ⟨rfl, -⟩ := Prod.mk.inj (Except.ok.inj h)
  obtain ⟨rfl, -⟩ := Prod.mk.inj (Except.ok.inj h')
  rw [← placed_eq_iff hm hm']
  exact String.ofList_inj

theorem marked_of_unmarked {cs : List Char} (h : Unmarked cs) : marked cs = 0 := by
  rw [marked, show tokens cs = _ from h, List.count_eq_zero]
  simp

/-- The semicolon that ends a statement makes no mark with what stands in front of it. -/
theorem marked_terminated (sql : String) : marked (Query.terminated sql).toList = marked sql.toList := by
  unfold Query.terminated
  split
  · rfl
  · have hbetween : ¬ MarkBetween sql.toList ";".toList := fun h => absurd h.2 (by decide)
    rw [String.toList_append, marked, tokens_append_iff.2 hbetween, List.count_append]
    rfl

end Placeholder

open Placeholder

/-! ## Slots -/

/-- The server binds the values to what is written in the piece, by itself. -/
def Piece.IsBoundTo (p : Piece) (bound : List Value) : Prop := ∃ text, Placeholder.bind p.text p.params = .ok (text, bound)

theorem Piece.isBoundTo_iff {p : Piece} {bound : List Value} :
    p.IsBoundTo bound ↔ marked p.text.toList = p.params.length ∧ bound = p.params.flatMap values := by
  constructor
  · rintro ⟨text, h⟩
    have hm := marked_of_bind h
    rw [bind_eq_ok hm] at h
    exact ⟨hm, (Prod.mk.inj (Except.ok.inj h)).2.symm⟩
  · rintro ⟨hm, rfl⟩
    exact ⟨_, bind_eq_ok hm⟩

/-- A statement that gives values to columns: the text in front of them, each column with what is written for its value,
and what follows. -/
structure Layout where
  front : String
  slots : List (String × Piece)
  rest : Piece

namespace Layout

variable {l : Layout} {text : String}

/-- The statement as it is written, with commas between the slots. -/
def piece (l : Layout) : Piece := .ofText l.front ++ .separated (l.slots.map Prod.snd) ++ l.rest

/-- The server takes the text for what is written, and binds one value to each slot, in their order, and behind these
the values of what follows. -/
def BindsOneEach (l : Layout) (sql text : String) : Prop :=
  ∃ bound rest, Placeholder.bind sql l.piece.params = .ok (text, bound ++ rest) ∧
    List.Forall₂ (fun slot v => slot.2.IsBoundTo [v]) l.slots bound ∧ l.rest.IsBoundTo rest

/-- No mark stands in front of the slots, and each slot marks the parameters that it has. -/
structure Sound (l : Layout) : Prop where
  front : Marks l.front 0
  slots : ∀ s ∈ l.slots, s.2.Balanced

/-- The slots bind one value each if there is one for each. -/
theorem forall₂_binds : ∀ {slots : List (String × Piece)}, (∀ s ∈ slots, s.2.Balanced) →
    (∀ s ∈ slots, (s.2.params.flatMap values).length = 1) →
    List.Forall₂ (fun slot v => slot.2.IsBoundTo [v]) slots (slots.flatMap fun s => s.2.params.flatMap values)
  | [], _, _ => .nil
  | s :: slots, hb, h => by
    have ih := forall₂_binds (fun t ht => hb t (List.mem_cons_of_mem _ ht)) fun t ht => h t (List.mem_cons_of_mem _ ht)
    obtain ⟨v, hv⟩ := List.length_eq_one_iff.1 (h s List.mem_cons_self)
    rw [List.flatMap_cons, hv, List.singleton_append]
    exact .cons (Piece.isBoundTo_iff.2 ⟨(hb s List.mem_cons_self).2, hv.symm⟩) ih

/-- The parts of a statement that is rendered. -/
theorem parts_of_ok (hok : l.piece.failure = none) :
    l.piece.text = (Piece.ofText l.front ++ .separated (l.slots.map Prod.snd)).text ++ l.rest.text ∧
      l.piece.params = (l.slots.flatMap fun s => s.2.params) ++ l.rest.params := by
  have hslots := (Piece.append_failure_eq_none.1 hok).1
  have hseparated := Piece.separated_failure_eq_none.1 (Piece.append_failure_eq_none.1 hslots).2
  refine ⟨Piece.append_text hok, ?_⟩
  rw [piece, Piece.append_params hok, Piece.append_params hslots, Piece.ofText_params, List.nil_append,
    Piece.separated_of_ok hseparated]
  simp [List.flatMap_map]

/-- What follows the slots is read apart from them, so it decides whether there are as many marks as parameters. -/
theorem marked_eq_iff (h : l.Sound) (hok : l.piece.failure = none) :
    marked (Query.terminated l.piece.text).toList = l.piece.params.length ↔
      marked l.rest.text.toList = l.rest.params.length := by
  obtain ⟨htext, hparams⟩ := parts_of_ok hok
  have hslots := (Piece.append_failure_eq_none.1 hok).1
  have hfront : (Piece.ofText l.front).Balanced := h.front
  have hbalanced : (Piece.ofText l.front ++ .separated (l.slots.map Prod.snd)).Balanced := by
    refine hfront.append (balanced_invariant.separated fun p hp => ?_)
    obtain ⟨s, hs, rfl⟩ := List.mem_map.1 hp
    exact h.slots s hs
  have hcount : (Piece.ofText l.front ++ .separated (l.slots.map Prod.snd)).params.length + l.rest.params.length =
      l.piece.params.length := by
    rw [piece, Piece.append_params hok, List.length_append]
  rw [marked_terminated, htext, String.toList_append, hbalanced.1.marked_append, hbalanced.2, ← hcount,
    Nat.add_right_inj]

/-- Each slot gets one value exactly if it has one, and the rest can be translated. -/
theorem bindsOneEach_iff (h : l.Sound) (hok : l.piece.failure = none) :
    (∃ text, l.BindsOneEach (Query.terminated l.piece.text) text) ↔
      (∀ s ∈ l.slots, (s.2.params.flatMap values).length = 1) ∧ ∃ bound, l.rest.IsBoundTo bound := by
  constructor
  · rintro ⟨text, bound, rest, -, hslots, hrest⟩
    refine ⟨fun s hs => ?_, rest, hrest⟩
    obtain ⟨v, -, hv⟩ := Result.exists_of_mem hslots.flip hs
    rw [← (Piece.isBoundTo_iff.1 hv).2]
    rfl
  · rintro ⟨hone, rest, hrest⟩
    obtain ⟨hmarked, rfl⟩ := Piece.isBoundTo_iff.1 hrest
    have hbound : l.piece.params.flatMap values =
        (l.slots.flatMap fun s => s.2.params.flatMap values) ++ l.rest.params.flatMap values := by
      rw [(parts_of_ok hok).2, List.flatMap_append, List.flatMap_assoc]
    have hbind := bind_eq_ok ((marked_eq_iff h hok).2 hmarked)
    rw [hbound] at hbind
    exact ⟨_, _, _, hbind, forall₂_binds h.slots hone, hrest⟩

end Layout

end SqlMapper
