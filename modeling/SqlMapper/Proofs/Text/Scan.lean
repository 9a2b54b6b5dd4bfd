import SqlMapper.Value.Literal

/-!
# Scanning statement text

A server reads the text of a statement character by character and tells apart what stands inside quoted texts and what
stands outside of them, where parentheses are counted and a semicolon ends the statement (`Scan.step`). A text is
neutral if a scan outside of quoted texts comes out of it as it went in (`Neutral`). Neutral texts compose
(`Nests.append`), and so do parentheses around them (`Neutral.inParens`); names and literal texts are neutral
whatever they hold, since their marks are doubled and their backslashes escaped (`neutral_identifier`,
`neutral_quoted`).
-/

namespace SqlMapper

/-! ## Scans -/

/-- The marks around quoted texts. -/
inductive Quote where
  | single
  | double
  | back
deriving DecidableEq

/-- The character of a mark. -/
def Quote.mark : Quote → Char
  | single => '\x27'
  | double => '\x22'
  | back => '\x60'

/-- The quoted text that a character begins. Whether a double quote does is up to the server. -/
def Quote.begun? (doubles : Bool) (c : Char) : Option Quote :=
  if c = '\x27' then some .single
  else if c = '\x60' then some .back
  else if doubles = true ∧ c = '\x22' then some .double
  else none

/-- Where a scan stands. -/
inductive Place where
  | outside
  | inside (q : Quote)
  /-- Behind a backslash, inside of a quoted text. -/
  | escaped (q : Quote)
deriving DecidableEq

/-- A scan of statement text: where it stands, and the open parentheses and the semicolons outside of quoted texts. -/
structure Scan where
  place : Place
  depth : Nat
  ended : Nat
deriving DecidableEq

namespace Scan

/-- At the start of a text. -/
def start : Scan := ⟨.outside, 0, 0⟩

/-- The scan behind one more character, unless that closes a parenthesis that is not open. A mark inside of a quoted
text ends the text; if the mark is doubled, its second half begins the text again, and nothing stands in between. -/
def step (doubles : Bool) (s : Scan) (c : Char) : Option Scan :=
  match s.place with
  | .outside =>
    match Quote.begun? doubles c with
    | some q => some { s with place := .inside q }
    | none =>
      if c = '(' then some { s with depth := s.depth + 1 }
      else if c = ')' then if s.depth = 0 then none else some { s with depth := s.depth - 1 }
      else if c = ';' then some { s with ended := s.ended + 1 }
      else some s
  | .inside q =>
    if c = q.mark then some { s with place := .outside }
    else if c = '\x5c' ∧ q ≠ .back then some { s with place := .escaped q }
    else some s
  | .escaped q => some { s with place := .inside q }

/-- The scan behind a text. -/
def run (doubles : Bool) (s : Scan) (cs : List Char) : Option Scan := cs.foldlM (step doubles) s

variable {doubles : Bool} {s t : Scan} {a b : List Char} {c : Char}

@[simp] theorem run_nil : s.run doubles [] = some s := rfl

theorem run_cons : s.run doubles (c :: a) = (s.step doubles c).bind fun t => t.run doubles a := List.foldlM_cons

theorem run_append : s.run doubles (a ++ b) = (s.run doubles a).bind fun t => t.run doubles b := List.foldlM_append

theorem run_append_of_eq (h : s.run doubles a = some t) : s.run doubles (a ++ b) = t.run doubles b := by
  rw [run_append, h, Option.bind_some]

/-- With further parentheses around the text and further semicolons in front of it. -/
def shifted (s : Scan) (depth ended : Nat) : Scan := { s with depth := s.depth + depth, ended := s.ended + ended }

/-- What stands in front of the text does not change how it is scanned. -/
theorem step_shifted (h : s.step doubles c = some t) (depth ended : Nat) :
    (s.shifted depth ended).step doubles c = some (t.shifted depth ended) := by
  obtain ⟨place, nested, ends⟩ := s
  cases place with
  | outside =>
    simp only [step, shifted] at h ⊢
    cases hq : Quote.begun? doubles c with
    | some q =>
      simp only [hq, Option.some.injEq] at h ⊢
      rw [← h]
    | none =>
      simp only [hq] at h ⊢
      grind
  | inside q =>
    simp only [step, shifted] at h ⊢
    grind
  | escaped q =>
    cases h
    rfl

theorem run_shifted {cs : List Char} : ∀ {s t : Scan}, s.run doubles cs = some t → ∀ depth ended : Nat,
    (s.shifted depth ended).run doubles cs = some (t.shifted depth ended) := by
  induction cs with
  | nil =>
    intro s t h depth ended
    cases h
    rfl
  | cons c cs ih =>
    intro s t h depth ended
    rw [run_cons] at h ⊢
    obtain ⟨u, hu, ht⟩ := Option.bind_eq_some_iff.1 h
    rw [step_shifted hu, Option.bind_some]
    exact ih ht depth ended

end Scan

/-! ## Neutral texts -/

/-- A scan outside of quoted texts, with `a` open parentheses, is outside of them behind the text, with `b`. -/
def Nests (doubles : Bool) (a b : Nat) (s : String) : Prop :=
  Scan.run doubles ⟨.outside, a, 0⟩ s.toList = some ⟨.outside, b, 0⟩

/-- Outside of quoted texts, a scan comes out of the text as it went in. -/
def Neutral (doubles : Bool) (s : String) : Prop := Nests doubles 0 0 s

instance (doubles : Bool) (a b : Nat) (s : String) : Decidable (Nests doubles a b s) := by
  unfold Nests
  infer_instance

instance (doubles : Bool) (s : String) : Decidable (Neutral doubles s) := by
  unfold Neutral
  infer_instance

/-- The scan stays inside of the quoted text. -/
def Enclosed (doubles : Bool) (q : Quote) (cs : List Char) : Prop :=
  ∀ depth ended, Scan.run doubles ⟨.inside q, depth, ended⟩ cs = some ⟨.inside q, depth, ended⟩

/-- A character without meaning for a scan, inside or outside of quoted texts. -/
def isHarmless (doubles : Bool) (c : Char) : Bool :=
  (Quote.begun? doubles c).isNone && !(['\x5c', '(', ')', ';'].contains c)

/-- Only such characters. -/
def Harmless (doubles : Bool) (cs : List Char) : Prop := ∀ c ∈ cs, isHarmless doubles c = true

instance (doubles : Bool) (cs : List Char) : Decidable (Harmless doubles cs) :=
  decidable_of_iff (cs.all (isHarmless doubles) = true) List.all_eq_true

section Neutral

variable {doubles : Bool} {q : Quote} {s t : String} {m n k : Nat} {a b cs : List Char} {c : Char}

/-- A text that comes out of a fixed number of parentheses as it should, to every server. -/
theorem nests_fixed (h : ∀ doubles, Nests doubles m n s) : Nests doubles m n s := h doubles

theorem neutral_fixed (h : ∀ doubles, Neutral doubles s) : Neutral doubles s := h doubles

theorem neutral_empty : Neutral doubles "" := rfl

theorem Nests.append (hs : Nests doubles m n s) (ht : Nests doubles n k t) : Nests doubles m k (s ++ t) := by
  unfold Nests at hs ht ⊢
  rw [String.toList_append, Scan.run_append_of_eq hs, ht]

/-- A neutral text is neutral inside of any parentheses. -/
theorem Neutral.nests (h : Neutral doubles s) (n : Nat) : Nests doubles n n s := by
  have hs := Scan.run_shifted h n 0
  rw [Scan.shifted, Nat.zero_add] at hs
  exact hs

/-- Parentheses around a neutral text are closed again. -/
theorem Neutral.inParens (h : Neutral doubles s) : Neutral doubles ("(" ++ s ++ ")") := by
  have hopen : Nests doubles 0 1 "(" := nests_fixed (by decide)
  have hclose : Nests doubles 1 0 ")" := nests_fixed (by decide)
  exact (hopen.append (h.nests 1)).append hclose

/-- Neutral items with a neutral separator. -/
theorem neutral_joinedBy {separator : String} (hsep : Neutral doubles separator) : ∀ {items : List String},
    (∀ s ∈ items, Neutral doubles s) → Neutral doubles (Text.joinedBy separator items)
  | [], _ => neutral_empty
  | [s], h => h s List.mem_cons_self
  | s :: t :: items, h => by
    have ih := neutral_joinedBy hsep fun u hu => h u (List.mem_cons_of_mem _ hu)
    rw [Text.joinedBy]
    · refine ((h s List.mem_cons_self).append ?_).append ih
      split
      · exact neutral_empty
      · exact hsep
    · simp

/-- A choice between neutral texts. -/
theorem Neutral.ite {p : Prop} [Decidable p] (hs : Neutral doubles s) (ht : Neutral doubles t) :
    Neutral doubles (if p then s else t) := by
  split
  · exact hs
  · exact ht

theorem harmless_cons : Harmless doubles (c :: a) ↔ isHarmless doubles c = true ∧ Harmless doubles a := by
  simp [Harmless]

theorem Harmless.append (ha : Harmless doubles a) (hb : Harmless doubles b) : Harmless doubles (a ++ b) := by
  intro c hc
  rcases List.mem_append.1 hc with hc | hc
  · exact ha c hc
  · exact hb c hc

/-- Texts one after the other. -/
theorem Harmless.text (hs : Harmless doubles s.toList) (ht : Harmless doubles t.toList) :
    Harmless doubles (s ++ t).toList := by
  rw [String.toList_append]
  exact hs.append ht

theorem isHarmless_iff : isHarmless doubles c = true ↔
    Quote.begun? doubles c = none ∧ c ≠ '\x5c' ∧ c ≠ '(' ∧ c ≠ ')' ∧ c ≠ ';' := by
  simp [isHarmless]

/-- Where a double quote begins no text, no other character gains a meaning. -/
theorem Harmless.of_doubles (h : Harmless true a) : Harmless doubles a := by
  intro c hc
  obtain ⟨hq, hrest⟩ := isHarmless_iff.1 (h c hc)
  refine isHarmless_iff.2 ⟨?_, hrest⟩
  cases doubles with
  | true => exact hq
  | false =>
    by_cases hs : c = '\x27'
    · simp [Quote.begun?, hs] at hq
    · by_cases hb : c = '\x60'
      · simp [Quote.begun?, hb] at hq
      · simp [Quote.begun?, hs, hb]

theorem isHarmless_of_isAlphanum (h : c.isAlphanum = true) : isHarmless doubles c = true := by
  have hne {d : Char} (hd : d.isAlphanum = false) : c ≠ d := by
    rintro rfl
    rw [h] at hd
    cases hd
  refine isHarmless_iff.2 ⟨?_, hne rfl, hne rfl, hne rfl, hne rfl⟩
  simp [Quote.begun?, hne (d := '\x27') rfl, hne (d := '\x60') rfl, hne (d := '\x22') rfl]

/-- Outside of quoted texts, a scan passes over a character without meaning. -/
theorem step_outside_of_harmless (h : isHarmless doubles c = true) (depth ended : Nat) :
    Scan.step doubles ⟨.outside, depth, ended⟩ c = some ⟨.outside, depth, ended⟩ := by
  obtain ⟨hq, -, ho, hc, hs⟩ := isHarmless_iff.1 h
  simp [Scan.step, hq, ho, hc, hs]

theorem run_outside_of_harmless (h : Harmless doubles cs) (depth ended : Nat) :
    Scan.run doubles ⟨.outside, depth, ended⟩ cs = some ⟨.outside, depth, ended⟩ := by
  induction cs with
  | nil => rfl
  | cons c cs ih =>
    obtain ⟨hc, hcs⟩ := harmless_cons.1 h
    rw [Scan.run_cons, step_outside_of_harmless hc, Option.bind_some]
    exact ih hcs

theorem neutral_of_harmless (h : Harmless doubles s.toList) : Neutral doubles s := run_outside_of_harmless h 0 0

/-! ## Quoted texts -/

theorem Enclosed.append (ha : Enclosed doubles q a) (hb : Enclosed doubles q b) : Enclosed doubles q (a ++ b) := by
  intro depth ended
  rw [Scan.run_append_of_eq (ha depth ended)]
  exact hb depth ended

theorem Enclosed.flatMap {escape : Char → List Char} (h : ∀ c, Enclosed doubles q (escape c)) :
    ∀ cs : List Char, Enclosed doubles q (cs.flatMap escape)
  | [] => fun _ _ => rfl
  | c :: cs => by
    rw [List.flatMap_cons]
    exact (h c).append (Enclosed.flatMap h cs)

/-- A character that is neither the mark nor a backslash stays inside. -/
theorem enclosed_singleton (hm : c ≠ q.mark) (hb : c ≠ '\x5c') : Enclosed doubles q [c] := by
  intro depth ended
  simp [Scan.run_cons, Scan.step, hm, hb]

theorem enclosed_of_harmless (hq : q ≠ .double) (h : Harmless doubles cs) : Enclosed doubles q cs := by
  induction cs with
  | nil => exact fun _ _ => rfl
  | cons c cs ih =>
    obtain ⟨hc, hcs⟩ := harmless_cons.1 h
    obtain ⟨hbegun, hb, -⟩ := isHarmless_iff.1 hc
    refine Enclosed.append (a := [c]) (enclosed_singleton ?_ hb) (ih hcs)
    rintro rfl
    cases q with
    | single | back => simp [Quote.begun?, Quote.mark] at hbegun
    | double => exact hq rfl

/-- Marks around a text that stays inside of them. -/
theorem neutral_between (hq : q ≠ .double) (h : Enclosed doubles q cs) :
    Neutral doubles (String.ofList (q.mark :: cs ++ [q.mark])) := by
  have hopen : Scan.run doubles ⟨.outside, 0, 0⟩ [q.mark] = some ⟨.inside q, 0, 0⟩ := by
    cases q with
    | single | back => rfl
    | double => exact absurd rfl hq
  have hclose : Scan.run doubles ⟨.inside q, 0, 0⟩ [q.mark] = some ⟨.outside, 0, 0⟩ := by
    simp [Scan.run_cons, Scan.step]
  unfold Neutral Nests
  rw [String.toList_ofList, ← List.singleton_append, List.append_assoc, Scan.run_append_of_eq hopen,
    Scan.run_append_of_eq (h 0 0), hclose]

/-- An escaped character stays inside of a literal text: a quote ends the text and begins it again, and a backslash
takes the meaning of another one. -/
theorem enclosed_escape (c : Char) : Enclosed doubles .single (Literal.escape c) := by
  unfold Literal.escape
  split
  · exact fun _ _ => rfl
  · next hm =>
    split
    · exact fun _ _ => rfl
    · next hb => exact enclosed_singleton hm hb

/-- An escaped character stays inside of a name, where a backslash has no meaning. -/
theorem enclosed_escapeIdentifier (c : Char) : Enclosed doubles .back (Literal.escapeIdentifier c) := by
  unfold Literal.escapeIdentifier
  split
  · exact fun _ _ => rfl
  · next hm =>
    intro depth ended
    simp [Scan.run_cons, Scan.step, show c ≠ Quote.back.mark from hm]

theorem neutral_quoted (s : String) : Neutral doubles (Literal.quoted s) := by
  have he : Literal.quoted s =
      String.ofList (Quote.single.mark :: s.toList.flatMap Literal.escape ++ [Quote.single.mark]) := by
    apply String.toList_injective
    simp [Literal.quoted, Literal.escaped, Quote.mark]
  rw [he]
  exact neutral_between (by decide) (Enclosed.flatMap enclosed_escape s.toList)

theorem neutral_identifier (s : String) : Neutral doubles (Literal.identifier s) := by
  have he : Literal.identifier s =
      String.ofList (Quote.back.mark :: s.toList.flatMap Literal.escapeIdentifier ++ [Quote.back.mark]) := rfl
  rw [he]
  exact neutral_between (by decide) (Enclosed.flatMap enclosed_escapeIdentifier s.toList)

end Neutral

end SqlMapper
