import SqlMapper.Source.TypeName

/-!
# Types that are options

A path is read up to its last name, whatever the names and arguments before it are (`pathSegment_of_path`), since what
stands between angle brackets is passed as a whole (`lastSegment_matched`). So a path is an option exactly if its last
name is `Option` and the first of its arguments is a type (`isOption_iff_of_path`).
-/

namespace SqlMapper.Source

/-- A token that neither opens nor closes an angle bracket, nor begins an arrow. -/
def Token.isPlain : Token → Bool
  | .mark '<' _ | .mark '>' _ | .mark '-' true => false
  | _ => true

/-- Tokens whose angle brackets match. The second mark of an arrow closes none. -/
inductive Matched : List Token → Prop
  | nil : Matched []
  | arrow {joined : Bool} {rest : List Token} : Matched rest → Matched (.mark '-' true :: .mark '>' joined :: rest)
  | brackets {joined joined' : Bool} {inner rest : List Token} : Matched inner → Matched rest →
      Matched (.mark '<' joined :: (inner ++ .mark '>' joined' :: rest))
  | token {t : Token} {rest : List Token} : t.isPlain = true → Matched rest → Matched (t :: rest)

/-- A segment of a path with its name and its arguments. A double colon may stand before the arguments. -/
inductive Segment : List Token → String → List Token → Prop
  | name {name : String} : name ∉ typeKeywords → Segment [.word name] name []
  | arguments {name : String} {colons arguments : List Token} {joined joined' : Bool} : name ∉ typeKeywords →
      (colons = [] ∨ ∃ joined, colons = [.mark ':' true, .mark ':' joined]) → Matched arguments →
      Segment (.word name :: (colons ++ .mark '<' joined :: (arguments ++ [.mark '>' joined']))) name arguments

/-- Segments with double colons between them, with the name and the arguments of the last one. -/
inductive Path : List Token → String → List Token → Prop
  | last {tokens arguments : List Token} {name : String} : Segment tokens name arguments → Path tokens name arguments
  | cons {tokens arguments rest lastArguments : List Token} {name last : String} {joined : Bool} :
      Segment tokens name arguments → Path rest last lastArguments →
      Path (tokens ++ .mark ':' true :: .mark ':' joined :: rest) last lastArguments

/-- A type is an option: the last name of its path is `Option`, and the first of the arguments is a type. -/
def IsOption (tokens : List Token) : Prop :=
  ∃ arguments inner, pathSegment tokens = some ("Option", arguments) ∧ typeArgument? arguments = some inner

variable {name : String} {arguments inner tokens : List Token}

/-- What stands between angle brackets is passed as a whole. -/
theorem lastSegment_matched (h : Matched inner) (segment : Option String) (arguments : List Token) (depth : Nat)
    (rest : List Token) : lastSegment segment arguments (depth + 1) (inner ++ rest) =
      lastSegment segment (arguments ++ inner) (depth + 1) rest := by
  induction h generalizing arguments depth rest with
  | nil => rw [List.nil_append, List.append_nil]
  | arrow _ ih =>
    rw [List.cons_append, List.cons_append, lastSegment, ih, List.append_assoc]
    rfl
  | brackets _ _ ihInner ihRest =>
    rw [List.cons_append, List.append_assoc, lastSegment, ihInner, List.cons_append, lastSegment,
      if_neg (Nat.succ_ne_zero depth), ihRest]
    simp
  | token ht _ ih =>
    rw [List.cons_append, lastSegment, ih, List.append_assoc]
    · rfl
    all_goals
      intros
      subst_vars
      cases ht

/-- A segment is passed as a whole, and its arguments are kept. -/
theorem lastSegment_segment (h : Segment tokens name arguments) (rest : List Token) :
    lastSegment none [] 0 (tokens ++ rest) = lastSegment (some name) arguments 0 rest := by
  cases h with
  | name hname =>
    rw [List.cons_append, List.nil_append, lastSegment, if_neg (by simpa using hname)]
  | arguments hname hcolons hmatched =>
    have hclosed (joined : Bool) : lastSegment (some name) [] 1 ((arguments ++ [.mark '>' joined]) ++ rest) =
        lastSegment (some name) arguments 0 rest := by
      rw [List.append_assoc, lastSegment_matched hmatched, List.cons_append, lastSegment, if_pos rfl]
      rfl
    rw [List.cons_append, lastSegment, if_neg (by simpa using hname), List.append_assoc]
    rcases hcolons with rfl | ⟨joined, rfl⟩
    · rw [List.nil_append, List.cons_append, lastSegment, hclosed]
    · rw [List.cons_append, List.cons_append, List.nil_append, List.cons_append, lastSegment, hclosed]

theorem Segment.exists_word (h : Segment tokens name arguments) : ∃ behind, tokens = .word name :: behind := by
  cases h with
  | name => exact ⟨_, rfl⟩
  | arguments => exact ⟨_, rfl⟩

theorem Path.exists_word (h : Path tokens name arguments) : ∃ word behind, tokens = .word word :: behind := by
  cases h with
  | last h =>
    obtain ⟨behind, rfl⟩ := h.exists_word
    exact ⟨_, _, rfl⟩
  | cons h _ =>
    obtain ⟨behind, rfl⟩ := h.exists_word
    exact ⟨_, _, rfl⟩

/-- **A path is read up to its last name**, and a double colon may stand before it. -/
theorem pathSegment_of_path (h : Path tokens name arguments) : pathSegment tokens = some (name, arguments) ∧
    ∀ joined, pathSegment (.mark ':' true :: .mark ':' joined :: tokens) = some (name, arguments) := by
  have hread : lastSegment none [] 0 tokens = some (name, arguments) := by
    induction h with
    | @last tokens _ _ h =>
      have hpassed := lastSegment_segment h []
      rwa [List.append_nil, lastSegment] at hpassed
    | cons h hpath ih =>
      obtain ⟨word, behind, rfl⟩ := hpath.exists_word
      rw [lastSegment_segment h, lastSegment, ih]
      rintro _ _ _ ⟨⟩
  obtain ⟨word, behind, rfl⟩ := h.exists_word
  exact ⟨hread, fun _ => hread⟩

/-- A path is an option if its last name says so. -/
theorem isOption_iff_of_path (h : Path tokens name arguments) :
    IsOption tokens ↔ name = "Option" ∧ ∃ inner, typeArgument? arguments = some inner := by
  unfold IsOption
  rw [(pathSegment_of_path h).1]
  constructor
  · rintro ⟨_, inner, ⟨⟩, hinner⟩
    exact ⟨rfl, inner, hinner⟩
  · rintro ⟨rfl, inner, hinner⟩
    exact ⟨arguments, inner, rfl, hinner⟩

/-- What a declaration looks at in a type says whether it is an option. -/
theorem TypeName.isOption_ofTokens : (TypeName.ofTokens tokens).isOption = true ↔ IsOption tokens := by
  unfold TypeName.ofTokens IsOption
  split
  · next arguments hpath =>
    rw [hpath]
    split
    · next inner hinner => exact iff_of_true rfl ⟨arguments, inner, rfl, hinner⟩
    · next hnone =>
      refine iff_of_false Bool.false_ne_true ?_
      rintro ⟨_, inner, ⟨⟩, hinner⟩
      rw [hnone] at hinner
      cases hinner
  · next name arguments hname hpath =>
    refine iff_of_false Bool.false_ne_true ?_
    rintro ⟨_, _, hoption, -⟩
    rw [hpath] at hoption
    cases hoption
    exact hname rfl
  · next hpath =>
    refine iff_of_false Bool.false_ne_true ?_
    rintro ⟨_, _, hoption, -⟩
    rw [hpath] at hoption
    cases hoption

end SqlMapper.Source
