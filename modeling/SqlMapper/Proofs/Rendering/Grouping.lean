import Mathlib.Data.List.Basic
import SqlMapper.Proofs.Rendering.Invariant
import SqlMapper.Proofs.Rendering.Outline
import SqlMapper.Proofs.Sample
import SqlMapper.Rendering.Context

/-!
# Texts show how expressions are grouped

The text of an outline can be read in one way only, whatever follows it (`Outline.chars_append_inj`): its first
character tells what it is, a keyword is never taken for the beginning of another (`Keyword.eq_of_append`), because
what would be left of the other one does not begin an operand, and names end at a backtick that no backtick follows
(`WrittenName.chars_append_inj`). So two expressions with one text have one outline, and no precedence of operators
plays a part.
-/

namespace SqlMapper

/-! ## Where operands begin -/

/-- The first delimiter of a text. -/
def lead (cs : List Char) : Option Char := cs.find? isDelimiter

/-- The first delimiter of an operand: a call has its parenthesis behind the name. -/
def opensOperand (c : Char) : Bool := ['(', '\x60', '%'].contains c

/-- The text may begin with an operand. -/
def LeadsOperand (cs : List Char) : Prop := (lead cs).any opensOperand = true

theorem lead_append (a b : List Char) : lead (a ++ b) = (lead a).or (lead b) := List.find?_append

/-- A word has no delimiter. -/
theorem FunctionName.lead_append (f : FunctionName) (cs : List Char) : lead (f.text.toList ++ cs) = lead cs := by
  have h : lead f.text.toList = none := by
    rw [lead, List.find?_eq_none]
    intro c hc
    rw [f.unmarked hc]
    exact Bool.false_ne_true
  rw [SqlMapper.lead_append, h, Option.none_or]

theorem WrittenName.exists_chars_eq (w : WrittenName) : ∃ cs, w.chars = '\x60' :: cs := by
  obtain ⟨qualifiers, name⟩ := w
  cases qualifiers with
  | nil => exact ⟨_, rfl⟩
  | cons q qualifiers => exact ⟨_, rfl⟩

theorem Outline.leadsOperand (t : Outline) (r : List Char) : LeadsOperand (t.chars ++ r) := by
  cases t with
  | column w =>
    obtain ⟨cs, hcs⟩ := w.exists_chars_eq
    rw [Outline.chars, hcs]
    rfl
  | call f distinct args =>
    rw [Outline.chars, List.append_assoc, LeadsOperand, FunctionName.lead_append]
    rfl
  | _ =>
    rw [Outline.chars]
    rfl

/-! ## Keywords -/

/-- Every keyword. -/
def Keyword.all : List Keyword :=
  [.plain, .negative, .not, .exists, .notExists, .close, .isNull, .isNotNull, .between false, .between true] ++
    BinaryOp.all.map .operator

theorem Keyword.mem_all (k : Keyword) : k ∈ Keyword.all := by
  cases k with
  | operator op => exact List.mem_append_right _ (List.mem_map_of_mem op.mem_all)
  | between negated => cases negated <;> decide
  | _ => decide

/-- Where a keyword continues another, no operand begins behind the shorter one. -/
theorem Keyword.eq_or_of_prefix : ∀ k ∈ Keyword.all, ∀ k' ∈ Keyword.all, k.chars.isPrefixOf k'.chars = true →
    k = k' ∨ k.isOpen = true ∧ (lead (k'.chars.drop k.chars.length)).any (fun c => !opensOperand c) = true := by
  decide +kernel

/-- A keyword is never the beginning of another one, since an operand follows the shorter. -/
theorem Keyword.eq_of_chars_append {k k' : Keyword} {u u' w : List Char} (hu : k.isOpen = true → LeadsOperand u)
    (hk : k'.chars = k.chars ++ w) (hw : u = w ++ u') : k = k' := by
  have hp : k.chars.isPrefixOf k'.chars = true := List.isPrefixOf_iff_prefix.2 ⟨w, hk.symm⟩
  rcases eq_or_of_prefix k k.mem_all k' k'.mem_all hp with h | ⟨hopen, hlead⟩
  · exact h
  · rw [hk, List.drop_left] at hlead
    have hl := hu hopen
    rw [LeadsOperand, hw, lead_append] at hl
    cases hc : lead w with
    | none =>
      rw [hc] at hlead
      cases hlead
    | some c =>
      rw [hc] at hlead hl
      rw [Option.some_or] at hl
      simp_all

theorem Keyword.eq_of_append {k k' : Keyword} {u u' : List Char} (hu : k.isOpen = true → LeadsOperand u)
    (hu' : k'.isOpen = true → LeadsOperand u') (h : k.chars ++ u = k'.chars ++ u') : k = k' ∧ u = u' := by
  have hk : k = k' := by
    rcases List.append_eq_append_iff.1 h with ⟨w, hk, hw⟩ | ⟨w, hk, hw⟩
    · exact eq_of_chars_append hu hk hw
    · exact (eq_of_chars_append hu' hk hw).symm
  subst hk
  exact ⟨rfl, List.append_cancel_left h⟩

/-! ## Names -/

/-- A name can end in front of the text. -/
def EndsName (r : List Char) : Prop := r.head? ≠ some '\x60' ∧ r.head? ≠ some '.'

theorem endsName_nil : EndsName [] := ⟨nofun, nofun⟩

theorem endsName_cons {c : Char} (h₁ : c ≠ '\x60') (h₂ : c ≠ '.') (cs : List Char) : EndsName (c :: cs) :=
  ⟨fun h => h₁ (Option.some.inj h), fun h => h₂ (Option.some.inj h)⟩

/-- What stands behind an operand begins with a space or a parenthesis. -/
theorem Keyword.head?_of_follows : ∀ k ∈ Keyword.all, k.follows = true →
    k.chars.head? = some ' ' ∨ k.chars.head? = some ')' := by
  decide +kernel

theorem Keyword.endsName {k : Keyword} (h : k.follows = true) (cs : List Char) : EndsName (k.chars ++ cs) := by
  cases hk : k.chars with
  | nil =>
    have := head?_of_follows k k.mem_all h
    rw [hk] at this
    cases this <;> contradiction
  | cons c ds =>
    have hc := head?_of_follows k k.mem_all h
    rw [hk, List.head?_cons, Option.some.injEq, Option.some.injEq] at hc
    rcases hc with rfl | rfl <;> exact endsName_cons (by decide) (by decide) _

theorem Literal.escapeIdentifier_of_ne {c : Char} (h : c ≠ '\x60') : Literal.escapeIdentifier c = [c] := if_neg h

/-- The backtick that ends an identifier is not the first of two. -/
theorem ne_escaped_append {r : List Char} (hr : r.head? ≠ some '\x60') (c : Char) (cs : List Char) :
    '\x60' :: r ≠ Literal.escapeIdentifier c ++ cs := by
  intro h
  by_cases hc : c = '\x60'
  · rw [hc] at h
    exact hr (congrArg List.head? (List.cons.inj h).2)
  · rw [Literal.escapeIdentifier_of_ne hc] at h
    exact hc (List.cons.inj h).1.symm

theorem escapeIdentifier_append_inj {c d : Char} {cs ds : List Char}
    (h : Literal.escapeIdentifier c ++ cs = Literal.escapeIdentifier d ++ ds) : c = d ∧ cs = ds := by
  by_cases hc : c = '\x60' <;> by_cases hd : d = '\x60'
  · subst hc hd
    exact ⟨rfl, List.append_cancel_left h⟩
  · rw [hc, Literal.escapeIdentifier_of_ne hd] at h
    exact absurd (List.cons.inj h).1.symm hd
  · rw [hd, Literal.escapeIdentifier_of_ne hc] at h
    exact absurd (List.cons.inj h).1 hc
  · rw [Literal.escapeIdentifier_of_ne hc, Literal.escapeIdentifier_of_ne hd] at h
    exact List.cons.inj h

theorem escaped_append_inj {r r' : List Char} (hr : r.head? ≠ some '\x60') (hr' : r'.head? ≠ some '\x60') :
    ∀ {cs ds : List Char}, cs.flatMap Literal.escapeIdentifier ++ '\x60' :: r =
      ds.flatMap Literal.escapeIdentifier ++ '\x60' :: r' → cs = ds ∧ r = r'
  | [], [], h => ⟨rfl, (List.cons.inj h).2⟩
  | [], d :: ds, h => by
    rw [List.flatMap_cons, List.append_assoc] at h
    exact absurd h (ne_escaped_append hr d _)
  | c :: cs, [], h => by
    rw [List.flatMap_cons, List.append_assoc] at h
    exact absurd h.symm (ne_escaped_append hr' c _)
  | c :: cs, d :: ds, h => by
    rw [List.flatMap_cons, List.flatMap_cons, List.append_assoc, List.append_assoc] at h
    obtain ⟨rfl, hrest⟩ := escapeIdentifier_append_inj h
    obtain ⟨rfl, hr⟩ := escaped_append_inj hr hr' hrest
    exact ⟨rfl, hr⟩

/-- An identifier is read up to the backtick that ends it. -/
theorem quotedChars_append_inj {s s' : String} {r r' : List Char} (hr : r.head? ≠ some '\x60')
    (hr' : r'.head? ≠ some '\x60') (h : quotedChars s ++ r = quotedChars s' ++ r') : s = s' ∧ r = r' := by
  unfold quotedChars at h
  rw [List.append_assoc, List.append_assoc] at h
  obtain ⟨hs, hrest⟩ := escaped_append_inj hr hr' h
  exact ⟨String.toList_inj.1 hs, hrest⟩

theorem WrittenName.chars_cons_append (q : String) (qualifiers : List String) (name : String) (r : List Char) :
    WrittenName.chars ⟨q :: qualifiers, name⟩ ++ r =
      '\x60' :: (quotedChars q ++ '.' :: (WrittenName.chars ⟨qualifiers, name⟩ ++ r)) := by
  simp [WrittenName.chars]

/-- A written name is read up to the text that ends it. -/
theorem WrittenName.chars_append_inj {r r' : List Char} {name name' : String} (hr : EndsName r) (hr' : EndsName r') :
    ∀ {qualifiers qualifiers' : List String}, WrittenName.chars ⟨qualifiers, name⟩ ++ r =
      WrittenName.chars ⟨qualifiers', name'⟩ ++ r' →
        (⟨qualifiers, name⟩ : WrittenName) = ⟨qualifiers', name'⟩ ∧ r = r'
  | [], [], h => by
    obtain ⟨rfl, hrest⟩ := quotedChars_append_inj hr.1 hr'.1 (List.cons.inj h).2
    exact ⟨rfl, hrest⟩
  | [], q :: qualifiers, h => by
    rw [chars_cons_append] at h
    obtain ⟨-, hrest⟩ := quotedChars_append_inj hr.1 (by simp) (List.cons.inj h).2
    exact absurd (congrArg List.head? hrest) hr.2
  | q :: qualifiers, [], h => by
    rw [chars_cons_append] at h
    obtain ⟨-, hrest⟩ := quotedChars_append_inj (by simp) hr'.1 (List.cons.inj h).2
    exact absurd (congrArg List.head? hrest).symm hr'.2
  | q :: qualifiers, q' :: qualifiers', h => by
    rw [chars_cons_append, chars_cons_append] at h
    obtain ⟨rfl, hrest⟩ := quotedChars_append_inj (by simp) (by simp) (List.cons.inj h).2
    obtain ⟨hw, hr⟩ := WrittenName.chars_append_inj hr hr' (List.cons.inj hrest).2
    cases hw
    exact ⟨rfl, hr⟩

/-! ## Groups -/

/-- What stands in a pair of parentheses: a keyword, an operand, the keyword behind it and what is left, which begins
with an operand if the keyword needs one. -/
structure Group where
  opening : Keyword
  first : Outline
  keyword : Keyword
  rest : List Char
  follows : keyword.follows = true
  leads : keyword.isOpen = true → ∀ cs, LeadsOperand (rest ++ cs)

theorem UnaryOp.follows_closing (op : UnaryOp) : op.closing.follows = true := by cases op <;> rfl

theorem UnaryOp.isOpen_closing (op : UnaryOp) : op.closing.isOpen = false := by cases op <;> rfl

theorem Outline.leadsOperand_append (t : Outline) (r cs : List Char) : LeadsOperand (t.chars ++ r ++ cs) := by
  rw [List.append_assoc]
  exact t.leadsOperand _

/-- The group that an outline is written as. -/
def Outline.group? : Outline → Option Group
  | .hole | .column _ | .call .. => none
  | .binary op lhs rhs =>
    some ⟨.plain, lhs, .operator op, rhs.chars ++ Keyword.close.chars, rfl, fun _ => rhs.leadsOperand_append _⟩
  | .unary op arg =>
    some ⟨op.opening, arg, op.closing, [], op.follows_closing, fun h => nomatch op.isOpen_closing.symm.trans h⟩
  | .between negated operand low high =>
    some ⟨.plain, operand, .between negated,
      low.chars ++ ((Keyword.operator .and).chars ++ (high.chars ++ Keyword.close.chars)), rfl,
      fun _ => low.leadsOperand_append _⟩

theorem Outline.chars_of_group? {t : Outline} {g : Group} (h : t.group? = some g) :
    t.chars = '(' :: (g.opening.chars ++ (g.first.chars ++ (g.keyword.chars ++ g.rest))) := by
  cases t with
  | hole | column _ | call _ _ _ => cases h
  | unary op arg =>
    cases h
    rw [chars, List.append_nil]
  | _ =>
    cases h
    rw [chars]
    rfl

/-- The delimiter that an outline begins with; a call begins with a word. -/
def Outline.initial : Outline → Option Char
  | .hole => some '%'
  | .column _ => some '\x60'
  | .call .. => none
  | _ => some '('

theorem Outline.filter_head? (t : Outline) (r : List Char) : (t.chars ++ r).head?.filter isDelimiter = t.initial := by
  cases t with
  | column w =>
    obtain ⟨cs, hcs⟩ := w.exists_chars_eq
    rw [chars, hcs]
    rfl
  | call f distinct args =>
    obtain ⟨c, cs, hcs⟩ := List.exists_cons_of_ne_nil f.nonempty
    have hc : isDelimiter c = false := f.unmarked (by rw [hcs]; exact List.mem_cons_self)
    rw [chars, hcs]
    show (some c).filter isDelimiter = none
    simp [hc]
  | _ =>
    rw [chars]
    rfl

theorem Outline.initial_eq {t t' : Outline} {r r' : List Char} (h : t.chars ++ r = t'.chars ++ r') :
    t.initial = t'.initial := by
  rw [← filter_head? t r, ← filter_head? t' r', h]

theorem Outline.exists_group?_of_initial {t : Outline} (h : t.initial = some '(') : ∃ g, t.group? = some g := by
  cases t with
  | hole | column _ | call _ _ _ => cases h
  | _ => exact ⟨_, rfl⟩

/-- An outline with the text of a group is a group with the same opening keyword, the same first operand and the same
keyword behind it, if that operand can be read in one way only. -/
theorem Outline.group_append_inj {t t' : Outline} {g : Group} {r r' : List Char} (hg : t.group? = some g)
    (hi : t'.initial = some '(') (ih : ∀ {x : Outline} {s s' : List Char}, EndsName s → EndsName s' →
      g.first.chars ++ s = x.chars ++ s' → g.first = x ∧ s = s') (h : t.chars ++ r = t'.chars ++ r') :
    ∃ g', t'.group? = some g' ∧ g.opening = g'.opening ∧ g.first = g'.first ∧ g.keyword = g'.keyword ∧
      g.rest ++ r = g'.rest ++ r' := by
  obtain ⟨g', hg'⟩ := exists_group?_of_initial hi
  rw [chars_of_group? hg, chars_of_group? hg'] at h
  simp only [List.cons_append, List.append_assoc, List.cons.injEq, true_and] at h
  obtain ⟨hopening, h⟩ := Keyword.eq_of_append (fun _ => g.first.leadsOperand _) (fun _ => g'.first.leadsOperand _) h
  obtain ⟨hfirst, h⟩ := ih (Keyword.endsName g.follows _) (Keyword.endsName g'.follows _) h
  obtain ⟨hkeyword, h⟩ := Keyword.eq_of_append (fun ho => g.leads ho _) (fun ho => g'.leads ho _) h
  exact ⟨g', hg', hopening, hfirst, hkeyword, h⟩

/-! ## Unique reading -/

/-- What stands in front of the first of some character is read in one way. -/
theorem append_cons_inj_of_notMem_left {c : Char} {rest rest' : List Char} : ∀ {cs ds : List Char}, c ∉ cs → c ∉ ds →
    cs ++ c :: rest = ds ++ c :: rest' → cs = ds ∧ rest = rest'
  | [], [], _, _, h => ⟨rfl, (List.cons.inj h).2⟩
  | [], d :: ds, _, hd, h => absurd (List.mem_cons.2 (.inl (List.cons.inj h).1)) hd
  | a :: cs, [], hc, _, h => absurd (List.mem_cons.2 (.inl (List.cons.inj h).1.symm)) hc
  | a :: cs, d :: ds, hc, hd, h => by
    obtain ⟨rfl, htail⟩ := List.cons.inj h
    obtain ⟨rfl, hrest⟩ := append_cons_inj_of_notMem_left (fun hm => hc (List.mem_cons_of_mem _ hm))
      (fun hm => hd (List.mem_cons_of_mem _ hm)) htail
    exact ⟨rfl, hrest⟩

/-- The name of a function ends at the parenthesis. -/
theorem FunctionName.append_inj {f f' : FunctionName} {cs cs' : List Char}
    (h : f.text.toList ++ '(' :: cs = f'.text.toList ++ '(' :: cs') : f = f' ∧ cs = cs' := by
  have hnot : ∀ g : FunctionName, '(' ∉ g.text.toList := fun g hc => nomatch g.unmarked hc
  obtain ⟨htext, hrest⟩ := append_cons_inj_of_notMem_left (hnot f) (hnot f') h
  exact ⟨FunctionName.ext (String.toList_inj.1 htext), hrest⟩

theorem Outline.argChars_cons_ne (t : Outline) (ts : List Outline) (r r' : List Char) :
    argChars (t :: ts) ++ r ≠ argChars [] ++ r' := by
  intro h
  have ht := t.leadsOperand (moreArgChars ts ++ r)
  rw [← List.append_assoc] at ht
  rw [show t.chars ++ moreArgChars ts ++ r = [')'] ++ r' from h] at ht
  cases ht

/-- Arguments do not begin with a space behind a word. -/
theorem Outline.lead_argChars_ne (ts : List Outline) (r : List Char) : lead (argChars ts ++ r) ≠ some ' ' := by
  cases ts with
  | nil =>
    rw [argChars]
    exact nofun
  | cons t ts =>
    intro h
    have ht := t.leadsOperand (moreArgChars ts ++ r)
    rw [argChars, List.append_assoc] at h
    rw [LeadsOperand, h] at ht
    cases ht

theorem Outline.distinct_append_inj {distinct distinct' : Bool} {ts ts' : List Outline} {r r' : List Char}
    (h : (if distinct then "DISTINCT " else "").toList ++ (argChars ts ++ r) =
      (if distinct' then "DISTINCT " else "").toList ++ (argChars ts' ++ r')) :
    distinct = distinct' ∧ argChars ts ++ r = argChars ts' ++ r' := by
  cases distinct <;> cases distinct'
  · exact ⟨rfl, h⟩
  · exact absurd (congrArg lead h) (lead_argChars_ne ts r)
  · exact absurd (congrArg lead h).symm (lead_argChars_ne ts' r')
  · exact ⟨rfl, List.append_cancel_left h⟩

theorem Outline.endsName_moreArgChars (ts : List Outline) (r : List Char) : EndsName (moreArgChars ts ++ r) := by
  cases ts with
  | nil => exact endsName_cons (by decide) (by decide) _
  | cons t ts => exact endsName_cons (c := ',') (by decide) (by decide) _

theorem UnaryOp.eq_of_keywords {op op' : UnaryOp} (ho : op.opening = op'.opening) (hc : op.closing = op'.closing) :
    op = op' := by
  cases op <;> cases op' <;> first | rfl | exact absurd ho (by decide) | exact absurd hc (by decide)

mutual

/-- **An outline is read from its text in one way**, whatever follows that ends a name. -/
theorem Outline.chars_append_inj : ∀ {t t' : Outline} {r r' : List Char}, EndsName r → EndsName r' →
    t.chars ++ r = t'.chars ++ r' → t = t' ∧ r = r'
  -- the first delimiter tells holes, names, calls and groups apart, and the keywords of a group tell its node
  | .hole, t', r, r', _, _, h => by
    have hi := initial_eq h
    cases t' with
    | hole => exact ⟨rfl, List.append_cancel_left h⟩
    | _ => cases hi
  | .column w, t', r, r', hr, hr', h => by
    have hi := initial_eq h
    cases t' with
    | column w' =>
      rw [chars, chars] at h
      obtain ⟨hw, hrest⟩ := WrittenName.chars_append_inj hr hr' h
      exact ⟨congrArg column hw, hrest⟩
    | _ => cases hi
  | .call f distinct args, t', r, r', _, _, h => by
    have hi := initial_eq h
    cases t' with
    | call f' distinct' args' =>
      simp only [chars, List.append_assoc, List.cons_append] at h
      obtain ⟨rfl, hargs⟩ := FunctionName.append_inj h
      obtain ⟨rfl, hclosed⟩ := distinct_append_inj hargs
      obtain ⟨rfl, hrest⟩ := Outline.argChars_append_inj hclosed
      exact ⟨rfl, hrest⟩
    | _ => cases hi
  | .binary op lhs rhs, t', r, r', _, _, h => by
    have hi := initial_eq h
    obtain ⟨g', hg', hopening, hfirst, hkeyword, h⟩ := group_append_inj rfl hi.symm
      (Outline.chars_append_inj (t := lhs)) h
    cases t' with
    | binary op' lhs' rhs' =>
      cases hg'
      cases hkeyword
      cases hfirst
      rw [List.append_assoc, List.append_assoc] at h
      obtain ⟨rfl, hclose⟩ := Outline.chars_append_inj (Keyword.endsName rfl _) (Keyword.endsName rfl _) h
      exact ⟨rfl, List.append_cancel_left hclose⟩
    | unary op' arg' =>
      cases hg'
      cases op' <;> cases hkeyword
    | between _ _ _ _ =>
      cases hg'
      cases hkeyword
    | _ => cases hi
  | .unary op arg, t', r, r', _, _, h => by
    have hi := initial_eq h
    obtain ⟨g', hg', hopening, hfirst, hkeyword, h⟩ := group_append_inj rfl hi.symm
      (Outline.chars_append_inj (t := arg)) h
    cases t' with
    | unary op' arg' =>
      cases hg'
      cases UnaryOp.eq_of_keywords hopening hkeyword
      cases hfirst
      exact ⟨rfl, h⟩
    | binary _ _ _ =>
      cases hg'
      cases op <;> cases hkeyword
    | between _ _ _ _ =>
      cases hg'
      cases op <;> cases hkeyword
    | _ => cases hi
  | .between negated operand low high, t', r, r', _, _, h => by
    have hi := initial_eq h
    obtain ⟨g', hg', hopening, hfirst, hkeyword, h⟩ := group_append_inj rfl hi.symm
      (Outline.chars_append_inj (t := operand)) h
    cases t' with
    | between negated' operand' low' high' =>
      cases hg'
      cases hkeyword
      cases hfirst
      simp only [List.append_assoc] at h
      -- `AND` stands between the bounds at a place where nothing else can, so there is nothing to tell it from
      obtain ⟨rfl, hand⟩ := Outline.chars_append_inj (Keyword.endsName rfl _) (Keyword.endsName rfl _) h
      obtain ⟨rfl, hclose⟩ := Outline.chars_append_inj (Keyword.endsName rfl _) (Keyword.endsName rfl _)
        (List.append_cancel_left hand)
      exact ⟨rfl, List.append_cancel_left hclose⟩
    | binary _ _ _ =>
      cases hg'
      cases hkeyword
    | unary op' arg' =>
      cases hg'
      cases op' <;> cases hkeyword
    | _ => cases hi

theorem Outline.argChars_append_inj : ∀ {ts ts' : List Outline} {r r' : List Char},
    argChars ts ++ r = argChars ts' ++ r' → ts = ts' ∧ r = r'
  | [], [], _, _, h => ⟨rfl, List.append_cancel_left h⟩
  | [], t' :: ts', r, r', h => absurd h.symm (argChars_cons_ne t' ts' r' r)
  | t :: ts, [], r, r', h => absurd h (argChars_cons_ne t ts r r')
  | t :: ts, t' :: ts', r, r', h => by
    rw [argChars, argChars, List.append_assoc, List.append_assoc] at h
    obtain ⟨rfl, hmore⟩ := Outline.chars_append_inj (endsName_moreArgChars _ _) (endsName_moreArgChars _ _) h
    obtain ⟨rfl, hrest⟩ := Outline.moreArgChars_append_inj hmore
    exact ⟨rfl, hrest⟩

theorem Outline.moreArgChars_append_inj : ∀ {ts ts' : List Outline} {r r' : List Char},
    moreArgChars ts ++ r = moreArgChars ts' ++ r' → ts = ts' ∧ r = r'
  | [], [], _, _, h => ⟨rfl, List.append_cancel_left h⟩
  | [], t' :: ts', r, r', h => by
    rw [moreArgChars, moreArgChars] at h
    cases (List.cons.inj h).1
  | t :: ts, [], r, r', h => by
    rw [moreArgChars, moreArgChars] at h
    cases (List.cons.inj h).1
  | t :: ts, t' :: ts', r, r', h => by
    rw [moreArgChars, moreArgChars] at h
    simp only [List.append_assoc] at h
    obtain ⟨rfl, hmore⟩ := Outline.chars_append_inj (endsName_moreArgChars _ _) (endsName_moreArgChars _ _)
      (List.append_cancel_left h)
    obtain ⟨rfl, hrest⟩ := Outline.moreArgChars_append_inj hmore
    exact ⟨rfl, hrest⟩

end

/-- **The text determines the grouping**: expressions that add one text to a statement, under options that bind values,
have one outline. -/
theorem Expr.outline_eq_of_text_eq {c : Context} {e e' : Expr} {t t' : Outline} (hb : c.options.bind = true)
    (ht : e.outline? c.options.qualify = some t) (ht' : e'.outline? c.options.qualify = some t')
    (hok : (c.addExpr e).2 = none) (hok' : (c.addExpr e').2 = none)
    (h : (c.addExpr e).1.text = (c.addExpr e').1.text) : t = t' := by
  have hw : (e.piece c.options).text.toList = t.chars := Expr.piece_writes hb ht hok
  have hw' : (e'.piece c.options).text.toList = t'.chars := Expr.piece_writes hb ht' hok'
  have htext : c.text.toList ++ t.chars = c.text.toList ++ t'.chars := by
    rw [← hw, ← hw', ← String.toList_append, ← String.toList_append]
    exact congrArg String.toList h
  have hchars : t.chars ++ [] = t'.chars ++ [] := congrArg (· ++ []) (List.append_cancel_left htext)
  exact (Outline.chars_append_inj endsName_nil endsName_nil hchars).1

/-- People of no known age, or below a limit. -/
def Sample.young (unknown : Expr) (limit : Value) : Expr :=
  .binary .or (.expr unknown) (.expr (.binary .less (column person 2) (.value limit)))

theorem outline_eq_young :
    let e := Sample.young (.unary .isNull (Sample.column Sample.person 2)) (.int 18)
    let e' := Sample.young (.binary .isOp (Sample.column Sample.person 2) (.value .null)) (.int 21)
    (Context.addExpr {} e).1.text = (Context.addExpr {} e').1.text ∧
      ∃ t t', e.outline? false = some t ∧ e'.outline? false = some t' ∧ t = t' := by
  intro e e'
  have htext : (Context.addExpr {} e).1.text = (Context.addExpr {} e').1.text := rfl
  obtain ⟨t, ht⟩ : ∃ t, e.outline? false = some t := ⟨_, rfl⟩
  obtain ⟨t', ht'⟩ : ∃ t', e'.outline? false = some t' := ⟨_, rfl⟩
  exact ⟨htext, t, t', ht, ht', Expr.outline_eq_of_text_eq (c := {}) rfl ht ht' rfl rfl htext⟩

end SqlMapper
