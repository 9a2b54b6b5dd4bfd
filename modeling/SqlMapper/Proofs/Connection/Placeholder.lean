import SqlMapper.Connection.Placeholder
import SqlMapper.Proofs.Result

/-!
# Reading placeholders

The parts of a text can be read piecewise where no piece ends within a mark (`Closed`), as is the case where it does not
end with a percent sign (`closed_of_getLast?`): such pieces compose (`Closed.append`) and their placeholders add up
(`Marks.append`). A percent sign stands for itself unless another one or the letter of a mark follows it
(`unmarked_iff`). The server accepts as many parameters as the text marks (`marked_of_bind`), and then it binds all of
them in order and puts marks in their places (`bind_eq_ok`).
-/

namespace SqlMapper.Placeholder

/-! ## The parts of a text -/

/-- The parts of a text, whatever follows it. -/
def Closed (cs : List Char) : Prop := ∀ rest, tokens (cs ++ rest) = tokens cs ++ tokens rest

/-- The number of parameters that a text marks. -/
def marked (cs : List Char) : Nat := (tokens cs).count .parameter

variable {a b cs : List Char}

@[simp]
theorem tokens_nil : tokens [] = [] := rfl

@[simp]
theorem tokens_percent (rest : List Char) : tokens ('%' :: '%' :: rest) = .percent :: tokens rest := rfl

@[simp]
theorem tokens_mark (rest : List Char) : tokens ('%' :: 's' :: rest) = .parameter :: tokens rest := rfl

/-- What is no mark begins with a character that stands for itself. -/
theorem tokens_char {c : Char} {rest : List Char} (hpercent : ∀ rest', c = '%' → rest = '%' :: rest' → False)
    (hmark : ∀ rest', c = '%' → rest = 's' :: rest' → False) : tokens (c :: rest) = .char c :: tokens rest := by
  rw [tokens]
  · exact hpercent
  · exact hmark

/-- A character other than the percent sign is a part by itself. -/
theorem tokens_cons {c : Char} (hc : c ≠ '%') (rest : List Char) : tokens (c :: rest) = .char c :: tokens rest :=
  tokens_char (fun _ h _ => hc h) fun _ h _ => hc h

theorem tokens_of_no_percent : ∀ {cs : List Char}, '%' ∉ cs → tokens cs = cs.map .char
  | [], _ => rfl
  | c :: cs, h => by
    rw [List.mem_cons, not_or] at h
    rw [tokens_cons (Ne.symm h.1), tokens_of_no_percent h.2, List.map_cons]

theorem closed_nil : Closed [] := fun _ => rfl

theorem Closed.append (ha : Closed a) (hb : Closed b) : Closed (a ++ b) := by
  intro rest
  rw [List.append_assoc, ha, hb, ha, List.append_assoc]

/-- A text without percent sign is read character by character. -/
theorem closed_of_no_percent : ∀ {cs : List Char}, '%' ∉ cs → Closed cs
  | [], _ => closed_nil
  | c :: cs, h => by
    intro rest
    rw [List.mem_cons, not_or] at h
    rw [List.cons_append, tokens_cons (Ne.symm h.1), tokens_cons (Ne.symm h.1), closed_of_no_percent h.2 rest,
      List.cons_append]

theorem closed_mark : Closed "%s".toList := fun _ => rfl

/-- The percent sign of the remainder stands alone, since a space follows it. -/
theorem closed_remainder : Closed " % ".toList := fun _ => rfl

theorem marked_mark : marked "%s".toList = 1 := rfl

theorem marked_remainder : marked " % ".toList = 0 := rfl

theorem marked_of_no_percent (h : '%' ∉ cs) : marked cs = 0 := by
  rw [marked, tokens_of_no_percent h, List.count_eq_zero]
  simp

/-- The placeholders of closed texts add up. -/
theorem Closed.marked_append (h : Closed a) (b : List Char) : marked (a ++ b) = marked a + marked b := by
  rw [marked, h b, List.count_append]
  rfl

/-- The text marks `n` parameters, and its parts are the same whatever follows it. -/
def Marks (s : String) (n : Nat) : Prop := Closed s.toList ∧ marked s.toList = n

theorem marks_placeholder : Marks "%s" 1 := ⟨closed_mark, marked_mark⟩

theorem marks_zero_of_no_percent {s : String} (h : '%' ∉ s.toList) : Marks s 0 :=
  ⟨closed_of_no_percent h, marked_of_no_percent h⟩

theorem Marks.append {s t : String} {m n : Nat} (hs : Marks s m) (ht : Marks t n) : Marks (s ++ t) (m + n) := by
  refine ⟨?_, ?_⟩
  · rw [String.toList_append]
    exact hs.1.append ht.1
  · rw [String.toList_append, hs.1.marked_append, hs.2, ht.2]

theorem Marks.zero_append {s t : String} {n : Nat} (hs : Marks s 0) (ht : Marks t n) : Marks (s ++ t) n :=
  Nat.zero_add n ▸ hs.append ht

theorem Marks.append_zero {s t : String} {n : Nat} (hs : Marks s n) (ht : Marks t 0) : Marks (s ++ t) n := hs.append ht

/-! ## Texts without marks -/

/-- Every character of the text stands for itself. -/
def Unmarked (cs : List Char) : Prop := tokens cs = cs.map .char

/-- The marks are a percent sign in front of another one or of the letter of a parameter. -/
theorem unmarked_iff : Unmarked cs ↔ ¬ ['%', '%'] <:+: cs ∧ ¬ ['%', 's'] <:+: cs := by
  unfold Unmarked
  induction cs using tokens.induct with
  | case1 rest ih => simp [List.infix_cons_iff]
  | case2 rest ih => simp [List.infix_cons_iff]
  | case3 c rest hpercent hmark ih =>
    have hfirst : ∀ d, (∀ rest', c = '%' → rest = d :: rest' → False) → ¬ ['%', d] <+: c :: rest := by
      intro d hd h
      obtain ⟨rfl, rest', h⟩ := List.cons_prefix_cons.1 h
      exact hd rest' rfl h.symm
    rw [tokens_char hpercent hmark, List.map_cons, List.cons.injEq, ih, List.infix_cons_iff, List.infix_cons_iff]
    simp [hfirst _ hpercent, hfirst _ hmark]
  | case4 => simp

/-- A text that does not end with a percent sign is read to its end. -/
theorem closed_of_getLast? (h : cs.getLast? ≠ some '%') : Closed cs := by
  induction cs using tokens.induct with
  | case1 rest ih | case2 rest ih =>
    have hrest : rest.getLast? ≠ some '%' := by
      cases rest with
      | nil => exact nofun
      | cons d rest => rwa [List.getLast?_cons_cons, List.getLast?_cons_cons] at h
    intro more
    simp only [List.cons_append, tokens_percent, tokens_mark, ih hrest more]
  | case3 c rest hpercent hmark ih =>
    cases rest with
    | nil =>
      refine closed_of_no_percent ?_
      rw [List.mem_singleton]
      exact fun hc => h (by rw [← hc]; rfl)
    | cons d rest =>
      intro more
      rw [List.getLast?_cons_cons] at h
      have hlong : tokens (c :: (d :: rest ++ more)) = .char c :: tokens (d :: rest ++ more) :=
        tokens_char (fun _ hc hd => hpercent rest hc (by rw [(List.cons.inj hd).1]))
          fun _ hc hd => hmark rest hc (by rw [(List.cons.inj hd).1])
      rw [List.cons_append, hlong, ih h, tokens_char hpercent hmark, List.cons_append]
  | case4 => exact closed_nil

theorem length_tokens_le : (tokens cs).length ≤ cs.length := by
  induction cs using tokens.induct with
  | case1 rest ih | case2 rest ih =>
    simp only [tokens_percent, tokens_mark, List.length_cons]
    omega
  | case3 c rest hpercent hmark ih =>
    rw [tokens_char hpercent hmark]
    exact Nat.succ_le_succ ih
  | case4 => exact Nat.le_refl 0

/-- A mark has more characters than it stands for. -/
theorem unmarked_of_length (h : cs.length ≤ (tokens cs).length) : Unmarked cs := by
  unfold Unmarked
  induction cs using tokens.induct with
  | case1 rest ih | case2 rest ih =>
    have hrest : (tokens rest).length ≤ rest.length := length_tokens_le
    simp only [tokens_percent, tokens_mark, List.length_cons] at h
    omega
  | case3 c rest hpercent hmark ih =>
    rw [tokens_char hpercent hmark] at h ⊢
    rw [ih (Nat.le_of_succ_le_succ h), List.map_cons]
  | case4 => rfl

theorem unmarked_append (ha : Closed a) : Unmarked (a ++ b) ↔ Unmarked a ∧ Unmarked b := by
  constructor
  · intro h
    have hlength := congrArg List.length (h : tokens (a ++ b) = _)
    rw [ha b, List.length_append, List.length_map, List.length_append] at hlength
    have hla : (tokens a).length ≤ a.length := length_tokens_le
    have hlb : (tokens b).length ≤ b.length := length_tokens_le
    exact ⟨unmarked_of_length (by omega), unmarked_of_length (by omega)⟩
  · rintro ⟨h, h'⟩
    show tokens (a ++ b) = (a ++ b).map .char
    rw [ha b, h, h', List.map_append]

/-! ## Plain texts -/

/-- The characters of the text stand for themselves, whatever follows it. -/
def Plain (cs : List Char) : Prop := ∀ rest, tokens (cs ++ rest) = cs.map .char ++ tokens rest

theorem Plain.append (ha : Plain a) (hb : Plain b) : Plain (a ++ b) := by
  intro rest
  rw [List.append_assoc, ha, hb, List.map_append, List.append_assoc]

theorem plain_of_no_percent (h : '%' ∉ cs) : Plain cs := by
  intro rest
  rw [closed_of_no_percent h, tokens_of_no_percent h]

/-- A percent sign stands for itself in front of any character but another percent sign and the letter of a mark. -/
theorem plain_of_unmarked (hpercent : ¬ ['%', '%'] <:+: cs) (hmark : ¬ ['%', 's'] <:+: cs)
    (hlast : cs.getLast? ≠ some '%') : Plain cs := by
  intro rest
  rw [closed_of_getLast? hlast, unmarked_iff.2 ⟨hpercent, hmark⟩]

/-! ## Binding -/

/-- The text for the server, of parts with as many parameters as they mark. -/
def placed : List Token → List Value → List Char
  | [], _ => []
  | .parameter :: parts, v :: params => (marks v).toList ++ placed parts params
  | .parameter :: parts, [] => placed parts []
  | .percent :: parts, params => '%' :: placed parts params
  | .char c :: parts, params => c :: placed parts params

theorem placed_chars (cs : List Char) (parts : List Token) (params : List Value) :
    placed (cs.map .char ++ parts) params = cs ++ placed parts params := by
  induction cs with
  | nil => rfl
  | cons c cs ih => rw [List.map_cons, List.cons_append, placed, ih, List.cons_append]

/-- Parts that have their parameters are placed before the parts that follow. -/
theorem placed_append : ∀ {parts : List Token} {params : List Value}, parts.count .parameter = params.length →
    ∀ (parts' : List Token) (params' : List Value),
      placed (parts ++ parts') (params ++ params') = placed parts params ++ placed parts' params'
  | [], [], _, _, _ => rfl
  | [], _ :: _, h, _, _ => by simp at h
  | .parameter :: _, [], h, _, _ => by simp at h
  | .parameter :: parts, v :: params, h, parts', params' => by
    rw [List.cons_append, List.cons_append, placed, placed, placed_append (by simpa using h), List.append_assoc]
  | .percent :: parts, params, h, parts', params' => by
    rw [List.cons_append, placed, placed, placed_append (by simpa using h), List.cons_append]
  | .char c :: parts, params, h, parts', params' => by
    rw [List.cons_append, placed, placed, placed_append (by simpa using h), List.cons_append]

/-- As many parameters as marks are placed, and every parameter is bound. -/
theorem place_eq_ok : ∀ (bound : Nat) (parts : List Token) (params : List Value),
    parts.count .parameter = params.length → place bound parts params = .ok (placed parts params, params.flatMap values)
  | _, [], [], _ => rfl
  | _, [], _ :: _, h => by simp at h
  | _, .parameter :: _, [], h => by simp at h
  | bound, .parameter :: parts, v :: params, h => by
    rw [place, place_eq_ok (bound + (values v).length) parts params (by simpa using h)]
    rfl
  | bound, .percent :: parts, params, h => by
    rw [place, place_eq_ok bound parts params (by simpa using h)]
    rfl
  | bound, .char c :: parts, params, h => by
    rw [place, place_eq_ok bound parts params (by simpa using h)]
    rfl

/-- The server binds the parameters of a text that marks as many, lists by their items. -/
theorem bind_eq_ok {sql : String} {params : List Value} (h : marked sql.toList = params.length) :
    bind sql params = .ok (String.ofList (placed (tokens sql.toList) params), params.flatMap values) := by
  rw [bind, place_eq_ok 0 (tokens sql.toList) params h]
  rfl

/-- The server refuses a text that marks more or fewer parameters than there are. -/
theorem count_of_place : ∀ {bound : Nat} {parts : List Token} {params : List Value} {placed : List Char × List Value},
    place bound parts params = .ok placed → parts.count .parameter = params.length
  | _, [], [], _, _ => rfl
  | _, [], _ :: _, _, h => by cases h
  | _, .parameter :: _, [], _, h => by cases h
  | _, .parameter :: _, _ :: _, _, h => by
    obtain ⟨_, hrest, -⟩ := Result.bind_eq_ok.1 h
    rw [List.count_cons_self, count_of_place hrest, List.length_cons]
  | _, .percent :: _, _, _, h => by
    obtain ⟨_, hrest, -⟩ := Result.bind_eq_ok.1 h
    rw [List.count_cons_of_ne (by decide), count_of_place hrest]
  | _, .char _ :: _, _, _, h => by
    obtain ⟨_, hrest, -⟩ := Result.bind_eq_ok.1 h
    rw [List.count_cons_of_ne (by simp), count_of_place hrest]

theorem marked_of_bind {sql : String} {params : List Value} {bound : String × List Value}
    (h : bind sql params = .ok bound) : marked sql.toList = params.length := by
  obtain ⟨_, hplace, -⟩ := Result.bind_eq_ok.1 h
  exact count_of_place hplace

end SqlMapper.Placeholder
