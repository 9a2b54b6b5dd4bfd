import SqlMapper.Proofs.Rendering.Piece
import SqlMapper.Proofs.Result
import SqlMapper.Proofs.Statement.Builder
import SqlMapper.Running.Fetching

/-!
# Walking row by row

A walk asks for one row at a time, each with a statement of its own, until its window ends or an answer brings no row.
The statements differ in their offsets alone (`Select.rowQuery_cases`). What a walk sends and delivers is told by the
answers of the executor, whatever they are (`Select.Walked`): one answer after the other, in one step of the walk
(`Select.rowAt_of_answer`) and so in all of it (`Select.walkFrom_transcribed`). A walk that is over stays over, however
often it is asked for more (`Select.walkFrom_add`). Offsets are numbers without a bound here.
-/

namespace SqlMapper

/-! ## Transcripts -/

/-- A statement that an executor has received, and its answer. -/
inductive Exchange where
  | execute (q : Query) (answer : Result RowsAffected)
  | fetch (q : Query) (limit : Option Nat) (answer : Result (List FetchedRow))

/-- The world beside a transcript of what its executor has received and answered. -/
def World.keeping {σ : Type} (w : World σ) (transcript : List Exchange) : World (σ × List Exchange) :=
  ⟨(w.executor, transcript), w.supply, w.log⟩

/-- The executor that also keeps a transcript. -/
def Executor.transcribed {σ : Type} (e : Executor σ) : Executor (σ × List Exchange) where
  execute q := ExceptT.mk fun w =>
    let (answer, w') := (e.execute q).run { w with executor := w.executor.1 }
    (answer, w'.keeping (w.executor.2 ++ [.execute q answer]))
  fetch q limit := ExceptT.mk fun w =>
    let (answer, w') := (e.fetch q limit).run { w with executor := w.executor.1 }
    (answer, w'.keeping (w.executor.2 ++ [.fetch q limit answer]))

section

variable {σ : Type} {e : Executor σ} {w w' : World σ} {q : Query} {limit : Option Nat} {transcript : List Exchange}
  {answer : Result (List FetchedRow)}

@[simp] theorem World.logging_nil (w : World σ) : w.logging [] = w := by
  rw [logging, List.append_nil]

theorem World.keeping_logging (lines : Log) :
    (w.keeping transcript).logging lines = (w.logging lines).keeping transcript := rfl

theorem Executor.fetch_transcribed (h : (e.fetch q limit).run w = (answer, w')) :
    (e.transcribed.fetch q limit).run (w.keeping transcript) =
      (answer, w'.keeping (transcript ++ [.fetch q limit answer])) := by
  show ((e.fetch q limit).run w).map id (·.keeping (transcript ++ [.fetch q limit ((e.fetch q limit).run w).1])) = _
  rw [h]
  rfl

end

namespace Select

variable {σ : Type} {s : Select} {e : Executor σ} {w w' : World σ} {offset budget : Nat} {q : Query}
  {answer : Result (List FetchedRow)}

/-! ## Statements -/

/-- The statement for the row at an offset. -/
def rowQuery (s : Select) (offset : Nat) : Result Query := (s.limited (some 1) (some offset)).render

/-- The statement for the row at an offset, with a text in front of it. -/
def rowStatement (text : String) (params : List Value) (offset : Nat) : Query :=
  ⟨text ++ " LIMIT 1 OFFSET " ++ Nat.repr offset ++ ";", .single params⟩

theorem exists_piece_limited (s : Select) : ∃ p : Piece, ∀ offset,
    (s.limited (some 1) (some offset)).piece {} = p ++ .ofText (" LIMIT 1 OFFSET " ++ Nat.repr offset) := by
  obtain ⟨table, columns, distinct, joins, filter, groupBy, having, orderBy, limit, offset, shape, window⟩ := s
  have hlimit (offset : Nat) : limitClause (some 1) (some offset) =
      .ofText (" LIMIT 1 OFFSET " ++ Nat.repr offset) := by
    have hone : " LIMIT " ++ Nat.repr 1 ++ " OFFSET " = " LIMIT 1 OFFSET " := by decide
    rw [← hone, String.append_assoc]
    rfl
  simp only [limited, piece, hlimit]
  exact ⟨_, fun _ => rfl⟩

/-- The statement ends with the digits of the offset, and so gets its semicolon. -/
theorem terminated_offset (text : String) (offset : Nat) :
    Query.terminated (text ++ (" LIMIT 1 OFFSET " ++ Nat.repr offset)) =
      text ++ " LIMIT 1 OFFSET " ++ Nat.repr offset ++ ";" := by
  obtain ⟨c, hc⟩ : ∃ c, (Nat.repr offset).toList.getLast? = some c := by
    rw [← Option.isSome_iff_exists, List.getLast?_isSome, Nat.repr, String.toList_ofList]
    exact Nat.toDigits_ne_nil
  have hdigit : c.isDigit = true := by
    have hmem := List.mem_of_getLast? hc
    rw [Nat.repr, String.toList_ofList] at hmem
    exact Nat.isDigit_of_mem_toDigits (by decide) (by decide) hmem
  have hne : c ≠ ';' := by
    rintro rfl
    exact absurd hdigit (by decide)
  rw [← String.append_assoc, Query.terminated_append hc hne, String.append_assoc, String.append_assoc,
    String.append_assoc]

/-- **The statements of a walk**: none can be made, or they differ in their offsets alone. -/
theorem rowQuery_cases (s : Select) : (∃ fault, ∀ offset, s.rowQuery offset = .error fault) ∨
    ∃ text params, ∀ offset, s.rowQuery offset = .ok (rowStatement text params offset) := by
  obtain ⟨p, hp⟩ := s.exists_piece_limited
  cases hfailure : p.failure with
  | some fault =>
    refine .inl ⟨fault, fun offset => ?_⟩
    rw [rowQuery, render, hp, Piece.append_of_failed hfailure, Query.ofPiece, Piece.outcome, hfailure]
    rfl
  | none =>
    refine .inr ⟨p.text, p.params, fun offset => ?_⟩
    rw [rowQuery, render, hp, Query.ofPiece_eq_ok_iff, Piece.append_of_ok hfailure]
    refine ⟨rfl, ?_⟩
    rw [Piece.ofText_text, terminated_offset, Piece.ofText_params, List.append_nil]
    rfl

/-! ## Answers -/

/-- The statements for the rows from an offset on, one for each answer. -/
def rowExchanges (s : Select) (query : Nat → Query) (offset : Nat) (answers : List (Result (List FetchedRow))) :
    List Exchange :=
  answers.mapIdx fun i answer => .fetch (query (offset + i * s.walkStep)) (some 1) answer

/-- The offset of a further row, counted from the row behind the first one. -/
theorem offset_succ (s : Select) (offset i : Nat) :
    offset + (i + 1) * s.walkStep = offset + s.walkStep + i * s.walkStep := by
  rw [Nat.add_one_mul, Nat.add_comm (i * s.walkStep), Nat.add_assoc]

theorem rowExchanges_nil (query : Nat → Query) : s.rowExchanges query offset [] = [] := List.mapIdx_nil

theorem rowExchanges_cons (query : Nat → Query) (answers : List (Result (List FetchedRow))) :
    s.rowExchanges query offset (answer :: answers) =
      .fetch (query offset) (some 1) answer :: s.rowExchanges query (offset + s.walkStep) answers := by
  simp only [rowExchanges, List.mapIdx_cons, offset_succ, Nat.zero_mul, Nat.add_zero]

/-- What a walk delivers for an answer: its first row in the shape of the select, the failure, or nothing if there is no
row. -/
def delivered (s : Select) : Result (List FetchedRow) → Option (Result Row)
  | .error fault => some (.error fault)
  | .ok [] => none
  | .ok (row :: _) => some (Row.load s.table row s.shape)

/-- What loading the row of an answer reports. -/
def deliveryLog (s : Select) : Result (List FetchedRow) → Log
  | .ok (row :: _) => Row.loadLog s.table row s.shape
  | _ => []

/-- What a walk sends and delivers from an offset on, by the answers to its statements. -/
structure Walked (s : Select) (budget offset : Nat) (answers : List (Result (List FetchedRow)))
    (items : List (Result Row)) : Prop where
  /-- The statements are about offsets of the walk. -/
  visited : ∀ i < answers.length, s.visits (offset + i * s.walkStep) = true
  items : items = answers.filterMap s.delivered
  /-- Every answer but the last one brings a row. -/
  loaded : ∀ answer ∈ answers.dropLast, ∃ row, s.delivered answer = some (.ok row)
  /-- No more items are wanted, the next offset lies behind the walk, or the last answer brings no row. -/
  stopped : answers.length = budget ∨ s.visits (offset + answers.length * s.walkStep) = false ∨
    ∃ answer ∈ answers.getLast?, ∀ row, s.delivered answer ≠ some (.ok row)

namespace Walked

theorem paused : s.Walked 0 offset [] [] := ⟨nofun, rfl, nofun, .inl rfl⟩

/-- The walk has left its window. -/
theorem left (h : s.visits offset = false) : s.Walked budget offset [] [] := by
  refine ⟨nofun, rfl, nofun, .inr (.inl ?_)⟩
  rwa [List.length_nil, Nat.zero_mul, Nat.add_zero]

/-- The walk ends with an answer that brings no row. -/
theorem last {item : Option (Result Row)} (h : s.visits offset = true) (hd : s.delivered answer = item)
    (hitem : ∀ row, item ≠ some (.ok row)) : s.Walked budget offset [answer] item.toList where
  visited := by
    intro i hi
    rw [List.length_singleton, Nat.lt_one_iff] at hi
    rwa [hi, Nat.zero_mul, Nat.add_zero]
  items := by
    subst hd
    cases hdelivered : s.delivered answer <;> simp [hdelivered]
  loaded := nofun
  stopped := .inr (.inr ⟨answer, rfl, fun row => hd ▸ hitem row⟩)

/-- The walk goes on behind a row. -/
theorem next {row : Row} {answers : List (Result (List FetchedRow))} {items : List (Result Row)}
    (h : s.visits offset = true) (hd : s.delivered answer = some (.ok row))
    (hw : s.Walked budget (offset + s.walkStep) answers items) :
    s.Walked (budget + 1) offset (answer :: answers) (.ok row :: items) := by
  constructor
  case visited =>
    intro i hi
    cases i with
    | zero => rwa [Nat.zero_mul, Nat.add_zero]
    | succ i =>
      rw [offset_succ]
      exact hw.visited i (Nat.lt_of_succ_lt_succ hi)
  case items => rw [hw.items, List.filterMap_cons_some hd]
  case loaded =>
    intro a ha
    cases answers with
    | nil => cases ha
    | cons b answers =>
      rcases List.mem_cons.1 ha with rfl | ha
      · exact ⟨row, hd⟩
      · exact hw.loaded a ha
  case stopped =>
    rw [List.length_cons, offset_succ]
    refine hw.stopped.imp (congrArg Nat.succ) (Or.imp_right ?_)
    rintro ⟨a, ha, hd⟩
    refine ⟨a, ?_, hd⟩
    rw [Option.mem_def] at ha ⊢
    rw [List.getLast?_cons, ha, Option.getD_some]

end Walked

/-! ## One step -/

theorem rowAt_of_left (h : s.visits offset = false) : (s.rowAt e offset).run w = (.ok none, w) := by
  unfold rowAt
  rw [h]
  rfl

/-- Without a statement nothing is sent. -/
theorem rowAt_of_error {fault : Error} (h : s.visits offset = true) (hq : s.rowQuery offset = .error fault) :
    (s.rowAt e offset).run w = (.error fault, w) := by
  have hrender : (s.limited (some 1) (some offset)).render = .error fault := hq
  unfold rowAt fetchLimited
  rw [h, hrender]
  rfl

theorem run_loading {t : Table} {row : FetchedRow} {shape : Shape} :
    (Row.loading t row shape : Action σ Row).run w = (Row.load t row shape, w.logging (Row.loadLog t row shape)) :=
  rfl

/-- **One step of a walk** sends one statement, and brings what the walk delivers for its answer. -/
theorem rowAt_of_answer (h : s.visits offset = true) (hq : s.rowQuery offset = .ok q)
    (ha : (e.fetch q (some 1)).run w = (answer, w')) :
    (s.rowAt e offset).run w =
      ((s.delivered answer).elim (.ok none) (·.map some), w'.logging (s.deliveryLog answer)) := by
  have hrender : (s.limited (some 1) (some offset)).render = .ok q := hq
  have hfetch : (s.fetchLimited e (some 1) (some offset) (some 1)).run w = (answer, w') := by
    unfold fetchLimited
    rw [hrender]
    exact ha
  unfold rowAt
  rw [h]
  simp only [Bool.not_true, Bool.false_eq_true, if_false]
  refine (Result.run_bind _ _ _).trans ?_
  rw [hfetch]
  cases answer with
  | error fault =>
    dsimp only [delivered, deliveryLog]
    rw [World.logging_nil]
    rfl
  | ok rows =>
    cases rows with
    | nil =>
      dsimp only [delivered, deliveryLog]
      rw [World.logging_nil]
      rfl
    | cons row rows =>
      dsimp only [delivered, deliveryLog]
      rw [Result.run_bind, run_loading]
      cases Row.load s.table row s.shape <;> rfl

/-- A walk of one more item: what its first step brings, and then the rest, unless the step was the last one. -/
theorem walkFrom_succ : (s.walkFrom e (budget + 1) offset).run w =
    match (s.rowAt e offset).run w with
    | (.error fault, w') => ([.error fault], w')
    | (.ok none, w') => ([], w')
    | (.ok (some row), w') =>
      let (items, w'') := (s.walkFrom e budget (offset + s.walkStep)).run w'
      (.ok row :: items, w'') := by
  rw [walkFrom, StateT.run_bind]
  rcases h : (s.rowAt e offset).run w with ⟨_ | _ | row, w'⟩
  all_goals
    rw [show (s.rowAt e offset).run.run w = _ from h]
    rfl

/-! ## Whole walks -/

section

variable {fault : Error} {query : Nat → Query}

/-- A walk without statements brings the failure, unless nothing is wanted of it. -/
theorem walkFrom_of_error (hq : s.rowQuery offset = .error fault) : (s.walkFrom e budget offset).run w =
    (if budget = 0 ∨ s.visits offset = false then [] else [.error fault], w) := by
  cases budget with
  | zero => rfl
  | succ budget =>
    rw [walkFrom_succ]
    cases h : s.visits offset with
    | false => rw [rowAt_of_left h]; rfl
    | true => rw [rowAt_of_error h hq]; rfl

/-- **What a whole walk sends and delivers**, by induction on the number of items that are wanted: a transcript that is
kept changes nothing, and gets a statement for each answer. -/
theorem walkFrom_transcribed (hq : ∀ k, s.rowQuery k = .ok (query k)) : ∀ (budget offset : Nat) (w : World σ)
    (transcript : List Exchange), ∃ answers,
      s.Walked budget offset answers ((s.walkFrom e budget offset).run w).1 ∧
      (s.walkFrom e.transcribed budget offset).run (w.keeping transcript) =
        ((s.walkFrom e budget offset).run w).map id (·.keeping (transcript ++ s.rowExchanges query offset answers))
  | 0, offset, w, transcript => ⟨[], .paused, by rw [rowExchanges_nil, List.append_nil]; rfl⟩
  | budget + 1, offset, w, transcript => by
    cases h : s.visits offset with
    | false =>
      rw [walkFrom_succ, walkFrom_succ, rowAt_of_left h, rowAt_of_left h]
      exact ⟨[], .left h, by rw [rowExchanges_nil, List.append_nil]; rfl⟩
    | true =>
      rcases ha : (e.fetch (query offset) (some 1)).run w with ⟨answer, w'⟩
      rw [walkFrom_succ, walkFrom_succ, rowAt_of_answer h (hq offset) ha,
        rowAt_of_answer h (hq offset) (Executor.fetch_transcribed ha)]
      rcases hd : s.delivered answer with _ | fault | row
      · have hlast : s.Walked (budget + 1) offset [answer] [] := .last h hd (by simp)
        exact ⟨[answer], hlast, by rw [rowExchanges_cons, rowExchanges_nil]; rfl⟩
      · have hlast : s.Walked (budget + 1) offset [answer] [.error fault] := .last h hd (by simp)
        exact ⟨[answer], hlast, by rw [rowExchanges_cons, rowExchanges_nil]; rfl⟩
      · obtain ⟨answers, hw, hrest⟩ := walkFrom_transcribed hq budget (offset + s.walkStep)
          (w'.logging (s.deliveryLog answer)) (transcript ++ [.fetch (query offset) (some 1) answer])
        refine ⟨answer :: answers, hw.next h hd, ?_⟩
        simp only [Option.elim_some, Except.map]
        rw [World.keeping_logging, hrest, rowExchanges_cons, List.append_assoc]
        rfl

/-- A walk is over once it brings less than is wanted, or a failure. -/
def IsOver (budget : Nat) (items : List (Result Row)) : Prop :=
  items.length < budget ∨ ∃ fault, .error fault ∈ items

/-- **A walk that is over stays over**: asking for more neither brings nor changes anything. -/
theorem walkFrom_add {more : Nat} : ∀ {budget offset : Nat} {w : World σ},
    IsOver budget ((s.walkFrom e budget offset).run w).1 →
      (s.walkFrom e (budget + more) offset).run w = (s.walkFrom e budget offset).run w
  | 0, offset, w, h => by
    rcases h with h | ⟨fault, h⟩
    · exact absurd h (Nat.not_lt_zero _)
    · cases h
  | budget + 1, offset, w, h => by
    rw [Nat.succ_add_eq_add_succ, Nat.add_succ, walkFrom_succ, walkFrom_succ]
    rw [walkFrom_succ] at h
    rcases hrow : (s.rowAt e offset).run w with ⟨_ | _ | row, w'⟩
    · rfl
    · rfl
    · rw [hrow] at h
      dsimp only at h ⊢
      rw [walkFrom_add]
      rcases h with h | ⟨fault, h⟩
      · exact .inl (Nat.lt_of_succ_lt_succ h)
      · rcases List.mem_cons.1 h with h | h
        · cases h
        · exact .inr ⟨fault, h⟩

end

/-! ## The statements and items of a walk -/

/-- What a walk delivers, if no more than `budget` items are wanted. -/
def items (s : Select) (e : Executor σ) (budget : Nat) (w : World σ) : List (Result Row) := ((s.walk e budget).run w).1

/-- What the executor receives from a walk, and what it answers. -/
def exchanges (s : Select) (e : Executor σ) (budget : Nat) (w : World σ) : List Exchange :=
  ((s.walk e.transcribed budget).run (w.keeping [])).2.executor.2

/-- A walk either cannot make its statements, and sends none, or sends them as its answers tell. -/
theorem walk_cases (s : Select) (e : Executor σ) (budget : Nat) (w : World σ) :
    (∃ fault, (∀ offset, s.rowQuery offset = .error fault) ∧ s.exchanges e budget w = [] ∧
        s.items e budget w = if budget = 0 ∨ s.visits s.walkStart = false then [] else [.error fault]) ∨
      ∃ text params answers, (∀ offset, s.rowQuery offset = .ok (rowStatement text params offset)) ∧
        s.exchanges e budget w = s.rowExchanges (rowStatement text params) s.walkStart answers ∧
        s.Walked budget s.walkStart answers (s.items e budget w) := by
  rcases s.rowQuery_cases with ⟨fault, hq⟩ | ⟨text, params, hq⟩
  · refine .inl ⟨fault, hq, ?_, ?_⟩
    · rw [exchanges, walk, walkFrom_of_error (hq _)]
      rfl
    · rw [items, walk, walkFrom_of_error (hq _)]
  · obtain ⟨answers, hw, hrun⟩ := walkFrom_transcribed (e := e) hq budget s.walkStart w []
    refine .inr ⟨text, params, answers, hq, ?_, hw⟩
    rw [exchanges, walk, hrun]
    rfl

/-- Whether a transcript is kept or not, the walk delivers the same. -/
theorem items_transcribed (s : Select) (e : Executor σ) (budget : Nat) (w : World σ) :
    ((s.walk e.transcribed budget).run (w.keeping [])).1 = s.items e budget w := by
  rcases s.rowQuery_cases with ⟨fault, hq⟩ | ⟨text, params, hq⟩
  · rw [items, walk, walk, walkFrom_of_error (hq _), walkFrom_of_error (hq _)]
  · obtain ⟨answers, -, hrun⟩ := walkFrom_transcribed (e := e) hq budget s.walkStart w []
    rw [walk, hrun]
    rfl

/-! ## Windows -/

/-- As many steps as lead from the start of a window to offsets in front of its end, at most. -/
theorem length_le_of_steps {start stop step n : Nat} (hstep : 0 < step) (h : ∀ i < n, start + i * step < stop) :
    n ≤ (stop - start + step - 1) / step := by
  cases n with
  | zero => exact Nat.zero_le _
  | succ n =>
    have hlast := h n (Nat.lt_succ_self n)
    rw [Nat.le_div_iff_mul_le hstep, Nat.succ_mul]
    omega

/-- A slice leaves the window with a step that leads on. -/
theorem window_of_slice {s₁ : Select} {start stop step : Nat} (h : s.slice start stop step = .ok s₁) :
    s₁.window = some ⟨start, stop, step⟩ ∧ 0 < step := by
  have heq := slice_eq_ok h
  unfold slice at h
  split at h
  · cases h
  · split at h
    · cases h
    · next hstep => exact ⟨congrArg window heq, Nat.pos_of_ne_zero hstep⟩

/-- **What a walk sends and delivers, whatever the executor answers.** Its statements take one row each, at the start of
the walk and then one step further each time; or none can be made, and the failure is the only item. The answers come to
items one by one, and the walk stops at the first one that brings no row: at a failure, which is its last item, or
without a row. After a slice it asks for offsets in front of the stop alone, so that it sends no more statements than
fit in between and comes to its end. Once it is over, nothing more is sent or delivered. -/
theorem walk_delivers (s : Select) (e : Executor σ) (budget : Nat) (w : World σ) :
    ((∃ fault, (∀ offset, s.rowQuery offset = .error fault) ∧ s.exchanges e budget w = [] ∧
        s.items e budget w = if budget = 0 ∨ s.visits s.walkStart = false then [] else [.error fault]) ∨
      ∃ text params answers, (∀ offset, s.rowQuery offset = .ok (rowStatement text params offset)) ∧
        s.exchanges e budget w = (answers.mapIdx fun i answer =>
          .fetch (rowStatement text params (s.walkStart + i * s.walkStep)) (some 1) answer) ∧
        s.Walked budget s.walkStart answers (s.items e budget w)) ∧
    (s.window = none → s.walkStart = s.offset.getD 0 ∧ s.walkStep = 1 ∧ ∀ offset, s.visits offset = true) ∧
    (∀ (s₀ s₁ : Select) (start stop step : Nat), s₀.slice start stop step = .ok s₁ → s.window = s₁.window →
      s.walkStart = start ∧ s.walkStep = step ∧ (∀ offset, s.visits offset = true ↔ offset < stop) ∧
      (s.exchanges e budget w).length ≤ (stop - start + step - 1) / step ∧
      ((stop - start + step - 1) / step < budget → IsOver budget (s.items e budget w))) ∧
    (IsOver budget (s.items e budget w) → ∀ more, (s.walk e (budget + more)).run w = (s.walk e budget).run w ∧
      s.exchanges e (budget + more) w = s.exchanges e budget w) := by
  refine ⟨s.walk_cases e budget w, fun hwindow => ?_, fun s₀ s₁ start stop step hslice hwindow => ?_,
    fun hover more => ⟨walkFrom_add hover, ?_⟩⟩
  · unfold walkStart walkStep visits
    rw [hwindow]
    exact ⟨rfl, rfl, fun _ => rfl⟩
  · obtain ⟨hwin, hstep⟩ := window_of_slice hslice
    rw [hwin] at hwindow
    have hstart : s.walkStart = start := by rw [walkStart, hwindow]; rfl
    have hstepEq : s.walkStep = step := by rw [walkStep, hwindow]; rfl
    have hvisits (offset : Nat) : s.visits offset = true ↔ offset < stop := by
      rw [visits, hwindow]
      exact decide_eq_true_iff
    refine ⟨hstart, hstepEq, hvisits, ?_⟩
    rcases s.walk_cases e budget w with ⟨fault, -, hnone, hitems⟩ | ⟨text, params, answers, -, hsent, hw⟩
    · refine ⟨by rw [hnone]; exact Nat.zero_le _, fun hbudget => ?_⟩
      rw [hitems]
      split
      · exact .inl (Nat.zero_lt_of_lt hbudget)
      · exact .inr ⟨fault, List.mem_singleton_self _⟩
    · have hlength : answers.length ≤ (stop - start + step - 1) / step := by
        refine length_le_of_steps hstep fun i hi => ?_
        rw [← hvisits, ← hstart, ← hstepEq]
        exact hw.visited i hi
      rw [hsent, rowExchanges, List.length_mapIdx]
      refine ⟨hlength, fun hbudget => .inl (Nat.lt_of_le_of_lt ?_ hbudget)⟩
      rw [hw.items]
      exact Nat.le_trans (List.length_filterMap_le _ _) hlength
  · rw [exchanges, exchanges, walk, walk, walkFrom_add]
    rw [← items_transcribed] at hover
    exact hover

end Select

end SqlMapper
