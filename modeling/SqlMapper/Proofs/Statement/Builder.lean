import SqlMapper.Proofs.Rendering.Clauses
import SqlMapper.Proofs.Result
import SqlMapper.Proofs.Sample
import SqlMapper.Proofs.Statement.Query

/-!
# Building a select

What a select comes to after any sequence of calls (`Select.built_of_runAll`): each part is made of the calls of one
family alone, in their order. So calls of different families may be made in any order (`Select.Built.eq_of_families`),
and the text has its clauses in one order (`Select.render_of_runAll`).
-/

namespace SqlMapper

namespace Select

/-! ## Calls -/

/-- What an application asks of a select. -/
inductive Call where
  | columns (es : List Expr)
  | column (e : Expr)
  | distinct
  | join (kind : JoinKind) (table : Table) (condition : Expr)
  | filter (condition : Expr)
  | filterAll (conditions : List Expr)
  | groupBy (es : List Expr)
  | having (condition : Expr)
  | orderBy (es : List Expr)
  | limit (n : Nat)
  | offset (n : Nat)
  | shape (x : Shape)
  | slice (start stop step : Nat)

/-- Serves a call. -/
def Call.run (s : Select) : Call → Result Select
  | columns es => .ok { s with columns := es }
  | column e => .ok (s.addColumn e)
  | distinct => .ok { s with distinct := true }
  | join kind table condition => .ok (s.join kind table condition)
  | filter condition => .ok { s with filter := some condition }
  | filterAll conditions => s.filterAll conditions
  | groupBy es => .ok { s with groupBy := es }
  | having condition => .ok { s with having := some condition }
  | orderBy es => .ok (s.addOrder es)
  | limit n => .ok { s with limit := some n }
  | offset n => s.withOffset n
  | shape x => .ok { s with shape := x }
  | slice start stop step => s.slice start stop step

/-- Serves calls one after the other. -/
def runAll (s : Select) : List Call → Result Select
  | [] => .ok s
  | call :: rest => do (← call.run s).runAll rest

/-- The calls that make one part of a select. -/
inductive Family where
  | columns
  | distinct
  | joins
  | filter
  | groupBy
  | having
  | orderBy
  | limit
  | offset
  | shape
  | slice
deriving DecidableEq, Repr

namespace Call

@[simp] def family : Call → Family
  | columns _ | column _ => .columns
  | distinct => .distinct
  | join .. => .joins
  | filter _ | filterAll _ => .filter
  | groupBy _ => .groupBy
  | having _ => .having
  | orderBy _ => .orderBy
  | limit _ => .limit
  | offset _ => .offset
  | shape _ => .shape
  | slice .. => .slice

/-! What the calls of a family ask for, and nothing for the calls of other families. -/

/-- How the call changes the columns. -/
@[simp] def projection? : Call → Option (List Expr → List Expr)
  | columns es => some fun _ => es
  | column e => some (· ++ [e])
  | _ => none

@[simp] def distinct? : Call → Option Unit
  | distinct => some ()
  | _ => none

@[simp] def join? : Call → Option Join
  | join kind table condition => some (.mk kind table condition)
  | _ => none

@[simp] def filter? : Call → Option Expr
  | filter condition => some condition
  | filterAll conditions => (Expr.allOf conditions).toOption
  | _ => none

@[simp] def groupBy? : Call → Option (List Expr)
  | groupBy es => some es
  | _ => none

@[simp] def having? : Call → Option Expr
  | having condition => some condition
  | _ => none

@[simp] def orderBy? : Call → Option (List Expr)
  | orderBy es => some es
  | _ => none

@[simp] def limit? : Call → Option Nat
  | limit n => some n
  | _ => none

@[simp] def offset? : Call → Option Nat
  | offset n => some n
  | _ => none

@[simp] def shape? : Call → Option Shape
  | shape x => some x
  | _ => none

@[simp] def slice? : Call → Option Window
  | slice start stop step => some ⟨start, stop, step⟩
  | _ => none

/-- What a call comes to, if it is served: it changes the parts that it asks for. -/
def served (s : Select) (call : Call) : Select :=
  { s with
    columns := (call.projection?.map (· s.columns)).getD s.columns
    distinct := s.distinct || call.distinct?.isSome
    joins := s.joins ++ call.join?.toList
    filter := call.filter?.or s.filter
    groupBy := call.groupBy?.getD s.groupBy
    having := call.having?.or s.having
    orderBy := s.orderBy ++ call.orderBy?.getD []
    limit := call.limit?.or s.limit
    offset := call.offset?.or s.offset
    shape := call.shape?.getD s.shape
    window := call.slice?.or s.window }

end Call

variable {table : Table} {calls : List Call} {call : Call} {s s' : Select}

/-- An offset is served where there is a limit. -/
theorem withOffset_eq_ok {n : Nat} (h : s.withOffset n = .ok s') :
    s.limit.isSome = true ∧ s' = { s with offset := some n } := by
  unfold withOffset at h
  split at h
  · cases h
  · next hlimit =>
    have hne : s.limit ≠ none := by simpa using hlimit
    exact ⟨Option.isSome_iff_ne_none.2 hne, (Except.ok.inj h).symm⟩

theorem slice_eq_ok {start stop step : Nat} (h : s.slice start stop step = .ok s') :
    s' = { s with window := some ⟨start, stop, step⟩ } := by
  unfold slice at h
  split at h
  · cases h
  · split at h
    · cases h
    · exact (Except.ok.inj h).symm

theorem filterAll_eq_ok {conditions : List Expr} (h : s.filterAll conditions = .ok s') :
    ∃ e, Expr.allOf conditions = .ok e ∧ s' = { s with filter := some e } := by
  obtain ⟨e, he, h⟩ := Result.bind_eq_ok.1 h
  exact ⟨e, he, (Except.ok.inj h).symm⟩

/-- **What a call does**, if it is served. -/
theorem Call.eq_served_of_run (h : call.run s = .ok s') : s' = call.served s := by
  cases call with
  | filterAll conditions =>
    obtain ⟨e, he, rfl⟩ := filterAll_eq_ok h
    simp [served, he, Except.toOption]
  | offset n =>
    obtain ⟨-, rfl⟩ := withOffset_eq_ok h
    simp [served]
  | slice start stop step =>
    obtain rfl := slice_eq_ok h
    simp [served]
  | _ =>
    obtain rfl := Except.ok.inj h
    simp [served, addColumn, Select.join, addOrder]

/-- A call that leaves out rows finds their number limited. -/
theorem Call.limit_of_offset (h : call.run s = .ok s') (ho : call.offset?.isSome = true) : s.limit.isSome = true := by
  cases call with
  | offset n => exact (withOffset_eq_ok h).1
  | _ => cases ho

/-- The select is one of the table, and has the parts that the calls ask for: joins, orders and single columns pile up,
and else the last call of a family counts. -/
structure Built (table : Table) (calls : List Call) (s : Select) : Prop where
  table : s.table = table
  columns : s.columns = (calls.filterMap Call.projection?).foldl (fun es change => change es) []
  distinct : s.distinct = !(calls.filterMap Call.distinct?).isEmpty
  joins : s.joins = calls.filterMap Call.join?
  filter : s.filter = (calls.filterMap Call.filter?).getLast?
  groupBy : s.groupBy = (calls.filterMap Call.groupBy?).getLast?.getD []
  having : s.having = (calls.filterMap Call.having?).getLast?
  orderBy : s.orderBy = (calls.filterMap Call.orderBy?).flatten
  limit : s.limit = (calls.filterMap Call.limit?).getLast?
  offset : s.offset = (calls.filterMap Call.offset?).getLast?
  shape : s.shape = (calls.filterMap Call.shape?).getLast?.getD .model
  window : s.window = (calls.filterMap Call.slice?).getLast?
  /-- Rows are left out only where their number is limited. -/
  limited : s.offset.isSome = true → s.limit.isSome = true

theorem built_ofTable (table : Table) : (ofTable table).Built table [] := by
  constructor <;> first | rfl | exact nofun

/-- What a further call asks for comes last. -/
theorem filterMap_concat {β : Type} (g : Call → Option β) (calls : List Call) (call : Call) :
    (calls ++ [call]).filterMap g = calls.filterMap g ++ (g call).toList := by
  rw [List.filterMap_append]
  cases hg : g call <;> simp [hg]

theorem getLast?_filterMap_concat {β : Type} (g : Call → Option β) (calls : List Call) (call : Call) :
    ((calls ++ [call]).filterMap g).getLast? = (g call).or (calls.filterMap g).getLast? := by
  rw [filterMap_concat]
  cases g call <;> simp

/-- **One more call.** -/
theorem Built.run (h : s.Built table calls) (hs : call.run s = .ok s') : s'.Built table (calls ++ [call]) := by
  have hoffset := Call.limit_of_offset hs
  obtain rfl := Call.eq_served_of_run hs
  constructor
  case table => exact h.table
  case columns =>
    rw [filterMap_concat, List.foldl_append, ← h.columns, Call.served]
    cases call.projection? <;> rfl
  case distinct =>
    rw [filterMap_concat, Call.served, h.distinct]
    cases call.distinct? <;> simp
  case joins => rw [filterMap_concat, ← h.joins, Call.served]
  case filter => rw [getLast?_filterMap_concat, ← h.filter, Call.served]
  case groupBy =>
    rw [getLast?_filterMap_concat, Call.served, h.groupBy]
    cases call.groupBy? <;> rfl
  case having => rw [getLast?_filterMap_concat, ← h.having, Call.served]
  case orderBy =>
    rw [filterMap_concat, List.flatten_append, ← h.orderBy, Call.served]
    cases call.orderBy? <;> simp
  case limit => rw [getLast?_filterMap_concat, ← h.limit, Call.served]
  case offset => rw [getLast?_filterMap_concat, ← h.offset, Call.served]
  case shape =>
    rw [getLast?_filterMap_concat, Call.served, h.shape]
    cases call.shape? <;> rfl
  case window => rw [getLast?_filterMap_concat, ← h.window, Call.served]
  case limited =>
    intro ho
    -- no call takes a limit back, so that the one that the offset found is still there
    have hlimit : s.limit.isSome = true := by
      cases hc : call.offset? with
      | none =>
        rw [Call.served, hc] at ho
        exact h.limited ho
      | some n => exact hoffset (by rw [hc]; rfl)
    rw [Call.served, Option.isSome_or, hlimit, Bool.or_true]

/-- **The select of any calls**, by the step of one call. -/
theorem Built.runAll : ∀ {rest calls : List Call} {s s' : Select}, s.Built table calls → s.runAll rest = .ok s' →
    s'.Built table (calls ++ rest)
  | [], calls, _, _, h, hs => by
    rw [← Except.ok.inj hs, List.append_nil]
    exact h
  | call :: rest, calls, _, _, h, hs => by
    obtain ⟨t, ht, hs⟩ := Result.bind_eq_ok.1 hs
    have hrest := (h.run ht).runAll hs
    rwa [List.append_assoc] at hrest

/-- A select has the parts that its calls ask for. -/
theorem built_of_runAll (h : (ofTable table).runAll calls = .ok s) : s.Built table calls :=
  (built_ofTable table).runAll h

/-! ## The order of calls -/

/-- What a family asks for is asked by its calls. -/
theorem filterMap_eq_of_family {β : Type} {g : Call → Option β} {k : Family} {calls' : List Call}
    (hg : ∀ call, (g call).isSome = true → call.family = k)
    (h : calls.filter (·.family = k) = calls'.filter (·.family = k)) : calls.filterMap g = calls'.filterMap g := by
  have hfamily (calls : List Call) : (calls.filter (·.family = k)).filterMap g = calls.filterMap g := by
    rw [List.filterMap_filter]
    refine List.filterMap_congr fun call _ => ?_
    by_cases hk : call.family = k
    · exact if_pos (decide_eq_true hk)
    · rw [if_neg (mt of_decide_eq_true hk)]
      cases hc : g call with
      | none => rfl
      | some b => exact absurd (hg call (by rw [hc]; rfl)) hk
  rw [← hfamily, h, hfamily]

/-- The parts of a select are all there is of it. -/
theorem Built.unique (h : s.Built table calls) (h' : s'.Built table calls) : s = s' := by
  obtain ⟨_, _, _, _, _, _, _, _, _, _, _, _⟩ := s
  obtain ⟨_, _, _, _, _, _, _, _, _, _, _, _⟩ := s'
  obtain ⟨rfl, rfl, rfl, rfl, rfl, rfl, rfl, rfl, rfl, rfl, rfl, rfl, -⟩ := h
  obtain ⟨rfl, rfl, rfl, rfl, rfl, rfl, rfl, rfl, rfl, rfl, rfl, rfl, -⟩ := h'
  rfl

/-- **Calls of different families may change places.** -/
theorem Built.of_families {calls' : List Call} (h : s.Built table calls)
    (hsame : ∀ k : Family, calls.filter (·.family = k) = calls'.filter (·.family = k)) : s.Built table calls' := by
  have same {β : Type} {g : Call → Option β} (k : Family) (hg : ∀ call, (g call).isSome = true → call.family = k) :
      calls.filterMap g = calls'.filterMap g := filterMap_eq_of_family hg (hsame k)
  constructor
  case table => exact h.table
  case columns => rw [← same .columns fun call => by cases call <;> simp, h.columns]
  case distinct => rw [← same .distinct fun call => by cases call <;> simp, h.distinct]
  case joins => rw [← same .joins fun call => by cases call <;> simp, h.joins]
  case filter => rw [← same .filter fun call => by cases call <;> simp, h.filter]
  case groupBy => rw [← same .groupBy fun call => by cases call <;> simp, h.groupBy]
  case having => rw [← same .having fun call => by cases call <;> simp, h.having]
  case orderBy => rw [← same .orderBy fun call => by cases call <;> simp, h.orderBy]
  case limit => rw [← same .limit fun call => by cases call <;> simp, h.limit]
  case offset => rw [← same .offset fun call => by cases call <;> simp, h.offset]
  case shape => rw [← same .shape fun call => by cases call <;> simp, h.shape]
  case window => rw [← same .slice fun call => by cases call <;> simp, h.window]
  case limited => exact h.limited

/-! ## The text -/

/-- What a clause adds to the statement. -/
def written (s : Select) (k : Clause) : Piece := s.clause (s.inner {}) k

/-- The statement has the texts and the parameters of the clauses in their order. -/
theorem render_eq_ok {q : Query} (h : s.render = .ok q) :
    q.sql = Query.terminated (String.join (Clause.all.map fun k => (s.written k).text)) ∧
      q.params = .single (Clause.all.flatMap fun k => (s.written k).params) := by
  obtain ⟨hfailure, rfl⟩ := Query.ofPiece_eq_ok_iff.1 h
  rw [piece_eq] at hfailure ⊢
  rw [Piece.concat_of_ok (Piece.concat_failure_eq_none.1 hfailure)]
  simp [written, List.map_map, Function.comp_def, List.flatMap_map]

/-- **The order of calls does not matter across the clauses**: two sequences with the same calls of each family come to
one statement. Its text has the clauses in one order, and of these the ones that there is something for. Rows are left
out only behind a limit. -/
theorem render_of_runAll {calls' : List Call} (h : (ofTable table).runAll calls = .ok s)
    (h' : (ofTable table).runAll calls' = .ok s')
    (hsame : ∀ k : Family, calls.filter (·.family = k) = calls'.filter (·.family = k)) :
    s.render = s'.render ∧ s.Built table calls ∧ (s.has .offset = true → s.has .limit = true) ∧
      ∀ q, s.render = .ok q →
        q.sql = Query.terminated (String.join (Clause.all.map fun k => (s.written k).text)) ∧
        q.params = .single (Clause.all.flatMap fun k => (s.written k).params) ∧
        ∀ k, if s.has k then ∃ word ∈ k.keywords, (s.written k).Begins word else (s.written k).text = "" := by
  have hbuilt := built_of_runAll h
  have hbuilt' := built_of_runAll h'
  refine ⟨congrArg render ((hbuilt.of_families hsame).unique hbuilt'), hbuilt, hbuilt.limited, fun q hq => ?_⟩
  obtain ⟨hsql, hparams⟩ := render_eq_ok hq
  refine ⟨hsql, hparams, fun k => ?_⟩
  cases hk : s.has k with
  | true => exact clause_of_has hk hbuilt.limited _
  | false => exact congrArg Piece.text (clause_of_not_has hk _)

end Select

namespace Sample

/-- The second page of the names of those who owe, the youngest first. -/
def page : Select where
  table := person
  columns := [.column ⟨person.ref, "name", named "name" (.varchar 45)⟩]
  distinct := true
  joins := [.mk .left debt (.binary .equal (column debt 1) (column person 0))]
  filter := some (.unary .isNotNull (column debt 2))
  groupBy := []
  having := none
  orderBy := [.ordered (.column ⟨person.ref, "age", named "age" (.integer .int)⟩) .ascending]
  limit := some 5
  offset := some 5
  shape := .tuple
  window := none

/-- Calls for the page, in the order of its text. -/
def pageCalls : List Select.Call :=
  [.columns page.columns, .distinct, .join .left debt (.binary .equal (column debt 1) (column person 0)),
    .filter (.unary .isNull (column debt 2)), .filter (.unary .isNotNull (column debt 2)), .orderBy page.orderBy,
    .limit 5, .offset 5, .shape .tuple]

/-- The same calls in another order. The later condition counts, and the limit comes before the offset. -/
def pageCallsBackwards : List Select.Call :=
  [.shape .tuple, .limit 5, .offset 5, .orderBy page.orderBy, .filter (.unary .isNull (column debt 2)),
    .filter (.unary .isNotNull (column debt 2)),
    .join .left debt (.binary .equal (column debt 1) (column person 0)), .distinct, .columns page.columns]

end Sample

theorem Select.render_of_runAll_page :
    (Select.ofTable Sample.person).runAll Sample.pageCallsBackwards = .ok Sample.page ∧
    Sample.page.Built Sample.person Sample.pageCalls ∧
    (Sample.page.piece {}).text = "SELECT DISTINCT `person`.`name` FROM `person` LEFT JOIN `shop`.`debt` ON " ++
      "(`shop`.`debt`.`person_id` = `person`.`id`) WHERE (`shop`.`debt`.`amount` IS NOT NULL) " ++
      "ORDER BY `person`.`age` ASC LIMIT 5 OFFSET 5" := by
  have hcalls : (Select.ofTable Sample.person).runAll Sample.pageCalls = .ok Sample.page := rfl
  have hbackwards : (Select.ofTable Sample.person).runAll Sample.pageCallsBackwards = .ok Sample.page := rfl
  have hsame : ∀ k : Select.Family, Sample.pageCalls.filter (·.family = k) =
      Sample.pageCallsBackwards.filter (·.family = k) := by
    rintro ⟨⟩ <;> rfl
  exact ⟨hbackwards, (Select.render_of_runAll hcalls hbackwards hsame).2.1, by decide +kernel⟩

end SqlMapper
