import SqlMapper.Proofs.Record.Requests
import SqlMapper.Proofs.Record.Statements
import SqlMapper.Running.Replay

/-!
# The life of a record

What becomes of a record without a key on a table with numbered rows, whatever is asked of it and whatever the executor
answers. Each turn keeps to the rules (`Record.Turn.Obeys`): only saving a record without a key inserts a row, and a
record with a key updates or deletes the row with that key and no other. By induction over the requests, a key that the
record has got is its key ever after (`Record.turns_obey`).
-/

namespace SqlMapper

namespace Record

variable {t : Table} {r r' : Record} {σ : Type}

/-! ## Keys that are kept -/

/-- The record belongs to the table, and its key is a scalar, if it has one. -/
structure Belongs (r : Record) (t : Table) : Prop where
  table : r.table = t
  scalar : ∀ key, r.key? = some key → key.isList = false

/-- A key of the one record is the key of the other. -/
def KeyKept (t : Table) (r r' : Record) : Prop :=
  ∀ key, r.key? = some key → ∃ key', r'.key? = some key' ∧ t.primaryKey.field.SameKey key key'

theorem KeyKept.rfl : KeyKept t r r := fun key hk => ⟨key, hk, .rfl⟩

theorem KeyKept.trans {r'' : Record} (hr : r.Belongs t) (h : KeyKept t r r') (h' : KeyKept t r' r'') :
    KeyKept t r r'' := fun key hk => by
  obtain ⟨key', hk', hsame⟩ := h key hk
  obtain ⟨key'', hk'', hsame'⟩ := h' key' hk'
  exact ⟨key'', hk'', hsame.trans (hr.scalar key hk) hsame'⟩

theorem KeyKept.of_none (h : r.key? = none) : KeyKept t r r' := fun key hk => by
  rw [h] at hk
  cases hk

/-- A write of a scalar keeps the key, and a key that it gives is a scalar. -/
theorem belongs_of_set (ht : t.WellFormed) (ha : t.primaryKey.isAutoIncrement = true) (hr : r.Belongs t)
    {attr : String} {v : Value} (hl : v.isList = false) (h : r.set attr v = .ok r') :
    r'.Belongs t ∧ KeyKept t r r' := by
  obtain ⟨rfl, hscalar⟩ := hr
  refine ⟨⟨?_, ?_⟩, fun key hk => key?_of_set ht ha h hk (hscalar key hk)⟩
  · obtain ⟨_, -, -, rfl⟩ := set_eq_ok h
    rfl
  · intro key hk
    obtain ⟨_, -, -, rfl⟩ := set_eq_ok h
    by_cases hattr : r.table.primaryKey.attr = attr
    · subst hattr
      obtain ⟨hget, -⟩ := key?_eq_some.1 hk
      obtain rfl := Option.some.inj (Ordered.get?_insert_self.symm.trans hget)
      exact hl
    · exact hscalar key ((key?_load_of_ne hattr).symm.trans hk)

theorem idValue_scalar (id : Nat) : (idValue id).isNull = false ∧ (idValue id).isList = false := by
  unfold idValue
  split
  · exact ⟨rfl, rfl⟩
  · exact ⟨rfl, rfl⟩

/-- The number of a row is what a column of integers reads. -/
theorem toApp_idValue {f : Field} (hi : f.kind.isInteger = true) (id : Nat) :
    f.toApp (idValue id) = .ok (idValue id) := by
  rw [Field.toApp_of_integer hi (idValue_scalar id).1]
  unfold idValue
  split
  · rfl
  · rfl

/-- A record without a key adopts the number of its row, if there is one. -/
theorem belongs_of_adopt (ht : t.WellFormed) (ha : t.primaryKey.isAutoIncrement = true) (hr : r.Belongs t)
    {id : Option Nat} (h : r.adopt id = .ok r') : r'.Belongs t := by
  obtain ⟨rfl, hscalar⟩ := hr
  unfold adopt at h
  cases id with
  | none =>
    obtain rfl := Except.ok.inj h
    exact ⟨rfl, hscalar⟩
  | some id =>
    dsimp only at h
    rw [toApp_idValue (ht.isInteger_key ha)] at h
    obtain rfl := Except.ok.inj h
    obtain ⟨hn, hl⟩ := idValue_scalar id
    refine ⟨rfl, fun key hk => ?_⟩
    obtain rfl := Option.some.inj ((key?_load_self hn).symm.trans hk)
    exact hl

/-! ## One turn -/

/-- What is asked of a record gives it no list. -/
def Request.IsScalar : Request → Prop
  | set _ v => v.isList = false
  | save | remove => True

/-- The statements that a request may send for a record of the table, with a key or without one. -/
def Request.MaySend (t : Table) : Request → Option Value → List Query → Prop
  | set .., _, sent => sent = []
  | save, none, sent => sent = [] ∨ ∃ q, t.Inserts q ∧ sent = [q]
  | save, some key, sent => sent = [] ∨
    ∃ assigned w, t.primaryKey.field.toWire key = .ok w ∧ sent = [t.updateOf assigned w]
  | remove, none, sent => sent = []
  | remove, some key, sent => sent = [] ∨ ∃ w, t.primaryKey.field.toWire key = .ok w ∧ sent = [t.deleteOf w]

/-- The rules that a turn keeps to, on a table with numbered rows. -/
structure Turn.Obeys (t : Table) (turn : Turn) : Prop where
  sent : turn.request.MaySend t turn.before.key? turn.sent
  /-- A request that fails leaves the record. -/
  restored : turn.failure ≠ none → turn.after = turn.before
  /-- A key that the record has stays. -/
  kept : KeyKept t turn.before turn.after
  /-- The row of a record without a key cannot be deleted. -/
  refused : turn.request = .remove → turn.before.key? = none → turn.failure ≠ none

/-- Rows are inserted for records without a key, when they are saved. -/
theorem Request.MaySend.isInsert {request : Request} {key : Option Value} {sent : List Query} {q : Query}
    (h : request.MaySend t key sent) (hq : q ∈ sent) (hi : q.IsInsert) : request = .save ∧ key = none := by
  unfold MaySend at h
  split at h
  · rw [h] at hq
    cases hq
  · exact ⟨rfl, rfl⟩
  · rcases h with h | ⟨assigned, w, -, h⟩
    · rw [h] at hq
      cases hq
    · rw [h, List.mem_singleton] at hq
      exact absurd (hq ▸ hi) Table.not_isInsert_updateOf
  · rw [h] at hq
    cases hq
  · rcases h with h | ⟨w, -, h⟩
    · rw [h] at hq
      cases hq
    · rw [h, List.mem_singleton] at hq
      exact absurd (hq ▸ hi) Table.not_isInsert_deleteOf

theorem save_of_none (ha : r.table.primaryKey.isAutoIncrement = true) (hk : r.key? = none) (e : Executor σ) :
    r.save e = ({ table := r.table, rows := [r.values] } : Insert).run e >>= fun affected =>
      Action.ofResult (r.adopt affected.lastInsertId) >>= fun r' => pure (affected, r') := by
  unfold save
  dsimp only
  rw [ha, hk]
  rfl

theorem save_of_some (ha : r.table.primaryKey.isAutoIncrement = true) {key : Value} (hk : r.key? = some key)
    (e : Executor σ) : r.save e = if r.otherValues.isEmpty then pure (.zero, r) else
      Action.ofResult (({ table := r.table } : Update).setAll r.otherValues) >>= fun u =>
        ({ u with filter := some (keyIs r.table key) } : Update).run e >>= fun affected => pure (affected, r) := by
  unfold save
  dsimp only
  rw [ha, hk]
  rfl

theorem save_meets_of_none (ht : t.WellFormed) (ha : t.primaryKey.isAutoIncrement = true) (hr : r.Belongs t)
    (hk : r.key? = none) (e : Executor σ) : (r.save e.recorded).Meets fun result sent =>
      Request.save.MaySend t none sent ∧ ∀ n r', result = .ok (n, r') → r'.Belongs t := by
  have hbelongs := hr
  obtain ⟨rfl, -⟩ := hr
  rw [save_of_none ha hk]
  have hinsert : (({ table := r.table, rows := [r.values] } : Insert).run e.recorded).Meets fun _ sent =>
      Request.save.MaySend r.table none sent := by
    refine (Insert.meets_run e _).imp ?_
    rintro _ _ (hnil | ⟨q, ⟨s, s', hq⟩, hsent⟩)
    · exact .inl hnil
    · have hinserts := Insert.inserts_of_render hq rfl
      exact .inr ⟨q, hinserts, hsent⟩
  refine hinsert.bind (fun x sent h => ⟨h, fun _ _ hx => by cases hx⟩) fun affected sent h => ?_
  refine (Action.meets_ofResult (r.adopt affected.lastInsertId)).bind ?_ ?_
  · rintro x _ ⟨-, rfl⟩
    exact ⟨(List.append_nil sent).symm ▸ h, fun _ _ hx => by cases hx⟩
  · rintro r' _ ⟨hadopt, rfl⟩
    refine (Action.meets_pure _).imp ?_
    rintro _ _ ⟨rfl, rfl⟩
    refine ⟨by rwa [List.append_nil, List.append_nil], fun _ _ hx => ?_⟩
    cases hx
    exact belongs_of_adopt ht ha hbelongs hadopt.symm

theorem save_meets_of_some (ha : t.primaryKey.isAutoIncrement = true) (hr : r.Belongs t) {key : Value}
    (hk : r.key? = some key) (e : Executor σ) : (r.save e.recorded).Meets fun result sent =>
      Request.save.MaySend t (some key) sent ∧ ∀ n r', result = .ok (n, r') → r' = r := by
  obtain ⟨rfl, hscalar⟩ := hr
  rw [save_of_some ha hk]
  split
  · refine (Action.meets_pure _).imp ?_
    rintro _ _ ⟨rfl, rfl⟩
    exact ⟨.inl rfl, fun _ _ hx => by cases hx; rfl⟩
  · refine (Action.meets_ofResult _).bind ?_ ?_
    · rintro x _ ⟨-, rfl⟩
      exact ⟨.inl rfl, fun _ _ hx => by cases hx⟩
    · rintro u _ ⟨hset, rfl⟩
      obtain ⟨htable, hvalues⟩ := Update.setAll_eq_ok hset.symm fun _ hm => absurd hm List.not_mem_nil
      have hupdate : (({ u with filter := some (keyIs r.table key) } : Update).run e.recorded).Meets fun _ sent =>
          Request.save.MaySend r.table (some key) sent := by
        refine (Update.meets_run e _).imp ?_
        rintro _ _ (hnil | ⟨q, hq, hsent⟩)
        · exact .inl hnil
        · obtain ⟨assigned, w, hw, rfl⟩ :=
            Update.render_keyIs hq htable rfl hvalues (key?_eq_some.1 hk).2 (hscalar key hk)
          exact .inr ⟨assigned, w, hw, hsent⟩
      refine hupdate.bind (fun x sent h => ⟨h, fun _ _ hx => by cases hx⟩) fun affected sent h => ?_
      refine (Action.meets_pure _).imp ?_
      rintro _ _ ⟨rfl, rfl⟩
      exact ⟨by rwa [List.nil_append, List.append_nil], fun _ _ hx => by cases hx; rfl⟩

theorem remove_meets_of_none (hk : r.key? = none) (e : Executor σ) : (r.remove e.recorded).Meets fun result sent =>
    sent = [] ∧ ∃ x, result = .error x := by
  unfold remove
  rw [hk]
  refine (Action.meets_fail _).imp ?_
  rintro _ _ ⟨rfl, rfl⟩
  exact ⟨rfl, _, rfl⟩

theorem remove_meets_of_some (hr : r.Belongs t) {key : Value} (hk : r.key? = some key) (e : Executor σ) :
    (r.remove e.recorded).Meets fun _ sent => Request.remove.MaySend t (some key) sent := by
  obtain ⟨rfl, hscalar⟩ := hr
  unfold remove
  rw [hk]
  refine (Delete.meets_run e _).imp ?_
  rintro _ sent (hnil | ⟨q, hq, rfl⟩)
  · exact .inl hnil
  · obtain ⟨w, hw, rfl⟩ := Delete.render_keyIs hq (key?_eq_some.1 hk).2 (hscalar key hk)
    exact .inr ⟨w, hw, rfl⟩

/-- What a request sends, and what it makes of the record. -/
theorem outcome_meets (ht : t.WellFormed) (ha : t.primaryKey.isAutoIncrement = true) (hr : r.Belongs t)
    {request : Request} (hs : request.IsScalar) (e : Executor σ) :
    (request.outcome r e.recorded).Meets fun result sent => request.MaySend t r.key? sent ∧
      (∀ r', result = .ok r' → r'.Belongs t ∧ KeyKept t r r') ∧
      (request = .remove → r.key? = none → ∃ x, result = .error x) := by
  cases request with
  | set attr v =>
    refine (Action.meets_ofResult (r.set attr v)).imp ?_
    rintro _ _ ⟨rfl, rfl⟩
    exact ⟨rfl, fun r' h => belongs_of_set ht ha hr hs h, nofun⟩
  | save =>
    refine Action.Meets.map ?_
    cases hk : r.key? with
    | none =>
      refine (save_meets_of_none ht ha hr hk e).imp fun result sent ⟨hsent, hafter⟩ => ⟨hsent, fun r' h => ?_, nofun⟩
      obtain ⟨⟨n, _⟩, rfl, rfl⟩ := Field.map_eq_ok h
      exact ⟨hafter n _ rfl, .of_none hk⟩
    | some key =>
      refine (save_meets_of_some ha hr hk e).imp fun result sent ⟨hsent, hafter⟩ => ⟨hsent, fun r' h => ?_, nofun⟩
      obtain ⟨⟨n, _⟩, rfl, rfl⟩ := Field.map_eq_ok h
      obtain rfl := hafter n _ rfl
      exact ⟨hr, .rfl⟩
  | remove =>
    refine Action.Meets.map ?_
    have hafter {result : Result RowsAffected} (r' : Record) (h : result.map (fun _ => r) = .ok r') :
        r'.Belongs t ∧ KeyKept t r r' := by
      obtain ⟨_, -, rfl⟩ := Field.map_eq_ok h
      exact ⟨hr, .rfl⟩
    cases hk : r.key? with
    | none =>
      refine (remove_meets_of_none hk e).imp ?_
      rintro _ _ ⟨rfl, x, rfl⟩
      exact ⟨rfl, hafter, fun _ _ => ⟨x, rfl⟩⟩
    | some key =>
      refine (remove_meets_of_some hr hk e).imp fun result sent hsent => ⟨hsent, hafter, fun _ h => ?_⟩
      cases h

/-- One turn keeps to the rules, and what it leaves is a record of the table again. -/
theorem serve_obeys (ht : t.WellFormed) (ha : t.primaryKey.isAutoIncrement = true) (hr : r.Belongs t)
    {request : Request} (hs : request.IsScalar) (e : Executor σ) (w : World σ) :
    (r.serve e request w).1.Obeys t ∧ (r.serve e request w).1.after.Belongs t := by
  obtain ⟨after, sent, failure, hturn, hpost⟩ := serve_meets (outcome_meets ht ha hr hs e) w
  rw [hturn]
  rcases hpost with ⟨rfl, hsent, hafter, hrefused⟩ | ⟨x, rfl, rfl, hsent, -, -⟩
  · obtain ⟨hbelongs, hkept⟩ := hafter after rfl
    refine ⟨⟨hsent, fun h => absurd rfl h, hkept, fun hremove hk => ?_⟩, hbelongs⟩
    obtain ⟨x, hx⟩ := hrefused hremove hk
    cases hx
  · exact ⟨⟨hsent, fun _ => rfl, .rfl, fun _ _ => Option.some_ne_none x⟩, hr⟩

/-! ## All turns -/

/-- By induction over the requests, each turn keeps to the rules, and the key of the record is its key before and after
each turn. -/
theorem obeys_of_mem_turns (ht : t.WellFormed) (ha : t.primaryKey.isAutoIncrement = true) (e : Executor σ) :
    ∀ {requests : List Request} {r : Record} {w : World σ}, r.Belongs t → (∀ request ∈ requests, request.IsScalar) →
      ∀ turn ∈ r.turns e requests w, turn.Obeys t ∧ KeyKept t r turn.before ∧ KeyKept t r turn.after
  | [], _, _, _, _, _, hturn => absurd hturn List.not_mem_nil
  | request :: requests, r, w, hr, hs, turn, hturn => by
    obtain ⟨hobeys, hafter⟩ := serve_obeys ht ha hr (hs request List.mem_cons_self) e w
    have hkept : KeyKept t r (r.serve e request w).1.after := hobeys.kept
    rcases List.mem_cons.1 hturn with rfl | hturn
    · exact ⟨hobeys, .rfl, hkept⟩
    · obtain ⟨h, hbefore, hlater⟩ :=
        obeys_of_mem_turns ht ha e hafter (fun request hm => hs request (List.mem_cons_of_mem _ hm)) turn hturn
      exact ⟨h, hkept.trans hr hbefore, hkept.trans hr hlater⟩

theorem pairwise_turns (ht : t.WellFormed) (ha : t.primaryKey.isAutoIncrement = true) (e : Executor σ) :
    ∀ {requests : List Request} {r : Record} {w : World σ}, r.Belongs t → (∀ request ∈ requests, request.IsScalar) →
      (r.turns e requests w).Pairwise fun earlier later =>
        KeyKept t earlier.after later.before ∧ KeyKept t earlier.after later.after
  | [], _, _, _, _ => .nil
  | request :: requests, r, w, hr, hs => by
    obtain ⟨-, hafter⟩ := serve_obeys ht ha hr (hs request List.mem_cons_self) e w
    have hrest : ∀ request ∈ requests, request.IsScalar := fun request hm => hs request (List.mem_cons_of_mem _ hm)
    exact .cons (fun turn hturn => (obeys_of_mem_turns ht ha e hafter hrest turn hturn).2)
      (pairwise_turns ht ha e hafter hrest)

/-- **The life of a record** that has no key yet, on a table with numbered rows, whatever is asked of it and whatever
the executor answers: each turn keeps to the rules, a row is inserted only by a save that finds no key, and a key that
the record has after a turn is its key before and after every later one. -/
theorem turns_obey (ht : t.Compiled) (ha : t.primaryKey.isAutoIncrement = true) (hr : r.table = t) (hk : r.key? = none)
    {requests : List Request} (hs : ∀ request ∈ requests, request.IsScalar) (e : Executor σ) (w : World σ) :
    (∀ turn ∈ r.turns e requests w, turn.Obeys t ∧
      ∀ q ∈ turn.sent, q.IsInsert → turn.request = .save ∧ turn.before.key? = none) ∧
    (r.turns e requests w).Pairwise fun earlier later =>
      KeyKept t earlier.after later.before ∧ KeyKept t earlier.after later.after := by
  have hbelongs : r.Belongs t := ⟨hr, fun key h => by rw [hk] at h; cases h⟩
  refine ⟨fun turn hturn => ?_, pairwise_turns ht.wellFormed ha e hbelongs hs⟩
  have hobeys := (obeys_of_mem_turns ht.wellFormed ha e hbelongs hs turn hturn).1
  exact ⟨hobeys, fun q hq hi => hobeys.sent.isInsert hq hi⟩

end Record

/-! ## The life of one record -/

namespace Sample

/-- A thing is deleted before it has a row, written, given another number, written again and deleted. -/
def titledRequests : List Record.Request :=
  [.remove, .set "title" (.text "Sketch"), .save, .set "id" (.int 8), .save, .remove]

/-- The first row gets the number 7. -/
def titledAnswers : World Replay := .start { affected := [⟨1, some 7⟩] }

/-- The turns of a thing with a title. -/
def titledTurns : List Record.Turn :=
  (Record.ofTable titledTable).turns Replay.executor titledRequests titledAnswers

end Sample

theorem turns_obey_titled :
    (Sample.titledTurns.map fun turn => (turn.sent.map (·.sql), turn.failure.isSome)) =
      [([], true), ([], false), (["INSERT INTO `titled` (`title`) VALUES (%s);"], false), ([], true),
        (["UPDATE `titled` SET `title`=%s WHERE (`id` = %s);"], false),
        (["DELETE FROM `titled` WHERE (`id` = %s) LIMIT 1;"], false)] ∧
    (∀ turn ∈ Sample.titledTurns, turn.Obeys Sample.titledTable ∧
      ∀ q ∈ turn.sent, q.IsInsert → turn.request = .save ∧ turn.before.key? = none) ∧
    Sample.titledTurns.Pairwise fun earlier later =>
      Record.KeyKept Sample.titledTable earlier.after later.before ∧
        Record.KeyKept Sample.titledTable earlier.after later.after := by
  have hc : Sample.titledTable.Compiled := .of_declaration (by simp [Sample.titled]) trivial Sample.titled_compile
  have hs : ∀ request ∈ Sample.titledRequests, request.IsScalar := by
    simp [Sample.titledRequests, Record.Request.IsScalar, Value.isList]
  exact ⟨by decide +kernel, Record.turns_obey hc rfl rfl rfl hs Replay.executor Sample.titledAnswers⟩

end SqlMapper
