import SqlMapper.Proofs.Connection.Wire
import SqlMapper.Proofs.Field.Native
import SqlMapper.Proofs.Record.Labels
import SqlMapper.Proofs.Record.Lifecycle
import SqlMapper.Proofs.Value.Integer

/-!
# Writing a key back

A number has two forms as a value, one with a sign and one without. The key of a record keeps the form in which the
number came from the server, as far as it fits (`Record.Numbered.key`), while a native type writes the form of its own
sign. A record compares its key as a value: the number that was read as a native type is taken back exactly if the two
forms are one (`Record.set_read_iff`).
-/

namespace SqlMapper

/-! ## Forms of a number -/

section

variable {n : Int} {v w k : Value} {f : Field} {T : IntegerType}

namespace Value

/-- The value is a number without sign. -/
def isUnsigned : Value → Bool
  | uint _ => true
  | _ => false

theorem ofInteger_toInt (m : Int64) : ofInteger false m.toInt = int m := by
  rw [ofInteger_of_lt m.toInt_lt, Int64.ofInt_toInt]

theorem ofInteger_toNat {m : UInt64} {b : Bool} (h : b = true ∨ Int.pow 2 63 ≤ m.toNat) :
    ofInteger b m.toNat = uint m := by
  rw [ofInteger, if_pos h, Int.toNat_natCast, UInt64.ofNat_toNat]

/-- A number of 64 bits is read without sign if it is too large for one. -/
theorem ofInteger_of_or {m : Int} (h : ((int64? m).map int).or ((uint64? m).map uint) = some k) :
    k = ofInteger false m ∧ k.integer? = some m := by
  rcases Option.or_eq_some_iff.1 h with h | ⟨hnone, h⟩
  · obtain ⟨j, hj, rfl⟩ := Option.map_eq_some_iff.1 h
    obtain ⟨⟨hl, hu⟩, hj⟩ := Option.ite_none_right_eq_some.1 hj
    cases hj
    exact ⟨(ofInteger_of_lt hu).symm, integer?_int_ofInt hl hu⟩
  · obtain ⟨j, hj, rfl⟩ := Option.map_eq_some_iff.1 h
    obtain ⟨⟨hl, hu⟩, hj⟩ := Option.ite_none_right_eq_some.1 hj
    cases hj
    have hlarge : Int.pow 2 63 ≤ m := by
      refine Int.not_lt.1 fun hlt => ?_
      rw [int64?_of_lt (Int.le_trans (by decide) hl) hlt] at hnone
      cases hnone
    exact ⟨(ofInteger_of_le hlarge _).symm, integer?_uint_ofNat hl hu⟩

end Value

/-- The type writes the number in the form in which a column of integers reads it from the value. -/
def IntegerType.Spells (T : IntegerType) (v : Value) (n : Int) : Prop :=
  T.isSigned = false ↔ v.isUnsigned = true ∨ Int.pow 2 63 ≤ n

/-- Equal forms of one number are equal values. -/
theorem IntegerType.same_value_iff : (Value.ofInteger v.isUnsigned n).same (T.value n) = true ↔ T.Spells v n := by
  unfold Value.ofInteger IntegerType.value Spells
  split
  · next hform => cases T.isSigned <;> simp only [iff_true, hform] <;> simp [Value.same]
  · next hform => cases T.isSigned <;> simp only [iff_false, hform] <;> simp [Value.same]

/-- A column of integers reads a number in the form in which it arrives, unless it is too large for its sign. -/
theorem Field.eq_ofInteger_of_toApp (hi : f.kind.isInteger = true) (h : f.toApp v = .ok k) (hk : k.integer? = some n) :
    k = .ofInteger v.isUnsigned n := by
  -- The two forms of a number of 64 bits, of which `or` takes the first that it has.
  have hread {m : Int} (h : ((Value.int64? m).map .int).or ((Value.uint64? m).map .uint) = some k) :
      k = .ofInteger false n := by
    obtain ⟨hform, hm⟩ := Value.ofInteger_of_or h
    rwa [Option.some.inj (hk.symm.trans hm)]
  have hnull : v.isNull = false := by
    cases v with
    | null =>
      cases h
      cases hk
    | _ => rfl
  rw [toApp_of_integer hi hnull] at h
  unfold appInteger at h
  split at h
  · next m =>
    cases h
    cases hk
    exact (Value.ofInteger_toInt m).symm
  · next m =>
    cases h
    cases hk
    exact (Value.ofInteger_toNat (.inl rfl)).symm
  · next hint huint =>
    have hsign : v.isUnsigned = false := by
      cases v with
      | uint m => exact absurd rfl (huint m)
      | _ => rfl
    rw [hsign]
    split at h
    · exact hread (take_eq_ok h)
    · obtain ⟨j, hj, rfl⟩ := Option.map_eq_some_iff.1 (take_eq_ok h)
      cases hk
      exact (Value.ofInteger_toInt j).symm

end

/-! ## Numbered keys -/

namespace Record

variable {t : Table} {r r' : Record} {v w k : Value} {T : IntegerType} {n : Int}

/-- A record of the table whose number arrived as the value: it was loaded from a row with the number, the last one if
there are several, or it was saved without a key and took over the number of its row. -/
inductive Numbered (t : Table) : Record → Value → Prop
  | loaded {row : FetchedRow} {r : Record} {v : Value} : Row.load t row .model = .ok (.record r) →
      row.pairs.reverse.lookup t.primaryKey.field.name = some v → Numbered t r v
  | saved {σ : Type} {e : Executor σ} {r r' : Record} {u u' : World σ} {affected : RowsAffected} {id : Nat} :
      r.table = t → r.key? = none → (r.save e).run u = (.ok (affected, r'), u') →
      affected.lastInsertId = some id → Numbered t r' (idValue id)

/-- The record belongs to the table, and its key is what the column reads from the value. -/
structure HasKey (r : Record) (t : Table) (v : Value) : Prop where
  table : r.table = t
  key : ∃ k, t.primaryKey.field.toApp v = .ok k ∧ r.get? t.primaryKey.attr = some k

theorem attributeOf_key (ht : t.WellFormed) : t.attributeOf t.primaryKey.field.name = some t.primaryKey.attr :=
  (ht.attributeOf _ _).2 ⟨_, Ordered.mem_pairs_iff.1 ht.key_mem.1, rfl⟩

/-- A cell of the key's column gives the record a key, and any other cell leaves it the key that it has. -/
theorem hasKey_load (ht : t.WellFormed) (hr : r.table = t) {label attr : String} {f : Field} {x : Value}
    (hattr : t.attributeOf label = some attr) (hf : t.field attr = .ok f) (hk : f.toApp x = .ok k) {old : Option Value}
    (hold : ∀ v ∈ old, r.HasKey t v) :
    ∀ v ∈ ([(label, x)].lookup t.primaryKey.field.name).or old, (r.load attr k).HasKey t v := by
  intro v hv
  by_cases hlabel : t.primaryKey.field.name = label
  · subst hlabel
    rw [List.lookup_cons_self, Option.some_or] at hv
    obtain rfl := Option.some.inj hv
    obtain rfl := Option.some.inj ((attributeOf_key ht).symm.trans hattr)
    obtain rfl := Except.ok.inj (ht.field_key.symm.trans hf)
    exact ⟨hr, k, hk, Ordered.get?_insert_self⟩
  · have hne : t.primaryKey.attr ≠ attr := by
      rintro rfl
      obtain ⟨g, hg, rfl⟩ := (ht.attributeOf _ _).1 hattr
      rw [Ordered.mem_pairs_iff.1 ht.key_mem.1] at hg
      exact hlabel (congrArg Field.name (Option.some.inj hg))
    have hnone : [(label, x)].lookup t.primaryKey.field.name = none := by
      rw [List.lookup_cons, beq_eq_false_iff_ne.2 hlabel, List.lookup_nil]
    rw [hnone, Option.none_or] at hv
    obtain ⟨k', hk', hget⟩ := (hold v hv).key
    exact ⟨hr, k', hk', (Ordered.get?_insert_of_ne hne).trans hget⟩

/-- By induction over the cells, the key is that of the last cell of its column. -/
theorem hasKey_fill (ht : t.WellFormed) : ∀ {cells : List (String × Value)} {r r' : Record} {old : Option Value},
    r.table = t → (∀ v ∈ old, r.HasKey t v) → Row.fill r cells = .ok r' →
      ∀ v ∈ (cells.reverse.lookup t.primaryKey.field.name).or old, r'.HasKey t v
  | [], _, _, _, _, hold, h => by
    cases h
    exact hold
  | (label, x) :: cells, r, r', old, hr, hold, h => by
    rw [List.reverse_cons, List.lookup_append, Option.or_assoc]
    unfold Row.fill at h
    rw [hr] at h
    split at h
    · next hnone =>
      have hlabel : t.primaryKey.field.name ≠ label := by
        rintro rfl
        rw [attributeOf_key ht] at hnone
        cases hnone
      rw [List.lookup_cons, beq_eq_false_iff_ne.2 hlabel, List.lookup_nil, Option.none_or]
      exact hasKey_fill ht hr hold h
    · next attr hattr =>
      obtain ⟨f, hf, h⟩ := Result.bind_eq_ok.1 h
      obtain ⟨k, hk, h⟩ := Result.bind_eq_ok.1 h
      exact hasKey_fill ht (show (r.load attr k).table = t from hr) (hasKey_load ht hr hattr hf hk hold) h

/-- What a record without a key is after it has been saved. -/
theorem adopt_of_save {σ : Type} {e : Executor σ} {u u' : World σ} {affected : RowsAffected}
    (ha : r.table.primaryKey.isAutoIncrement = true) (hk : r.key? = none)
    (h : (r.save e).run u = (.ok (affected, r'), u')) : r.adopt affected.lastInsertId = .ok r' := by
  rw [save_of_none ha hk, Result.run_bind] at h
  split at h
  · next affected' u'' _ =>
    rw [Result.run_bind] at h
    cases hadopt : r.adopt affected'.lastInsertId with
    | ok r'' =>
      rw [hadopt] at h
      cases h
      exact hadopt
    | error x =>
      rw [hadopt] at h
      cases h
  · cases h

/-- The key of a record is what its column reads from the number that arrived. -/
theorem Numbered.hasKey (ht : t.WellFormed) (ha : t.primaryKey.isAutoIncrement = true) (h : r.Numbered t v) :
    r.HasKey t v := by
  cases h with
  | loaded hload hlookup =>
    have hfill : Row.fill (.ofTable t) _ = .ok r := (Row.load_eq_record.1 hload).2.2
    have hold : ∀ v ∈ (none : Option Value), (Record.ofTable t).HasKey t v := nofun
    refine hasKey_fill ht rfl hold hfill v ?_
    rw [hlookup]
    rfl
  | saved htable hk hsave hid =>
    subst htable
    have hadopt := adopt_of_save ha hk hsave
    rw [hid] at hadopt
    obtain ⟨k, hk, hr⟩ := Result.bind_eq_ok.1 hadopt
    cases hr
    exact ⟨rfl, k, hk, Ordered.get?_insert_self⟩

/-! ## Reading and writing back -/

/-- An attribute is read as a native integer if its value denotes one that the type has. -/
theorem getAs_integer_eq_ok {attr : String} : r.getAs attr (.integer T) = .ok w ↔
    ∃ n, ((r.get? attr).getD .null).integer? = some n ∧ T.holds n = true ∧ w = T.value n := by
  have hread : r.getAs attr (.integer T) = .ok w ↔
      ∃ n, ((r.get? attr).getD .null).readInteger T = .ok n ∧ T.value n = w := by
    unfold getAs Value.readAs
    cases ((r.get? attr).getD .null).readInteger T <;> simp [Except.map, Except.mapError]
  rw [hread]
  refine exists_congr fun n => ?_
  rw [Value.readInteger_eq_ok, and_assoc, eq_comm (a := w)]

/-- A key is replaced by an equal value alone. -/
theorem set_key (ht : r.table.WellFormed) (ha : r.table.primaryKey.isAutoIncrement = true) (hk : r.key? = some k)
    (w : Value) : r.set r.table.primaryKey.attr w =
      if k.same w = true then .ok (r.load r.table.primaryKey.attr w)
      else fail (.notAllowed (.change r.table.primaryKey.attr r.table.name)) := by
  obtain ⟨hget, hn⟩ := key?_eq_some.1 hk
  have hchanges : r.changesKey r.table.primaryKey.field r.table.primaryKey.attr w = !k.same w := by
    rw [changesKey, ← ht.key_numbered, ha, hget]
    dsimp only
    rw [hn]
    rfl
  rw [set, ht.field_key, Result.ok_bind, hchanges]
  cases k.same w <;> rfl

/-- **The key that was read is written back**, on a table with numbered rows: what is read of the key as a native type
is its number, and the record takes it back exactly if the type writes it in the form in which the column reads it.
The key is the same number then, and otherwise the write is refused as a change. -/
theorem set_read_iff (ht : t.Compiled) (ha : t.primaryKey.isAutoIncrement = true) (hr : r.Numbered t v)
    (hw : r.getAs t.primaryKey.attr (.integer T) = .ok w) :
    ∃ n, (T.holds n = true ∧ w = T.value n) ∧ (∃ key, r.key? = some key ∧ key.integer? = some n) ∧
      ((∃ r', r.set t.primaryKey.attr w = .ok r') ↔ T.Spells v n) ∧
      (∀ r', r.set t.primaryKey.attr w = .ok r' → r'.key? = some w ∧ w.integer? = some n) ∧
      (¬ T.Spells v n → r.set t.primaryKey.attr w = fail (.notAllowed (.change t.primaryKey.attr t.name))) := by
  have hwell := ht.wellFormed
  obtain ⟨rfl, k, hk, hget⟩ := hr.hasKey hwell ha
  obtain ⟨n, hn, hholds, rfl⟩ := getAs_integer_eq_ok.1 hw
  rw [hget, Option.getD_some] at hn
  have hwritten : (T.value n).integer? = some n := IntegerType.integer?_value hholds
  have hkey : r.key? = some k := key?_eq_some.2 ⟨hget, Value.isNull_of_integer? hn⟩
  have hsame : k.same (T.value n) = true ↔ T.Spells v n :=
    Field.eq_ofInteger_of_toApp (hwell.isInteger_key ha) hk hn ▸ IntegerType.same_value_iff
  have hset := set_key hwell ha hkey (T.value n)
  refine ⟨n, ⟨hholds, rfl⟩, ⟨k, hkey, hn⟩, ⟨?_, fun h => ⟨_, hset.trans (if_pos (hsame.2 h))⟩⟩, ?_,
    fun h => hset.trans (if_neg (h ∘ hsame.1))⟩
  · rintro ⟨r', h⟩
    refine by_contra fun hspells => ?_
    rw [hset, if_neg (hspells ∘ hsame.1)] at h
    cases h
  · intro r' h
    obtain ⟨-, -, -, rfl⟩ := set_eq_ok h
    exact ⟨key?_load_self (T.isNull_value n).1, hwritten⟩

end Record

/-! ## A number in another form -/

namespace Sample

/-- A thing that has no row yet. -/
def sketch : Record := (Record.ofTable titledTable).load "title" (.text "Sketch")

/-- The thing with the number of its row. -/
def numberedSketch : Record := sketch.load "id" (.int 11)

theorem numbered_sketch : numberedSketch.Numbered titledTable (Record.idValue 11) :=
  .saved (e := Replay.executor) (r := sketch) (u := .start { affected := [⟨1, some 11⟩] }) rfl rfl rfl rfl

end Sample

open Sample

/-- Eleven is read with a sign and written back. -/
theorem set_read_iff_sketch : (titledTable.Compiled ∧ numberedSketch.Numbered titledTable (Record.idValue 11) ∧
      numberedSketch.getAs "id" (.integer .i32) = .ok (.int 11)) ∧
    ∃ r', numberedSketch.set "id" (.int 11) = .ok r' ∧ r'.key? = some (.int 11) := by
  have hread : numberedSketch.getAs "id" (.integer .i32) = .ok (.int 11) := rfl
  refine ⟨⟨titled_compiled, numbered_sketch, hread⟩, ?_⟩
  obtain ⟨n, ⟨hholds, -⟩, -, hset, hkept, -⟩ := Record.set_read_iff titled_compiled rfl numbered_sketch hread
  have hspells : IntegerType.Spells .i32 (Record.idValue 11) n := by
    refine ⟨fun h => absurd h (by decide), fun h => h.elim (fun hu => absurd hu (by decide)) fun hlarge => ?_⟩
    have hsmall : n < Int.pow 2 31 := of_decide_eq_true (Bool.and_eq_true_iff.1 hholds).2
    exact absurd (Int.lt_of_le_of_lt hlarge hsmall) (by decide)
  obtain ⟨r', hr'⟩ := hset.2 hspells
  exact ⟨r', hr', (hkept r' hr').1⟩

/-- Eleven is read without a sign, and is refused as a change of eleven. -/
theorem read_key_refused : titledTable.Compiled ∧ numberedSketch.Numbered titledTable (Record.idValue 11) ∧
    numberedSketch.getAs "id" (.integer .u64) = .ok (.uint 11) ∧
    numberedSketch.key? = some (.int 11) ∧ (Value.int 11).integer? = (Value.uint 11).integer? ∧
    numberedSketch.set "id" (.uint 11) = fail (.notAllowed (.change "id" "titled")) :=
  ⟨titled_compiled, numbered_sketch, rfl, rfl, rfl, rfl⟩

end SqlMapper
