import Mathlib.Data.List.Induction
import SqlMapper.Ordered

/-!
# Laws of ordered maps

The value of a name is the one that stands beside it (`mem_pairs_iff`). A write leaves the pairs of the other names
(`mem_pairs_insert`) and the order of the names, a new one last (`keys_insert`). So a map that is made of pairs has the
names in the order of their first places (`keys_ofList`), each with its last value (`get?_ofList`), and pairs whose
names differ make a map of just these pairs (`pairs_ofList`).
-/

namespace SqlMapper

/-- Where a key belongs to one item, a search for the key finds that item. -/
theorem find?_eq_some_iff_of_nodup {α κ : Type} [DecidableEq κ] {key : α → κ} {k : κ} {a : α} :
    ∀ {items : List α}, (items.map key).Nodup → (items.find? (key · = k) = some a ↔ a ∈ items ∧ key a = k)
  | [], _ => by simp
  | x :: items, hn => by
    rw [List.map_cons, List.nodup_cons] at hn
    by_cases hx : key x = k
    · have hrest : a ∈ items → key a ≠ k := fun ha he => hn.1 (List.mem_map.2 ⟨a, ha, he.trans hx.symm⟩)
      rw [List.find?_cons_of_pos (by simpa using hx), List.mem_cons, Option.some.injEq]
      constructor
      · rintro rfl
        exact ⟨.inl rfl, hx⟩
      · rintro ⟨rfl | ha, he⟩
        · rfl
        · exact absurd he (hrest ha)
    · rw [List.find?_cons_of_neg (by simpa using hx), find?_eq_some_iff_of_nodup hn.2, List.mem_cons]
      constructor
      · exact fun h => ⟨.inr h.1, h.2⟩
      · rintro ⟨rfl | ha, he⟩
        · exact absurd he hx
        · exact ⟨ha, he⟩

namespace Ordered

variable {α : Type} {m : Ordered α} {key : String} {a : α}

/-- A name has the value that stands beside it. -/
theorem mem_pairs_iff : (key, a) ∈ m.pairs ↔ m.get? key = some a := by
  rw [get?, Option.map_eq_some_iff]
  constructor
  · exact fun h => ⟨(key, a), (find?_eq_some_iff_of_nodup m.nodup).2 ⟨h, rfl⟩, rfl⟩
  · rintro ⟨p, hp, rfl⟩
    obtain ⟨hm, rfl⟩ := (find?_eq_some_iff_of_nodup m.nodup).1 hp
    exact hm

theorem contains_eq_true : m.contains key = true ↔ key ∈ m.keys := by
  simp [contains, keys]

theorem get?_eq_none_iff : m.get? key = none ↔ key ∉ m.keys := by
  rw [get?, Option.map_eq_none_iff, List.find?_eq_none, keys, List.mem_map]
  simp only [decide_eq_true_eq, not_exists, not_and]

theorem replaced_of_notMem {pairs : List (String × α)} (h : key ∉ pairs.map Prod.fst) :
    replaced key a pairs = pairs := by
  refine (List.map_congr_left fun p hp => ?_).trans (List.map_id pairs)
  exact if_neg fun he => h (List.mem_map.2 ⟨p, hp, he⟩)

/-- A name that is there keeps its place. -/
theorem pairs_insert_of_mem (h : key ∈ m.keys) : (m.insert key a).pairs = replaced key a m.pairs := by
  unfold insert
  rw [dif_pos (show key ∈ m.pairs.map Prod.fst from h)]

/-- A new name comes last. -/
theorem pairs_insert_of_notMem (h : key ∉ m.keys) : (m.insert key a).pairs = m.pairs ++ [(key, a)] := by
  unfold insert
  rw [dif_neg (show key ∉ m.pairs.map Prod.fst from h)]

theorem keys_insert : (m.insert key a).keys = if key ∈ m.keys then m.keys else m.keys ++ [key] := by
  split
  · next h => rw [keys, pairs_insert_of_mem h, keys_replaced, keys]
  · next h => rw [keys, pairs_insert_of_notMem h, List.map_append, keys, List.map_cons, List.map_nil]

/-- What stands in a map after a write: the new pair, and the old ones of the other names. -/
theorem mem_pairs_insert {p : String × α} : p ∈ (m.insert key a).pairs ↔ p = (key, a) ∨ p ∈ m.pairs ∧ p.1 ≠ key := by
  by_cases h : key ∈ m.keys
  · rw [pairs_insert_of_mem h, replaced, List.mem_map]
    obtain ⟨old, ho, hk⟩ := List.mem_map.1 h
    constructor
    · rintro ⟨q, hq, rfl⟩
      split
      · exact .inl rfl
      · next hne => exact .inr ⟨hq, hne⟩
    · rintro (rfl | ⟨hp, hne⟩)
      · exact ⟨old, ho, if_pos hk⟩
      · exact ⟨p, hp, if_neg hne⟩
  · rw [pairs_insert_of_notMem h, List.mem_append, List.mem_singleton, or_comm]
    refine or_congr_right ⟨fun hp => ⟨hp, ?_⟩, And.left⟩
    rintro rfl
    exact h (List.mem_map_of_mem hp)

@[simp] theorem get?_insert_self : (m.insert key a).get? key = some a :=
  mem_pairs_iff.1 (mem_pairs_insert.2 (.inl rfl))

/-- A write leaves the values of the other names. -/
theorem get?_insert_of_ne {other : String} (h : other ≠ key) : (m.insert key a).get? other = m.get? other := by
  refine Option.ext fun b => ?_
  rw [← mem_pairs_iff, ← mem_pairs_iff, mem_pairs_insert]
  constructor
  · rintro (he | hm)
    · exact absurd (Prod.mk.inj he).1 h
    · exact hm.1
  · exact fun hm => .inr ⟨hm, h⟩

/-- New names with different values come behind the old ones in their order. -/
theorem pairs_insertAll : ∀ {pairs : List (String × α)} {m : Ordered α}, (m.keys ++ pairs.map Prod.fst).Nodup →
    (m.insertAll pairs).pairs = m.pairs ++ pairs
  | [], m, _ => (List.append_nil m.pairs).symm
  | p :: pairs, m, h => by
    have hnew : p.1 ∉ m.keys := fun hm => (List.nodup_append.1 h).2.2 _ hm _ List.mem_cons_self rfl
    have hinsert : (m.insert p.1 p.2).pairs = m.pairs ++ [p] := pairs_insert_of_notMem hnew
    have hrest : ((m.insert p.1 p.2).keys ++ pairs.map Prod.fst).Nodup := by
      rw [keys, hinsert, List.map_append, List.append_assoc]
      exact h
    have ih := pairs_insertAll hrest
    rw [hinsert, List.append_assoc] at ih
    exact ih

/-- Pairs whose names differ make a map of these pairs. -/
theorem pairs_ofList {pairs : List (String × α)} (h : (pairs.map Prod.fst).Nodup) : (ofList pairs).pairs = pairs :=
  pairs_insertAll h

theorem insertAll_append {pairs pairs' : List (String × α)} :
    m.insertAll (pairs ++ pairs') = (m.insertAll pairs).insertAll pairs' :=
  List.foldl_append

theorem ofList_concat (pairs : List (String × α)) (p : String × α) :
    ofList (pairs ++ [p]) = (ofList pairs).insert p.1 p.2 :=
  insertAll_append

/-- Names stand in the order in which they came first. -/
theorem keys_ofList (pairs : List (String × α)) : (ofList pairs).keys = (pairs.map Prod.fst).eraseDups := by
  induction pairs using List.reverseRecOn with
  | nil => rfl
  | append_singleton pairs p ih =>
    rw [ofList_concat, keys_insert, ih, List.map_append, List.map_singleton, List.eraseDups_append]
    simp only [List.mem_eraseDups, List.removeAll, List.filter_cons, List.filter_nil, List.elem_eq_mem]
    by_cases h : p.1 ∈ pairs.map Prod.fst
    · simp [h]
    · simp [h, List.eraseDups_cons]

/-- A name has the value that came last. -/
theorem get?_ofList (pairs : List (String × α)) : (ofList pairs).get? key = pairs.reverse.lookup key := by
  induction pairs using List.reverseRecOn with
  | nil => rfl
  | append_singleton pairs p ih =>
    rw [ofList_concat, List.reverse_append, List.reverse_singleton, List.singleton_append]
    by_cases h : key = p.1
    · subst h
      rw [get?_insert_self, List.lookup_cons_self]
    · rw [get?_insert_of_ne h, ih, List.lookup_cons, beq_false_of_ne h]

@[simp] theorem ofList_pairs (m : Ordered α) : ofList m.pairs = m := by
  have hpairs : (ofList m.pairs).pairs = m.pairs := pairs_ofList m.nodup
  cases m
  cases h : ofList _
  rw [h] at hpairs
  cases hpairs
  rfl

end Ordered

end SqlMapper
