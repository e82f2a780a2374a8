/-
  Lists of pairs as maps that keep the order in which keys were first set.

  * `setKey` sets the value of a key, a new key at the end; `ofPairs` sets several;
  * `lookup_setKey_self` and `lookup_setKey_of_ne` say what is found afterwards;
  * `setKey_setKey`: of two values set for one key the later one counts;
  * `mem_keys_ofPairs`, `nodup_keys_ofPairs`: the keys are those of the pairs, each one once;
    `ofPairs_of_nodup`: pairs with different keys are left as they are;
  * `lookup_map`, `lookup_filter`: looking up in what other maps were made to;
  * `tabulate` pairs the keys that have a value with it; a key is looked up by its value.
-/

namespace Clearance.Keyed

variable {α : Type}

/-- The pairs with the value of one key set; a new key goes to the end. -/
def setKey (key : String) (a : α) : List (String × α) → List (String × α)
  | [] => [(key, a)]
  | (k, b) :: rest => if k = key then (k, a) :: rest else (k, b) :: setKey key a rest

/-- The map that pairs set one after the other. -/
def ofPairs (pairs : List (String × α)) : List (String × α) :=
  pairs.foldl (fun map p => setKey p.1 p.2 map) []

theorem lookup_setKey_self (key : String) (a : α) (pairs : List (String × α)) :
    (setKey key a pairs).lookup key = some a := by
  induction pairs with
  | nil => simp [setKey]
  | cons f rest ih =>
    obtain ⟨k, b⟩ := f
    by_cases h : k = key
    · simp [setKey, h]
    · have h' : (key == k) = false := by simpa using fun e => h e.symm
      simp [setKey, h, List.lookup_cons, h', ih]

theorem lookup_setKey_of_ne {key other : String} (h : other ≠ key) (a : α)
    (pairs : List (String × α)) : (setKey key a pairs).lookup other = pairs.lookup other := by
  induction pairs with
  | nil =>
    have h' : (other == key) = false := by simpa using h
    simp [setKey, List.lookup_cons, h']
  | cons f rest ih =>
    obtain ⟨k, b⟩ := f
    by_cases e : k = key
    · subst e
      have h' : (other == k) = false := by simpa using h
      simp [setKey, List.lookup_cons, h']
    · by_cases e' : other = k
      · subst e'; simp [setKey, e]
      · have h' : (other == k) = false := by simpa using e'
        simp [setKey, e, List.lookup_cons, h', ih]

theorem setKey_setKey (key : String) (a b : α) (pairs : List (String × α)) :
    setKey key a (setKey key b pairs) = setKey key a pairs := by
  induction pairs with
  | nil => simp [setKey]
  | cons f rest ih =>
    obtain ⟨k, c⟩ := f
    by_cases h : k = key
    · simp [setKey, h]
    · simp [setKey, h, ih]

theorem mem_keys_setKey {key other : String} (a : α) (pairs : List (String × α)) :
    other ∈ (setKey key a pairs).map Prod.fst ↔ other = key ∨ other ∈ pairs.map Prod.fst := by
  induction pairs with
  | nil => simp [setKey]
  | cons f rest ih =>
    rw [setKey]
    split
    · rename_i h
      simp [h]
    · rw [List.map_cons, List.mem_cons, ih, List.map_cons, List.mem_cons, or_left_comm]

theorem mem_setKey {key : String} {a : α} {pairs : List (String × α)} {p : String × α}
    (h : p ∈ setKey key a pairs) : p = (key, a) ∨ p ∈ pairs := by
  induction pairs with
  | nil => exact .inl (List.mem_singleton.1 h)
  | cons f rest ih =>
    rw [setKey] at h
    split at h
    · rename_i hk
      rcases List.mem_cons.1 h with rfl | h
      · exact .inl (by rw [hk])
      · exact .inr (List.mem_cons_of_mem _ h)
    · rcases List.mem_cons.1 h with rfl | h
      · exact .inr List.mem_cons_self
      · exact (ih h).imp_right (List.mem_cons_of_mem _)

theorem nodup_keys_setKey (key : String) (a : α) {pairs : List (String × α)}
    (h : (pairs.map Prod.fst).Nodup) : ((setKey key a pairs).map Prod.fst).Nodup := by
  induction pairs with
  | nil => simp [setKey]
  | cons f rest ih =>
    obtain ⟨hf, hrest⟩ := List.nodup_cons.1 h
    rw [setKey]
    split
    · exact h
    · rename_i hk
      refine List.nodup_cons.2 ⟨fun hm => ?_, ih hrest⟩
      rcases (mem_keys_setKey a rest).1 hm with e | hm
      · exact hk e
      · exact hf hm

theorem mem_keys_ofPairs {key : String} (pairs : List (String × α)) :
    key ∈ (ofPairs pairs).map Prod.fst ↔ key ∈ pairs.map Prod.fst := by
  suffices ∀ map : List (String × α),
      key ∈ (pairs.foldl (fun map p => setKey p.1 p.2 map) map).map Prod.fst ↔
        key ∈ map.map Prod.fst ∨ key ∈ pairs.map Prod.fst by
    simpa [ofPairs] using this []
  induction pairs with
  | nil => simp
  | cons p rest ih =>
    intro map
    rw [List.foldl_cons, ih, mem_keys_setKey, List.map_cons, List.mem_cons, or_assoc, or_left_comm]

theorem nodup_keys_ofPairs (pairs : List (String × α)) :
    ((ofPairs pairs).map Prod.fst).Nodup := by
  suffices ∀ map : List (String × α), (map.map Prod.fst).Nodup →
      ((pairs.foldl (fun map p => setKey p.1 p.2 map) map).map Prod.fst).Nodup from
    this [] List.nodup_nil
  induction pairs with
  | nil => exact fun _ h => h
  | cons p rest ih => exact fun map h => ih _ (nodup_keys_setKey p.1 p.2 h)

/-- A key that is not there yet goes to the end. -/
theorem setKey_of_not_mem {key : String} {a : α} {pairs : List (String × α)}
    (h : key ∉ pairs.map Prod.fst) : setKey key a pairs = pairs ++ [(key, a)] := by
  induction pairs with
  | nil => rfl
  | cons f rest ih =>
    rw [List.map_cons, List.mem_cons, not_or] at h
    rw [setKey, if_neg fun e => h.1 e.symm, ih h.2, List.cons_append]

/-- Pairs whose keys differ are set one behind the other. -/
theorem ofPairs_of_nodup {pairs : List (String × α)} (h : (pairs.map Prod.fst).Nodup) :
    ofPairs pairs = pairs := by
  suffices ∀ map : List (String × α), ((map ++ pairs).map Prod.fst).Nodup →
      pairs.foldl (fun map p => setKey p.1 p.2 map) map = map ++ pairs from this [] h
  clear h
  induction pairs with
  | nil => exact fun map _ => (List.append_nil map).symm
  | cons p rest ih =>
    intro map h
    have hp : p.1 ∉ map.map Prod.fst := by
      rw [List.map_append, List.nodup_append] at h
      exact fun hm => h.2.2 _ hm p.1 List.mem_cons_self rfl
    rw [List.foldl_cons, setKey_of_not_mem hp, ih, List.append_assoc]
    · rfl
    · rwa [List.append_assoc]

theorem mem_ofPairs {pairs : List (String × α)} {p : String × α} (h : p ∈ ofPairs pairs) :
    p ∈ pairs := by
  suffices ∀ map : List (String × α),
      p ∈ pairs.foldl (fun map p => setKey p.1 p.2 map) map → p ∈ map ∨ p ∈ pairs by
    exact (this [] h).resolve_left List.not_mem_nil
  clear h
  induction pairs with
  | nil => exact fun map h => .inl h
  | cons q rest ih =>
    intro map h
    rcases ih _ h with h | h
    · rcases mem_setKey h with rfl | h
      · exact .inr List.mem_cons_self
      · exact .inl h
    · exact .inr (List.mem_cons_of_mem _ h)

theorem mem_of_lookup {key : String} {a : α} {pairs : List (String × α)}
    (h : pairs.lookup key = some a) : (key, a) ∈ pairs := by
  obtain ⟨before, after, rfl, -⟩ := List.lookup_eq_some_iff.1 h
  simp

theorem lookup_map {β : Type} (f : String → α → β) (pairs : List (String × α)) (key : String) :
    (pairs.map fun p => (p.1, f p.1 p.2)).lookup key = (pairs.lookup key).map (f key) := by
  induction pairs with
  | nil => rfl
  | cons p rest ih =>
    obtain ⟨k, a⟩ := p
    rw [List.map_cons, List.lookup_cons, List.lookup_cons, ih]
    by_cases h : key = k
    · subst h; simp
    · have hb : (key == k) = false := by simpa using h
      rw [hb]

/-- Dropping other keys does not change what is found under a key. -/
theorem lookup_filter {keep : String → Bool} {key : String} (h : keep key = true)
    (pairs : List (String × α)) :
    (pairs.filter fun p => keep p.1).lookup key = pairs.lookup key := by
  induction pairs with
  | nil => rfl
  | cons p rest ih =>
    obtain ⟨k, a⟩ := p
    rw [List.filter_cons]
    by_cases e : key = k
    · subst e; simp [h]
    · have h' : (key == k) = false := by simpa using e
      split <;> simp [List.lookup_cons, h', ih]

/-- Those of some keys that have a value, each with its value. -/
def tabulate (f : String → Option α) (keys : List String) : List (String × α) :=
  keys.filterMap fun key => (f key).map fun a => (key, a)

theorem lookup_tabulate (f : String → Option α) (key : String) (keys : List String) :
    (tabulate f keys).lookup key = if key ∈ keys then f key else none := by
  induction keys with
  | nil => rfl
  | cons k rest ih =>
    unfold tabulate at ih ⊢
    rw [List.filterMap_cons]
    by_cases e : key = k
    · subst e
      cases hf : f key with
      | none => simpa [hf] using ih
      | some a => simp
    · cases hf : f k with
      | none => simpa [e] using ih
      | some a =>
        have h' : (key == k) = false := by simpa using e
        simpa [List.lookup_cons, e, h'] using ih

theorem keys_tabulate (f : String → Option α) (keys : List String) :
    (tabulate f keys).map Prod.fst = keys.filter fun key => (f key).isSome := by
  induction keys with
  | nil => rfl
  | cons k rest ih =>
    unfold tabulate at ih ⊢
    cases hf : f k <;> simp [hf, ih]

end Clearance.Keyed
