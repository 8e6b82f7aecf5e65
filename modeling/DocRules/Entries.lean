/-! Insertion-ordered maps. A map is the list of its pairs, in the order in which the keys first
arrived. Nothing in the type keeps a key from occurring twice: `Distinct` says that none does, and
every map built by `put` from a distinct one is distinct again. Looking a key up is `List.lookup`.
-/

namespace DocRules

/-- An insertion-ordered map from texts to `α`, as the list of its pairs. -/
abbrev Entries (α : Type) := List (String × α)

namespace Entries

variable {α : Type}

def keys (entries : Entries α) : List String := entries.map Prod.fst

/-- No key occurs twice. -/
def Distinct (entries : Entries α) : Prop := (keys entries).Nodup

/-- Binds `key` to `value`: a known key keeps its position, a new one goes to the end. -/
def put (entries : Entries α) (key : String) (value : α) : Entries α :=
  match entries with
  | [] => [(key, value)]
  | (k, v) :: rest => if k = key then (key, value) :: rest else (k, v) :: put rest key value

/-- The map that results from putting the pairs one after another: a repeated key keeps its first
position and its last value. -/
def ofPairs (pairs : List (String × α)) : Entries α :=
  pairs.foldl (fun entries pair => put entries pair.1 pair.2) []

@[simp] theorem keys_nil : keys ([] : Entries α) = [] := rfl

@[simp] theorem keys_cons (pair : String × α) (rest : Entries α) :
    keys (pair :: rest) = pair.1 :: keys rest := rfl

/-- A key has a value if it is among the keys. -/
theorem lookup_eq_none_iff_not_mem {entries : Entries α} {key : String} :
    entries.lookup key = none ↔ key ∉ keys entries := by
  rw [List.lookup_eq_none_iff, keys, List.mem_map]
  constructor
  · rintro h ⟨pair, hpair, rfl⟩
    simpa using h pair hpair
  · intro h pair hpair
    rw [bne_iff_ne]
    rintro rfl
    exact h ⟨pair, hpair, rfl⟩

theorem exists_lookup_of_mem_keys {entries : Entries α} {key : String} (h : key ∈ keys entries) :
    ∃ value, entries.lookup key = some value := by
  cases hlookup : entries.lookup key with
  | some value => exact ⟨value, rfl⟩
  | none => exact absurd h (lookup_eq_none_iff_not_mem.mp hlookup)

/-- Putting adds the key at the end unless it is there already. -/
theorem keys_put (entries : Entries α) (key : String) (value : α) :
    keys (put entries key value) =
      if key ∈ keys entries then keys entries else keys entries ++ [key] := by
  induction entries with
  | nil => simp [put]
  | cons pair rest ih =>
      obtain ⟨k, v⟩ := pair
      by_cases h : k = key
      · simp [put, h]
      · have hne : key ≠ k := fun e => h e.symm
        by_cases hmem : key ∈ keys rest <;> simp [put, h, hne, ih, hmem]

theorem distinct_put {entries : Entries α} (h : Distinct entries) (key : String) (value : α) :
    Distinct (put entries key value) := by
  unfold Distinct at *
  rw [keys_put]
  split
  · exact h
  · rename_i hmem
    rw [List.nodup_append]
    exact ⟨h, by simp, fun a ha b hb => by simp_all; rintro rfl; exact hmem ha⟩

@[simp] theorem lookup_put_self (entries : Entries α) (key : String) (value : α) :
    (put entries key value).lookup key = some value := by
  induction entries with
  | nil => simp [put]
  | cons pair rest ih =>
      obtain ⟨k, v⟩ := pair
      by_cases h : k = key
      · simp [put, h]
      · have hne : (key == k) = false := by simpa using fun e => h (Eq.symm e)
        simp [put, h, List.lookup_cons, hne, ih]

theorem lookup_put_of_ne (entries : Entries α) {key other : String} (value : α)
    (h : other ≠ key) : (put entries key value).lookup other = entries.lookup other := by
  induction entries with
  | nil =>
      have hne : (other == key) = false := by simpa using h
      simp [put, List.lookup_cons, hne]
  | cons pair rest ih =>
      obtain ⟨k, v⟩ := pair
      by_cases hk : k = key
      · subst hk
        have hne : (other == k) = false := by simpa using h
        simp [put, List.lookup_cons, hne]
      · by_cases ho : other = k
        · subst ho
          simp [put, hk]
        · have hne : (other == k) = false := by simpa using ho
          simp [put, hk, List.lookup_cons, hne, ih]

/-- Of two values that are put under one key the second stays. -/
@[simp] theorem put_put (entries : Entries α) (key : String) (first second : α) :
    put (put entries key first) key second = put entries key second := by
  induction entries with
  | nil => simp [put]
  | cons pair rest ih =>
      obtain ⟨k, v⟩ := pair
      by_cases h : k = key <;> simp [put, h, ih]

theorem mem_keys_of_mem {entries : Entries α} {key : String} {value : α}
    (h : (key, value) ∈ entries) : key ∈ keys entries := List.mem_map.mpr ⟨_, h, rfl⟩

theorem mem_of_lookup {entries : Entries α} {key : String} {value : α}
    (h : entries.lookup key = some value) : (key, value) ∈ entries := by
  obtain ⟨before, after, rfl, -⟩ := List.lookup_eq_some_iff.mp h
  exact List.mem_append_right before List.mem_cons_self

theorem distinct_cons_iff {pair : String × α} {rest : Entries α} :
    Distinct (pair :: rest) ↔ pair.1 ∉ keys rest ∧ Distinct rest := List.nodup_cons

/-- What a map binds is found. -/
theorem Distinct.lookup_of_mem {entries : Entries α} (h : Distinct entries) {key : String}
    {value : α} (hmem : (key, value) ∈ entries) : entries.lookup key = some value := by
  induction entries with
  | nil => cases hmem
  | cons pair rest ih =>
      obtain ⟨hfirst, hrest⟩ := distinct_cons_iff.mp h
      rw [List.lookup_cons]
      rcases List.mem_cons.mp hmem with rfl | hmem
      · rw [beq_self_eq_true]
      · have hne : (key == pair.1) = false := by
          rw [beq_eq_false_iff_ne]
          rintro rfl
          exact hfirst (mem_keys_of_mem hmem)
        rw [hne]
        exact ih hrest hmem

theorem put_of_not_mem {entries : Entries α} {key : String} (h : key ∉ keys entries) (value : α) :
    put entries key value = entries ++ [(key, value)] := by
  induction entries with
  | nil => rfl
  | cons pair rest ih =>
      obtain ⟨hkey, hrest⟩ := not_or.mp (mt List.mem_cons.mpr h)
      rw [put, if_neg (Ne.symm hkey), ih hrest, List.cons_append]

/-- Pairs with keys of their own come to stand behind what is there when they are put. -/
theorem foldl_put_of_distinct {done pairs : Entries α} (h : Distinct (done ++ pairs)) :
    pairs.foldl (fun entries pair => put entries pair.1 pair.2) done = done ++ pairs := by
  induction pairs generalizing done with
  | nil => exact (List.append_nil done).symm
  | cons pair rest ih =>
      have hfree : pair.1 ∉ keys done := by
        intro hmem
        rw [Distinct, keys, List.map_append, List.map_cons, List.nodup_append] at h
        exact h.2.2 pair.1 hmem pair.1 List.mem_cons_self rfl
      have happend : done ++ pair :: rest = done ++ [pair] ++ rest := by simp
      rw [List.foldl_cons, put_of_not_mem hfree, ih (happend ▸ h), happend]

/-- Pairs with distinct keys are the map that results from putting them. -/
theorem ofPairs_of_distinct {pairs : List (String × α)} (h : Distinct pairs) :
    ofPairs pairs = pairs :=
  @foldl_put_of_distinct α [] pairs h

end Entries

end DocRules
