import DocRules.Entries
import Mathlib.Data.List.Induction
import Mathlib.Data.List.Perm.Subperm

/-! Maps built from pairs of which some may have the same key. Such a map is fixed by two facts: its
keys are those of the pairs in the order in which they came first, and each is bound to the value that
came with it last. A change of the values keeps the keys as they are. -/

namespace DocRules.Entries

variable {α : Type}

/-- Whether a map results from pairs of which some have the same key: each key stands where it came
first and is bound to what came with it last. -/
structure Keeps (pairs : List (String × α)) (entries : Entries α) : Prop where
  keys : keys entries = (Entries.keys pairs).eraseDups
  values : ∀ key, entries.lookup key = pairs.reverse.lookup key

theorem ofPairs_append_singleton (pairs : List (String × α)) (pair : String × α) :
    ofPairs (pairs ++ [pair]) = put (ofPairs pairs) pair.1 pair.2 := by
  rw [ofPairs, List.foldl_append]
  rfl

/-- Maps with the same keys in the same order that bind them to the same values are the same. -/
theorem ext_of_lookup {left right : Entries α} (h : Distinct left) (hkeys : keys left = keys right)
    (hvalues : ∀ key, left.lookup key = right.lookup key) : left = right := by
  induction left generalizing right with
  | nil => exact (List.map_eq_nil_iff.mp hkeys.symm).symm
  | cons pair rest ih =>
      obtain ⟨key, value⟩ := pair
      cases right with
      | nil => cases hkeys
      | cons other others =>
          obtain ⟨name, found⟩ := other
          obtain ⟨hname, hothers⟩ : key = name ∧ keys rest = keys others := List.cons.inj hkeys
          cases hname
          obtain ⟨hfirst, hrest⟩ := distinct_cons_iff.mp h
          have hvalue : value = found := by simpa using hvalues key
          rw [hvalue, ih hrest hothers]
          intro asked
          by_cases hasked : asked = key
          · subst hasked
            have hnone := lookup_eq_none_iff_not_mem.mpr hfirst
            have hfree : asked ∉ keys others := fun hmem => hfirst (hothers ▸ hmem)
            rw [hnone, lookup_eq_none_iff_not_mem.mpr hfree]
          · have hne : (asked == key) = false := by simpa using hasked
            simpa [List.lookup_cons, hne] using hvalues asked

theorem distinct_ofPairs (pairs : List (String × α)) : Distinct (ofPairs pairs) := by
  induction pairs using List.reverseRecOn with
  | nil => exact List.nodup_nil
  | append_singleton pairs pair ih =>
      rw [ofPairs_append_singleton]
      exact distinct_put ih pair.1 pair.2

theorem keys_ofPairs (pairs : List (String × α)) :
    keys (ofPairs pairs) = (keys pairs).eraseDups := by
  induction pairs using List.reverseRecOn with
  | nil => rfl
  | append_singleton pairs pair ih =>
      have hkeys : keys (pairs ++ [pair]) = keys pairs ++ [pair.1] := List.map_append
      rw [ofPairs_append_singleton, keys_put, ih, hkeys, List.eraseDups_append]
      by_cases hmem : pair.1 ∈ keys pairs
      · simp [hmem, List.removeAll]
      · simp only [hmem, List.mem_eraseDups, if_false, List.append_cancel_left_eq]
        simp [hmem, List.removeAll, List.eraseDups_cons]

theorem lookup_ofPairs (pairs : List (String × α)) (key : String) :
    (ofPairs pairs).lookup key = pairs.reverse.lookup key := by
  induction pairs using List.reverseRecOn with
  | nil => rfl
  | append_singleton pairs pair ih =>
      rw [ofPairs_append_singleton, List.reverse_append, List.reverse_singleton,
        List.singleton_append, List.lookup_cons]
      by_cases hkey : key = pair.1
      · rw [hkey, lookup_put_self, beq_self_eq_true]
      · rw [lookup_put_of_ne _ _ hkey, beq_false_of_ne hkey, ih]

/-- Putting pairs one after another is the only map that keeps first positions and last values. -/
theorem keeps_iff {pairs : List (String × α)} {entries : Entries α} :
    Keeps pairs entries ↔ ofPairs pairs = entries := by
  constructor
  · intro h
    exact ext_of_lookup (distinct_ofPairs pairs) ((keys_ofPairs pairs).trans h.keys.symm) fun key =>
      (lookup_ofPairs pairs key).trans (h.values key).symm
  · rintro rfl
    exact ⟨keys_ofPairs pairs, lookup_ofPairs pairs⟩

/-- What is put in changes no list made from the entries one after another if it counts for as much as
what was under its key, and for nothing under a new key. -/
theorem flatMap_put {β : Type} {f : String × α → List β} {entries : Entries α} {key : String}
    {value : α} (h : f (key, value) = ((entries.lookup key).map fun old => f (key, old)).getD []) :
    (put entries key value).flatMap f = entries.flatMap f := by
  induction entries with
  | nil => rw [put, List.flatMap_cons, h]; rfl
  | cons pair rest ih =>
      obtain ⟨name, found⟩ := pair
      by_cases hname : name = key
      · subst hname
        rw [List.lookup_cons_self] at h
        rw [put, if_pos rfl, List.flatMap_cons, List.flatMap_cons, h]
        rfl
      · rw [List.lookup_cons, beq_false_of_ne (Ne.symm hname)] at h
        rw [put, if_neg hname, List.flatMap_cons, List.flatMap_cons, ih h]

/-- If a map has as many entries as another and all its keys are in the other, both have the same
keys. -/
theorem perm_keys_of_lookup {left right : Entries α} (h : Distinct left)
    (hlength : left.length = right.length)
    (hfound : ∀ pair ∈ left, ∃ other, right.lookup pair.1 = some other) :
    (keys left).Perm (keys right) := by
  have hsubset : keys left ⊆ keys right := by
    intro key hkey
    obtain ⟨pair, hpair, rfl⟩ := List.mem_map.mp hkey
    obtain ⟨other, hother⟩ := hfound pair hpair
    exact mem_keys_of_mem (mem_of_lookup hother)
  refine (List.subperm_of_subset h hsubset).perm_of_length_le ?_
  simp [keys, hlength]

variable {β : Type} (f : α → β)

/-- A comparison that goes through one map and looks its keys up in another holds if whatever stands
under a key is found related there. -/
theorem compare_iff {related : α → α → Bool} {compare : Entries α → Entries α → Bool}
    (hnil : ∀ right, compare [] right = true)
    (hcons : ∀ key value rest right, compare ((key, value) :: rest) right =
      ((match right.lookup key with
        | some other => related value other
        | none => false) && compare rest right)) {left right : Entries α} :
    compare left right = true ↔
      ∀ pair ∈ left, ∃ other, right.lookup pair.1 = some other ∧ related pair.2 other = true := by
  induction left with
  | nil => exact iff_of_true (hnil right) fun pair hmem => nomatch hmem
  | cons pair rest ih =>
      rw [hcons, Bool.and_eq_true, ih, List.forall_mem_cons]
      refine and_congr_left fun _ => ?_
      cases right.lookup pair.1 <;> simp

theorem keys_map (entries : Entries α) :
    keys (entries.map fun pair => (pair.1, f pair.2)) = keys entries := by
  rw [keys, List.map_map]
  rfl

theorem Distinct.map {entries : Entries α} (h : Distinct entries) :
    Distinct (entries.map fun pair => (pair.1, f pair.2)) := by
  rw [Distinct, keys_map]
  exact h

/-- A change of values makes two maps equal exactly if they have the same keys in the same order and it
makes the values under each key equal. -/
theorem map_eq_map_iff {left right : Entries α} (h : Distinct left) :
    left.map (fun pair => (pair.1, f pair.2)) = right.map (fun pair => (pair.1, f pair.2)) ↔
      keys left = keys right ∧
        ∀ key value other, (key, value) ∈ left → (key, other) ∈ right → f value = f other := by
  constructor
  · intro heq
    have hkeys : keys left = keys right := by rw [← keys_map f left, heq, keys_map]
    refine ⟨hkeys, fun key value other hvalue hother => ?_⟩
    have hleft := (h.map f).lookup_of_mem (List.mem_map.mpr ⟨_, hvalue, rfl⟩)
    have hright := (h.map f).lookup_of_mem (heq ▸ List.mem_map.mpr ⟨_, hother, rfl⟩)
    rw [hleft] at hright
    exact Option.some.inj hright
  · rintro ⟨hkeys, hvalues⟩
    have hlength : left.length = right.length := by
      simpa [keys] using congrArg List.length hkeys
    refine List.ext_getElem (by simpa using hlength) fun i hi hj => ?_
    rw [List.length_map] at hi hj
    have hkey : left[i].1 = right[i].1 := by
      have hget := congrArg (·[i]?) hkeys
      simpa [keys, hi, hj] using hget
    rw [List.getElem_map, List.getElem_map, hkey]
    refine congrArg _ (hvalues right[i].1 _ _ ?_ (List.getElem_mem hj))
    rw [← hkey]
    exact List.getElem_mem hi

theorem put_map (entries : Entries α) (key : String) (value : α) :
    put (entries.map fun pair => (pair.1, f pair.2)) key (f value) =
      (put entries key value).map fun pair => (pair.1, f pair.2) := by
  induction entries with
  | nil => rfl
  | cons pair rest ih =>
      obtain ⟨name, found⟩ := pair
      by_cases hname : name = key
      · simp [put, hname]
      · simp [put, hname, ih]

theorem ofPairs_map (pairs : List (String × α)) :
    ofPairs (pairs.map fun pair => (pair.1, f pair.2)) =
      (ofPairs pairs).map fun pair => (pair.1, f pair.2) := by
  induction pairs using List.reverseRecOn with
  | nil => rfl
  | append_singleton pairs pair ih =>
      rw [List.map_append, List.map_singleton, ofPairs_append_singleton, ofPairs_append_singleton, ih,
        put_map]

end DocRules.Entries
