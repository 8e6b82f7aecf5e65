import DocRules.Decimal.Integer
import DocRules.Text.Split

/-! Dot-paths. A path names a position in a nested structure by the keys that lead to it, with a dot
between two keys. The empty path is the root. Keys may be empty or hold dots themselves; a path does
not tell such keys apart. -/

namespace DocRules.Path

/-- The path of `key` below `parent`. Below the root it is the key alone. -/
def join (parent key : String) : String :=
  if parent = "" then key else parent ++ "." ++ key

/-- The keys that a path spells. The empty path spells one empty key. -/
def segments (path : String) : List String := Text.split '.' path

/-- The keys to follow from the root: none for the empty path. -/
def steps (path : String) : List String :=
  if path = "" then [] else segments path

/-- The position in a sequence that a segment names: digits, with any leading zeros and at most one
plus sign in front. -/
def index? (segment : String) : Option Nat :=
  let digits := match segment.toList with
    | '+' :: rest => rest
    | chars => chars
  if !digits.isEmpty && digits.all Char.isDigit then some (Decimal.ofDigits digits) else none

/-- The path that leads from the root through the given keys. -/
def ofSteps (keys : List String) : String := keys.foldl join ""

@[simp] theorem join_root (key : String) : join "" key = key := by simp [join]

/-- Below any path but the root, joining adds the segments of the key. -/
theorem segments_join {parent : String} (h : parent ≠ "") (key : String) :
    segments (join parent key) = segments parent ++ segments key := by
  rw [join, if_neg h]
  exact Text.split_append '.' parent key

/-- A key without dots is a single segment. -/
theorem segments_of_not_mem {key : String} (h : '.' ∉ key.toList) : segments key = [key] :=
  Text.split_of_not_mem h

theorem join_ne_root {parent : String} (h : parent ≠ "") (key : String) : join parent key ≠ "" := by
  rw [join, if_neg h, Ne, ← String.toList_inj]
  simp

/-- Below any path but the root, joining keys without dots adds each of them as a segment. -/
theorem foldl_join {parent : String} (h : parent ≠ "") {keys : List String}
    (hdots : ∀ key ∈ keys, '.' ∉ key.toList) :
    keys.foldl join parent ≠ "" ∧ segments (keys.foldl join parent) = segments parent ++ keys := by
  induction keys generalizing parent with
  | nil => exact ⟨h, (List.append_nil _).symm⟩
  | cons key rest ih =>
      obtain ⟨hkey, hrest⟩ := List.forall_mem_cons.mp hdots
      obtain ⟨hne, hsegments⟩ := ih (join_ne_root h key) hrest
      refine ⟨hne, ?_⟩
      rw [List.foldl_cons, hsegments, segments_join h, segments_of_not_mem hkey, List.append_assoc,
        List.singleton_append]

/-- A path tells the keys that it leads through when none of them holds a dot and the first is not
empty. -/
theorem steps_ofSteps {keys : List String} (hdots : ∀ key ∈ keys, '.' ∉ key.toList)
    (hfirst : keys.head? ≠ some "") : steps (ofSteps keys) = keys := by
  cases keys with
  | nil => rfl
  | cons key rest =>
      obtain ⟨hkey, hrest⟩ := List.forall_mem_cons.mp hdots
      have hne : key ≠ "" := by simpa using hfirst
      obtain ⟨hpath, hsegments⟩ := foldl_join hne hrest
      rw [ofSteps, List.foldl_cons, join_root, steps, if_neg hpath, hsegments,
        segments_of_not_mem hkey, List.singleton_append]

theorem segments_of_steps_ne_nil {path : String} (h : steps path ≠ []) :
    segments path = steps path := by
  rw [steps] at h ⊢
  split at h
  · exact absurd rfl h
  · rename_i hroot
    rw [if_neg hroot]

/-- Such a path is its keys with a dot between two of them. -/
theorem ofSteps_eq_intercalate {keys : List String} (hdots : ∀ key ∈ keys, '.' ∉ key.toList)
    (hfirst : keys.head? ≠ some "") : ofSteps keys = ".".intercalate keys := by
  have hsteps := steps_ofSteps hdots hfirst
  rw [steps] at hsteps
  split at hsteps
  · rename_i hroot
    rw [hroot, ← hsteps]
    rfl
  · have hpath : ".".intercalate (segments (ofSteps keys)) = ofSteps keys :=
      Text.intercalate_split '.' (ofSteps keys)
    rw [← hpath, hsteps]

theorem index?_of_digits {segment : String} (hne : segment.toList ≠ [])
    (h : ∀ c ∈ segment.toList, c.isDigit = true) :
    index? segment = some (Decimal.ofDigits segment.toList) := by
  have hall : segment.toList.all Char.isDigit = true := List.all_eq_true.mpr h
  unfold index?
  split
  · rename_i rest hsign
    have hplus := h '+' (hsign ▸ List.mem_cons_self)
    exact absurd hplus (by decide)
  · simp [hne, hall]

/-- A position is read back from its decimal text. -/
theorem index?_toString (position : Nat) : index? (toString position) = some position := by
  have hdigits : (toString position).toList = Nat.toDigits 10 position := Nat.toList_repr
  rw [index?_of_digits, hdigits, Decimal.ofDigits, Nat.ofDigitChars_ten_toDigits]
  · rw [hdigits]
    exact Nat.toDigits_ne_nil
  · intro c hc
    rw [hdigits] at hc
    exact Nat.isDigit_of_mem_toDigits (by decide) (by decide) hc

theorem toString_position_inj {left right : Nat} (h : (toString left : String) = toString right) :
    left = right := by
  have hindex := index?_toString left
  rw [h, index?_toString] at hindex
  exact (Option.some.inj hindex).symm

/-- The text of a position is neither empty nor has a dot. -/
theorem dot_not_mem_toString (position : Nat) : '.' ∉ (toString position : String).toList := by
  have hdigits : (toString position).toList = Nat.toDigits 10 position := Nat.toList_repr
  rw [hdigits]
  intro hdot
  exact absurd (Nat.isDigit_of_mem_toDigits (b := 10) (by decide) (by decide) hdot) (by decide)

theorem toString_ne_root (position : Nat) : (toString position : String) ≠ "" := by
  intro h
  have hindex := index?_toString position
  rw [h] at hindex
  cases hindex

end DocRules.Path
