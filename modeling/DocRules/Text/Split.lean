/-! Cutting a text at a separator character, and lengths of text in bytes. -/

namespace DocRules.Text

/-- The pieces of `text` between the occurrences of `separator`. A text without the separator is
one piece, so the empty text is one empty piece. -/
def split (separator : Char) (text : String) : List String :=
  (text.toList.splitOn separator).map String.ofList

theorem split_ne_nil (separator : Char) (text : String) : split separator text ≠ [] := by
  simp [split, List.splitOn_ne_nil]

/-- A text without the separator is one piece. -/
theorem split_of_not_mem {separator : Char} {text : String} (h : separator ∉ text.toList) :
    split separator text = [text] := by
  simp [split, List.splitOn_eq_singleton h]

/-- Cutting at a separator cuts both sides of it on their own. -/
theorem split_append (separator : Char) (left right : String) :
    split separator (left ++ String.singleton separator ++ right) =
      split separator left ++ split separator right := by
  simp [split, List.splitOn_append_cons_self]

theorem not_mem_of_mem_splitOn {separator : Char} {chars run : List Char}
    (h : run ∈ chars.splitOn separator) : separator ∉ run := by
  induction chars generalizing run with
  | nil =>
      obtain rfl : run = [] := by simpa using h
      exact List.not_mem_nil
  | cons c rest ih =>
      obtain ⟨first, others, hrest⟩ := List.exists_cons_of_ne_nil
        (List.splitOn_ne_nil separator rest)
      rw [hrest] at ih
      rw [List.splitOn_cons_eq_if_modifyHead, hrest] at h
      split at h
      · rcases List.mem_cons.mp h with rfl | hmem
        · exact List.not_mem_nil
        · exact ih hmem
      · rename_i hc
        rcases List.mem_cons.mp h with rfl | hmem
        · have hne : separator ≠ c := fun heq => hc (by simp [heq])
          exact List.not_mem_cons_of_ne_of_not_mem hne (ih List.mem_cons_self)
        · exact ih (List.mem_cons_of_mem first hmem)

/-- No piece holds the separator. -/
theorem not_mem_of_mem_split {separator : Char} {text piece : String}
    (h : piece ∈ split separator text) : separator ∉ piece.toList := by
  obtain ⟨run, hrun, rfl⟩ := List.mem_map.mp h
  rw [String.toList_ofList]
  exact not_mem_of_mem_splitOn hrun

/-- Nothing of a text is lost when it is cut. -/
theorem intercalate_split (separator : Char) (text : String) :
    (String.singleton separator).intercalate (split separator text) = text := by
  rw [← String.toList_inj, String.toList_intercalate]
  simp [split, Function.comp_def, List.intercalate_splitOn]

/-- Pieces without the separator are found again. -/
theorem split_intercalate {separator : Char} {pieces : List String}
    (h : ∀ piece ∈ pieces, separator ∉ piece.toList) (hne : pieces ≠ []) :
    split separator ((String.singleton separator).intercalate pieces) = pieces := by
  have hmap : ∀ chars ∈ pieces.map String.toList, separator ∉ chars := by
    intro chars hmem
    obtain ⟨piece, hpiece, rfl⟩ := List.mem_map.mp hmem
    exact h piece hpiece
  rw [split, String.toList_intercalate, String.toList_singleton,
    List.splitOn_intercalate separator hmap (by simpa using hne)]
  simp [Function.comp_def]

/-- A text can be cut between any two of its pieces. -/
theorem exists_append_of_split {separator : Char} {text : String} {left right : List String}
    (h : split separator text = left ++ right) (hleft : left ≠ []) (hright : right ≠ []) :
    ∃ front behind, text = front ++ String.singleton separator ++ behind ∧
      split separator front = left ∧ split separator behind = right := by
  have hnone : ∀ piece ∈ left ++ right, separator ∉ piece.toList := by
    rw [← h]
    exact fun piece hmem => not_mem_of_mem_split hmem
  have hfront := split_intercalate
    (fun piece hmem => hnone piece (List.mem_append_left right hmem)) hleft
  have hbehind := split_intercalate
    (fun piece hmem => hnone piece (List.mem_append_right left hmem)) hright
  refine ⟨_, _, ?_, hfront, hbehind⟩
  rw [← intercalate_split separator text, h, ← hfront, ← hbehind, ← split_append,
    intercalate_split, hfront, hbehind]

/-- A joined text holds the characters of its pieces and, between two of them, the separator. -/
theorem mem_intercalate_iff {separator c : Char} (h : c ≠ separator) (pieces : List String) :
    c ∈ ((String.singleton separator).intercalate pieces).toList ↔
      ∃ piece ∈ pieces, c ∈ piece.toList := by
  rw [String.toList_intercalate, String.toList_singleton]
  induction pieces with
  | nil => simp
  | cons piece rest ih =>
      cases rest with
      | nil => simp
      | cons next rest =>
          simp only [List.map_cons] at ih
          rw [List.map_cons, List.map_cons, List.intercalate_cons_cons, List.mem_append,
            List.mem_append, ih, List.mem_singleton]
          simp [h]

/-- What a piece holds the text holds. -/
theorem mem_of_mem_piece {separator c : Char} {text piece : String}
    (hpiece : piece ∈ split separator text) (hc : c ∈ piece.toList) : c ∈ text.toList := by
  have hne : c ≠ separator := fun heq => not_mem_of_mem_split hpiece (heq ▸ hc)
  rw [← intercalate_split separator text]
  exact (mem_intercalate_iff hne _).mpr ⟨piece, hpiece, hc⟩

/-- The number of bytes that a run of characters takes in its encoding. -/
def byteLength (chars : List Char) : Nat :=
  chars.foldr (fun c length => c.utf8Size + length) 0

@[simp] theorem byteLength_cons (c : Char) (chars : List Char) :
    byteLength (c :: chars) = c.utf8Size + byteLength chars := rfl

theorem utf8ByteSize_ofList (chars : List Char) :
    (String.ofList chars).utf8ByteSize = byteLength chars := by
  induction chars with
  | nil => rfl
  | cons c rest ih =>
      rw [String.ofList_cons, String.utf8ByteSize_append, String.utf8ByteSize_singleton, ih,
        byteLength_cons]

/-- The bytes of a text are those of its characters. -/
theorem byteLength_toList (text : String) : byteLength text.toList = text.utf8ByteSize := by
  rw [← utf8ByteSize_ofList, String.ofList_toList]

/-- A text is cut at a byte in one way only. -/
theorem append_inj_of_utf8ByteSize {front behind otherFront otherBehind : String}
    (h : front ++ behind = otherFront ++ otherBehind)
    (hsize : front.utf8ByteSize = otherFront.utf8ByteSize) :
    front = otherFront ∧ behind = otherBehind := by
  have hbytes := congrArg String.toByteArray h
  rw [String.toByteArray_append, String.toByteArray_append] at hbytes
  obtain rfl : front = otherFront :=
    String.toByteArray_inj.mp (ByteArray.append_inj_left hbytes (by simpa using hsize))
  exact ⟨rfl, (String.append_right_inj front).mp h⟩

end DocRules.Text
