import DocRules.Proofs.Decimal.Finite
import DocRules.Proofs.Json.Reading
import DocRules.Proofs.Walk.Depth
import DocRules.Proofs.Walk.KeyOrder

/-! Documents that are written as JSON and read back. Both ways of writing give one text. A document
without floating-point numbers is read back from it, as far as the limit on nesting goes, and through
values without text it comes back with null for what is no finite number. -/

namespace DocRules

open Json

theorem Value.text_toJson (value : Value) : value.toJson.text = value.jsonText := by
  cases value with
  | null => rfl
  | bool b => cases b <;> rfl
  | int n => rfl
  | float x =>
      cases hfinite : x.isFinite with
      | true => rw [toJson, if_pos hfinite, Json.text, jsonText]
      | false =>
          rw [toJson, if_neg (Bool.eq_false_iff.mp hfinite), jsonText, floatText?_eq_none hfinite]
          rfl
  | string s => rfl

namespace Document

mutual

/-- The text of a document does not depend on whether a value is built first. -/
theorem text_toJson (document : Document) : document.toJson.text = document.jsonText := by
  cases document with
  | leaf value => exact value.text_toJson
  | seq items => rw [toJson, text, itemTexts_toJsonItems items, jsonText]
  | map entries => rw [toJson, text, memberTexts_toJsonMembers entries, jsonText]

theorem itemTexts_toJsonItems (items : List Document) :
    itemTexts (toJsonItems items) = jsonItemTexts items := by
  cases items with
  | nil => rfl
  | cons item rest =>
      rw [toJsonItems, itemTexts, text_toJson item, itemTexts_toJsonItems rest, jsonItemTexts]

theorem memberTexts_toJsonMembers (entries : List (String × Document)) :
    memberTexts (toJsonMembers entries) = jsonEntryTexts entries := by
  cases entries with
  | nil => rfl
  | cons entry rest =>
      obtain ⟨key, node⟩ := entry
      rw [toJsonMembers, memberTexts, text_toJson node, memberTexts_toJsonMembers rest,
        jsonEntryTexts]

end

/-- No leaf of the document is a floating-point number. -/
def FloatFree (document : Document) : Prop :=
  ∀ place ∈ document.places, ∀ x, place.node ≠ .leaf (.float x)

theorem FloatFree.of_mem_children {document child : Document} {step : String}
    (h : document.FloatFree) (hchild : (step, child) ∈ document.children) : child.FloatFree := by
  rintro ⟨steps, node⟩ hmem
  exact h ⟨step :: steps, node⟩ (mem_places_cons_iff.mpr ⟨child, hchild, hmem⟩)

theorem toJsonItems_eq (items : List Document) : toJsonItems items = items.map toJson := by
  induction items with
  | nil => rfl
  | cons item rest ih => rw [toJsonItems, ih, List.map_cons]

theorem toJsonMembers_eq (entries : Entries Document) :
    toJsonMembers entries = entries.map fun entry => (entry.1, entry.2.toJson) := by
  induction entries with
  | nil => rfl
  | cons entry rest ih =>
      obtain ⟨key, node⟩ := entry
      rw [toJsonMembers, ih, List.map_cons]

theorem forall_mem_numbered_iff {P : Document → Prop} {first : Nat} {items : List Document} :
    (∀ child ∈ numbered first items, P child.2) ↔ ∀ item ∈ items, P item := by
  induction items generalizing first with
  | nil => simp [numbered]
  | cons item rest ih => rw [numbered, List.forall_mem_cons, ih, List.forall_mem_cons]

theorem FloatFree.exact_toJson {document : Document} (h : document.FloatFree) :
    document.toJson.Everywhere fun part => part.isExact = true := by
  induction document using induction_on_children with
  | step document ih =>
      have hchildren : ∀ child ∈ document.children,
          child.2.toJson.Everywhere fun part => part.isExact = true :=
        fun child hchild => ih child hchild (h.of_mem_children hchild)
      cases document with
      | leaf value =>
          cases value with
          | float x => exact absurd rfl (h ⟨[], _⟩ (mem_places_nil_iff.mpr rfl) x)
          | null | bool _ | int _ | string _ => exact .scalar rfl rfl
      | seq items =>
          rw [toJson, toJsonItems_eq]
          exact .array (List.forall_mem_map.mpr (forall_mem_numbered_iff.mp hchildren))
      | map entries =>
          rw [toJson, toJsonMembers_eq]
          refine .object fun key value hmem => ?_
          obtain ⟨⟨name, node⟩, hentry, heq⟩ := List.mem_map.mp hmem
          cases heq
          exact hchildren _ hentry

theorem itemsStandFor_map {items : List Document}
    (h : ∀ item ∈ items, StandsFor item.toJson.toTree item) :
    ItemsStandFor (toTrees (toJsonItems items)) items := by
  induction items with
  | nil => exact .nil
  | cons item rest ih =>
      obtain ⟨hitem, hrest⟩ := List.forall_mem_cons.mp h
      exact .cons hitem (ih hrest)

theorem membersStandFor_map {entries : Entries Document}
    (h : ∀ entry ∈ entries, StandsFor entry.2.toJson.toTree entry.2) :
    MembersStandFor (toMembers (toJsonMembers entries)) entries := by
  induction entries with
  | nil => exact .nil
  | cons entry rest ih =>
      obtain ⟨key, node⟩ := entry
      obtain ⟨hentry, hrest⟩ := List.forall_mem_cons.mp h
      exact .cons (decodeText_pieces key) hentry (ih hrest)

/-- The tree of a document without floating-point numbers stands for it. -/
theorem WellFormed.standsFor {document : Document} (h : document.WellFormed)
    (hfloat : document.FloatFree) : StandsFor document.toJson.toTree document := by
  induction document using induction_on_children with
  | step document ih =>
      have hchildren : ∀ child ∈ document.children, StandsFor child.2.toJson.toTree child.2 :=
        fun child hchild => ih child hchild (h.of_mem_children hchild) (hfloat.of_mem_children hchild)
      cases document with
      | leaf value =>
          cases value with
          | null => exact .null
          | bool b => exact .bool b
          | int n => exact .int (Number.isInteger_ofInteger n.toInt)
          | float x => exact absurd rfl (hfloat ⟨[], _⟩ (mem_places_nil_iff.mpr rfl) x)
          | string text => exact .string (decodeText_pieces text)
      | seq items => exact .seq (itemsStandFor_map (forall_mem_numbered_iff.mp hchildren))
      | map entries =>
          refine .map (membersStandFor_map hchildren) (Entries.keeps_iff.mpr ?_)
          exact Entries.ofPairs_of_distinct (h entries (mem_mappings_self entries))

theorem nesting_toTree_le_iff_of_isContainer {document : Document}
    (h : document.isContainer = true) {limit : Nat} : document.toJson.toTree.nesting ≤ limit ↔
      0 < limit ∧ ∀ child ∈ document.children, child.2.toJson.toTree.nesting ≤ limit - 1 := by
  have hinner : ∀ nesting, nesting + 1 ≤ limit ↔ 0 < limit ∧ nesting ≤ limit - 1 := by omega
  cases document with
  | leaf value => cases h
  | seq items =>
      rw [toJson, toTree, Tree.nesting, hinner, toTrees_eq, toJsonItems_eq,
        Tree.itemsNesting_le_iff, List.forall_mem_map, List.forall_mem_map, children,
        forall_mem_numbered_iff (P := fun item => item.toJson.toTree.nesting ≤ limit - 1)]
  | map entries =>
      rw [toJson, toTree, Tree.nesting, hinner, toMembers_eq, toJsonMembers_eq,
        Tree.membersNesting_le_iff, List.forall_mem_map, List.forall_mem_map, children]

/-- The tree of a document nests as many containers as the document does. -/
theorem FloatFree.nesting_toTree_le_iff {document : Document} (h : document.FloatFree)
    {limit : Nat} : document.toJson.toTree.nesting ≤ limit ↔ document.NestsAtMost limit := by
  induction document using induction_on_containers generalizing limit with
  | leaf value =>
      have hnesting : (leaf value).toJson.toTree.nesting = 0 := by
        cases value with
        | float x => exact absurd rfl (h ⟨[], _⟩ (mem_places_nil_iff.mpr rfl) x)
        | null | bool _ | int _ | string _ => rfl
      exact iff_of_true (hnesting.trans_le limit.zero_le) (nestsAtMost_leaf value limit)
  | container document hcontainer ih =>
      rw [nesting_toTree_le_iff_of_isContainer hcontainer,
        nestsAtMost_iff_of_isContainer hcontainer]
      exact and_congr_right fun _ =>
        forall₂_congr fun child hchild => ih child hchild (h.of_mem_children hchild)

theorem FloatFree.ofText?_jsonText {document : Document} (h : document.FloatFree) :
    Tree.ofText? document.jsonText = some document.toJson.toTree := by
  rw [← text_toJson]
  exact h.exact_toJson.ofText?_text

/-- A document is read back from its text. -/
theorem WellFormed.ofJsonText?_jsonText {document : Document} (h : document.WellFormed)
    (hfloat : document.FloatFree) (hnests : document.NestsAtMost 127) :
    ofJsonText? document.jsonText = some document := by
  rw [ofJsonText?, hfloat.ofText?_jsonText, Option.bind_some, ofTree_eq_some_iff]
  exact ⟨hfloat.nesting_toTree_le_iff.mpr hnests, h.standsFor hfloat⟩

/-- **Both ways of writing and of reading documents agree.** They write the same text. They refuse the
same texts, and read any other as the one document that its tree stands for, up to 127 nested
containers. A document without floating-point numbers is read back from its text in both ways, keys in
order, if it nests no more than that. -/
theorem json_ways_agree :
    (∀ document : Document, document.toJson.text = document.jsonText) ∧
      (∀ text, ofJsonText? text = (Json.ofText? text).map ofJson) ∧
      (∀ text document, ofJsonText? text = some document ↔
        ∃ tree, Tree.ofText? text = some tree ∧ tree.nesting ≤ 127 ∧ StandsFor tree document) ∧
      ∀ document : Document, document.WellFormed → document.FloatFree → document.NestsAtMost 127 →
        ofJsonText? document.jsonText = some document ∧
          (Json.ofText? document.jsonText).map ofJson = some document := by
  refine ⟨text_toJson, ofJsonText?_eq, fun text document => ?_, fun document h hfloat hnests => ?_⟩
  · rw [ofJsonText?, Option.bind_eq_some_iff]
    exact exists_congr fun tree => and_congr_right fun _ => ofTree_eq_some_iff maxNesting tree document
  · have hread := h.ofJsonText?_jsonText hfloat hnests
    exact ⟨hread, (ofJsonText?_eq document.jsonText).symm.trans hread⟩

/-- Sizes and tags are read back in both ways. -/
theorem sizesAndTags_read_back :
    sizesAndTags.WellFormed ∧ sizesAndTags.FloatFree ∧ sizesAndTags.NestsAtMost 127 ∧
      ofJsonText? sizesAndTags.jsonText = some sizesAndTags ∧
      (Json.ofText? sizesAndTags.jsonText).map ofJson = some sizesAndTags := by
  have hformed : sizesAndTags.WellFormed := by decide
  have hfloat : sizesAndTags.FloatFree := by
    simp [FloatFree, sizesAndTags, places, itemPlaces, entryPlaces, Place.below]
  have hnests : sizesAndTags.NestsAtMost 127 := by
    simp [NestsAtMost, sizesAndTags, places, itemPlaces, entryPlaces, Place.below]
  exact ⟨hformed, hfloat, hnests, json_ways_agree.2.2.2 sizesAndTags hformed hfloat hnests⟩

end Document

/-- The value with null in place of what is no number and of the infinities. -/
def Value.finiteOrNull : Value → Value
  | float x => if x.isNaN || x.isInf then null else float x
  | value => value

/-- Whether a number can stand in a document: an integer that fits 64 bits with a sign, or a finite
floating-point number. -/
def Json.IsStorable : Json → Prop
  | .int n => Int64.minValue.toInt ≤ n ∧ n ≤ Int64.maxValue.toInt
  | .float x => x.isFinite = true
  | _ => True

theorem Value.ofInt_toInt (n : Int64) : Value.ofInt n.toInt = .int n := by
  rw [Value.ofInt, if_pos ⟨n.minValue_le_toInt, n.toInt_le⟩, Int64.ofInt_toInt]

namespace Document

theorem ofJson_toJson_leaf (value : Value) :
    ofJson (leaf value).toJson = .leaf value.finiteOrNull := by
  cases value with
  | null | bool _ | string _ => rfl
  | int n => exact congrArg leaf (Value.ofInt_toInt n)
  | float x =>
      rw [toJson, Value.toJson, Value.finiteOrNull, isFinite_eq]
      cases x.isNaN || x.isInf <;> rfl

mutual

theorem ofJson_toJson (path : String) (document : Document) :
    ofJson document.toJson = document.mapLeavesFrom (fun _ value => value.finiteOrNull) path := by
  cases document with
  | leaf value => rw [ofJson_toJson_leaf, mapLeavesFrom]
  | seq items => rw [toJson, ofJson, ofJsonItems_toJsonItems path 0 items, mapLeavesFrom]
  | map entries => rw [toJson, ofJson, ofJsonMembers_toJsonMembers path entries, mapLeavesFrom]

theorem ofJsonItems_toJsonItems (path : String) (position : Nat) (items : List Document) :
    ofJsonItems (toJsonItems items) =
      mapItemLeaves (fun _ value => value.finiteOrNull) path position items := by
  cases items with
  | nil => rfl
  | cons item rest =>
      rw [toJsonItems, ofJsonItems, ofJson_toJson (Path.join path (toString position)) item,
        ofJsonItems_toJsonItems path (position + 1) rest, mapItemLeaves]

theorem ofJsonMembers_toJsonMembers (path : String) (entries : List (String × Document)) :
    ofJsonMembers (toJsonMembers entries) =
      mapEntryLeaves (fun _ value => value.finiteOrNull) path entries := by
  cases entries with
  | nil => rfl
  | cons entry rest =>
      obtain ⟨key, node⟩ := entry
      rw [toJsonMembers, ofJsonMembers, ofJson_toJson (Path.join path key) node,
        ofJsonMembers_toJsonMembers path rest, mapEntryLeaves]

end

theorem toJson_ofJson {value : Json} (h : value.Everywhere Json.IsStorable) :
    (ofJson value).toJson = value := by
  induction h with
  | @scalar value hscalar hstorable =>
      cases value with
      | null | bool _ | string _ => rfl
      | int n =>
          have hbounds : Int64.minValue.toInt ≤ n ∧ n ≤ Int64.maxValue.toInt := hstorable
          have hvalue : (Int64.ofInt n).toInt = n :=
            Int64.toInt_ofInt_of_le hbounds.1 (Int.lt_add_one_of_le hbounds.2)
          rw [ofJson, Value.ofInt, if_pos hbounds, toJson, Value.toJson, hvalue]
      | float x => exact if_pos hstorable
      | array items => cases hscalar
      | object members => cases hscalar
  | @array items _ ih =>
      rw [ofJson, toJson, ofJsonItems_eq, toJsonItems_eq, List.map_map]
      exact congrArg Json.array (List.map_congr_left ih |>.trans (List.map_id _))
  | @object members _ ih =>
      rw [ofJson, toJson, ofJsonMembers_eq, toJsonMembers_eq, List.map_map]
      refine congrArg Json.object (Eq.trans (List.map_congr_left ?_) (List.map_id _))
      rintro ⟨key, value⟩ hmem
      exact congrArg (Prod.mk key) (ih key value hmem)

/-- **Documents and values are converted without loss.** A document comes back with null for each leaf
that is no number or infinite, and is otherwise unchanged. A value comes back unchanged if its
integers fit 64 bits with a sign and its other numbers are finite. -/
theorem json_conversion_lossless :
    (∀ document : Document,
      ofJson document.toJson = document.mapLeaves fun _ value => value.finiteOrNull) ∧
      ∀ value : Json, value.Everywhere Json.IsStorable → (ofJson value).toJson = value :=
  ⟨fun document => ofJson_toJson "" document, fun _ h => toJson_ofJson h⟩

/-- The integers at both ends, and minus zero. -/
def extremes : Json :=
  .object [("low", .int (-9223372036854775808)),
    ("high", .array [.int 9223372036854775807, .float (-0.0)])]

theorem extremes_unchanged :
    extremes.Everywhere Json.IsStorable ∧ (ofJson extremes).toJson = extremes := by
  have hlow : Json.IsStorable (.int (-9223372036854775808)) := ⟨by decide, by decide⟩
  have hhigh : Json.IsStorable (.int 9223372036854775807) := ⟨by decide, by decide⟩
  have hzero : Json.IsStorable (.float (-0.0)) := by
    change Float.isFinite (-0.0) = true
    decide
  have hstorable : extremes.Everywhere Json.IsStorable := by
    refine .object fun key value hmem => ?_
    rcases List.mem_pair.mp hmem with h | h
    · cases h
      exact .scalar rfl hlow
    · cases h
      refine .array fun item hitem => ?_
      rcases List.mem_pair.mp hitem with rfl | rfl
      · exact .scalar rfl hhigh
      · exact .scalar rfl hzero
  exact ⟨hstorable, json_conversion_lossless.2 extremes hstorable⟩

end Document

end DocRules
