import DocRules.Json.Predicate
import DocRules.Proofs.Entries
import DocRules.Proofs.Json.Written
import DocRules.Proofs.Predicate.Equality
import Mathlib.Data.List.Nodup

/-! Requirements and violations that are written as JSON and read back. The decoder of a requirement
goes down one container for each that is nested in the text, so it gives the requirement back up to
its limit and fails beyond. A violation is never nested deep enough to fail. -/

namespace DocRules

open Json

theorem TypeKind.ofName?_name (kind : TypeKind) : TypeKind.ofName? kind.name = some kind := by
  cases kind <;> decide

theorem CharClass.ofName?_name (cls : CharClass) : CharClass.ofName? cls.name = some cls := by
  cases cls <;> decide

namespace Json

theorem Tree.text?_pieces (text : String) : Tree.text? (.string (pieces text)) = some text :=
  decodeText_pieces text

theorem Tree.nesting_variant (key : List Piece) (content : Tree) :
    (Tree.object [(key, content)]).nesting = content.nesting + 1 := by
  rw [nesting, membersNesting, membersNesting, Nat.max_zero]

theorem Tree.bareVariant?_pieces (budget : Nat) (name : String) :
    Tree.bareVariant? budget (.string (pieces name)) = some name := decodeText_pieces name

/-- The content of a variant is one container further in. -/
theorem Tree.variant?_pieces (inner : Nat) (name : String) (content : Tree) :
    Tree.variant? (inner + 1) (.object [(pieces name, content)]) = some (name, content) := by
  rw [Tree.variant?, if_neg (Nat.succ_ne_zero inner), decodeText_pieces, Option.map_some]

/-- The name of a bare variant is the name of the variant. -/
theorem Tree.eq_of_bareVariant? {budget : Nat} {name found : String} {content : Tree}
    (h : Tree.bareVariant? budget (.object [(pieces name, content)]) = some found) :
    found = name := by
  cases budget with
  | zero => cases h
  | succ inner =>
      simp only [Tree.bareVariant?, Tree.variant?_pieces] at h
      split at h
      · rename_i heq
        cases heq
        cases h
        rfl
      · cases h

theorem everywhere_variant {P : Json → Prop} {name : String} {content : Json}
    (h : content.Everywhere P) : (Json.object [(name, content)]).Everywhere P := by
  refine .object fun key value hmem => ?_
  cases List.mem_singleton.mp hmem
  exact h

theorem Tree.keyed?_toMembers (members : List (String × Json)) :
    Tree.keyed? (toMembers members) = some (members.map fun member => (member.1, member.2.toTree)) := by
  induction members with
  | nil => rfl
  | cons member rest ih =>
      obtain ⟨key, value⟩ := member
      rw [Tree.keyed?] at ih ⊢
      rw [toMembers, List.mapM_cons, decodeText_pieces, ih]
      rfl

/-- The fields of a record that is written with all of them are found. -/
theorem Tree.fields?_toTree {members : List (String × Json)} (h : Entries.Distinct members)
    (budget : Nat) :
    Tree.fields? budget (Entries.keys members) (toTree (.object members)) =
      if budget = 0 then none else some (members.map fun member => some member.2.toTree) := by
  have hkeys : (members.map fun member => (member.1, member.2.toTree)).map Prod.fst =
      Entries.keys members := Entries.keys_map toTree members
  have hcount : (Entries.keys members).any
      (fun name => 1 < (Entries.keys members).count name) = false := by
    rw [List.any_eq_false]
    intro name _
    have hone := List.nodup_iff_count_le_one.mp h name
    simpa using hone
  have hlookup : (Entries.keys members).map
        (fun name => (members.map fun member => (member.1, member.2.toTree)).lookup name) =
      members.map fun member => some member.2.toTree := by
    rw [Entries.keys, List.map_map]
    refine List.map_congr_left fun member hmem => ?_
    exact (h.map toTree).lookup_of_mem (List.mem_map.mpr ⟨member, hmem, rfl⟩)
  rw [toTree, Tree.fields?, Tree.keyed?_toMembers, Option.bind_some, hkeys, hcount, hlookup]
  rfl

theorem Tree.orNull?_ofOption {α : Type} {decode : Tree → Option α} {encode : α → Json}
    (hnull : ∀ a, (encode a).toTree ≠ .null)
    (hdecode : ∀ a, decode (encode a).toTree = some a) (value : Option α) :
    Tree.orNull? decode (ofOption encode value).toTree = some value := by
  cases value with
  | none => rfl
  | some a =>
      rw [ofOption, Tree.orNull?, hdecode, Option.map_some]
      exact hnull a

theorem Tree.texts?_toTree (texts : List String) (inner : Nat) :
    Tree.texts? (inner + 1) (toTree (.array (texts.map .string))) = some texts := by
  rw [toTree, toTrees_eq, Tree.texts?, if_neg (Nat.succ_ne_zero inner)]
  induction texts with
  | nil => rfl
  | cons text rest ih =>
      rw [List.map_cons, List.map_cons, List.mapM_cons, ih, toTree, Tree.text?_pieces]
      rfl

end Json

theorem Bounds.orNull?_bound (bound : Option Int64) :
    Tree.orNull? Tree.int64? (ofOption (fun n => .int n.toInt) bound : Json).toTree = some bound := by
  refine Tree.orNull?_ofOption (fun n h => ?_) Number.int64?_ofInteger bound
  cases h

theorem Bounds.ofTree_toTree (bounds : Bounds) (budget : Nat) :
    Bounds.ofTree budget bounds.toJson.toTree = if budget = 0 then none else some bounds := by
  have hdistinct : Entries.Distinct [("min", ofOption (fun n : Int64 => .int n.toInt) bounds.min),
      ("max", ofOption (fun n : Int64 => .int n.toInt) bounds.max)] := by
    show ["min", "max"].Nodup
    decide
  have hfields := Tree.fields?_toTree hdistinct budget
  simp only [Entries.keys_cons, Entries.keys_nil] at hfields
  rw [Bounds.ofTree, Bounds.toJson, hfields]
  split_ifs with hbudget
  · rfl
  · simp [Bounds.orNull?_bound]

theorem Bounds.nesting_toTree (bounds : Bounds) : bounds.toJson.toTree.nesting = 1 := by
  have hbound : ∀ bound : Option Int64,
      (ofOption (fun n => .int n.toInt) bound : Json).toTree.nesting = 0 := by
    intro bound
    cases bound <;> rfl
  simp [Bounds.toJson, toTree, toMembers, Tree.nesting, Tree.membersNesting, hbound]

namespace Constraint

/-- A variant with content is read as far as its content is. -/
theorem ofTree_of_content {name : String} {content : Tree} {constraint : Constraint}
    (hname : ofName? name = none)
    (h : ∀ inner, ofContent? inner name content =
      if content.nesting ≤ inner then some constraint else none) (budget : Nat) :
    ofTree budget (.object [(pieces name, content)]) =
      if (Tree.object [(pieces name, content)]).nesting ≤ budget then some constraint else none := by
  have hbare : (Tree.bareVariant? budget (.object [(pieces name, content)])).bind ofName? = none := by
    cases hfound : Tree.bareVariant? budget (.object [(pieces name, content)]) with
    | none => rfl
    | some found => rw [Tree.eq_of_bareVariant? hfound, Option.bind_some, hname]
  rw [ofTree, hbare, Tree.nesting_variant]
  cases budget with
  | zero => rfl
  | succ inner =>
      simp only [Tree.variant?_pieces, Option.bind_some, Nat.add_sub_cancel, h inner,
        Nat.add_le_add_iff_right]

/-- A constraint is read from a name alone. -/
theorem ofTree_of_name {name : String} {constraint : Constraint}
    (hname : ofName? name = some constraint) (budget : Nat) :
    ofTree budget (.string (pieces name)) =
      if (Tree.string (pieces name)).nesting ≤ budget then some constraint else none := by
  rw [ofTree, Tree.bareVariant?_pieces, Option.bind_some, hname, Tree.nesting]
  · rfl
  · rintro _ ⟨⟩
  · rintro _ ⟨⟩

/-- A constraint is read back if the limit allows what its text nests. -/
theorem ofTree_toTree (constraint : Constraint) (budget : Nat) :
    ofTree budget constraint.toJson.toTree =
      if constraint.toJson.toTree.nesting ≤ budget then some constraint else none := by
  cases constraint with
  | type kind =>
      refine ofTree_of_content rfl (fun inner => ?_) budget
      have hkind : ofContent? inner "type" (Json.string kind.name).toTree =
          ((Tree.bareVariant? inner (Json.string kind.name).toTree).bind TypeKind.ofName?).map .type :=
        rfl
      rw [hkind, toTree, Tree.bareVariant?_pieces, Option.bind_some, TypeKind.ofName?_name]
      rfl
  | numericFormat => exact ofTree_of_name rfl budget
  | charClass cls =>
      refine ofTree_of_content rfl (fun inner => ?_) budget
      have hclass : ofContent? inner "char_class" (Json.string cls.name).toTree =
          ((Tree.bareVariant? inner (Json.string cls.name).toTree).bind
            CharClass.ofName?).map .charClass := rfl
      rw [hclass, toTree, Tree.bareVariant?_pieces, Option.bind_some, CharClass.ofName?_name]
      rfl
  | choice options =>
      refine ofTree_of_content rfl (fun inner => ?_) budget
      have htexts : ofContent? inner "choice" (Json.array (options.map .string)).toTree =
          (Tree.texts? inner (Json.array (options.map .string)).toTree).map .choice := rfl
      have hnesting : (Json.array (options.map .string)).toTree.nesting = 1 := by
        rw [toTree, Tree.nesting, Nat.add_eq_right, ← Nat.le_zero, Tree.itemsNesting_le_iff,
          toTrees_eq, List.map_map]
        intro tree hmem
        obtain ⟨option, -, rfl⟩ := List.mem_map.mp hmem
        exact Nat.le_refl 0
      rw [htexts, hnesting]
      cases inner with
      | zero => rfl
      | succ deeper => rw [Tree.texts?_toTree, if_pos (Nat.le_add_left 1 deeper), Option.map_some]
  | dateFormat format =>
      refine ofTree_of_content rfl (fun inner => ?_) budget
      have hformat : ofContent? inner "date_format" (ofOption Json.string format).toTree =
          (Tree.orNull? Tree.text? (ofOption Json.string format).toTree).map .dateFormat := rfl
      have hnesting : (ofOption Json.string format).toTree.nesting = 0 := by cases format <;> rfl
      rw [hformat, hnesting, Tree.orNull?_ofOption _ Tree.text?_pieces, Option.map_some]
      · rfl
      · intro text heq
        cases heq
  | dateTimeFormat => exact ofTree_of_name rfl budget
  | emailFormat => exact ofTree_of_name rfl budget
  | urlFormat => exact ofTree_of_name rfl budget
  | patternMatch pattern =>
      refine ofTree_of_content rfl (fun inner => ?_) budget
      have hpattern : ofContent? inner "pattern_match" (Json.string pattern).toTree =
          (Tree.text? (Json.string pattern).toTree).map .patternMatch := rfl
      rw [hpattern, toTree, Tree.text?_pieces]
      rfl
  | notBlank => exact ofTree_of_name rfl budget
  | length bounds =>
      refine ofTree_of_content rfl (fun inner => ?_) budget
      have hbounds : ofContent? inner "length" bounds.toJson.toTree =
          (Bounds.ofTree inner bounds.toJson.toTree).map .length := rfl
      rw [hbounds, Bounds.ofTree_toTree, Bounds.nesting_toTree]
      cases inner <;> rfl
  | range bounds =>
      refine ofTree_of_content rfl (fun inner => ?_) budget
      have hbounds : ofContent? inner "range" bounds.toJson.toTree =
          (Bounds.ofTree inner bounds.toJson.toTree).map .range := rfl
      rw [hbounds, Bounds.ofTree_toTree, Bounds.nesting_toTree]
      cases inner with
      | zero => rfl
      | succ deeper => rw [if_neg (Nat.succ_ne_zero deeper), if_pos (Nat.le_add_left 1 deeper)]; rfl

/-- A constraint holds no floating-point number. -/
theorem exact_toJson (constraint : Constraint) :
    constraint.toJson.Everywhere fun part => part.isExact = true := by
  have hscalar : ∀ {value : Json}, value.isScalar = true → value.isExact = true →
      value.Everywhere fun part => part.isExact = true := fun h hexact => .scalar h hexact
  have hbounds : ∀ bounds : Bounds, bounds.toJson.Everywhere fun part => part.isExact = true := by
    rintro ⟨low, high⟩
    refine .object fun key value hmem => ?_
    rcases List.mem_pair.mp hmem with heq | heq <;> cases heq
    · cases low <;> exact hscalar rfl rfl
    · cases high <;> exact hscalar rfl rfl
  cases constraint with
  | type kind => exact everywhere_variant (hscalar rfl rfl)
  | charClass cls => exact everywhere_variant (hscalar rfl rfl)
  | choice options =>
      refine everywhere_variant (.array fun item hmem => ?_)
      obtain ⟨option, -, rfl⟩ := List.mem_map.mp hmem
      exact hscalar rfl rfl
  | dateFormat format => cases format <;> exact everywhere_variant (hscalar rfl rfl)
  | patternMatch pattern => exact everywhere_variant (hscalar rfl rfl)
  | length bounds => exact everywhere_variant (hbounds bounds)
  | range bounds => exact everywhere_variant (hbounds bounds)
  | numericFormat | dateTimeFormat | emailFormat | urlFormat | notBlank => exact hscalar rfl rfl

end Constraint

namespace Predicate

theorem toJsonItems_eq (children : List Predicate) : toJsonItems children = children.map toJson := by
  induction children with
  | nil => rfl
  | cons child rest ih => rw [toJsonItems, ih, List.map_cons]

theorem toJsonMembers_eq (fields : Entries Predicate) :
    toJsonMembers fields = fields.map fun field => (field.1, field.2.toJson) := by
  induction fields with
  | nil => rfl
  | cons field rest ih =>
      obtain ⟨key, node⟩ := field
      rw [toJsonMembers, ih, List.map_cons]

/-- What the decoder of a requirement gives for its tree within a limit. -/
def Decodes (predicate : Predicate) : Prop :=
  ∀ budget, ofTree budget predicate.toJson.toTree =
    if predicate.toJson.toTree.nesting ≤ budget then some predicate else none

/-- Two parts that are each read up to a limit are read together up to the same limit. -/
theorem bind_ite_max {α β γ : Type} (f : α → β → γ) (first : α) (more : β) (left right budget : Nat) :
    ((if left ≤ budget then some first else none).bind fun a =>
        (if right ≤ budget then some more else none).bind fun b => some (f a b)) =
      if max left right ≤ budget then some (f first more) else none := by
  simp only [Nat.max_le]
  by_cases hleft : left ≤ budget
  · by_cases hright : right ≤ budget <;> simp [hleft, hright]
  · simp [hleft]

theorem ofItems_toTrees {children : List Predicate} (h : ∀ child ∈ children, child.Decodes)
    (budget : Nat) :
    ofItems budget (toTrees (toJsonItems children)) =
      if Tree.itemsNesting (toTrees (toJsonItems children)) ≤ budget then some children
      else none := by
  induction children with
  | nil => rw [toJsonItems, toTrees, Tree.itemsNesting, ofItems, if_pos (Nat.zero_le _)]
  | cons child rest ih =>
      obtain ⟨hchild, hrest⟩ := List.forall_mem_cons.mp h
      rw [toJsonItems, toTrees, Tree.itemsNesting, ofItems, hchild, ih hrest]
      exact bind_ite_max List.cons child rest _ _ budget

theorem ofMembers_toMembers {fields : Entries Predicate}
    (h : ∀ key node, (key, node) ∈ fields → node.Decodes) (budget : Nat) :
    ofMembers budget (toMembers (toJsonMembers fields)) =
      if Tree.membersNesting (toMembers (toJsonMembers fields)) ≤ budget then some fields
      else none := by
  induction fields with
  | nil => rw [toJsonMembers, toMembers, Tree.membersNesting, ofMembers, if_pos (Nat.zero_le _)]
  | cons field rest ih =>
      obtain ⟨key, node⟩ := field
      have hnode := h key node List.mem_cons_self
      have hrest := ih fun key node hmem => h key node (List.mem_cons_of_mem _ hmem)
      rw [toJsonMembers, toMembers, Tree.membersNesting, ofMembers, decodeText_pieces, hnode, hrest]
      exact bind_ite_max (fun node rest => (key, node) :: rest) node rest _ _ budget

/-- What is read one container further in is nested one container less. -/
theorem map_ite_nesting {α β : Type} (f : α → β) (value : α) (nesting inner : Nat) :
    Option.map f (if nesting ≤ inner then some value else none) =
      if nesting + 1 ≤ inner + 1 then some (f value) else none := by
  rw [apply_ite (Option.map f)]
  simp only [Nat.add_le_add_iff_right, Option.map_some, Option.map_none]

section Variants

variable (inner : Nat) (content : Tree)

theorem ofTree_zero (members : List (List Piece × Tree)) : ofTree 0 (.object members) = none := by
  unfold ofTree
  split
  · rename_i heq
    cases heq
    split <;> simp_all
  · rfl

theorem ofTree_leaf : ofTree (inner + 1) (.object [(pieces "leaf", content)]) =
    (Constraint.ofTree inner content).map .leaf := by
  rw [ofTree.eq_def]
  simp only [decodeText_pieces]

theorem ofTree_optional (h : content ≠ .null) :
    ofTree (inner + 1) (.object [(pieces "optional", content)]) =
      (ofTree inner content).map fun node => .optional (some node) := by
  rw [ofTree.eq_def]
  simp only [decodeText_pieces]

theorem ofTree_required (h : content ≠ .null) :
    ofTree (inner + 1) (.object [(pieces "required", content)]) =
      (ofTree inner content).map fun node => .required (some node) := by
  rw [ofTree.eq_def]
  simp only [decodeText_pieces]

theorem ofTree_all (items : List Tree) :
    ofTree (inner + 2) (.object [(pieces "all", .array items)]) =
      (ofItems inner items).map .all := by
  rw [ofTree.eq_def]
  simp only [decodeText_pieces]

theorem ofTree_all_one : ofTree 1 (.object [(pieces "all", content)]) = none := by
  rw [ofTree.eq_def]
  simp only [decodeText_pieces]
  rfl

theorem ofTree_mapping_one : ofTree 1 (.object [(pieces "mapping", content)]) = none := by
  rw [ofTree.eq_def]
  simp only [decodeText_pieces]
  rfl

theorem ofTree_mapping (members : List (List Piece × Tree)) :
    ofTree (inner + 2) (.object [(pieces "mapping", .object members)]) =
      (ofMembers inner members).map fun pairs => .mapping (Entries.ofPairs pairs) := by
  rw [ofTree.eq_def]
  simp only [decodeText_pieces]

end Variants

theorem toTree_ne_null (predicate : Predicate) : predicate.toJson.toTree ≠ .null := by
  intro h
  cases predicate with
  | leaf constraint => cases h
  | all children => cases h
  | optional inner => cases inner <;> cases h
  | required inner => cases inner <;> cases h
  | mapping fields => cases h

/-- A wrapper of presence is read back with what it holds. -/
theorem decodes_presence {name : String} {wrap : Option Predicate → Predicate}
    (htree : ∀ inner, (wrap inner).toJson.toTree =
      .object [(pieces name, (ofOption toJson inner).toTree)])
    (hnull : ∀ budget, ofTree (budget + 1) (.object [(pieces name, .null)]) = some (wrap none))
    (hsome : ∀ budget content, content ≠ .null →
      ofTree (budget + 1) (.object [(pieces name, content)]) =
        (ofTree budget content).map fun node => wrap (some node))
    {inner : Option Predicate} (h : ∀ node, inner = some node → node.Decodes) :
    (wrap inner).Decodes := by
  intro budget
  rw [htree, Tree.nesting_variant]
  cases budget with
  | zero => rw [ofTree_zero, if_neg (Nat.not_succ_le_zero _)]
  | succ budget =>
      cases inner with
      | none => exact hnull budget
      | some node =>
          rw [ofOption, hsome budget _ node.toTree_ne_null, h node rfl budget, map_ite_nesting]

/-- A requirement is read back if the limit allows what its text nests. -/
theorem WellFormed.decodes {predicate : Predicate} (h : predicate.WellFormed) :
    predicate.Decodes := by
  induction h with
  | leaf constraint =>
      intro budget
      rw [toJson, toTree, toMembers, toMembers, Tree.nesting_variant]
      cases budget with
      | zero => rw [ofTree_zero, if_neg (Nat.not_succ_le_zero _)]
      | succ inner => rw [ofTree_leaf, Constraint.ofTree_toTree, map_ite_nesting]
  | @all children _ ih =>
      intro budget
      rw [toJson, toTree, toMembers, toMembers, Tree.nesting_variant, toTree, Tree.nesting]
      rcases budget with _ | _ | inner
      · rw [ofTree_zero, if_neg (Nat.not_succ_le_zero _)]
      · rw [ofTree_all_one, if_neg (by omega)]
      · rw [ofTree_all, ofItems_toTrees ih, map_ite_nesting]
        exact if_congr Nat.succ_le_succ_iff.symm rfl rfl
  | optional _ ih =>
      refine decodes_presence (fun inner => ?_) (fun _ => rfl) ofTree_optional ih
      cases inner <;> rfl
  | required _ ih =>
      refine decodes_presence (fun inner => ?_) (fun _ => rfl) ofTree_required ih
      cases inner <;> rfl
  | @mapping fields hkeys _ ih =>
      intro budget
      rw [toJson, toTree, toMembers, toMembers, Tree.nesting_variant, toTree, Tree.nesting]
      rcases budget with _ | _ | inner
      · rw [ofTree_zero, if_neg (Nat.not_succ_le_zero _)]
      · rw [ofTree_mapping_one, if_neg (by omega)]
      · rw [ofTree_mapping, ofMembers_toMembers ih, map_ite_nesting,
          Entries.ofPairs_of_distinct hkeys]
        exact if_congr Nat.succ_le_succ_iff.symm rfl rfl

/-- A requirement holds no floating-point number. -/
theorem WellFormed.exact_toJson {predicate : Predicate} (h : predicate.WellFormed) :
    predicate.toJson.Everywhere fun part => part.isExact = true := by
  induction h with
  | leaf constraint => exact everywhere_variant constraint.exact_toJson
  | @all children _ ih =>
      rw [toJson, toJsonItems_eq]
      refine everywhere_variant (.array fun item hmem => ?_)
      obtain ⟨child, hchild, rfl⟩ := List.mem_map.mp hmem
      exact ih child hchild
  | @optional inner _ ih =>
      cases inner with
      | none => exact everywhere_variant (.scalar rfl rfl)
      | some node => exact everywhere_variant (ih node rfl)
  | @required inner _ ih =>
      cases inner with
      | none => exact everywhere_variant (.scalar rfl rfl)
      | some node => exact everywhere_variant (ih node rfl)
  | @mapping fields _ _ ih =>
      rw [toJson, toJsonMembers_eq]
      refine everywhere_variant (.object fun key value hmem => ?_)
      obtain ⟨⟨name, node⟩, hfield, heq⟩ := List.mem_map.mp hmem
      cases heq
      exact ih name node hfield

/-- The text of a requirement is read as the tree of the requirement. -/
theorem WellFormed.ofText?_jsonText {predicate : Predicate} (h : predicate.WellFormed) :
    Tree.ofText? predicate.jsonText = some predicate.toJson.toTree := h.exact_toJson.ofText?_text

end Predicate

/-- A custom code is written under a name of its own, so its text is never taken for a fixed code. -/
theorem ViolationCode.ofTree_toTree (code : ViolationCode) (inner : Nat) :
    ViolationCode.ofTree (inner + 1) code.toJson.toTree = some code := by
  cases code with
  | invalidValueType =>
      rw [toJson, toTree, ofTree, Tree.bareVariant?_pieces]
      rfl
  | invalidDecimal =>
      rw [toJson, toTree, ofTree, Tree.bareVariant?_pieces]
      rfl
  | custom text =>
      have hvariant := Tree.variant?_pieces inner "CUSTOM" (.string (pieces text))
      have hbare : Tree.bareVariant? (inner + 1)
          (.object [(pieces "CUSTOM", .string (pieces text))]) = none := by
        simp only [Tree.bareVariant?, hvariant]
      rw [toJson, toTree, toMembers, toMembers, toTree, ofTree, hbare]
      simp only [hvariant, Tree.text?_pieces, Option.map_some]

namespace Violation

theorem exact_toJson (violation : Violation) :
    violation.toJson.Everywhere fun part => part.isExact = true := by
  refine .object fun key value hmem => ?_
  simp only [List.mem_cons, List.not_mem_nil, or_false, Prod.mk.injEq] at hmem
  rcases hmem with ⟨-, rfl⟩ | ⟨-, rfl⟩ | ⟨-, rfl⟩
  · exact .scalar rfl rfl
  · cases violation.code with
    | invalidValueType | invalidDecimal => exact .scalar rfl rfl
    | custom text => exact everywhere_variant (.scalar rfl rfl)
  · exact .scalar rfl rfl

theorem ofTree_toTree (violation : Violation) (budget : Nat) :
    ofTree (budget + 2) violation.toJson.toTree = some violation := by
  have hdistinct : Entries.Distinct [("path", Json.string violation.path),
      ("code", violation.code.toJson), ("message", Json.string violation.message)] := by
    show ["path", "code", "message"].Nodup
    decide
  have hfields := Tree.fields?_toTree hdistinct (budget + 2)
  simp only [Entries.keys_cons, Entries.keys_nil] at hfields
  rw [ofTree, toJson, hfields, if_neg (Nat.succ_ne_zero _)]
  simp [toTree, Tree.text?_pieces, ViolationCode.ofTree_toTree]

theorem ofJsonText?_jsonText (violation : Violation) :
    ofJsonText? violation.jsonText = some violation := by
  rw [ofJsonText?, jsonText, violation.exact_toJson.ofText?_text, Option.bind_some]
  exact violation.ofTree_toTree 125

end Violation

/-- **Requirements and violations are read back from their text.** The text of a requirement is JSON,
and reading it gives the requirement back, keys in order, if the text nests at most 127 containers;
it fails if the text nests more. A violation is always read back, with the code that it had. -/
theorem typed_round_trip :
    (∀ predicate : Predicate, predicate.WellFormed →
      ∃ tree, Tree.ofText? predicate.jsonText = some tree ∧
        Predicate.ofJsonText? predicate.jsonText =
          if tree.nesting ≤ 127 then some predicate else none) ∧
      ∀ violation : Violation, Violation.ofJsonText? violation.jsonText = some violation := by
  refine ⟨fun predicate h => ?_, Violation.ofJsonText?_jsonText⟩
  refine ⟨predicate.toJson.toTree, h.ofText?_jsonText, ?_⟩
  rw [Predicate.ofJsonText?, h.ofText?_jsonText, Option.bind_some]
  exact h.decodes maxNesting

/-- A choice of texts that have to be escaped, wrapped as optional a number of times. -/
def wrappedChoice : Nat → Predicate
  | 0 => .leaf (.choice ["\"\\", "é\n\x01"])
  | times + 1 => .optional (some (wrappedChoice times))

theorem wellFormed_wrappedChoice (times : Nat) : (wrappedChoice times).WellFormed := by
  induction times with
  | zero => exact .leaf _
  | succ times ih => exact .optional fun node hnode => Option.some.inj hnode ▸ ih

theorem nesting_wrappedChoice (times : Nat) :
    (wrappedChoice times).toJson.toTree.nesting = times + 3 := by
  induction times with
  | zero => rfl
  | succ times ih =>
      rw [wrappedChoice, Predicate.toJson, toTree, toMembers, toMembers, Tree.nesting_variant, ih,
        Nat.add_right_comm]

/-- With 124 wrappers the text nests 127 containers and is read back, with 125 it is not. -/
theorem wrappedChoice_limit :
    (wrappedChoice 124).WellFormed ∧ (wrappedChoice 125).WellFormed ∧
      Predicate.ofJsonText? (wrappedChoice 124).jsonText = some (wrappedChoice 124) ∧
      Predicate.ofJsonText? (wrappedChoice 125).jsonText = none := by
  have hformed := wellFormed_wrappedChoice
  have hread : ∀ times, Predicate.ofJsonText? (wrappedChoice times).jsonText =
      if times + 3 ≤ 127 then some (wrappedChoice times) else none := by
    intro times
    obtain ⟨tree, htree, hread⟩ := typed_round_trip.1 _ (hformed times)
    rw [(hformed times).ofText?_jsonText] at htree
    rw [hread, ← Option.some.inj htree, nesting_wrappedChoice]
  exact ⟨hformed 124, hformed 125, hread 124, hread 125⟩

end DocRules
