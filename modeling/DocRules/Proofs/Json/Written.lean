import DocRules.Proofs.Json.Spelling

/-! Values as they are written. The text of a value without floating-point numbers is read as one
tree, which has the form of the value. -/

namespace DocRules.Json

def isScalar : Json → Bool
  | .array _ | .object _ => false
  | _ => true

/-- Whether something holds of every scalar in a value. -/
inductive Everywhere (P : Json → Prop) : Json → Prop where
  | scalar {value : Json} (hscalar : value.isScalar = true) (h : P value) : Everywhere P value
  | array {items : List Json} (h : ∀ item ∈ items, Everywhere P item) : Everywhere P (.array items)
  | object {members : List (String × Json)}
      (h : ∀ key value, (key, value) ∈ members → Everywhere P value) :
      Everywhere P (.object members)

/-- Whether a value is no floating-point number. -/
def isExact : Json → Bool
  | .float _ => false
  | _ => true

mutual

/-- The tree that the text of a value is read as. A floating-point number has the tree of its own
text. -/
def toTree : Json → Tree
  | .null => .null
  | .bool b => .bool b
  | .int n => .number (.ofInteger n)
  | .float x => ((floatText? x).bind Tree.ofText?).getD .null
  | .string s => .string (pieces s)
  | .array items => .array (toTrees items)
  | .object members => .object (toMembers members)

def toTrees : List Json → List Tree
  | [] => []
  | item :: rest => toTree item :: toTrees rest

def toMembers : List (String × Json) → List (List Piece × Tree)
  | [] => []
  | (key, value) :: rest => (pieces key, toTree value) :: toMembers rest

end

mutual

/-- How many containers are nested in a tree at most. -/
def Tree.nesting : Tree → Nat
  | .array items => Tree.itemsNesting items + 1
  | .object members => Tree.membersNesting members + 1
  | _ => 0

def Tree.itemsNesting : List Tree → Nat
  | [] => 0
  | item :: rest => max (Tree.nesting item) (Tree.itemsNesting rest)

def Tree.membersNesting : List (List Piece × Tree) → Nat
  | [] => 0
  | (_, value) :: rest => max (Tree.nesting value) (Tree.membersNesting rest)

end

theorem itemTexts_eq (items : List Json) : itemTexts items = items.map text := by
  induction items with
  | nil => rfl
  | cons item rest ih => rw [itemTexts, ih, List.map_cons]

theorem memberTexts_eq (members : List (String × Json)) :
    memberTexts members = members.map fun member => quote member.1 ++ ":" ++ text member.2 := by
  induction members with
  | nil => rfl
  | cons member rest ih =>
      obtain ⟨key, value⟩ := member
      rw [memberTexts, ih, List.map_cons]

theorem toTrees_eq (items : List Json) : toTrees items = items.map toTree := by
  induction items with
  | nil => rfl
  | cons item rest ih => rw [toTrees, ih, List.map_cons]

theorem toMembers_eq (members : List (String × Json)) :
    toMembers members = members.map fun member => (pieces member.1, toTree member.2) := by
  induction members with
  | nil => rfl
  | cons member rest ih =>
      obtain ⟨key, value⟩ := member
      rw [toMembers, ih, List.map_cons]

theorem forall₂_map {α β γ : Type} {R : β → γ → Prop} {f : α → β} {g : α → γ} {items : List α}
    (h : ∀ item ∈ items, R (f item) (g item)) : List.Forall₂ R (items.map f) (items.map g) := by
  rw [List.forall₂_map_left_iff, List.forall₂_map_right_iff, List.forall₂_same]
  exact h

theorem spells_scalar {value : Json} (hscalar : value.isScalar = true)
    (hexact : value.isExact = true) : Spells value.text.toList value.toTree := by
  cases value with
  | null => exact ⟨[.null], reads_word rfl (by decide) rfl, fun _ _ => rfl⟩
  | bool b =>
      cases b with
      | false => exact ⟨[.bool false], reads_word rfl (by decide) rfl, fun _ _ => rfl⟩
      | true => exact ⟨[.bool true], reads_word rfl (by decide) rfl, fun _ _ => rfl⟩
  | int n => exact ⟨[.number (.ofInteger n)], reads_integer n, fun _ _ => rfl⟩
  | float x => cases hexact
  | string s => exact ⟨[.string (pieces s)], reads_quote s, fun _ _ => rfl⟩
  | array items => cases hscalar
  | object members => cases hscalar

/-- The text of a value without floating-point numbers spells its tree. -/
theorem Everywhere.spells {value : Json} (h : value.Everywhere fun part => part.isExact = true) :
    Spells value.text.toList value.toTree := by
  induction h with
  | scalar hscalar hexact => exact spells_scalar hscalar hexact
  | @array items _ ih =>
      have htext : (text (.array items)).toList =
          '[' :: ([','].intercalate (items.map fun item => item.text.toList) ++ [']']) := by
        rw [text, itemTexts_eq]
        simp [String.toList_intercalate, Function.comp_def]
      rw [htext, toTree, toTrees_eq]
      exact spells_array (forall₂_map ih)
  | @object members _ ih =>
      have htext : (text (.object members)).toList =
          '\x7b' :: ([','].intercalate
            (members.map fun member => (quote member.1).toList ++ ':' :: member.2.text.toList)
              ++ ['\x7d']) := by
        rw [text, memberTexts_eq]
        simp [String.toList_intercalate, Function.comp_def]
      rw [htext, toTree, toMembers_eq]
      refine spells_object (forall₂_map fun member hmem => ?_)
      exact ⟨member.1, member.2.text.toList, rfl, rfl, ih member.1 member.2 hmem⟩

/-- A value without floating-point numbers is read back from its text as its tree. -/
theorem Everywhere.ofText?_text {value : Json}
    (h : value.Everywhere fun part => part.isExact = true) :
    Tree.ofText? value.text = some value.toTree := h.spells.ofText?

namespace Tree

variable {budget : Nat}

theorem itemsNesting_le_iff {items : List Tree} :
    itemsNesting items ≤ budget ↔ ∀ item ∈ items, item.nesting ≤ budget := by
  induction items with
  | nil => simp [itemsNesting]
  | cons item rest ih => rw [itemsNesting, Nat.max_le, ih, List.forall_mem_cons]

theorem membersNesting_le_iff {members : List (List Piece × Tree)} :
    membersNesting members ≤ budget ↔ ∀ member ∈ members, member.2.nesting ≤ budget := by
  induction members with
  | nil => simp [membersNesting]
  | cons member rest ih =>
      obtain ⟨key, value⟩ := member
      rw [membersNesting, Nat.max_le, ih, List.forall_mem_cons]

end Tree

end DocRules.Json
