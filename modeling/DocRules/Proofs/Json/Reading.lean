import DocRules.Json.Document
import DocRules.Proofs.Entries
import DocRules.Proofs.Json.Written

/-! Reading documents from JSON. Whether a value is built first or not, the same texts are refused and
the others give the same document: the one that the tree of the text stands for. What a tree stands
for is said without either way of reading, up to what a fraction or an exponent rounds to. -/

namespace DocRules

open Json

/-- A number is classified in the same way whether or not a value is built first. -/
theorem Value.ofTree_number (written : Number) :
    (Value.ofTree (.number written)).map Document.leaf =
      (Json.ofNumber written).map Document.ofJson := by
  have hfloat : (written.float?.map Value.float).map Document.leaf =
      (written.float?.map Json.float).map Document.ofJson := by
    cases written.float? <;> rfl
  have hmax : Int64.maxValue.toInt = 9223372036854775807 := rfl
  rw [Value.ofTree, Number.int64?, Json.ofNumber]
  cases hinteger : written.integer? with
  | none => exact hfloat
  | some n =>
      simp only [Option.bind_some]
      by_cases hsigned : Int64.minValue.toInt ≤ n ∧ n ≤ Int64.maxValue.toInt
      · have hunsigned : n.toNat < Nat.pow 2 64 := by
          have hpow : Nat.pow 2 64 = 18446744073709551616 := rfl
          omega
        rw [if_pos hsigned, if_pos ⟨hsigned.1, hunsigned⟩]
        simp only [Option.map_some, Option.some_or, Document.ofJson, Value.ofInt, if_pos hsigned]
      · rw [if_neg hsigned, Option.map_none, Option.none_or]
        by_cases hunsigned : Int64.minValue.toInt ≤ n ∧ n.toNat < Nat.pow 2 64
        · have hpositive : 0 < n := by omega
          have hwritten := Number.integer?_eq_some_iff.mp hinteger
          rw [if_pos hunsigned, hwritten.float? hpositive hunsigned.2]
          simp only [Option.map_some, Document.ofJson, Value.ofInt, if_neg hsigned]
        · rw [if_neg hunsigned]
          exact hfloat

namespace Document

theorem ofJsonItems_eq (items : List Json) : ofJsonItems items = items.map ofJson := by
  induction items with
  | nil => rfl
  | cons item rest ih => rw [ofJsonItems, ih, List.map_cons]

theorem ofJsonMembers_eq (members : List (String × Json)) :
    ofJsonMembers members = members.map fun member => (member.1, ofJson member.2) := by
  induction members with
  | nil => rfl
  | cons member rest ih =>
      obtain ⟨key, value⟩ := member
      rw [ofJsonMembers, ih, List.map_cons]

mutual

/-- Reading a tree directly and through a value fail on the same trees and give the same document. -/
theorem ofTree_eq (budget : Nat) (tree : Tree) :
    ofTree budget tree = (Json.ofTree budget tree).map ofJson := by
  cases tree with
  | null => rfl
  | bool b => rfl
  | number written => exact Value.ofTree_number written
  | string pieces =>
      rw [ofTree, Value.ofTree, Json.ofTree]
      · cases decodeText pieces <;> rfl
      · exact fun _ heq => nomatch heq
      · exact fun _ heq => nomatch heq
  | array items =>
      cases budget with
      | zero => rfl
      | succ inner =>
          rw [ofTree, Json.ofTree, ofTreeItems_eq inner items]
          cases Json.ofItems inner items <;> rfl
  | object members =>
      cases budget with
      | zero => rfl
      | succ inner =>
          rw [ofTree, Json.ofTree, ofTreeMembers_eq inner members]
          cases Json.ofMembers inner members with
          | none => rfl
          | some pairs =>
              simp only [Option.map_some, ofJson, ofJsonMembers_eq, Entries.ofPairs_map]

theorem ofTreeItems_eq (budget : Nat) (items : List Tree) :
    ofTreeItems budget items = (Json.ofItems budget items).map ofJsonItems := by
  cases items with
  | nil => rfl
  | cons item rest =>
      rw [ofTreeItems, Json.ofItems, ofTree_eq budget item, ofTreeItems_eq budget rest]
      cases Json.ofTree budget item with
      | none => rfl
      | some first => cases Json.ofItems budget rest <;> rfl

theorem ofTreeMembers_eq (budget : Nat) (members : List (List Piece × Tree)) :
    ofTreeMembers budget members = (Json.ofMembers budget members).map ofJsonMembers := by
  cases members with
  | nil => rfl
  | cons member rest =>
      obtain ⟨key, value⟩ := member
      rw [ofTreeMembers, Json.ofMembers, ofTree_eq budget value, ofTreeMembers_eq budget rest]
      cases decodeText key with
      | none => rfl
      | some key =>
          cases Json.ofTree budget value with
          | none => rfl
          | some first => cases Json.ofMembers budget rest <;> rfl

end

/-- Both ways of reading a text give the same. -/
theorem ofJsonText?_eq (text : String) :
    ofJsonText? text = (Json.ofText? text).map ofJson := by
  rw [ofJsonText?, Json.ofText?]
  cases Tree.ofText? text with
  | none => rfl
  | some tree => exact ofTree_eq maxNesting tree

mutual

/-- Whether a tree stands for a document. A number stands for an integer if it is written as one that
fits 64 bits with a sign, and for a floating-point number otherwise. The members of an object stand
for a mapping in which each key is where it came first, with what came with it last. -/
inductive StandsFor : Tree → Document → Prop where
  | null : StandsFor .null (.leaf .null)
  | bool (b : Bool) : StandsFor (.bool b) (.leaf (.bool b))
  | int {written : Number} {n : Int64} (h : written.IsInteger n.toInt) :
      StandsFor (.number written) (.leaf (.int n))
  | float {written : Number} {x : Float} (hinteger : ∀ n : Int64, ¬written.IsInteger n.toInt)
      (h : written.float? = some x) : StandsFor (.number written) (.leaf (.float x))
  | string {pieces : List Piece} {text : String} (h : decodeText pieces = some text) :
      StandsFor (.string pieces) (.leaf (.string text))
  | seq {trees : List Tree} {items : List Document} (h : ItemsStandFor trees items) :
      StandsFor (.array trees) (.seq items)
  | map {members : List (List Piece × Tree)} {pairs : List (String × Document)}
      {entries : Entries Document} (h : MembersStandFor members pairs)
      (hkeeps : Entries.Keeps pairs entries) : StandsFor (.object members) (.map entries)

/-- Whether trees stand for documents one by one. -/
inductive ItemsStandFor : List Tree → List Document → Prop where
  | nil : ItemsStandFor [] []
  | cons {tree : Tree} {item : Document} {trees : List Tree} {items : List Document}
      (hfirst : StandsFor tree item) (hrest : ItemsStandFor trees items) :
      ItemsStandFor (tree :: trees) (item :: items)

/-- Whether members stand for keys with documents one by one. -/
inductive MembersStandFor : List (List Piece × Tree) → List (String × Document) → Prop where
  | nil : MembersStandFor [] []
  | cons {pieces : List Piece} {key : String} {tree : Tree} {node : Document}
      {members : List (List Piece × Tree)} {pairs : List (String × Document)}
      (hkey : decodeText pieces = some key) (hfirst : StandsFor tree node)
      (hrest : MembersStandFor members pairs) :
      MembersStandFor ((pieces, tree) :: members) ((key, node) :: pairs)

end

theorem ofTree_number_eq_some_iff {budget : Nat} {written : Number} {document : Document} :
    ofTree budget (.number written) = some document ↔ StandsFor (.number written) document := by
  have hread : ofTree budget (.number written) =
      ((written.int64?.map Value.int).or (written.float?.map Value.float)).map leaf := rfl
  rw [hread]
  cases hinteger : written.int64? with
  | some n =>
      have hwritten := Number.int64?_eq_some_iff.mp hinteger
      rw [Option.map_some, Option.some_or, Option.map_some, Option.some.injEq]
      constructor
      · rintro rfl
        exact .int hwritten
      · intro h
        cases h with
        | int h =>
            rw [← Number.int64?_eq_some_iff, hinteger] at h
            cases h
            rfl
        | float hnone _ => exact absurd hwritten (hnone n)
  | none =>
      have hnone : ∀ n : Int64, ¬written.IsInteger n.toInt := by
        intro n h
        rw [← Number.int64?_eq_some_iff, hinteger] at h
        cases h
      rw [Option.map_none, Option.none_or, Option.map_map, Option.map_eq_some_iff]
      constructor
      · rintro ⟨x, hx, rfl⟩
        exact .float hnone hx
      · intro h
        cases h with
        | int h => exact absurd h (hnone _)
        | float _ h => exact ⟨_, h, rfl⟩

mutual

/-- A tree is read as a document within a limit exactly when it nests no more containers than that and
stands for the document. -/
theorem ofTree_eq_some_iff (budget : Nat) (tree : Tree) (document : Document) :
    ofTree budget tree = some document ↔ tree.nesting ≤ budget ∧ StandsFor tree document := by
  cases tree with
  | null =>
      have hread : ofTree budget .null = some (.leaf .null) := rfl
      rw [hread, Option.some.injEq]
      constructor
      · rintro rfl
        exact ⟨Nat.zero_le budget, .null⟩
      · rintro ⟨-, h⟩
        cases h
        rfl
  | bool b =>
      have hread : ofTree budget (.bool b) = some (.leaf (.bool b)) := rfl
      rw [hread, Option.some.injEq]
      constructor
      · rintro rfl
        exact ⟨Nat.zero_le budget, .bool b⟩
      · rintro ⟨-, h⟩
        cases h
        rfl
  | number written =>
      rw [ofTree_number_eq_some_iff]
      exact (and_iff_right (Nat.zero_le budget)).symm
  | string pieces =>
      have hread : ofTree budget (.string pieces) =
          ((decodeText pieces).map Value.string).map leaf := rfl
      rw [hread, Option.map_map, Option.map_eq_some_iff]
      constructor
      · rintro ⟨text, htext, rfl⟩
        exact ⟨Nat.zero_le budget, .string htext⟩
      · rintro ⟨-, h⟩
        cases h with
        | string htext => exact ⟨_, htext, rfl⟩
  | array trees =>
      cases budget with
      | zero => exact iff_of_false (fun h => nomatch h) fun h => Nat.not_succ_le_zero _ h.1
      | succ inner =>
          rw [ofTree, Tree.nesting, Nat.add_le_add_iff_right, Option.map_eq_some_iff]
          constructor
          · rintro ⟨items, hitems, rfl⟩
            obtain ⟨hnesting, hstand⟩ := (ofTreeItems_eq_some_iff inner trees items).mp hitems
            exact ⟨hnesting, .seq hstand⟩
          · rintro ⟨hnesting, h⟩
            cases h with
            | @seq _ items hstand =>
                exact ⟨items, (ofTreeItems_eq_some_iff inner trees items).mpr ⟨hnesting, hstand⟩, rfl⟩
  | object members =>
      cases budget with
      | zero => exact iff_of_false (fun h => nomatch h) fun h => Nat.not_succ_le_zero _ h.1
      | succ inner =>
          rw [ofTree, Tree.nesting, Nat.add_le_add_iff_right, Option.map_eq_some_iff]
          constructor
          · rintro ⟨pairs, hpairs, rfl⟩
            obtain ⟨hnesting, hstand⟩ := (ofTreeMembers_eq_some_iff inner members pairs).mp hpairs
            exact ⟨hnesting, .map hstand (Entries.keeps_iff.mpr rfl)⟩
          · rintro ⟨hnesting, h⟩
            cases h with
            | @map _ pairs entries hstand hkeeps =>
                refine ⟨pairs, (ofTreeMembers_eq_some_iff inner members pairs).mpr
                  ⟨hnesting, hstand⟩, ?_⟩
                rw [Entries.keeps_iff.mp hkeeps]

theorem ofTreeItems_eq_some_iff (budget : Nat) (trees : List Tree) (items : List Document) :
    ofTreeItems budget trees = some items ↔
      Tree.itemsNesting trees ≤ budget ∧ ItemsStandFor trees items := by
  cases trees with
  | nil =>
      rw [ofTreeItems, Option.some.injEq]
      constructor
      · rintro rfl
        exact ⟨Nat.zero_le budget, .nil⟩
      · rintro ⟨-, h⟩
        cases h
        rfl
  | cons tree rest =>
      rw [ofTreeItems, Tree.itemsNesting, Nat.max_le]
      simp only [Option.bind_eq_bind, Option.bind_eq_some_iff, Option.pure_def, Option.some.injEq,
        ofTree_eq_some_iff budget tree, ofTreeItems_eq_some_iff budget rest]
      constructor
      · rintro ⟨first, ⟨hfirst, hstands⟩, others, ⟨hothers, hstand⟩, rfl⟩
        exact ⟨⟨hfirst, hothers⟩, .cons hstands hstand⟩
      · rintro ⟨⟨hfirst, hothers⟩, h⟩
        cases h with
        | cons hstands hstand => exact ⟨_, ⟨hfirst, hstands⟩, _, ⟨hothers, hstand⟩, rfl⟩

theorem ofTreeMembers_eq_some_iff (budget : Nat) (members : List (List Piece × Tree))
    (pairs : List (String × Document)) :
    ofTreeMembers budget members = some pairs ↔
      Tree.membersNesting members ≤ budget ∧ MembersStandFor members pairs := by
  cases members with
  | nil =>
      rw [ofTreeMembers, Option.some.injEq]
      constructor
      · rintro rfl
        exact ⟨Nat.zero_le budget, .nil⟩
      · rintro ⟨-, h⟩
        cases h
        rfl
  | cons member rest =>
      obtain ⟨pieces, tree⟩ := member
      rw [ofTreeMembers, Tree.membersNesting, Nat.max_le]
      simp only [Option.bind_eq_bind, Option.bind_eq_some_iff, Option.pure_def, Option.some.injEq,
        ofTree_eq_some_iff budget tree, ofTreeMembers_eq_some_iff budget rest]
      constructor
      · rintro ⟨key, hkey, first, ⟨hfirst, hstands⟩, others, ⟨hothers, hstand⟩, rfl⟩
        exact ⟨⟨hfirst, hothers⟩, .cons hkey hstands hstand⟩
      · rintro ⟨⟨hfirst, hothers⟩, h⟩
        cases h with
        | cons hkey hstands hstand =>
            exact ⟨_, hkey, _, ⟨hfirst, hstands⟩, _, ⟨hothers, hstand⟩, rfl⟩

end

end Document

end DocRules
