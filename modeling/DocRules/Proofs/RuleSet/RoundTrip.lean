import DocRules.Proofs.RuleSet.Shorthand

/-! Rule text read and written. Nothing is escaped in rule text, so a separator inside a name or a
parameter is read as a separator. The sets without such separators, with named rules only, are
exactly those that are read back from their text, and every text that is read is the text of what
was read. -/

namespace DocRules

/-- Rule text can spell a rule if no part of the rule holds a separator that would end the part. -/
structure Rule.Expressible (rule : Rule) : Prop where
  named : rule.name ≠ ""
  nameWithoutBar : '|' ∉ rule.name.toList
  nameWithoutColon : ':' ∉ rule.name.toList
  withoutBar : ∀ parameter ∈ rule.parameters, '|' ∉ parameter.toList
  withoutComma : ∀ parameter ∈ rule.parameters, ',' ∉ parameter.toList

/-- Rule text can spell a set if all items are named rules and it can spell each of them. -/
def RuleSet.Expressible (set : RuleSet) : Prop :=
  ∀ item ∈ set.items, ∃ rule, item = .named rule ∧ rule.Expressible

namespace Shorthand

theorem text_of_nil (name : String) : (⟨name, []⟩ : Rule).text = name := rfl

theorem text_of_ne_nil {rule : Rule} (h : rule.parameters ≠ []) :
    rule.text.toList = rule.name.toList ++ ':' :: (",".intercalate rule.parameters).toList := by
  have hempty : rule.parameters.isEmpty = false := by simpa using h
  rw [Rule.text, hempty, if_neg Bool.false_ne_true, String.toList_append, String.toList_append,
    List.append_assoc]
  rfl

/-- The rule that a piece spells is written as that piece. -/
theorem text_pieceRule (piece : String) : (pieceRule piece).text = piece := by
  by_cases hcolon : ':' ∈ piece.toList
  · obtain ⟨name, parameters, hpiece, hname⟩ := List.eq_append_cons_of_mem hcolon
    have hjoin : ",".intercalate (Text.split ',' (String.ofList parameters)) =
        String.ofList parameters := Text.intercalate_split ',' _
    rw [pieceRule_of_colon hname hpiece, ← String.toList_inj, hpiece,
      text_of_ne_nil (Text.split_ne_nil _ _), hjoin, String.toList_ofList, String.toList_ofList]
  · rw [pieceRule_of_not_mem hcolon, text_of_nil]

/-- A rule that rule text can spell is the one that its text spells. -/
theorem pieceRule_text {rule : Rule} (h : rule.Expressible) : pieceRule rule.text = rule := by
  obtain ⟨name, parameters⟩ := rule
  cases parameters with
  | nil => exact pieceRule_of_not_mem h.nameWithoutColon
  | cons first others =>
      have htext : (Rule.mk name (first :: others)).text.toList =
          name.toList ++ ':' :: (",".intercalate (first :: others)).toList :=
        text_of_ne_nil (List.cons_ne_nil first others)
      have hsplit := Text.split_intercalate h.withoutComma (List.cons_ne_nil first others)
      rw [pieceRule_of_colon h.nameWithoutColon htext, String.ofList_toList, String.ofList_toList]
      exact congrArg (Rule.mk name) hsplit

/-- The text of such a rule is not cut at a bar. -/
theorem bar_not_mem_text {rule : Rule} (h : rule.Expressible) : '|' ∉ rule.text.toList := by
  by_cases hparameters : rule.parameters = []
  · rw [Rule.text, hparameters]
    exact h.nameWithoutBar
  · rw [text_of_ne_nil hparameters, List.mem_append, List.mem_cons]
    rintro (hname | hcolon | hmem)
    · exact h.nameWithoutBar hname
    · exact absurd hcolon (by decide)
    · have hne : '|' ≠ ',' := by decide
      obtain ⟨parameter, hparameter, hbar⟩ :=
        (Text.mem_intercalate_iff hne rule.parameters).mp hmem
      exact h.withoutBar parameter hparameter hbar

/-- Rule text can spell what it spells. -/
theorem expressible_pieceRule {piece : String} (hbar : '|' ∉ piece.toList)
    (hname : pieceName piece ≠ "") : (pieceRule piece).Expressible := by
  by_cases hcolon : ':' ∈ piece.toList
  · obtain ⟨name, parameters, hpiece, hfirst⟩ := List.eq_append_cons_of_mem hcolon
    have hrule := pieceRule_of_colon hfirst hpiece
    have hpieceName : pieceName piece = String.ofList name := congrArg Rule.name hrule
    rw [hpiece, List.mem_append, List.mem_cons, not_or, not_or] at hbar
    obtain ⟨hbarName, -, hbarParameters⟩ := hbar
    rw [hrule]
    constructor
    · exact hpieceName ▸ hname
    · rwa [String.toList_ofList]
    · rwa [String.toList_ofList]
    · intro parameter hmem hbar
      have hchars := Text.mem_of_mem_piece hmem hbar
      rw [String.toList_ofList] at hchars
      exact hbarParameters hchars
    · exact fun parameter hmem => Text.not_mem_of_mem_split hmem
  · have hrule := pieceRule_of_not_mem hcolon
    have hpieceName : pieceName piece = piece := congrArg Rule.name hrule
    rw [hrule]
    exact ⟨hpieceName ▸ hname, hbar, hcolon, by simp, by simp⟩

end Shorthand

open Shorthand

namespace RuleSet

theorem text_ofRules (rules : List Rule) :
    (ofRules rules).text = "|".intercalate (rules.map Rule.text) := by
  rw [text, ofRules, List.map_map]
  rfl

/-- What is read from a text is read off the pieces between its bars, all of which have names. The
empty text has no pieces here. -/
theorem exists_pieces_of_parse {input : String} {set : RuleSet} (h : parse input = .ok set) :
    ∃ pieces, set = ofRules (pieces.map pieceRule) ∧ "|".intercalate pieces = input ∧
      ∀ piece ∈ pieces, '|' ∉ piece.toList ∧ pieceName piece ≠ "" := by
  by_cases hempty : input = ""
  · subst hempty
    cases h
    exact ⟨[], rfl, rfl, fun piece hmem => nomatch hmem⟩
  · rw [parse_eq hempty] at h
    split at h
    · rename_i hnames
      cases h
      refine ⟨_, rfl, Text.intercalate_split '|' input, fun piece hmem => ?_⟩
      exact ⟨Text.not_mem_of_mem_split hmem, hnames piece hmem⟩
    · cases h

/-- What is read from a text is written as that text. -/
theorem text_of_parse {input : String} {set : RuleSet} (h : parse input = .ok set) :
    set.text = input := by
  obtain ⟨pieces, rfl, hinput, -⟩ := exists_pieces_of_parse h
  have hpieces : Rule.text ∘ pieceRule = id := funext text_pieceRule
  rw [text_ofRules, List.map_map, hpieces, List.map_id, hinput]

/-- What is read from a text rule text can spell. -/
theorem expressible_of_parse {input : String} {set : RuleSet} (h : parse input = .ok set) :
    set.Expressible := by
  obtain ⟨pieces, rfl, -, hnames⟩ := exists_pieces_of_parse h
  intro item hmem
  obtain ⟨rule, hrule, rfl⟩ := List.mem_map.mp hmem
  obtain ⟨piece, hpiece, rfl⟩ := List.mem_map.mp hrule
  obtain ⟨hbar, hname⟩ := hnames piece hpiece
  exact ⟨_, rfl, expressible_pieceRule hbar hname⟩

/-- A set that rule text can spell consists of named rules. -/
theorem Expressible.exists_rules {set : RuleSet} (h : set.Expressible) :
    ∃ rules, set = ofRules rules ∧ ∀ rule ∈ rules, rule.Expressible := by
  obtain ⟨items⟩ := set
  induction items with
  | nil => exact ⟨[], rfl, fun rule hmem => nomatch hmem⟩
  | cons item rest ih =>
      obtain ⟨⟨rule, rfl, hrule⟩, hrest⟩ := List.forall_mem_cons.mp h
      obtain ⟨rules, hset, hrules⟩ := ih hrest
      obtain rfl : rest = rules.map .named := RuleSet.mk.inj hset
      exact ⟨rule :: rules, rfl, List.forall_mem_cons.mpr ⟨hrule, hrules⟩⟩

/-- Such a set is read back from its text. -/
theorem parse_text {set : RuleSet} (h : set.Expressible) : parse set.text = .ok set := by
  obtain ⟨rules, rfl, hrules⟩ := h.exists_rules
  by_cases hnil : rules = []
  · rw [hnil]
    rfl
  · have hsplit : Text.split '|' (ofRules rules).text = rules.map Rule.text := by
      rw [text_ofRules]
      refine Text.split_intercalate ?_ (by simpa using hnil)
      intro piece hmem
      obtain ⟨rule, hrule, rfl⟩ := List.mem_map.mp hmem
      exact bar_not_mem_text (hrules rule hrule)
    have hnames : ∀ piece ∈ Text.split '|' (ofRules rules).text, pieceName piece ≠ "" := by
      rw [hsplit]
      intro piece hmem
      obtain ⟨rule, hrule, rfl⟩ := List.mem_map.mp hmem
      have hname : pieceName rule.text = rule.name :=
        congrArg Rule.name (pieceRule_text (hrules rule hrule))
      rw [hname]
      exact (hrules rule hrule).named
    have hne : (ofRules rules).text ≠ "" := by
      intro hempty
      rw [hempty] at hnames
      exact hnames "" List.mem_cons_self rfl
    have hback : rules.map (pieceRule ∘ Rule.text) = rules.map id :=
      List.map_congr_left fun rule hrule => pieceRule_text (hrules rule hrule)
    rw [parse_eq hne, if_pos hnames, hsplit, List.map_map, hback, List.map_id]

/-- A set of named rules is the same as no set but itself. -/
theorem sameItems_named_iff {rules : List Rule} {items : List RuleItem} :
    sameItems (rules.map .named) items = true ↔ items = rules.map .named := by
  induction rules generalizing items with
  | nil => cases items <;> simp [sameItems]
  | cons rule rest ih =>
      cases items with
      | nil => simp [sameItems]
      | cons item others =>
          rw [List.map_cons, sameItems, Bool.and_eq_true, ih, List.cons.injEq]
          cases item with
          | named other =>
              rw [RuleItem.same, beq_iff_eq, RuleItem.named.injEq, eq_comm (a := rule)]
          | direct predicate => simp [RuleItem.same]

/-- **Rule text and rule sets.** A set is read from a text exactly when the text is the one that is
written for it and its items are named rules with names that are not empty and hold neither bars nor
colons, and with parameters that hold neither bars nor commas. So these sets, and no others, are read
back from their texts, be it as equal sets or as ones that are the same. -/
theorem parse_text_iff_expressible :
    (∀ input set, parse input = .ok set ↔ set.text = input ∧ set.Expressible) ∧
    ∀ set : RuleSet, (parse set.text = .ok set ↔ set.Expressible) ∧
      ((∃ back, parse set.text = .ok back ∧ back.same set = true) ↔ set.Expressible) := by
  refine ⟨fun input set => ⟨?_, ?_⟩, fun set => ⟨⟨expressible_of_parse, parse_text⟩, ?_, ?_⟩⟩
  · exact fun h => ⟨text_of_parse h, expressible_of_parse h⟩
  · rintro ⟨rfl, h⟩
    exact parse_text h
  · rintro ⟨back, hback, hsame⟩
    obtain ⟨rules, rfl, -⟩ := (expressible_of_parse hback).exists_rules
    have hset : set = ofRules rules := congrArg RuleSet.mk (sameItems_named_iff.mp hsame)
    rw [hset]
    exact expressible_of_parse hback
  · intro h
    obtain ⟨rules, rfl, -⟩ := h.exists_rules
    exact ⟨_, parse_text h, sameItems_named_iff.mpr rfl⟩

end RuleSet

end DocRules
