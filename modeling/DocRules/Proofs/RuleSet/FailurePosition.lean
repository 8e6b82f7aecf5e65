import DocRules.Proofs.RuleSet.Shorthand

/-! Where rule text is rejected. A text is rejected on account of its first rule without a name, and at
the place of that rule: at its start, or just behind the bar in front of the rule. The rules before
that bar can be read, and what follows the place has no part in it as long as no name comes first. -/

namespace DocRules

namespace Shorthand

/-- No name comes first in a text: it is empty, or starts with a bar or a colon. -/
def Nameless (text : String) : Prop := ∀ c ∈ text.toList.head?, c = '|' ∨ c = ':'

/-- All pieces of a text between bars have a name. -/
def Named (text : String) : Prop := ∀ piece ∈ Text.split '|' text, pieceName piece ≠ ""

instance (text : String) : Decidable (Named text) :=
  inferInstanceAs (Decidable (∀ piece ∈ Text.split '|' text, pieceName piece ≠ ""))

/-- The position in bytes of the first rule without a name: the start of the text, or the place just
behind a bar that has only rules with names in front of it. -/
inductive UnnamedAt (input : String) : Nat → Prop where
  | start {piece rest} : Text.split '|' input = piece :: rest → pieceName piece = "" →
      UnnamedAt input 0
  | behindBar {front behind piece rest} : input = front ++ "|" ++ behind → Named front →
      Text.split '|' behind = piece :: rest → pieceName piece = "" →
      UnnamedAt input (front ++ "|").utf8ByteSize

variable {input : String}

theorem nameless_empty : Nameless "" := by simp [Nameless]

theorem toList_of_split {piece : String} {rest : List String}
    (h : Text.split '|' input = piece :: rest) :
    input.toList = piece.toList ++ barred rest := by
  rw [← toList_intercalate_eq_barred, ← h]
  exact congrArg String.toList (Text.intercalate_split '|' input).symm

/-- Whether the first piece of a text has a name shows in the first character. -/
theorem nameless_iff :
    Nameless input ↔ ∃ piece rest, Text.split '|' input = piece :: rest ∧ pieceName piece = "" := by
  constructor
  · intro hnameless
    obtain ⟨piece, rest, hsplit⟩ := List.exists_cons_of_ne_nil (Text.split_ne_nil '|' input)
    refine ⟨piece, rest, hsplit, ?_⟩
    rw [Nameless, toList_of_split hsplit] at hnameless
    have hbar : '|' ∉ piece.toList := Text.not_mem_of_mem_split (hsplit ▸ List.mem_cons_self)
    rw [pieceName]
    cases hpiece : piece.toList with
    | nil => rfl
    | cons c others =>
        rw [hpiece] at hnameless hbar
        rcases hnameless c rfl with rfl | rfl
        · exact absurd List.mem_cons_self hbar
        · rfl
  · intro h
    obtain ⟨piece, rest, hsplit, hname⟩ := h
    rw [Nameless, toList_of_split hsplit]
    exact head_of_unnamed hname rest

theorem not_named_of_nameless (h : Nameless input) : ¬Named input := by
  obtain ⟨piece, rest, hsplit, hname⟩ := nameless_iff.mp h
  exact fun hnamed => hnamed piece (hsplit ▸ List.mem_cons_self) hname

theorem fromUnnamed_of_nameless (h : Nameless input) :
    fromUnnamed (Text.split '|' input) = input.toList := by
  obtain ⟨piece, rest, hsplit, hname⟩ := nameless_iff.mp h
  rw [toList_of_split hsplit, hsplit, fromUnnamed, if_pos hname]

/-- Pieces with names are passed over. -/
theorem fromUnnamed_append {before after : List String}
    (h : ∀ piece ∈ before, pieceName piece ≠ "") :
    fromUnnamed (before ++ after) = fromUnnamed after := by
  induction before with
  | nil => rfl
  | cons piece rest ih =>
      obtain ⟨hpiece, hrest⟩ := List.forall_mem_cons.mp h
      rw [List.cons_append, fromUnnamed, if_neg hpiece, ih hrest]

/-- If not all pieces have names, one of them is the first without. -/
theorem exists_unnamedAt (h : ¬Named input) : ∃ offset, UnnamedAt input offset := by
  cases hfound : (Text.split '|' input).find? (fun piece => pieceName piece == "") with
  | none =>
      have hnamed : Named input := fun piece hmem hname =>
        List.find?_eq_none.mp hfound piece hmem (beq_iff_eq.mpr hname)
      exact absurd hnamed h
  | some piece =>
      obtain ⟨hname, before, after, hsplit, hbefore⟩ := List.find?_eq_some_iff_append.mp hfound
      by_cases hnil : before = []
      · subst hnil
        exact ⟨0, .start hsplit (eq_of_beq hname)⟩
      · obtain ⟨front, behind, hinput, hfront, hbehind⟩ :=
          Text.exists_append_of_split hsplit hnil (List.cons_ne_nil piece after)
        have hnamed : Named front := by
          rw [Named, hfront]
          exact fun earlier hmem => by simpa using hbefore earlier hmem
        exact ⟨_, .behindBar hinput hnamed hbehind (eq_of_beq hname)⟩

end Shorthand

open Shorthand

namespace RuleSet

variable {input front behind : String} {error : ParseError}

theorem parse_of_named (h : Named input) : ∃ set, parse input = .ok set := by
  have hne : input ≠ "" := by
    rintro rfl
    exact not_named_of_nameless nameless_empty h
  exact ⟨_, (parse_eq hne).trans (if_pos h)⟩

theorem parse_of_not_named (hne : input ≠ "") (h : ¬Named input) :
    parse input = .error ⟨input, Text.byteLength input.toList -
      Text.byteLength (fromUnnamed (Text.split '|' input))⟩ :=
  (parse_eq hne).trans (if_neg h)

theorem parse_of_nameless (hne : input ≠ "") (h : Nameless input) :
    parse input = .error ⟨input, 0⟩ := by
  rw [parse_of_not_named hne (not_named_of_nameless h), fromUnnamed_of_nameless h, Nat.sub_self]

/-- Behind rules with names and a bar, a text in which no name comes first is rejected where it
starts. -/
theorem parse_of_named_of_nameless (hfront : Named front) (hbehind : Nameless behind) :
    parse (front ++ "|" ++ behind) =
      .error ⟨front ++ "|" ++ behind, (front ++ "|").utf8ByteSize⟩ := by
  have hsplit : Text.split '|' (front ++ "|" ++ behind) =
      Text.split '|' front ++ Text.split '|' behind := Text.split_append '|' front behind
  have hnamed : ¬Named (front ++ "|" ++ behind) := by
    intro hall
    rw [Named, hsplit] at hall
    exact not_named_of_nameless hbehind fun piece hmem =>
      hall piece (List.mem_append_right _ hmem)
  have hne : front ++ "|" ++ behind ≠ "" := by
    intro hempty
    simp at hempty
  rw [parse_of_not_named hne hnamed, hsplit, fromUnnamed_append hfront,
    fromUnnamed_of_nameless hbehind, Text.byteLength_toList, Text.byteLength_toList,
    String.utf8ByteSize_append (s := front ++ "|"), Nat.add_sub_cancel]

theorem parse_of_unnamedAt {offset : Nat} (hne : input ≠ "") (h : UnnamedAt input offset) :
    parse input = .error ⟨input, offset⟩ := by
  cases h with
  | start hsplit hname => exact parse_of_nameless hne (nameless_iff.mpr ⟨_, _, hsplit, hname⟩)
  | behindBar hinput hfront hsplit hname =>
      rw [hinput]
      exact parse_of_named_of_nameless hfront (nameless_iff.mpr ⟨_, _, hsplit, hname⟩)

/-- A text is rejected exactly at its first rule without a name. -/
theorem parse_eq_error_iff :
    parse input = .error error ↔
      input ≠ "" ∧ error.input = input ∧ UnnamedAt input error.offset := by
  constructor
  · intro h
    have hne : input ≠ "" := by
      rintro rfl
      cases h
    have hnamed : ¬Named input := by
      intro hall
      obtain ⟨set, hset⟩ := parse_of_named hall
      rw [hset] at h
      cases h
    obtain ⟨offset, hat⟩ := exists_unnamedAt hnamed
    rw [parse_of_unnamedAt hne hat] at h
    cases h
    exact ⟨hne, rfl, hat⟩
  · rintro ⟨hne, rfl, hat⟩
    exact parse_of_unnamedAt hne hat

/-- Cut at its failure, a text that starts with a name has a bar in front of the cut, and only rules
with names in front of that bar. -/
theorem front_of_unnamedAt {head tail : String} {offset : Nat} (hcut : input = head ++ tail)
    (hat : UnnamedAt input offset) (hsize : head.utf8ByteSize = offset) (hne : head ≠ "") :
    ∃ front, head = front ++ "|" ∧ Named front := by
  cases hat with
  | start _ _ => exact absurd (String.utf8ByteSize_eq_zero_iff.mp hsize) hne
  | @behindBar front behind _ _ hinput hfront _ _ =>
      rw [hinput] at hcut
      exact ⟨front, (Text.append_inj_of_utf8ByteSize hcut hsize.symm).1.symm, hfront⟩

/-- **Where rule text is rejected.** The error holds the text as it was given and the position in bytes
of the first rule without a name, which is the start of the text or the place just behind a bar. In the
second case the text before that bar is accepted, and whatever stands in the place of the text from the
position on, be it nothing or a text that starts with a bar or a colon, is rejected at the same
position. -/
theorem parse_error_position (input : String) :
    (∀ error, parse input = .error error ↔
      input ≠ "" ∧ error.input = input ∧ UnnamedAt input error.offset) ∧
    ∀ error head tail, parse input = .error error → input = head ++ tail →
      head.utf8ByteSize = error.offset → head ≠ "" →
      (∃ front set, head = front ++ "|" ∧ parse front = .ok set) ∧
        ∀ other, Nameless other →
          parse (head ++ other) = .error ⟨head ++ other, error.offset⟩ := by
  refine ⟨fun error => parse_eq_error_iff, ?_⟩
  intro error head tail herror hcut hsize hne
  obtain ⟨-, -, hat⟩ := parse_eq_error_iff.mp herror
  obtain ⟨front, rfl, hfront⟩ := front_of_unnamedAt hcut hat hsize hne
  obtain ⟨set, hset⟩ := parse_of_named hfront
  refine ⟨⟨front, set, rfl, hset⟩, fun other hother => ?_⟩
  rw [← hsize]
  exact parse_of_named_of_nameless hfront hother

/-- A text whose third rule has no name, with characters of two bytes in front of it. -/
def unnamedThird : String := "größe|in:a,ä||min:1"

theorem unnamedThird_rejected :
    parse unnamedThird = .error ⟨unnamedThird, 16⟩ ∧
      unnamedThird = "größe|in:a,ä|" ++ "|min:1" ∧ Nameless ":1" ∧
      parse ("größe|in:a,ä|" ++ ":1") = .error ⟨"größe|in:a,ä|" ++ ":1", 16⟩ := by
  have hnamed : Named "größe|in:a,ä" := by decide
  have hat : UnnamedAt unnamedThird 16 :=
    @UnnamedAt.behindBar _ "größe|in:a,ä" "|min:1" "" ["min:1"] rfl hnamed rfl rfl
  have hread : parse unnamedThird = .error ⟨unnamedThird, 16⟩ :=
    ((parse_error_position unnamedThird).1 _).mpr ⟨by decide, rfl, hat⟩
  have hnameless : Nameless ":1" := by simp [Nameless]
  obtain ⟨-, hother⟩ :=
    (parse_error_position unnamedThird).2 _ "größe|in:a,ä|" "|min:1" hread rfl rfl (by decide)
  exact ⟨hread, rfl, hnameless, hother ":1" hnameless⟩

end RuleSet

end DocRules
