import Mathlib.Data.List.TakeWhile
import DocRules.RuleSet.Reader

/-! What the reader of rule text makes of a text: it cuts the text at its bars and takes every piece
for a rule, the name up to the first colon and the parameters behind it. The text is accepted if
every piece has a name, and otherwise the failure is reported at the first piece without one. -/

namespace DocRules

namespace Shorthand

/-- The name that a piece of rule text spells: the text before its first colon. -/
def pieceName (piece : String) : String :=
  String.ofList (piece.toList.takeWhile (· != ':'))

/-- The parameters that a piece of rule text spells: the text behind its first colon, cut at the
commas. Without a colon there are none. -/
def pieceParameters (piece : String) : List String :=
  match piece.toList.dropWhile (· != ':') with
  | [] => []
  | _ :: parameters => Text.split ',' (String.ofList parameters)

/-- The rule that a piece of rule text spells. -/
def pieceRule (piece : String) : Rule := ⟨pieceName piece, pieceParameters piece⟩

/-- Pieces with a bar in front of each. -/
def barred (pieces : List String) : List Char := pieces.flatMap fun piece => '|' :: piece.toList

/-- The text from the first piece without a name on. -/
def fromUnnamed : List String → List Char
  | [] => []
  | piece :: rest => if pieceName piece = "" then piece.toList ++ barred rest else fromUnnamed rest

@[simp] theorem barred_nil : barred [] = [] := rfl

@[simp] theorem barred_cons (piece : String) (rest : List String) :
    barred (piece :: rest) = '|' :: (piece.toList ++ barred rest) := rfl

/-- The text of some pieces with bars between them. -/
theorem toList_intercalate_eq_barred (piece : String) (rest : List String) :
    ("|".intercalate (piece :: rest)).toList = piece.toList ++ barred rest := by
  rw [String.toList_intercalate]
  induction rest generalizing piece with
  | nil => simp
  | cons next rest ih =>
      have hrest := ih next
      rw [List.map_cons] at hrest
      rw [List.map_cons, List.map_cons, List.intercalate_cons_cons, hrest, barred_cons,
        List.append_assoc]
      rfl

theorem bne_colon_of_not_mem {name : List Char} (h : ':' ∉ name) :
    ∀ c ∈ name, (c != ':') = true := by
  intro c hmem
  exact bne_iff_ne.mpr fun heq => h (heq ▸ hmem)

theorem pieceRule_of_not_mem {piece : String} (h : ':' ∉ piece.toList) :
    pieceRule piece = ⟨piece, []⟩ := by
  have hname := bne_colon_of_not_mem h
  rw [pieceRule, pieceName, pieceParameters, List.takeWhile_eq_self_iff.mpr hname,
    List.dropWhile_eq_nil_iff.mpr hname, String.ofList_toList]

theorem pieceRule_of_colon {piece : String} {name parameters : List Char} (hcolon : ':' ∉ name)
    (hpiece : piece.toList = name ++ ':' :: parameters) :
    pieceRule piece = ⟨String.ofList name, Text.split ',' (String.ofList parameters)⟩ := by
  have hstop : ∀ c ∈ (':' :: parameters).head?, (c != ':') = false := by simp
  obtain ⟨htake, hdrop⟩ := Reader.takeWhile_append_of_stop (bne_colon_of_not_mem hcolon) hstop
  rw [pieceRule, pieceName, pieceParameters, hpiece, htake, hdrop]

/-- A piece without a colon is a name, any other one has parameters behind the first colon. -/
theorem piece_cases (piece : String) : ∃ name : List Char, ':' ∉ name ∧
    pieceName piece = String.ofList name ∧
    (piece.toList = name ∧ pieceParameters piece = [] ∨
      ∃ parameters, piece.toList = name ++ ':' :: parameters ∧
        pieceParameters piece = Text.split ',' (String.ofList parameters)) := by
  by_cases hcolon : ':' ∈ piece.toList
  · obtain ⟨name, parameters, hpiece, hname⟩ := List.eq_append_cons_of_mem hcolon
    have hrule := pieceRule_of_colon hname hpiece
    exact ⟨name, hname, congrArg Rule.name hrule,
      .inr ⟨parameters, hpiece, congrArg Rule.parameters hrule⟩⟩
  · have hrule := pieceRule_of_not_mem hcolon
    refine ⟨piece.toList, hcolon, ?_, .inl ⟨rfl, congrArg Rule.parameters hrule⟩⟩
    rw [String.ofList_toList]
    exact congrArg Rule.name hrule

theorem head_barred (rest : List String) : ∀ c ∈ (barred rest).head?, c = '|' := by
  cases rest <;> simp

/-- The name of a rule goes up to a bar, a colon or the end of the text. -/
theorem run_ruleName {name behind : List Char} (hbar : '|' ∉ name) (hcolon : ':' ∉ name)
    (hne : name ≠ []) (hbehind : ∀ c ∈ behind.head?, c = '|' ∨ c = ':') :
    ruleName.run (name ++ behind) = .done (String.ofList name) behind := by
  have hname : ∀ c ∈ name, (c != ruleSeparator && c != parameterMarker) = true := by
    intro c hmem
    have hc : c ≠ '|' ∧ c ≠ ':' := ⟨fun h => hbar (h ▸ hmem), fun h => hcolon (h ▸ hmem)⟩
    simp [ruleSeparator, parameterMarker, hc]
  refine Reader.run_bind_done (Reader.run_takeWhile1 hname ?_ hne) _
  intro c hmem
  rcases hbehind c hmem with rfl | rfl <;> rfl

theorem run_ruleName_failed {behind : List Char} (hbehind : ∀ c ∈ behind.head?, c = '|' ∨ c = ':') :
    ruleName.run behind = .failed behind := by
  refine Reader.run_bind_failed (Reader.run_takeWhile1_failed ?_) _
  intro c hmem
  rcases hbehind c hmem with rfl | rfl <;> rfl

/-- Without a colon nothing is taken for parameters. -/
theorem run_parameterList_barred (rest : List String) :
    (Reader.opt parameterList).run (barred rest) = .done none (barred rest) := by
  cases rest <;> rfl

/-- The parameters of a rule go up to a bar or the end of the text. -/
theorem run_parameterList_colon {parameters : List Char} (hbar : '|' ∉ parameters)
    (rest : List String) :
    parameterList.run (':' :: (parameters ++ barred rest)) =
      .done (Text.split ',' (String.ofList parameters)) (barred rest) := by
  have hparameters : ∀ c ∈ parameters, (c != ruleSeparator) = true := by
    intro c hmem
    have hc : c ≠ '|' := fun h => hbar (h ▸ hmem)
    simp [ruleSeparator, hc]
  have hstop : ∀ c ∈ (barred rest).head?, (c != ruleSeparator) = false := by
    intro c hmem
    rw [head_barred rest c hmem]
    rfl
  refine Reader.run_bind_done ?_ _
  exact (Reader.run_preceded_char ':' _ _).trans (Reader.run_takeWhile hparameters hstop)

/-- A rule is read off a piece that has a name. -/
theorem run_rule_done {piece : String} (hbar : '|' ∉ piece.toList) (hname : pieceName piece ≠ "")
    (rest : List String) :
    rule.run (piece.toList ++ barred rest) = .done (pieceRule piece) (barred rest) := by
  obtain ⟨name, hcolon, hpieceName, hpiece⟩ := piece_cases piece
  have hne : name ≠ [] := by
    rintro rfl
    exact hname hpieceName
  rw [pieceRule, hpieceName, rule]
  rcases hpiece with ⟨hpiece, hparameters⟩ | ⟨parameters, hpiece, hparameters⟩
  · rw [hpiece] at hbar ⊢
    have hread := run_ruleName hbar hcolon hne fun c hmem => .inl (head_barred rest c hmem)
    rw [Reader.run_bind_done hread, Reader.run_bind_done (run_parameterList_barred rest),
      hparameters]
    rfl
  · rw [hpiece, List.mem_append, not_or] at hbar
    have hparameterBar : '|' ∉ parameters := fun h => hbar.2 (List.mem_cons_of_mem ':' h)
    have hcolonBehind : ∀ c ∈ (':' :: (parameters ++ barred rest)).head?, c = '|' ∨ c = ':' := by
      simp
    have hread := run_ruleName hbar.1 hcolon hne hcolonBehind
    have hopt := Reader.run_opt_done (run_parameterList_colon hparameterBar rest)
    rw [hpiece, List.append_assoc, List.cons_append, Reader.run_bind_done hread,
      Reader.run_bind_done hopt, hparameters]
    rfl

/-- In front of a piece without a name stands nothing, a bar or a colon. -/
theorem head_of_unnamed {piece : String} (hname : pieceName piece = "") (rest : List String) :
    ∀ c ∈ (piece.toList ++ barred rest).head?, c = '|' ∨ c = ':' := by
  obtain ⟨name, hcolon, hpieceName, hpiece⟩ := piece_cases piece
  obtain rfl : name = [] := by
    rw [hpieceName, ← String.toList_inj, String.toList_ofList] at hname
    exact hname
  intro c hmem
  rcases hpiece with ⟨hpiece, -⟩ | ⟨parameters, hpiece, -⟩
  · rw [hpiece, List.nil_append] at hmem
    exact .inl (head_barred rest c hmem)
  · rw [hpiece] at hmem
    simp at hmem
    exact .inr hmem.symm

/-- No rule is read off a piece without a name. -/
theorem run_rule_failed {piece : String} (hname : pieceName piece = "") (rest : List String) :
    rule.run (piece.toList ++ barred rest) = .failed (piece.toList ++ barred rest) :=
  Reader.run_bind_failed (run_ruleName_failed (head_of_unnamed hname rest)) _

/-- The reader of a rule behind a bar. -/
def barredRule : Reader Rule := Reader.preceded (Reader.char ruleSeparator) (Reader.commit rule)

theorem run_barredRule_done {piece : String} (hbar : '|' ∉ piece.toList)
    (hname : pieceName piece ≠ "") (rest : List String) :
    barredRule.run (barred (piece :: rest)) = .done (pieceRule piece) (barred rest) :=
  (Reader.run_preceded_char '|' _ _).trans
    (Reader.run_commit_done (run_rule_done hbar hname rest))

theorem run_barredRule_committed {piece : String} (hname : pieceName piece = "")
    (rest : List String) :
    barredRule.run (barred (piece :: rest)) = .committed (piece.toList ++ barred rest) :=
  (Reader.run_preceded_char '|' _ _).trans (Reader.run_commit_failed (run_rule_failed hname rest))

theorem length_barred_lt (piece : String) (rest : List String) :
    (barred rest).length < (barred (piece :: rest)).length := by
  rw [barred_cons, List.length_cons, List.length_append]
  omega

/-- Behind the first rule all pieces are read, or the reading ends at the first one without a name. -/
theorem run_many_barredRule {pieces : List String} (hbars : ∀ piece ∈ pieces, '|' ∉ piece.toList) :
    barredRule.many.run (barred pieces) =
      if ∀ piece ∈ pieces, pieceName piece ≠ "" then .done (pieces.map pieceRule) []
      else .committed (fromUnnamed pieces) := by
  induction pieces with
  | nil =>
      have hfailed : barredRule.run [] = .failed [] := rfl
      exact Reader.run_many_failed hfailed
  | cons piece rest ih =>
      have hrest := ih fun other hmem => hbars other (List.mem_cons_of_mem piece hmem)
      by_cases hname : pieceName piece = ""
      · have hnot : ¬ ∀ other ∈ piece :: rest, pieceName other ≠ "" :=
          fun h => h piece List.mem_cons_self hname
        rw [if_neg hnot, fromUnnamed, if_pos hname]
        exact Reader.run_many_committed (run_barredRule_committed hname rest)
      · have hdone := run_barredRule_done (hbars piece List.mem_cons_self) hname rest
        rw [Reader.run_many_done hdone (length_barred_lt piece rest), hrest, fromUnnamed,
          if_neg hname]
        by_cases hnames : ∀ other ∈ rest, pieceName other ≠ ""
        · have hall : ∀ other ∈ piece :: rest, pieceName other ≠ "" :=
            List.forall_mem_cons.mpr ⟨hname, hnames⟩
          rw [if_pos hnames, if_pos hall]
          rfl
        · rw [if_neg hnames, if_neg fun h => hnames (List.forall_mem_cons.mp h).2]

/-- A list of rules is read off a text of pieces, or the failure of the first piece is plain and that
of any other one committed. -/
theorem run_ruleList {piece : String} {rest : List String}
    (hbars : ∀ other ∈ piece :: rest, '|' ∉ other.toList) :
    ruleList.run (piece.toList ++ barred rest) =
      if pieceName piece = "" then .failed (piece.toList ++ barred rest)
      else if ∀ other ∈ rest, pieceName other ≠ "" then
        .done (.ofRules ((piece :: rest).map pieceRule)) []
      else .committed (fromUnnamed rest) := by
  by_cases hname : pieceName piece = ""
  · rw [if_pos hname]
    exact Reader.run_bind_failed (run_rule_failed hname rest) _
  · have hrule := run_rule_done (hbars piece List.mem_cons_self) hname rest
    have hmany := run_many_barredRule fun other hmem =>
      hbars other (List.mem_cons_of_mem piece hmem)
    rw [if_neg hname, ruleList, Reader.run_bind_done hrule]
    by_cases hnames : ∀ other ∈ rest, pieceName other ≠ ""
    · rw [if_pos hnames] at hmany ⊢
      exact Reader.run_bind_done hmany _
    · rw [if_neg hnames] at hmany ⊢
      exact Reader.run_bind_committed hmany _

/-- A text of pieces is read to its end if all of them have names. -/
theorem run_wholeText_done {piece : String} {rest : List String}
    (hbars : ∀ other ∈ piece :: rest, '|' ∉ other.toList)
    (hnames : ∀ other ∈ piece :: rest, pieceName other ≠ "") :
    wholeText.run (piece.toList ++ barred rest) =
      .done (.ofRules ((piece :: rest).map pieceRule)) [] := by
  obtain ⟨hname, hrest⟩ := List.forall_mem_cons.mp hnames
  have hlist := run_ruleList hbars
  rw [if_neg hname, if_pos hrest] at hlist
  have hset : ruleSet.run (piece.toList ++ barred rest) =
      .done (.ofRules ((piece :: rest).map pieceRule)) [] :=
    Reader.run_bind_done (Reader.run_opt_done hlist) _
  rw [wholeText, Reader.run_bind_done hset]
  rfl

/-- Otherwise the reading ends at the first piece without a name. If that is the first of all, no
rules are read, and the text is not at its end. -/
theorem run_wholeText_unnamed {piece : String} {rest : List String}
    (hbars : ∀ other ∈ piece :: rest, '|' ∉ other.toList)
    (hne : piece.toList ++ barred rest ≠ [])
    (hnames : ¬ ∀ other ∈ piece :: rest, pieceName other ≠ "") :
    wholeText.run (piece.toList ++ barred rest) = .failed (fromUnnamed (piece :: rest)) ∨
      wholeText.run (piece.toList ++ barred rest) = .committed (fromUnnamed (piece :: rest)) := by
  have hlist := run_ruleList hbars
  rw [fromUnnamed]
  by_cases hname : pieceName piece = ""
  · rw [if_pos hname] at hlist ⊢
    have hset : ruleSet.run (piece.toList ++ barred rest) =
        .done .empty (piece.toList ++ barred rest) :=
      Reader.run_bind_done (Reader.run_opt_failed hlist) _
    obtain ⟨c, others, hcons⟩ := List.exists_cons_of_ne_nil hne
    have hend : Reader.endOfText.run (piece.toList ++ barred rest) =
        .failed (piece.toList ++ barred rest) := by
      rw [hcons]
      rfl
    rw [wholeText, Reader.run_bind_done hset]
    exact .inl (Reader.run_bind_failed hend _)
  · have hrest : ¬ ∀ other ∈ rest, pieceName other ≠ "" :=
      fun h => hnames (List.forall_mem_cons.mpr ⟨hname, h⟩)
    rw [if_neg hname, if_neg hrest] at hlist
    have hset : ruleSet.run (piece.toList ++ barred rest) = .committed (fromUnnamed rest) :=
      Reader.run_bind_committed (Reader.run_opt_committed hlist) _
    rw [if_neg hname]
    exact .inr (Reader.run_bind_committed hset _)

end Shorthand

open Shorthand

/-- What the reader makes of a text, with the position of the failure. -/
theorem RuleSet.parse_eq {input : String} (hne : input ≠ "") :
    RuleSet.parse input =
      if ∀ piece ∈ Text.split '|' input, pieceName piece ≠ "" then
        .ok (.ofRules ((Text.split '|' input).map pieceRule))
      else .error ⟨input, Text.byteLength input.toList -
        Text.byteLength (fromUnnamed (Text.split '|' input))⟩ := by
  have hbars : ∀ piece ∈ Text.split '|' input, '|' ∉ piece.toList :=
    fun piece hmem => Text.not_mem_of_mem_split hmem
  have hjoin : ("|".intercalate (Text.split '|' input)).toList = input.toList :=
    congrArg String.toList (Text.intercalate_split '|' input)
  obtain ⟨piece, rest, hpieces⟩ := List.exists_cons_of_ne_nil (Text.split_ne_nil '|' input)
  rw [hpieces] at hbars hjoin ⊢
  rw [toList_intercalate_eq_barred] at hjoin
  have hchars : piece.toList ++ barred rest ≠ [] := by
    rw [hjoin]
    exact fun h => hne (String.toList_inj.mp h)
  unfold RuleSet.parse
  by_cases hnames : ∀ other ∈ piece :: rest, pieceName other ≠ ""
  · rw [if_pos hnames, ← hjoin, run_wholeText_done hbars hnames]
  · rw [if_neg hnames, ← hjoin]
    rcases run_wholeText_unnamed hbars hchars hnames with hread | hread <;> rw [hread]

/-- **The shorthand grammar.** The empty text is the empty set. Any other text is accepted exactly
when each of its pieces between bars has a name in front of its first colon. Then there is one rule
for each piece, in order, with that name and with the text behind the colon, cut at commas, as its
parameters. -/
theorem RuleSet.parse_spec :
    RuleSet.parse "" = .ok .empty ∧
    ∀ input, input ≠ "" →
      (∀ set, RuleSet.parse input = .ok set ↔
        (∀ piece ∈ Text.split '|' input, pieceName piece ≠ "") ∧
          set = .ofRules ((Text.split '|' input).map pieceRule)) ∧
      ((∃ piece ∈ Text.split '|' input, pieceName piece = "") →
        ∃ error, RuleSet.parse input = .error error) := by
  refine ⟨rfl, fun input hne => ?_⟩
  rw [RuleSet.parse_eq hne]
  constructor
  · intro set
    by_cases hnames : ∀ piece ∈ Text.split '|' input, pieceName piece ≠ ""
    · rw [if_pos hnames, Except.ok.injEq]
      exact ⟨fun hset => ⟨hnames, hset.symm⟩, fun h => h.2.symm⟩
    · rw [if_neg hnames]
      constructor
      · rintro ⟨⟩
      · rintro ⟨hall, -⟩
        exact absurd hall hnames
  · rintro ⟨piece, hmem, hname⟩
    rw [if_neg fun hnames => hnames piece hmem hname]
    exact ⟨_, rfl⟩

end DocRules
