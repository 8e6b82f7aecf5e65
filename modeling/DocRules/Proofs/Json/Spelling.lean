import DocRules.Json.Basic
import DocRules.Proofs.Json.Number
import DocRules.Proofs.Json.Quoted
import Mathlib.Data.List.Forall2

/-! Text that spells a tree. The lexer reads the tokens of a part of a text in the same way whatever
stands behind it, as long as a token may end there, and the builder puts the tokens of a value
together in the same way whatever containers are open around it. So the text of a value without
floating-point numbers spells the tree that is put together from its parts. -/

namespace DocRules.Json

/-- Whether a token may end before a text: at the end of all text and before punctuation. -/
def EndsBefore (rest : List Char) : Prop := ∀ c ∈ rest.head?, (punctuation? c).isSome = true

/-- Whether characters are read as these tokens wherever a token may end behind them. -/
def Reads (chars : List Char) (tokens : List Token) : Prop :=
  ∀ rest, EndsBefore rest →
    Lexer.between.run (chars ++ rest) = (Lexer.between.run rest).map (tokens ++ ·)

theorem mem_of_punctuation {c : Char} (h : (punctuation? c).isSome = true) :
    c ∈ ['[', ']', '\x7b', '\x7d', ',', ':'] := by
  unfold punctuation? at h
  split at h <;> simp at h ⊢

theorem not_number_of_punctuation {c : Char} (h : (punctuation? c).isSome = true) :
    isNumberChar c = false := by
  have hnone : ['[', ']', '\x7b', '\x7d', ',', ':'].any isNumberChar = false := by decide
  exact eq_false_of_ne_true (List.any_eq_false.mp hnone c (mem_of_punctuation h))

theorem not_lower_of_punctuation {c : Char} (h : (punctuation? c).isSome = true) :
    c.isLower = false := by
  have hnone : ['[', ']', '\x7b', '\x7d', ',', ':'].any Char.isLower = false := by decide
  exact eq_false_of_ne_true (List.any_eq_false.mp hnone c (mem_of_punctuation h))

theorem start_of_punctuation {c : Char} {token : Token} (h : punctuation? c = some token) :
    Lexer.start c = some ([token], .between) := by
  have hsome : (punctuation? c).isSome = true := by rw [h]; rfl
  have hnone : ['[', ']', '\x7b', '\x7d', ',', ':'].any (fun c => isBlank c || c == '"') = false := by
    decide
  have hplain := List.any_eq_false.mp hnone c (mem_of_punctuation hsome)
  rw [Bool.or_eq_true, not_or, beq_iff_eq] at hplain
  rw [Lexer.start, if_neg hplain.1, if_neg hplain.2, h]

/-- A token that is complete before punctuation and at the end of the text is answered there. -/
theorem run_of_complete {lexer : Lexer} {token : Token} (hfinish : lexer.finish = some [token])
    (hstep : ∀ c, (punctuation? c).isSome = true → lexer.step c = Lexer.startAfter (some token) c)
    {rest : List Char} (hrest : EndsBefore rest) :
    lexer.run rest = (Lexer.between.run rest).map (token :: ·) := by
  cases rest with
  | nil => rw [Lexer.run, hfinish, Lexer.run, Lexer.finish, Option.map_some]
  | cons c others =>
      obtain ⟨mark, hmark⟩ := Option.isSome_iff_exists.mp (hrest c rfl)
      have hstart := start_of_punctuation hmark
      have hbetween : Lexer.between.step c = some ([mark], .between) := hstart
      have hafter : lexer.step c = some ([token, mark], .between) := by
        simp only [hstep c (hrest c rfl), Lexer.startAfter, hstart]
      rw [run_cons_of_step hafter, run_cons_of_step hbetween, Option.map_map]
      rfl

theorem Reads.nil : Reads [] [] := by
  intro rest _
  rw [List.nil_append]
  cases Lexer.between.run rest <;> rfl

/-- What stands on the two sides of punctuation is read on its own. -/
theorem Reads.punctuated {left right : List Char} {before after : List Token} {c : Char}
    {token : Token} (hleft : Reads left before) (hc : punctuation? c = some token)
    (hright : Reads right after) : Reads (left ++ c :: right) (before ++ token :: after) := by
  intro rest hrest
  have hends : EndsBefore (c :: (right ++ rest)) := by
    intro first hfirst
    cases hfirst
    rw [hc]
    rfl
  have hstart : Lexer.between.step c = some ([token], .between) := start_of_punctuation hc
  have hmark : Lexer.between.run (c :: (right ++ rest)) =
      (Lexer.between.run (right ++ rest)).map (token :: ·) := run_cons_of_step hstart _
  rw [List.append_assoc, List.cons_append, hleft _ hends, hmark, hright rest hrest, Option.map_map,
    Option.map_map]
  congr 1
  funext tokens
  simp

theorem reads_quote (text : String) : Reads (quote text).toList [.string (pieces text)] :=
  fun rest _ => run_quote text rest

section Pending

variable {state : List Char → Lexer} {first : Char} {others : List Char}

/-- Characters that belong to a token are gathered until it ends. -/
theorem run_gathered (read : List Char) {chars : List Char}
    (hstep : ∀ c ∈ chars, ∀ read, (state read).step c = some ([], state (c :: read)))
    (rest : List Char) :
    (state read).run (chars ++ rest) = (state (chars.reverse ++ read)).run rest := by
  induction chars generalizing read with
  | nil => rfl
  | cons c others ih =>
      obtain ⟨hc, hothers⟩ := List.forall_mem_cons.mp hstep
      rw [List.cons_append, run_cons_of_silent (hc read), ih _ hothers, List.reverse_cons,
        List.append_assoc, List.singleton_append]

/-- A word or a number is read as one token, which ends where none of its characters follows. -/
theorem reads_gathered {token : Token} (hstart : Lexer.start first = some ([], state [first]))
    (hstep : ∀ c ∈ others, ∀ read, (state read).step c = some ([], state (c :: read)))
    (hfinish : (state (first :: others).reverse).finish = some [token])
    (hend : ∀ c, (punctuation? c).isSome = true →
      (state (first :: others).reverse).step c = Lexer.startAfter (some token) c) :
    Reads (first :: others) [token] := by
  intro rest hrest
  have hopen : Lexer.between.step first = some ([], state [first]) := hstart
  rw [List.cons_append, run_cons_of_silent hopen, run_gathered _ hstep]
  rw [List.reverse_cons] at hfinish hend
  exact run_of_complete hfinish hend hrest

end Pending

/-- A word of lower-case letters is read as its token. -/
theorem reads_word {first : Char} {others : List Char} {token : Token}
    (hstart : Lexer.start first = some ([], .word [first]))
    (hlower : others.all Char.isLower = true) (hword : word? (first :: others) = some token) :
    Reads (first :: others) [token] := by
  refine reads_gathered hstart (fun c hc read => ?_) ?_ (fun c hc => ?_)
  · rw [Lexer.step, if_pos (List.all_eq_true.mp hlower c hc)]
  · rw [Lexer.finish, List.reverse_reverse, hword, Option.map_some]
  · rw [Lexer.step, not_lower_of_punctuation hc, if_neg Bool.false_ne_true, List.reverse_reverse,
      hword]

theorem start_of_number {c : Char} (h : c.isDigit = true ∨ c = '-') :
    Lexer.start c = some ([], .number [c]) := by
  rcases h with hdigit | rfl
  · have hother : ∀ other : Char, other.isDigit = false → c ≠ other := by
      rintro other hother rfl
      rw [hdigit] at hother
      cases hother
    have hpunctuation : punctuation? c = none := by
      unfold punctuation?
      split <;> first | rfl | cases hdigit
    have hblank : isBlank c = false := by simp [isBlank, hother]
    rw [Lexer.start, hblank, if_neg Bool.false_ne_true, if_neg (hother _ (by decide)), hpunctuation]
    simp [hdigit]
  · decide

theorem reads_integer (n : Int) : Reads (toString n).toList [.number (.ofInteger n)] := by
  obtain ⟨first, others, hlist, hfirst, hothers⟩ := Number.toString_chars n
  have hchars := Number.ofChars?_toString n
  rw [hlist] at hchars ⊢
  refine reads_gathered (start_of_number hfirst) (fun c hc read => ?_) ?_ (fun c hc => ?_)
  · rw [Lexer.step, if_pos (hothers c hc)]
  · rw [Lexer.finish, List.reverse_reverse, hchars, Option.map_some]
  · rw [Lexer.step, not_number_of_punctuation hc, if_neg Bool.false_ne_true, List.reverse_reverse,
      hchars, Option.map_some]

/-- Parts with commas between them are read one after another. -/
theorem reads_intercalate {texts : List (List Char)} {lists : List (List Token)}
    (h : List.Forall₂ Reads texts lists) :
    Reads ([','].intercalate texts) ([.comma].intercalate lists) := by
  induction h with
  | nil => exact Reads.nil
  | @cons text tokens texts lists hfirst hrest ih =>
      cases hrest with
      | nil =>
          rw [List.intercalate_singleton, List.intercalate_singleton]
          exact hfirst
      | cons _ _ =>
          rw [List.intercalate_cons_cons, List.intercalate_cons_cons, List.append_assoc,
            List.append_assoc]
          exact hfirst.punctuated rfl ih

/-- Whether tokens are put together to this tree wherever a value is waited for. -/
def Builds (tokens : List Token) (tree : Tree) : Prop :=
  ∀ frames rest, (Builder.value frames).run (tokens ++ rest) = (Builder.complete tree frames).run rest

/-- Whether tokens are a key, a colon and the value of a member. -/
def BuildsMember (tokens : List Token) (member : List Piece × Tree) : Prop :=
  ∃ value, tokens = .string member.1 :: .colon :: value ∧ Builds value member.2

/-- The tokens of a value do not start with the end of an array. -/
theorem Builds.exists_head {tokens : List Token} {tree : Tree} (h : Builds tokens tree) :
    ∃ first others, tokens = first :: others ∧ first ≠ .closeArray := by
  have hdone : (Builder.value []).run (tokens ++ []) = some (.done tree) := h [] []
  cases tokens with
  | nil => cases hdone
  | cons first others =>
      refine ⟨first, others, rfl, ?_⟩
      rintro rfl
      cases hdone

/-- The first item of an array is read as any other. -/
theorem Builds.run_item {tokens : List Token} {tree : Tree} (h : Builds tokens tree)
    (frames : List Frame) (rest : List Token) :
    (Builder.item frames).run (tokens ++ rest) =
      (Builder.value (.array [] :: frames)).run (tokens ++ rest) := by
  obtain ⟨first, others, rfl, hfirst⟩ := h.exists_head
  cases first with
  | closeArray => exact absurd rfl hfirst
  | openArray | openObject | closeObject | comma | colon | null | bool _ | number _ | string _ => rfl

theorem run_items {lists : List (List Token)} {trees : List Tree}
    (h : List.Forall₂ Builds lists trees) (hne : lists ≠ []) (done : List Tree)
    (frames : List Frame) (rest : List Token) :
    (Builder.value (.array done :: frames)).run ([.comma].intercalate lists ++ .closeArray :: rest) =
      (Builder.complete (.array (done.reverse ++ trees)) frames).run rest := by
  induction h generalizing done with
  | nil => exact absurd rfl hne
  | @cons tokens tree lists trees hfirst hrest ih =>
      cases hrest with
      | nil =>
          rw [List.intercalate_singleton, hfirst]
          simp [Builder.complete, Builder.run, Builder.step]
      | cons _ _ =>
          have hcomma : ∀ more, (Builder.afterItem (tree :: done) frames).run (.comma :: more) =
              (Builder.value (.array (tree :: done) :: frames)).run more := fun _ => rfl
          rw [List.intercalate_cons_cons, List.append_assoc, List.append_assoc, hfirst,
            List.singleton_append, Builder.complete, hcomma, ih (List.cons_ne_nil _ _),
            List.reverse_cons, List.append_assoc, List.singleton_append]

theorem builds_array {lists : List (List Token)} {trees : List Tree}
    (h : List.Forall₂ Builds lists trees) :
    Builds (.openArray :: ([.comma].intercalate lists ++ [.closeArray])) (.array trees) := by
  intro frames rest
  have hopen : ∀ more, (Builder.value frames).run (.openArray :: more) =
      (Builder.item frames).run more := fun _ => rfl
  rw [List.cons_append, hopen, List.append_assoc, List.singleton_append]
  cases h with
  | nil => rfl
  | @cons tokens tree lists trees hfirst hrest =>
      have hitems := run_items (.cons hfirst hrest) (List.cons_ne_nil _ _) [] frames rest
      rw [List.reverse_nil, List.nil_append] at hitems
      rw [← hitems]
      cases lists with
      | nil =>
          rw [List.intercalate_singleton]
          exact hfirst.run_item frames _
      | cons next lists =>
          rw [List.intercalate_cons_cons, List.append_assoc, List.append_assoc]
          exact hfirst.run_item frames _

theorem run_members {lists : List (List Token)} {members : List (List Piece × Tree)}
    (h : List.Forall₂ BuildsMember lists members) (hne : lists ≠ [])
    (done : List (List Piece × Tree)) (frames : List Frame) (rest : List Token) :
    (Builder.nextKey done frames).run ([.comma].intercalate lists ++ .closeObject :: rest) =
      (Builder.complete (.object (done.reverse ++ members)) frames).run rest := by
  induction h generalizing done with
  | nil => exact absurd rfl hne
  | @cons tokens member lists members hfirst hrest ih =>
      obtain ⟨key, tree⟩ := member
      obtain ⟨value, rfl, hvalue⟩ := hfirst
      have hkey : ∀ more, (Builder.nextKey done frames).run (.string key :: .colon :: more) =
          (Builder.value (.object done key :: frames)).run more := fun _ => rfl
      cases hrest with
      | nil =>
          rw [List.intercalate_singleton, List.cons_append, List.cons_append, hkey, hvalue]
          simp [Builder.complete, Builder.run, Builder.step]
      | cons _ _ =>
          have hcomma : ∀ more,
              (Builder.afterMember ((key, tree) :: done) frames).run (.comma :: more) =
                (Builder.nextKey ((key, tree) :: done) frames).run more := fun _ => rfl
          rw [List.intercalate_cons_cons]
          simp only [List.cons_append, List.append_assoc, List.nil_append]
          rw [hkey, hvalue, Builder.complete, hcomma, ih (List.cons_ne_nil _ _),
            List.reverse_cons, List.append_assoc, List.singleton_append]

theorem builds_object {lists : List (List Token)} {members : List (List Piece × Tree)}
    (h : List.Forall₂ BuildsMember lists members) :
    Builds (.openObject :: ([.comma].intercalate lists ++ [.closeObject])) (.object members) := by
  intro frames rest
  have hopen : ∀ more, (Builder.value frames).run (.openObject :: more) =
      (Builder.member frames).run more := fun _ => rfl
  rw [List.cons_append, hopen, List.append_assoc, List.singleton_append]
  cases h with
  | nil => rfl
  | @cons tokens member lists members hfirst hrest =>
      have hmembers := run_members (.cons hfirst hrest) (List.cons_ne_nil _ _) [] frames rest
      rw [List.reverse_nil, List.nil_append] at hmembers
      rw [← hmembers]
      obtain ⟨value, rfl, -⟩ := hfirst
      cases lists <;> rfl

/-- Whether characters spell a tree, in whatever context a value may stand. -/
def Spells (chars : List Char) (tree : Tree) : Prop :=
  ∃ tokens, Reads chars tokens ∧ Builds tokens tree

/-- Whether characters spell a member: a quoted key, a colon and a value. -/
def SpellsMember (chars : List Char) (member : List Piece × Tree) : Prop :=
  ∃ key value, chars = (quote key).toList ++ ':' :: value ∧ member.1 = pieces key ∧
    Spells value member.2

/-- A text that spells a tree is read as it. -/
theorem Spells.ofText? {text : String} {tree : Tree} (h : Spells text.toList tree) :
    Tree.ofText? text = some tree := by
  obtain ⟨tokens, hreads, hbuilds⟩ := h
  have htokens := hreads [] (fun c hc => nomatch hc)
  have htree := hbuilds [] []
  rw [List.append_nil] at htokens htree
  have hend : Lexer.between.run [] = some [] := rfl
  rw [Tree.ofText?, tokens?, htokens, hend, Option.map_some, List.append_nil, Option.bind_some,
    Tree.ofTokens?, htree]
  rfl

theorem SpellsMember.exists_tokens {chars : List Char} {member : List Piece × Tree}
    (h : SpellsMember chars member) :
    ∃ tokens, Reads chars tokens ∧ BuildsMember tokens member := by
  obtain ⟨key, value, rfl, hkey, tokens, hreads, hbuilds⟩ := h
  have hmember := (reads_quote key).punctuated (c := ':') rfl hreads
  rw [← hkey] at hmember
  exact ⟨_, hmember, tokens, rfl, hbuilds⟩

/-- If the members of two lists have something between them, there is a list of what is between. -/
theorem exists_middles {α β γ : Type} {before : α → β → Prop} {after : β → γ → Prop}
    {around : α → γ → Prop} {firsts : List α} {lasts : List γ}
    (h : List.Forall₂ around firsts lasts)
    (hbetween : ∀ a c, around a c → ∃ b, before a b ∧ after b c) :
    ∃ middles, List.Forall₂ before firsts middles ∧ List.Forall₂ after middles lasts := by
  induction h with
  | nil => exact ⟨[], .nil, .nil⟩
  | cons hfirst _ ih =>
      obtain ⟨middle, hbefore, hafter⟩ := hbetween _ _ hfirst
      obtain ⟨middles, hbefores, hafters⟩ := ih
      exact ⟨middle :: middles, .cons hbefore hbefores, .cons hafter hafters⟩

theorem spells_array {texts : List (List Char)} {trees : List Tree}
    (h : List.Forall₂ Spells texts trees) :
    Spells ('[' :: ([','].intercalate texts ++ [']'])) (.array trees) := by
  obtain ⟨lists, hreads, hbuilds⟩ := exists_middles h fun _ _ => id
  have hclosed := (reads_intercalate hreads).punctuated (c := ']') rfl Reads.nil
  exact ⟨_, Reads.nil.punctuated rfl hclosed, builds_array hbuilds⟩

theorem spells_object {texts : List (List Char)} {members : List (List Piece × Tree)}
    (h : List.Forall₂ SpellsMember texts members) :
    Spells ('\x7b' :: ([','].intercalate texts ++ ['\x7d'])) (.object members) := by
  obtain ⟨lists, hreads, hbuilds⟩ := exists_middles h fun _ _ => SpellsMember.exists_tokens
  have hclosed := (reads_intercalate hreads).punctuated (c := '\x7d') rfl Reads.nil
  exact ⟨_, Reads.nil.punctuated rfl hclosed, builds_object hbuilds⟩

end DocRules.Json
