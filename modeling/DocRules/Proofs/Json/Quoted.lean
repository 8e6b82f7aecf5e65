import DocRules.Json.Token
import Mathlib.Tactic.SplitIfs

/-! Strings that are written and read back. Each character comes back as one piece: a character, or
the number of an escape where it was written by its number. The pieces decode to the text. -/

namespace DocRules.Json

/-- Whether a character is written by its number: a control character without a letter of its own. -/
def isNumbered (c : Char) : Bool :=
  c.toNat < 0x20 && !(['\n', '\r', '\t', '\x08', '\x0c'].contains c)

/-- The piece that a character is read back as. -/
def pieceOf (c : Char) : Piece := if isNumbered c then .unit c.toNat else .char c

/-- The pieces that a text is read back as. -/
def pieces (text : String) : List Piece := text.toList.map pieceOf

theorem run_cons_of_step {lexer next : Lexer} {c : Char} {tokens : List Token}
    (h : lexer.step c = some (tokens, next)) (rest : List Char) :
    lexer.run (c :: rest) = (next.run rest).map (tokens ++ ·) := by
  rw [Lexer.run, h]

/-- A character that completes no token. -/
theorem run_cons_of_silent {lexer next : Lexer} {c : Char} (h : lexer.step c = some ([], next))
    (rest : List Char) : lexer.run (c :: rest) = next.run rest := by
  rw [run_cons_of_step h]
  exact Option.map_id'

theorem hexValue?_hexDigit (n : Nat) : hexValue? (hexDigit n) = some (n % 16) := by
  have hall : ∀ digit : Fin 16, hexValue? (Nat.digitChar digit) = some digit.val := by decide
  exact hall ⟨n % 16, Nat.mod_lt n (by decide)⟩

theorem run_string_cons (read : List Piece) {c : Char} (hquote : c ≠ '"') (hslash : c ≠ '\\')
    (hcontrol : ¬c.toNat < 0x20) (rest : List Char) :
    (Lexer.string read).run (c :: rest) = (Lexer.string (.char c :: read)).run rest :=
  run_cons_of_silent (by simp [Lexer.step, hquote, hslash, hcontrol]) rest

theorem run_string_escape (read : List Piece) {letter meant : Char} (hletter : letter ≠ 'u')
    (hmeant : escaped? letter = some meant) (rest : List Char) :
    (Lexer.string read).run ('\\' :: letter :: rest) =
      (Lexer.string (.char meant :: read)).run rest := by
  have hslash : (Lexer.string read).step '\\' = some ([], .escape read) := rfl
  rw [run_cons_of_silent hslash]
  exact run_cons_of_silent (by simp [Lexer.step, hletter, hmeant]) rest

/-- A control character is read back from its four digits. -/
theorem run_string_numbered (read : List Piece) {c : Char} (hcontrol : c.toNat < 0x20)
    (rest : List Char) :
    (Lexer.string read).run
        ('\\' :: 'u' :: '0' :: '0' :: hexDigit (c.toNat / 16) :: hexDigit c.toNat :: rest) =
      (Lexer.string (.unit c.toNat :: read)).run rest := by
  have hzero : hexValue? '0' = some 0 := by decide
  have hvalue : 16 * (c.toNat / 16 % 16) + c.toNat % 16 = c.toNat := by omega
  simp [Lexer.run, Lexer.step, hexValue?_hexDigit, hzero, hvalue]

theorem run_escapeChar (c : Char) (read : List Piece) (rest : List Char) :
    (Lexer.string read).run (escapeChar c ++ rest) =
      (Lexer.string (pieceOf c :: read)).run rest := by
  unfold escapeChar
  split_ifs with hquote hslash hline hreturn htab hback hfeed hcontrol
  · subst hquote
    exact run_string_escape read (by decide) rfl rest
  · subst hslash
    exact run_string_escape read (by decide) rfl rest
  · subst hline
    exact run_string_escape read (by decide) rfl rest
  · subst hreturn
    exact run_string_escape read (by decide) rfl rest
  · subst htab
    exact run_string_escape read (by decide) rfl rest
  · subst hback
    exact run_string_escape read (by decide) rfl rest
  · subst hfeed
    exact run_string_escape read (by decide) rfl rest
  · have hnumbered : isNumbered c = true := by
      simp [isNumbered, hcontrol, hline, hreturn, htab, hback, hfeed]
    rw [pieceOf, if_pos hnumbered]
    exact run_string_numbered read hcontrol rest
  · have hnumbered : ¬isNumbered c = true := by simp [isNumbered, hcontrol]
    rw [pieceOf, if_neg hnumbered]
    exact run_string_cons read hquote hslash hcontrol rest

theorem run_escape (chars : List Char) (read : List Piece) (rest : List Char) :
    (Lexer.string read).run (escape chars ++ rest) =
      (Lexer.string ((chars.map pieceOf).reverse ++ read)).run rest := by
  induction chars generalizing read with
  | nil => rfl
  | cons c others ih =>
      have hescape : escape (c :: others) = escapeChar c ++ escape others := List.flatMap_cons
      rw [hescape, List.append_assoc, run_escapeChar, ih, List.map_cons, List.reverse_cons,
        List.append_assoc, List.singleton_append]

/-- A quoted text is read as one token. -/
theorem run_quote (text : String) (rest : List Char) :
    Lexer.between.run ((quote text).toList ++ rest) =
      (Lexer.between.run rest).map (.string (pieces text) :: ·) := by
  have hquote : (quote text).toList ++ rest = '"' :: (escape text.toList ++ '"' :: rest) := by
    simp [quote]
  have hopen : Lexer.between.step '"' = some ([], .string []) := rfl
  have hclose : ∀ read, (Lexer.string read).step '"' = some ([.string read.reverse], .between) :=
    fun _ => rfl
  rw [hquote, run_cons_of_silent hopen, run_escape, run_cons_of_step (hclose _), List.append_nil,
    List.reverse_reverse]
  rfl

theorem decode_pieceOf (c : Char) (rest : List Piece) :
    decode (pieceOf c :: rest) = (decode rest).map (c :: ·) := by
  unfold pieceOf
  split_ifs with hnumbered
  · have hcontrol : c.toNat < 0x20 := of_decide_eq_true (Bool.and_eq_true_iff.mp hnumbered).1
    have hlow : isLowHalf c.toNat = false := by simp [isLowHalf]; omega
    have hhigh : isHighHalf c.toNat = false := by simp [isHighHalf]; omega
    rw [decode.eq_def]
    simp [hlow, hhigh]
  · rw [decode]

theorem decode_map_pieceOf (chars : List Char) : decode (chars.map pieceOf) = some chars := by
  induction chars with
  | nil => rfl
  | cons c others ih => rw [List.map_cons, decode_pieceOf, ih, Option.map_some]

/-- What is read of a written text is the text. -/
@[simp] theorem decodeText_pieces (text : String) : decodeText (pieces text) = some text := by
  rw [decodeText, pieces, decode_map_pieceOf, Option.map_some, String.ofList_toList]

end DocRules.Json
