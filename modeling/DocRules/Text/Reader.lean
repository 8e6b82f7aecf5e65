/-! Readers of text. A reader looks at the start of a text and either takes something off it, or
fails. A plain failure lets whoever called the reader go back and try something else; a committed
one ends the whole reading. Either failure tells at what text the reader stopped. -/

namespace DocRules

/-- The outcome of reading: a result with the text behind it, or a failure with the text at which the
reader stopped. -/
inductive Reading (α : Type) where
  | done (result : α) (rest : List Char)
  | failed (stop : List Char)
  | committed (stop : List Char)

/-- A reader of `α`. -/
structure Reader (α : Type) where
  run : List Char → Reading α

namespace Reader

variable {α β : Type}

instance : Monad Reader where
  pure result := ⟨fun text => .done result text⟩
  bind reader next := ⟨fun text =>
    match reader.run text with
    | .done result rest => (next result).run rest
    | .failed stop => .failed stop
    | .committed stop => .committed stop⟩

/-- Takes the longest run of accepted characters, which may be empty. -/
def takeWhile (accepts : Char → Bool) : Reader (List Char) :=
  ⟨fun text => .done (text.takeWhile accepts) (text.dropWhile accepts)⟩

/-- Takes the longest run of accepted characters, of which there has to be one. -/
def takeWhile1 (accepts : Char → Bool) : Reader (List Char) :=
  ⟨fun text =>
    if (text.takeWhile accepts).isEmpty then .failed text
    else .done (text.takeWhile accepts) (text.dropWhile accepts)⟩

def char (c : Char) : Reader Unit :=
  ⟨fun
    | [] => .failed []
    | first :: rest => if first = c then .done () rest else .failed (first :: rest)⟩

/-- Reads one thing after another and keeps the second. -/
def preceded (first : Reader β) (second : Reader α) : Reader α := do
  let _ ← first
  second

/-- Reads something that may be missing. After a plain failure nothing has been taken. -/
def opt (reader : Reader α) : Reader (Option α) :=
  ⟨fun text =>
    match reader.run text with
    | .done result rest => .done (some result) rest
    | .failed _ => .done none text
    | .committed stop => .committed stop⟩

/-- Turns plain failures into committed ones. -/
def commit (reader : Reader α) : Reader α :=
  ⟨fun text =>
    match reader.run text with
    | .done result rest => .done result rest
    | .failed stop => .committed stop
    | .committed stop => .committed stop⟩

/-- What reading again and again makes of a text. -/
def runMany (reader : Reader α) (text : List Char) : Reading (List α) :=
  match reader.run text with
  | .failed _ => .done [] text
  | .committed stop => .committed stop
  | .done result rest =>
      if rest.length < text.length then
        match runMany reader rest with
        | .done results final => .done (result :: results) final
        | .failed stop => .failed stop
        | .committed stop => .committed stop
      else .committed rest
termination_by text.length

/-- Reads the same thing again and again until it fails plainly. Each time it has to take something
off the text. -/
def many (reader : Reader α) : Reader (List α) := ⟨runMany reader⟩

def endOfText : Reader Unit :=
  ⟨fun
    | [] => .done () []
    | first :: rest => .failed (first :: rest)⟩

variable {reader : Reader α} {text rest stop : List Char} {result : α}

theorem run_bind_done (h : reader.run text = .done result rest) (next : α → Reader β) :
    (reader >>= next).run text = (next result).run rest := by
  simp only [bind, h]

theorem run_bind_failed (h : reader.run text = .failed stop) (next : α → Reader β) :
    (reader >>= next).run text = .failed stop := by
  simp only [bind, h]

theorem run_bind_committed (h : reader.run text = .committed stop) (next : α → Reader β) :
    (reader >>= next).run text = .committed stop := by
  simp only [bind, h]

@[simp] theorem run_preceded_char (c : Char) (reader : Reader α) (text : List Char) :
    (preceded (char c) reader).run (c :: text) = reader.run text := by
  have hchar : (char c).run (c :: text) = .done () text := by simp [char]
  exact run_bind_done hchar _

theorem run_opt_done (h : reader.run text = .done result rest) :
    reader.opt.run text = .done (some result) rest := by
  simp only [opt, h]

theorem run_opt_failed (h : reader.run text = .failed stop) :
    reader.opt.run text = .done none text := by
  simp only [opt, h]

theorem run_opt_committed (h : reader.run text = .committed stop) :
    reader.opt.run text = .committed stop := by
  simp only [opt, h]

theorem run_commit_done (h : reader.run text = .done result rest) :
    reader.commit.run text = .done result rest := by
  simp only [commit, h]

theorem run_commit_failed (h : reader.run text = .failed stop) :
    reader.commit.run text = .committed stop := by
  simp only [commit, h]

theorem run_many_failed (h : reader.run text = .failed stop) :
    reader.many.run text = .done [] text := by
  change runMany reader text = _
  rw [runMany, h]

theorem run_many_committed (h : reader.run text = .committed stop) :
    reader.many.run text = .committed stop := by
  change runMany reader text = _
  rw [runMany, h]

theorem run_many_done (h : reader.run text = .done result rest) (hlt : rest.length < text.length) :
    reader.many.run text =
      match reader.many.run rest with
      | .done results final => .done (result :: results) final
      | .failed stop => .failed stop
      | .committed stop => .committed stop := by
  change runMany reader text = _
  rw [runMany, h]
  exact if_pos hlt

section Runs

variable {accepts : Char → Bool} {taken behind : List Char}
  (htaken : ∀ c ∈ taken, accepts c = true) (hbehind : ∀ c ∈ behind.head?, accepts c = false)

include htaken hbehind in
/-- Accepted characters up to the first one that is not are the run that is taken. -/
theorem takeWhile_append_of_stop :
    (taken ++ behind).takeWhile accepts = taken ∧ (taken ++ behind).dropWhile accepts = behind := by
  rw [List.takeWhile_append_of_pos htaken, List.dropWhile_append_of_pos htaken]
  cases behind with
  | nil => simp
  | cons c others =>
      have hc := hbehind c rfl
      simp [hc]

include htaken hbehind in
theorem run_takeWhile : (takeWhile accepts).run (taken ++ behind) = .done taken behind := by
  obtain ⟨htake, hdrop⟩ := takeWhile_append_of_stop htaken hbehind
  simp only [takeWhile, htake, hdrop]

include htaken hbehind in
theorem run_takeWhile1 (hne : taken ≠ []) :
    (takeWhile1 accepts).run (taken ++ behind) = .done taken behind := by
  obtain ⟨htake, hdrop⟩ := takeWhile_append_of_stop htaken hbehind
  have hempty : taken.isEmpty = false := by simpa using hne
  simp only [takeWhile1, htake, hdrop, hempty, Bool.false_eq_true, if_false]

include hbehind in
theorem run_takeWhile1_failed : (takeWhile1 accepts).run behind = .failed behind := by
  have hnone : ∀ c ∈ ([] : List Char), accepts c = true := by simp
  have htake := (takeWhile_append_of_stop hnone hbehind).1
  rw [List.nil_append] at htake
  simp only [takeWhile1, htake, List.isEmpty_nil, if_true]

end Runs

end Reader

end DocRules
