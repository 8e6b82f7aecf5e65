import DocRules.Text.Split

/-! The ways in which reading, resolving and walking fail. An error holds the facts of the failure;
`message` puts them into words. The report of a parse error shows the text and puts a caret under the
place of the failure. A text of several lines is shown by the line that holds the last byte at or
before that place. -/

namespace DocRules

/-- Rule text with a rule whose name is empty; `offset` is the number of bytes before that rule. -/
structure ParseError where
  input : String
  offset : Nat
  deriving DecidableEq, Repr

/-- Why a rule set or a collection of field rules has no requirement tree. -/
inductive ResolveError where
  | unresolvableRule (name : String)
  | missingParameter (rule : String) (index : Nat)
  | invalidParameterType (rule : String) (index : Nat) (value : String)
  | pathConflict (path : String)
  | parse (error : ParseError)
  deriving DecidableEq, Repr

/-- Why a walk over a document stopped. -/
inductive WalkError where
  | structuralMismatch (path expected found : String)
  | missingRule (path : String)
  | transformFailure (path transformer : String)
  | depthExceeded (path : String) (limit : Nat)
  | resolve (error : ResolveError)
  deriving DecidableEq, Repr

structure UnknownSection where
  name : String
  deriving DecidableEq, Repr

/-- Any failure of the library. -/
inductive Failure where
  | parse (error : ParseError)
  | resolve (error : ResolveError)
  | walk (error : WalkError)
  | unknownSection (error : UnknownSection)
  deriving DecidableEq, Repr

namespace ParseError

/-- What the reader wanted to see: nothing in particular at the very start. -/
def expectation (error : ParseError) : String :=
  if error.offset = 0 then "" else "expected rule name"

def blanks (n : Nat) : String := String.ofList (List.replicate n ' ')

/-- The characters that end at or before the byte at position `limit`. -/
def charsBefore : Nat → List Char → List Char
  | _, [] => []
  | limit, c :: rest =>
      if c.utf8Size ≤ limit then c :: charsBefore (limit - c.utf8Size) rest else []

def reportLine (error : ParseError) : String :=
  error.input ++ "\n" ++ blanks error.offset ++ "^\n" ++ error.expectation

/-- The report on a text of several lines. The caret stands one further than the end of the text
when the failure is there. -/
def reportLines (error : ParseError) : String :=
  let shown := min error.offset (error.input.utf8ByteSize - 1)
  let linesBefore := (charsBefore shown error.input.toList).splitOn '\n'
  let number := toString linesBefore.length
  let line := ((Text.split '\n' error.input)[linesBefore.length - 1]?).getD ""
  let column := (linesBefore.getLastD []).length + 1 + (error.offset - shown)
  let gutter := blanks number.length
  "parse error at line " ++ number ++ ", column " ++ toString column ++ "\n"
    ++ gutter ++ " |\n"
    ++ number ++ " | " ++ line ++ "\n"
    ++ gutter ++ " | " ++ blanks (column - 1) ++ "^\n"
    ++ error.expectation

def message (error : ParseError) : String :=
  "parse error in '" ++ error.input ++ "': " ++
    if '\n' ∈ error.input.toList then error.reportLines else error.reportLine

end ParseError

def ResolveError.message : ResolveError → String
  | unresolvableRule name => "unable to resolve rule: " ++ name
  | missingParameter rule index =>
      "rule '" ++ rule ++ "' expects at least " ++ toString (index + 1) ++ " parameter(s)"
  | invalidParameterType rule index value =>
      "rule '" ++ rule ++ "' expects parameter #" ++ toString index ++
        " to be an int, encountered '" ++ value ++ "'"
  | pathConflict path =>
      "field path '" ++ path ++
        "' is defined both as a field and as a parent of other fields"
  | parse error => error.message

def WalkError.message : WalkError → String
  | structuralMismatch path expected found =>
      "structural mismatch at '" ++ path ++ "': expected " ++ expected ++ ", found " ++ found
  | missingRule path => "missing rule for: " ++ path
  | transformFailure path transformer =>
      "transformer '" ++ transformer ++ "' is unable to transform the value at '" ++ path ++ "'"
  | depthExceeded path limit =>
      "document nesting at '" ++ path ++ "' exceeds the maximum depth of " ++ toString limit
  | resolve error => error.message

def UnknownSection.message (error : UnknownSection) : String :=
  "unknown request section '" ++ error.name ++ "', expecting at most 'query' or 'request'"

/-- The message of any failure is that of its cause. -/
def Failure.message : Failure → String
  | parse error => error.message
  | resolve error => error.message
  | walk error => error.message
  | unknownSection error => error.message

end DocRules
