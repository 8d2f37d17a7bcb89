/-!
# Places in a document

A `Cursor` is a place in a text: what is left to read, and the line and the
column of its first character, counted from zero. Columns count characters.

A document has five kinds of line end. `normalized` makes one of all that mean
nothing more than the end of a line; the line and the paragraph separators stay
what they are, because text keeps them.
-/

namespace InstructionStore.Yaml

/-- **The line and the column of a character**, from zero. -/
structure Mark where
  /-- The line. -/
  line : Nat
  /-- The column. -/
  column : Nat
deriving DecidableEq

/-- Whether a character ends a line, in a normalized text. -/
def isBreak (c : Char) : Bool := c = '\n' || c = '\u2028' || c = '\u2029'

/-- Whether a character is a space or a tab. -/
def isBlank (c : Char) : Bool := c = ' ' || c = '\t'

/-- Whether a text is at its end or at the end of a line. -/
def atBreak : List Char → Bool
  | [] => true
  | c :: _ => isBreak c

/-- Whether a text is at its end, at the end of a line or at a blank. -/
def atGap : List Char → Bool
  | [] => true
  | c :: _ => isBlank c || isBreak c

/-- A text with one kind of line end besides the separators. -/
def normalized : List Char → List Char
  | '\r' :: '\n' :: rest => '\n' :: normalized rest
  | '\r' :: rest => '\n' :: normalized rest
  | '\u0085' :: rest => '\n' :: normalized rest
  | c :: rest => c :: normalized rest
  | [] => []

/-- Whether a character may stand in a document. -/
def isAllowed (c : Char) : Bool :=
  let n := c.toNat
  n = 0x9 || n = 0xa || n = 0xd || (0x20 ≤ n && n ≤ 0x7e) || n = 0x85 ||
    (0xa0 ≤ n && n ≤ 0xfffd) || 0x10000 ≤ n

/-- The mark of the character after a given one. -/
def Mark.after (m : Mark) (c : Char) : Mark :=
  if isBreak c then ⟨m.line + 1, 0⟩ else ⟨m.line, m.column + 1⟩

/-- The mark so many characters further on the same line. -/
def Mark.right (m : Mark) (n : Nat) : Mark := ⟨m.line, m.column + n⟩

/-- **A place in a text.** -/
structure Cursor where
  /-- What is left to read. -/
  rest : List Char
  /-- The mark of its first character. -/
  mark : Mark
deriving DecidableEq

namespace Cursor

/-- The place after the first so many characters. -/
def skip (c : Cursor) : Nat → Cursor
  | 0 => c
  | n + 1 =>
    match c.rest with
    | [] => c
    | first :: rest => skip ⟨rest, c.mark.after first⟩ n

/-- The characters up to the first that fails a test. -/
def run (c : Cursor) (test : Char → Bool) : List Char := c.rest.takeWhile test

/-- The place of the first character that fails a test. -/
def skipWhile (c : Cursor) (test : Char → Bool) : Cursor := c.skip (c.run test).length

/-- The first character left to read. -/
def peek? (c : Cursor) : Option Char := c.rest.head?

/-- Whether the next character is a given one. -/
def isAt (c : Cursor) (expected : Char) : Bool := c.peek? = some expected

/-- Whether a line begins here with three given characters that stand alone, as
where a document begins or ends. -/
def isAtDocumentMark (c : Cursor) : Bool :=
  c.mark.column = 0 && match c.rest with
    | '-' :: '-' :: '-' :: rest | '.' :: '.' :: '.' :: rest => atGap rest
    | _ => false

/-- The place after blanks and a comment, on the same line. A comment goes up to
the end of the line. -/
def skipComment (c : Cursor) : Cursor :=
  let c := c.skipWhile isBlank
  if c.isAt '#' then c.skipWhile fun d => !isBreak d else c

/-- The place after the end of the line, if the line ends here. -/
def endLine? (c : Cursor) : Option Cursor := if atBreak c.rest then some (c.skip 1) else none

end Cursor

end InstructionStore.Yaml
