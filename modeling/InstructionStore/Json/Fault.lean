import InstructionStore.Json.Printer
import InstructionStore.Text.Quoted

/-!
# What can be wrong with JSON text

Reading fails for a **cause** at a place. The cause is either a defect of the
text itself – it ends too early, a comma is missing – or a value that is not of
the kind the reader asked for.

A place is kept as the number of bytes still **left** to read, which is what
the rest of the text gives without further bookkeeping; `Position.before`
turns it into a line and a column once the whole text is at hand. Columns
count bytes.

Some causes have no place of their own, because they are found only after the
value was read: a name with a character that is not allowed, an instruction
outside the grammar. Such a fault is **loose**. The innermost array or object
around it gives it a place – where reading had come to, after closing that
array or object if it closes there – and a fault that nothing encloses stays
without one.
-/

namespace InstructionStore.Json

/-- **What a reader met** in place of what it asked for. -/
inductive Found where
  /-- The value `null`. -/
  | null
  /-- A truth value. -/
  | boolean (b : Bool)
  /-- An integer. -/
  | integer (n : Int)
  /-- A float. -/
  | float (x : Binary64)
  /-- A string. -/
  | string (s : String)
  /-- An array. -/
  | sequence
  /-- An object. -/
  | map
deriving DecidableEq

/-- How a value is named in a message. -/
def Found.text : Found → String
  | .null => "null"
  | .boolean b => "boolean `" ++ (if b then "true" else "false") ++ "`"
  | .integer n => "integer `" ++ Text.integer n ++ "`"
  | .float x => "floating point `" ++ String.ofList (printFloat x) ++ "`"
  | .string s => "string " ++ Text.quoted s
  | .sequence => "sequence"
  | .map => "map"

/-- What a value is met as. -/
def found : Json → Found
  | .null => .null
  | .bool b => .boolean b
  | .number (.integer n _) => .integer n
  | .number (.float x) => .float x
  | .string s => .string s
  | .array _ _ => .sequence
  | .object _ _ => .map

/-- **Why text cannot be read.** -/
inductive Cause where
  /-- The text ends inside an array. -/
  | endInList
  /-- The text ends inside an object. -/
  | endInObject
  /-- The text ends inside a string. -/
  | endInString
  /-- The text ends where a value should stand. -/
  | endInValue
  /-- A name is not followed by a colon. -/
  | expectedColon
  /-- An item is followed by neither a comma nor the end of the array. -/
  | expectedCommaOrEndOfList
  /-- A field is followed by neither a comma nor the end of the object. -/
  | expectedCommaOrEndOfObject
  /-- A word begins like `null`, `true` or `false` and goes on otherwise. -/
  | expectedWord
  /-- No value begins here. -/
  | expectedValue
  /-- A backslash is followed by no known escape. -/
  | invalidEscape
  /-- A number is not written as numbers are. -/
  | invalidNumber
  /-- A number is beyond the largest float. -/
  | numberOutOfRange
  /-- A string holds a character below the space. -/
  | controlCharacter
  /-- A field does not begin with a string. -/
  | nameNotString
  /-- The second half of a surrogate pair stands without the first. -/
  | loneSurrogate
  /-- The first half of a surrogate pair is not followed by an escape. -/
  | unpairedSurrogate
  /-- A comma is followed by the end of the array or object. -/
  | trailingComma
  /-- Something follows the end of the value. -/
  | trailingCharacters
  /-- Too many arrays and objects are open. -/
  | nestedTooDeeply
  /-- A value is of another kind than asked for. -/
  | invalidType (found : Found) (expected : String)
  /-- A value is of the kind asked for and outside its range. -/
  | invalidValue (found : Found) (expected : String)
  /-- An array has too few items. -/
  | invalidLength (length : Nat) (expected : String)
  /-- A word is none of those allowed. -/
  | unknownWord (word : String) (allowed : List String)
  /-- A record lacks a field. -/
  | missingField (name : String)
  /-- A record has a field twice. -/
  | repeatedField (name : String)
  /-- A value was read and then refused, for a reason of its own. -/
  | refused (reason : String)
deriving DecidableEq

/-- Words in backquotes, with commas between them. -/
def wordList (words : List String) : String :=
  ", ".intercalate (words.map fun w => "`" ++ w ++ "`")

/-- **The wording of a cause.** -/
def Cause.message : Cause → String
  | .endInList => "EOF while parsing a list"
  | .endInObject => "EOF while parsing an object"
  | .endInString => "EOF while parsing a string"
  | .endInValue => "EOF while parsing a value"
  | .expectedColon => "expected `:`"
  | .expectedCommaOrEndOfList => "expected `,` or `]`"
  | .expectedCommaOrEndOfObject => "expected `,` or `\x7d`"
  | .expectedWord => "expected ident"
  | .expectedValue => "expected value"
  | .invalidEscape => "invalid escape"
  | .invalidNumber => "invalid number"
  | .numberOutOfRange => "number out of range"
  | .controlCharacter => "control character (\\u0000-\\u001F) found while parsing a string"
  | .nameNotString => "key must be a string"
  | .loneSurrogate => "lone leading surrogate in hex escape"
  | .unpairedSurrogate => "unexpected end of hex escape"
  | .trailingComma => "trailing comma"
  | .trailingCharacters => "trailing characters"
  | .nestedTooDeeply => "recursion limit exceeded"
  | .invalidType found expected => "invalid type: " ++ found.text ++ ", expected " ++ expected
  | .invalidValue found expected => "invalid value: " ++ found.text ++ ", expected " ++ expected
  | .invalidLength length expected =>
    "invalid length " ++ Text.natural length ++ ", expected " ++ expected
  | .unknownWord word allowed =>
    "unknown variant `" ++ word ++ "`, expected one of " ++ wordList allowed
  | .missingField name => "missing field `" ++ name ++ "`"
  | .repeatedField name => "duplicate field `" ++ name ++ "`"
  | .refused reason => reason

/-! ## Places -/

/-- The number of bytes of a text. -/
def byteLength : List Char → Nat
  | [] => 0
  | c :: rest => c.utf8Size + byteLength rest

/-- A line and a column of a text. -/
structure Position where
  /-- The line, counted from one. -/
  line : Nat
  /-- The bytes of the line that precede the place. -/
  column : Nat
deriving DecidableEq

/-- The position reached from a position by reading a number of bytes. -/
def Position.advance (p : Position) : Nat → List Char → Position
  | _, [] => p
  | 0, _ => p
  | n + 1, c :: rest =>
    let size := c.utf8Size
    let next : Position :=
      if c = '\n' then ⟨p.line + 1, 0⟩ else ⟨p.line, p.column + min size (n + 1)⟩
    next.advance (n + 1 - size) rest

/-- **The position before the last `left` bytes of a text.** -/
def Position.before (text : List Char) (left : Nat) : Position :=
  Position.advance ⟨1, 0⟩ (byteLength text - left) text

/-- The position as messages give it. -/
def Position.text (p : Position) : String :=
  "line " ++ Text.natural p.line ++ " column " ++ Text.natural p.column

/-- **A fault**: a cause with the place it was found at, or with the text that
was still to be read when it was found. -/
inductive Fault where
  /-- A fault before the last `left` bytes. -/
  | located (cause : Cause) (left : Nat)
  /-- A fault that has no place yet. -/
  | loose (cause : Cause) (rest : List Char)
deriving DecidableEq

namespace Fault

/-- A fault at the point reached. -/
def here (cause : Cause) (rest : List Char) : Fault := .located cause (byteLength rest)

/-- A fault of the byte about to be read, which counts as read; at the end of
the text there is none to count. -/
def peek (cause : Cause) (rest : List Char) : Fault := .located cause (byteLength rest - 1)

/-- Gives a loose fault the place that `close` comes to. -/
def settle (close : List Char → List Char) : Fault → Fault
  | .located cause left => .located cause left
  | .loose cause rest => here cause (close rest)

/-- **The wording of a fault** in a given text: the cause, and the place if
there is one. -/
def message (text : String) : Fault → String
  | .located cause left =>
    cause.message ++ " at " ++ (Position.before text.toList left).text
  | .loose cause _ => cause.message

end Fault

end InstructionStore.Json
