import InstructionStore.Json.Basic
import InstructionStore.Number.Shortest

/-!
# JSON text

`Json.print` writes a value on one line without blanks: the items of an array
in order, the fields of an object in the order of their names.

* **Strings** escape the quotation mark, the backslash and the characters
  below the space, and nothing else.
* **Integers** are their digits; **floats** are the shortest decimal that
  reads back. A float always shows a point or an exponent, so that it is read
  as a float again: positional notation serves from `0.00001` up to sixteen
  digits before the point, and scientific notation beyond.

Records are written through `printFields`, which keeps the order in which the
fields are given.
-/

namespace InstructionStore.Json

/-! ## Strings -/

/-- How a character is written inside a string. -/
def escapeChar (c : Char) : List Char :=
  if c = '"' then ['\\', '"']
  else if c = '\\' then ['\\', '\\']
  else if c = '\x08' then ['\\', 'b']
  else if c = '\x0c' then ['\\', 'f']
  else if c = '\n' then ['\\', 'n']
  else if c = '\r' then ['\\', 'r']
  else if c = '\t' then ['\\', 't']
  else if c.toNat < 0x20 then
    ['\\', 'u', '0', '0', Nat.digitChar (c.toNat / 16), Nat.digitChar (c.toNat % 16)]
  else [c]

/-- A string in its quotation marks. -/
def printString (s : String) : List Char :=
  '"' :: s.toList.flatMap escapeChar ++ ['"']

/-! ## Numbers -/

/-- A float without its sign. -/
def printMagnitude (rank : Nat) : List Char :=
  let d := Binary64.shortest rank
  if -5 ≤ d.magnitude ∧ d.magnitude ≤ 15 then d.positional else d.scientific

/-- A float. -/
def printFloat (x : Binary64) : List Char :=
  if x.negative then '-' :: printMagnitude x.rank else printMagnitude x.rank

/-- A number. -/
def printNumber : Number → List Char
  | .integer n _ => Text.signed n
  | .float x => printFloat x

/-! ## Values -/

/-- Texts with a separator between each two. -/
def separated (separator : Char) : List (List Char) → List Char
  | [] => []
  | [text] => text
  | text :: rest => text ++ separator :: separated separator rest

/-- The field of an object, given the text of its value. -/
def printField (name : String) (value : List Char) : List Char :=
  printString name ++ ':' :: value

/-- **The text of a value.** -/
def print : Json → List Char
  | .null => "null".toList
  | .bool true => "true".toList
  | .bool false => "false".toList
  | .number n => printNumber n
  | .string s => printString s
  | .array _ item => '[' :: separated ',' (List.ofFn fun i => (item i).print) ++ [']']
  | .object keys value =>
    let fields := List.ofFn fun i => printField (keys.name i) (value i).print
    '\x7b' :: separated ',' fields ++ ['\x7d']

/-- The text of a value, as a string. -/
def text (value : Json) : String := String.ofList value.print

/-- The text of an object whose fields are given in the order to be written,
each with the text of its value. -/
def printFields (fields : List (String × List Char)) : List Char :=
  '\x7b' :: separated ',' (fields.map fun f => printField f.1 f.2) ++ ['\x7d']

/-- The text of an array, given the texts of its items. -/
def printItems (items : List (List Char)) : List Char :=
  '[' :: separated ',' items ++ [']']

end InstructionStore.Json
