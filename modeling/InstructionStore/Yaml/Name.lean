import InstructionStore.Yaml.Text
import InstructionStore.Yaml.Token

/-!
# Names in documents

A node can have a **name** in front of it, by which it can be referred to later,
and a **tag**, which says what it is. A tag is written in full between angle
brackets, or as a handle between exclamation marks and a rest; directives at the
beginning of a document give handles a meaning.

The functions here read one name, tag or directive from the cursor on. They give
nothing where it is not well-formed.
-/

namespace InstructionStore.Yaml

/-- The characters of names. -/
def isNameChar (c : Char) : Bool := c.isAlphanum || c = '_' || c = '-'

/-- The characters of tags, besides those of names. -/
def tagSigns : List Char := ";/?:@&=+$.%!~*'()".toList

/-- **Reads a name** behind its sign. -/
def name (c : Cursor) : Option (String × Cursor) :=
  let c := c.skip 1
  let letters := c.run isNameChar
  let after := c.skip letters.length
  let ends := atGap after.rest || after.peek?.any "?:,]\x7d%@`".toList.contains
  if letters.isEmpty || !ends then none
  else some (String.ofList letters, after)

/-! ## Tags -/

/-- The number of bytes of a character whose first byte is given. -/
def byteCount? (n : Nat) : Option Nat :=
  if n < 0x80 then some 1
  else if n / 32 = 6 then some 2
  else if n / 16 = 14 then some 3
  else if n / 8 = 30 then some 4
  else none

/-- Reads a byte written as `%` and two digits. -/
def escapedByte? : List Char → Option (Nat × List Char)
  | '%' :: a :: b :: rest => do return (← Text.digits? 16 [a, b], rest)
  | _ => none

/-- Reads so many bytes that continue a character. -/
def moreBytes? : (count : Nat) → List Char → Option (List Nat × List Char)
  | 0, text => some ([], text)
  | count + 1, text => do
    let (n, rest) ← escapedByte? text
    if n / 64 ≠ 2 then none
    let (bytes, rest) ← moreBytes? count rest
    return (n :: bytes, rest)

/-- Reads a character whose bytes are written as `%` and two digits each. -/
def escapedChar? (text : List Char) : Option (List UInt8 × List Char) := do
  let (n, rest) ← escapedByte? text
  let (bytes, rest) ← moreBytes? ((← byteCount? n) - 1) rest
  return ((n :: bytes).map Nat.toUInt8, rest)

/-- The bytes of the characters of a tag. Between angle brackets, commas and
brackets belong to it. -/
def tagBytes (isFull : Bool) (text : List Char) : Option (List UInt8 × List Char) :=
  match text with
  | [] => some ([], [])
  | c :: rest =>
    if c = '%' then
      match escapedChar? text with
      | none => none
      | some (bytes, after) =>
        if after.length ≤ rest.length then
          (tagBytes isFull after).map fun (more, after) => (bytes ++ more, after)
        else none
    else if isNameChar c || tagSigns.contains c || (isFull && ",[]".toList.contains c) then
      (tagBytes isFull rest).map fun (more, after) =>
        ((String.singleton c).toUTF8.toList ++ more, after)
    else some ([], text)
termination_by text.length
decreasing_by all_goals simp only [List.length_cons]; omega

/-- Reads the characters of a tag behind some that belong to it. The bytes need
not make characters; a tag of other bytes is like no tag that has a meaning. -/
def tagText (isFull : Bool) (before : String) (c : Cursor) : Option (String × Cursor) := do
  let (bytes, rest) ← tagBytes isFull c.rest
  let text := match String.fromUTF8? ⟨bytes.toArray⟩ with
    | some text => text
    | none => "\ufffd"
  return (before ++ text, c.skip (c.rest.length - rest.length))

/-- Reads the handle of a tag: an exclamation mark, and possibly letters and
another one. -/
def tagHandle (c : Cursor) : String × Cursor :=
  let letters := (c.skip 1).run isNameChar
  let c := c.skip (1 + letters.length)
  if c.isAt '!' then (String.ofList ('!' :: letters ++ ['!']), c.skip 1)
  else (String.ofList ('!' :: letters), c)

/-- Whether a handle is closed by an exclamation mark of its own. -/
def isClosed (handle : String) : Bool := handle.length ≥ 2 && handle.endsWith "!"

/-- Reads the handle and the rest of a tag. -/
def tagParts (c : Cursor) : Option (TokenKind × Cursor) := do
  if (c.skip 1).isAt '<' then
    let (text, c) ← tagText true "" (c.skip 2)
    if text.isEmpty || !c.isAt '>' then none else return (.tag "" text, c.skip 1)
  else
    let (handle, after) := tagHandle c
    if isClosed handle then
      let (text, after) ← tagText false "" after
      if text.isEmpty then none else return (.tag handle text, after)
    else
      let (text, after) ← tagText false (String.ofList (handle.toList.drop 1)) after
      return (if text.isEmpty then .tag "" "!" else .tag "!" text, after)

/-- **Reads a tag.** -/
def tag (inFlow : Bool) (c : Cursor) : Option (TokenKind × Cursor) := do
  let (kind, c) ← tagParts c
  if atGap c.rest || (inFlow && c.isAt ',') then return (kind, c) else none

/-! ## Directives -/

/-- Reads a number of at most nine digits. -/
def versionNumber (c : Cursor) : Option (Nat × Cursor) :=
  let digits := c.run Char.isDigit
  if 9 < digits.length then none
  else (Text.number? 10 digits).map fun n => (n, c.skip digits.length)

/-- Reads the directive of a version. -/
def version (c : Cursor) : Option (TokenKind × Cursor) := do
  let (major, c) ← versionNumber (c.skipWhile isBlank)
  if !c.isAt '.' then none
  let (minor, c) ← versionNumber (c.skip 1)
  return (.versionDirective major minor, c)

/-- Reads the directive of a handle. -/
def handle (c : Cursor) : Option (TokenKind × Cursor) := do
  let c := c.skipWhile isBlank
  if !c.isAt '!' then none
  let (handle, c) := tagHandle c
  if handle != "!" && !isClosed handle then none
  if !c.peek?.any isBlank then none
  let (start, c) ← tagText true "" (c.skipWhile isBlank)
  if start.isEmpty || !atGap c.rest then none
  return (.tagDirective handle start, c)

/-- **Reads a directive**, with the rest of its line. -/
def directive (c : Cursor) : Option (TokenKind × Cursor) := do
  let c := c.skip 1
  let word := c.run isNameChar
  let c := c.skip word.length
  if word.isEmpty || !atGap c.rest then none
  let (kind, c) ←
    if word = "YAML".toList then version c
    else if word = "TAG".toList then handle c
    else none
  return (kind, ← c.skipComment.endLine?)

end InstructionStore.Yaml
