import InstructionStore.Json.Reader

/-!
# Reading records

A record is read from an object, field by field and in any order, or from an
array that holds the values in the order the fields are declared in. A
`Shape` describes a record by its **columns**: each has a name, a reader, and
possibly a value it takes when it is absent. Fields the shape does not know
are skipped, and a field given twice is a fault.

The readers below report a value of the wrong kind by what it is and what was
asked for. A value that is skipped has only to be well-formed: its nesting is
not limited and its numbers have no range.
-/

namespace InstructionStore.Json.Reader

/-! ## Values of one kind -/

/-- The fault of a value that is not of the kind asked for. Arrays and objects
are told by their first character; any other value is read first, and is
faulty on its own account if it cannot be. -/
def mismatch (expected : String) (text : List Char) : Fault :=
  let unfit (found : Found) (rest : List Char) : Fault :=
    .here (.invalidType found expected) rest
  let afterWord (letters : String) (found : Found) (rest : List Char) : Fault :=
    match word letters.toList rest with
    | .error fault => fault
    | .ok rest => unfit found rest
  let afterNumber : Except Fault (Number × List Char) → Fault
    | .error fault => fault
    | .ok (n, rest) => unfit (found (.number n)) rest
  match text with
  | [] => .peek .endInValue []
  | c :: rest =>
    if c = 'n' then afterWord "ull" .null rest
    else if c = 't' then afterWord "rue" (.boolean true) rest
    else if c = 'f' then afterWord "alse" (.boolean false) rest
    else if c = '-' then afterNumber (number true rest)
    else if c.isDigit then afterNumber (number false (c :: rest))
    else if c = '"' then
      match string rest with
      | .error fault => fault
      | .ok (s, rest) => unfit (.string s) rest
    else if c = '[' then unfit .sequence (c :: rest)
    else if c = '\x7b' then unfit .map (c :: rest)
    else .peek .expectedValue (c :: rest)

/-- Reads a string. -/
def text : Reader String := fun input =>
  match skipBlank input with
  | '"' :: rest => string rest
  | rest => .error (mismatch "a string" rest)

/-- Reads a truth value. -/
def boolean : Reader Bool := fun input =>
  match skipBlank input with
  | 't' :: rest => (word "rue".toList rest).map (true, ·)
  | 'f' :: rest => (word "alse".toList rest).map (false, ·)
  | rest => .error (mismatch "a boolean" rest)

/-- Judges a number that was read where a signed 64-bit integer was asked for. -/
def asInt64 (n : Number) (rest : List Char) : Except Fault (Int64 × List Char) :=
  match n with
  | .integer m _ =>
    match n.toInt64? with
    | some i => .ok (i, rest)
    | none => .error (.here (.invalidValue (.integer m) "i64") rest)
  | .float x => .error (.here (.invalidType (.float x) "i64") rest)

/-- Reads a signed 64-bit integer. -/
def int64 : Reader Int64 := fun input => do
  match skipBlank input with
  | '-' :: rest =>
    let (n, rest) ← number true rest
    asInt64 n rest
  | c :: rest =>
    if c.isDigit then
      let (n, rest) ← number false (c :: rest)
      asInt64 n rest
    else throw (mismatch "i64" (c :: rest))
  | [] => throw (mismatch "i64" [])

/-- Reads null as nothing and anything else with a reader. -/
def nullable (reader : Reader α) : Reader (Option α) := fun input =>
  match skipBlank input with
  | 'n' :: rest => (word "ull".toList rest).map (none, ·)
  | rest => (reader rest).map fun (a, rest) => (some a, rest)

/-- Reads null. -/
def null : Reader Unit := fun input =>
  match skipBlank input with
  | 'n' :: rest => (word "ull".toList rest).map ((), ·)
  | rest => .error (mismatch "unit" rest)

/-- Reads an array of given items. -/
def array (item : Reader α) : Reader (List α) := fun input =>
  match skipBlank input with
  | '[' :: rest => list item rest
  | rest => .error (mismatch "a sequence" rest)

/-- Reads with a reader and then checks what was read; what the check refuses
has no place of its own. -/
def checked (reader : Reader α) (check : α → Except String β) : Reader β := fun input => do
  let (a, rest) ← reader input
  match check a with
  | .ok b => pure (b, rest)
  | .error reason => throw (.loose (.refused reason) rest)

/-- Reads one of a list of words: a string, or an object whose only field has
the word for its name and null for its value. -/
def oneOf (words : List String) : Reader String := fun input =>
  let known (name : String) (rest : List Char) : Except Fault (String × List Char) :=
    if words.contains name then .ok (name, rest)
    else .error (.here (.unknownWord name words) rest)
  match skipBlank input with
  | [] => .error (.peek .endInValue [])
  | '"' :: rest => do
    let (name, rest) ← string rest
    known name rest
  | '\x7b' :: rest => do
    match skipBlank rest with
    | '"' :: rest =>
      let (name, rest) ← string rest
      let (name, rest) ← known name rest
      let (_, rest) ← null (← colon rest)
      match skipBlank rest with
      | [] => throw (.here .endInObject [])
      | '\x7d' :: rest => pure (name, rest)
      | rest => throw (.here .expectedValue rest)
    | rest => throw (mismatch "variant identifier" rest)
  | rest => .error (.peek .expectedValue rest)

/-! ## Skipping values -/

/-- Skips the exponent of a number, after the letter. -/
def skipExponent (input : List Char) : Except Fault (List Char) :=
  let input := match input with
    | '+' :: rest | '-' :: rest => rest
    | _ => input
  match input with
  | [] => .error (.here .invalidNumber [])
  | c :: rest =>
    if c.isDigit then .ok (rest.dropWhile Char.isDigit)
    else .error (.located .invalidNumber (byteLength (c :: rest) - 1))

/-- Skips what may follow the whole part of a number. -/
def skipFraction (input : List Char) : Except Fault (List Char) :=
  match input with
  | '.' :: rest =>
    if (rest.takeWhile Char.isDigit).isEmpty then .error (.peek .invalidNumber rest)
    else match rest.dropWhile Char.isDigit with
      | 'e' :: rest | 'E' :: rest => skipExponent rest
      | rest => .ok rest
  | 'e' :: rest | 'E' :: rest => skipExponent rest
  | rest => .ok rest

/-- Skips a number, after its sign. -/
def skipNumber (input : List Char) : Except Fault (List Char) :=
  match input with
  | [] => .error (.here .invalidNumber [])
  | c :: rest =>
    if c = '0' then
      if (rest.takeWhile Char.isDigit).isEmpty then skipFraction rest
      else .error (.peek .invalidNumber rest)
    else if c.isDigit then skipFraction (rest.dropWhile Char.isDigit)
    else .error (.located .invalidNumber (byteLength (c :: rest) - 1))

/-- Skips a string, after its opening mark. Surrogates need not be paired. -/
def skipString : (state : StringState) → (input : List Char) → Except Fault (List Char)
  | _, [] => .error (.here .endInString [])
  | .between, c :: rest =>
    if c = '\\' then skipString .escape rest
    else if c = '"' then .ok rest
    else if c.toNat < 0x20 then .error (.here .controlCharacter (c :: rest))
    else skipString .between rest
  | .escape, c :: rest =>
    if c = 'u' then skipString (.hex 4 0) rest
    else if (simpleEscape c).isSome then skipString .between rest
    else .error (.located .invalidEscape (byteLength (c :: rest) - 1))
  | .hex missing value, c :: rest =>
    if (hexValue c).isSome then
      skipString (if 1 < missing then .hex (missing - 1) value else .between) rest
    else if missing ≤ byteLength (c :: rest) then
      .error (.located .invalidEscape (byteLength (c :: rest) - missing))
    else .error (.here .endInString [])

/-- What is skipped next. -/
inductive SkipState where
  /-- A value. -/
  | value
  /-- What follows in the innermost array or object; a comma only if something
  precedes it. -/
  | rest (comma : Bool)

/-- Skips a value. `inObject` tells of every array and object that is open
whether it is an object, innermost first; `bound` limits the number of
values and ends. -/
def skip : (bound : Nat) → SkipState → (inObject : List Bool) → (input : List Char) →
    Except Fault (List Char)
  | 0, _, _, input => .error (.peek .endInValue input)
  | bound + 1, .value, inObject, input =>
    let after : Except Fault (List Char) → Except Fault (List Char)
      | .error fault => .error fault
      | .ok rest => skip bound (.rest true) inObject rest
    match skipBlank input with
    | [] => .error (.peek .endInValue [])
    | c :: rest =>
      if c = 'n' then after (word "ull".toList rest)
      else if c = 't' then after (word "rue".toList rest)
      else if c = 'f' then after (word "alse".toList rest)
      else if c = '-' then after (skipNumber rest)
      else if c.isDigit then after (skipNumber (c :: rest))
      else if c = '"' then after (skipString .between rest)
      else if c = '[' then skip bound (.rest false) (false :: inObject) rest
      else if c = '\x7b' then skip bound (.rest false) (true :: inObject) rest
      else .error (.peek .expectedValue (c :: rest))
  | _ + 1, .rest _, [], input => .ok input
  | bound + 1, .rest comma, object :: inObject, input =>
    let part (input : List Char) : Except Fault (List Char) :=
      if object then
        match skipBlank input with
        | [] => .error (.peek .endInObject [])
        | '"' :: rest =>
          match skipString .between rest with
          | .error fault => .error fault
          | .ok rest =>
            match colon rest with
            | .error fault => .error fault
            | .ok rest => skip bound .value (object :: inObject) rest
        | rest => .error (.peek .nameNotString rest)
      else skip bound .value (object :: inObject) input
    match skipBlank input with
    | [] => .error (.peek (if object then .endInObject else .endInList) [])
    | c :: rest =>
      if c = ',' ∧ comma then part rest
      else if c = (if object then '\x7d' else ']') then skip bound (.rest true) inObject rest
      else if comma then
        .error (.peek
          (if object then .expectedCommaOrEndOfObject else .expectedCommaOrEndOfList) (c :: rest))
      else part (c :: rest)

/-- Skips any value. -/
def skipValue (input : List Char) : Except Fault (List Char) :=
  skip (2 * input.length + 2) .value [] input

/-! ## Records -/

/-- **A column of a record** whose fields are gathered in a state `σ`. -/
structure Column (σ : Type) where
  /-- The name of the field. -/
  name : String
  /-- Whether the record must have the field. -/
  required : Bool
  /-- Whether the field was read before. -/
  isSet : σ → Bool
  /-- Reads the value of the field. -/
  read : σ → Reader σ

/-- **The shape of a record.** -/
structure Shape (σ α : Type) where
  /-- What messages call the record. -/
  expected : String
  /-- The columns, in the order of declaration. -/
  columns : List (Column σ)
  /-- The state before any field is read. -/
  start : σ
  /-- The record, once all fields there are have been read. -/
  finish : σ → Except Cause α

/-- The value of a field that must have been read. -/
def require (name : String) : Option α → Except Cause α
  | some a => .ok a
  | none => .error (.missingField name)

namespace Shape

variable {σ α : Type}

/-- Reads one field of an object. -/
def field (shape : Shape σ α) (s : σ) (name : String) : Reader σ := fun input =>
  match shape.columns.find? fun c => c.name = name with
  | some column =>
    if column.isSet s then .error (.loose (.repeatedField name) input)
    else do column.read s (← colon input)
  | none => do pure (s, ← skipValue (← colon input))

/-- Finds the next item of an array; none when the array ends. -/
def nextItem (first : Bool) (input : List Char) : Except Fault (Option (List Char)) :=
  match skipBlank input with
  | [] => .error (.peek .endInList [])
  | ']' :: _ => .ok none
  | c :: rest =>
    if first then .ok (some (c :: rest))
    else if c = ',' then
      match skipBlank rest with
      | [] => .error (.peek .endInValue [])
      | ']' :: rest => .error (.peek .trailingComma (']' :: rest))
      | rest => .ok (some rest)
    else .error (.peek .expectedCommaOrEndOfList (c :: rest))

/-- Reads the items of an array into the columns, one by one. -/
def places (shape : Shape σ α) : (place : Nat) → List (Column σ) → σ → Reader σ
  | _, [], s, input => .ok (s, input)
  | place, column :: columns, s, input =>
    match nextItem (place == 0) input with
    | .error fault => .error fault
    | .ok (some rest) =>
      match column.read s rest with
      | .error fault => .error fault
      | .ok (s, rest) => places shape (place + 1) columns s rest
    | .ok none =>
      if column.required then
        let size := Text.natural shape.columns.length
        .error (.loose
          (.invalidLength place (shape.expected ++ " with " ++ size ++ " elements")) input)
      else places shape (place + 1) columns s input

/-- Demands the end of an array. -/
def endOfList (input : List Char) : Except Fault (List Char) :=
  match skipBlank input with
  | [] => .error (.peek .endInList [])
  | ']' :: rest => .ok rest
  | ',' :: rest =>
    match skipBlank rest with
    | ']' :: rest => .error (.peek .trailingComma (']' :: rest))
    | rest => .error (.peek .trailingCharacters rest)
  | rest => .error (.peek .trailingCharacters rest)

/-- **Reads a record of a shape.** -/
def read (shape : Shape σ α) : Reader α := fun input =>
  match skipBlank input with
  | '[' :: rest =>
    match places shape 0 shape.columns shape.start rest with
    | .error fault => .error (fault.settle closeList)
    | .ok (s, rest) =>
      match shape.finish s with
      | .error cause => .error (.here cause (closeList rest))
      | .ok a => (endOfList rest).map (a, ·)
  | '\x7b' :: rest => object shape.start shape.field shape.finish rest
  | rest => .error (mismatch shape.expected rest)

end Shape

/-- A column whose values wait in a slot of the state. -/
def column (name : String) (required : Bool) (reader : Reader α)
    (get : σ → Option α) (set : σ → α → σ) : Column σ where
  name := name
  required := required
  isSet s := (get s).isSome
  read s := fun input => (reader input).map fun (a, rest) => (set s a, rest)

end InstructionStore.Json.Reader
