import InstructionStore.Json.Fault

/-!
# Reading JSON text

**A reader** takes the characters still to be read and gives a value together
with the characters after it, or a fault. This module holds the readers of
whole values; `InstructionStore.Json.Record` builds readers of records from
the same parts.

* `elements` and `members` are the loops inside brackets and braces. Each is
  given a reader for what stands between the commas. At most one item begins
  at each character, so the length of the text bounds the loops.
* `value room` reads any value in which at most `room` arrays and objects are
  open at once.
* `whole` runs a reader on a text and demands that only blanks follow.

A float is read in one multiplication: the digits are collected as long as
they fit 64 bits, and the number they make is then multiplied or divided once
by a power of ten. The result can miss the nearest float by a little, and the
digits that did not fit count only through their number.
-/

namespace InstructionStore.Json

/-- **A reader**: from the characters to be read to a value and the characters
after it. -/
abbrev Reader (α : Type u) := List Char → Except Fault (α × List Char)

namespace Reader

/-- A blank between tokens. -/
def isBlank (c : Char) : Bool := c = ' ' || c = '\n' || c = '\t' || c = '\r'

/-- The text after its leading blanks. -/
def skipBlank (text : List Char) : List Char := text.dropWhile isBlank

/-- Reads the rest of a word whose first letter is read. -/
def word : (expected text : List Char) → Except Fault (List Char)
  | [], text => .ok text
  | _ :: _, [] => .error (.here .endInValue [])
  | e :: es, c :: rest =>
    if c = e then word es rest
    else .error (.located .expectedWord (byteLength (c :: rest) - 1))

/-! ## Numbers -/

/-- The greatest number that fits 64 bits. -/
def maxWord : Nat := 0xffffffffffffffff

/-- The greatest exponent that is told from a greater one. -/
def maxExponent : Nat := 0x7fffffff

/-- The value of a decimal digit. -/
def digitValue (c : Char) : Nat := c.toNat - '0'.toNat

/-- Appends digits to a number while it stays within a bound; the digits from
the first that does not fit are given back. -/
def accumulate (bound : Nat) : (start : Nat) → List Char → Nat × List Char
  | n, [] => (n, [])
  | n, d :: ds =>
    if n * 10 + digitValue d ≤ bound then accumulate bound (n * 10 + digitValue d) ds
    else (n, d :: ds)

/-- Divides by a power of ten, in steps of at most `10 ^ 308`. -/
def scaleDown (rank exponent : Nat) : Nat :=
  if exponent ≤ 308 then Binary64.divRank rank (Binary64.powerOfTenRank exponent)
  else if rank = 0 then 0
  else scaleDown (Binary64.divRank rank (Binary64.powerOfTenRank 308)) (exponent - 308)
termination_by exponent

/-- The rank of `significand * 10 ^ exponent`, rounded once when the
significand becomes a float and once when it is scaled. -/
def rankOfParts (significand : Nat) (exponent : Int) : Nat :=
  let rank := Binary64.rankOfRatio significand 1
  match exponent with
  | .ofNat e =>
    if e ≤ 308 then Binary64.mulRank rank (Binary64.powerOfTenRank e)
    else if rank = 0 then 0
    else Binary64.limit
  | .negSucc e => scaleDown rank (e + 1)

/-- The float with the given parts, before the rest of the text. -/
def floatOfParts (negative : Bool) (significand : Nat) (exponent : Int) : Reader Number :=
  fun rest => match Binary64.ofRank? negative (rankOfParts significand exponent) with
    | some x => .ok (.float x, rest)
    | none => .error (.here .numberOutOfRange rest)

/-- Reads the exponent of a float, after the letter. -/
def exponentPart (negative : Bool) (significand : Nat) (exponent : Int) : Reader Number :=
  fun text =>
    let (minus, text) : Bool × List Char := match text with
      | '+' :: rest => (false, rest)
      | '-' :: rest => (true, rest)
      | _ => (false, text)
    match text with
    | [] => .error (.here .endInValue [])
    | c :: rest =>
      if c.isDigit then
        let after := rest.dropWhile Char.isDigit
        let (e, unused) := accumulate maxExponent 0 (c :: rest.takeWhile Char.isDigit)
        if unused.isEmpty then
          floatOfParts negative significand (if minus then exponent - e else exponent + e) after
        else if significand ≠ 0 ∧ minus = false then
          .error (.located .numberOutOfRange (byteLength after + (unused.length - 1)))
        else .ok (.float (.zero negative), after)
      else .error (.located .invalidNumber (byteLength (c :: rest) - 1))

/-- Reads what may follow the digits of a float. -/
def afterDigits (negative : Bool) (significand : Nat) (exponent : Int) : Reader Number
  | 'e' :: rest | 'E' :: rest => exponentPart negative significand exponent rest
  | rest => floatOfParts negative significand exponent rest

/-- Reads the fraction of a float, after the point. -/
def fractionPart (negative : Bool) (significand : Nat) (exponent : Int) : Reader Number :=
  fun text =>
    let digits := text.takeWhile Char.isDigit
    let rest := text.dropWhile Char.isDigit
    if digits.isEmpty then
      .error (.peek (if rest.isEmpty then .endInValue else .invalidNumber) rest)
    else
      let (significand, unused) := accumulate maxWord significand digits
      afterDigits negative significand (exponent - (digits.length - unused.length : Nat)) rest

/-- The number that digits without a point or exponent denote: an integer if
it fits, and otherwise a float. Minus zero is a float, the only one with that
sign. -/
def wholeNumber (negative : Bool) (significand unused : Nat) : Reader Number :=
  fun rest =>
    let n : Int := if negative then -significand else significand
    if h : (minInteger ≤ n ∧ n ≤ maxInteger) ∧ unused = 0 ∧ ¬(negative ∧ significand = 0) then
      .ok (.integer n h.1, rest)
    else floatOfParts negative significand unused rest

/-- **Reads a number**, after its sign. -/
def number (negative : Bool) : Reader Number
  | [] => .error (.here .endInValue [])
  | c :: text =>
    if c.isDigit then
      let digits := text.takeWhile Char.isDigit
      if c = '0' ∧ ¬digits.isEmpty then .error (.peek .invalidNumber text)
      else
        let (significand, unused) := accumulate maxWord 0 (c :: digits)
        match text.dropWhile Char.isDigit with
        | '.' :: rest => fractionPart negative significand unused.length rest
        | 'e' :: rest | 'E' :: rest => exponentPart negative significand unused.length rest
        | rest => wholeNumber negative significand unused.length rest
    else .error (.located .invalidNumber (byteLength (c :: text) - 1))

/-! ## Strings -/

/-- The character a one-letter escape stands for. -/
def simpleEscape : Char → Option Char
  | '"' => some '"'
  | '\\' => some '\\'
  | '/' => some '/'
  | 'b' => some '\x08'
  | 'f' => some '\x0c'
  | 'n' => some '\n'
  | 'r' => some '\r'
  | 't' => some '\t'
  | _ => none

/-- The value of a hexadecimal digit. -/
def hexValue (c : Char) : Option Nat :=
  if c.isDigit then some (c.toNat - '0'.toNat)
  else if 'a' ≤ c ∧ c ≤ 'f' then some (c.toNat - 'a'.toNat + 10)
  else if 'A' ≤ c ∧ c ≤ 'F' then some (c.toNat - 'A'.toNat + 10)
  else none

/-- Where the reading of a string stands. -/
inductive StringState where
  /-- Between characters. -/
  | between
  /-- After a backslash. -/
  | escape
  /-- Inside a hexadecimal escape: the digits still to come and the value of
  those before them. -/
  | hex (missing value : Nat)

/-- **Reads a string**, after its opening mark. `high` is the first half of a
surrogate pair, when it has been read and waits for the second; `done` holds
the characters read, last first. -/
def stringBody : (state : StringState) → (high : Option Nat) → (done : List Char) →
    Reader String
  | _, _, _, [] => .error (.here .endInString [])
  | .between, high, done, c :: rest =>
    if c = '\\' then stringBody .escape high done rest
    else if high.isSome then
      .error (.located .unpairedSurrogate (byteLength (c :: rest) - 1))
    else if c = '"' then .ok (String.ofList done.reverse, rest)
    else if c.toNat < 0x20 then .error (.here .controlCharacter rest)
    else stringBody .between none (c :: done) rest
  | .escape, high, done, c :: rest =>
    if c = 'u' then stringBody (.hex 4 0) high done rest
    else if high.isSome then
      .error (.located .unpairedSurrogate (byteLength (c :: rest) - 1))
    else match simpleEscape c with
      | some e => stringBody .between none (e :: done) rest
      | none => .error (.located .invalidEscape (byteLength (c :: rest) - 1))
  | .hex missing value, high, done, c :: rest =>
    match hexValue c with
    | none =>
      if missing ≤ byteLength (c :: rest) then
        .error (.located .invalidEscape (byteLength (c :: rest) - missing))
      else .error (.here .endInString [])
    | some d =>
      let value := value * 16 + d
      if 1 < missing then stringBody (.hex (missing - 1) value) high done rest
      else match high with
        | some first =>
          if 0xdc00 ≤ value ∧ value ≤ 0xdfff then
            let c := Char.ofNat (0x10000 + (first - 0xd800) * 0x400 + (value - 0xdc00))
            stringBody .between none (c :: done) rest
          else .error (.here .loneSurrogate rest)
        | none =>
          if 0xdc00 ≤ value ∧ value ≤ 0xdfff then .error (.here .loneSurrogate rest)
          else if 0xd800 ≤ value ∧ value ≤ 0xdbff then stringBody .between (some value) done rest
          else stringBody .between none (Char.ofNat value :: done) rest

/-- Reads a string, after its opening mark. -/
def string : Reader String := stringBody .between none []

/-! ## Arrays and objects -/

/-- The text after the end of an array, when the array ends here; after a
comma, when one stands here. -/
def closeList (text : List Char) : List Char :=
  match skipBlank text with
  | ']' :: rest => rest
  | ',' :: rest => skipBlank rest
  | rest => rest

/-- The text after the end of an object, when the object ends here. -/
def closeObject (text : List Char) : List Char :=
  match skipBlank text with
  | '\x7d' :: rest => rest
  | rest => rest

/-- **Reads the items of an array** up to and with its closing bracket. `bound`
limits the number of items; `done` holds those read, last first. -/
def elements (item : Reader α) : (bound : Nat) → (first : Bool) → (done : List α) →
    Reader (List α)
  | 0, _, _, text => .error (.peek .endInList text)
  | bound + 1, first, done, text =>
    let next (text : List Char) : Except Fault (List α × List Char) :=
      match item text with
      | .error fault => .error (fault.settle closeList)
      | .ok (a, rest) => elements item bound false (a :: done) rest
    match skipBlank text with
    | [] => .error (.peek .endInList [])
    | ']' :: rest => .ok (done.reverse, rest)
    | c :: rest =>
      if first then next (c :: rest)
      else if c = ',' then
        match skipBlank rest with
        | [] => .error (.peek .endInValue [])
        | ']' :: rest => .error (.peek .trailingComma (']' :: rest))
        | rest => next rest
      else .error (.peek .expectedCommaOrEndOfList (c :: rest))

/-- Reads the colon after the name of a field. -/
def colon (text : List Char) : Except Fault (List Char) :=
  match skipBlank text with
  | [] => .error (.peek .endInObject [])
  | ':' :: rest => .ok rest
  | rest => .error (.peek .expectedColon rest)

/-- **Reads the fields of an object** up to its closing brace, which is left to
read. `field` is told what the fields before have come to and the name that
was read, and goes on from the colon; `bound` limits the number of fields. -/
def members (field : σ → String → Reader σ) : (bound : Nat) → (first : Bool) → σ → Reader σ
  | 0, _, _, text => .error (.peek .endInObject text)
  | bound + 1, first, s, text =>
    let next (text : List Char) : Except Fault (σ × List Char) :=
      match text with
      | '"' :: rest =>
        match string rest with
        | .error fault => .error fault
        | .ok (name, rest) =>
          match field s name rest with
          | .error fault => .error fault
          | .ok (s, rest) => members field bound false s rest
      | rest => .error (.peek .nameNotString rest)
    match skipBlank text with
    | [] => .error (.peek .endInObject [])
    | '\x7d' :: rest => .ok (s, '\x7d' :: rest)
    | c :: rest =>
      if first then next (c :: rest)
      else if c = ',' then
        match skipBlank rest with
        | [] => .error (.peek .endInValue [])
        | '\x7d' :: rest => .error (.peek .trailingComma ('\x7d' :: rest))
        | rest => next rest
      else .error (.peek .expectedCommaOrEndOfObject (c :: rest))

/-- **Reads an object**, after its opening brace: its fields one by one, and
then what they come to as a whole. -/
def object (start : σ) (field : σ → String → Reader σ) (finish : σ → Except Cause α) :
    Reader α := fun text =>
  match members field (text.length + 1) true start text with
  | .error fault => .error (fault.settle closeObject)
  | .ok (s, rest) =>
    match finish s with
    | .error cause => .error (.here cause (closeObject rest))
    | .ok a => .ok (a, closeObject rest)

/-- Reads an array, after its opening bracket. -/
def list (item : Reader α) : Reader (List α) := fun text =>
  elements item (text.length + 1) true [] text

/-! ## Values -/

/-- **Reads any value** in which at most `room` arrays and objects are open at
once. -/
def value : (room : Nat) → Reader Json
  | room, text =>
    match skipBlank text with
    | [] => .error (.peek .endInValue [])
    | c :: rest =>
      if c = 'n' then (word "ull".toList rest).map (Json.null, ·)
      else if c = 't' then (word "rue".toList rest).map (Json.bool true, ·)
      else if c = 'f' then (word "alse".toList rest).map (Json.bool false, ·)
      else if c = '-' then (number true rest).map fun (n, rest) => (Json.number n, rest)
      else if c.isDigit then
        (number false (c :: rest)).map fun (n, rest) => (Json.number n, rest)
      else if c = '"' then (string rest).map fun (s, rest) => (Json.string s, rest)
      else if c = '[' then
        match room with
        | 0 => .error (.peek .nestedTooDeeply (c :: rest))
        | room + 1 => (list (value room) rest).map fun (items, rest) => (ofList items, rest)
      else if c = '\x7b' then
        match room with
        | 0 => .error (.peek .nestedTooDeeply (c :: rest))
        | room + 1 =>
          object []
            (fun entries name text => do
              let (v, rest) ← value room (← colon text)
              pure ((name, v) :: entries, rest))
            (fun entries => .ok (ofFields (.ofEntries entries.reverse)))
            rest
      else .error (.peek .expectedValue (c :: rest))

/-- Runs a reader on a whole text, after which only blanks may stand. -/
def whole (reader : Reader α) (text : String) : Except Fault α :=
  match reader text.toList with
  | .error fault => .error fault
  | .ok (a, rest) =>
    match skipBlank rest with
    | [] => .ok a
    | rest => .error (.peek .trailingCharacters rest)

end Reader

/-- How many arrays and objects may be open at once in a text that is read. -/
def nestingLimit : Nat := 127

/-- **Reads a text as one value.** -/
def parse (text : String) : Except Fault Json := Reader.whole (Reader.value nestingLimit) text

/-- Reads a text as one value, however deeply it nests. -/
def parseUnlimited (text : String) : Except Fault Json :=
  Reader.whole (Reader.value text.length) text

end InstructionStore.Json
