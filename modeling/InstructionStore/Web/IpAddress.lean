import InstructionStore.Text.Numeral

/-!
# Hosts given by numbers

A host whose last part is a number is given by up to four numbers with points
between them, in decimal digits, or in octal ones after a `0`, or hexadecimal
ones after `0x`. All but the last number are bytes, and the last one fills the
rest of the four bytes.

A host in brackets is given by eight **pieces** of up to four hexadecimal digits
with colons between them. One run of pieces that are zero may be left out and is
marked by two colons. The last two pieces can be given by four decimal bytes with
points between them.
-/

namespace InstructionStore.Web.IpAddress

open Text (digit? digits?)

/-- **A part that is a number.** A lone `0x` is zero. -/
def number? (text : List Char) : Option Nat :=
  match text with
  | [] => none
  | '0' :: 'x' :: rest | '0' :: 'X' :: rest => digits? 16 rest
  | '0' :: c :: rest => digits? 8 (c :: rest)
  | _ => digits? 10 text

/-- The parts without the empty one behind a point at the end. -/
def trimmed (parts : List (List Char)) : List (List Char) :=
  if parts.length ≠ 1 ∧ parts.getLast? = some [] then parts.dropLast else parts

/-- Whether the parts of a host end in a number, and so have to be numbers. -/
def endsInNumber (parts : List (List Char)) : Bool :=
  match (trimmed parts).getLast? with
  | none => false
  | some last =>
    (!last.isEmpty && last.all Char.isDigit) || (number? last).isSome

/-- **Whether the parts of a host are numbers that give four bytes.** -/
def isNumeric (parts : List (List Char)) : Bool :=
  let parts := trimmed parts
  match (parts.mapM number?).map List.reverse with
  | none | some [] => false
  | some (last :: others) =>
    parts.length ≤ 4 && others.all (· ≤ 255) && last < 1 <<< (8 * (4 - others.length))

/-! ## Pieces -/

/-- A decimal byte without zeros in front. -/
def isByte (text : List Char) : Bool :=
  match text with
  | ['0'] => true
  | '0' :: _ | [] => false
  | _ => (digits? 10 text).any (· ≤ 255)

/-- Cuts a text at a character. -/
def cut (separator : Char) : List Char → List (List Char)
  | [] => [[]]
  | c :: rest =>
    if c = separator then [] :: cut separator rest
    else match cut separator rest with
      | [] => [[c]]
      | part :: parts => (c :: part) :: parts

/-- Whether a text is a piece. -/
def isPiece (text : List Char) : Bool :=
  !text.isEmpty && text.length ≤ 4 && (digits? 16 text).isSome

/-- How many pieces a part between colons gives, if it can stand there; only the
last part can be four bytes. -/
def piecesOf (isLast : Bool) (part : List Char) : Option Nat :=
  if isPiece part then some 1
  else
    let bytes := cut '.' part
    if isLast && bytes.length = 4 && bytes.all isByte then some 2 else none

/-- How many pieces some parts give; `isEnd` says whether the last part ends the
host. -/
def count? (isEnd : Bool) : List (List Char) → Option Nat
  | [] => some 0
  | [part] => piecesOf isEnd part
  | part :: rest => do return (← piecesOf false part) + (← count? isEnd rest)

/-- The parts of a text between colons; an empty text has none. -/
def partsOf (text : List Char) : List (List Char) := if text.isEmpty then [] else cut ':' text

/-- Cuts a text at the first two colons that stand together. -/
def cutAtGap : List Char → Option (List Char × List Char)
  | ':' :: ':' :: rest => some ([], rest)
  | c :: rest => (cutAtGap rest).map fun (a, b) => (c :: a, b)
  | [] => none

/-- **Whether a text in brackets gives eight pieces.** -/
def isPieces (text : List Char) : Bool :=
  match cutAtGap text with
  | none => count? true (partsOf text) = some 8
  | some (front, back) =>
    match count? false (partsOf front), count? true (partsOf back) with
    | some m, some n => m + n ≤ 7
    | _, _ => false

end InstructionStore.Web.IpAddress
