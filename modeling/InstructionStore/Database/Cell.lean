import InstructionStore.Number.Numeral

/-!
# Cells

A cell of a table holds nothing, a whole number, a text or bytes. A column asks
for one kind only, but does not insist: `Affinity.store` turns a number into a
text or a text into a number where that loses nothing, and otherwise leaves the
cell as it is. So a reader cannot take the kind of a cell for granted, and the
functions at the end of this module give an answer for cells of the right kind
only.

Cells of all kinds are ordered: nothing comes first, then numbers, texts and
bytes.
-/

namespace InstructionStore.Database

/-- **What stands in one column of one row.** -/
inductive Cell where
  /-- Nothing. -/
  | null
  /-- A whole number. -/
  | integer (n : Int64)
  /-- A text. -/
  | text (s : String)
  /-- Bytes. -/
  | blob (bytes : List UInt8)
deriving DecidableEq

namespace Cell

/-- The place of a kind of cell among the kinds. -/
def rank : Cell → Nat
  | null => 0
  | integer _ => 1
  | text _ => 2
  | blob _ => 3

/-- Whether a cell does not come after another in the order of cells. -/
def le : Cell → Cell → Bool
  | integer m, integer n => m ≤ n
  | text s, text t => !decide (t < s)
  | blob a, blob b => !decide (b < a)
  | a, b => a.rank ≤ b.rank

/-- The order of pairs of cells, the first cell being the one that counts
more. -/
def lePair (a b : Cell × Cell) : Bool := if a.1 = b.1 then le a.2 b.2 else le a.1 b.1

/-- The text of a cell that holds one. -/
def text? : Cell → Option String
  | text s => some s
  | _ => none

/-- The number of a cell that holds one. -/
def integer? : Cell → Option Int64
  | integer n => some n
  | _ => none

/-- The text of a cell that holds one or nothing. -/
def optionalText? : Cell → Option (Option String)
  | null => some none
  | text s => some (some s)
  | _ => none

/-- The cell for a text that may be absent. -/
def ofOptional : Option String → Cell
  | none => null
  | some s => text s

@[simp] theorem text?_text (s : String) : (text s).text? = some s := rfl

@[simp] theorem integer?_integer (n : Int64) : (integer n).integer? = some n := rfl

@[simp] theorem optionalText?_ofOptional (s : Option String) :
    (ofOptional s).optionalText? = some s := by cases s <;> rfl

end Cell

/-- **The kind of cell a column asks for.** -/
inductive Affinity where
  /-- Texts. -/
  | text
  /-- Whole numbers. -/
  | integer
deriving DecidableEq

/-- Reads a text as a whole number that fits 64 bits: decimal digits after at most
one sign, with blanks around them. A decimal with a point or an exponent counts if
the number nearest to it is whole. -/
def numeral? (text : String) : Option Int64 :=
  let isBlank (c : Char) : Bool := c = ' ' || ('\t' ≤ c && c ≤ '\x0d')
  let trimmed := ((text.toList.dropWhile isBlank).reverse.dropWhile isBlank).reverse
  let (negative, digits) := match trimmed with
    | '-' :: rest => (true, rest)
    | '+' :: rest => (false, rest)
    | rest => (false, rest)
  match Text.number? 10 digits with
  | some size =>
    let n : Int := if negative then -size else size
    if n < Int64.minValue.toInt || Int64.maxValue.toInt < n then none else some (Int64.ofInt n)
  | none =>
    match (Binary64.Decimal.ofText? digits).bind (Binary64.ofDecimal? negative) with
    | none => none
    | some x =>
      (x.toInt?.filter fun n => Int64.minValue.toInt < n && n < Int64.maxValue.toInt).map
        Int64.ofInt

/-- The cell a column keeps when it is given one. -/
def Affinity.store : Affinity → Cell → Cell
  | .text, .integer n => .text (Text.integer n.toInt)
  | .integer, .text s => match numeral? s with
    | some n => .integer n
    | none => .text s
  | _, c => c

end InstructionStore.Database
