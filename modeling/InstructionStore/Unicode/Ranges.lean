/-!
# Ranges of code points

A property of characters is **a table of ranges**: inclusive, disjoint and in
increasing order. Standards publish their properties in this form, and this
module holds the one shape all the tables of the library share, so that each
table module is data only.

A table may carry a value per range – a class, a rule – or nothing but
membership. `RangeTable.find?` answers with the value of the range a code
point falls in, by halving the interval of candidate ranges.

The tables are written as text, in hexadecimal, because a text literal of a
few thousand characters costs the compiler nothing while an array literal of
as many entries does. `RangeTable.ofLines` reads that notation.
-/

namespace InstructionStore.Unicode

/-- An inclusive range of code points with the value its members share. -/
structure Range where
  /-- The first code point of the range. -/
  first : Nat
  /-- The last code point of the range, itself included. -/
  last : Nat
  /-- What the table says about the members of the range. -/
  value : Nat
deriving Inhabited

/-- **A table of code points**: ranges in increasing order. -/
structure RangeTable where
  /-- The ranges, disjoint and in increasing order. -/
  ranges : Array Range
deriving Inhabited

namespace RangeTable

/-- The range of `ranges[lo:hi]` that holds `n`, by halving. -/
def search (ranges : Array Range) (n lo hi : Nat) : Option Range :=
  if lo < hi then
    let mid := (lo + hi) / 2
    match ranges[mid]? with
    | none => none
    | some r =>
      if n < r.first then search ranges n lo mid
      else if r.last < n then search ranges n (mid + 1) hi
      else some r
  else none
termination_by hi - lo

/-- The range a code point falls in. -/
def find? (table : RangeTable) (c : Char) : Option Range :=
  search table.ranges c.toNat 0 table.ranges.size

/-- The value of the range a code point falls in. -/
def value? (table : RangeTable) (c : Char) : Option Nat :=
  (table.find? c).map Range.value

/-- Membership in the table. -/
def contains (table : RangeTable) (c : Char) : Bool :=
  (table.find? c).isSome

/-! ## The notation of tables

Entries of a line are separated by single blanks. An entry is `first`, `first-last`,
or either of them followed by `:value`; all numbers are hexadecimal with
lowercase letters. -/

/-- The value of a hexadecimal digit; characters that are no digit count as
zero, which a table never holds. -/
def hexDigit (c : Char) : Nat :=
  if '0' ≤ c ∧ c ≤ '9' then c.toNat - '0'.toNat
  else if 'a' ≤ c ∧ c ≤ 'f' then c.toNat - 'a'.toNat + 10
  else 0

/-- What has been read of one entry: the numbers finished, last first, and
the number in progress. -/
structure Entry where
  /-- The first code point, once the `-` or `:` after it is read. -/
  first : Option Nat
  /-- The last code point, once the `:` after it is read. -/
  last : Option Nat
  /-- Whether the number in progress is the value. -/
  inValue : Bool
  /-- The number in progress. -/
  current : Nat

/-- The entry of which nothing is read yet. -/
def Entry.start : Entry := ⟨none, none, false, 0⟩

/-- The range a finished entry names. -/
def Entry.range (e : Entry) : Range :=
  match e.first, e.last, e.inValue with
  | some a, some b, _ => ⟨a, b, e.current⟩
  | some a, none, false => ⟨a, e.current, 0⟩
  | some a, none, true => ⟨a, a, e.current⟩
  | none, _, _ => ⟨e.current, e.current, 0⟩

/-- Reads one character of an entry. -/
def Entry.push (e : Entry) (c : Char) : Entry :=
  if c = '-' then { e with first := some e.current, current := 0 }
  else if c = ':' then
    match e.first with
    | none => { e with first := some e.current, current := 0, inValue := true }
    | some _ => { e with last := some e.current, current := 0, inValue := true }
  else { e with current := e.current * 16 + hexDigit c }

/-- The ranges one line of the notation holds, added to those before it. -/
def addLine (ranges : Array Range) (line : String) : Array Range :=
  let (done, last) := line.toList.foldl
    (fun (done, e) c => if c = ' ' then (done.push e.range, Entry.start) else (done, e.push c))
    (ranges, Entry.start)
  done.push last.range

/-- **The table a text denotes**, given by its lines in the notation above. -/
def ofLines (lines : List String) : RangeTable :=
  ⟨lines.foldl addLine #[]⟩

end RangeTable

end InstructionStore.Unicode
