import InstructionStore.Unicode.Ranges

/-!
# Sequences of characters

Some characters stand for several others, and standards list them one by one. A
`SequenceTable` is such a list in increasing order of the characters, in which
`SequenceTable.find?` looks by halving.

The tables are written as text like those of ranges: entries with single blanks
between them, and in each entry the code point of the character and those of the
sequence, in hexadecimal, with colons between them.
-/

namespace InstructionStore.Unicode

/-- **A table of sequences.** -/
structure SequenceTable where
  /-- The characters with their sequences, in increasing order. -/
  entries : Array (Char × List Char)
deriving Inhabited

namespace SequenceTable

/-- The sequence of a character among `entries[lo:hi]`, by halving. -/
def search (entries : Array (Char × List Char)) (c : Char) (lo hi : Nat) : Option (List Char) :=
  if lo < hi then
    let mid := (lo + hi) / 2
    match entries[mid]? with
    | none => none
    | some (key, sequence) =>
      if c < key then search entries c lo mid
      else if key < c then search entries c (mid + 1) hi
      else some sequence
  else none
termination_by hi - lo

/-- The sequence a character stands for. -/
def find? (table : SequenceTable) (c : Char) : Option (List Char) :=
  search table.entries c 0 table.entries.size

/-- The first character that stands for a sequence. -/
def keyOf? (table : SequenceTable) (sequence : List Char) : Option Char :=
  (table.entries.find? fun entry => entry.2 = sequence).map (·.1)

/-- Reads the numbers of an entry, given the one in progress. -/
def readNumbers (current : Nat) : List Char → List Nat
  | [] => [current]
  | c :: rest =>
    if c = ':' then current :: readNumbers 0 rest
    else readNumbers (current * 16 + RangeTable.hexDigit c) rest

/-- Adds the entries of a line to those before it. -/
def addLine (entries : Array (Char × List Char)) (line : String) : Array (Char × List Char) :=
  (line.splitOn " ").foldl (fun entries word =>
    match (readNumbers 0 word.toList).map Char.ofNat with
    | [] => entries
    | key :: sequence => entries.push (key, sequence)) entries

/-- **The table a text denotes**, given by its lines in the notation above. -/
def ofLines (lines : List String) : SequenceTable := ⟨lines.foldl addLine #[]⟩

end SequenceTable

end InstructionStore.Unicode
