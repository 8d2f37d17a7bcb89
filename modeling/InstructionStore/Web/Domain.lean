import InstructionStore.Web.Composition
import InstructionStore.Web.Direction
import InstructionStore.Web.Joining
import InstructionStore.Web.Mapping
import InstructionStore.Web.Punycode

/-!
# Domain names

A domain name is a sequence of **labels** with points between them, in any
script. It is read in four steps: the characters are mapped, letters and marks
are put together, the text is cut at the points, and labels written in plain
letters – those that begin with `xn--` – are decoded. Then each label is checked:
it holds no character that has a meaning in an address, begins with no mark,
has joiners only where they are fit, and if any label of the name has characters
running from right to left, every label follows the rule of direction. A label
that was decoded must be what its own characters are read as.

`Domain.ofText?` gives the labels as they are written where only plain letters
will do, as far as these are plain, because that is what decides whether a name
is a number.
-/

namespace InstructionStore.Web

/-- **A label of a domain name.** -/
structure Label where
  /-- Its characters before it is decoded. -/
  written : List Char
  /-- Its characters. -/
  shown : List Char
deriving DecidableEq

/-- **A domain name.** -/
structure Domain where
  /-- The labels, from left to right. -/
  labels : List Label
deriving DecidableEq

namespace Domain

/-- The characters with a meaning in an address besides blanks and control
characters, none of which a name can hold. -/
def delimiters : List Char := "%#/:<>?@[\\]^|".toList

/-- Whether a character cannot stand in a label. -/
def isForbidden (c : Char) : Bool := c ≤ ' ' || c = '\x7f' || delimiters.contains c

/-- The greatest length of a run that is decoded. -/
def longestCode : Nat := 2000

/-- The greatest length of a label that is not plain. -/
def longestLabel : Nat := 1000

/-- Whether all characters are plain. -/
def isPlain (label : List Char) : Bool := label.all fun c => c.toNat < 128

/-- What a text is read as: its characters mapped, and letters and marks put
together. -/
def read? (text : List Char) : Option (List Char) :=
  (text.mapM Mapping.read?).map fun texts => Composition.composed texts.flatten

/-- Cuts a text at the points. -/
def cut : List Char → List (List Char)
  | [] => [[]]
  | c :: rest =>
    if c = '.' then [] :: cut rest
    else match cut rest with
      | [] => [[c]]
      | label :: labels => (c :: label) :: labels

/-- Decodes a label in plain letters, which has to be what it is read as and
cannot hold a point. -/
def decode? (code : List Char) : Option (List Char) :=
  if longestCode < code.length || code.getLast? = some '-' || !isPlain code then none
  else
    match Punycode.decode? code with
    | none => none
    | some label =>
      if code.isEmpty || read? label != some label || label.contains '.' then none else some label

/-- A label of a name that has been read. -/
def label? (written : List Char) : Option Label :=
  match written with
  | 'x' :: 'n' :: '-' :: '-' :: code => (decode? code).map fun shown => ⟨written, shown⟩
  | _ => some ⟨written, written⟩

/-- Whether a label is fit on its own. -/
def isFit (label : Label) : Bool :=
  !label.shown.any isForbidden && Joining.isRegular label.shown &&
    (isPlain label.shown || label.shown.length ≤ longestLabel)

/-- Whether the labels are fit together. -/
def areDirected (labels : List Label) : Bool :=
  !labels.any (fun label => label.shown.any Direction.isRightToLeft) ||
    labels.all fun label => Direction.isRegular label.shown

/-- **Reads a domain name.** -/
def ofText? (text : List Char) : Option Domain := do
  let labels ← (cut (← read? text)).mapM label?
  if labels.all isFit && areDirected labels then some ⟨labels⟩ else none

/-- Whether a name has no characters at all. -/
def isEmpty (d : Domain) : Bool := d.labels = [⟨[], []⟩]

end Domain

end InstructionStore.Web
