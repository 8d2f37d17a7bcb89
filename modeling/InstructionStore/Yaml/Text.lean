import InstructionStore.Text.Numeral
import InstructionStore.Yaml.Cursor

/-!
# Texts in documents

A text stands in a document in one of three forms: **plain**, between **quotes**,
or as a **block** of lines. In the first two it can go on over several lines, and
what separates the lines is folded: blanks around a line end count for nothing, a
single line end counts for a space, and of several the first is dropped. A block
keeps its lines, or folds those that do not begin with a blank.

The functions here read one text from the cursor on and give the cursor behind
it. They give nothing where the text is not well-formed.
-/

namespace InstructionStore.Yaml

/-- **What separates two words of a text.** -/
inductive Gap where
  /-- Blanks on one line, the last first. -/
  | blanks (reversed : List Char)
  /-- Line ends: the first, unless it was escaped, and the others, the last
  first. -/
  | breaks (first : Option Char) (reversed : List Char)

namespace Gap

/-- The gap before anything is read. -/
def none : Gap := .blanks []

/-- Whether there is nothing between the words. -/
def isNone : Gap → Bool
  | blanks [] => true
  | _ => false

/-- Whether a line ends in the gap. -/
def hasBreak : Gap → Bool
  | breaks .. => true
  | blanks _ => false

/-- A gap with one more blank or line end. -/
def push (gap : Gap) (c : Char) : Gap :=
  match gap with
  | blanks cs => if isBreak c then breaks (some c) [] else blanks (c :: cs)
  | breaks first cs => if isBreak c then breaks first (c :: cs) else gap

/-- What a gap counts for, with what stood before it, the last first. -/
def join (gap : Gap) (before : List Char) : List Char :=
  match gap with
  | blanks cs => cs ++ before
  | breaks (some '\n') [] => ' ' :: before
  | breaks (some '\n') cs => cs ++ before
  | breaks (some c) cs => cs ++ c :: before
  | breaks .none cs => cs ++ before

end Gap

/-- **A text that was read**, with the cursor behind it. -/
structure Reading where
  /-- The characters of the text, the last first. -/
  reversed : List Char
  /-- The cursor behind it. -/
  cursor : Cursor
  /-- Whether a line ended between the text and the cursor. -/
  endsLine : Bool := false

/-- The text that was read. -/
def Reading.text (r : Reading) : String := String.ofList r.reversed.reverse

/-! ## Plain texts -/

/-- Whether a plain text ends before what is left to read. -/
def endsPlain (inFlow : Bool) (text : List Char) : Bool :=
  match text with
  | [] => true
  | c :: rest => (c = ':' && atGap rest) || (inFlow && ",[]\x7b\x7d".toList.contains c)

/-- Whether a colon stands where it can neither be text nor separate anything. -/
def isStrayColon (inFlow : Bool) (text : List Char) : Bool :=
  match text with
  | ':' :: c :: _ => inFlow && ",?[]\x7b\x7d".toList.contains c
  | _ => false

/-- Reads a plain text. In a block its further lines are indented at least so
far. -/
def plainFrom (inFlow : Bool) (indent : Nat) (rest : List Char) (mark : Mark) (gap : Gap)
    (reversed : List Char) : Option Reading :=
  let here : Cursor := ⟨rest, mark⟩
  let ending := some (Reading.mk reversed here gap.hasBreak)
  match rest with
  | [] => ending
  | c :: tail =>
    if isBlank c || isBreak c then
      if gap.hasBreak && c = '\t' && mark.column < indent then Option.none
      else plainFrom inFlow indent tail (mark.after c) (gap.push c) reversed
    else if !gap.isNone && ((!inFlow && mark.column < indent) || here.isAtDocumentMark || c = '#')
    then ending
    else if isStrayColon inFlow rest then Option.none
    else if endsPlain inFlow rest then ending
    else plainFrom inFlow indent tail (mark.after c) .none (c :: gap.join reversed)

/-- **Reads a plain text.** -/
def plain (inFlow : Bool) (indent : Nat) (c : Cursor) : Option Reading :=
  plainFrom inFlow indent c.rest c.mark .none []

/-! ## Quoted texts -/

/-- Reads a text in single quotes, in which a quote is written twice. -/
def singleFrom (rest : List Char) (mark : Mark) (gap : Gap) (reversed : List Char) :
    Option Reading :=
  if (Cursor.mk rest mark).isAtDocumentMark then none
  else match rest with
    | [] => none
    | '\'' :: '\'' :: tail =>
      singleFrom tail (mark.right 2) .none ('\'' :: gap.join reversed)
    | '\'' :: tail => some ⟨gap.join reversed, ⟨tail, mark.right 1⟩, false⟩
    | c :: tail =>
      if isBlank c || isBreak c then singleFrom tail (mark.after c) (gap.push c) reversed
      else singleFrom tail (mark.after c) .none (c :: gap.join reversed)

/-- **The meaning of the letter behind a backslash.** -/
inductive Escape where
  /-- It stands for a character. -/
  | character (c : Char)
  /-- So many hexadecimal digits follow. -/
  | code (digits : Nat)

/-- The meaning of a letter behind a backslash, if it has one. -/
def escape? : Char → Option Escape
  | '0' => some (.character '\x00')
  | 'a' => some (.character '\x07')
  | 'b' => some (.character '\x08')
  | 't' | '\t' => some (.character '\t')
  | 'n' => some (.character '\n')
  | 'v' => some (.character '\x0b')
  | 'f' => some (.character '\x0c')
  | 'r' => some (.character '\r')
  | 'e' => some (.character '\x1b')
  | ' ' => some (.character ' ')
  | '"' => some (.character '"')
  | '/' => some (.character '/')
  | '\\' => some (.character '\\')
  | 'N' => some (.character '\u0085')
  | '_' => some (.character '\u00a0')
  | 'L' => some (.character '\u2028')
  | 'P' => some (.character '\u2029')
  | 'x' => some (.code 2)
  | 'u' => some (.code 4)
  | 'U' => some (.code 8)
  | _ => none

/-- Reads a text in double quotes, in which a backslash gives the next letter a
meaning or hides the end of a line. -/
def doubleFrom (rest : List Char) (mark : Mark) (gap : Gap) (reversed : List Char) :
    Option Reading :=
  if (Cursor.mk rest mark).isAtDocumentMark then none
  else match rest with
    | [] => none
    | '"' :: tail => some ⟨gap.join reversed, ⟨tail, mark.right 1⟩, false⟩
    | ['\\'] => none
    | '\\' :: c :: tail =>
      if isBreak c then
        doubleFrom tail (mark.after c) (.breaks .none []) (gap.join reversed)
      else
        match escape? c with
        | none => none
        | some (.character d) => doubleFrom tail (mark.right 2) .none (d :: gap.join reversed)
        | some (.code digits) =>
          match Text.digits? 16 (tail.take digits) with
          | none => none
          | some n =>
            if tail.length < digits || !n.isValidChar then none
            else doubleFrom (tail.drop digits) (mark.right (2 + digits)) .none
              (Char.ofNat n :: gap.join reversed)
    | c :: tail =>
      if isBlank c || isBreak c then doubleFrom tail (mark.after c) (gap.push c) reversed
      else doubleFrom tail (mark.after c) .none (c :: gap.join reversed)
termination_by rest.length
decreasing_by all_goals simp only [List.length_cons, List.length_drop]; omega

/-- **Reads a text in quotes**, from the quote on. -/
def quoted (c : Cursor) : Option Reading :=
  let inside := c.skip 1
  if c.isAt '\'' then singleFrom inside.rest inside.mark .none []
  else doubleFrom inside.rest inside.mark .none []

/-! ## Blocks -/

/-- **What is kept of the line ends behind a block.** -/
inductive Chomping where
  /-- None. -/
  | strip
  /-- The first. -/
  | clip
  /-- All. -/
  | keep
deriving DecidableEq

/-- The head of a block: how far its lines are indented more than what they stand
in, if it says so, and what is kept behind it. -/
structure BlockHead where
  /-- The indentation, from 1 to 9. -/
  indent : Option Nat
  /-- What is kept of the line ends behind it. -/
  chomping : Chomping

/-- The chomping a character asks for. -/
def chomping? : Char → Option Chomping
  | '+' => some .keep
  | '-' => some .strip
  | _ => none

/-- Reads the digit of an indentation, if there is one; it is not zero. -/
def indentOf (text : List Char) : Option (Option Nat × List Char) :=
  match text with
  | c :: rest =>
    if c = '0' then none
    else if c.isDigit then some (some (c.toNat - '0'.toNat), rest)
    else some (none, text)
  | [] => some (none, [])

/-- Reads the head of a block, in which the two parts come in either order. -/
def blockHead (text : List Char) : Option (BlockHead × List Char) :=
  match text with
  | [] => some (⟨none, .clip⟩, [])
  | c :: rest =>
    match chomping? c with
    | some k => (indentOf rest).map fun (n, rest) => (⟨n, k⟩, rest)
    | none =>
      match indentOf text with
      | none => none
      | some (none, _) => some (⟨none, .clip⟩, text)
      | some (some n, rest) =>
        match rest with
        | d :: tail =>
          match chomping? d with
          | some k => some (⟨some n, k⟩, tail)
          | none => some (⟨some n, .clip⟩, rest)
        | [] => some (⟨some n, .clip⟩, [])

/-- **A line of a document.** -/
structure Line where
  /-- Its characters. -/
  text : List Char
  /-- The character that ends it; the last line has none. -/
  ending : Option Char

/-- The lines of a text. The last one has no end. -/
def linesOf : List Char → List Line
  | [] => [⟨[], none⟩]
  | c :: rest =>
    if isBreak c then ⟨[], some c⟩ :: linesOf rest
    else match linesOf rest with
      | [] => [⟨[c], none⟩]
      | line :: lines => ⟨c :: line.text, line.ending⟩ :: lines

/-- The text of lines. -/
def ofLines (lines : List Line) : List Char :=
  lines.flatMap fun line => line.text ++ line.ending.toList

/-- The number of spaces a line begins with. -/
def Line.spaces (line : Line) : Nat := (line.text.takeWhile (· = ' ')).length

/-- **What a line is to a block** with a given indentation. -/
inductive LineRole where
  /-- Nothing stands on it. -/
  | blank (ending : Char)
  /-- It is a line of the block. -/
  | content (text : List Char) (ending : Option Char)
  /-- The block ends before it. -/
  | outside
  /-- A tab stands where spaces have to. -/
  | faulty

/-- What a line is to a block with a given indentation. -/
def Line.role (line : Line) (indent : Nat) : LineRole :=
  let spaces := min line.spaces indent
  match line.text.drop spaces, line.ending with
  | [], some c => .blank c
  | [], none => .outside
  | '\t' :: _, _ =>
    if spaces < indent then .faulty else .content (line.text.drop spaces) line.ending
  | text, ending => if spaces < indent then .outside else .content text ending

/-- The indentation of a block whose head does not give it: that of its first line
that is not blank, but not less than a given one, and not less than the spaces
on the blank lines before. Nothing if a tab stands in front of that line. -/
def findIndent (least : Nat) : List Line → Option Nat
  | [] => some least
  | line :: lines =>
    let least := max least line.spaces
    match line.text.drop line.spaces, line.ending with
    | [], some _ => findIndent least lines
    | '\t' :: _, _ => none
    | _, _ => some least

/-- What has been read of a block. -/
structure BlockText where
  /-- The characters, the last first. -/
  reversed : List Char := []
  /-- The end of the last line. -/
  ending : Option Char := none
  /-- The ends of the blank lines after it, the last first. -/
  blanks : List Char := []
  /-- Whether the last line begins with a blank. -/
  startsBlank : Bool := false

/-- What has been read of a block, with one line more. -/
def BlockText.add (b : BlockText) (folded : Bool) (text : List Char) (ending : Option Char) :
    BlockText :=
  let startsBlank := text.head?.any isBlank
  let joins := folded && b.ending = some '\n' && !b.startsBlank && !startsBlank
  let before :=
    if joins then (if b.blanks.isEmpty then ' ' :: b.reversed else b.blanks ++ b.reversed)
    else b.blanks ++ b.ending.toList ++ b.reversed
  { reversed := text.reverse ++ before, ending, startsBlank }

/-- Reads the lines of a block, and gives the lines behind it. -/
def blockLines (folded : Bool) (indent : Nat) (b : BlockText) :
    List Line → Option (BlockText × List Line)
  | [] => some (b, [])
  | line :: lines =>
    match line.role indent with
    | .blank c => blockLines folded indent { b with blanks := c :: b.blanks } lines
    | .content text ending => blockLines folded indent (b.add folded text ending) lines
    | .outside => some (b, line :: lines)
    | .faulty => none

/-- The text of a block with what is kept of the line ends behind it. -/
def BlockText.chomped (b : BlockText) : Chomping → List Char
  | .strip => b.reversed
  | .clip => b.ending.toList ++ b.reversed
  | .keep => b.blanks ++ b.ending.toList ++ b.reversed

/-- **Reads a block**, from the sign in front of its head on. What it stands in is
indented so far, or not at all. -/
def block (outer : Option Nat) (c : Cursor) : Option Reading := do
  let folded := c.isAt '>'
  let afterSign := c.skip 1
  let (head, rest) ← blockHead afterSign.rest
  let start ← (afterSign.skip (afterSign.rest.length - rest.length)).skipComment.endLine?
  let lines := linesOf start.rest
  let indent ← match head.indent with
    | some n => some (outer.getD 0 + n)
    | none => findIndent (max 1 ((outer.map (· + 1)).getD 0)) lines
  let (b, after) ← blockLines folded indent {} lines
  let length := start.rest.length - (ofLines after).length
  return ⟨b.chomped head.chomping, start.skip length, true⟩

end InstructionStore.Yaml
