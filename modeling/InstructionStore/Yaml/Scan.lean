import InstructionStore.Yaml.Name

/-!
# The tokens of a text

`Token.ofText?` takes a text apart into tokens. Most of them stand in the text as
signs. Three kinds do not, and follow from where the signs stand.

* A collection of a block **begins** where something stands further to the right
  than the collection around it, and **ends** where something stands further to
  the left.
* A key need not be marked as one. Whatever could be a key is remembered, and
  when a colon turns up behind it, on the same line and not too far away, a token
  for a key is put in front of it.

Inside of brackets indentation means nothing. Each pair of brackets has a
possible key of its own.
-/

namespace InstructionStore.Yaml

/-- **What could turn out to be a key.** -/
structure PossibleKey where
  /-- How many tokens stand before it. -/
  position : Nat
  /-- Whether it has to be one, because nothing else can stand there. -/
  isRequired : Bool
  /-- Where it begins. -/
  mark : Mark
  /-- How many characters are left from there on. -/
  left : Nat

/-- **A text half taken apart.** -/
structure Scanner where
  /-- The place in the text. -/
  cursor : Cursor
  /-- The tokens before it. -/
  tokens : Array Token := #[]
  /-- The indentation of the collection of a block around it, if there is one. -/
  indent : Option Nat := none
  /-- The indentations of the collections around that one. -/
  outer : List (Option Nat) := []
  /-- What could be a key here. -/
  possible : Option PossibleKey := none
  /-- What could be a key outside of the brackets around, the inner ones first. -/
  outside : List (Option PossibleKey) := []
  /-- Whether a key can begin here. -/
  allowsKey : Bool := true

namespace Scanner

/-- The greatest number of characters of a key that is not marked. -/
def longestKey : Nat := 1024

/-- Whether the place is inside of brackets. -/
def inFlow (s : Scanner) : Bool := !s.outside.isEmpty

/-- Adds a token. -/
def push (s : Scanner) (kind : TokenKind) (start stop : Mark) : Scanner :=
  { s with tokens := s.tokens.push ⟨kind, start, stop⟩ }

/-- Adds a token for so many characters, which are skipped. -/
def take (s : Scanner) (kind : TokenKind) (length : Nat) : Scanner :=
  let after := s.cursor.skip length
  { s.push kind s.cursor.mark after.mark with cursor := after }

/-- Puts a token without characters in front of a given number of tokens. -/
def insert (s : Scanner) (position : Nat) (kind : TokenKind) (mark : Mark) : Scanner :=
  { s with tokens := s.tokens.insertIdxIfInBounds position ⟨kind, mark, mark⟩ }

/-! ## Collections of blocks -/

/-- Whether something is further to the right than the collection around it. -/
def isDeeper (column : Nat) (indent : Option Nat) : Bool := indent.all (· < column)

/-- Ends the collections of blocks that are further to the right than a column,
or all. -/
def closeBlocks (s : Scanner) (column : Option Nat) : Scanner :=
  if s.inFlow then s
  else
    let rec close (indent : Option Nat) (tokens : Array Token) :
        List (Option Nat) → Option Nat × List (Option Nat) × Array Token
      | [] => (indent, [], tokens)
      | next :: outer =>
        if indent.any fun n => column.all (· < n) then
          close next (tokens.push ⟨.blockEnd, s.cursor.mark, s.cursor.mark⟩) outer
        else (indent, next :: outer, tokens)
    let (indent, outer, tokens) := close s.indent s.tokens s.outer
    { s with indent, outer, tokens }

/-- Begins a collection of a block at a column, unless it has begun. -/
def openBlock (s : Scanner) (mark : Mark) (kind : TokenKind) (position : Nat) : Scanner :=
  if s.inFlow || !isDeeper mark.column s.indent then s
  else { s.insert position kind mark with indent := some mark.column, outer := s.indent :: s.outer }

/-! ## Keys -/

/-- Forgets what could be a key, if it need not be one. -/
def dropKey (s : Scanner) : Option Scanner :=
  if s.possible.any PossibleKey.isRequired then none else some { s with possible := none }

/-- Remembers that what follows could be a key. -/
def rememberKey (s : Scanner) : Option Scanner :=
  if s.allowsKey then do
    let isRequired := !s.inFlow && s.indent = some s.cursor.mark.column
    let s ← s.dropKey
    let key : PossibleKey := ⟨s.tokens.size, isRequired, s.cursor.mark, s.cursor.rest.length⟩
    return { s with possible := some key }
  else some s

/-- What could be a key and still can, at the colon behind it: it stands on the
same line and is not too long. Nothing if it has to be a key and cannot. -/
def keyAtColon (s : Scanner) : Option (Option PossibleKey) :=
  match s.possible with
  | none => some none
  | some key =>
    if key.mark.line = s.cursor.mark.line && key.left ≤ s.cursor.rest.length + longestKey then
      some (some key)
    else if key.isRequired then none else some none

/-! ## Tokens -/

/-- Goes to the next token, over blanks, comments and line ends. A tab counts as
a blank only where no key can begin. -/
def skipToToken (inFlow allowsKey : Bool) (inComment : Bool) (rest : List Char) (mark : Mark) :
    Cursor × Bool :=
  match rest with
  | [] => (⟨[], mark⟩, allowsKey)
  | c :: tail =>
    if isBreak c then skipToToken inFlow (allowsKey || !inFlow) false tail (mark.after c)
    else if inComment || c = '#' then skipToToken inFlow allowsKey true tail (mark.after c)
    else if c = ' ' || (c = '\t' && (inFlow || !allowsKey)) then
      skipToToken inFlow allowsKey false tail (mark.after c)
    else (⟨rest, mark⟩, allowsKey)

/-- Goes to the next token. -/
def settle (s : Scanner) : Scanner :=
  let (cursor, allowsKey) := skipToToken s.inFlow s.allowsKey false s.cursor.rest s.cursor.mark
  { s with cursor, allowsKey }

/-- A sign that stands on a line of its own outside of all collections. -/
def documentSign (s : Scanner) (kind : TokenKind) : Option Scanner := do
  let s ← (s.closeBlocks none).dropKey
  return { s with allowsKey := false }.take kind 3

/-- A directive. -/
def directive (s : Scanner) : Option Scanner := do
  let s ← (s.closeBlocks none).dropKey
  let (kind, cursor) ← Yaml.directive s.cursor
  return { s.push kind s.cursor.mark cursor.mark with cursor, allowsKey := false }

/-- A bracket that opens. -/
def openFlow (s : Scanner) (kind : TokenKind) : Option Scanner := do
  let s ← s.rememberKey
  let outside := s.possible :: s.outside
  return { s with outside, possible := none, allowsKey := true }.take kind 1

/-- A bracket that closes. -/
def closeFlow (s : Scanner) (kind : TokenKind) : Option Scanner := do
  let s ← s.dropKey
  let s := match s.outside with
    | [] => s
    | key :: outside => { s with possible := key, outside }
  return { s with allowsKey := false }.take kind 1

/-- A comma. -/
def flowEntry (s : Scanner) : Option Scanner := do
  let s ← s.dropKey
  return { s with allowsKey := true }.take .flowEntry 1

/-- A hyphen in front of an item. -/
def blockEntry (s : Scanner) : Option Scanner := do
  if !s.inFlow && !s.allowsKey then none
  let s ← (s.openBlock s.cursor.mark .blockSequenceStart s.tokens.size).dropKey
  return { s with allowsKey := true }.take .blockEntry 1

/-- A question mark in front of a key. -/
def key (s : Scanner) : Option Scanner := do
  if !s.inFlow && !s.allowsKey then none
  let s ← (s.openBlock s.cursor.mark .blockMappingStart s.tokens.size).dropKey
  return { s with allowsKey := !s.inFlow }.take .key 1

/-- A colon in front of a value. What could be a key becomes one. -/
def value (s : Scanner) : Option Scanner := do
  match ← s.keyAtColon with
  | some key =>
    let s := s.insert key.position .key key.mark
    let s := s.openBlock key.mark .blockMappingStart key.position
    return { s with possible := none, allowsKey := false }.take .value 1
  | none =>
    if !s.inFlow && !s.allowsKey then none
    let s := s.openBlock s.cursor.mark .blockMappingStart s.tokens.size
    return { s with possible := none, allowsKey := !s.inFlow }.take .value 1

/-- A name or a tag. -/
def named (s : Scanner) (read : Cursor → Option (TokenKind × Cursor)) : Option Scanner := do
  let s ← s.rememberKey
  let (kind, cursor) ← read s.cursor
  return { s.push kind s.cursor.mark cursor.mark with cursor, allowsKey := false }

/-- A text that could be a key. -/
def inlineText (s : Scanner) (style : Style) (read : Cursor → Option Reading) :
    Option Scanner := do
  let s ← s.rememberKey
  let r ← read s.cursor
  return { s.push (.scalar r.text style) s.cursor.mark r.cursor.mark with
    cursor := r.cursor, allowsKey := r.endsLine }

/-- A block of lines. -/
def blockText (s : Scanner) (style : Style) : Option Scanner := do
  let s ← s.dropKey
  let r ← block s.indent s.cursor
  return { s.push (.scalar r.text style) s.cursor.mark r.cursor.mark with
    cursor := r.cursor, allowsKey := true }

/-- The characters a plain text cannot begin with. -/
def indicators : List Char := "-?:,[]\x7b\x7d#&*!|>'\"%@`".toList

/-- Whether a plain text can begin here. -/
def startsPlain (inFlow : Bool) : List Char → Bool
  | [] => false
  | c :: rest =>
    !(isBlank c || isBreak c || indicators.contains c) ||
      (c = '-' && !rest.head?.any isBlank) ||
      (!inFlow && (c = '?' || c = ':') && !atGap rest)

/-- **Reads the next token**, at its first character. -/
def next (s : Scanner) (c : Char) (rest : List Char) : Option Scanner :=
  let alone := atGap rest
  if s.cursor.mark.column = 0 && c = '%' then s.directive
  else if s.cursor.isAtDocumentMark then
    s.documentSign (if c = '-' then .documentStart else .documentEnd)
  else if c = '[' then s.openFlow .flowSequenceStart
  else if c = '\x7b' then s.openFlow .flowMappingStart
  else if c = ']' then s.closeFlow .flowSequenceEnd
  else if c = '\x7d' then s.closeFlow .flowMappingEnd
  else if c = ',' then s.flowEntry
  else if c = '-' && alone then s.blockEntry
  else if c = '?' && (s.inFlow || alone) then s.key
  else if c = ':' && (s.inFlow || alone) then s.value
  else if c = '*' then s.named fun c => (name c).map fun (n, c) => (.alias n, c)
  else if c = '&' then s.named fun c => (name c).map fun (n, c) => (.anchor n, c)
  else if c = '!' then s.named (tag s.inFlow)
  else if c = '|' && !s.inFlow then s.blockText .literal
  else if c = '>' && !s.inFlow then s.blockText .folded
  else if c = '\'' || c = '"' then s.inlineText .quoted quoted
  else if startsPlain s.inFlow s.cursor.rest then
    s.inlineText .plain (plain s.inFlow ((s.indent.map (· + 1)).getD 0))
  else none

/-- The tokens with that of the end of the text, which is at the beginning of a
line. -/
def finish (s : Scanner) : Option (List Token) := do
  let mark := s.cursor.mark
  let mark := if mark.column = 0 then mark else ⟨mark.line + 1, 0⟩
  let s := { s with cursor := ⟨[], mark⟩ }
  let s ← (s.closeBlocks none).dropKey
  return (s.take .streamEnd 0).tokens.toList

/-- Reads the tokens that are left. Every token has characters of its own, so that
the text gets shorter. -/
def run (s : Scanner) : Option (List Token) :=
  let s' := s.settle
  let s' := s'.closeBlocks (some s'.cursor.mark.column)
  match s'.cursor.rest with
  | [] => s'.finish
  | c :: rest =>
    match s'.next c rest with
    | none => none
    | some s'' =>
      if s''.cursor.rest.length < s.cursor.rest.length then run s'' else none
termination_by s.cursor.rest.length

end Scanner

/-- **The tokens of a text**, if it can be taken apart. A mark of the byte order in
front of it is no part of a token, but takes a column. -/
def Token.ofText? (text : String) : Option (List Token) :=
  let cursor : Cursor := match normalized text.toList with
    | '\ufeff' :: rest => ⟨rest, ⟨0, 1⟩⟩
    | chars => ⟨chars, ⟨0, 0⟩⟩
  if text.toList.all isAllowed then Scanner.run { cursor } else none

end InstructionStore.Yaml
