import InstructionStore.Yaml.Token

/-!
# Events

A document is a tree of texts, sequences and mappings. Its **events** are what is
met on a walk around the tree: each text, and the beginning and the end of each
sequence and of each mapping. A node that is left out is an empty text.

`Event.ofTokens?` reads the events of the tokens of one document. It takes the
tokens one by one. A stack says what is awaited: on top is the innermost thing
that is not complete. A token is taken by the top of the stack, or it shows that
the top is complete and is passed on to the next. So a token only goes down the
stack, and what it finds there that is complete is gone.
-/

namespace InstructionStore.Yaml

/-- **A text**, with its form and its tag. -/
structure Scalar where
  /-- The text. -/
  text : String
  /-- Its form. -/
  style : Style
  /-- Its tag, if it has one that says anything. -/
  tag : Option String
deriving DecidableEq

/-- The text that stands for a node that is left out. -/
def Scalar.empty : Scalar := ⟨"", .plain, none⟩

/-- **What an event is.** -/
inductive EventKind where
  /-- A text. -/
  | scalar (s : Scalar)
  /-- A node that stands somewhere before, by its name. -/
  | alias (name : String)
  /-- A sequence begins. -/
  | sequenceStart
  /-- A sequence ends. -/
  | sequenceEnd
  /-- A mapping begins. -/
  | mappingStart
  /-- A mapping ends. -/
  | mappingEnd
deriving DecidableEq

/-- **An event**, with the name of its node and its place. -/
structure Event where
  /-- What it is. -/
  kind : EventKind
  /-- The name that is given to the node. -/
  anchor : Option String
  /-- The place. A node begins with what stands in front of it. -/
  mark : Mark
deriving DecidableEq

/-! ## What is awaited -/

/-- **What stands in front of a node.** -/
structure Properties where
  /-- Its name. -/
  anchor : Option String := none
  /-- Its tag. -/
  tag : Option String := none
  /-- Where the first of the two stands. -/
  mark : Option Mark := none
deriving DecidableEq

/-- **Where a node stands.** This decides which collections can stand there, and
before which tokens the node is left out. -/
inductive Slot where
  /-- At the top of a document without a sign in front of it. -/
  | top
  /-- Behind the sign in front of a document. -/
  | document
  /-- In a sequence of a block. -/
  | item
  /-- In a sequence of a block that is not indented. -/
  | looseItem
  /-- In a mapping of a block. -/
  | pair
  /-- In brackets. -/
  | flow
  /-- In braces, behind the sign of a key. -/
  | flowKey
  /-- In braces, behind a colon. -/
  | flowValue
  /-- In a lone pair in brackets, behind the colon. -/
  | loneValue
deriving DecidableEq

namespace Slot

/-- Whether collections of blocks can stand there. -/
def allowsBlocks : Slot → Bool
  | top | document | item | looseItem | pair => true
  | flow | flowKey | flowValue | loneValue => false

/-- Whether the node is left out if a token follows. -/
def isOmittedBefore : Slot → TokenKind → Bool
  | document, .versionDirective .. | document, .tagDirective .. | document, .documentStart
  | document, .documentEnd | document, .streamEnd
  | item, .blockEntry | item, .blockEnd
  | looseItem, .blockEntry | looseItem, .key | looseItem, .value | looseItem, .blockEnd
  | pair, .key | pair, .value | pair, .blockEnd
  | flowKey, .value | flowKey, .flowEntry | flowKey, .flowMappingEnd
  | flowValue, .flowEntry | flowValue, .flowMappingEnd
  | loneValue, .flowEntry | loneValue, .flowSequenceEnd => true
  | _, _ => false

end Slot

/-- **What is awaited** at some point of a document. -/
inductive Awaited where
  /-- A node, or what follows on its properties. If it is left out, it stands
  where a mark says, or else where the next token begins. -/
  | node (slot : Slot) (omittedAt : Option Mark) (properties : Properties)
  /-- An item of a sequence of a block, or its end. -/
  | item
  /-- An item of a sequence that is not indented, or anything that follows it. -/
  | looseItem
  /-- A key of a mapping of a block, or its end. -/
  | key
  /-- A value in a mapping of a block. -/
  | value
  /-- An item in brackets, or the end. -/
  | flowItem
  /-- A comma behind an item in brackets, or the end. -/
  | flowComma
  /-- The key of a lone pair in brackets. -/
  | loneKey
  /-- The value of a lone pair in brackets. -/
  | loneValue
  /-- The end of a lone pair, which is not marked. -/
  | loneEnd
  /-- A key in braces, or the end. -/
  | flowKey
  /-- A value in braces. -/
  | flowValue
  /-- A value in braces that is left out with its colon. -/
  | noValue
  /-- A comma behind a pair in braces, or the end. -/
  | flowPairComma
  /-- The end of the document and of the text. -/
  | finish
deriving DecidableEq

/-- A node before anything of it is read, left out behind a token. -/
def Awaited.nodeAfter (slot : Slot) (t : Token) : Awaited := .node slot (some t.stop) {}

/-- A node before anything of it is read, left out before the next token. -/
def Awaited.nodeAt (slot : Slot) : Awaited := .node slot none {}

/-! ## The beginning of a node -/

/-- **What the handles of tags mean.** -/
abbrev Handles := List (String × String)

/-- What the handles mean that need no directive. -/
def Handles.standard : Handles := [("!", "!"), ("!!", "tag:yaml.org,2002:")]

/-- The tag made of a handle and a rest. -/
def Handles.resolve (handles : Handles) (handle rest : String) : Option String :=
  if handle = "" then some rest else (handles.lookup handle).map (· ++ rest)

/-- **What a token is to a node** that is awaited. -/
inductive NodeStep where
  /-- The node begins with it. If it is a collection, more is awaited. -/
  | begins (event : Event) (awaited : List Awaited)
  /-- It stands in front of the node. -/
  | describes (properties : Properties)
  /-- It does not belong to the node. -/
  | follows
  /-- It is a tag without a meaning. -/
  | faulty

/-- The event of a node that begins with a token, and what is awaited then. -/
def Slot.content (slot : Slot) (tag : Option String) (t : Token) :
    Option (EventKind × List Awaited) :=
  match t.kind with
  | .scalar text style => some (.scalar ⟨text, style, if tag = some "!" then none else tag⟩, [])
  | .flowSequenceStart => some (.sequenceStart, [.flowItem])
  | .flowMappingStart => some (.mappingStart, [.flowKey])
  | .blockSequenceStart => if slot.allowsBlocks then some (.sequenceStart, [.item]) else none
  | .blockMappingStart => if slot.allowsBlocks then some (.mappingStart, [.key]) else none
  | .blockEntry =>
    if slot = .pair then some (.sequenceStart, [.nodeAfter .looseItem t, .looseItem]) else none
  | _ => none

/-- What a token is to a node. A node has at most one name and one tag, and one
that stands somewhere before has neither. -/
def nodeStep (handles : Handles) (slot : Slot) (p : Properties) (t : Token) : NodeStep :=
  let mark := p.mark.getD t.start
  match t.kind with
  | .alias name => if p.mark.isNone then .begins ⟨.alias name, none, t.start⟩ [] else .follows
  | .anchor name =>
    if p.anchor.isSome then .follows
    else .describes { p with anchor := some name, mark := some mark }
  | .tag handle rest =>
    if p.tag.isSome then .follows
    else match handles.resolve handle rest with
      | none => .faulty
      | some tag => .describes { p with tag := some tag, mark := some mark }
  | _ =>
    match slot.content p.tag t with
    | none => .follows
    | some (kind, awaited) => .begins ⟨kind, p.anchor, mark⟩ awaited

/-! ## The walk -/

/-- **A walk under way.** -/
structure Walk where
  /-- What is awaited, the innermost first. -/
  stack : List Awaited
  /-- The events met so far, the last first. -/
  reversed : List Event

/-- The walk after a token with which a node has to begin. -/
def startNode (handles : Handles) (slot : Slot) (t : Token) (stack : List Awaited)
    (reversed : List Event) : Option Walk :=
  match nodeStep handles slot {} t with
  | .begins event awaited => some ⟨awaited ++ stack, event :: reversed⟩
  | .describes p => some ⟨.node slot none p :: stack, reversed⟩
  | .follows | .faulty => none

/-- **The walk after a token.** -/
def feed (handles : Handles) (t : Token) (reversed : List Event) : List Awaited → Option Walk
  | [] => none
  | top :: stack =>
    let event (kind : EventKind) (mark : Mark) : Event := ⟨kind, none, mark⟩
    let pass (e : Event) : Option Walk := feed handles t (e :: reversed) stack
    let await (awaited : List Awaited) : Option Walk := some ⟨awaited ++ stack, reversed⟩
    let complete (kind : EventKind) : Option Walk := some ⟨stack, event kind t.start :: reversed⟩
    let nothing : EventKind := .scalar .empty
    match top with
    | .node slot omittedAt p =>
      if p.mark.isNone && slot.isOmittedBefore t.kind then
        pass (event nothing (omittedAt.getD t.start))
      else
        match nodeStep handles slot p t, p.mark with
        | .begins e awaited, _ => some ⟨awaited ++ stack, e :: reversed⟩
        | .describes p, _ => await [.node slot omittedAt p]
        | .follows, some mark => pass ⟨.scalar ⟨"", .plain, p.tag⟩, p.anchor, mark⟩
        | .follows, none | .faulty, _ => none
    | .item =>
      match t.kind with
      | .blockEntry => await [.nodeAfter .item t, .item]
      | .blockEnd => complete .sequenceEnd
      | _ => none
    | .looseItem =>
      match t.kind with
      | .blockEntry => await [.nodeAfter .looseItem t, .looseItem]
      | _ => pass (event .sequenceEnd t.start)
    | .key =>
      match t.kind with
      | .key => await [.nodeAfter .pair t, .value, .key]
      | .blockEnd => complete .mappingEnd
      | _ => none
    | .value =>
      match t.kind with
      | .value => await [.nodeAfter .pair t]
      | _ => pass (event nothing t.start)
    | .flowItem =>
      match t.kind with
      | .flowSequenceEnd => complete .sequenceEnd
      | .key =>
        some ⟨[.loneKey, .loneValue, .loneEnd, .flowComma] ++ stack,
          event .mappingStart t.start :: reversed⟩
      | _ => startNode handles .flow t (.flowComma :: stack) reversed
    | .flowComma =>
      match t.kind with
      | .flowSequenceEnd => complete .sequenceEnd
      | .flowEntry => await [.flowItem]
      | _ => none
    | .loneKey =>
      match t.kind with
      | .value | .flowEntry | .flowSequenceEnd => some ⟨stack, event nothing t.stop :: reversed⟩
      | _ => startNode handles .flow t stack reversed
    | .loneValue =>
      match t.kind with
      | .value => await [.nodeAt .loneValue]
      | _ => pass (event nothing t.start)
    | .loneEnd => pass (event .mappingEnd t.start)
    | .flowKey =>
      match t.kind with
      | .flowMappingEnd => complete .mappingEnd
      | .key => await [.nodeAt .flowKey, .flowValue, .flowPairComma]
      | _ => startNode handles .flow t (.noValue :: .flowPairComma :: stack) reversed
    | .flowValue =>
      match t.kind with
      | .value => await [.nodeAt .flowValue]
      | _ => pass (event nothing t.start)
    | .noValue => pass (event nothing t.start)
    | .flowPairComma =>
      match t.kind with
      | .flowMappingEnd => complete .mappingEnd
      | .flowEntry => await [.flowKey]
      | _ => none
    | .finish =>
      match t.kind with
      | .documentEnd => await [.finish]
      | .streamEnd => await []
      | _ => none

/-! ## Documents -/

/-- The directives in front of a document, if there are any, and the other
tokens. The version is 1.1 or 1.2 and given at most once; each handle is given at
most once. -/
def readDirectives : List Token → Option (Bool × Handles × List Token)
  | [] => some (false, [], [])
  | t :: tokens =>
    match t.kind with
    | .versionDirective major minor => do
      let (hasVersion, handles, rest) ← readDirectives tokens
      if hasVersion || major != 1 || !(minor = 1 || minor = 2) then none
      return (true, handles, rest)
    | .tagDirective handle start => do
      let (hasVersion, handles, rest) ← readDirectives tokens
      if (handles.lookup handle).isSome then none
      return (hasVersion, (handle, start) :: handles, rest)
    | _ => some (false, [], t :: tokens)

/-- The events of a document whose tokens are given without the directives, from
a node on. -/
def walk (handles : Handles) (slot : Slot) (tokens : List Token) : Option (List Event) := do
  let w ← tokens.foldlM (fun w t => feed handles t w.reversed w.stack)
    ⟨[.nodeAt slot, .finish], []⟩
  if w.stack.isEmpty then return w.reversed.reverse else none

/-- **The events of one document.** A text without a document counts for one that
consists of an empty text. -/
def Event.ofTokens? (tokens : List Token) : Option (List Event) := do
  let (hasVersion, handles, rest) ← readDirectives tokens
  match rest with
  | [] => none
  | t :: after =>
    if t.kind = .documentStart then walk (handles ++ .standard) .document after
    else if hasVersion || !handles.isEmpty then none
    else if t.kind = .streamEnd then some [⟨.scalar .empty, none, t.start⟩]
    else walk .standard .top rest

end InstructionStore.Yaml
