import InstructionStore.Yaml.Cursor

/-!
# Tokens

The tokens of a document are its texts, names and signs, and besides these the
beginnings and ends of the collections that indentation makes.
-/

namespace InstructionStore.Yaml

/-- **The form a text has in a document.** -/
inductive Style where
  /-- Plain. -/
  | plain
  /-- In single or double quotes. -/
  | quoted
  /-- A block whose lines are kept. -/
  | literal
  /-- A block whose lines are folded. -/
  | folded
deriving DecidableEq

/-- **What a token is.** -/
inductive TokenKind where
  /-- The end of the text. -/
  | streamEnd
  /-- A directive that names the version of the language. -/
  | versionDirective (major minor : Nat)
  /-- A directive that gives the handle of tags a meaning. -/
  | tagDirective (handle start : String)
  /-- The sign in front of a document. -/
  | documentStart
  /-- The sign behind a document. -/
  | documentEnd
  /-- A sequence made by indentation begins. -/
  | blockSequenceStart
  /-- A mapping made by indentation begins. -/
  | blockMappingStart
  /-- A collection made by indentation ends. -/
  | blockEnd
  /-- A bracket that opens a sequence. -/
  | flowSequenceStart
  /-- A bracket that closes a sequence. -/
  | flowSequenceEnd
  /-- A brace that opens a mapping. -/
  | flowMappingStart
  /-- A brace that closes a mapping. -/
  | flowMappingEnd
  /-- The hyphen in front of an item. -/
  | blockEntry
  /-- The comma between items. -/
  | flowEntry
  /-- A key follows. -/
  | key
  /-- The colon in front of a value. -/
  | value
  /-- The name of a node that was given before. -/
  | alias (name : String)
  /-- The name of the node that follows. -/
  | anchor (name : String)
  /-- The tag of the node that follows: a handle and the rest. -/
  | tag (handle rest : String)
  /-- A text. -/
  | scalar (text : String) (style : Style)
deriving DecidableEq

/-- **A token** with the places where it begins and ends. -/
structure Token where
  /-- What it is. -/
  kind : TokenKind
  /-- Where it begins. -/
  start : Mark
  /-- Where it ends. -/
  stop : Mark
deriving DecidableEq

end InstructionStore.Yaml
