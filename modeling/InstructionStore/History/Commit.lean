import InstructionStore.Account
import InstructionStore.Digest
import InstructionStore.Instruction.Encoding
import InstructionStore.OpaqueId

/-!
# Commits

The history of a document is a chain of commits. A chain belongs to a **key**,
which is the identifier of the account and that of the document; as a text it
is the two with a slash between them. A commit holds the instruction as it was
saved, who saved it and when, and the commit before it.

A commit is named by a digest of all it holds: of the key, the commit before it,
the instruction as text, the name and the email address of the author, each with
a zero byte behind it, and of the time in eight bytes. `Commit.Content.bytes` is
what is digested.
-/

namespace InstructionStore

/-- **The key of a chain of commits.** -/
structure HistoryKey where
  /-- The account that keeps the document. -/
  accountId : AccountId
  /-- The document. -/
  instructionId : InstructionId
deriving DecidableEq

/-- The key as a text. -/
def HistoryKey.path (key : HistoryKey) : String :=
  key.accountId.text ++ "/" ++ key.instructionId.text

/-- **The name of a commit.** -/
structure CommitId where
  /-- The characters of the name. -/
  text : String
deriving DecidableEq

/-- **A commit.** -/
structure Commit where
  /-- Its name. -/
  id : CommitId
  /-- The key of its chain, as a text. -/
  key : String
  /-- The commit before it. -/
  parent : Option CommitId
  /-- The instruction. -/
  body : Instruction
  /-- Who saved it. -/
  author : Signature
  /-- When it was saved. -/
  createdAt : Int64
deriving DecidableEq

/-- **What the name of a commit depends on.** -/
structure Commit.Content where
  /-- The key of the chain, as a text. -/
  key : String
  /-- The commit before it. -/
  parent : Option CommitId
  /-- The instruction as text. -/
  body : String
  /-- The author. -/
  author : Signature
  /-- The time. -/
  createdAt : Int64
deriving DecidableEq

namespace Commit.Content

/-- The bytes of a text, with a zero byte behind them. -/
def closed (text : String) : List UInt8 := text.toUTF8.toList ++ [0]

/-- **The bytes that are digested.** -/
def bytes (c : Content) : List UInt8 :=
  closed c.key ++ closed ((c.parent.map CommitId.text).getD "") ++ closed c.body ++
    closed c.author.name ++ closed c.author.email ++ Digest.lengthBytes c.createdAt.toUInt64

/-- **The name of a commit with this content.** -/
def id (c : Content) : CommitId := ⟨Digest.ofBytes c.bytes⟩

end Commit.Content

end InstructionStore
