import InstructionStore.Config.Fault
import InstructionStore.History.Commit
import InstructionStore.Instruction.Text
import InstructionStore.InvalidInput

/-!
# Failures

What an operation on a store can fail with: the input is refused, a name or an
address is taken, the owner has no account, or the database or the history does
not work as it should.

The system's own failures – of files and of statements – are told apart by kind
only, and the wording is left to the system. All other failures have a wording
here.
-/

namespace InstructionStore

/-- **A failure of the file system.** -/
inductive FileFailure where
  /-- There is nothing of the name. -/
  | notFound
  /-- There is something of the name already. -/
  | alreadyExists
  /-- A directory is asked for and this is none. -/
  | notADirectory
  /-- A file is asked for and this is a directory. -/
  | isADirectory
  /-- The bytes of the file are not what they should be. -/
  | invalidData
  /-- The name cannot be given to the system. -/
  | invalidInput
  /-- The name is too long. -/
  | invalidFilename
  /-- There is no room. -/
  | storageFull
deriving DecidableEq

/-- **Why a database is refused when it is opened.** -/
inductive SchemaDefect where
  /-- There are tables besides those of the records. -/
  | unsupportedTables
  /-- A table of the records is missing. -/
  | missingTable
  /-- The records have another version. -/
  | versionMismatch
  /-- The records have no row of state. -/
  | missingState
  /-- The tables are not those of a history. -/
  | unexpectedHistoryTables
  /-- The history has another version. -/
  | historyVersionMismatch
  /-- The history has no row of state. -/
  | missingHistoryState
  /-- Another reason. -/
  | other (text : String)
deriving DecidableEq

/-- The wording of a defect. -/
def SchemaDefect.message : SchemaDefect → String
  | unsupportedTables => "unsupported tables detected"
  | missingTable => "required table is missing"
  | versionMismatch => "schema version mismatch"
  | missingState => "schema state row is missing"
  | unexpectedHistoryTables => "unexpected history tables"
  | historyVersionMismatch => "history schema version mismatch"
  | missingHistoryState => "history state row is missing"
  | other text => text

/-- The wording of a refused database: it has to be made anew. -/
def SchemaDefect.refusal (d : SchemaDefect) : String := "RESET_REQUIRED: " ++ d.message

/-- **A failure of a history.** -/
inductive HistoryFailure where
  /-- A failure of the file system. -/
  | file (failure : FileFailure)
  /-- A failure of a statement. -/
  | sql
  /-- The database is refused. -/
  | invalidSchema (defect : SchemaDefect)
  /-- A commit cannot be read. -/
  | corruptCommit (id detail : String)
deriving DecidableEq

/-- The wording of a failure of a history, unless the system has one. -/
def HistoryFailure.message? : HistoryFailure → Option String
  | file _ | sql => none
  | invalidSchema defect => some defect.refusal
  | corruptCommit id detail => some ("corrupt commit " ++ id ++ ": " ++ detail)

/-- **What is wrong with a row** that does not stand for what it should. -/
inductive RowDefect where
  /-- The identifier of a document, or one just drawn, is none. -/
  | opaqueId (defect : OpaqueId.Defect)
  /-- The identifier of an account is none. -/
  | accountId (defect : OpaqueId.Defect)
  /-- The name of an account is none. -/
  | accountName (defect : Identifier.Defect)
  /-- The text of a document is no instruction. -/
  | body (id : String) (fault : Instruction.TextFault)
  /-- A tag is none. -/
  | tag (defect : Identifier.Defect)
  /-- The identifier of a document is none. -/
  | instructionId (defect : OpaqueId.Defect)
  /-- The identifier of the account that keeps a document is none. -/
  | creatorId (defect : OpaqueId.Defect)
  /-- The name of a document is none. -/
  | name (defect : Identifier.Defect)
  /-- The place of a tag is too large a number. -/
  | tagOrdinal

/-- The wording of a defect. -/
def RowDefect.message : RowDefect → String
  | opaqueId d => d.message
  | accountId d => "account id: " ++ d.message
  | accountName d => "account name: " ++ d.message
  | body id fault => "instruction " ++ id ++ ": " ++ fault.message
  | tag d => "tag: " ++ d.message
  | instructionId d => "instruction id: " ++ d.message
  | creatorId d => "creator id: " ++ d.message
  | name d => "name: " ++ d.message
  | tagOrdinal => "tag ordinal overflow"

/-- **A failure of a database.** -/
inductive DatabaseFailure where
  /-- A failure of the file system. -/
  | file (failure : FileFailure)
  /-- A failure of a statement. -/
  | sql
  /-- A failure of the history. -/
  | history (failure : HistoryFailure)
  /-- What says where it lies is no configuration. -/
  | config (fault : Config.Fault)
  /-- The database is refused. -/
  | invalidSchema (defect : SchemaDefect)
  /-- A row does not stand for what it should. -/
  | corruptRow (defect : RowDefect)

/-- **What is held once only.** -/
inductive Entity where
  /-- The name and the email address of an account. -/
  | account
  /-- The name of an instruction with its owner. -/
  | instruction
deriving DecidableEq

/-- The word for what is held once only. -/
def Entity.word : Entity → String
  | account => "account"
  | instruction => "instruction"

/-- **A failure of an operation on a store.** -/
inductive StoreFailure where
  /-- The input is refused. -/
  | invalid (input : InvalidInput)
  /-- Something is held already. -/
  | duplicate (entity : Entity)
  /-- The owner has no account. -/
  | ownerMissing (id : AccountId)
  /-- The database fails. -/
  | database (failure : DatabaseFailure)

/-- The wording of a failure of a database, unless the system has one. -/
def DatabaseFailure.message? : DatabaseFailure → Option String
  | file _ | sql => none
  | history failure => failure.message?.map ("history: " ++ ·)
  | config fault => fault.message?.map ("config: " ++ ·)
  | invalidSchema defect => some defect.refusal
  | corruptRow defect => some ("corrupt row: " ++ defect.message)

/-- The wording of a failure, unless the system has one. -/
def StoreFailure.message? : StoreFailure → Option String
  | invalid input => some input.message
  | duplicate entity => some ("duplicate " ++ entity.word)
  | ownerMissing id => some ("owner account " ++ id.text ++ " does not exist")
  | database failure => failure.message?.map ("database: " ++ ·)

/-- The failure of a statement. -/
def StoreFailure.sql : StoreFailure := .database .sql

end InstructionStore
