import InstructionStore.Database.Connection
import InstructionStore.Failure

/-!
# Files

A tree of directories and files, in which the databases lie. A file holds bytes
or is a database; a file without bytes can become a database when it is opened.

A place in the tree is given by the names from its root down. A text names a place
from the root if it begins with a slash, and from some other place if it does not;
slashes separate its names, and the name `..` leads one directory up. Who goes to a
place passes through the directories on the way (`Files.follow`). A database is looked
for where the names lead by themselves (`FilePath.resolve`), so the name in front of a
`..` need not be that of a directory. There are no links in the tree.
-/

namespace InstructionStore

open Database

/-- The names from the root of the tree down. -/
abbrev FilePath := List String

namespace FilePath

/-- The names in a text. A single dot leads nowhere. -/
def names (text : String) : List String :=
  (text.splitOn "/").filter fun name => name != "" && name != "."

/-- Whether a text names a place from the root. -/
def isAbsolute (text : String) : Bool := text.startsWith "/"

/-- **The place that names lead to from a place**, whatever is on the way. -/
def resolve (start : FilePath) (names : List String) : FilePath :=
  names.foldl (fun path name => if name = ".." then path.dropLast else path ++ [name]) start

/-- The place a text names below the one it starts from: neither from the root nor
upwards. -/
def ofText? (text : String) : Option FilePath :=
  if isAbsolute text || (names text).contains ".." then none else some (names text)

/-- Whether a text asks for a directory by its form: there is no name behind the
last slash. -/
def isDirectoryText (text : String) : Bool :=
  let last := (text.splitOn "/").getLast?.getD ""
  last = "" || last = "."

/-- Whether a single dot comes last in a text. -/
def endsInDot (text : String) : Bool :=
  ((text.splitOn "/").filter (· != "")).getLast? = some "."

end FilePath

/-- **What a file holds.** -/
inductive FileData where
  /-- Bytes. -/
  | bytes (data : List UInt8)
  /-- A database. -/
  | database (contents : Contents)
deriving DecidableEq

/-- The contents of a file that is a database or can become one. -/
def FileData.contents? : FileData → Option Contents
  | bytes [] => some .empty
  | bytes _ => none
  | database contents => some contents

/-- **What is at a place.** -/
inductive Entry where
  /-- A directory. -/
  | directory
  /-- A file. -/
  | file (data : FileData)

/-- **A tree of directories and files.** -/
structure Files where
  /-- The directories besides the root. -/
  directories : List FilePath := []
  /-- The files. -/
  files : List (FilePath × FileData) := []
deriving DecidableEq

namespace Files

/-- What is at a place, if anything is. -/
def get? (t : Files) (path : FilePath) : Option Entry :=
  if path.isEmpty || t.directories.contains path then some .directory
  else (t.files.lookup path).map .file

/-- Whether a name can be that of a file or a directory. -/
def checkName (name : String) : Except FileFailure Unit :=
  if name.toList.contains '\x00' then .error .invalidInput
  else if 255 < name.utf8ByteSize then .error .invalidFilename
  else .ok ()

/-- Goes from a place that is there along some names. -/
def follow (t : Files) (path : FilePath) (entry : Entry) : List String → Except FileFailure Entry
  | [] => .ok entry
  | name :: rest => do
    match entry with
    | .file _ => throw .notADirectory
    | .directory =>
      if name = ".." then t.follow path.dropLast .directory rest
      else
        checkName name
        match t.get? (path ++ [name]) with
        | none => throw .notFound
        | some next => t.follow (path ++ [name]) next rest

/-- **What is at a place**, or why it cannot be reached. -/
def find (t : Files) (path : FilePath) : Except FileFailure Entry := t.follow [] .directory path

/-- Makes the directories on the way from a place along some names. The last one is
not made if a single dot follows: it has to be there to be asked for by the dot. -/
def makeDirectories (dotted : Bool) (path : FilePath) : List String → Task Files FileFailure Unit
  | [] => pure ()
  | name :: rest => do
    if name = ".." then makeDirectories dotted path.dropLast rest
    else
      Task.ofExcept (checkName name)
      let here := path ++ [name]
      match (← get).get? here with
      | some (.file _) =>
        throw (if rest.isEmpty && !dotted then .alreadyExists else .notADirectory)
      | some .directory => makeDirectories dotted here rest
      | none =>
        if rest.isEmpty && dotted then throw .notFound
        else
          modify fun t => { t with directories := here :: t.directories }
          makeDirectories dotted here rest

/-- Makes the directory some names lead to from a place, and those on the way, as far
as they are not there. -/
def createDirectoriesFrom (start : FilePath) (names : List String) (dotted : Bool) :
    Task Files FileFailure Unit :=
  if names.any fun name => name.toList.contains '\x00' then throw .invalidInput
  else makeDirectories dotted start names

/-- **Makes a directory** and those it lies in, as far as they are not there. -/
def createDirectories (path : FilePath) : Task Files FileFailure Unit :=
  createDirectoriesFrom [] path false

/-- Puts something into a file, which is made if it is not there. No other file is
changed. -/
def put (t : Files) (path : FilePath) (data : FileData) : Files :=
  { t with files := (path, data) :: t.files.filter fun file => file.1 != path }

/-- Whether there can be a file at a place: what it lies in is a directory and it
is none itself. -/
def allowsFile (t : Files) (path : FilePath) : Bool :=
  match t.find path.dropLast, t.get? path with
  | .ok .directory, none => path.getLast?.any fun name => (checkName name).toOption.isSome
  | .ok .directory, some (.file _) => true
  | _, _ => false

/-- **Writes bytes** into a file, and tells whether that was possible. -/
def write (t : Files) (path : FilePath) (data : List UInt8) : Bool × Files :=
  if t.allowsFile path then (true, t.put path (.bytes data)) else (false, t)

/-- **Reads a file as a text.** The bytes of a database are no text. -/
def readText (t : Files) (path : FilePath) : Except FileFailure String := do
  match ← t.find path with
  | .directory => throw .isADirectory
  | .file (.database _) => throw .invalidData
  | .file (.bytes data) =>
    match String.fromUTF8? ⟨data.toArray⟩ with
    | some text => return text
    | none => throw .invalidData

/-- Makes an empty file unless there is a file already, and tells whether there
is one then. -/
def touch (t : Files) (path : FilePath) : Bool × Files :=
  if t.allowsFile path then
    (true, if (t.get? path).isSome then t else t.put path (.bytes []))
  else (false, t)

/-- The contents of the database at a place, if there is one. -/
def contents (t : Files) (path : FilePath) : Option Contents :=
  (t.files.lookup path).bind FileData.contents?

end Files

end InstructionStore
