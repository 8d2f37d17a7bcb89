import InstructionStore.Config.Reading
import InstructionStore.Files

/-!
# Configurations in files

`Config.load` reads the configuration that a file holds. The file can be missing or
hold no text, and what it holds can be no configuration.
-/

namespace InstructionStore.Config

/-- What is at a place that is named by a text. A text that ends in a slash does not
name a file. -/
def readFile (files : Files) (text : String) (path : FilePath) : Except FileFailure String := do
  match ← files.find path with
  | .file _ => if FilePath.isDirectoryText text then throw .notADirectory
  | .directory => pure ()
  files.readText path

/-- **Loads a configuration.** -/
def load (files : Files) (text : String) (path : FilePath) : Except DatabaseFailure Config :=
  match readFile files text path with
  | .error failure => .error (.file failure)
  | .ok contents =>
    match ofText contents with
    | .error fault => .error (.config fault)
    | .ok config => .ok config

end InstructionStore.Config
