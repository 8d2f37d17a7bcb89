import InstructionStore.Proofs.Database.Calm
import InstructionStore.Proofs.Outcome
import InstructionStore.Proofs.Store.Surroundings

/-!
# A tree of files

Surroundings that can be run: a tree of files and a number, which is how many identifiers
were drawn. They refuse nothing, and their clock stands still as long as no identifier is
drawn. In the tree there are three files, one for the records and two for histories.
-/

namespace InstructionStore.Store

open Database

/-- A tree of files, with how many identifiers were drawn. -/
structure World where
  /-- The files. -/
  files : Files
  /-- How many identifiers were drawn. -/
  drawn : Nat

namespace World

/-- Surroundings that refuse nothing, with the number of identifiers as the time. -/
def surroundings : Surroundings World where
  files := files
  setFiles t w := { w with files := t }
  now w := .ofNat w.drawn
  draw w := ("id" ++ Text.natural w.drawn, { w with drawn := w.drawn + 1 })
  disturbed w := (false, w)

theorem surroundings_isLawful : surroundings.IsLawful :=
  ⟨fun _ _ => rfl, fun _ => rfl, fun _ => rfl⟩

/-- The connection to a file. -/
def file (name : String) : Connection World := surroundings.connect [name]

theorem file_isLawful (name : String) : (file name).IsLawful :=
  Surroundings.connect_isLawful surroundings_isLawful _

theorem file_isCalm (name : String) : (file name).IsCalm := fun _ => rfl

/-- A commit draws no identifier. -/
theorem drawn_commit (name : String) (key : HistoryKey) (body : Instruction) (author : Signature)
    (w : World) : (History.commit (file name) key body author w).2.drawn = w.drawn :=
  History.commit_preserves (I := fun v => v.drawn = w.drawn) (fun _ h => h) (fun _ _ h => h)
    key body author w rfl

/-- Three files without bytes. -/
def new : World :=
  ⟨⟨[], [(["records"], .bytes []), (["old"], .bytes []), (["new"], .bytes [])]⟩, 0⟩

theorem openRecords_new :
    (file "records").openRecords new = (.ok (), ((file "records").openRecords new).2) :=
  Outcome.run_eq_of_toOption (by decide +kernel)

theorem openHistory_new :
    (file "old").openHistory new = (.ok (), ((file "old").openHistory new).2) :=
  Outcome.run_eq_of_toOption (by decide +kernel)

/-- The records and one history are opened. -/
def openedTwo : World := ((file "old").openHistory ((file "records").openRecords new).2).2

theorem openHistory_old :
    (file "old").openHistory ((file "records").openRecords new).2 = (.ok (), openedTwo) :=
  Outcome.run_eq_of_toOption (by decide +kernel)

theorem contents_openedTwo : (file "records").contents openedTwo
    = (file "records").contents ((file "records").openRecords new).2 := by decide +kernel

/-- The records and two histories are opened. -/
def opened : World :=
  ((file "new").openHistory ((file "old").openHistory ((file "records").openRecords new).2).2).2

theorem contents_opened : (file "records").contents opened
    = (file "records").contents ((file "records").openRecords new).2 := by decide +kernel

end World

end InstructionStore.Store
