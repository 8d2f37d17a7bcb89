import InstructionStore.Database.Contents

/-!
# Editing by hand

Whoever has access to the file of a database can change it without regard to
what it means: make and drop tables, change the cells of a column, delete rows.
Only the rules of the tables themselves hold here. No row of one table is
deleted or refused because of a row of another.

Names of tables and columns are compared without regard to the case of ASCII
letters.
-/

namespace InstructionStore.Database

/-- Whether two names are the same but for the case of ASCII letters. -/
def sameName (a b : String) : Bool := a.toLower = b.toLower

/-- Whether a name is kept from users: it begins with `sqlite_` in any case. -/
def isReserved (name : String) : Bool := (name.toLower.toList.take 7) = "sqlite_".toList

namespace Contents

/-- The names of the indexes that tables have. -/
def indexNames (c : Contents) : List String :=
  Place.all.filterMap fun p => match c.slot p with
    | .rows _ => p.index
    | _ => none

/-- Makes a table of some shape of its own. -/
def createTable (c : Contents) (name : String) : Except Refusal Contents :=
  if isReserved name || (c.tableNames ++ c.indexNames).any (sameName name) then .error .failure
  else match Place.all.find? (·.name = name) with
    | some p => .ok (c.put p .foreign)
    | none => .ok { c with others := c.others ++ [name] }

/-- Drops a table with all its rows. -/
def dropTable (c : Contents) (name : String) : Except Refusal Contents :=
  match Place.all.find? fun p => sameName p.name name && (c.slot p).isTaken with
  | some p => .ok (c.put p .vacant)
  | none =>
    if c.others.any (sameName name) then
      .ok { c with others := c.others.filter fun other => !sameName name other }
    else .error .failure

/-- The table of a name. -/
def place? (name : String) : Except Refusal Place :=
  match Place.all.find? fun p => sameName p.name name with
  | some p => .ok p
  | none => .error .failure

/-- The column of a name. -/
def columnOf {Row : Type} (table : Table Row) (name : String) : Except Refusal (Column Row) :=
  match table.column? name with
  | some column => .ok column
  | none => .error .failure

/-- **Changes the cells of a column** in the rows where another column has a
given cell, and counts these rows. -/
def updateRows (c : Contents) (name column : String) (cell : Cell) (key : String)
    (equals : Cell) : Except Refusal (Contents × Nat) := do
  let p ← place? name
  let rows ← (c.slot p).read
  let column ← columnOf p.table column
  let chosen := (← columnOf p.table key).holds equals
  let (rows, count) ← p.table.update chosen (column.set (column.affinity.store cell)) rows
  return (c.put p (.rows rows), count)

/-- **Deletes the rows** where a column has a given cell, and counts them. -/
def deleteRows (c : Contents) (name key : String) (equals : Cell) :
    Except Refusal (Contents × Nat) := do
  let p ← place? name
  let rows ← (c.slot p).read
  let chosen := (← columnOf p.table key).holds equals
  return (c.put p (.rows (rows.filter fun row => !chosen row)), rows.countP chosen)

/-- Sets the version in a state. -/
def setVersion (c : Contents) (state : Place) (version : Cell) : Except Refusal Contents :=
  (c.updateRows state.name "schema_version" version "singleton" (.integer 1)).map (·.1)

/-- Deletes the row of a state. -/
def deleteState (c : Contents) (state : Place) : Except Refusal Contents :=
  (c.deleteRows state.name "singleton" (.integer 1)).map (·.1)

/-- The cells of the rows of a table, sorted, if the table can be worked with.
The numbers of the archive's rows are not listed. -/
def listing (c : Contents) (p : Place) : Option (List (List Cell)) :=
  match c.slot p with
  | .rows rows =>
    let sorted := rows.mergeSort fun a b => Cell.lePair (p.sortedBy a) (p.sortedBy b)
    let columns := p.table.columns.filter fun column => column.name != "seq"
    some (sorted.map fun row => columns.map fun column => column.get row)
  | _ => none

end Contents

end InstructionStore.Database
