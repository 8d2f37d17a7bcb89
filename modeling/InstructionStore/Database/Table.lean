import InstructionStore.Database.Cell

/-!
# Tables

A table is a list of rows, in the order they were added. A `Table` describes
its rows: the columns, which of them must not be empty, which combinations of
columns no two rows may share, and a rule for a row on its own. `Table.insert`
adds a row and `Table.update` changes rows, and both refuse what breaks a rule
of the table.

A cell that holds nothing is equal to no cell, so rows that have nothing in a
column never share a combination that contains it.

The place of a table in a database may be vacant, or be taken by a table of
another shape; only `Slot.rows` can be worked with.
-/

namespace InstructionStore.Database

/-- **Why a statement is refused.** -/
inductive Refusal where
  /-- A row would break a rule of its table. -/
  | constraint
  /-- The statement cannot be carried out: a table is missing or of another
  shape, a cell is not of the kind that is asked for, or the database fails. -/
  | failure
deriving DecidableEq

/-- **A column of a table** whose rows have a given type. -/
structure Column (Row : Type) where
  /-- The name of the column. -/
  name : String
  /-- The kind of cell it asks for. -/
  affinity : Affinity
  /-- Whether it must not be empty. -/
  required : Bool
  /-- Whether it numbers the rows, and so holds nothing but whole numbers. -/
  numbering : Bool := false
  /-- The cell of a row. -/
  get : Row → Cell
  /-- A row with its cell replaced. -/
  set : Cell → Row → Row

/-- **The description of a table.** -/
structure Table (Row : Type) where
  /-- Its columns. -/
  columns : List (Column Row)
  /-- The combinations of columns that no two rows share. -/
  keys : List (Row → List Cell)
  /-- A rule that every row obeys. -/
  rule : Row → Bool := fun _ => true

namespace Column

/-- Whether a column can hold the cell a row has in it. -/
def allows {Row : Type} (column : Column Row) (row : Row) : Bool :=
  let cell := column.get row
  !(column.required && cell = .null) && !(column.numbering && cell.integer?.isNone)

/-- The names of columns are compared without regard to the case of ASCII
letters. -/
def isNamed {Row : Type} (column : Column Row) (name : String) : Bool :=
  column.name.toLower = name.toLower

/-- Whether a row has a given cell in a column, which converts it first.
Nothing is in no row. -/
def holds {Row : Type} (column : Column Row) (cell : Cell) (row : Row) : Bool :=
  let wanted := column.affinity.store cell
  wanted != .null && column.get row = wanted

end Column

namespace Table

variable {Row : Type} (table : Table Row)

/-- Whether two rows share a combination of columns. -/
def clash (row other : Row) : Bool :=
  table.keys.any fun key => key row = key other && !(key row).contains .null

/-- Whether a row is allowed on its own. -/
def allows (row : Row) : Bool := table.rule row && table.columns.all fun c => c.allows row

/-- **Adds a row.** -/
def insert (row : Row) (rows : List Row) : Except Refusal (List Row) :=
  if table.allows row && !rows.any (table.clash row) then .ok (rows ++ [row])
  else .error .constraint

/-- Whether no two of several rows share a combination of columns. -/
def areDistinct : List Row → Bool
  | [] => true
  | row :: rest => !rest.any (table.clash row) && areDistinct rest

/-- **Changes the rows that are chosen**, and counts them. -/
def update (chosen : Row → Bool) (change : Row → Row) (rows : List Row) :
    Except Refusal (List Row × Nat) :=
  let changed := rows.map fun row => if chosen row then change row else row
  if changed.all table.allows && table.areDistinct changed then
    .ok (changed, rows.countP chosen)
  else .error .constraint

/-- The column of a name. -/
def column? (name : String) : Option (Column Row) := table.columns.find? (·.isNamed name)

end Table

/-- **The place of a table in a database.** -/
inductive Slot (Row : Type) where
  /-- There is no table of the name. -/
  | vacant
  /-- There is a table of the name, but it has a shape of its own. -/
  | foreign
  /-- There is the table. -/
  | rows (rows : List Row)
deriving DecidableEq

namespace Slot

variable {Row : Type}

/-- Whether there is a table of the name. -/
def isTaken : Slot Row → Bool
  | vacant => false
  | _ => true

/-- The rows of a table that can be worked with. -/
def read : Slot Row → Except Refusal (List Row)
  | rows rs => .ok rs
  | _ => .error .failure

/-- Makes the table unless the name is taken. -/
def install : Slot Row → Slot Row
  | vacant => rows []
  | slot => slot

end Slot

end InstructionStore.Database
