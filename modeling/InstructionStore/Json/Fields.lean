/-!
# Named fields

A **field list** is a finite map from names to values whose names are kept in
increasing order, each once. Two field lists with the same values under the
same names are therefore equal, however they were built, and the order in
which their fields are visited needs no further convention.

The names are a value of their own, `Keys`, and a field list is its keys
together with a function that gives the value at each of them. Keeping the two
apart lets an inductive type have fields of itself: the function is a plain
argument of the constructor, and the order of the names is a fact about the
keys alone.
-/

namespace InstructionStore.Json

/-- **The names of a field list**, in increasing order. -/
structure Keys where
  /-- The names. -/
  names : List String
  /-- The names increase, so that none occurs twice. -/
  sorted : names.Pairwise (· < ·)
deriving DecidableEq

namespace Keys

/-- How many names there are. -/
abbrev size (keys : Keys) : Nat := keys.names.length

/-- The name at an index. -/
def name (keys : Keys) (i : Fin keys.size) : String := keys.names[i]

/-- The index of a name. -/
def find? (keys : Keys) (name : String) : Option (Fin keys.size) :=
  keys.names.findFinIdx? (· == name)

/-- No names. -/
def empty : Keys := ⟨[], .nil⟩

@[simp] theorem name_of_find? {keys : Keys} {name : String} {i : Fin keys.size}
    (h : keys.find? name = some i) : keys.name i = name := by
  have := List.findFinIdx?_eq_some_iff.1 h
  simpa [Keys.name] using this.1

end Keys

/-- **A field list**: keys and the value at each of them. -/
structure Fields (α : Type u) where
  /-- The names of the fields. -/
  keys : Keys
  /-- The value of each field. -/
  value : Fin keys.size → α

namespace Fields

variable {α : Type u} {β : Type v}

/-- The fields in the order of their names. -/
def entries (fields : Fields α) : List (String × α) :=
  List.ofFn fun i => (fields.keys.name i, fields.value i)

/-- The value under a name. -/
def get? (fields : Fields α) (name : String) : Option α :=
  (fields.keys.find? name).map fields.value

/-- The field list whose entries are a given list, which must be in order. -/
def ofSorted (entries : List (String × α))
    (sorted : (entries.map Prod.fst).Pairwise (· < ·)) : Fields α :=
  let values := (entries.map Prod.snd).toArray
  have size : values.size = (entries.map Prod.fst).length := by simp [values]
  ⟨⟨entries.map Prod.fst, sorted⟩, fun i => values[i.cast size.symm]⟩

/-- No fields. -/
def empty : Fields α := ofSorted [] .nil

/-- Adds an entry to ordered entries, in place of the one of the same name. -/
def insertEntry (name : String) (value : α) : List (String × α) → List (String × α)
  | [] => [(name, value)]
  | (n, v) :: rest =>
    if name < n then (name, value) :: (n, v) :: rest
    else if name = n then (name, value) :: rest
    else (n, v) :: insertEntry name value rest

theorem mem_names_insertEntry {name n : String} {value : α} {entries : List (String × α)}
    (h : n ∈ (insertEntry name value entries).map Prod.fst) :
    n = name ∨ n ∈ entries.map Prod.fst := by
  induction entries with
  | nil => simpa [insertEntry] using h
  | cons e rest ih =>
    obtain ⟨m, v⟩ := e
    simp only [insertEntry] at h
    split at h
    · simpa using h
    · split at h
      · rcases List.mem_cons.1 h with h | h
        · exact .inl h
        · exact .inr (List.mem_cons_of_mem _ h)
      · rcases List.mem_cons.1 h with h | h
        · exact .inr (h ▸ List.mem_cons_self)
        · exact (ih h).imp id (List.mem_cons_of_mem _)

theorem sorted_insertEntry {name : String} {value : α} {entries : List (String × α)}
    (sorted : (entries.map Prod.fst).Pairwise (· < ·)) :
    ((insertEntry name value entries).map Prod.fst).Pairwise (· < ·) := by
  induction entries with
  | nil => simp [insertEntry]
  | cons e rest ih =>
    obtain ⟨m, v⟩ := e
    have hs := List.pairwise_cons.1 sorted
    simp only [insertEntry]
    split
    case isTrue h =>
      refine List.pairwise_cons.2 ⟨fun a ha => ?_, sorted⟩
      rcases List.mem_cons.1 ha with rfl | ha
      · exact h
      · exact String.lt_trans h (hs.1 a ha)
    case isFalse h =>
      split
      case isTrue he => exact List.pairwise_cons.2 ⟨fun a ha => he ▸ hs.1 a ha, hs.2⟩
      case isFalse he =>
        refine List.pairwise_cons.2 ⟨fun a ha => ?_, ih hs.2⟩
        rcases mem_names_insertEntry ha with rfl | ha
        · exact Decidable.byContradiction fun hn =>
            he (String.le_antisymm (String.not_lt.1 hn) (String.not_lt.1 h))
        · exact hs.1 a ha

theorem sorted_entries (fields : Fields α) :
    (fields.entries.map Prod.fst).Pairwise (· < ·) := by
  have : fields.entries.map Prod.fst = fields.keys.names := by
    simp only [entries, List.map_ofFn]
    exact List.ofFn_getElem
  rw [this]
  exact fields.keys.sorted

/-- **Sets a field**, replacing the value it had. -/
def insert (fields : Fields α) (name : String) (value : α) : Fields α :=
  ofSorted (insertEntry name value fields.entries) (sorted_insertEntry fields.sorted_entries)

/-- Sets a field if there is a value for it. -/
def insert? (fields : Fields α) (name : String) : Option α → Fields α
  | none => fields
  | some value => fields.insert name value

/-- **The fields of a list of entries**; of several with one name the last
counts. -/
def ofEntries (entries : List (String × α)) : Fields α :=
  entries.foldl (fun fields e => fields.insert e.1 e.2) empty

/-- The same names with other values, computed once each. -/
def map (f : α → β) (fields : Fields α) : Fields β :=
  let values := Array.ofFn fun i => f (fields.value i)
  have size : values.size = fields.keys.size := by simp [values]
  ⟨fields.keys, fun i => values[i.cast size.symm]⟩

/-- Two field lists are equal when they have the same names and the same value
at each. -/
instance [DecidableEq α] : DecidableEq (Fields α)
  | ⟨keys, value⟩, ⟨keys', value'⟩ =>
    if hk : keys = keys' then by
      subst hk
      exact if hv : ∀ i, value i = value' i then
        isTrue (by rw [funext hv])
      else isFalse fun h => hv fun i => by
        injection h with _ h
        rw [h]
    else isFalse fun h => hk (by injection h)

end Fields

end InstructionStore.Json
