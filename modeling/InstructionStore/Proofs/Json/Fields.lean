import InstructionStore.Json.Basic
import Mathlib.Data.List.Nodup

/-!
# Field lists by their values

A field list is kept as ordered names with a value at each, but it is used
through `Fields.get?` alone. This module says that nothing is lost by that:
two field lists with the same value under every name are equal
(`Fields.ext_get?`), and what `insert`, `map` and the building of a list from
entries do is what they do to the value under each name.
-/

namespace InstructionStore.Json

namespace Keys

variable {keys : Keys}

/-- No name occurs twice. -/
theorem nodup_names (keys : Keys) : keys.names.Nodup :=
  keys.sorted.imp (fun h => String.ne_of_lt h)

/-- The names at different indices differ. -/
theorem name_injective (keys : Keys) : Function.Injective keys.name := by
  intro i j h
  exact Fin.ext ((List.getElem_inj keys.nodup_names).1 h)

theorem name_mem_names (i : Fin keys.size) : keys.name i ∈ keys.names :=
  List.getElem_mem _

/-- **A name is found at its own index.** -/
@[simp] theorem find?_name (i : Fin keys.size) : keys.find? (keys.name i) = some i := by
  refine List.findFinIdx?_eq_some_iff.2 ⟨by simp [name], fun j hj h => ?_⟩
  have : keys.name j = keys.name i := by simpa [name] using h
  exact absurd (keys.name_injective this) (Fin.ne_of_lt hj)

theorem find?_eq_some_iff {name : String} {i : Fin keys.size} :
    keys.find? name = some i ↔ keys.name i = name :=
  ⟨name_of_find?, fun h => h ▸ find?_name i⟩

theorem find?_eq_none_iff {name : String} : keys.find? name = none ↔ name ∉ keys.names := by
  unfold find?
  rw [List.findFinIdx?_eq_none_iff]
  refine ⟨fun h hm => h name hm (by simp), fun h x hx he => h ?_⟩
  rwa [← eq_of_beq he]

theorem ext_names {a b : Keys} (h : a.names = b.names) : a = b := by
  obtain ⟨names, sorted⟩ := a
  cases h
  rfl

end Keys

namespace Fields

variable {α : Type u} {β : Type v} {fields : Fields α} {name : String}

theorem get?_eq_some_iff {a : α} :
    fields.get? name = some a ↔ ∃ i, fields.keys.name i = name ∧ fields.value i = a := by
  simp only [get?, Option.map_eq_some_iff, Keys.find?_eq_some_iff]

theorem get?_eq_none_iff : fields.get? name = none ↔ name ∉ fields.keys.names := by
  simp only [get?, Option.map_eq_none_iff, Keys.find?_eq_none_iff]

/-- The name of a value is one of the names. -/
theorem isSome_get?_iff : (fields.get? name).isSome ↔ name ∈ fields.keys.names := by
  rw [Option.isSome_iff_ne_none, Ne, get?_eq_none_iff, not_not]

@[simp] theorem get?_name (i : Fin fields.keys.size) :
    fields.get? (fields.keys.name i) = some (fields.value i) :=
  get?_eq_some_iff.2 ⟨i, rfl, rfl⟩

/-- Field lists with a value under the same names have the same keys. -/
theorem keys_eq_of_isSome {a : Fields α} {b : Fields β}
    (h : ∀ name, (a.get? name).isSome ↔ (b.get? name).isSome) : a.keys = b.keys := by
  refine Keys.ext_names (List.Perm.eq_of_pairwise (fun x y _ _ hxy hyx => ?_) a.keys.sorted
    b.keys.sorted ((List.perm_ext_iff_of_nodup a.keys.nodup_names b.keys.nodup_names).2
      fun name => ?_))
  · exact absurd (String.lt_trans hxy hyx) (String.lt_irrefl x)
  · rw [← isSome_get?_iff, ← isSome_get?_iff, h]

/-- **Field lists with the same value under every name are equal.** -/
theorem ext_get? {a b : Fields α} (h : ∀ name, a.get? name = b.get? name) : a = b := by
  have hkeys : a.keys = b.keys := keys_eq_of_isSome fun name => by rw [h]
  obtain ⟨keys, value⟩ := a
  obtain ⟨keys', value'⟩ := b
  obtain rfl : keys = keys' := hkeys
  refine congrArg (Fields.mk keys) (funext fun i => ?_)
  have hvalue := h (keys.name i)
  rw [@get?_name _ ⟨keys, value⟩, @get?_name _ ⟨keys, value'⟩] at hvalue
  exact Option.some.inj hvalue

/-! ## Entries -/

theorem mem_entries_iff {a : α} : (name, a) ∈ fields.entries ↔ fields.get? name = some a := by
  simp only [entries, List.mem_ofFn, Prod.mk.injEq, get?_eq_some_iff]

theorem nodup_names {entries : List (String × α)}
    (sorted : (entries.map Prod.fst).Pairwise (· < ·)) : (entries.map Prod.fst).Nodup :=
  sorted.imp (fun h => String.ne_of_lt h)

theorem lookup_cons_eq_ite {n : String} {a : α} {rest : List (String × α)} :
    ((n, a) :: rest).lookup name = if name = n then some a else rest.lookup name := by
  by_cases h : name = n
  · simp [h]
  · rw [List.lookup_cons, beq_eq_false_iff_ne.2 h, if_neg h]

/-- Among entries of different names, looking a name up finds its entry. -/
theorem lookup_eq_some_iff_mem {entries : List (String × α)} {a : α}
    (h : (entries.map Prod.fst).Nodup) : entries.lookup name = some a ↔ (name, a) ∈ entries := by
  induction entries with
  | nil => simp
  | cons e rest ih =>
    obtain ⟨n, b⟩ := e
    obtain ⟨hn, hrest⟩ := List.nodup_cons.1 h
    rw [lookup_cons_eq_ite, List.mem_cons, Prod.mk.injEq]
    by_cases he : name = n
    · subst he
      have hnot : (name, a) ∉ rest := fun hm => hn (List.mem_map.2 ⟨_, hm, rfl⟩)
      simp [hnot, eq_comm]
    · simp [he, ih hrest]

/-- A field list built of ordered entries has the value of each. -/
theorem get?_ofSorted {entries : List (String × α)}
    (sorted : (entries.map Prod.fst).Pairwise (· < ·)) :
    (ofSorted entries sorted).get? name = entries.lookup name := by
  refine Option.ext fun a => ?_
  have hsize : (ofSorted entries sorted).keys.size = entries.length := List.length_map _
  rw [get?_eq_some_iff, lookup_eq_some_iff_mem (nodup_names sorted), List.mem_iff_getElem]
  constructor
  · rintro ⟨i, rfl, rfl⟩
    exact ⟨i.1, hsize ▸ i.2, Prod.ext (List.getElem_map Prod.fst).symm (by simp [ofSorted])⟩
  · rintro ⟨i, hi, he⟩
    exact ⟨⟨i, hsize ▸ hi⟩, by simp [ofSorted, Keys.name, he], by simp [ofSorted, he]⟩

/-- The entries of a field list give its values back. -/
theorem lookup_entries : fields.entries.lookup name = fields.get? name :=
  Option.ext fun a => by
    rw [lookup_eq_some_iff_mem (nodup_names fields.sorted_entries), mem_entries_iff]

/-! ## Building field lists -/

@[simp] theorem get?_empty : (empty : Fields α).get? name = none := rfl

theorem lookup_insertEntry {n : String} {a : α} {entries : List (String × α)} :
    (insertEntry n a entries).lookup name = if name = n then some a else entries.lookup name := by
  induction entries with
  | nil => simp only [insertEntry, lookup_cons_eq_ite]
  | cons e rest ih =>
    obtain ⟨m, v⟩ := e
    simp only [insertEntry]
    split
    case isTrue hlt => simp only [lookup_cons_eq_ite]
    case isFalse hlt =>
      split
      case isTrue heq =>
        subst heq
        by_cases h : name = n <;> simp only [lookup_cons_eq_ite, h, if_true, if_false]
      case isFalse hne =>
        by_cases hm : name = m
        · subst hm
          simp [Ne.symm hne]
        · simp [lookup_cons_eq_ite, hm, ih]

/-- **Setting a field** changes the value under its name and no other. -/
@[simp] theorem get?_insert {n : String} {a : α} :
    (fields.insert n a).get? name = if name = n then some a else fields.get? name := by
  rw [insert, get?_ofSorted, lookup_insertEntry, lookup_entries]

/-- Setting a field there may be no value for. -/
@[simp] theorem get?_insert? {n : String} {o : Option α} :
    (fields.insert? n o).get? name = if name = n then o.or (fields.get? name)
      else fields.get? name := by
  cases o <;> simp [insert?]

@[simp] theorem map_value {f : α → β} {keys : Keys} {value : Fin keys.size → α} :
    (Fields.mk keys value).map f = ⟨keys, fun i => f (value i)⟩ := by
  simp [map]

/-- A list of entries gives each name the value of its last entry. -/
theorem get?_foldl_insert {entries : List (String × α)} :
    (entries.foldl (fun fields e => fields.insert e.1 e.2) fields).get? name
      = (entries.reverse.lookup name).or (fields.get? name) := by
  induction entries generalizing fields with
  | nil => simp
  | cons e rest ih =>
    obtain ⟨n, a⟩ := e
    rw [List.foldl_cons, ih, get?_insert, List.reverse_cons, List.lookup_append,
      lookup_cons_eq_ite]
    by_cases h : name = n <;> cases rest.reverse.lookup name <;> simp [h]

/-- **The fields of a list of entries**: the last entry of a name counts. -/
theorem get?_ofEntries {entries : List (String × α)} :
    (ofEntries entries).get? name = entries.reverse.lookup name := by
  rw [ofEntries, get?_foldl_insert, get?_empty, Option.or_none]

/-- Entries of different names are each found under their name. -/
theorem get?_ofEntries_of_nodup {entries : List (String × α)} (h : (entries.map Prod.fst).Nodup) :
    (ofEntries entries).get? name = entries.lookup name := by
  refine Option.ext fun a => ?_
  have hnodup : (entries.reverse.map Prod.fst).Nodup := by
    rw [List.map_reverse]
    exact List.nodup_reverse.2 h
  rw [get?_ofEntries, lookup_eq_some_iff_mem hnodup, List.mem_reverse, lookup_eq_some_iff_mem h]

/-- The entries of a field list build it again. -/
theorem ofEntries_entries (fields : Fields α) : ofEntries fields.entries = fields :=
  ext_get? fun name => by
    rw [get?_ofEntries_of_nodup (nodup_names fields.sorted_entries), lookup_entries]

end Fields

end InstructionStore.Json
