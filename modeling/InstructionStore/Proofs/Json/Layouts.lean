import Mathlib.Data.List.FinRange
import InstructionStore.Json.Layout
import InstructionStore.Proofs.Json.Rereading

/-!
# Records are read as they were written

A record is written with its fields in an order of its own, while the fields of an object
are written by the order of their names. The two texts differ, but a reader of values
cannot tell them apart: as long as no record has a field twice, the text of a layout and
the text of its value are read as one and the same value (`Layout.exists_reads`), which is
the value itself if there are no floats in it (`Layout.reads`).

Which value a text is read as is said by `IsReadAs`. It is carried from the fields of an
object to the object whatever way the object was built (`isReadAs_ofFields`), and so
nothing below depends on the order of the fields.
-/

namespace InstructionStore.Json

open Reader (Reads)

namespace Fields

variable {α β : Type} {r : α → β → Prop}

/-- Field lists built of entries with the same names and related values are related under
every name. -/
theorem rel_get?_ofEntries {entries : List (String × α)} {entries' : List (String × β)}
    (h : List.Forall₂ (fun e e' => e.1 = e'.1 ∧ r e.2 e'.2) entries entries') (name : String) :
    Option.Rel r ((ofEntries entries).get? name) ((ofEntries entries').get? name) := by
  have hfold : ∀ (fields : Fields α) (fields' : Fields β),
      Option.Rel r (fields.get? name) (fields'.get? name) →
        Option.Rel r
          ((entries.foldl (fun fields e => fields.insert e.1 e.2) fields).get? name)
          ((entries'.foldl (fun fields e => fields.insert e.1 e.2) fields').get? name) := by
    induction h with
    | nil => exact fun _ _ h => h
    | @cons e e' _ _ he _ ih =>
      intro fields fields' hfields
      refine ih _ _ ?_
      rw [get?_insert, get?_insert, he.1]
      split
      · exact .some he.2
      · exact hfields
  exact hfold empty empty .none

/-- An entry is found under its name when no other has it. -/
theorem get?_ofEntries_ofFn {n : Nat} {name : Fin n → String} (hname : Function.Injective name)
    (value : Fin n → α) (i : Fin n) :
    (ofEntries (List.ofFn fun i => (name i, value i))).get? (name i) = some (value i) := by
  have hnodup : ((List.ofFn fun i => (name i, value i)).map Prod.fst).Nodup := by
    rw [List.map_ofFn]
    exact List.nodup_ofFn.2 hname
  rw [get?_ofEntries_of_nodup hnodup, lookup_eq_some_iff_mem hnodup]
  exact (List.mem_ofFn' _ _).2 ⟨i, rfl⟩

end Fields

/-- The values of an object nest less deeply than the object. -/
theorem depth_lt_of_get? {fields : Fields Json} {name : String} {v : Json}
    (h : fields.get? name = some v) : v.depth < (ofFields fields).depth := by
  obtain ⟨i, -, rfl⟩ := Fields.get?_eq_some_iff.1 h
  have hle := greatest_le_iff.1 (Nat.le_refl (greatest fun i => (fields.value i).depth)) i
  show _ < 1 + greatest fun i => (fields.value i).depth
  omega

/-! ## What texts are read as -/

/-- **The value the text of a value is read as**, with enough room for how deeply it
nests. -/
def IsReadAs (v w : Json) : Prop :=
  Resembles v w ∧ ∀ room, v.depth ≤ room → Reads (Reader.value room) v.print w

/-- An object is read as the object of what its values are read as. -/
theorem isReadAs_ofFields {a b : Fields Json}
    (h : ∀ name, Option.Rel IsReadAs (a.get? name) (b.get? name)) :
    IsReadAs (ofFields a) (ofFields b) := by
  have hkeys : a.keys = b.keys := Fields.keys_eq_of_isSome fun name => by
    have hname := h name
    generalize a.get? name = x at hname
    generalize b.get? name = y at hname
    cases hname <;> simp
  obtain ⟨keys, value⟩ := a
  obtain ⟨keys', value'⟩ := b
  obtain rfl : keys = keys' := hkeys
  have hvalue (i : Fin keys.size) : IsReadAs (value i) (value' i) := by
    have hname := h (keys.name i)
    rw [@Fields.get?_name _ ⟨keys, value⟩, @Fields.get?_name _ ⟨keys, value'⟩] at hname
    cases hname with
    | some hread => exact hread
  refine ⟨.object fun i => (hvalue i).1, fun room hroom => ?_⟩
  obtain ⟨room, rfl, hdepth⟩ := Reader.exists_room hroom
  exact Reader.reads_object fun i => (hvalue i).2 room (hdepth i)

/-- An array is read as the array of what its items are read as. -/
theorem isReadAs_array {size : Nat} {item item' : Fin size → Json}
    (h : ∀ i, IsReadAs (item i) (item' i)) :
    IsReadAs (.array size item) (.array size item') := by
  refine ⟨.array fun i => (h i).1, fun room hroom => ?_⟩
  obtain ⟨room, rfl, hdepth⟩ := Reader.exists_room hroom
  exact Reader.reads_array fun i => (h i).2 room (hdepth i)

namespace Layout

/-- **The text of a layout and the text of its value are read as one value**, provided that
no record has a field twice. -/
theorem exists_reads (l : Layout) (h : l.IsRegular) :
    ∃ w, IsReadAs l.value w ∧
      ∀ room, l.value.depth ≤ room → Reads (Reader.value room) l.print w := by
  induction l with
  | plain v =>
    obtain ⟨w, hw⟩ := Reader.exists_reads_print v
    exact ⟨w, hw, hw.2⟩
  | list size item ih =>
    choose w hvalue hprint using fun i => ih i (h i)
    have hlist : (Layout.list size item).value = .array size fun i => (item i).value :=
      arrayOf_eq _ _
    rw [hlist]
    refine ⟨.array size w, isReadAs_array hvalue, fun room hroom => ?_⟩
    obtain ⟨room, rfl, hdepth⟩ := Reader.exists_room hroom
    exact Reader.reads_array fun i => hprint i room (hdepth i)
  | record size name value ih =>
    choose w hvalue hprint using fun i => ih i (h.2 i)
    refine ⟨ofFields (.ofEntries (List.ofFn fun i => (name i, w i))),
      isReadAs_ofFields (Fields.rel_get?_ofEntries (Reader.forall₂_ofFn fun i =>
        ⟨rfl, hvalue i⟩)), fun room hroom => ?_⟩
    obtain ⟨room, rfl⟩ : ∃ room', room = room' + 1 :=
      Nat.exists_eq_succ_of_ne_zero fun hzero => by
        subst hzero
        exact absurd (Nat.le_zero.1 hroom) (by unfold Layout.value ofFields depth; omega)
    have hprinted : (Layout.record size name value).print
        = '\x7b' :: separated ',' (List.ofFn fun i => printField (name i) (value i).print)
          ++ ['\x7d'] := by
      show printFields (List.ofFn fun i => (name i, (value i).print)) = _
      unfold printFields
      rw [List.map_ofFn]
      rfl
    rw [hprinted]
    refine Reader.reads_fields name fun i => hprint i room ?_
    have hlt := depth_lt_of_get?
      (Fields.get?_ofEntries_ofFn (fun i j => h.1 i j) (fun i => (value i).value) i)
    exact Nat.le_of_lt_succ (hlt.trans_le hroom)

/-- **The text of a layout without floats is read as its value.** -/
theorem reads {l : Layout} (h : l.IsRegular) (hfree : IsFloatFree l.value) {room : Nat}
    (hroom : l.value.depth ≤ room) : Reads (Reader.value room) l.print l.value := by
  obtain ⟨w, hvalue, hprint⟩ := l.exists_reads h
  have hread := hprint room hroom
  rwa [hvalue.1.eq hfree] at hread

/-! ## Records and lists by their parts -/

theorem ofFn_toArray {α β : Type} (as : List α) (f : α → β) :
    (List.ofFn fun i : Fin as.toArray.size => f as.toArray[i]) = as.map f :=
  List.ext_getElem (by simp) (by simp)

theorem print_recordOf (fields : List (String × Layout)) :
    (recordOf fields).print = printFields (fields.map fun f => (f.1, f.2.print)) :=
  congrArg printFields (ofFn_toArray fields fun f => (f.1, f.2.print))

theorem print_listOf (items : List Layout) :
    (listOf items).print = printItems (items.map Layout.print) :=
  congrArg printItems (ofFn_toArray items Layout.print)

theorem value_listOf (items : List Layout) :
    (listOf items).value = ofList (items.map Layout.value) := by
  show arrayOf items.toArray.size (fun i => items.toArray[i].value) = _
  rw [arrayOf_eq, ← ofList_ofFn, ofFn_toArray]

theorem isRegular_listOf {items : List Layout} (h : ∀ l ∈ items, l.IsRegular) :
    (listOf items).IsRegular := fun i => h _ (by simp)

/-! ### Records without repetition -/

/-- **Fields that are among those of the given names**, in the order of the names, and
regular themselves. -/
structure AreAmong (names : List String) (fields : List (String × Layout)) : Prop where
  /-- The names of the fields are some of the names. -/
  names : (fields.map Prod.fst).Sublist names
  /-- The value of each field is regular. -/
  regular : ∀ f ∈ fields, f.2.IsRegular

section
variable {names names' : List String} {fields fields' : List (String × Layout)}

theorem AreAmong.append (h : AreAmong names fields) (h' : AreAmong names' fields') :
    AreAmong (names ++ names') (fields ++ fields') where
  names := by
    rw [List.map_append]
    exact h.names.append h'.names
  regular f hf := (List.mem_append.1 hf).elim (h.regular f) (h'.regular f)

/-- **A record is regular** when its fields are among those of different names. -/
theorem AreAmong.isRegular (h : AreAmong names fields) (hnames : names.Nodup) :
    (recordOf fields).IsRegular := by
  refine ⟨fun i j hij => ?_, fun i => h.regular _ (by simp)⟩
  have hnodup : (List.ofFn fun i : Fin fields.toArray.size => fields.toArray[i].1).Nodup := by
    rw [ofFn_toArray fields Prod.fst]
    exact hnames.sublist h.names
  exact List.nodup_ofFn.1 hnodup hij

theorem areAmong_field? {α : Type} {name : String} {layout : α → Layout} {o : Option α}
    (h : ∀ a ∈ o, (layout a).IsRegular) : AreAmong [name] (field? name layout o) := by
  cases o with
  | none => exact ⟨List.nil_sublist _, nofun⟩
  | some a =>
    refine ⟨List.Sublist.refl _, fun f hf => ?_⟩
    obtain rfl := List.mem_singleton.1 hf
    exact h a rfl

end

/-! ### What a record sets -/

/-- Sets the fields of a record, in their order. -/
def addTo (fields : List (String × Layout)) (object : Fields Json) : Fields Json :=
  fields.foldl (fun object f => object.insert f.1 f.2.value) object

/-- The value of a record has its fields set one after the other. -/
theorem value_recordOf (fields : List (String × Layout)) :
    (recordOf fields).value = ofFields (addTo fields .empty) := by
  show ofFields (.ofEntries (List.ofFn fun i : Fin fields.toArray.size =>
    (fields.toArray[i].1, fields.toArray[i].2.value))) = _
  rw [ofFn_toArray fields fun f => (f.1, f.2.value), Fields.ofEntries, List.foldl_map]
  rfl

theorem addTo_append (a b : List (String × Layout)) (object : Fields Json) :
    addTo (a ++ b) object = addTo b (addTo a object) :=
  List.foldl_append

/-- A field there may be no value for is set if there is one. -/
theorem addTo_field? {α : Type} {name : String} {layout : α → Layout} (o : Option α)
    (object : Fields Json) :
    addTo (field? name layout o) object
      = object.insert? name (o.map fun a => (layout a).value) := by
  cases o <;> rfl

end Layout

end InstructionStore.Json
