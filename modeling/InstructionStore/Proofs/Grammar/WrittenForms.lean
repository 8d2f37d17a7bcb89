import InstructionStore.Proofs.Grammar.Encoding
import InstructionStore.Proofs.Json.Layouts

/-!
# The two written forms of an instruction

An instruction is written twice over: as a record, with its fields in the order of their
declaration (`InstructionAt.layout`), and as a value (`InstructionAt.toJson`). Documents
are sent in the first form and stored in the second, so a field that one of them forgets,
renames or writes differently would be lost unnoticed.

Each group of fields sets the same fields in both forms (`Notes.addTo_record`,
`Action.addTo_record`), and has no field but those of its names (`Notes.areAmong_record`,
`Action.areAmong_record`). By induction over the instruction, the record has the value of
the instruction (`InstructionAt.value_layout`) and no field twice
(`InstructionAt.isRegular_layout`), so that both texts are read as one value.
-/

namespace InstructionStore

open Json (Layout Resembles)
open Json.Layout (AreAmong areAmong_field?)

/-! ## Groups of fields -/

/-- The names of the fields of what a step does. -/
def Action.names : Action → List String
  | .load _ => ["load", "method", "posts", "headers", "cookies"]
  | .find _ =>
    ["find", "case_insensitive", "multiline", "dot_matches_all", "replace", "match", "min", "max"]

theorem Notes.areAmong_record (notes : Notes) :
    AreAmong ["name", "description", "metadata"] notes.record := by
  show AreAmong (["name"] ++ ["description"] ++ ["metadata"]) _
  unfold Notes.record
  repeat' refine AreAmong.append ?_ ?_
  all_goals exact areAmong_field? fun _ _ => trivial

theorem Action.areAmong_record (a : Action) : AreAmong a.names a.record := by
  cases a with
  | load l =>
    show AreAmong (["load"] ++ ["method"] ++ ["posts"] ++ ["headers"] ++ ["cookies"]) l.record
    unfold Loading.record
    repeat' refine AreAmong.append ?_ ?_
    all_goals exact areAmong_field? fun _ _ => trivial
  | find f =>
    show AreAmong (["find"] ++ ["case_insensitive"] ++ ["multiline"] ++ ["dot_matches_all"] ++
      ["replace"] ++ ["match"] ++ ["min"] ++ ["max"]) f.record
    unfold Finding.record
    repeat' refine AreAmong.append ?_ ?_
    all_goals exact areAmong_field? fun _ _ => trivial

theorem Notes.addTo_record (notes : Notes) (object : Json.Fields Json) :
    Layout.addTo notes.record object = notes.addTo object := by
  unfold Notes.record Notes.addTo
  simp only [Layout.addTo_append, Layout.addTo_field?]
  rfl

/-- **An action sets the same fields in both forms.** -/
theorem Action.addTo_record (a : Action) (object : Json.Fields Json) :
    Layout.addTo a.record object = a.addTo object := by
  cases a with
  | load l =>
    show Layout.addTo l.record object = l.addTo object
    unfold Loading.record Loading.addTo
    simp only [Layout.addTo_append, Layout.addTo_field?]
    rfl
  | find f =>
    show Layout.addTo f.record object = f.addTo object
    unfold Finding.record Finding.addTo
    simp only [Layout.addTo_append, Layout.addTo_field?]
    rfl

/-! ## Instructions -/

namespace InstructionAt

variable {p : Place}

theorem layout_step (action : Action) (notes : Notes) (next base : Option Instruction) :
    (step (p := p) action notes next base).layout
      = .recordOf (notes.record ++ Layout.field? "then" layout next ++
          Layout.field? "extends" layout base ++ action.record) := by
  cases next <;> cases base <;> rfl

/-- **The record of an instruction has the value of the instruction.** -/
theorem value_layout (i : InstructionAt p) : i.layout.value = i.toJson := by
  induction i using InstructionAt.induct with
  | reference name => rfl
  | sequence size item ih =>
    have hitems : (List.ofFn fun j => (item j).layout).map Layout.value
        = List.ofFn fun j => (item j).toJson := by
      rw [List.map_ofFn]
      exact congrArg List.ofFn (funext ih)
    show (Layout.listOf (List.ofFn fun j => (item j).layout)).value
      = .arrayOf size fun j => (item j).toJson
    rw [Layout.value_listOf, hitems, Json.ofList_ofFn, Json.arrayOf_eq]
  | step action notes next base hnext hbase =>
    have hlinked {o : Option Instruction} (h : ∀ i ∈ o, i.layout.value = i.toJson) :
        (o.map fun i => i.layout.value) = o.map toJson :=
      Option.map_congr h
    rw [layout_step, Layout.value_recordOf, Grammar.toJson_step]
    simp only [Layout.addTo_append, Layout.addTo_field?, Notes.addTo_record,
      Action.addTo_record, hlinked hnext, hlinked hbase]

/-- **The record of an instruction has no field twice**, at any depth. -/
theorem isRegular_layout (i : InstructionAt p) : i.layout.IsRegular := by
  induction i using InstructionAt.induct with
  | reference name => trivial
  | sequence size item ih =>
    exact Layout.isRegular_listOf fun l hl => by
      obtain ⟨j, rfl⟩ := (List.mem_ofFn' _ _).1 hl
      exact ih j
  | step action notes next base hnext hbase =>
    rw [layout_step]
    have hleads : AreAmong ["then"] (Layout.field? "then" layout next) := areAmong_field? hnext
    have hinherits : AreAmong ["extends"] (Layout.field? "extends" layout base) :=
      areAmong_field? hbase
    have hfields := ((notes.areAmong_record.append hleads).append hinherits).append
      action.areAmong_record
    refine hfields.isRegular ?_
    cases action <;> simp [Action.names]

/-- **The two written forms of an instruction agree.** Its record has no field twice and is
its value, and whoever reads the text of either as a value reads the same. -/
theorem layout_agrees (i : InstructionAt p) :
    i.layout.IsRegular ∧ i.layout.value = i.toJson ∧
      ∃ w, Resembles i.toJson w ∧ ∀ room, i.toJson.depth ≤ room →
        Json.Reader.whole (Json.Reader.value room) i.layout.text = .ok w ∧
        Json.Reader.whole (Json.Reader.value room) i.text = .ok w := by
  obtain ⟨w, hread, hlayout⟩ := i.layout.exists_reads i.isRegular_layout
  rw [value_layout] at hread hlayout
  refine ⟨i.isRegular_layout, i.value_layout, w, hread.1, fun room hroom => ⟨?_, ?_⟩⟩
  · exact Json.Reader.whole_of_reads (hlayout room hroom)
  · exact Json.Reader.whole_of_reads (hread.2 room hroom)

end InstructionAt

end InstructionStore
