import InstructionStore.Proofs.Grammar.Storing
import InstructionStore.Proofs.Grammar.WrittenForms
import InstructionStore.Proofs.Json.Columns
import InstructionStore.Wire

/-!
# Documents and accounts are read as they were sent

A document is sent as a record whose parts are written by rules of their own: identifiers
are checked against their rule as they are read, and the instruction is written as a record
inside the record and read back through the grammar (`Instruction.reads_layout`). An
account is sent with what the provider says among its own fields. Of these the reader keeps
whatever is not a field of the account, and in the end finds the provider there, the
options that were left out as absent (`Provider.ofFields_entries`).
-/

namespace InstructionStore

open Json (Layout IsFloatFree printFields printString)
open Json.Reader (Reads ReadsFields Ends)

/-! ## The parts of a record -/

theorem Identifier.reads_layout (name : Identifier) :
    Reads Identifier.reader name.layout.print name := by
  refine (Json.Reader.reads_text name.text).checked ?_
  rw [ofString_text]
  rfl

theorem AccountId.reads_layout (id : AccountId) : Reads AccountId.reader id.layout.print id :=
  (Json.Reader.reads_text id.text).map AccountId.mk

theorem InstructionId.reads_layout (id : InstructionId) :
    Reads InstructionId.reader id.layout.print id :=
  (Json.Reader.reads_text id.text).map InstructionId.mk

/-- **The record of an accepted instruction is read as the instruction**: its levels leave
room enough, and the value that is read passes the grammar once more. -/
theorem Instruction.reads_layout {i : Instruction} (h : i.IsAccepted)
    (hexact : i.HasExactData) {room : Nat} (hroom : 66 ≤ room) :
    Reads (Instruction.reader room) i.layout.print i := by
  have hfree : IsFloatFree i.layout.value := by
    rw [i.value_layout]
    exact Grammar.isFloatFree_of_derives _ h hexact
  have hdepth : i.layout.value.depth ≤ room := by
    have hle := Grammar.depth_le_of_derives _ h
    rw [i.value_layout]
    omega
  refine (Layout.reads i.isRegular_layout hfree hdepth).checked ?_
  rw [i.value_layout, show ofJson i.toJson = .ok i from (Grammar.read_eq_ok_iff _).2 h]
  rfl

/-! ## Documents -/

theorem Document.reads_layout {d : Document} (h : d.instruction.IsAccepted)
    (hexact : d.instruction.HasExactData) : Reads Document.reader d.layout.print d := by
  have htags : List.Forall₂ (Reads Identifier.reader)
      ((d.tags.map Identifier.layout).map Layout.print) d.tags := by
    rw [List.map_map, List.forall₂_map_left_iff]
    exact List.forall₂_same.2 fun tag _ => tag.reads_layout
  have htags' : Reads (Json.Reader.array Identifier.reader)
      (Layout.listOf (d.tags.map Identifier.layout)).print d.tags := by
    rw [Layout.print_listOf]
    exact Json.Reader.reads_items htags
  have hbody := Instruction.reads_layout h hexact (show 66 ≤ Json.nestingLimit - 1 by decide)
  have hfields : ReadsFields Document.shape.field Document.shape.start
      [("id", d.id.layout.print), ("creator_id", d.creatorId.layout.print),
        ("name", d.name.layout.print),
        ("tags", (Layout.listOf (d.tags.map Identifier.layout)).print),
        ("instruction", d.instruction.layout.print)]
      ⟨some d.id, some d.creatorId, some d.name, some d.tags, some d.instruction⟩ := by
    refine .cons (Json.Reader.Shape.field_column rfl rfl d.id.reads_layout) ?_
    refine .cons (Json.Reader.Shape.field_column rfl rfl d.creatorId.reads_layout) ?_
    refine .cons (Json.Reader.Shape.field_column rfl rfl d.name.reads_layout) ?_
    refine .cons (Json.Reader.Shape.field_column rfl rfl htags') ?_
    exact .cons (Json.Reader.Shape.field_column rfl rfl hbody) .nil
  have hread := Json.Reader.Shape.reads hfields (a := d) rfl
  unfold Document.layout
  rw [Layout.print_recordOf]
  exact hread

/-! ## Accounts -/

namespace Provider

/-- The fields of a provider, as values. -/
def entries (p : Provider) : List (String × Json) :=
  [("provider", .string p.provider), ("provider_id", .string p.userId)] ++
  (p.url.map fun url => ("provider_url", .string url)).toList ++
  (p.image.map fun image => ("provider_img", .string image)).toList ++
  (p.displayName.map fun name => ("provider_name", .string name)).toList

theorem record_eq (p : Provider) : p.record = p.entries.map fun e => (e.1, .plain e.2) := by
  obtain ⟨provider, userId, url, image, displayName⟩ := p
  cases url <;> cases image <;> cases displayName <;> rfl

/-- **A provider is found among the fields of an account**; the options it has no field for
are absent. -/
theorem ofFields_entries (p : Provider) : ofFields p.entries = .ok p := by
  obtain ⟨provider, userId, url, image, displayName⟩ := p
  cases url <;> cases image <;> cases displayName <;> rfl

/-- The names of a provider's fields, each with a string for its value. -/
theorem of_mem_entries {p : Provider} {e : String × Json} (h : e ∈ p.entries) :
    e.1 ∈ ["provider", "provider_id", "provider_url", "provider_img", "provider_name"] ∧
      ∃ text, e.2 = .string text := by
  simp only [entries, List.mem_append, List.mem_cons, Option.mem_toList,
    Option.map_eq_some_iff, List.not_mem_nil, or_false] at h
  rcases h with (((rfl | rfl) | ⟨_, _, rfl⟩) | ⟨_, _, rfl⟩) | ⟨_, _, rfl⟩ <;>
    exact ⟨by simp, _, rfl⟩

end Provider

namespace Account

/-- Whether an account has a field of its own of a name. -/
abbrev HasColumn (name : String) : Prop := (shape.columns.any fun c => c.name = name) = true

/-- A field of the account's own is read into its column. -/
theorem readField_column {β : Type} {reader : Json.Reader β} {get : Slots → Option β}
    {set : Slots → β → Slots} {name : String} {required : Bool} {s : Slots} {text : List Char}
    {b : β}
    (hfind : shape.columns.find? (fun c => c.name = name)
      = some (Json.Reader.column name required reader get set))
    (hunset : get s = none) (h : Reads reader text b) (rest : List Char) (hrest : Ends rest) :
    readField s name (':' :: (text ++ rest)) = .ok (set s b, rest) := by
  have hcolumn : HasColumn name :=
    List.any_eq_true.2 ⟨_, List.mem_of_find?_eq_some hfind, decide_eq_true rfl⟩
  have hfield := Json.Reader.Shape.field_column hfind hunset h rest hrest
  rw [← hfield]
  exact if_pos hcolumn

/-- **A field that is not the account's own is kept**, as the value it has. -/
theorem readField_other {name : String} (h : ¬HasColumn name) {text : List Char} {v : Json}
    (hread : Reads (Json.Reader.value (Json.nestingLimit - 1)) text v) (s : Slots)
    (rest : List Char) (hrest : Ends rest) :
    readField s name (':' :: (text ++ rest))
      = .ok ({ s with others := (name, v) :: s.others }, rest) := by
  refine (if_neg h).trans ?_
  show (Json.Reader.value (Json.nestingLimit - 1) (text ++ rest) >>= _) = _
  rw [hread.2 rest hrest]
  rfl

/-- The fields of a provider are kept, last first. -/
theorem readsFields_provider (p : Provider) (s : Slots) :
    ReadsFields readField s (p.entries.map fun e => (e.1, e.2.print))
      { s with others := p.entries.reverse ++ s.others } := by
  have hentries : ∀ e ∈ p.entries, ¬HasColumn e.1 ∧
      Reads (Json.Reader.value (Json.nestingLimit - 1)) e.2.print e.2 := by
    intro e he
    obtain ⟨hname, text, htext⟩ := Provider.of_mem_entries he
    have hnames : ∀ name ∈ ["provider", "provider_id", "provider_url", "provider_img",
        "provider_name"], ¬HasColumn name := by decide
    rw [htext]
    exact ⟨hnames e.1 hname, Json.Reader.reads_string text⟩
  generalize p.entries = entries at hentries
  induction entries generalizing s with
  | nil => exact .nil
  | cons e entries ih =>
    obtain ⟨hname, hread⟩ := hentries e List.mem_cons_self
    have hothers := ih { s with others := e :: s.others } fun e' he' =>
      hentries e' (List.mem_cons_of_mem e he')
    refine .cons (readField_other hname hread s) ?_
    rw [List.reverse_cons, List.append_assoc]
    exact hothers

/-- **An account is read as it was sent**, whatever its provider left out. -/
theorem reads_layout (a : Account) : Reads reader a.layout.print a := by
  have hfirst : ReadsFields readField shape.start
      [("id", a.id.layout.print), ("name", a.name.layout.print), ("email", printString a.email)]
      ⟨some a.id, some a.name, some a.email, none, none, []⟩ := by
    refine .cons (readField_column rfl rfl a.id.reads_layout) ?_
    refine .cons (readField_column rfl rfl a.name.reads_layout) ?_
    exact .cons (readField_column rfl rfl (Json.Reader.reads_text a.email)) .nil
  have hprovider := readsFields_provider a.provider
    ⟨some a.id, some a.name, some a.email, none, none, []⟩
  have hlast : ReadsFields readField
      ⟨some a.id, some a.name, some a.email, none, none, a.provider.entries.reverse ++ []⟩
      [("deleted", (Json.bool a.deleted).print),
        ("created_at_ms", (Json.number (.ofInt64 a.createdAt)).print)]
      ⟨some a.id, some a.name, some a.email, some a.deleted, some a.createdAt,
        a.provider.entries.reverse ++ []⟩ := by
    refine .cons (readField_column rfl rfl (Json.Reader.reads_boolean a.deleted)) ?_
    exact .cons (readField_column rfl rfl (Json.Reader.reads_int64 a.createdAt)) .nil
  have hfinish : Slots.finish ⟨some a.id, some a.name, some a.email, some a.deleted,
      some a.createdAt, a.provider.entries.reverse ++ []⟩ = .ok a := by
    show (Provider.ofFields (a.provider.entries.reverse ++ []).reverse >>= _) = _
    rw [List.append_nil, List.reverse_reverse, a.provider.ofFields_entries]
    rfl
  have hprint : a.layout.print = printFields
      ([("id", a.id.layout.print), ("name", a.name.layout.print),
          ("email", printString a.email)] ++
        a.provider.entries.map (fun e => (e.1, e.2.print)) ++
        [("deleted", (Json.bool a.deleted).print),
          ("created_at_ms", (Json.number (.ofInt64 a.createdAt)).print)]) := by
    unfold layout
    rw [Layout.print_recordOf, a.provider.record_eq, List.map_append, List.map_append,
      List.map_map]
    rfl
  rw [hprint]
  refine ⟨⟨'\x7b', _, rfl, by decide, by decide, by decide⟩, fun rest _ => ?_⟩
  have hobject := Json.Reader.object_of_readsFields
    ((hfirst.append hprovider).append hlast) hfinish rest
  unfold printFields
  rw [List.append_assoc, List.cons_append, List.singleton_append]
  exact hobject

end Account

/-- **Documents and accounts are read as they were sent.** A document is, if the grammar
accepts its instruction and there are no floats in it; an account always. -/
theorem whole_text_layout :
    (∀ (d : Document) (v : Json), Instruction.ofJson v = .ok d.instruction →
      d.instruction.HasExactData →
        Json.Reader.whole Document.reader d.layout.text = .ok d) ∧
    ∀ a : Account, Json.Reader.whole Account.reader a.layout.text = .ok a := by
  refine ⟨fun d v hbody hexact => ?_, fun a => ?_⟩
  · have haccepted := Instruction.isAccepted_of_ofJson hbody
    exact Json.Reader.whole_of_reads (Document.reads_layout haccepted hexact)
  · exact Json.Reader.whole_of_reads a.reads_layout

/-- A document with free-form data whose instruction leads to a sequence. -/
def Document.leading : Document where
  id := ⟨"d/1"⟩
  creatorId := ⟨"é"⟩
  name := ⟨"trail", by decide⟩
  tags := [⟨"tag_2", by decide⟩, ⟨"tag-1", by decide⟩]
  instruction :=
    .step (.find ⟨some "\"x\n", none, some true, none, none, none, some 0, some (-1)⟩)
      ⟨some "\x00", none, some (.ofEntries [("k", .array 1 fun _ => .null)])⟩
      (some (.sequence 2 fun _ => .reference "next")) none

/-- An account of long ago whose provider gives a picture only. -/
def Account.pictured : Account where
  id := ⟨"a 1"⟩
  name := ⟨"carol", by decide⟩
  email := "carol@\\"
  provider := ⟨"git\"hub", "", none, some "picture", none⟩
  deleted := true
  createdAt := Int64.minValue

theorem whole_text_layout_leading :
    Instruction.ofJson Document.leading.instruction.toJson = .ok Document.leading.instruction ∧
    Document.leading.instruction.HasExactData ∧
    Json.Reader.whole Document.reader Document.leading.layout.text = .ok Document.leading ∧
    Json.Reader.whole Account.reader Account.pictured.layout.text = .ok Account.pictured := by
  have hexact : Document.leading.instruction.HasExactData := by
    refine .step ?_ ?_ nofun
    · rintro data ⟨⟩ i
      match i with
      | ⟨0, _⟩ => exact .array fun _ => .null
    · rintro i ⟨⟩
      exact .sequence fun _ => .reference
  have hread : (Instruction.ofJson Document.leading.instruction.toJson).toOption
      = some Document.leading.instruction := by decide +kernel
  have hbody := Outcome.eq_ok_of_toOption hread
  exact ⟨hbody, hexact, whole_text_layout.1 _ _ hbody hexact, whole_text_layout.2 _⟩

end InstructionStore
