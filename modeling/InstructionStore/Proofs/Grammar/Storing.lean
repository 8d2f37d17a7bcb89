import InstructionStore.Proofs.Grammar.Rereading
import InstructionStore.Proofs.Json.Nesting

/-!
# Every accepted instruction can be stored

An instruction is stored as a text and read again from it. The reader refuses a text
in which too many containers are open at once, and it may read a float as another one;
whatever else an accepted instruction holds, it comes back as it was
(`Instruction.ofText_text_of_ofJson`).

Floats can stand in free-form data only, so it is enough to ask that there are none in
it (`Grammar.isFloatFree_of_derives`). And the levels of the grammar, which are not
the depth of the text, bound the containers that are open in it all the same.
-/

namespace InstructionStore

open Json (IsFloatFree openContainers)

/-- **There are no floats in the free-form data** of an instruction, wherever in it the
data stands. -/
inductive InstructionAt.HasExactData : {p : Place} → InstructionAt p → Prop where
  /-- A reference has no free-form data. -/
  | reference {p : Place} {name : String} : HasExactData (.reference (p := p) name)
  /-- That of a sequence is in its items. -/
  | sequence {size : Nat} {item : Fin size → InstructionAt .inSequence}
    (items : ∀ i, HasExactData (item i)) : HasExactData (.sequence size item)
  /-- That of a step is its own, and in what it leads to and inherits from. -/
  | step {p : Place} {action : Action} {notes : Notes} {next base : Option Instruction}
    (metadata : ∀ data ∈ notes.metadata, ∀ i, IsFloatFree (data.value i))
    (leads : ∀ i ∈ next, HasExactData i) (inherits : ∀ i ∈ base, HasExactData i) :
    HasExactData (.step (p := p) action notes next base)

namespace Grammar

/-! ## Fields without floats -/

theorem IsString.isFloatFree {v : Json} {s : String} (h : IsString v s) : IsFloatFree v := by
  cases h
  exact .string

theorem IsBoolean.isFloatFree {v : Json} {b : Bool} (h : IsBoolean v b) : IsFloatFree v := by
  cases h
  exact .bool

theorem IsInteger.isFloatFree {v : Json} {n : Int64} (h : IsInteger v n) : IsFloatFree v := by
  cases h
  exact .integer

theorem IsMethod.isFloatFree {v : Json} {m : Method} (h : IsMethod v m) : IsFloatFree v := by
  cases h <;> exact .string

theorem IsStrings.isFloatFree {v : Json} {texts : Json.Fields String} (h : IsStrings v texts) :
    IsFloatFree v := by
  cases h
  exact .object fun _ => .string

theorem IsPostData.isFloatFree {v : Json} {posts : PostData} (h : IsPostData v posts) :
    IsFloatFree v := by
  cases h with
  | raw body => exact .string
  | form h => exact h.isFloatFree

theorem IsMetadata.isFloatFree {level : Nat} {v : Json} {data : Json.Fields Json}
    (h : IsMetadata level v data) (exact' : ∀ i, IsFloatFree (data.value i)) :
    IsFloatFree v := by
  cases h
  exact .object exact'

section
variable {fields : Json.Fields Json} {v : Json} {name : String}

theorem IsLoading.isFloatFree {l : Loading} (h : IsLoading fields l) (hname : LoadField name)
    (hv : fields.get? name = some v) : IsFloatFree v := by
  cases hname with
  | target => exact (exists_of_rel h.target hv).elim fun _ hs => hs.isFloatFree
  | method => exact (exists_of_rel h.method hv).elim fun _ hm => hm.isFloatFree
  | posts => exact (exists_of_rel h.posts hv).elim fun _ hposts => hposts.isFloatFree
  | headers => exact (exists_of_rel h.headers hv).elim fun _ htexts => htexts.isFloatFree
  | cookies => exact (exists_of_rel h.cookies hv).elim fun _ htexts => htexts.isFloatFree

theorem IsFinding.isFloatFree {f : Finding} (h : IsFinding fields f) (hname : FindField name)
    (hv : fields.get? name = some v) : IsFloatFree v := by
  cases hname with
  | pattern => exact (exists_of_rel h.pattern hv).elim fun _ hs => hs.isFloatFree
  | caseInsensitive =>
    exact (exists_of_rel h.caseInsensitive hv).elim fun _ hb => hb.isFloatFree
  | multiline => exact (exists_of_rel h.multiline hv).elim fun _ hb => hb.isFloatFree
  | dotMatchesAll => exact (exists_of_rel h.dotMatchesAll hv).elim fun _ hb => hb.isFloatFree
  | replace => exact (exists_of_rel h.replace hv).elim fun _ hs => hs.isFloatFree
  | matchIndex => exact (exists_of_rel h.matchIndex hv).elim fun _ hn => hn.isFloatFree
  | min => exact (exists_of_rel h.min hv).elim fun _ hn => hn.isFloatFree
  | max => exact (exists_of_rel h.max hv).elim fun _ hn => hn.isFloatFree

theorem IsAction.isFloatFree {a : Action} (h : IsAction fields a)
    (hname : LoadField name ∨ FindField name) (hv : fields.get? name = some v) :
    IsFloatFree v := by
  have hmem : name ∈ fields.keys.names :=
    Json.Fields.isSome_get?_iff.1 (by rw [hv, Option.isSome_some])
  cases h with
  | load loads pure complete written =>
    exact written.isFloatFree (hname.resolve_right (pure name hmem)) hv
  | find pure complete written =>
    exact written.isFloatFree (hname.resolve_left (pure name hmem)) hv

theorem IsNotes.isFloatFree {level : Nat} {notes : Notes} (h : IsNotes level fields notes)
    (exact' : ∀ data ∈ notes.metadata, ∀ i, IsFloatFree (data.value i))
    (hv : fields.get? "metadata" = some v) : IsFloatFree v := by
  have hmetadata := h.metadata
  rw [hv] at hmetadata
  generalize notes.metadata = data at hmetadata exact'
  cases hmetadata with
  | some hdata => exact hdata.isFloatFree (exact' _ rfl)

end

/-- **Floats stand in free-form data only**: a value that is written for an instruction
has none when there are none in the data. -/
theorem isFloatFree_of_derives (v : Json) : ∀ {p : Place} {level : Nat} {i : InstructionAt p},
    Derives level v i → i.HasExactData → IsFloatFree v := by
  induction v with
  | null => exact nofun
  | bool b => exact nofun
  | number n => exact nofun
  | string s => exact fun _ _ => .string
  | array size item ih =>
    intro p level i h hexact
    cases h with
    | sequence here items =>
      cases hexact with
      | sequence hitems => exact .array fun i => ih i (items i) (hitems i)
  | object keys value ih =>
    intro p level i h hexact
    cases h with
    | step here known does noted leads inherits =>
      cases hexact with
      | step hmetadata hleads hinherits =>
        have hlink {name : String} {o : Option Instruction} {j : Fin keys.size}
            (hlinks : Links (level + 1) (Json.Fields.get? ⟨keys, value⟩ name) o)
            (ho : ∀ i ∈ o, i.HasExactData)
            (hj : Json.Fields.get? ⟨keys, value⟩ name = some (value j)) :
            IsFloatFree (value j) := by
          rw [hj] at hlinks
          cases hlinks with
          | present h => exact ih j h (ho _ rfl)
        refine .object fun j => ?_
        have hj : Json.Fields.get? ⟨keys, value⟩ (keys.name j) = some (value j) :=
          Json.Fields.get?_eq_some_iff.2 ⟨j, rfl, rfl⟩
        have hmem : keys.name j ∈ keys.names := Json.Keys.name_mem_names j
        generalize keys.name j = name at hj hmem
        rcases known name hmem with hcommon | hown
        · cases hcommon with
          | name => exact (exists_of_rel noted.name hj).elim fun _ hs => hs.isFloatFree
          | description =>
            exact (exists_of_rel noted.description hj).elim fun _ hs => hs.isFloatFree
          | metadata => exact noted.isFloatFree hmetadata hj
          | next => exact hlink leads hleads hj
          | base => exact hlink inherits hinherits hj
        · exact does.isFloatFree hown hj

end Grammar

namespace Instruction

open Grammar

/-- **Every accepted instruction can be stored**: in its text there are never more than
66 containers open, far fewer than the reader refuses, and the text is read as the
instruction again. Nothing is asked of the strings in it. -/
theorem ofText_text_of_ofJson {v : Json} {i : Instruction} (h : ofJson v = .ok i)
    (hexact : i.HasExactData) :
    (∀ k, openContainers (i.text.toList.take k) ≤ 66) ∧ 66 < Json.nestingLimit
      ∧ ofText i.text = .ok i := by
  have haccepted := isAccepted_of_ofJson h
  have hdepth := depth_le_of_derives _ haccepted
  refine ⟨fun k => ?_, by decide, ?_⟩
  · have hopen := Json.openContainers_le_depth i.toJson k
    unfold InstructionAt.text
    omega
  · exact ofText_text haccepted (isFloatFree_of_derives _ haccepted hexact)

/-- A step with marks, escapes and control characters wherever a text can stand. -/
def marked : Instruction :=
  .step (.find ⟨some "\"\\\x01é😀", none, some true, none, some "\x7f\n", none, some 0, some (-1)⟩)
    ⟨none, some "[\x7b", some (.ofEntries [("\t\"", .array 1 fun _ => .string "]\\")])⟩
    (some (.sequence 2 fun _ => .reference "\x00")) (some (.reference "\\\""))

theorem ofText_text_of_ofJson_marked :
    marked.HasExactData ∧ ofText marked.text = .ok marked := by
  have hexact : marked.HasExactData := by
    refine .step ?_ ?_ ?_
    · rintro data ⟨⟩ i
      match i with
      | ⟨0, _⟩ => exact .array fun _ => .string
    · rintro i ⟨⟩
      exact .sequence fun _ => .reference
    · rintro i ⟨⟩
      exact .reference
  have hread : (ofJson marked.toJson).toOption = some marked := by decide +kernel
  exact ⟨hexact, (ofText_text_of_ofJson (Outcome.eq_ok_of_toOption hread) hexact).2.2⟩

end Instruction

end InstructionStore
