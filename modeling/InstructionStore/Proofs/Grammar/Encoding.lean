import InstructionStore.Instruction.Encoding
import InstructionStore.Proofs.Grammar.Reading

/-!
# What is read is written back

An instruction that was read from a value has that value as its written form:
nothing of the value is lost, and nothing is filled in that was not there.

The written form of a step is built field by field, and it comes to the object
the step was read from because each field is set to what that object has under
its name. `Fields.Copies` is the state of such a copy: it has the fields of some
names and no others. Setting one more field adds a name
(`Fields.Copies.insert?`), and a copy that has all the names is the object itself
(`Fields.Copies.eq`).
-/

namespace InstructionStore

namespace Json.Fields

variable {α : Type u} {copy target : Fields α} {names : List String}

/-- **A copy of the fields of some names.** -/
def Copies (names : List String) (copy target : Fields α) : Prop :=
  ∀ name, copy.get? name = if name ∈ names then target.get? name else none

theorem copies_empty (target : Fields α) : Copies [] empty target := fun name => by
  rw [get?_empty, if_neg List.not_mem_nil]

/-- **Setting a field as the original has it** copies one name more. -/
theorem Copies.insert? (h : Copies names copy target) {name : String} {o : Option α}
    (ho : target.get? name = o) : Copies (name :: names) (copy.insert? name o) target := by
  subst ho
  intro n
  rw [get?_insert?, h n]
  by_cases hn : n = name
  · subst hn
    by_cases hm : n ∈ names <;> simp [hm]
  · simp only [hn, if_false, List.mem_cons, false_or]

/-- A copy of all the fields is the original. -/
theorem Copies.eq (h : Copies names copy target)
    (hall : ∀ name ∈ target.keys.names, name ∈ names) : copy = target := by
  refine ext_get? fun name => ?_
  rw [h name]
  by_cases hn : name ∈ names
  · rw [if_pos hn]
  · rw [if_neg hn, get?_eq_none_iff.2 fun hm => hn (hall name hm)]

end Json.Fields

namespace Grammar

open Json.Fields (Copies)

/-! ## Fields -/

/-- A field that may be absent holds the written form of what it is written
for. -/
theorem eq_map_of_rel {α : Type} {written : Json → α → Prop} {form : α → Json}
    (hform : ∀ v a, written v a → v = form a) {x : Option Json} {o : Option α}
    (h : Option.Rel written x o) : x = o.map form := by
  cases h with
  | some h => rw [hform _ _ h, Option.map_some]
  | none => rfl

section
variable {x : Option Json}

theorem stringField {o : Option String} (h : Option.Rel IsString x o) : x = o.map .string :=
  eq_map_of_rel (fun _ _ hs => isString_iff.1 hs) h

theorem booleanField {o : Option Bool} (h : Option.Rel IsBoolean x o) : x = o.map .bool :=
  eq_map_of_rel (fun | _, _, .bool _ => rfl) h

theorem integerField {o : Option Int64} (h : Option.Rel IsInteger x o) :
    x = o.map fun n => .number (.ofInt64 n) :=
  eq_map_of_rel (fun | _, _, .integer _ _ => rfl) h

theorem methodField {o : Option Method} (h : Option.Rel IsMethod x o) :
    x = o.map fun m => .string m.word :=
  eq_map_of_rel (fun _ _ hm => by cases hm <;> rfl) h

theorem eq_ofStrings_of_isStrings {v : Json} {texts : Json.Fields String}
    (h : IsStrings v texts) : v = .ofStrings texts := by
  obtain ⟨keys, text⟩ := h
  rw [Json.ofStrings, Json.Fields.map_value]
  rfl

theorem stringsField {o : Option (Json.Fields String)} (h : Option.Rel IsStrings x o) :
    x = o.map .ofStrings :=
  eq_map_of_rel (fun _ _ hs => eq_ofStrings_of_isStrings hs) h

theorem postsField {o : Option PostData} (h : Option.Rel IsPostData x o) :
    x = o.map PostData.toJson :=
  eq_map_of_rel (fun | _, _, .raw _ => rfl | _, _, .form h => eq_ofStrings_of_isStrings h) h

theorem metadataField {level : Nat} {o : Option (Json.Fields Json)}
    (h : Option.Rel (IsMetadata level) x o) : x = o.map .ofFields :=
  eq_map_of_rel (fun | _, _, .object _ => rfl) h

end

/-! ## Steps -/

section
variable {names : List String} {copy fields : Json.Fields Json}

/-- Notes copy their fields. -/
theorem copies_notes {level : Nat} {notes : Notes} (h : Copies names copy fields)
    (written : IsNotes level fields notes) :
    Copies ("metadata" :: "description" :: "name" :: names) (notes.addTo copy) fields := by
  have hname := h.insert? (stringField written.name)
  have hdescription := hname.insert? (stringField written.description)
  exact hdescription.insert? (metadataField written.metadata)

/-- A step that loads copies its fields. -/
theorem copies_loading {l : Loading} (h : Copies names copy fields)
    (written : IsLoading fields l) :
    Copies ("cookies" :: "headers" :: "posts" :: "method" :: "load" :: names)
      (l.addTo copy) fields := by
  have htarget := h.insert? (stringField written.target)
  have hmethod := htarget.insert? (methodField written.method)
  have hposts := hmethod.insert? (postsField written.posts)
  have hheaders := hposts.insert? (stringsField written.headers)
  exact hheaders.insert? (stringsField written.cookies)

/-- A step that finds copies its fields. -/
theorem copies_finding {f : Finding} (h : Copies names copy fields)
    (written : IsFinding fields f) :
    Copies ("max" :: "min" :: "match" :: "replace" :: "dot_matches_all" :: "multiline"
      :: "case_insensitive" :: "find" :: names) (f.addTo copy) fields := by
  have hpattern := h.insert? (stringField written.pattern)
  have hcase := hpattern.insert? (booleanField written.caseInsensitive)
  have hmultiline := hcase.insert? (booleanField written.multiline)
  have hdot := hmultiline.insert? (booleanField written.dotMatchesAll)
  have hreplace := hdot.insert? (stringField written.replace)
  have hmatch := hreplace.insert? (integerField written.matchIndex)
  have hmin := hmatch.insert? (integerField written.min)
  exact hmin.insert? (integerField written.max)

/-- **The fields of a step are all copied**: those of notes, what the step leads
to, and those of its action. -/
theorem addTo_eq {level : Nat} {action : Action} {notes : Notes} {next base : Option Json}
    (known : ∀ name ∈ fields.keys.names, CommonField name ∨ LoadField name ∨ FindField name)
    (does : IsAction fields action) (noted : IsNotes level fields notes)
    (hnext : fields.get? "then" = next) (hbase : fields.get? "extends" = base) :
    action.addTo (((notes.addTo .empty).insert? "then" next).insert? "extends" base)
      = fields := by
  have hnotes := copies_notes (Json.Fields.copies_empty fields) noted
  have hcommon := (hnotes.insert? hnext).insert? hbase
  cases does with
  | load _ hnone _ written =>
    refine (copies_loading hcommon written).eq fun name hname => ?_
    rcases known name hname with h | h | h
    · cases h <;> decide
    · cases h <;> decide
    · exact absurd h (hnone name hname)
  | find hnone _ written =>
    refine (copies_finding hcommon written).eq fun name hname => ?_
    rcases known name hname with h | h | h
    · cases h <;> decide
    · exact absurd h (hnone name hname)
    · cases h <;> decide

end

/-! ## Instructions -/

theorem toJson_step {p : Place} (action : Action) (notes : Notes)
    (next base : Option Instruction) :
    (InstructionAt.step (p := p) action notes next base).toJson
      = .ofFields (action.addTo
          (((notes.addTo .empty).insert? "then" (next.map InstructionAt.toJson)).insert? "extends"
            (base.map InstructionAt.toJson))) := by
  cases next <;> cases base <;> rfl

/-- What a step leads to is written under its field, if it is when alone. -/
theorem eq_map_of_links {level : Nat} {x : Option Json} {o : Option Instruction}
    (h : Links level x o) (hform : ∀ v ∈ x, ∀ i : Instruction, Derives level v i → i.toJson = v) :
    x = o.map InstructionAt.toJson := by
  cases h with
  | absent => rfl
  | present h => rw [Option.map_some, hform _ rfl _ h]

/-- **An instruction is written as the value it is derived from.** -/
theorem toJson_of_derives (v : Json) :
    ∀ {p : Place} {level : Nat} {i : InstructionAt p}, Derives level v i → i.toJson = v := by
  induction v with
  | null => exact nofun
  | bool b => exact nofun
  | number n => exact nofun
  | string s =>
    intro p level i h
    cases h
    rfl
  | array size item ih =>
    intro p level i h
    cases h with
    | sequence _ hpart =>
      rw [InstructionAt.toJson, Json.arrayOf_eq]
      exact congrArg (Json.array size) (funext fun j => ih j (hpart j))
  | object keys value ih =>
    intro p level i h
    cases h with
    | step _ known does noted leads inherits =>
      -- values are written by name, and the hypothesis is about them by index
      have hvalue : ∀ name, ∀ w ∈ Json.Fields.get? ⟨keys, value⟩ name, ∀ i : Instruction,
          Derives (level + 1) w i → i.toJson = w := by
        intro name w hw i hi
        obtain ⟨j, -, rfl⟩ := Json.Fields.get?_eq_some_iff.1 hw
        exact ih j hi
      rw [toJson_step, addTo_eq known does noted (eq_map_of_links leads (hvalue _))
        (eq_map_of_links inherits (hvalue _))]
      rfl

/-- **Nothing is lost and nothing is added**: an instruction read from a value
is written as that value, with every field it has, at every depth, and no
other. -/
theorem toJson_of_ofJson {v : Json} {i : Instruction} (h : Instruction.ofJson v = .ok i) :
    i.toJson = v :=
  toJson_of_derives v ((read_eq_ok_iff v).1 h)

/-- A step that loads with header fields of its own, and inherits from a
sequence; free-form data is noted on it. -/
def inheritingLoad : Json :=
  .ofFields (.ofEntries [
    ("extends", .ofList [.string "base", .ofFields (.ofEntries [("find", .string "a"),
      ("min", .number (.ofInt64 (-1)))])]),
    ("headers", .ofFields (.ofEntries [("b", .string "1"), ("a", .string "2")])),
    ("metadata", .ofFields (.ofEntries [("k", .ofList [.null, .bool true])]))])

theorem toJson_of_ofJson_inheritingLoad :
    ∃ i, Instruction.ofJson inheritingLoad = .ok i ∧ i.toJson = inheritingLoad := by
  have hok : (Instruction.ofJson inheritingLoad).isOk = true := by decide +kernel
  obtain ⟨i, hi⟩ := Outcome.exists_eq_ok_of_isOk hok
  exact ⟨i, hi, toJson_of_ofJson hi⟩

end Grammar

end InstructionStore
