import InstructionStore.Proofs.Grammar.WrittenForms

/-!
# Instructions that are read as they are

An instruction can be built without being read from anything, and then nothing has checked
it: a step may lack its target, it may name one match and a range of them, and the levels may
be used up. Its value shows what it is made of, but **not what kind of step a step is**. That
is told from the fields, and a step that loads without a field of its own has none that tells.

So what is read from the value of an instruction is not always the instruction.
`Instruction.ofJson_toJson_iff` says for every instruction what it is. If each step has what a
step of its kind needs (`Action.IsTold`) and everything lies within the levels, the instruction
is read as it is, and otherwise it is not. If all that is missing is that some steps load and
have nothing but what they inherit, the value is accepted still, and those steps are read as
steps that find (`InstructionAt.settled`).

Both directions are inductions over the instruction, and neither says what else might be read:
readers have one result, so it is enough to derive one instruction from the value.
-/

namespace InstructionStore

open Json (StandsWithin)

/-! ## Steps that tell what they do -/

/-- Loading without a field of its own. -/
def Loading.blank : Loading := ⟨none, none, none, none, none⟩

/-- Finding without a field of its own. -/
def Finding.blank : Finding := ⟨none, none, none, none, none, none, none, none⟩

theorem Loading.ne_blank_iff {l : Loading} :
    l ≠ .blank ↔ l.target.isSome ∨ l.method.isSome ∨ l.posts.isSome ∨ l.headers.isSome ∨
      l.cookies.isSome := by
  obtain ⟨target, method, posts, headers, cookies⟩ := l
  simp only [Ne, Loading.blank, Loading.mk.injEq, Option.isSome_iff_ne_none, not_and_or]

namespace Action

/-- **What a step must have to be read as it is.** One that loads has a target, or it inherits
and has another field of loading. One that finds has a pattern or inherits, and it does not name
one match together with an end of a range. -/
def IsTold (inherits : Bool) : Action → Prop
  | .load l => l.target.isSome ∨ inherits ∧
      (l.method.isSome ∨ l.posts.isSome ∨ l.headers.isSome ∨ l.cookies.isSome)
  | .find f => (f.pattern.isSome ∨ inherits) ∧
      ¬(f.matchIndex.isSome ∧ (f.min.isSome ∨ f.max.isSome))

/-- **What a step must have to be read at all**: what it must have to be read as it is, or it
loads and has nothing but what it inherits. -/
def IsReadable (inherits : Bool) (a : Action) : Prop :=
  a.IsTold inherits ∨ a = .load .blank ∧ inherits

/-- **What a step is read to do**: loading without a field of its own is taken for finding. -/
def settled : Action → Action
  | .load l => if l = .blank then .find .blank else .load l
  | .find f => .find f

variable {a : Action} {inherits : Bool}

@[simp] theorem settled_blank : settled (.load .blank) = .find .blank := by
  simp [settled]

theorem settled_load {l : Loading} (h : l ≠ .blank) : settled (.load l) = .load l := by
  simp [settled, h]

/-- A step that loads is told from its fields if it has any, and may leave out the target only
if it inherits. -/
theorem isTold_load_iff {l : Loading} :
    IsTold inherits (.load l) ↔ l ≠ .blank ∧ (l.target.isSome ∨ inherits) := by
  rw [Loading.ne_blank_iff, IsTold]
  tauto

theorem isTold_find_iff {f : Finding} :
    IsTold inherits (.find f) ↔ (f.matchIndex = none ∨ f.min = none ∧ f.max = none) ∧
      (f.pattern.isSome ∨ inherits) := by
  simp only [IsTold, Option.isSome_iff_ne_none]
  tauto

/-- A step that is readable tells what it is read to do. -/
theorem isTold_settled (h : a.IsReadable inherits) : a.settled.IsTold inherits := by
  rcases h with h | ⟨rfl, h⟩
  · cases a with
    | load l => rwa [settled_load (isTold_load_iff.1 h).1]
    | find f => exact h
  · rw [settled_blank]
    exact isTold_find_iff.2 ⟨.inl rfl, .inr h⟩

/-- What is read as it is is what is readable and not taken for anything else. -/
theorem isTold_iff : a.IsTold inherits ↔ a.IsReadable inherits ∧ a.settled = a := by
  constructor
  · intro h
    refine ⟨.inl h, ?_⟩
    cases a with
    | load l => exact settled_load (isTold_load_iff.1 h).1
    | find f => rfl
  · rintro ⟨h | ⟨rfl, -⟩, hsettled⟩
    · exact h
    · rw [settled_blank] at hsettled
      exact nomatch hsettled

/-! ## The fields of a step -/

variable {fields : Json.Fields Json} {name : String}

/-- A field that is absent is not written, so what a step is read to do is written as before. -/
theorem addTo_settled (a : Action) (fields : Json.Fields Json) :
    a.settled.addTo fields = a.addTo fields := by
  cases a with
  | find f => rfl
  | load l =>
    by_cases h : l = .blank
    · subst h
      rw [settled_blank]
      rfl
    · rw [settled_load h]

/-- An action sets no field but those of its names. -/
theorem get?_addTo (h : name ∉ a.names) : (a.addTo fields).get? name = fields.get? name := by
  cases a with
  | load l =>
    simp only [names, List.mem_cons, List.not_mem_nil, or_false, not_or] at h
    simp [addTo, Loading.addTo, h]
  | find f =>
    simp only [names, List.mem_cons, List.not_mem_nil, or_false, not_or] at h
    simp [addTo, Finding.addTo, h]

end Action

namespace Grammar

open Json.Fields (isSome_get?_iff get?_eq_none_iff)

theorem LoadField.not_find {name : String} (h : LoadField name) : ¬FindField name := by
  rw [← mem_findFields_iff]
  cases h <;> decide

theorem CommonField.not_load {name : String} (h : CommonField name) : ¬LoadField name := by
  rw [← mem_loadFields_iff]
  cases h <;> decide

theorem CommonField.not_find {name : String} (h : CommonField name) : ¬FindField name := by
  rw [← mem_findFields_iff]
  cases h <;> decide

/-! ## What a step's fields are written for -/

/-- A field that may be absent is written for what it is made of. -/
theorem rel_map {α : Type} {written : Json → α → Prop} {form : α → Json}
    (h : ∀ a, written (form a) a) (o : Option α) : Option.Rel written (o.map form) o := by
  cases o with
  | none => exact .none
  | some a => exact .some (h a)

theorem isMethod_word (m : Method) : IsMethod (.string m.word) m :=
  ofWord?_eq_some_iff_isMethod.1 (Method.ofWord?_word m)

theorem isStrings_ofStrings (texts : Json.Fields String) : IsStrings (.ofStrings texts) texts := by
  rw [Json.ofStrings, Json.Fields.map_value]
  exact .object texts.keys texts.value

theorem isPostData_toJson : (posts : PostData) → IsPostData posts.toJson posts
  | .raw body => .raw body
  | .form fields => .form (isStrings_ofStrings fields)

theorem isInteger_ofInt64 (n : Int64) : IsInteger (.number (.ofInt64 n)) n :=
  integer?_eq_some_iff.1 (Json.toInt64?_ofInt64 n)

section
variable {a a' : Action} {inherits : Bool} {fields : Json.Fields Json} {name : String}

/-- The fields of loading are written for it. -/
theorem isLoading_addTo {l : Loading} (hnone : ∀ name, LoadField name → fields.get? name = none) :
    IsLoading (l.addTo fields) l where
  target := by simpa [Loading.addTo, hnone _ .target] using rel_map .string l.target
  method := by simpa [Loading.addTo, hnone _ .method] using rel_map isMethod_word l.method
  posts := by simpa [Loading.addTo, hnone _ .posts] using rel_map isPostData_toJson l.posts
  headers := by simpa [Loading.addTo, hnone _ .headers] using rel_map isStrings_ofStrings l.headers
  cookies := by simpa [Loading.addTo, hnone _ .cookies] using rel_map isStrings_ofStrings l.cookies

/-- The fields of finding are written for it, unless it names one match and a range. -/
theorem isFinding_addTo {f : Finding} (hnone : ∀ name, FindField name → fields.get? name = none)
    (exclusive : f.matchIndex = none ∨ f.min = none ∧ f.max = none) :
    IsFinding (f.addTo fields) f where
  pattern := by simpa [Finding.addTo, hnone _ .pattern] using rel_map .string f.pattern
  caseInsensitive := by
    simpa [Finding.addTo, hnone _ .caseInsensitive] using rel_map .bool f.caseInsensitive
  multiline := by simpa [Finding.addTo, hnone _ .multiline] using rel_map .bool f.multiline
  dotMatchesAll := by
    simpa [Finding.addTo, hnone _ .dotMatchesAll] using rel_map .bool f.dotMatchesAll
  replace := by simpa [Finding.addTo, hnone _ .replace] using rel_map .string f.replace
  matchIndex := by
    simpa [Finding.addTo, hnone _ .matchIndex] using rel_map isInteger_ofInt64 f.matchIndex
  min := by simpa [Finding.addTo, hnone _ .min] using rel_map isInteger_ofInt64 f.min
  max := by simpa [Finding.addTo, hnone _ .max] using rel_map isInteger_ofInt64 f.max
  exclusive := exclusive

/-- What an action adds to the fields of a step has a field of loading exactly if it is loading
that is not blank. -/
theorem exists_loadField_iff {l : Loading}
    (hcommon : ∀ name ∈ fields.keys.names, CommonField name) :
    (∃ name ∈ (l.addTo fields).keys.names, LoadField name) ↔ l ≠ .blank := by
  constructor
  · rintro ⟨name, hname, hload⟩ rfl
    exact (hcommon name hname).not_load hload
  · rw [Loading.ne_blank_iff]
    simp only [← isSome_get?_iff]
    rintro (h | h | h | h | h)
    · exact ⟨"load", by simp [Loading.addTo, h], .target⟩
    · exact ⟨"method", by simp [Loading.addTo, h], .method⟩
    · exact ⟨"posts", by simp [Loading.addTo, h], .posts⟩
    · exact ⟨"headers", by simp [Loading.addTo, h], .headers⟩
    · exact ⟨"cookies", by simp [Loading.addTo, h], .cookies⟩

/-- A name that is none of an action's own is added by it nowhere. -/
theorem mem_names_addTo (h : name ∉ a.names) :
    name ∈ (a.addTo fields).keys.names ↔ name ∈ fields.keys.names := by
  rw [← isSome_get?_iff, Action.get?_addTo h, isSome_get?_iff]

theorem findField_notMem_names {l : Loading} (h : FindField name) :
    name ∉ (Action.load l).names :=
  fun hload => (mem_loadFields_iff.1 hload).not_find h

theorem loadField_notMem_names {f : Finding} (h : LoadField name) :
    name ∉ (Action.find f).names :=
  fun hfind => h.not_find (mem_findFields_iff.1 hfind)

theorem commonField_notMem_names (h : CommonField name) : name ∉ a.names := by
  cases a with
  | load l => exact fun hload => h.not_load (mem_loadFields_iff.1 hload)
  | find f => exact fun hfind => h.not_find (mem_findFields_iff.1 hfind)

/-- Where there are only fields that every step may have, there is none of loading. -/
theorem get?_eq_none_of_loadField (hcommon : ∀ name ∈ fields.keys.names, CommonField name)
    (h : LoadField name) : fields.get? name = none :=
  get?_eq_none_iff.2 fun hname => (hcommon name hname).not_load h

/-- Where there are only fields that every step may have, there is none of finding. -/
theorem get?_eq_none_of_findField (hcommon : ∀ name ∈ fields.keys.names, CommonField name)
    (h : FindField name) : fields.get? name = none :=
  get?_eq_none_iff.2 fun hname => (hcommon name hname).not_find h

theorem load_mem_names_addTo_iff {l : Loading}
    (hcommon : ∀ name ∈ fields.keys.names, CommonField name) :
    "load" ∈ (l.addTo fields).keys.names ↔ l.target.isSome := by
  rw [← isSome_get?_iff]
  simp [Loading.addTo, get?_eq_none_of_loadField hcommon .target]

theorem find_mem_names_addTo_iff {f : Finding}
    (hcommon : ∀ name ∈ fields.keys.names, CommonField name) :
    "find" ∈ (f.addTo fields).keys.names ↔ f.pattern.isSome := by
  rw [← isSome_get?_iff]
  simp [Finding.addTo, get?_eq_none_of_findField hcommon .pattern]

/-- **A step that tells what it does is read to do it.** -/
theorem isAction_addTo (hcommon : ∀ name ∈ fields.keys.names, CommonField name)
    (hbase : "extends" ∈ fields.keys.names ↔ inherits) (h : a.IsTold inherits) :
    IsAction (a.addTo fields) a := by
  have hinherits : "extends" ∈ (a.addTo fields).keys.names ↔ inherits :=
    (mem_names_addTo (commonField_notMem_names .base)).trans hbase
  cases a with
  | load l =>
    obtain ⟨hblank, hcomplete⟩ := Action.isTold_load_iff.1 h
    refine .load ((exists_loadField_iff hcommon).2 hblank) (fun name hname hfind => ?_)
      (hcomplete.imp (load_mem_names_addTo_iff hcommon).2 hinherits.2)
      (isLoading_addTo fun _ => get?_eq_none_of_loadField hcommon)
    rw [mem_names_addTo (findField_notMem_names hfind)] at hname
    exact (hcommon name hname).not_find hfind
  | find f =>
    obtain ⟨hexclusive, hcomplete⟩ := Action.isTold_find_iff.1 h
    refine .find (fun name hname hload => ?_)
      (hcomplete.imp (find_mem_names_addTo_iff hcommon).2 hinherits.2)
      (isFinding_addTo (fun _ => get?_eq_none_of_findField hcommon) hexclusive)
    rw [mem_names_addTo (loadField_notMem_names hload)] at hname
    exact (hcommon name hname).not_load hload

/-- **A step that is read to do something is readable**, whatever it is read to do. -/
theorem isReadable_of_isAction (hcommon : ∀ name ∈ fields.keys.names, CommonField name)
    (hbase : "extends" ∈ fields.keys.names ↔ inherits) (h : IsAction (a.addTo fields) a') :
    a.IsReadable inherits := by
  have hinherits : "extends" ∈ (a.addTo fields).keys.names ↔ inherits :=
    (mem_names_addTo (commonField_notMem_names .base)).trans hbase
  cases a with
  | load l =>
    cases h with
    | load loads _ complete _ =>
      refine .inl (Action.isTold_load_iff.2 ⟨(exists_loadField_iff hcommon).1 loads, ?_⟩)
      exact complete.imp (load_mem_names_addTo_iff hcommon).1 hinherits.1
    | find pure complete _ =>
      -- what is taken for finding has no field of loading, nor one of finding
      have hblank : l = .blank := by
        by_contra hblank
        obtain ⟨name, hname, hload⟩ := (exists_loadField_iff hcommon).2 hblank
        exact pure name hname hload
      subst hblank
      refine .inr ⟨rfl, ?_⟩
      rcases complete with hfind | hbase
      · exact absurd .pattern (hcommon _ hfind).not_find
      · exact hinherits.1 hbase
  | find f =>
    cases h with
    | load loads =>
      obtain ⟨name, hname, hload⟩ := loads
      rw [mem_names_addTo (loadField_notMem_names hload)] at hname
      exact absurd hload (hcommon name hname).not_load
    | @find f' _ complete written =>
      refine .inl ⟨complete.imp (find_mem_names_addTo_iff hcommon).1 hinherits.1, ?_⟩
      have hnone (name : String) (h : FindField name) : fields.get? name = none :=
        get?_eq_none_of_findField hcommon h
      have hmatch : f.matchIndex.isSome = f'.matchIndex.isSome := by
        simpa [Action.addTo, Finding.addTo, hnone _ .matchIndex] using
          (isSome_of_rel written.matchIndex).symm
      have hmin : f.min.isSome = f'.min.isSome := by
        simpa [Action.addTo, Finding.addTo, hnone _ .min] using
          (isSome_of_rel written.min).symm
      have hmax : f.max.isSome = f'.max.isSome := by
        simpa [Action.addTo, Finding.addTo, hnone _ .max] using
          (isSome_of_rel written.max).symm
      rw [hmatch, hmin, hmax]
      rcases written.exclusive with h | ⟨hmin, hmax⟩
      · simp [h]
      · simp [hmin, hmax]

end

/-! ## The fields every step may have -/

/-- The fields a step sets whatever it does: those of its notes, and those of what it leads to
and inherits from. -/
def sharedFields (notes : Notes) (next base : Option Json) : Json.Fields Json :=
  ((notes.addTo .empty).insert? "then" next).insert? "extends" base

section
variable {a : Action} {notes notes' : Notes} {next base : Option Json} {level : Nat}

theorem commonField_of_mem_sharedFields {name : String}
    (h : name ∈ (sharedFields notes next base).keys.names) : CommonField name := by
  rw [← isSome_get?_iff] at h
  by_contra hname
  rw [← mem_commonFields_iff] at hname
  simp only [commonFields, List.mem_cons, List.not_mem_nil, or_false, not_or] at hname
  simp [sharedFields, Notes.addTo, hname] at h

theorem known_addTo_sharedFields {name : String}
    (h : name ∈ (a.addTo (sharedFields notes next base)).keys.names) :
    CommonField name ∨ LoadField name ∨ FindField name := by
  by_cases hname : name ∈ a.names
  · cases a with
    | load l => exact .inr (.inl (mem_loadFields_iff.1 hname))
    | find f => exact .inr (.inr (mem_findFields_iff.1 hname))
  · exact .inl (commonField_of_mem_sharedFields ((mem_names_addTo hname).1 h))

theorem extends_mem_sharedFields_iff :
    "extends" ∈ (sharedFields notes next base).keys.names ↔ base.isSome := by
  rw [← isSome_get?_iff]
  simp [sharedFields, Notes.addTo]

theorem get?_addTo_sharedFields {name : String} (h : CommonField name) :
    (a.addTo (sharedFields notes next base)).get? name = (sharedFields notes next base).get? name :=
  Action.get?_addTo (commonField_notMem_names h)

@[simp] theorem next_addTo_sharedFields :
    (a.addTo (sharedFields notes next base)).get? "then" = next := by
  rw [get?_addTo_sharedFields .next]
  simp [sharedFields, Notes.addTo]

@[simp] theorem base_addTo_sharedFields :
    (a.addTo (sharedFields notes next base)).get? "extends" = base := by
  rw [get?_addTo_sharedFields .base]
  simp [sharedFields, Notes.addTo]

theorem metadata_addTo_sharedFields :
    (a.addTo (sharedFields notes next base)).get? "metadata" = notes.metadata.map .ofFields := by
  rw [get?_addTo_sharedFields .metadata]
  simp [sharedFields, Notes.addTo]

/-- **The fields of notes are written for them** if the free-form data is within the levels. -/
theorem isNotes_addTo (h : ∀ m ∈ notes.metadata, StandsWithin 64 level (.ofFields m)) :
    IsNotes level (a.addTo (sharedFields notes next base)) notes where
  name := by
    rw [get?_addTo_sharedFields .name]
    simpa [sharedFields, Notes.addTo] using rel_map .string notes.name
  description := by
    rw [get?_addTo_sharedFields .description]
    simpa [sharedFields, Notes.addTo] using rel_map .string notes.description
  metadata := by
    rw [metadata_addTo_sharedFields]
    cases hm : notes.metadata with
    | none => exact .none
    | some m => exact .some (.object (h m hm))

theorem within_of_isNotes
    (h : IsNotes level (a.addTo (sharedFields notes next base)) notes') :
    ∀ m ∈ notes.metadata, StandsWithin 64 level (.ofFields m) := by
  intro m hm
  have hmetadata := h.metadata
  rw [metadata_addTo_sharedFields, hm, Option.map_some] at hmetadata
  generalize notes'.metadata = read at hmetadata
  cases hmetadata with
  | some hwritten =>
    cases hwritten with
    | object within => exact within

end

end Grammar

/-! ## Instructions -/

namespace InstructionAt

open Grammar

variable {p : Place}

/-- **What is read from the value of an instruction**: the same, with each step doing what it is
read to do. -/
def settled : {p : Place} → InstructionAt p → InstructionAt p
  | _, .reference name => .reference name
  | _, .sequence size item => .sequence size fun i => (item i).settled
  | _, .step action notes next base =>
    let next : Option Instruction := match next with
      | none => none
      | some i => some i.settled
    let base : Option Instruction := match base with
      | none => none
      | some i => some i.settled
    .step action.settled notes next base

theorem settled_step (action : Action) (notes : Notes) (next base : Option Instruction) :
    (step (p := p) action notes next base).settled
      = .step action.settled notes (next.map settled) (base.map settled) := by
  cases next <;> cases base <;> rfl

/-- **An instruction fits** at a level if each of its steps has what is asked of it, given
whether it inherits, and everything it is made of lies within the levels. -/
inductive Fits (asked : Bool → Action → Prop) :
    {p : Place} → (level : Nat) → InstructionAt p → Prop where
  /-- A reference lies within the levels. -/
  | reference {p : Place} {level : Nat} {name : String} (here : level ≤ 64) :
    Fits asked level (.reference (p := p) name)
  /-- A sequence lies within the levels, and its items fit one level below. -/
  | sequence {level size : Nat} {item : Fin size → InstructionAt .inSequence} (here : level ≤ 64)
    (items : ∀ i, Fits asked (level + 1) (item i)) : Fits asked level (.sequence size item)
  /-- A step lies within the levels and has what is asked of it. What it leads to and inherits
  from fits one level below, and its free-form data is within the levels there. -/
  | step {p : Place} {level : Nat} {action : Action} {notes : Notes}
    {next base : Option Instruction} (here : level ≤ 64) (has : asked base.isSome action)
    (noted : ∀ m ∈ notes.metadata, StandsWithin 64 (level + 1) (.ofFields m))
    (leads : ∀ i ∈ next, Fits asked (level + 1) i)
    (inherits : ∀ i ∈ base, Fits asked (level + 1) i) :
    Fits asked level (.step (p := p) action notes next base)

/-- What fits as it is is what can be read and is settled. -/
theorem fits_isTold_iff (i : InstructionAt p) : ∀ {level : Nat},
    Fits Action.IsTold level i ↔ Fits Action.IsReadable level i ∧ i.settled = i := by
  induction i using InstructionAt.induct with
  | reference name => exact fun {_} => ⟨fun | .reference here => ⟨.reference here, rfl⟩,
      fun | ⟨.reference here, _⟩ => .reference here⟩
  | sequence size item ih =>
    intro level
    constructor
    · rintro (_ | ⟨here, items⟩)
      exact ⟨.sequence here fun i => ((ih i).1 (items i)).1,
        congrArg (InstructionAt.sequence size) (funext fun i => ((ih i).1 (items i)).2)⟩
    · rintro ⟨_ | ⟨here, items⟩, h⟩
      rw [settled, InstructionAt.sequence.injEq, heq_eq_eq] at h
      exact .sequence here fun i => (ih i).2 ⟨items i, congrFun h.2 i⟩
  | step action notes next base hnext hbase =>
    intro level
    have hlinked {o : Option Instruction}
        (ih : ∀ i ∈ o, ∀ {level : Nat}, Fits Action.IsTold level i ↔
          Fits Action.IsReadable level i ∧ i.settled = i) :
        (∀ i ∈ o, Fits Action.IsTold (level + 1) i) ↔
          (∀ i ∈ o, Fits Action.IsReadable (level + 1) i) ∧ o.map settled = o := by
      cases o with
      | none => simp
      | some i => simpa using ih i rfl
    rw [settled_step]
    constructor
    · rintro (_ | _ | ⟨here, has, noted, leads, inherits⟩)
      obtain ⟨hreadable, haction⟩ := Action.isTold_iff.1 has
      obtain ⟨leads, hnext⟩ := (hlinked hnext).1 leads
      obtain ⟨inherits, hbase⟩ := (hlinked hbase).1 inherits
      exact ⟨.step here hreadable noted leads inherits, by rw [haction, hnext, hbase]⟩
    · rintro ⟨_ | _ | ⟨here, has, noted, leads, inherits⟩, h⟩
      obtain ⟨haction, -, hnext', hbase'⟩ := InstructionAt.step.inj h
      exact .step here (Action.isTold_iff.2 ⟨has, haction⟩) noted
        ((hlinked hnext).2 ⟨leads, hnext'⟩) ((hlinked hbase).2 ⟨inherits, hbase'⟩)

theorem toJson_step_eq (action : Action) (notes : Notes) (next base : Option Instruction) :
    (step (p := p) action notes next base).toJson
      = .ofFields (action.addTo (sharedFields notes (next.map toJson) (base.map toJson))) :=
  toJson_step action notes next base

/-- **What fits is read as what it is settled to.** -/
theorem derives_settled (i : InstructionAt p) : ∀ {level : Nat},
    Fits Action.IsReadable level i → Derives level i.toJson i.settled := by
  induction i using InstructionAt.induct with
  | reference name =>
    rintro level (here | _)
    exact .reference here
  | sequence size item ih =>
    rintro level (_ | ⟨here, items⟩)
    rw [toJson, Json.arrayOf_eq]
    exact .sequence here fun i => ih i (items i)
  | step action notes next base hnext hbase =>
    rintro level (_ | _ | ⟨here, has, noted, leads, inherits⟩)
    have hlinks {o : Option Instruction} (hfits : ∀ i ∈ o, Fits Action.IsReadable (level + 1) i)
        (ih : ∀ i ∈ o, ∀ {level : Nat}, Fits Action.IsReadable level i →
          Derives level i.toJson i.settled) :
        Links (level + 1) (o.map toJson) (o.map settled) := by
      cases o with
      | none => exact .absent
      | some i => exact .present (ih i rfl (hfits i rfl))
    rw [toJson_step_eq, ← Action.addTo_settled, settled_step]
    refine .step here (fun _ => known_addTo_sharedFields) (isAction_addTo
      (fun _ => commonField_of_mem_sharedFields) ?_ (Action.isTold_settled has))
      (isNotes_addTo noted) ?_ ?_
    · rw [extends_mem_sharedFields_iff, Option.isSome_map]
    · exact next_addTo_sharedFields ▸ hlinks leads hnext
    · exact base_addTo_sharedFields ▸ hlinks inherits hbase

/-- **Only what fits is read** from the value of an instruction. -/
theorem fits_of_derives (i : InstructionAt p) : ∀ {level : Nat} {j : InstructionAt p},
    Derives level i.toJson j → Fits Action.IsReadable level i := by
  induction i using InstructionAt.induct with
  | reference name =>
    intro level j h
    exact .reference (level_le_of_derives h)
  | sequence size item ih =>
    intro level j h
    rw [toJson, Json.arrayOf_eq] at h
    cases h with
    | sequence here items => exact .sequence here fun i => ih i (items i)
  | step action notes next base hnext hbase =>
    intro level j h
    have hlinked {o o' : Option Instruction} (hlinks : Links (level + 1) (o.map toJson) o')
        (ih : ∀ i ∈ o, ∀ {level : Nat} {j : Instruction}, Derives level i.toJson j →
          Fits Action.IsReadable level i) :
        ∀ i ∈ o, Fits Action.IsReadable (level + 1) i := by
      rintro i rfl
      cases hlinks with
      | present hderives => exact ih i rfl hderives
    rw [toJson_step_eq] at h
    cases h with
    | step here known does noted leads inherits =>
      refine .step here (isReadable_of_isAction (fun _ => commonField_of_mem_sharedFields)
        ?_ does) (within_of_isNotes noted) ?_ ?_
      · rw [extends_mem_sharedFields_iff, Option.isSome_map]
      · exact hlinked (next_addTo_sharedFields ▸ leads) hnext
      · exact hlinked (base_addTo_sharedFields ▸ inherits) hbase

end InstructionAt

/-- **Which instructions are read as they are.** The value of an instruction is read as that
instruction exactly if each of its steps has what a step of its kind needs, and everything it is
made of lies within the levels. It is read at all exactly if, besides, some of its steps may load
and have nothing but what they inherit; then it is read as the same instruction with those steps,
and no other, finding instead. -/
theorem Instruction.ofJson_toJson_iff (i : Instruction) :
    (Instruction.ofJson i.toJson = .ok i ↔ i.Fits Action.IsTold 0) ∧
      ∀ j, Instruction.ofJson i.toJson = .ok j ↔ i.Fits Action.IsReadable 0 ∧ j = i.settled := by
  have hread (j : Instruction) :
      Instruction.ofJson i.toJson = .ok j ↔ i.Fits Action.IsReadable 0 ∧ j = i.settled := by
    constructor
    · intro h
      have hfits := i.fits_of_derives ((Grammar.ofJson_eq_ok_iff _ _).1 h)
      have hsettled := (Grammar.ofJson_eq_ok_iff _ _).2 (i.derives_settled hfits)
      exact ⟨hfits, Except.ok.inj (h.symm.trans hsettled)⟩
    · rintro ⟨hfits, rfl⟩
      exact (Grammar.ofJson_eq_ok_iff _ _).2 (i.derives_settled hfits)
  refine ⟨?_, hread⟩
  rw [hread, i.fits_isTold_iff, eq_comm]

end InstructionStore
