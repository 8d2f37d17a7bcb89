import InstructionStore.Proofs.Grammar.Rejections

/-!
# Reading is local

What an instruction leads to or inherits from is an instruction again, and it is read like one
that stands alone. Whether it is accepted, what it is read as, and what is wrong with it and
where, does not depend on what is around it.

`Json.Context` is a value with a hole in it, and `InstructionAt.Context` an instruction with
one. `Grammar.exists_ofJson_fill` puts a value into the hole of a context that is accepted with a
string there: the value is read as it would be alone, and what that comes to is passed on. An
instruction is put into the hole of an instruction; a rejection is reported under the path to the
hole (`Rejection.within`). The proof follows the context from the outside in, one step at a time
(`Grammar.exists_isPassedOn`), and needs of each step that what was read of the rest of it is not
read from the hole.

Further down there is less room. `Grammar.read_eq_of_height` says that levels matter to no value
that has room at both (`Json.height`).
-/

namespace InstructionStore

open Json (StandsWithin)

/-! ## How far a value reaches down -/

namespace Json

/-- **How far a value reaches down**: the length of the longest path into it. -/
def height : Json → Nat
  | .array _ item => greatest fun i => (item i).height + 1
  | .object _ value => greatest fun i => (value i).height + 1
  | _ => 0

theorem height_array_le_iff {size n : Nat} {item : Fin size → Json} :
    (array size item).height ≤ n ↔ ∀ i, (item i).height + 1 ≤ n := by
  rw [height, greatest_le_iff]

theorem height_object_le_iff {keys : Keys} {n : Nat} {value : Fin keys.size → Json} :
    (object keys value).height ≤ n ↔ ∀ i, (value i).height + 1 ≤ n := by
  rw [height, greatest_le_iff]

/-- A value with room at a level has items with room at the next. -/
theorem room_item {size level limit : Nat} {item : Fin size → Json}
    (h : level + (array size item).height ≤ limit) (i : Fin size) :
    level + 1 + (item i).height ≤ limit := by
  have := height_array_le_iff.1 (Nat.le_refl (array size item).height) i
  omega

/-- A value with room at a level has values in its fields with room at the next. -/
theorem room_value {keys : Keys} {level limit : Nat} {value : Fin keys.size → Json}
    (h : level + (object keys value).height ≤ limit) (i : Fin keys.size) :
    level + 1 + (value i).height ≤ limit := by
  have := height_object_le_iff.1 (Nat.le_refl (object keys value).height) i
  omega

/-- A value that does not reach below the last level stands within the levels. -/
theorem standsWithin_of_height {limit : Nat} (v : Json) :
    ∀ {level : Nat}, level + v.height ≤ limit → StandsWithin limit level v := by
  induction v with
  | null => exact fun _ => .null
  | bool b => exact fun _ => .bool
  | number n => exact fun _ => .number
  | string s => exact fun _ => .string
  | array size item ih =>
    intro level h
    exact .array (Nat.le_of_add_right_le h) fun i => ih i (room_item h i)
  | object keys value ih =>
    intro level h
    exact .object (Nat.le_of_add_right_le h) fun i => ih i (room_value h i)

end Json

namespace Grammar

open Outcome

/-! ## Levels do not matter where there is room -/

section
variable {p : Place} {level level' : Nat} {fields : Json.Fields Json} {branch : Branch}

/-- Free-form data is read alike at two levels if it has room at both. -/
theorem metadata_eq_of_room
    (h : ∀ v ∈ fields.get? "metadata", level + v.height ≤ 64 ∧ level' + v.height ≤ 64) :
    metadata fields branch level = metadata fields branch level' := by
  unfold metadata
  split
  case h_1 => rfl
  case h_2 keys value hobject =>
    have hcheck {l : Nat} (hroom : l + (Json.object keys value).height ≤ 64) :
        checkLevels [.field "metadata"] branch l ⟨keys, value⟩ = .ok () :=
      checkLevels_eq_ok_iff.2 (Json.standsWithin_of_height _ hroom)
    have hroom := h _ hobject
    rw [hcheck hroom.1, hcheck hroom.2]
  case h_3 => rfl

theorem step_eq_of_room {next base : Except Rejection (Option Instruction)}
    (h : ∀ v ∈ fields.get? "metadata", level + 1 + v.height ≤ 64 ∧ level' + 1 + v.height ≤ 64) :
    step (p := p) level fields next base = step level' fields next base := by
  have hnotes (branch : Branch) : notes fields branch level = notes fields branch level' := by
    unfold notes
    rw [metadata_eq_of_room h]
  unfold step
  simp only [hnotes]

end

/-- **Levels matter to no value that has room.** -/
theorem read_eq_of_height (v : Json) : ∀ {p : Place} {level level' : Nat},
    level + v.height ≤ 64 → level' + v.height ≤ 64 → read p level v = read p level' v := by
  induction v with
  | string s =>
    intro p level level' h h'
    rw [read_string (Nat.le_of_add_right_le h), read_string (Nat.le_of_add_right_le h')]
  | array size item ih =>
    intro p level level' h h'
    have hlevel := Nat.le_of_add_right_le h
    have hlevel' := Nat.le_of_add_right_le h'
    cases p with
    | inSequence => rw [read_array_inSequence hlevel, read_array_inSequence hlevel']
    | alone =>
      have hitem (i : Fin size) : read .inSequence (level + 1) (item i)
          = read .inSequence (level' + 1) (item i) :=
        ih i (Json.room_item h i) (Json.room_item h' i)
      rw [read_array_alone hlevel, read_array_alone hlevel']
      simp only [hitem]
  | object keys value ih =>
    intro p level level' h h'
    have hvalue (i : Fin keys.size) : read .alone (level + 1) (value i)
        = read .alone (level' + 1) (value i) :=
      ih i (Json.room_value h i) (Json.room_value h' i)
    rw [read_object (Nat.le_of_add_right_le h), read_object (Nat.le_of_add_right_le h')]
    simp only [hvalue]
    refine step_eq_of_room fun v hv => ?_
    obtain ⟨i, -, rfl⟩ := Json.Fields.get?_eq_some_iff.1 hv
    exact ⟨Json.room_value h i, Json.room_value h' i⟩
  | null => exact fun h h' => (read_otherAtom h .null).trans (read_otherAtom h' .null).symm
  | bool b =>
    exact fun h h' => (read_otherAtom h (.bool b)).trans (read_otherAtom h' (.bool b)).symm
  | number n =>
    exact fun h h' => (read_otherAtom h (.number n)).trans (read_otherAtom h' (.number n)).symm

end Grammar

/-! ## Values and instructions with a hole -/

/-- **A value with a hole in it.** What stands where the hole is does not count. -/
inductive Json.Context where
  /-- Nothing but the hole. -/
  | hole
  /-- An array with the hole in one of its items. -/
  | item (size : Nat) (i : Fin size) (others : Fin size → Json) (inner : Json.Context)
  /-- An object with the hole in one of its fields. -/
  | field (keys : Json.Keys) (i : Fin keys.size) (others : Fin keys.size → Json)
    (inner : Json.Context)

namespace Json.Context

/-- **The value with the hole filled.** -/
def fill : Json.Context → Json → Json
  | hole, w => w
  | item size i others inner, w => .array size (Function.update others i (inner.fill w))
  | field keys i others inner, w => .object keys (Function.update others i (inner.fill w))

/-- The path to the hole. -/
def path : Json.Context → Path
  | hole => []
  | item _ i _ inner => .index i :: inner.path
  | field keys i _ inner => .field (keys.name i) :: inner.path

/-- What fills the hole is the part at the path to it. -/
theorem at?_path (C : Json.Context) (w : Json) : (C.fill w).at? C.path = some w := by
  induction C with
  | hole => rfl
  | item size i others inner ih =>
    have hstep : Json.step? (.array size (Function.update others i (inner.fill w))) (.index i)
        = some (inner.fill w) := by
      simp [Json.step?, Json.item?]
    rw [fill, path, Json.at?_cons, hstep]
    exact ih
  | field keys i others inner ih =>
    have hstep : Json.step? (.object keys (Function.update others i (inner.fill w)))
        (.field (keys.name i)) = some (inner.fill w) := by
      simp [Json.step?, Json.field?]
    rw [fill, path, Json.at?_cons, hstep]
    exact ih

end Json.Context

/-- **An instruction with a hole in it**, for an instruction at a place. -/
inductive InstructionAt.Context (q : Place) : Place → Type where
  /-- Nothing but the hole. -/
  | hole : Context q q
  /-- A sequence with the hole in one of its items. -/
  | item (size : Nat) (i : Fin size) (others : Fin size → InstructionAt .inSequence)
    (inner : Context q .inSequence) : Context q .alone
  /-- A step with the hole in what follows it. -/
  | next {p : Place} (action : Action) (notes : Notes) (inner : Context q .alone)
    (base : Option Instruction) : Context q p
  /-- A step with the hole in what it inherits from. -/
  | base {p : Place} (action : Action) (notes : Notes) (next : Option Instruction)
    (inner : Context q .alone) : Context q p

namespace InstructionAt.Context

variable {q : Place}

/-- **The instruction with the hole filled.** -/
def fill : {p : Place} → Context q p → InstructionAt q → InstructionAt p
  | _, hole, j => j
  | _, item size i others inner, j => .sequence size (Function.update others i (inner.fill j))
  | _, next action notes inner b, j => .step action notes (some (inner.fill j)) b
  | _, base action notes n inner, j => .step action notes n (some (inner.fill j))

/-- The path to the hole. -/
def path : {p : Place} → Context q p → Path
  | _, hole => []
  | _, item _ i _ inner => .index i :: inner.path
  | _, next _ _ inner _ => .field "then" :: inner.path
  | _, base _ _ _ inner => .field "extends" :: inner.path

end InstructionAt.Context

/-- A rejection seen from further out. -/
def Rejection.within (path : Path) (r : Rejection) : Rejection := { r with path := path ++ r.path }

/-- **The place a path leads to**, from an instruction at a place to one inside it. -/
def Path.placeFrom : Place → Path → Place
  | p, [] => p
  | _, .field _ :: path => placeFrom .alone path
  | _, .index _ :: path => placeFrom .inSequence path

namespace Grammar

open Outcome

/-! ## Steps but for what they lead to -/

/-- **Fields that differ at most in what a step leads to and inherits from.** -/
structure AreAlike (fields fields' : Json.Fields Json) : Prop where
  /-- There are fields of the same names. -/
  names : fields.keys.names = fields'.keys.names
  /-- They hold the same, unless they lead to an instruction. -/
  values : ∀ name, name ≠ "then" → name ≠ "extends" → fields.get? name = fields'.get? name

section
variable {p : Place} {level : Nat} {fields fields' : Json.Fields Json} {branch : Branch}

theorem AreAlike.notes_eq (h : AreAlike fields fields') :
    notes fields branch level = notes fields' branch level := by
  unfold notes metadata optionalString optional
  simp (disch := decide) only [h.values]

theorem AreAlike.action_eq (h : AreAlike fields fields') (inherits : Bool) :
    action fields inherits = action fields' inherits := by
  have hloading : loading fields inherits = loading fields' inherits := by
    unfold loading optionalMethod optionalPosts optionalStrings optionalString optional
    simp (disch := decide) only [h.values]
  have hfinding : finding fields inherits = finding fields' inherits := by
    unfold finding optionalInteger optionalBoolean optionalString optional
    simp (disch := decide) only [h.values]
  unfold action hasAny
  rw [h.names, hloading, hfinding]

/-- **A step that is accepted is read alike whatever it leads to.** What is read of the step
itself is not read from there, and a rejection from there is passed on: from what follows the
step, and then from what it inherits from. -/
theorem exists_step_eq {next base : Except Rejection (Option Instruction)} {i : InstructionAt p}
    (h : step level fields next base = .ok i) :
    ∃ action notes n b, next = .ok n ∧ base = .ok b ∧ i = .step action notes n b ∧
      ∀ fields', AreAlike fields fields' → ∀ next base : Except Rejection (Option Instruction),
        (∀ b', base = .ok b' → b'.isSome = b.isSome) →
        step (p := p) level fields' next base = do
          return .step action notes (← next) (← base) := by
  unfold step at h
  cases hunknown : unknown? fields with
  | some name =>
    simp only [hunknown, throw_eq, error_bind, demand_eq_ok_iff, reduceCtorEq, and_false] at h
  | none =>
    simp only [hunknown, throw_eq, pure_eq, error_bind, bind_eq_ok_iff, demand_eq_ok_iff] at h
    obtain ⟨hpure, n, hn, b, hb, notes, hnotes, action, haction, h⟩ := h
    refine ⟨action, notes, n, b, hn, hb, (Except.ok.inj h).symm,
      fun fields' halike next base hbase => ?_⟩
    have hbranch : hasAny fields' = hasAny fields := by
      unfold hasAny
      rw [halike.names]
    have hknown : unknown? fields' = none := by
      rw [← hunknown]
      unfold unknown?
      rw [halike.names]
    unfold step
    rw [hbranch, hknown, if_neg hpure]
    cases next with
    | error e => rfl
    | ok n =>
      cases hb' : base with
      | error e => rfl
      | ok b' =>
        simp only [ok_bind, ← halike.notes_eq, hnotes, hbase b' hb', ← halike.action_eq, haction]

end

/-! ## Filling the hole, one step at a time -/

/-- **One of several computations decides** when the others succeed. -/
theorem collect_eq_of_ne {ε α : Type} {n : Nat} {f : Fin n → Except ε α} {g : Fin n → α}
    (i : Fin n) (h : ∀ j, j ≠ i → f j = .ok (g j)) :
    collect f = (f i).map (Function.update g i) := by
  cases hi : f i with
  | ok a =>
    refine collect_eq_ok_iff.2 fun j => ?_
    by_cases hj : j = i
    · rw [hj, hi, Function.update_self]
    · rw [h j hj, Function.update_of_ne hj]
  | error e =>
    cases hf : collect f with
    | ok g' => exact nomatch hi.symm.trans (collect_eq_ok_iff.1 hf i)
    | error e' =>
      obtain ⟨j, hj⟩ := exists_of_collect_eq_error hf
      by_cases hji : j = i
      · subst hji
        exact congrArg Except.error (Except.error.inj (hj.symm.trans hi))
      · exact nomatch (h j hji).symm.trans hj

section
variable {keys : Json.Keys} {i : Fin keys.size} {value : Fin keys.size → Json} {name : String}

/-- What the changed field leads to is read from the change. -/
theorem linked_update_self (readPart : Json → Except Rejection Instruction) (w : Json)
    (h : keys.name i = name) :
    linked keys (fun j => readPart (Function.update value i w j)) name
      = ((readPart w).mapError (·.under (.field name))).map some := by
  unfold linked
  rw [Json.Keys.find?_eq_some_iff.2 h]
  simp only [Function.update_self]

/-- What another field leads to is read as before. -/
theorem linked_update_of_ne (readPart : Json → Except Rejection Instruction) (w : Json)
    (h : keys.name i ≠ name) :
    linked keys (fun j => readPart (Function.update value i w j)) name
      = linked keys (fun j => readPart (value j)) name := by
  unfold linked
  cases hj : keys.find? name with
  | none => rfl
  | some j =>
    have hne : j ≠ i := fun heq => h (by rw [← heq, Json.Keys.find?_eq_some_iff.1 hj])
    simp only [Function.update_of_ne hne]

/-- Objects that differ in a field that leads to an instruction are alike. -/
theorem areAlike_update (h : LeadsOn (.field (keys.name i))) (w w' : Json) :
    AreAlike ⟨keys, Function.update value i w⟩ ⟨keys, Function.update value i w'⟩ where
  names := rfl
  values name hnext hbase := by
    refine Option.map_congr fun j hj => ?_
    have hne : j ≠ i := fun heq => by
      rw [← heq, Json.Keys.find?_eq_some_iff.1 hj, leadsOn_field_iff] at h
      exact h.elim hnext hbase
    simp only [Function.update_of_ne hne]

end

/-- **What is read of the hole is passed on**: an instruction is put into the hole of an
instruction, which is in the same place, and a rejection is seen from further out. -/
structure IsPassedOn {p q : Place} (level : Nat) (C : Json.Context)
    (H : InstructionAt.Context q p) : Prop where
  /-- The holes are in the same place. -/
  path : H.path = C.path
  /-- Whatever is put in is read as it would be alone, as far down as the hole is. -/
  read : ∀ w, read p level (C.fill w)
    = ((read q (level + C.path.length) w).mapError (·.within C.path)).map H.fill

section
variable {p q : Place} {level : Nat} {s : String} {inner : Json.Context}

/-- From an item it is passed on to the sequence. -/
theorem exists_isPassedOn_item {i : InstructionAt p} {size : Nat} {j : Fin size}
    {others : Fin size → Json}
    (h : read p level (Json.Context.fill (.item size j others inner) (.string s)) = .ok i)
    (ih : ∀ i, read .inSequence (level + 1) (inner.fill (.string s)) = .ok i →
      ∃ H : InstructionAt.Context q .inSequence, IsPassedOn (level + 1) inner H) :
    ∃ H : InstructionAt.Context q p, IsPassedOn level (.item size j others inner) H := by
  have hlevel := level_le_of_derives ((read_eq_ok_iff _).1 h)
  cases p with
  | inSequence => exact nomatch (read_array_inSequence hlevel _).symm.trans h
  | alone =>
    have hread (w : Json) :
        read .alone level (Json.Context.fill (.item size j others inner) w) = _ :=
      read_array_alone hlevel _
    rw [hread, map_eq_ok_iff] at h
    obtain ⟨part, hpart, -⟩ := h
    simp only [collect_eq_ok_iff, mapError_eq_ok_iff] at hpart
    obtain ⟨H, hH⟩ := ih (part j) (by simpa using hpart j)
    refine ⟨.item size j part H, congrArg (Segment.index j :: ·) hH.path, fun w => ?_⟩
    -- the other items are read as they were
    have hothers (k : Fin size) (hk : k ≠ j) :
        (read .inSequence (level + 1) (Function.update others j (inner.fill w) k)).mapError
          (·.under (.index k)) = .ok (part k) := by
      have hsame := hpart k
      rw [Function.update_of_ne hk] at hsame ⊢
      exact mapError_eq_ok_iff.2 hsame
    rw [hread, collect_eq_of_ne j hothers, Function.update_self, hH.read w,
      show level + 1 + inner.path.length = level + (inner.path.length + 1) by omega]
    show _ = ((read q (level + (inner.path.length + 1)) w).mapError _).map _
    cases read q (level + (inner.path.length + 1)) w with
    | error e => rfl
    | ok i => exact congrArg Except.ok (InstructionAt.sequenceOf_eq _ _)

/-- From what a step leads to or inherits from it is passed on to the step. -/
theorem exists_isPassedOn_field {i : InstructionAt p} {keys : Json.Keys} {j : Fin keys.size}
    {others : Fin keys.size → Json} (leads : LeadsOn (.field (keys.name j)))
    (h : read p level (Json.Context.fill (.field keys j others inner) (.string s)) = .ok i)
    (ih : ∀ i, read .alone (level + 1) (inner.fill (.string s)) = .ok i →
      ∃ H : InstructionAt.Context q .alone, IsPassedOn (level + 1) inner H) :
    ∃ H : InstructionAt.Context q p, IsPassedOn level (.field keys j others inner) H := by
  have hlevel := level_le_of_derives ((read_eq_ok_iff _).1 h)
  have hread (w : Json) : read p level (Json.Context.fill (.field keys j others inner) w) = _ :=
    read_object hlevel _
  rw [hread] at h
  obtain ⟨action, notes, n, b, hn, hb, -, hstep⟩ := exists_step_eq h
  -- what the other of the two fields leads to is read as it was
  have hother {name : String} {o : Option Instruction} (hne : keys.name j ≠ name)
      (ho : linked keys (fun k => read .alone (level + 1)
        (Function.update others j (inner.fill (.string s)) k)) name = .ok o) (w : Json) :
      linked keys (fun k => read .alone (level + 1)
        (Function.update others j (inner.fill w) k)) name = .ok o := by
    rw [linked_update_of_ne _ _ hne] at ho ⊢
    exact ho
  have hlength : level + (inner.path.length + 1) = level + 1 + inner.path.length := by omega
  rcases leadsOn_field_iff.1 leads with hname | hname
  · have hbase := hother (by rw [hname]; decide) hb
    rw [linked_update_self _ _ hname, map_eq_ok_iff] at hn
    obtain ⟨i, hi, -⟩ := hn
    obtain ⟨H, hH⟩ := ih i (mapError_eq_ok_iff.1 hi)
    refine ⟨.next action notes H b, ?_, fun w => ?_⟩
    · rw [Json.Context.path, hname, ← hH.path]
      rfl
    · rw [hread, hstep _ (areAlike_update leads _ _) _ _ fun b' hb' =>
          congrArg Option.isSome (Except.ok.inj (hb'.symm.trans (hbase w))),
        linked_update_self _ _ hname, hbase w, hH.read w, Json.Context.path, List.length_cons,
        hlength, hname]
      cases read q (level + 1 + inner.path.length) w <;> rfl
  · have hnext := hother (by rw [hname]; decide) hn
    rw [linked_update_self _ _ hname, map_eq_ok_iff] at hb
    obtain ⟨i, hi, rfl⟩ := hb
    obtain ⟨H, hH⟩ := ih i (mapError_eq_ok_iff.1 hi)
    refine ⟨.base action notes n H, ?_, fun w => ?_⟩
    · rw [Json.Context.path, hname, ← hH.path]
      rfl
    · rw [hread, hstep _ (areAlike_update leads _ _) _ _ fun b' hb' => ?_, hnext w,
        linked_update_self _ _ hname, hH.read w, Json.Context.path, List.length_cons, hlength,
        hname]
      · cases read q (level + 1 + inner.path.length) w <;> rfl
      · rw [linked_update_self _ _ hname] at hb'
        obtain ⟨_, -, rfl⟩ := map_eq_ok_iff.1 hb'
        rfl

end

/-- **What fills the hole of an accepted value is read as it would be alone**, only further down,
and what that comes to is passed on. -/
theorem exists_isPassedOn {q : Place} {s : String} (C : Json.Context) :
    ∀ {p : Place} {level : Nat} {i : InstructionAt p}, LeadsInside C.path →
      Path.placeFrom p C.path = q → read p level (C.fill (.string s)) = .ok i →
      ∃ H : InstructionAt.Context q p, IsPassedOn level C H := by
  induction C with
  | hole =>
    rintro p level i - rfl h
    refine ⟨.hole, rfl, fun w => ?_⟩
    show read p level w = ((read p level w).mapError _).map _
    cases read p level w <;> rfl
  | item size j others inner ih =>
    intro p level i inside hplace h
    exact exists_isPassedOn_item h fun i => ih (List.forall_mem_cons.1 inside).2 hplace
  | field keys j others inner ih =>
    intro p level i inside hplace h
    obtain ⟨leads, inside⟩ := List.forall_mem_cons.1 inside
    exact exists_isPassedOn_field leads h fun i => ih inside hplace

theorem placeFrom_append_field (p : Place) (path : Path) (name : String) :
    Path.placeFrom p (path ++ [.field name]) = .alone := by
  induction path generalizing p with
  | nil => rfl
  | cons segment path ih =>
    cases segment with
    | field name => exact ih .alone
    | index i => exact ih .inSequence

/-- The hole of a value that is accepted with a string in it is within the levels. -/
theorem IsPassedOn.read_string {q : Place} {C : Json.Context} {H : InstructionAt.Context q .alone}
    (h : IsPassedOn 0 C H) {s : String}
    (accepted : (Instruction.ofJson (C.fill (.string s))).isOk) :
    Instruction.ofJson (C.fill (.string s)) = .ok (H.fill (.reference s)) := by
  have hread : Instruction.ofJson (C.fill (.string s)) = _ := h.read (.string s)
  rw [hread] at accepted ⊢
  by_cases hlevel : 0 + C.path.length ≤ maxLevel
  · rw [Grammar.read_string hlevel]
    rfl
  · rw [read_of_tooDeep (Nat.lt_of_not_le hlevel)] at accepted
    exact nomatch accepted

/-- **Reading is local.** Let a value have a hole as what a step leads to or inherits from, at the
end of a path from instruction to instruction, and let it be accepted with a string there. What it
is read as has a hole in the same place, and any value that has room there is read in the hole as
it is read alone. If it is accepted, so is the whole, and what it is read as stands in the hole. If
it is rejected, so is the whole, for the same defect in the same branch, at the path to the hole
followed by the path of the rejection. -/
theorem exists_ofJson_fill {C : Json.Context} {outer : Path} {name s : String}
    (hole : C.path = outer ++ [.field name]) (inside : LeadsInside C.path)
    (accepted : (Instruction.ofJson (C.fill (.string s))).isOk) :
    ∃ H : InstructionAt.Context .alone .alone, H.path = C.path ∧
      Instruction.ofJson (C.fill (.string s)) = .ok (H.fill (.reference s)) ∧
      ∀ w : Json, w.height + C.path.length ≤ 64 →
        Instruction.ofJson (C.fill w) = match Instruction.ofJson w with
          | .ok i => .ok (H.fill i)
          | .error e => .error ⟨e.defect, C.path ++ e.path, e.branch⟩ := by
  obtain ⟨i, hi⟩ := exists_eq_ok_of_isOk accepted
  obtain ⟨H, hH⟩ := exists_isPassedOn C inside
    (hole ▸ placeFrom_append_field .alone outer name) hi
  refine ⟨H, hH.path, hH.read_string accepted, fun w hroom => ?_⟩
  have hsame : read .alone (0 + C.path.length) w = Instruction.ofJson w :=
    read_eq_of_height w (by omega) (by omega)
  rw [show Instruction.ofJson (C.fill w) = _ from hH.read w, hsame]
  cases Instruction.ofJson w <;> rfl

/-- A step that finds and leads to a sequence, whose second item loads and inherits from the
hole. -/
def inheritingItem : Json.Context :=
  .field ⟨["find", "then"], by decide +kernel⟩ (1 : Fin 2) (fun _ => .string "a")
    (.item 2 1 (fun _ => .string "b")
      (.field ⟨["extends", "method"], by decide +kernel⟩ (0 : Fin 2) (fun _ => .string "get")
        .hole))

theorem exists_ofJson_fill_inheritingItem :
    ∃ H : InstructionAt.Context .alone .alone,
      H.path = [.field "then", .index 1, .field "extends"] ∧
      Instruction.ofJson (inheritingItem.fill (.string "c")) = .ok (H.fill (.reference "c")) ∧
      Instruction.ofJson (inheritingItem.fill (.ofList [.null])) = .error
        ⟨.notAnInstruction "null", [.field "then", .index 1, .field "extends", .index 0],
          .item⟩ := by
  have hpath : inheritingItem.path = [.field "then", .index 1] ++ [.field "extends"] := by
    decide +kernel
  have accepted : (Instruction.ofJson (inheritingItem.fill (.string "a"))).isOk := by
    decide +kernel
  have inside : LeadsInside inheritingItem.path := by
    rw [hpath]
    exact .cons .next (.cons (.item 1) (.cons .base .nil))
  obtain ⟨H, hH, -, hread⟩ := exists_ofJson_fill hpath inside accepted
  have hnull : Instruction.ofJson (.ofList [.null])
      = .error ⟨.notAnInstruction "null", [.index 0], .item⟩ := by decide +kernel
  refine ⟨H, hH.trans hpath, ?_, ?_⟩
  · exact hread (.string "c") (by decide +kernel)
  · rw [hread _ (by decide +kernel), hnull, hpath]
    rfl

end Grammar

end InstructionStore
