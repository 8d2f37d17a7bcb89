import InstructionStore.Proofs.Grammar.Derivation
import InstructionStore.Proofs.Json.Fields
import InstructionStore.Proofs.Outcome

/-!
# Reading is derivation

Each reader of the grammar succeeds exactly on what the rules of
`InstructionStore.Proofs.Grammar.Derivation` describe. There is one lemma for
each reader, and a reader that is made of others is described by their lemmas
without opening them again.

The readers of the parts a step leads to are arguments of `Grammar.step`, so a
step is described before anything is known of what it leads to (`step_eq_ok_iff`).
The induction on the value is left to `read_eq_ok_iff` alone.
-/

namespace InstructionStore.Grammar

open Json (StandsWithin)
open Outcome

/-! ## Fields -/

variable {fields : Json.Fields Json} {branch : Branch} {name : String} {v : Json}

theorem string?_eq_some_iff {s : String} : v.string? = some s ↔ IsString v s := by
  refine ⟨fun h => ?_, fun | .string _ => rfl⟩
  cases v <;> cases h
  constructor

theorem boolean?_eq_some_iff {b : Bool} : boolean? v = some b ↔ IsBoolean v b := by
  refine ⟨fun h => ?_, fun | .bool _ => rfl⟩
  cases v <;> cases h
  constructor

/-- An integer that is not too large is the signed word of that value. -/
theorem toInt64?_eq_some_iff {m : Json.Number} {n : Int64} :
    m.toInt64? = some n ↔ m = .ofInt64 n := by
  refine ⟨fun h => ?_, fun h => h ▸ Json.toInt64?_ofInt64 n⟩
  cases m with
  | float x => exact absurd h nofun
  | integer k inRange =>
    simp only [Json.Number.toInt64?, Option.ite_none_right_eq_some, Option.some.injEq] at h
    obtain ⟨hk, rfl⟩ := h
    simp only [Json.minInteger, Json.maxInteger] at inRange
    have hv : (Int64.ofInt k).toInt = k :=
      Int64.toInt_ofInt_of_le (by omega) (by omega)
    simp only [Json.Number.ofInt64, hv]

theorem integer?_eq_some_iff {n : Int64} : integer? v = some n ↔ IsInteger v n := by
  constructor
  · intro h
    cases v with
    | number m =>
      rw [toInt64?_eq_some_iff.1 h]
      constructor
    | _ => exact nomatch h
  · rintro ⟨_, _⟩
    exact Json.toInt64?_ofInt64 n

theorem ofWord?_eq_some_iff_isMethod {word : String} {m : Method} :
    Method.ofWord? word = some m ↔ IsMethod (.string word) m := by
  rw [Method.ofWord?_eq_some_iff]
  refine ⟨fun h => ?_, fun h => by cases h <;> rfl⟩
  subst h
  cases m <;> constructor

/-- **A field that may be absent** is read when it is written as it should be. -/
theorem optional_eq_ok_iff {α : Type} {expected : Expectation} {read : Json → Option α}
    {written : Json → α → Prop} (hread : ∀ {v a}, read v = some a ↔ written v a)
    {o : Option α} :
    optional fields branch name expected read = .ok o
      ↔ Option.Rel written (fields.get? name) o := by
  unfold optional
  cases fields.get? name with
  | none => exact ⟨fun h => Except.ok.inj h ▸ .none, fun | .none => rfl⟩
  | some v =>
    dsimp only
    constructor
    · intro h
      split at h
      case h_1 a ha => exact Except.ok.inj h ▸ .some (hread.1 ha)
      case h_2 => exact nomatch h
    · rintro (h | _)
      rw [hread.2 h]

theorem optionalString_eq_ok_iff {o : Option String} :
    optionalString fields branch name = .ok o
      ↔ Option.Rel IsString (fields.get? name) o :=
  optional_eq_ok_iff string?_eq_some_iff

theorem optionalBoolean_eq_ok_iff {o : Option Bool} :
    optionalBoolean fields branch name = .ok o
      ↔ Option.Rel IsBoolean (fields.get? name) o :=
  optional_eq_ok_iff boolean?_eq_some_iff

theorem optionalInteger_eq_ok_iff {o : Option Int64} :
    optionalInteger fields branch name = .ok o
      ↔ Option.Rel IsInteger (fields.get? name) o :=
  optional_eq_ok_iff integer?_eq_some_iff

/-! ## Objects of strings, data sent along, free-form data -/

/-- The first value of an object that is no string, as the reader looks for
it. -/
theorem find_nonString_eq_none_iff {object : Json.Fields Json} :
    (List.finRange object.keys.size).find? (fun i => (object.value i).string?.isNone) = none
      ↔ ∀ i, ∃ s, object.value i = .string s := by
  rw [List.find?_eq_none]
  refine ⟨fun h i => ?_, fun h i _ => ?_⟩
  · have hi := h i (List.mem_finRange i)
    rw [Bool.not_eq_true, Option.isNone_eq_false_iff, Option.isSome_iff_exists] at hi
    obtain ⟨s, hs⟩ := hi
    exact ⟨s, isString_iff.1 (string?_eq_some_iff.1 hs)⟩
  · obtain ⟨s, hs⟩ := h i
    rw [hs]
    exact Bool.false_ne_true

theorem strings_eq_ok_iff {object : Json.Fields Json} {texts : Json.Fields String} :
    strings branch name object = .ok texts
      ↔ IsStrings (.object object.keys object.value) texts := by
  obtain ⟨keys, value⟩ := object
  unfold strings
  constructor
  · intro h
    split at h
    case h_1 => exact nomatch h
    case h_2 hnone =>
      have hvalue : value = fun i => .string ((value i).string?.getD "") := by
        funext i
        obtain ⟨s, hs⟩ := find_nonString_eq_none_iff.1 hnone i
        rw [show value i = .string s from hs]
        rfl
      have htexts := Except.ok.inj h
      rw [Json.Fields.map_value] at htexts
      rw [← htexts]
      dsimp only
      rw [hvalue]
      exact .object keys _
  · intro h
    generalize hv : Json.object keys value = v at h
    obtain ⟨keys', text⟩ := h
    cases hv
    rw [find_nonString_eq_none_iff.2 (fun i => ⟨text i, rfl⟩)]
    rw [Json.Fields.map_value]
    rfl

theorem optionalStrings_eq_ok_iff {o : Option (Json.Fields String)} :
    optionalStrings fields branch name = .ok o
      ↔ Option.Rel IsStrings (fields.get? name) o := by
  unfold optionalStrings
  generalize fields.get? name = field
  split
  case h_1 => exact ⟨fun h => Except.ok.inj h ▸ .none, fun | .none => rfl⟩
  case h_2 keys value =>
    rw [map_eq_ok_iff]
    constructor
    · rintro ⟨texts, h, rfl⟩
      exact .some (strings_eq_ok_iff.1 h)
    · rintro (h | _)
      exact ⟨_, strings_eq_ok_iff.2 h, rfl⟩
  case h_3 v hother =>
    refine ⟨nofun, ?_⟩
    rintro (h | _)
    obtain ⟨keys, text⟩ := h
    exact absurd rfl (hother keys _)

theorem optionalMethod_eq_ok_iff {o : Option Method} :
    optionalMethod fields = .ok o ↔ Option.Rel IsMethod (fields.get? "method") o := by
  unfold optionalMethod
  simp only [bind_eq_ok_iff, optionalString_eq_ok_iff]
  generalize fields.get? "method" = field
  constructor
  · rintro ⟨_, ⟨⟨word⟩⟩ | _, h⟩
    · dsimp only at h
      split at h
      case h_1 m hm => exact Except.ok.inj h ▸ .some (ofWord?_eq_some_iff_isMethod.1 hm)
      case h_2 => exact nomatch h
    · exact Except.ok.inj h ▸ .none
  · rintro (h | _)
    · obtain ⟨word, rfl⟩ := h.exists_string
      refine ⟨some word, .some (.string word), ?_⟩
      dsimp only
      rw [ofWord?_eq_some_iff_isMethod.2 h]
      rfl
    · exact ⟨none, .none, rfl⟩

theorem optionalPosts_eq_ok_iff {o : Option PostData} :
    optionalPosts fields = .ok o ↔ Option.Rel IsPostData (fields.get? "posts") o := by
  unfold optionalPosts
  generalize fields.get? "posts" = field
  split
  case h_1 => exact ⟨fun h => Except.ok.inj h ▸ .none, fun | .none => rfl⟩
  case h_2 body =>
    refine ⟨fun h => Except.ok.inj h ▸ .some (.raw body), fun h => ?_⟩
    obtain h | _ := h
    cases h with
    | raw => rfl
    | form h => exact nomatch h
  case h_3 keys value =>
    rw [map_eq_ok_iff]
    constructor
    · rintro ⟨form, h, rfl⟩
      exact .some (.form (strings_eq_ok_iff.1 h))
    · intro h
      obtain h | _ := h
      cases h with
      | form h => exact ⟨_, strings_eq_ok_iff.2 h, rfl⟩
  case h_4 v hstring hobject =>
    refine ⟨nofun, fun h => ?_⟩
    obtain h | _ := h
    cases h with
    | raw body => exact absurd rfl (hstring body)
    | form h => cases h with | object keys text => exact absurd rfl (hobject keys _)

theorem metadata_eq_ok_iff {level : Nat} {o : Option (Json.Fields Json)} :
    metadata fields branch level = .ok o
      ↔ Option.Rel (IsMetadata level) (fields.get? "metadata") o := by
  unfold metadata
  generalize fields.get? "metadata" = field
  split
  case h_1 => exact ⟨fun h => Except.ok.inj h ▸ .none, fun | .none => rfl⟩
  case h_2 keys value =>
    constructor
    · intro h
      obtain ⟨_, hwithin, rfl⟩ := map_eq_ok_iff.1 h
      exact .some (.object (checkLevels_eq_ok_iff.1 hwithin))
    · intro h
      obtain h | _ := h
      cases h with
      | object hwithin => exact map_eq_ok_iff.2 ⟨(), checkLevels_eq_ok_iff.2 hwithin, rfl⟩
  case h_3 v hother =>
    refine ⟨nofun, fun h => ?_⟩
    obtain h | _ := h
    cases h with
    | object => exact absurd rfl (hother _ _)

/-! ## Steps -/

/-- A field that may be absent is there when there is something it is written
for. -/
theorem isSome_of_rel {α β : Type} {written : α → β → Prop} {x : Option α} {o : Option β}
    (h : Option.Rel written x o) : o.isSome = x.isSome := by
  cases h <;> rfl

/-- What a step must have of its own is there, or it inherits. -/
theorem complete_iff {α : Type} {o : Option α} {inherits : Bool} :
    ¬(o.isNone && !inherits) = true ↔ o.isSome ∨ inherits := by
  cases o <;> cases inherits <;> simp

theorem loading_eq_ok_iff {inherits : Bool} {l : Loading} :
    loading fields inherits = .ok l
      ↔ IsLoading fields l ∧ ((fields.get? "load").isSome ∨ inherits) := by
  unfold loading
  simp only [throw_eq, pure_eq, error_bind, bind_eq_ok_iff, demand_eq_ok_iff, complete_iff,
    optionalString_eq_ok_iff, optionalMethod_eq_ok_iff, optionalPosts_eq_ok_iff,
    optionalStrings_eq_ok_iff]
  constructor
  · rintro ⟨target, htarget, hcomplete, method, hmethod, posts, hposts, headers, hheaders,
      cookies, hcookies, h⟩
    cases h
    exact ⟨⟨htarget, hmethod, hposts, hheaders, hcookies⟩, isSome_of_rel htarget ▸ hcomplete⟩
  · rintro ⟨h, hcomplete⟩
    exact ⟨l.target, h.target, isSome_of_rel h.target ▸ hcomplete, l.method, h.method, l.posts,
      h.posts, l.headers, h.headers, l.cookies, h.cookies, rfl⟩

theorem finding_eq_ok_iff {inherits : Bool} {f : Finding} :
    finding fields inherits = .ok f
      ↔ IsFinding fields f ∧ ((fields.get? "find").isSome ∨ inherits) := by
  unfold finding
  simp only [throw_eq, pure_eq, error_bind, bind_eq_ok_iff, demand_eq_ok_iff, complete_iff,
    optionalString_eq_ok_iff, optionalBoolean_eq_ok_iff, optionalInteger_eq_ok_iff]
  constructor
  · rintro ⟨pattern, hpattern, hcomplete, matchIndex, hmatch, min, hmin, max, hmax, hexclusive,
      caseInsensitive, hcase, multiline, hmultiline, dotMatchesAll, hdot, replace, hreplace, h⟩
    cases h
    refine ⟨⟨hpattern, hcase, hmultiline, hdot, hreplace, hmatch, hmin, hmax, ?_⟩,
      isSome_of_rel hpattern ▸ hcomplete⟩
    cases matchIndex <;> cases min <;> cases max <;> simp at hexclusive ⊢
  · rintro ⟨h, hcomplete⟩
    refine ⟨f.pattern, h.pattern, isSome_of_rel h.pattern ▸ hcomplete, f.matchIndex, h.matchIndex,
      f.min, h.min, f.max, h.max, ?_, f.caseInsensitive, h.caseInsensitive, f.multiline,
      h.multiline, f.dotMatchesAll, h.dotMatchesAll, f.replace, h.replace, rfl⟩
    rcases h.exclusive with hnone | ⟨hmin, hmax⟩
    · simp [hnone]
    · simp [hmin, hmax]

theorem notes_eq_ok_iff {level : Nat} {n : Notes} :
    notes fields branch level = .ok n ↔ IsNotes (level + 1) fields n := by
  unfold notes
  simp only [pure_eq, bind_eq_ok_iff, optionalString_eq_ok_iff, metadata_eq_ok_iff]
  constructor
  · rintro ⟨name, hname, description, hdescription, metadata, hmetadata, h⟩
    cases h
    exact ⟨hname, hdescription, hmetadata⟩
  · intro h
    exact ⟨n.name, h.name, n.description, h.description, n.metadata, h.metadata, rfl⟩

theorem hasAny_loadFields_iff :
    hasAny fields loadFields = true ↔ ∃ name ∈ fields.keys.names, LoadField name := by
  simp [hasAny, List.any_eq_true, mem_loadFields_iff]

theorem hasAny_findFields_iff :
    hasAny fields findFields = true ↔ ∃ name ∈ fields.keys.names, FindField name := by
  simp [hasAny, List.any_eq_true, mem_findFields_iff]

theorem unknown?_eq_none_iff :
    unknown? fields = none
      ↔ ∀ name ∈ fields.keys.names, CommonField name ∨ LoadField name ∨ FindField name := by
  simp only [unknown?, List.find?_eq_none, Bool.not_eq_true, Bool.not_eq_false',
    Bool.or_eq_true, List.contains_iff_mem, mem_commonFields_iff, mem_loadFields_iff,
    mem_findFields_iff, or_assoc]

/-- **What a step does** is read from its fields once they are not of both
kinds. -/
theorem action_eq_ok_iff {a : Action}
    (hpure : ¬(hasAny fields loadFields && hasAny fields findFields) = true) :
    action fields (fields.get? "extends").isSome = .ok a ↔ IsAction fields a := by
  rw [Bool.and_eq_true, hasAny_loadFields_iff, hasAny_findFields_iff] at hpure
  unfold action
  split
  case isTrue hloads =>
    rw [hasAny_loadFields_iff] at hloads
    simp only [pure_eq, bind_eq_ok_iff, loading_eq_ok_iff, Json.Fields.isSome_get?_iff]
    constructor
    · rintro ⟨l, ⟨hl, hcomplete⟩, h⟩
      cases h
      exact .load hloads (fun name hname hfind => hpure ⟨hloads, name, hname, hfind⟩) hcomplete hl
    · intro h
      cases h with
      | load _ _ hcomplete hl => exact ⟨_, ⟨hl, hcomplete⟩, rfl⟩
      | find hnone =>
        obtain ⟨name, hname, hload⟩ := hloads
        exact absurd hload (hnone name hname)
  case isFalse hloads =>
    rw [hasAny_loadFields_iff] at hloads
    -- a step that does not load finds, be it by inheriting all it finds by
    have hfind : ∀ f : Finding, a = .find f → (IsAction fields a ↔ IsFinding fields f
        ∧ ("find" ∈ fields.keys.names ∨ "extends" ∈ fields.keys.names)) := by
      rintro f rfl
      exact ⟨fun | .find _ hcomplete hf => ⟨hf, hcomplete⟩,
        fun ⟨hf, hcomplete⟩ => .find (fun name hname h => hloads ⟨name, hname, h⟩) hcomplete hf⟩
    split
    case isTrue =>
      simp only [pure_eq, bind_eq_ok_iff, finding_eq_ok_iff, Json.Fields.isSome_get?_iff]
      constructor
      · rintro ⟨f, hf, h⟩
        exact (hfind f (Except.ok.inj h).symm).2 hf
      · intro h
        cases h with
        | load h => exact absurd h hloads
        | find _ hcomplete hf => exact ⟨_, ⟨hf, hcomplete⟩, rfl⟩
    case isFalse hneither =>
      rw [Bool.or_eq_true, hasAny_findFields_iff, Json.Fields.isSome_get?_iff] at hneither
      refine ⟨nofun, fun h => ?_⟩
      cases h with
      | load h => exact absurd h hloads
      | find _ hcomplete =>
        exact absurd (hcomplete.imp_left fun h => ⟨"find", h, .pattern⟩) hneither

variable {p : Place}

theorem not_both_of_isAction {a : Action} (h : IsAction fields a) :
    ¬(hasAny fields loadFields && hasAny fields findFields) = true := by
  rw [Bool.and_eq_true, hasAny_loadFields_iff, hasAny_findFields_iff]
  rintro ⟨⟨name, hname, hload⟩, name', hname', hfind⟩
  cases h with
  | load _ hnone => exact hnone name' hname' hfind
  | find hnone => exact hnone name hname hload

/-- **A step is read as the rules for steps say**, from what the reading of the
instructions it leads to came to. -/
theorem step_eq_ok_iff {level : Nat} {next base : Except Rejection (Option Instruction)}
    {i : InstructionAt p}
    (hbase : ∀ b, base = .ok b → b.isSome = (fields.get? "extends").isSome) :
    step level fields next base = .ok i
      ↔ ∃ action notes n b, (∀ name ∈ fields.keys.names,
            CommonField name ∨ LoadField name ∨ FindField name)
          ∧ IsAction fields action ∧ IsNotes (level + 1) fields notes
          ∧ next = .ok n ∧ base = .ok b ∧ i = .step action notes n b := by
  unfold step
  rw [← unknown?_eq_none_iff]
  cases hunknown : unknown? fields with
  | some name =>
    simp only [throw_eq, error_bind, demand_eq_ok_iff, reduceCtorEq, and_false, false_and,
      exists_false]
  | none =>
    simp only [throw_eq, pure_eq, error_bind, bind_eq_ok_iff, demand_eq_ok_iff, notes_eq_ok_iff]
    constructor
    · rintro ⟨hpure, n, hn, b, hb, notes, hnotes, a, ha, h⟩
      rw [hbase b hb, action_eq_ok_iff hpure] at ha
      exact ⟨a, notes, n, b, trivial, ha, hnotes, hn, hb, (Except.ok.inj h).symm⟩
    · rintro ⟨a, notes, n, b, -, ha, hnotes, hn, hb, rfl⟩
      have hpure := not_both_of_isAction ha
      refine ⟨hpure, n, hn, b, hb, notes, hnotes, a, ?_, rfl⟩
      rw [hbase b hb, action_eq_ok_iff hpure]
      exact ha

/-! ## Instructions -/

@[simp] theorem inFront_zero {α : Type} {n : Nat} (first : α) (rest : Fin n → α) :
    inFront first rest 0 = first := rfl

@[simp] theorem inFront_succ {α : Type} {n : Nat} (first : α) (rest : Fin n → α) (i : Fin n) :
    inFront first rest i.succ = rest i := rfl

theorem eq_inFront_iff {α : Type} {n : Nat} {first : α} {rest : Fin n → α}
    {g : Fin (n + 1) → α} :
    inFront first rest = g ↔ first = g 0 ∧ ∀ i, rest i = g i.succ := by
  rw [funext_iff, Fin.forall_fin_succ]
  simp only [inFront_zero, inFront_succ]

/-- Several computations succeed together when each does. -/
theorem collect_eq_ok_iff {ε α : Type} {n : Nat} {f : Fin n → Except ε α} {g : Fin n → α} :
    collect f = .ok g ↔ ∀ i, f i = .ok (g i) := by
  induction n with
  | zero => exact ⟨fun _ i => i.elim0, fun _ => congrArg Except.ok (funext fun i => i.elim0)⟩
  | succ n ih =>
    rw [collect, Fin.forall_fin_succ, show (⟨0, n.succ_pos⟩ : Fin (n + 1)) = 0 from rfl]
    cases hfirst : f 0 with
    | error e => simp
    | ok first =>
      dsimp only
      cases hrest : collect fun i => f i.succ with
      | error e =>
        refine ⟨nofun, fun ⟨_, h⟩ => ?_⟩
        rw [ih.2 h] at hrest
        exact nomatch hrest
      | ok rest =>
        have hvalue := ih.1 hrest
        simp only [hvalue, Except.ok.injEq, eq_inFront_iff]

/-! ### What reading comes to, for each kind of value -/

section
variable {p : Place} {level : Nat}

theorem read_of_tooDeep (h : maxLevel < level) (v : Json) :
    read p level v = .error (tooDeep [] (branchAt p)) := by
  unfold read
  exact if_pos h

theorem read_string (h : level ≤ maxLevel) (s : String) :
    read p level (.string s) = .ok (.reference s) := by
  unfold read
  exact if_neg (Nat.not_lt.2 h)

theorem read_array_inSequence (h : level ≤ maxLevel) {size : Nat} (item : Fin size → Json) :
    read .inSequence level (.array size item) = .error ⟨.nestedSequence, [], .item⟩ := by
  unfold read
  exact if_neg (Nat.not_lt.2 h)

theorem read_array_alone (h : level ≤ maxLevel) {size : Nat} (item : Fin size → Json) :
    read .alone level (.array size item)
      = (collect fun i : Fin size =>
          (read .inSequence (level + 1) (item i)).mapError (·.under (.index i))).map
            (.sequenceOf size) := by
  conv_lhs => unfold read
  exact if_neg (Nat.not_lt.2 h)

theorem read_object (h : level ≤ maxLevel) {keys : Json.Keys} (value : Fin keys.size → Json) :
    read p level (.object keys value)
      = step level ⟨keys, value⟩
          (linked keys (fun i => read .alone (level + 1) (value i)) "then")
          (linked keys (fun i => read .alone (level + 1) (value i)) "extends") := by
  conv_lhs => unfold read
  exact if_neg (Nat.not_lt.2 h)

/-- A value is an **atom that is no string** when it is null, a truth value or a
number. -/
inductive IsOtherAtom : Json → Prop where
  /-- The value `null`. -/
  | null : IsOtherAtom .null
  /-- A truth value. -/
  | bool (b : Bool) : IsOtherAtom (.bool b)
  /-- A number. -/
  | number (n : Json.Number) : IsOtherAtom (.number n)

theorem read_otherAtom (h : level ≤ maxLevel) {v : Json} (hv : IsOtherAtom v) :
    read p level v = .error ⟨.notAnInstruction v.kindText, [], branchAt p⟩ := by
  cases hv <;> unfold read <;> exact if_neg (Nat.not_lt.2 h)

end

/-- What a field of a step leads to is read when the rules for what is under it
say so. -/
theorem linked_eq_ok_iff {keys : Json.Keys} {value : Fin keys.size → Json} {level : Nat}
    {name : String} {o : Option Instruction} {read : Fin keys.size → Except Rejection Instruction}
    (hread : ∀ j i, read j = .ok i ↔ Derives level (value j) i) :
    linked keys read name = .ok o ↔ Links level (Json.Fields.get? ⟨keys, value⟩ name) o := by
  unfold linked Json.Fields.get?
  cases keys.find? name with
  | none => exact ⟨fun h => Except.ok.inj h ▸ .absent, fun | .absent => rfl⟩
  | some j =>
    simp only [map_eq_ok_iff, mapError_eq_ok_iff, hread, Option.map_some]
    constructor
    · rintro ⟨i, h, rfl⟩
      exact .present h
    · intro h
      cases h with
      | present h => exact ⟨_, h, rfl⟩

theorem isSome_of_links {level : Nat} {v : Option Json} {o : Option Instruction}
    (h : Links level v o) : o.isSome = v.isSome := by
  cases h <;> rfl

theorem level_le_of_derives {p : Place} {level : Nat} {v : Json} {i : InstructionAt p}
    (h : Derives level v i) : level ≤ maxLevel := by
  cases h <;> assumption

/-- Below the last level nothing is read and nothing is derived. -/
theorem read_eq_ok_iff_of_tooDeep {p : Place} {level : Nat} (h : ¬level ≤ maxLevel) (v : Json)
    {i : InstructionAt p} : read p level v = .ok i ↔ Derives level v i := by
  rw [read_of_tooDeep (Nat.lt_of_not_le h)]
  exact ⟨nofun, fun hi => absurd (level_le_of_derives hi) h⟩

/-- A value that is no string, array or object is read as nothing and derives
nothing. -/
theorem read_eq_ok_iff_of_isOtherAtom {p : Place} {level : Nat} {v : Json} (hv : IsOtherAtom v)
    {i : InstructionAt p} : read p level v = .ok i ↔ Derives level v i := by
  by_cases h : level ≤ maxLevel
  · rw [read_otherAtom h hv]
    exact ⟨nofun, fun hi => by cases hv <;> cases hi⟩
  · exact read_eq_ok_iff_of_tooDeep h v

/-- **Reading accepts exactly what the rules derive**, at every place and
level. -/
theorem read_eq_ok_iff (v : Json) :
    ∀ {p : Place} {level : Nat} {i : InstructionAt p},
      read p level v = .ok i ↔ Derives level v i := by
  induction v with
  | string s =>
    intro p level i
    by_cases h : level ≤ maxLevel
    · rw [read_string h]
      exact ⟨fun hi => Except.ok.inj hi ▸ .reference h, fun | .reference _ => rfl⟩
    · exact read_eq_ok_iff_of_tooDeep h _
  | array size item ih =>
    intro p level i
    by_cases h : level ≤ maxLevel
    · cases p with
      | inSequence =>
        -- an array inside an array is neither read nor derived
        rw [read_array_inSequence h]
        exact ⟨nofun, nofun⟩
      | alone =>
        rw [read_array_alone h]
        simp only [map_eq_ok_iff, collect_eq_ok_iff, mapError_eq_ok_iff, ih,
          InstructionAt.sequenceOf_eq]
        constructor
        · rintro ⟨part, hpart, rfl⟩
          exact .sequence h hpart
        · intro hi
          cases hi with
          | sequence _ hpart => exact ⟨_, hpart, rfl⟩
    · exact read_eq_ok_iff_of_tooDeep h _
  | object keys value ih =>
    intro p level i
    by_cases h : level ≤ maxLevel
    · have hlinked (name : String) (o : Option Instruction) :
          linked keys (fun j => read .alone (level + 1) (value j)) name = .ok o
            ↔ Links (level + 1) (Json.Fields.get? ⟨keys, value⟩ name) o :=
        linked_eq_ok_iff (fun j i => ih j)
      -- that a step inherits is asked of what was read, and is the same of its field
      rw [read_object h, step_eq_ok_iff fun b hb => isSome_of_links ((hlinked "extends" b).1 hb)]
      simp only [hlinked]
      constructor
      · rintro ⟨action, notes, n, b, hknown, haction, hnotes, hn, hb, rfl⟩
        exact .step h hknown haction hnotes hn hb
      · intro hi
        cases hi with
        | step _ hknown haction hnotes hn hb =>
          exact ⟨_, _, _, _, hknown, haction, hnotes, hn, hb, rfl⟩
    · exact read_eq_ok_iff_of_tooDeep h _
  | null => exact read_eq_ok_iff_of_isOtherAtom .null
  | bool b => exact read_eq_ok_iff_of_isOtherAtom (.bool b)
  | number n => exact read_eq_ok_iff_of_isOtherAtom (.number n)

/-- **The reader accepts exactly the grammar**: a value is read as an
instruction when the rules derive the instruction from it, at the top level. -/
theorem ofJson_eq_ok_iff (v : Json) (i : Instruction) :
    Instruction.ofJson v = .ok i ↔ Derives 0 v i :=
  read_eq_ok_iff v

end InstructionStore.Grammar
