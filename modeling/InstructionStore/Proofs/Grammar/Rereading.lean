import InstructionStore.Instruction.Text
import InstructionStore.Proofs.Grammar.Encoding
import InstructionStore.Proofs.Json.Rereading

/-!
# Instructions are read as they were written

The text of an instruction never nests more deeply than the reader allows:
the levels of the grammar bound the depth of a value (`depth_le_of_derives`). So
it is read as a value, which differs from the one that was written in floats at
most. Floats stand in free-form data only, where the grammar does not care which
they are (`exists_derives_of_resembles`), and the text is read as an instruction
again (`exists_ofText_text`).
-/

namespace InstructionStore

open Json (Resembles IsFloatFree StandsWithin)

namespace Grammar

/-! ## Depth -/

theorem IsString.depth_eq {v : Json} {s : String} (h : IsString v s) : v.depth = 0 := by
  cases h
  rfl

theorem IsBoolean.depth_eq {v : Json} {b : Bool} (h : IsBoolean v b) : v.depth = 0 := by
  cases h
  rfl

theorem IsInteger.depth_eq {v : Json} {n : Int64} (h : IsInteger v n) : v.depth = 0 := by
  cases h
  rfl

theorem IsMethod.depth_eq {v : Json} {m : Method} (h : IsMethod v m) : v.depth = 0 := by
  cases h <;> rfl

theorem IsStrings.depth_le {v : Json} {texts : Json.Fields String} (h : IsStrings v texts) :
    v.depth ≤ 1 := by
  obtain ⟨keys, text⟩ := h
  have hle : Json.greatest (fun i => (Json.string (text i)).depth) ≤ 0 :=
    Json.greatest_le_iff.2 fun i => Nat.le_refl 0
  show 1 + Json.greatest (fun i => (Json.string (text i)).depth) ≤ 1
  omega

theorem IsPostData.depth_le {v : Json} {posts : PostData} (h : IsPostData v posts) :
    v.depth ≤ 1 := by
  cases h with
  | raw body => exact Nat.zero_le 1
  | form h => exact h.depth_le

theorem IsMetadata.depth_le {level : Nat} {v : Json} {data : Json.Fields Json}
    (h : IsMetadata level v data) : level + v.depth ≤ 65 := by
  cases h with
  | object within =>
    rcases (Json.standsWithin_iff_depth _).1 within with hzero | hle
    · exact absurd hzero (by unfold Json.depth; omega)
    · exact hle

/-- A field that may be absent holds what it is written for. -/
theorem exists_of_rel {α : Type} {written : Json → α → Prop} {x : Option Json} {o : Option α}
    {v : Json} (h : Option.Rel written x o) (hx : x = some v) : ∃ a, written v a := by
  subst hx
  cases h with
  | some h => exact ⟨_, h⟩

section
variable {fields : Json.Fields Json} {level : Nat} {v : Json}

theorem IsLoading.depth_le {l : Loading} (h : IsLoading fields l) {name : String}
    (hname : LoadField name) (hv : fields.get? name = some v) : v.depth ≤ 1 := by
  cases hname with
  | target =>
    obtain ⟨s, hs⟩ := exists_of_rel h.target hv
    exact hs.depth_eq.trans_le (Nat.zero_le 1)
  | method =>
    obtain ⟨m, hm⟩ := exists_of_rel h.method hv
    exact hm.depth_eq.trans_le (Nat.zero_le 1)
  | posts =>
    obtain ⟨posts, hposts⟩ := exists_of_rel h.posts hv
    exact hposts.depth_le
  | headers =>
    obtain ⟨texts, htexts⟩ := exists_of_rel h.headers hv
    exact htexts.depth_le
  | cookies =>
    obtain ⟨texts, htexts⟩ := exists_of_rel h.cookies hv
    exact htexts.depth_le

theorem IsFinding.depth_eq {f : Finding} (h : IsFinding fields f) {name : String}
    (hname : FindField name) (hv : fields.get? name = some v) : v.depth = 0 := by
  cases hname with
  | pattern => exact (exists_of_rel h.pattern hv).elim fun _ hs => hs.depth_eq
  | caseInsensitive => exact (exists_of_rel h.caseInsensitive hv).elim fun _ hb => hb.depth_eq
  | multiline => exact (exists_of_rel h.multiline hv).elim fun _ hb => hb.depth_eq
  | dotMatchesAll => exact (exists_of_rel h.dotMatchesAll hv).elim fun _ hb => hb.depth_eq
  | replace => exact (exists_of_rel h.replace hv).elim fun _ hs => hs.depth_eq
  | matchIndex => exact (exists_of_rel h.matchIndex hv).elim fun _ hn => hn.depth_eq
  | min => exact (exists_of_rel h.min hv).elim fun _ hn => hn.depth_eq
  | max => exact (exists_of_rel h.max hv).elim fun _ hn => hn.depth_eq

theorem IsAction.depth_le {a : Action} (h : IsAction fields a) {name : String}
    (hname : LoadField name ∨ FindField name) (hv : fields.get? name = some v) : v.depth ≤ 1 := by
  have hmem : name ∈ fields.keys.names :=
    Json.Fields.isSome_get?_iff.1 (by rw [hv, Option.isSome_some])
  cases h with
  | load loads pure complete written =>
    rcases hname with hload | hfind
    · exact written.depth_le hload hv
    · exact absurd hfind (pure name hmem)
  | find pure complete written =>
    rcases hname with hload | hfind
    · exact absurd hload (pure name hmem)
    · exact (written.depth_eq hfind hv).trans_le (Nat.zero_le 1)

end

/-- **The levels of the grammar bound the depth of a value.** The two levels more
are those of an object of strings in a step on the last one. -/
theorem depth_le_of_derives (v : Json) : ∀ {p : Place} {level : Nat} {i : InstructionAt p},
    Derives level v i → level + v.depth ≤ 66 := by
  induction v with
  | null => exact nofun
  | bool b => exact nofun
  | number n => exact nofun
  | string s =>
    intro p level i h
    cases h with
    | reference here =>
      show level + 0 ≤ 66
      omega
  | array size item ih =>
    intro p level i h
    cases h with
    | sequence here items =>
      have hle : Json.greatest (fun i => (item i).depth) ≤ 65 - level := by
        refine Json.greatest_le_iff.2 fun i => ?_
        have hi := ih i (items i)
        omega
      unfold Json.depth
      omega
  | object keys value ih =>
    intro p level i h
    cases h with
    | step here known does noted leads inherits =>
      have hlink {name : String} {o : Option Instruction} {j : Fin keys.size}
          (hlinks : Links (level + 1) (Json.Fields.get? ⟨keys, value⟩ name) o)
          (hj : Json.Fields.get? ⟨keys, value⟩ name = some (value j)) :
          level + 1 + (value j).depth ≤ 66 := by
        rw [hj] at hlinks
        cases hlinks with
        | present h => exact ih j h
      have hle : Json.greatest (fun j => (value j).depth) ≤ 65 - level := by
        refine Json.greatest_le_iff.2 fun j => ?_
        have hj : Json.Fields.get? ⟨keys, value⟩ (keys.name j) = some (value j) :=
          Json.Fields.get?_eq_some_iff.2 ⟨j, rfl, rfl⟩
        have hmem : keys.name j ∈ keys.names := Json.Keys.name_mem_names j
        generalize keys.name j = name at hj hmem
        -- strings have no depth, and what is linked stands one level below
        rcases known name hmem with hcommon | hown
        · cases hcommon with
          | name => exact (exists_of_rel noted.name hj).elim fun _ hs => by rw [hs.depth_eq]; omega
          | description =>
            exact (exists_of_rel noted.description hj).elim fun _ hs => by rw [hs.depth_eq]; omega
          | metadata =>
            obtain ⟨data, hdata⟩ := exists_of_rel noted.metadata hj
            have hdepth := hdata.depth_le
            omega
          | next =>
            have hdepth := hlink leads hj
            omega
          | base =>
            have hdepth := hlink inherits hj
            omega
        · have hdepth := does.depth_le hown hj
          omega
      unfold Json.depth
      omega

/-! ## Values that resemble one another -/

theorem greatest_congr {n : Nat} {f g : Fin n → Nat} (h : ∀ i, f i = g i) :
    Json.greatest f = Json.greatest g :=
  congrArg Json.greatest (funext h)

theorem depth_eq_of_resembles {v w : Json} (h : Resembles v w) : w.depth = v.depth := by
  induction h with
  | null => rfl
  | bool => rfl
  | integer => rfl
  | float => rfl
  | string => rfl
  | array _ ih =>
    unfold Json.depth
    rw [greatest_congr ih]
  | object _ ih =>
    unfold Json.depth
    rw [greatest_congr ih]

theorem rel_get? {keys : Json.Keys} {value value' : Fin keys.size → Json}
    (h : ∀ i, Resembles (value i) (value' i)) (name : String) :
    Option.Rel Resembles (Json.Fields.get? ⟨keys, value⟩ name)
      (Json.Fields.get? ⟨keys, value'⟩ name) := by
  unfold Json.Fields.get?
  cases keys.find? name with
  | none => exact .none
  | some i => exact .some (h i)

/-- What a field is written for is kept when no float matters to it. -/
theorem rel_of_resembles {α : Type} {written : Json → α → Prop} {x y : Option Json}
    {o : Option α} (hwritten : ∀ {v w a}, written v a → Resembles v w → written w a)
    (h : Option.Rel written x o) (hxy : Option.Rel Resembles x y) :
    Option.Rel written y o := by
  cases h with
  | none =>
    cases hxy
    exact .none
  | some h =>
    cases hxy with
    | some hvw => exact .some (hwritten h hvw)

section
variable {v w : Json} (hvw : Resembles v w)
include hvw

theorem IsString.of_resembles {s : String} (h : IsString v s) : IsString w s := by
  cases h
  cases hvw
  exact .string s

theorem IsBoolean.of_resembles {b : Bool} (h : IsBoolean v b) : IsBoolean w b := by
  cases h
  cases hvw
  exact .bool b

theorem IsInteger.of_resembles {n : Int64} (h : IsInteger v n) : IsInteger w n := by
  cases h
  cases hvw
  exact .integer n _

theorem IsMethod.of_resembles {m : Method} (h : IsMethod v m) : IsMethod w m := by
  obtain ⟨word, rfl⟩ := h.exists_string
  cases hvw
  exact h

theorem IsStrings.of_resembles {texts : Json.Fields String} (h : IsStrings v texts) :
    IsStrings w texts := by
  obtain ⟨keys, text⟩ := h
  cases hvw with
  | @object _ _ value' values =>
    obtain rfl : value' = fun i => .string (text i) :=
      funext fun i => (values i).eq .string
    exact .object keys text

theorem IsPostData.of_resembles {posts : PostData} (h : IsPostData v posts) :
    IsPostData w posts := by
  cases h with
  | raw body =>
    cases hvw
    exact .raw body
  | form h => exact .form (h.of_resembles hvw)

/-- Free-form data stays within its levels. -/
theorem IsMetadata.exists_of_resembles {level : Nat} {data : Json.Fields Json}
    (h : IsMetadata level v data) : ∃ data', IsMetadata level w data' := by
  cases h with
  | object within =>
    have hdepth := depth_eq_of_resembles hvw
    cases hvw with
    | @object _ _ value' values =>
      refine ⟨⟨_, value'⟩, .object ?_⟩
      rw [Json.standsWithin_iff_depth, hdepth]
      exact (Json.standsWithin_iff_depth _).1 within

end

section
variable {keys : Json.Keys} {value value' : Fin keys.size → Json}
  (hvalue : ∀ i, Resembles (value i) (value' i))
include hvalue

theorem IsAction.of_resembles {a : Action} (h : IsAction ⟨keys, value⟩ a) :
    IsAction ⟨keys, value'⟩ a := by
  have hrel := rel_get? hvalue
  cases h with
  | load loads pure complete written =>
    refine .load loads pure complete ⟨?_, ?_, ?_, ?_, ?_⟩
    · exact rel_of_resembles (fun h hvw => h.of_resembles hvw) written.target (hrel _)
    · exact rel_of_resembles (fun h hvw => h.of_resembles hvw) written.method (hrel _)
    · exact rel_of_resembles (fun h hvw => h.of_resembles hvw) written.posts (hrel _)
    · exact rel_of_resembles (fun h hvw => h.of_resembles hvw) written.headers (hrel _)
    · exact rel_of_resembles (fun h hvw => h.of_resembles hvw) written.cookies (hrel _)
  | find pure complete written =>
    refine .find pure complete ⟨?_, ?_, ?_, ?_, ?_, ?_, ?_, ?_, written.exclusive⟩
    · exact rel_of_resembles (fun h hvw => h.of_resembles hvw) written.pattern (hrel _)
    · exact rel_of_resembles (fun h hvw => h.of_resembles hvw) written.caseInsensitive (hrel _)
    · exact rel_of_resembles (fun h hvw => h.of_resembles hvw) written.multiline (hrel _)
    · exact rel_of_resembles (fun h hvw => h.of_resembles hvw) written.dotMatchesAll (hrel _)
    · exact rel_of_resembles (fun h hvw => h.of_resembles hvw) written.replace (hrel _)
    · exact rel_of_resembles (fun h hvw => h.of_resembles hvw) written.matchIndex (hrel _)
    · exact rel_of_resembles (fun h hvw => h.of_resembles hvw) written.min (hrel _)
    · exact rel_of_resembles (fun h hvw => h.of_resembles hvw) written.max (hrel _)

theorem IsNotes.exists_of_resembles {level : Nat} {notes : Notes}
    (h : IsNotes level ⟨keys, value⟩ notes) : ∃ notes', IsNotes level ⟨keys, value'⟩ notes' := by
  have hrel := rel_get? hvalue
  have hmetadata : ∃ o, Option.Rel (IsMetadata level)
      (Json.Fields.get? ⟨keys, value'⟩ "metadata") o := by
    have hold := h.metadata
    have hnew := hrel "metadata"
    generalize Json.Fields.get? ⟨keys, value⟩ "metadata" = x at hold hnew
    generalize Json.Fields.get? ⟨keys, value'⟩ "metadata" = y at hnew ⊢
    cases hnew with
    | none => exact ⟨none, .none⟩
    | some hvw =>
      generalize notes.metadata = o at hold
      cases hold with
      | some hdata =>
        obtain ⟨data', hdata'⟩ := hdata.exists_of_resembles hvw
        exact ⟨some data', .some hdata'⟩
  obtain ⟨o, ho⟩ := hmetadata
  refine ⟨⟨notes.name, notes.description, o⟩, ?_, ?_, ho⟩
  · exact rel_of_resembles (fun h hvw => h.of_resembles hvw) h.name (hrel _)
  · exact rel_of_resembles (fun h hvw => h.of_resembles hvw) h.description (hrel _)

end

/-- **What resembles an instruction is an instruction.** -/
theorem exists_derives_of_resembles (v : Json) :
    ∀ {p : Place} {level : Nat} {i : InstructionAt p} {w : Json}, Derives level v i →
      Resembles v w → ∃ j : InstructionAt p, Derives level w j := by
  induction v with
  | null => exact nofun
  | bool b => exact nofun
  | number n => exact nofun
  | string s =>
    intro p level i w h hvw
    cases h with
    | reference here =>
      cases hvw
      exact ⟨_, .reference here⟩
  | array size item ih =>
    intro p level i w h hvw
    cases h with
    | sequence here items =>
      cases hvw with
      | array hitems =>
        choose part hpart using fun i => ih i (items i) (hitems i)
        exact ⟨_, .sequence here hpart⟩
  | object keys value ih =>
    intro p level i w h hvw
    cases h with
    | step here known does noted leads inherits =>
      cases hvw with
      | @object _ _ value' values =>
        -- both objects have the same keys, so a field has one index in both
        have hlinks {name : String} {o : Option Instruction}
            (hlink : Links (level + 1) (Json.Fields.get? ⟨keys, value⟩ name) o) :
            ∃ o', Links (level + 1) (Json.Fields.get? ⟨keys, value'⟩ name) o' := by
          unfold Json.Fields.get? at hlink ⊢
          cases hfind : keys.find? name with
          | none => exact ⟨none, .absent⟩
          | some j =>
            dsimp only at hlink
            rw [hfind] at hlink
            cases hlink with
            | present hj =>
              obtain ⟨i', hi'⟩ := ih j hj (values j)
              exact ⟨some i', .present hi'⟩
        obtain ⟨notes', hnotes⟩ := noted.exists_of_resembles values
        obtain ⟨next', hnext⟩ := hlinks leads
        obtain ⟨base', hbase⟩ := hlinks inherits
        exact ⟨_, .step here known (does.of_resembles values) hnotes hnext hbase⟩

end Grammar

/-! ## Texts of instructions -/

namespace Instruction

open Grammar

/-- **An instruction that the grammar accepts**, as it is written. -/
def IsAccepted (i : Instruction) : Prop := Derives 0 i.toJson i

theorem isAccepted_of_ofJson {v : Json} {i : Instruction} (h : ofJson v = .ok i) :
    i.IsAccepted := by
  have hderives := (read_eq_ok_iff v).1 h
  unfold IsAccepted
  rwa [toJson_of_derives v hderives]

theorem ofText_of_parse {text : String} {v : Json} {i : Instruction}
    (hparse : Json.parse text = .ok v) (h : Derives 0 v i) : ofText text = .ok i := by
  unfold ofText
  rw [hparse]
  dsimp only
  rw [show ofJson v = .ok i from (read_eq_ok_iff v).2 h]

theorem IsAccepted.depth_le {i : Instruction} (h : i.IsAccepted) :
    i.toJson.depth ≤ Json.nestingLimit := by
  have hle := depth_le_of_derives _ h
  unfold Json.nestingLimit
  omega

/-- **The text of an instruction is read as an instruction** that differs in floats
at most. -/
theorem exists_ofText_text {i : Instruction} (h : i.IsAccepted) :
    ∃ j : Instruction, ofText i.text = .ok j ∧ Resembles i.toJson j.toJson ∧ j.IsAccepted := by
  obtain ⟨w, hresembles, hparse⟩ := Json.exists_parse_text h.depth_le
  obtain ⟨j, hj⟩ := exists_derives_of_resembles _ h hresembles
  have hw := toJson_of_derives w hj
  subst hw
  exact ⟨j, ofText_of_parse hparse hj, hresembles, hj⟩

/-- **The text of an instruction without floats is read as the instruction.** -/
theorem ofText_text {i : Instruction} (h : i.IsAccepted) (hfree : IsFloatFree i.toJson) :
    ofText i.text = .ok i :=
  ofText_of_parse (Json.parse_text hfree h.depth_le) h

end Instruction

end InstructionStore
