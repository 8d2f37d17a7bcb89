import InstructionStore.Proofs.Grammar.Reading
import InstructionStore.Store.Saving

/-!
# Rejections are true

A rejection names a part of the rejected value by its path and says what is
wrong with it. Both are right: the path leads to a part, and that part has the
defect.

`HasDefect level v path n d` is what a defect means, for the part `n` of the
value `v` at the path `path`; the value itself stands at the level `level`. It
does not mention the reader. Three defects concern more than the part itself: an
array is wrong for what it stands in, a field for the name it stands under, and
a part that stands too deep for where it stands. Whatever is wrong is wrong with
an instruction or with a field of a step, so the path leads from instruction to
instruction (`LeadsOn`) and only its last steps into a field.

Every reader is shown to report what is the case (`Located`), and a rejection
from further in stays true seen from further out (`HasDefect.under`). Paths are
built from the inside out, so nothing else is needed.
-/

namespace InstructionStore.Grammar

open Json (StandsWithin)
open Outcome

/-! ## What the defects mean -/

/-- **What a field of a step has to hold.** -/
inductive Expects : (name : String) → Expectation → Prop where
  /-- The name of the result. -/
  | name : Expects "name" .string
  /-- The description. -/
  | description : Expects "description" .string
  /-- The free-form data. -/
  | metadata : Expects "metadata" .object
  /-- The address. -/
  | target : Expects "load" .string
  /-- The method. -/
  | method : Expects "method" .string
  /-- The data sent along. -/
  | posts : Expects "posts" .stringOrStrings
  /-- The header fields. -/
  | headers : Expects "headers" .strings
  /-- The cookies. -/
  | cookies : Expects "cookies" .strings
  /-- The pattern. -/
  | pattern : Expects "find" .string
  /-- Whether letters match in either case. -/
  | caseInsensitive : Expects "case_insensitive" .boolean
  /-- Whether start and end match at every line. -/
  | multiline : Expects "multiline" .boolean
  /-- Whether the dot matches a line break. -/
  | dotMatchesAll : Expects "dot_matches_all" .boolean
  /-- What is made of a match. -/
  | replace : Expects "replace" .string
  /-- The one match to use. -/
  | matchIndex : Expects "match" .integer
  /-- The first match to use. -/
  | min : Expects "min" .integer
  /-- The last match to use. -/
  | max : Expects "max" .integer

/-- **What holds something**: the values that meet an expectation. -/
inductive Meets : Expectation → Json → Prop where
  /-- A string. -/
  | string (s : String) : Meets .string (.string s)
  /-- A truth value. -/
  | boolean (b : Bool) : Meets .boolean (.bool b)
  /-- A signed 64-bit integer. -/
  | integer {v : Json} {n : Int64} (h : IsInteger v n) : Meets .integer v
  /-- An object. -/
  | object {keys : Json.Keys} (value : Fin keys.size → Json) : Meets .object (.object keys value)
  /-- An object of strings. -/
  | strings {v : Json} {texts : Json.Fields String} (h : IsStrings v texts) : Meets .strings v
  /-- A string, or an object of strings. -/
  | stringOrStrings {v : Json} {posts : PostData} (h : IsPostData v posts) :
    Meets .stringOrStrings v

/-- The words for the values that are no instructions by their kind. -/
inductive IsKind : Json → String → Prop where
  /-- The value `null`. -/
  | null : IsKind .null "null"
  /-- A truth value. -/
  | bool (b : Bool) : IsKind (.bool b) "a boolean"
  /-- A number. -/
  | number (n : Json.Number) : IsKind (.number n) "a number"

/-- **The steps of a path from an instruction to one inside it.** -/
inductive LeadsOn : Segment → Prop where
  /-- Into an item of a sequence. -/
  | item (i : Nat) : LeadsOn (.index i)
  /-- To what follows a step. -/
  | next : LeadsOn (.field "then")
  /-- To what a step inherits from. -/
  | base : LeadsOn (.field "extends")

theorem leadsOn_field_iff {name : String} :
    LeadsOn (.field name) ↔ name = "then" ∨ name = "extends" := by
  constructor
  · rintro (_ | _ | _)
    · exact .inl rfl
    · exact .inr rfl
  · rintro (rfl | rfl)
    · exact .next
    · exact .base

/-- **A path from an instruction to one inside it.** -/
def LeadsInside (path : Path) : Prop := ∀ segment ∈ path, LeadsOn segment

theorem LeadsInside.nil : LeadsInside [] := nofun

theorem LeadsInside.cons {segment : Segment} {path : Path} (h : LeadsOn segment)
    (hpath : LeadsInside path) : LeadsInside (segment :: path) :=
  List.forall_mem_cons.2 ⟨h, hpath⟩

/-- **The part at a path has a defect.** -/
inductive HasDefect (level : Nat) (v : Json) : Path → Json → Defect → Prop where
  /-- The part is null, a truth value or a number, and is called so. -/
  | notAnInstruction {path : Path} {n : Json} {found : String} (inside : LeadsInside path)
    (kind : IsKind n found) : HasDefect level v path n (.notAnInstruction found)
  /-- The part is an array and an item of an array. -/
  | nestedSequence (outer : Path) {i size size' : Nat} {item : Fin size → Json}
    {item' : Fin size' → Json} (inside : LeadsInside outer)
    (around : v.at? outer = some (.array size item)) :
    HasDefect level v (outer ++ [.index i]) (.array size' item') .nestedSequence
  /-- The part is an object with a field that no step has. -/
  | unknownField {path : Path} {keys : Json.Keys} {value : Fin keys.size → Json} {name : String}
    (inside : LeadsInside path) (here : name ∈ keys.names)
    (unknown : ¬(CommonField name ∨ LoadField name ∨ FindField name)) :
    HasDefect level v path (.object keys value) (.unknownField name)
  /-- The part has fields of both kinds. -/
  | ambiguousStep {path : Path} {keys : Json.Keys} {value : Fin keys.size → Json}
    (inside : LeadsInside path) (loads : ∃ name ∈ keys.names, LoadField name)
    (finds : ∃ name ∈ keys.names, FindField name) :
    HasDefect level v path (.object keys value) .ambiguousStep
  /-- The part has fields of neither kind and does not inherit. -/
  | missingTarget {path : Path} {keys : Json.Keys} {value : Fin keys.size → Json}
    (inside : LeadsInside path) (common : ∀ name ∈ keys.names, CommonField name)
    (alone : "extends" ∉ keys.names) :
    HasDefect level v path (.object keys value) .missingTarget
  /-- The part has fields of loading, but no address, and does not inherit. -/
  | missingLoad {path : Path} {keys : Json.Keys} {value : Fin keys.size → Json}
    (inside : LeadsInside path) (loads : ∃ name ∈ keys.names, LoadField name)
    (missing : "load" ∉ keys.names) (alone : "extends" ∉ keys.names) :
    HasDefect level v path (.object keys value) (.missingField "load")
  /-- The part has fields of finding, but no pattern, and does not inherit. -/
  | missingFind {path : Path} {keys : Json.Keys} {value : Fin keys.size → Json}
    (inside : LeadsInside path) (finds : ∃ name ∈ keys.names, FindField name)
    (missing : "find" ∉ keys.names) (alone : "extends" ∉ keys.names) :
    HasDefect level v path (.object keys value) (.missingField "find")
  /-- The part stands under the name of a field and is not what the field has to
  hold. -/
  | wrongField (outer : Path) {name : String} {n : Json} {expected : Expectation}
    (inside : LeadsInside outer) (asked : Expects name expected) (unmet : ¬Meets expected n) :
    HasDefect level v (outer ++ [.field name]) n (.wrongType name expected)
  /-- The part stands under a name inside a field that holds strings, and is no
  string; it is reported under both names. -/
  | wrongEntry (outer : Path) {name key : String} {n : Json} (inside : LeadsInside outer)
    (asked : Expects name .strings ∨ Expects name .stringOrStrings)
    (unmet : ¬Meets .string n) :
    HasDefect level v (outer ++ [.field name, .field key]) n
      (.wrongType (name ++ "." ++ key) .string)
  /-- The part is the word for a method, and stands for none. -/
  | invalidMethod (outer : Path) {word : String} (inside : LeadsInside outer)
    (unknown : ∀ m, ¬IsMethod (.string word) m) :
    HasDefect level v (outer ++ [.field "method"]) (.string word) (.invalidMethod word)
  /-- The part names one match and an end of a range. -/
  | matchWithRange {path : Path} {keys : Json.Keys} {value : Fin keys.size → Json}
    (inside : LeadsInside path) (single : "match" ∈ keys.names)
    (range : "min" ∈ keys.names ∨ "max" ∈ keys.names) :
    HasDefect level v path (.object keys value) .matchWithRange
  /-- The part is an instruction one level below the last: every step of a path
  to an instruction leads one level down. -/
  | instructionTooDeep {path : Path} {n : Json} (inside : LeadsInside path)
    (deep : level + path.length = 65) : HasDefect level v path n (.tooDeep 64)
  /-- The part is the free-form data of a step, and an array or object in it, or
  itself, stands below the last level. -/
  | metadataTooDeep (outer : Path) {keys : Json.Keys} {value : Fin keys.size → Json}
    (inside : LeadsInside outer)
    (deep : ¬StandsWithin 64 (level + outer.length + 1) (.object keys value)) :
    HasDefect level v (outer ++ [.field "metadata"]) (.object keys value) (.tooDeep 64)

/-- **A defect stays one seen from one step further out.** -/
theorem HasDefect.under {level : Nat} {u v n : Json} {segment : Segment} {path : Path}
    {d : Defect} (h : HasDefect (level + 1) u path n d) (hleads : LeadsOn segment)
    (hstep : v.step? segment = some u) : HasDefect level v (segment :: path) n d := by
  cases h with
  | notAnInstruction inside kind => exact .notAnInstruction (inside.cons hleads) kind
  | @nestedSequence outer i size size' item item' inside around =>
    have hat : v.at? (segment :: outer) = some (.array size item) := by
      rw [Json.at?_cons, hstep]
      exact around
    exact .nestedSequence (segment :: outer) (inside.cons hleads) hat
  | unknownField inside here unknown => exact .unknownField (inside.cons hleads) here unknown
  | ambiguousStep inside loads finds => exact .ambiguousStep (inside.cons hleads) loads finds
  | missingTarget inside common alone => exact .missingTarget (inside.cons hleads) common alone
  | missingLoad inside loads missing alone =>
    exact .missingLoad (inside.cons hleads) loads missing alone
  | missingFind inside finds missing alone =>
    exact .missingFind (inside.cons hleads) finds missing alone
  | wrongField outer inside asked unmet =>
    exact .wrongField (segment :: outer) (inside.cons hleads) asked unmet
  | wrongEntry outer inside asked unmet =>
    exact .wrongEntry (segment :: outer) (inside.cons hleads) asked unmet
  | invalidMethod outer inside unknown =>
    exact .invalidMethod (segment :: outer) (inside.cons hleads) unknown
  | matchWithRange inside single range =>
    exact .matchWithRange (inside.cons hleads) single range
  | instructionTooDeep inside deep =>
    -- one level less to begin with, and one step more to go
    refine .instructionTooDeep (inside.cons hleads) ?_
    rw [List.length_cons]
    omega
  | @metadataTooDeep outer keys value inside deep =>
    refine .metadataTooDeep (segment :: outer) (inside.cons hleads) ?_
    rwa [List.length_cons, show level + (outer.length + 1) + 1 = level + 1 + outer.length + 1 by
      omega]

/-- **A rejection is true of a value** at a given level: its path leads to a part
which has the defect, and is no longer than the levels allow. The two steps beyond
the last level are those into an object of strings. -/
structure Located (level : Nat) (v : Json) (r : Rejection) : Prop where
  /-- There is such a part. -/
  found : ∃ n, v.at? r.path = some n ∧ HasDefect level v r.path n r.defect
  /-- The path is short. -/
  short : level + r.path.length ≤ 66

theorem Located.under {level : Nat} {u v : Json} {segment : Segment} {r : Rejection}
    (h : Located (level + 1) u r) (hleads : LeadsOn segment)
    (hstep : v.step? segment = some u) : Located level v (r.under segment) := by
  obtain ⟨⟨n, hn, hd⟩, hshort⟩ := h
  refine ⟨⟨n, ?_, hd.under hleads hstep⟩, ?_⟩
  · rw [Rejection.under_path, Json.at?_cons, hstep]
    exact hn
  · rw [Rejection.under_path, List.length_cons]
    omega

/-! ## Fields -/

variable {fields : Json.Fields Json} {branch : Branch} {name : String} {level : Nat}
variable {r : Rejection}

/-- A defect of the whole value is located at the empty path. -/
theorem located_here {v : Json} {d : Defect} (hlevel : level ≤ 64)
    (h : HasDefect level v [] v d) : Located level v ⟨d, [], branch⟩ :=
  ⟨⟨v, rfl, h⟩, by simp only [List.length_nil]; omega⟩

/-- A defect of a field is located at the name of the field. -/
theorem located_atField {n : Json} {d : Defect} (hlevel : level ≤ 64)
    (hn : fields.get? name = some n)
    (h : HasDefect level (.ofFields fields) [.field name] n d) :
    Located level (.ofFields fields) ⟨d, [.field name], branch⟩ := by
  refine ⟨⟨n, ?_, h⟩, by simp only [List.length_cons, List.length_nil]; omega⟩
  rw [Json.at?_cons, show Json.step? (.ofFields fields) (.field name) = some n from hn]
  rfl

/-- A field that holds something else than it must is located. -/
theorem located_wrongType {n : Json} {expected : Expectation} (hlevel : level ≤ 64)
    (asked : Expects name expected) (hn : fields.get? name = some n)
    (unmet : ¬Meets expected n) :
    Located level (.ofFields fields) (wrongType name expected branch) :=
  located_atField hlevel hn (.wrongField [] .nil asked unmet)

/-- **A field that may be absent** is refused for what it holds. -/
theorem located_of_optional {α : Type} {expected : Expectation} {read : Json → Option α}
    (hlevel : level ≤ 64) (asked : Expects name expected)
    (hread : ∀ {v}, Meets expected v → (read v).isSome)
    (h : optional fields branch name expected read = .error r) :
    Located level (.ofFields fields) r := by
  unfold optional at h
  split at h
  case h_1 => exact nomatch h
  case h_2 v hv =>
    split at h
    case h_1 => exact nomatch h
    case h_2 hnone =>
      cases h
      refine located_wrongType hlevel asked hv (fun hmeets => ?_)
      have hsome := hread hmeets
      rw [hnone] at hsome
      exact Bool.false_ne_true hsome

theorem located_of_optionalString (hlevel : level ≤ 64) (asked : Expects name .string)
    (h : optionalString fields branch name = .error r) : Located level (.ofFields fields) r :=
  located_of_optional hlevel asked (fun | .string _ => rfl) h

theorem located_of_optionalBoolean (hlevel : level ≤ 64) (asked : Expects name .boolean)
    (h : optionalBoolean fields branch name = .error r) : Located level (.ofFields fields) r :=
  located_of_optional hlevel asked (fun | .boolean _ => rfl) h

theorem located_of_optionalInteger (hlevel : level ≤ 64) (asked : Expects name .integer)
    (h : optionalInteger fields branch name = .error r) : Located level (.ofFields fields) r := by
  refine located_of_optional hlevel asked (fun {v} hv => ?_) h
  cases hv with
  | integer hn => rw [integer?_eq_some_iff.2 hn, Option.isSome_some]

/-- **The entry of a field that holds strings** is refused for being no
string. -/
theorem located_of_strings (object : Json.Fields Json) (hlevel : level ≤ 64)
    (asked : Expects name .strings ∨ Expects name .stringOrStrings)
    (hobject : fields.get? name = some (.ofFields object))
    (h : strings branch name object = .error r) : Located level (.ofFields fields) r := by
  unfold strings at h
  split at h
  case h_2 => exact nomatch h
  case h_1 i hi =>
    cases h
    have hnone := List.find?_some hi
    refine ⟨⟨object.value i, ?_, .wrongEntry [] .nil asked ?_⟩, ?_⟩
    · rw [Json.at?_cons, show Json.step? (.ofFields fields) (.field name) = _ from hobject,
        Option.bind_some, Json.at?_cons,
        show Json.step? (.ofFields object) (.field (object.keys.name i)) = some (object.value i)
          from object.get?_name i]
      rfl
    · intro hmeets
      generalize object.value i = v at hmeets hnone
      cases hmeets with
      | string s => exact Bool.false_ne_true hnone
    · simp only [List.length_cons, List.length_nil]
      omega

theorem located_of_optionalStrings (hlevel : level ≤ 64) (asked : Expects name .strings)
    (h : optionalStrings fields branch name = .error r) :
    Located level (.ofFields fields) r := by
  unfold optionalStrings at h
  split at h
  case h_1 => exact nomatch h
  case h_2 keys value hobject =>
    exact located_of_strings ⟨keys, value⟩ hlevel (.inl asked) hobject
      (map_eq_error_iff.1 h)
  case h_3 v hother hv =>
    cases h
    refine located_wrongType hlevel asked hv (fun hmeets => ?_)
    cases hmeets with
    | strings hstrings =>
      obtain ⟨keys, text⟩ := hstrings
      exact hother keys _ rfl

theorem located_of_optionalPosts (hlevel : level ≤ 64)
    (h : optionalPosts fields = .error r) : Located level (.ofFields fields) r := by
  unfold optionalPosts at h
  split at h
  case h_1 => exact nomatch h
  case h_2 => exact nomatch h
  case h_3 keys value hobject =>
    exact located_of_strings ⟨keys, value⟩ hlevel (.inr .posts) hobject
      (map_eq_error_iff.1 h)
  case h_4 v hstring hobject hv =>
    cases h
    refine located_wrongType hlevel .posts hv (fun hmeets => ?_)
    cases hmeets with
    | stringOrStrings hposts =>
      cases hposts with
      | raw body => exact hstring body rfl
      | form hstrings =>
        obtain ⟨keys, text⟩ := hstrings
        exact hobject keys _ rfl

theorem located_of_optionalMethod (hlevel : level ≤ 64)
    (h : optionalMethod fields = .error r) : Located level (.ofFields fields) r := by
  unfold optionalMethod at h
  rcases bind_eq_error_iff.1 h with h | ⟨o, ho, h⟩
  · exact located_of_optionalString hlevel .method h
  · rw [optionalString_eq_ok_iff] at ho
    generalize hfield : fields.get? "method" = field at ho
    cases ho with
    | none => exact nomatch h
    | some hword =>
      obtain ⟨word⟩ := hword
      dsimp only at h
      split at h
      case h_1 => exact nomatch h
      case h_2 hnone =>
        cases h
        refine located_atField hlevel hfield (.invalidMethod [] .nil (fun m hm => ?_))
        rw [ofWord?_eq_some_iff_isMethod.2 hm] at hnone
        exact nomatch hnone

/-- **Free-form data** is refused for being no object, or for its depth. -/
theorem located_of_metadata (hlevel : level ≤ 64)
    (h : metadata fields branch (level + 1) = .error r) : Located level (.ofFields fields) r := by
  unfold metadata at h
  split at h
  case h_1 => exact nomatch h
  case h_2 keys value hobject =>
    obtain ⟨hdeep, rfl⟩ := checkLevels_eq_error_iff.1 (map_eq_error_iff.1 h)
    exact located_atField hlevel hobject (.metadataTooDeep [] .nil hdeep)
  case h_3 v hother hv =>
    cases h
    refine located_wrongType hlevel .metadata hv (fun hmeets => ?_)
    cases hmeets with
    | object value => exact hother _ value rfl

/-! ## Steps -/

/-- What a step must have of its own, when it is missing. -/
theorem missing_iff {α : Type} {o : Option α} {inherits : Bool} :
    (o.isNone && !inherits) = true ↔ o = none ∧ inherits = false := by
  cases o <;> cases inherits <;> simp

theorem eq_none_of_rel {α β : Type} {written : α → β → Prop} {x : Option α}
    (h : Option.Rel written x none) : x = none := by
  cases h
  rfl

theorem located_of_loading {inherits : Bool} (hlevel : level ≤ 64)
    (hloads : ∃ name ∈ fields.keys.names, LoadField name)
    (hinherits : inherits = (fields.get? "extends").isSome)
    (h : loading fields inherits = .error r) : Located level (.ofFields fields) r := by
  unfold loading at h
  simp only [throw_eq, pure_eq, error_bind, bind_eq_error_iff, demand_eq_error_iff,
    optionalString_eq_ok_iff, missing_iff, reduceCtorEq, and_false, exists_false, or_false] at h
  rcases h with h | ⟨target, htarget, ⟨⟨rfl, hfalse⟩, rfl⟩ | ⟨-, h⟩⟩
  · exact located_of_optionalString hlevel .target h
  · refine located_here hlevel (.missingLoad .nil hloads ?_ ?_)
    · exact Json.Fields.get?_eq_none_iff.1 (eq_none_of_rel htarget)
    · rw [hfalse, eq_comm, Option.isSome_eq_false_iff, Option.isNone_iff_eq_none] at hinherits
      exact Json.Fields.get?_eq_none_iff.1 hinherits
  · rcases h with h | ⟨-, -, h | ⟨-, -, h | ⟨-, -, h⟩⟩⟩
    · exact located_of_optionalMethod hlevel h
    · exact located_of_optionalPosts hlevel h
    · exact located_of_optionalStrings hlevel .headers h
    · exact located_of_optionalStrings hlevel .cookies h

/-- The names of a match and of the ends of a range are there when they are
read. -/
theorem mem_names_of_rel {α : Type} {written : Json → α → Prop} {o : Option α}
    (h : Option.Rel written (fields.get? name) o) (hsome : o.isSome) :
    name ∈ fields.keys.names := by
  rw [isSome_of_rel h] at hsome
  exact Json.Fields.isSome_get?_iff.1 hsome

theorem located_of_finding {inherits : Bool} (hlevel : level ≤ 64)
    (hfinds : inherits = false → ∃ name ∈ fields.keys.names, FindField name)
    (hinherits : inherits = (fields.get? "extends").isSome)
    (h : finding fields inherits = .error r) : Located level (.ofFields fields) r := by
  unfold finding at h
  simp only [throw_eq, pure_eq, error_bind, bind_eq_error_iff, demand_eq_error_iff,
    optionalString_eq_ok_iff, optionalInteger_eq_ok_iff, missing_iff, reduceCtorEq, and_false,
    exists_false, or_false] at h
  rcases h with h | ⟨pattern, hpattern, ⟨⟨rfl, hfalse⟩, rfl⟩ | ⟨-, h⟩⟩
  · exact located_of_optionalString hlevel .pattern h
  · refine located_here hlevel (.missingFind .nil (hfinds hfalse) ?_ ?_)
    · exact Json.Fields.get?_eq_none_iff.1 (eq_none_of_rel hpattern)
    · rw [hfalse, eq_comm, Option.isSome_eq_false_iff, Option.isNone_iff_eq_none] at hinherits
      exact Json.Fields.get?_eq_none_iff.1 hinherits
  · rcases h with h | ⟨matchIndex, hmatch, h | ⟨min, hmin, h | ⟨max, hmax, h⟩⟩⟩
    · exact located_of_optionalInteger hlevel .matchIndex h
    · exact located_of_optionalInteger hlevel .min h
    · exact located_of_optionalInteger hlevel .max h
    rcases h with ⟨hboth, rfl⟩ | ⟨-, h⟩
    · rw [Bool.and_eq_true, Bool.or_eq_true] at hboth
      exact located_here hlevel (.matchWithRange .nil (mem_names_of_rel hmatch hboth.1)
        (hboth.2.imp (mem_names_of_rel hmin) (mem_names_of_rel hmax)))
    · rcases h with h | ⟨-, -, h | ⟨-, -, h | ⟨-, -, h⟩⟩⟩
      · exact located_of_optionalBoolean hlevel .caseInsensitive h
      · exact located_of_optionalBoolean hlevel .multiline h
      · exact located_of_optionalBoolean hlevel .dotMatchesAll h
      · exact located_of_optionalString hlevel .replace h

theorem located_of_notes (hlevel : level ≤ 64) (h : notes fields branch level = .error r) :
    Located level (.ofFields fields) r := by
  unfold notes at h
  simp only [pure_eq, bind_eq_error_iff, reduceCtorEq, and_false, exists_false, or_false] at h
  rcases h with h | ⟨-, -, h | ⟨-, -, h⟩⟩
  · exact located_of_optionalString hlevel .name h
  · exact located_of_optionalString hlevel .description h
  · exact located_of_metadata hlevel h

/-- **What a step does** is refused for its fields, or for having none that
tell. -/
theorem located_of_action (hlevel : level ≤ 64)
    (hknown : ∀ name ∈ fields.keys.names,
      CommonField name ∨ LoadField name ∨ FindField name)
    (h : action fields (fields.get? "extends").isSome = .error r) :
    Located level (.ofFields fields) r := by
  unfold action at h
  split at h
  case isTrue hloads =>
    rw [hasAny_loadFields_iff] at hloads
    simp only [pure_eq, bind_eq_error_iff, reduceCtorEq, and_false, exists_false, or_false] at h
    exact located_of_loading hlevel hloads rfl h
  case isFalse hloads =>
    rw [hasAny_loadFields_iff] at hloads
    split at h
    case isTrue hfinds =>
      simp only [pure_eq, bind_eq_error_iff, reduceCtorEq, and_false, exists_false,
        or_false] at h
      refine located_of_finding hlevel (fun hfalse => ?_) rfl h
      rw [hfalse, Bool.or_false] at hfinds
      exact hasAny_findFields_iff.1 hfinds
    case isFalse hneither =>
      cases h
      rw [Bool.or_eq_true, not_or, hasAny_findFields_iff, Json.Fields.isSome_get?_iff]
        at hneither
      refine located_here hlevel (.missingTarget .nil (fun name hname => ?_) hneither.2)
      -- the fields are known, and two of three groups are not there
      rcases hknown name hname with hcommon | hload | hfind
      · exact hcommon
      · exact absurd ⟨name, hname, hload⟩ hloads
      · exact absurd ⟨name, hname, hfind⟩ hneither.1

/-- **A step is refused for what is the case**, if what it leads to is. -/
theorem located_of_step {p : Place} {next base : Except Rejection (Option Instruction)}
    (hlevel : level ≤ 64)
    (hnext : ∀ r, next = .error r → Located level (.ofFields fields) r)
    (hbase : ∀ r, base = .error r → Located level (.ofFields fields) r)
    (hbase' : ∀ b, base = .ok b → b.isSome = (fields.get? "extends").isSome)
    (h : (step level fields next base : Except Rejection (InstructionAt p)) = .error r) :
    Located level (.ofFields fields) r := by
  unfold step at h
  dsimp only at h
  split at h
  case isTrue hboth =>
    cases h
    rw [Bool.and_eq_true, hasAny_loadFields_iff, hasAny_findFields_iff] at hboth
    exact located_here hlevel (.ambiguousStep .nil hboth.1 hboth.2)
  case isFalse =>
    cases hunknown : unknown? fields with
    | some name =>
      rw [hunknown] at h
      cases h
      have hmem := List.mem_of_find?_eq_some hunknown
      have hfield := List.find?_some hunknown
      rw [Bool.not_eq_true', Bool.or_eq_false_iff, Bool.or_eq_false_iff] at hfield
      refine located_here hlevel (.unknownField .nil hmem ?_)
      rw [← mem_commonFields_iff, ← mem_loadFields_iff, ← mem_findFields_iff]
      simpa [and_assoc] using hfield
    | none =>
      rw [hunknown] at h
      simp only [pure_eq, bind_eq_error_iff, reduceCtorEq, and_false, exists_false,
        or_false] at h
      -- the checks come in this order, and the first that fails decides
      rcases h with h | ⟨-, -, h | ⟨b, hb, h | ⟨-, -, h⟩⟩⟩
      · exact hnext r h
      · exact hbase r h
      · exact located_of_notes hlevel h
      · rw [hbase' b hb] at h
        exact located_of_action hlevel (unknown?_eq_none_iff.1 hunknown) h

/-! ## Instructions -/

/-- An instruction that a step leads to is refused for what is the case. -/
theorem located_of_linked {keys : Json.Keys} {value : Fin keys.size → Json}
    {read : Fin keys.size → Except Rejection Instruction} (hleads : LeadsOn (.field name))
    (hread : ∀ i r, read i = .error r → Located (level + 1) (value i) r)
    (h : linked keys read name = .error r) : Located level (.object keys value) r := by
  unfold linked at h
  split at h
  case h_1 => exact nomatch h
  case h_2 i hi =>
    rw [map_eq_error_iff, mapError_eq_error_iff] at h
    obtain ⟨r, hr, rfl⟩ := h
    refine (hread i r hr).under hleads ?_
    show (keys.find? name).map value = some (value i)
    rw [hi, Option.map_some]

/-- The first of several computations that fails decides. -/
theorem exists_of_collect_eq_error {ε α : Type} {n : Nat} {f : Fin n → Except ε α} {e : ε}
    (h : collect f = .error e) : ∃ i, f i = .error e := by
  induction n with
  | zero => cases h
  | succ n ih =>
    rw [collect] at h
    split at h
    case h_1 e' hfirst =>
      cases h
      exact ⟨0, hfirst⟩
    case h_2 =>
      split at h
      case h_1 e' hrest =>
        cases h
        obtain ⟨i, hi⟩ := ih hrest
        exact ⟨i.succ, hi⟩
      case h_2 => cases h

/-- **The refusal of an array among the items of a sequence**, as the reader of
the item sees it. It does not know yet what is around the item. -/
def IsNested (p : Place) (v : Json) (r : Rejection) : Prop :=
  p = .inSequence ∧ (∃ size item, v = .array size item) ∧ r.defect = .nestedSequence ∧ r.path = []

/-- One level below the last, everything is refused for its level. -/
theorem located_of_read_tooDeep {p : Place} {v : Json} (hle : level ≤ 65)
    (hlevel : ¬level ≤ maxLevel) (h : read p level v = .error r) : Located level v r := by
  rw [read_of_tooDeep (Nat.lt_of_not_le hlevel)] at h
  cases h
  obtain rfl : level = 65 := Nat.le_antisymm hle (Nat.lt_of_not_le hlevel)
  exact ⟨⟨v, rfl, .instructionTooDeep .nil rfl⟩, Nat.le_succ 65⟩

/-- A value that is no string, array or object is refused for its kind. -/
theorem located_of_read_otherAtom {p : Place} {v : Json} (hv : IsOtherAtom v) (hle : level ≤ 65)
    (h : read p level v = .error r) : Located level v r := by
  by_cases hlevel : level ≤ maxLevel
  · rw [read_otherAtom hlevel hv] at h
    cases h
    refine located_here hlevel (.notAnInstruction .nil ?_)
    cases hv <;> constructor
  · exact located_of_read_tooDeep hle hlevel h

/-- An item of a sequence is refused for what is the case, seen from the
sequence. -/
theorem located_of_item {size : Nat} {item : Fin size → Json} {i : Fin size}
    (hlevel : level ≤ 64)
    (h : Located (level + 1) (item i) r ∨ IsNested .inSequence (item i) r) :
    Located level (.array size item) (r.under (.index i)) := by
  have hstep : Json.step? (.array size item) (.index i) = some (item i) := dif_pos i.isLt
  rcases h with h | ⟨-, ⟨size', item', harray⟩, hdefect, hpath⟩
  · exact h.under (.item i) hstep
  · refine ⟨⟨item i, ?_, ?_⟩, ?_⟩
    · rw [Rejection.under_path, hpath, Json.at?_cons, hstep]
      rfl
    · rw [Rejection.under_path, Rejection.under_defect, hdefect, hpath, harray]
      exact .nestedSequence [] .nil (Json.at?_nil _)
    · rw [Rejection.under_path, hpath, List.length_singleton]
      omega

/-- **Reading refuses for what is the case**, at every place and at every level
that an instruction inside the levels leads to. -/
theorem located_of_read (v : Json) : ∀ {p : Place} {level : Nat} {r : Rejection}, level ≤ 65 →
    read p level v = .error r → Located level v r ∨ IsNested p v r := by
  induction v with
  | string s =>
    intro p level r hle h
    by_cases hlevel : level ≤ maxLevel
    · rw [read_string hlevel] at h
      exact nomatch h
    · exact .inl (located_of_read_tooDeep hle hlevel h)
  | array size item ih =>
    intro p level r hle h
    by_cases hlevel : level ≤ maxLevel
    · cases p with
      | inSequence =>
        rw [read_array_inSequence hlevel] at h
        -- only what stands around it shows that it is nested
        cases h
        exact .inr ⟨rfl, ⟨size, item, rfl⟩, rfl, rfl⟩
      | alone =>
        rw [read_array_alone hlevel, map_eq_error_iff] at h
        obtain ⟨i, hi⟩ := exists_of_collect_eq_error h
        obtain ⟨r, hr, rfl⟩ := mapError_eq_error_iff.1 hi
        exact .inl (located_of_item hlevel (ih i (Nat.succ_le_succ hlevel) hr))
    · exact .inl (located_of_read_tooDeep hle hlevel h)
  | object keys value ih =>
    intro p level r hle h
    by_cases hlevel : level ≤ maxLevel
    · -- an array under a field is a sequence, so nothing is nested there
      have hread (i : Fin keys.size) (r : Rejection)
          (hr : read .alone (level + 1) (value i) = .error r) :
          Located (level + 1) (value i) r :=
        (ih i (Nat.succ_le_succ hlevel) hr).resolve_right fun hnested => nomatch hnested.1
      rw [read_object hlevel] at h
      have hstep : Located level (.ofFields ⟨keys, value⟩) r := by
        refine located_of_step hlevel (fun r => located_of_linked .next hread)
          (fun r => located_of_linked .base hread) (fun b hb => ?_) h
        exact isSome_of_links ((linked_eq_ok_iff fun i _ => read_eq_ok_iff (value i)).1 hb)
      exact .inl hstep
    · exact .inl (located_of_read_tooDeep hle hlevel h)
  | null => exact fun hle h => .inl (located_of_read_otherAtom .null hle h)
  | bool b => exact fun hle h => .inl (located_of_read_otherAtom (.bool b) hle h)
  | number n => exact fun hle h => .inl (located_of_read_otherAtom (.number n) hle h)

theorem located_of_ofJson {v : Json} (h : Instruction.ofJson v = .error r) : Located 0 v r :=
  (located_of_read v (Nat.zero_le 65) h).resolve_right fun hnested => nomatch hnested.1

/-! ## What a save reports -/

/-- A request that fails its check is refused, and nothing is done. -/
theorem save_of_check_eq_error {σ : Type} (c : Database.Connection σ) (history : VersionHistory σ)
    (owner : Account) {request : SaveRequest} {refused : InvalidInput}
    (h : request.check = .error refused) (s : σ) :
    Store.save c history owner request s = (.error (.invalid refused), s) := by
  unfold Store.save Store.prepare
  rw [h]
  rfl

/-- **Every rejection is true.** Its path leads to a part of the value, and is
short however deep the value is; the part has the defect; and a save whose name
and tags are in order reports the text of that part. -/
theorem rejection_is_true {v : Json} {r : Rejection} (h : Instruction.ofJson v = .error r) :
    r.path.length ≤ 66 ∧ ∃ n, v.at? r.path = some n ∧ HasDefect 0 v r.path n r.defect
      ∧ ∀ {σ : Type} (c : Database.Connection σ) (history : VersionHistory σ) (owner : Account)
        (request : SaveRequest) (s : σ), request.instruction = v →
        (Identifier.ofField "name" request.name).isOk →
        (Identifier.normalizeTags request.tags).isOk →
        Store.save c history owner request s
          = (.error (.invalid ⟨"instruction", n.text, .grammar r⟩), s) := by
  have hlocated := located_of_ofJson h
  obtain ⟨n, hn, hdefect⟩ := hlocated.found
  have hshort := hlocated.short
  rw [Nat.zero_add] at hshort
  refine ⟨hshort, n, hn, hdefect, fun c history owner request s hv hname htags => ?_⟩
  subst hv
  obtain ⟨name, hname⟩ := exists_eq_ok_of_isOk hname
  obtain ⟨tags, htags⟩ := exists_eq_ok_of_isOk htags
  refine save_of_check_eq_error c history owner ?_ s
  unfold SaveRequest.check SaveRequest.checkInstruction
  rw [hname, htags, h]
  simp only [ok_bind, error_bind, hn, Option.getD_some]

/-- A step that leads to a sequence, in which a header field is a number. -/
def numberAsHeader : Json :=
  .ofFields (.ofEntries [("find", .string "a"), ("then", .ofList [.string "base",
    .ofFields (.ofEntries [("load", .string "b"), ("headers",
      .ofFields (.ofEntries [("c", .string "d"), ("e", .number (.ofInt64 1))]))])])])

theorem rejection_is_true_numberAsHeader :
    ∃ r, Instruction.ofJson numberAsHeader = .error r
      ∧ r.path = [.field "then", .index 1, .field "headers", .field "e"]
      ∧ r.path.length ≤ 66
      ∧ HasDefect 0 numberAsHeader r.path (.number (.ofInt64 1)) r.defect
      ∧ ∀ (c : Database.Connection Unit) (history : VersionHistory Unit) (owner : Account),
        Store.save c history owner ⟨"a", numberAsHeader, ["b"]⟩ ()
          = (.error (.invalid ⟨"instruction", "1", .grammar r⟩), ()) := by
  have hr : Instruction.ofJson numberAsHeader = .error ⟨.wrongType "headers.e" .string,
      [.field "then", .index 1, .field "headers", .field "e"], .loadStep⟩ := by decide +kernel
  have hat : numberAsHeader.at? [.field "then", .index 1, .field "headers", .field "e"]
      = some (.number (.ofInt64 1)) := by decide +kernel
  obtain ⟨hshort, n, hn, hdefect, hsave⟩ := rejection_is_true hr
  obtain rfl := Option.some.inj (hat.symm.trans hn)
  refine ⟨_, hr, rfl, hshort, hdefect, fun c history owner => ?_⟩
  exact hsave c history owner ⟨"a", numberAsHeader, ["b"]⟩ () rfl (by decide +kernel)
    (by decide +kernel)

end InstructionStore.Grammar
