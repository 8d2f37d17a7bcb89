import InstructionStore.Proofs.Grammar.Rejections
import InstructionStore.Proofs.Lists
import InstructionStore.Proofs.Text.Numeral

/-!
# The text of a path names one place

A path is shown with the names in it as they are, and a name may hold points and brackets. So
the text of a path does not determine the path: the field `a.b` is shown like the field `b` of
the field `a`.

The path of a rejection is determined all the same, because **a name that is free to choose
stands only at the end**, and only after the name of a field that holds such names
(`IsReported`). Every other name in it is one the grammar has, and those have neither points nor
brackets. A text is therefore read from its beginning: a name of the grammar ends where the next
step begins, and it tells whether what follows it is a place again, nothing more, or one name of
any kind.
-/

namespace InstructionStore

open Text (decimal)

/-! ## Texts as lists of characters -/

/-- The characters of what follows the whole value in the text of a path. -/
def Path.body (path : Path) : List Char := path.flatMap fun segment => segment.text.toList

namespace Path

variable {path : Path}

theorem toList_text (path : Path) : path.text.toList = '$' :: body path := by
  have hfold (text : String) : (path.foldl (fun text segment => text ++ segment.text) text).toList
      = text.toList ++ body path := by
    induction path generalizing text with
    | nil => exact (List.append_nil _).symm
    | cons segment path ih =>
      rw [List.foldl_cons, ih, String.toList_append, List.append_assoc]
      rfl
  exact hfold "$"

theorem body_field (name : String) (path : Path) :
    body (.field name :: path) = '.' :: (name.toList ++ body path) := by
  rw [body, List.flatMap_cons, Segment.text, String.toList_append]
  rfl

theorem body_index (i : Nat) (path : Path) :
    body (.index i :: path) = '[' :: (decimal i ++ ']' :: body path) := by
  have htext : (Segment.index i).text.toList = '[' :: (decimal i ++ [']']) := by
    simp [Segment.text, Text.natural]
  rw [body, List.flatMap_cons, htext, List.cons_append, List.append_assoc]
  rfl

/-- Nothing but the empty path has no text of its own. -/
theorem body_eq_nil_iff : body path = [] ↔ path = [] := by
  refine ⟨fun h => ?_, fun h => h ▸ rfl⟩
  cases path with
  | nil => rfl
  | cons segment path =>
    cases segment with
    | field name => exact nomatch (body_field name path).symm.trans h
    | index i => exact nomatch (body_index i path).symm.trans h

end Path

/-! ## Names of the grammar -/

namespace Grammar

open InstructionStore.Path

/-- **A name that ends where a step of a path begins**: it has neither a point nor an opening
bracket. -/
def IsPlain (name : String) : Prop := ∀ c ∈ name.toList, (c != '.' && c != '[') = true

instance : DecidablePred IsPlain := fun name => List.decidableBAll _ name.toList

theorem isPlain_of_expects {name : String} {expected : Expectation} (h : Expects name expected) :
    IsPlain name := by
  cases h <;> decide

theorem isPlain_of_leadsOn {name : String} (h : LeadsOn (.field name)) : IsPlain name := by
  cases h <;> decide

/-- What a step has to hold is no instruction. -/
theorem not_leadsOn_of_expects {name : String} {expected : Expectation}
    (h : Expects name expected) : ¬LeadsOn (.field name) := by
  rw [leadsOn_field_iff]
  cases h <;> decide

/-- A plain name is what a path's text begins with, up to the next step. -/
theorem takeWhile_of_isPlain {name : String} (h : IsPlain name) (path : Path) :
    (name.toList ++ body path).takeWhile (fun c => c != '.' && c != '[') = name.toList := by
  have hend : (body path).takeWhile (fun c => c != '.' && c != '[') = [] := by
    cases path with
    | nil => rfl
    | cons segment path =>
      cases segment with
      | field name => rw [body_field]; rfl
      | index i => rw [body_index]; rfl
  rw [List.takeWhile_append_of_pos h, hend, List.append_nil]

/-! ## The paths that are reported -/

/-- **The paths of rejections.** -/
inductive IsReported : Path → Prop where
  /-- To the whole value. -/
  | whole : IsReported []
  /-- Into a field that has to hold something. -/
  | field {name : String} {expected : Expectation} (asked : Expects name expected) :
    IsReported [.field name]
  /-- Into a field that holds strings under names, and to one of them. The name is any. -/
  | entry {name : String} {expected : Expectation} (asked : Expects name expected)
    (key : String) : IsReported [.field name, .field key]
  /-- Further in, from an instruction to one inside it. -/
  | inside {segment : Segment} {path : Path} (leads : LeadsOn segment)
    (rest : IsReported path) : IsReported (segment :: path)

theorem IsReported.append {outer path : Path} (h : IsReported path) (inside : LeadsInside outer) :
    IsReported (outer ++ path) := by
  induction outer with
  | nil => exact h
  | cons segment outer ih =>
    rw [LeadsInside, List.forall_mem_cons] at inside
    exact .inside inside.1 (ih inside.2)

theorem isReported_of_leadsInside {path : Path} (inside : LeadsInside path) : IsReported path :=
  List.append_nil path ▸ IsReported.whole.append inside

/-- **The path of every defect is reported.** -/
theorem isReported_of_hasDefect {level : Nat} {v n : Json} {path : Path} {d : Defect}
    (h : HasDefect level v path n d) : IsReported path := by
  cases h with
  | notAnInstruction inside | unknownField inside | ambiguousStep inside | missingTarget inside
  | missingLoad inside | missingFind inside | matchWithRange inside
  | instructionTooDeep inside => exact isReported_of_leadsInside inside
  | nestedSequence _ inside => exact (IsReported.inside (.item _) .whole).append inside
  | wrongField _ inside asked => exact (IsReported.field asked).append inside
  | wrongEntry _ inside asked =>
    rcases asked with asked | asked <;> exact (IsReported.entry asked _).append inside
  | invalidMethod _ inside => exact (IsReported.field .method).append inside
  | metadataTooDeep _ inside => exact (IsReported.field .metadata).append inside

theorem isReported_of_ofJson {v : Json} {r : Rejection} (h : Instruction.ofJson v = .error r) :
    IsReported r.path := by
  obtain ⟨n, -, hdefect⟩ := (located_of_ofJson h).found
  exact isReported_of_hasDefect hdefect

/-! ## Reading a text from its beginning -/

namespace IsReported

variable {p q : Path} {s t : Segment} {name : String} {expected : Expectation}

theorem isPlain (h : IsReported (.field name :: p)) : IsPlain name := by
  cases h with
  | field asked => exact isPlain_of_expects asked
  | entry asked => exact isPlain_of_expects asked
  | inside leads => exact isPlain_of_leadsOn leads

/-- After a field that has to hold something there is nothing more, or one name. -/
theorem tail_of_expects (h : IsReported (.field name :: p)) (asked : Expects name expected) :
    p = [] ∨ ∃ key, p = [.field key] := by
  cases h with
  | field => exact .inl rfl
  | entry _ key => exact .inr ⟨key, rfl⟩
  | inside leads => exact absurd leads (not_leadsOn_of_expects asked)

/-- After a step that leads on there is a reported path again. -/
theorem tail_of_leadsOn (h : IsReported (s :: p)) (leads : LeadsOn s) : IsReported p := by
  cases h with
  | field asked => exact absurd leads (not_leadsOn_of_expects asked)
  | entry asked => exact absurd leads (not_leadsOn_of_expects asked)
  | inside _ rest => exact rest

/-- **The first step of a reported path can be told from its text**, and so can the text of the
rest. -/
theorem head_inj (hp : IsReported (s :: p)) (hq : IsReported (t :: q))
    (h : body (s :: p) = body (t :: q)) : s = t ∧ body p = body q := by
  cases s with
  | field m =>
    cases t with
    | field n =>
      rw [body_field, body_field, List.cons_eq_cons] at h
      have hname : m.toList = n.toList := by
        rw [← takeWhile_of_isPlain hp.isPlain p, h.2, takeWhile_of_isPlain hq.isPlain q]
      refine ⟨congrArg _ (String.toList_inj.1 hname), ?_⟩
      rw [hname] at h
      exact List.append_cancel_left h.2
    | index j =>
      rw [body_field, body_index] at h
      exact nomatch h
  | index i =>
    cases t with
    | field n =>
      rw [body_index, body_field] at h
      exact nomatch h
    | index j =>
      rw [body_index, body_index, List.cons_eq_cons] at h
      have hend (i : Nat) : ']' ∉ decimal i := fun hmem =>
        absurd (Text.isDigit_of_mem_decimal hmem) (by decide)
      obtain ⟨hdigits, hrest⟩ := append_cons_inj (hend i) (hend j) h.2
      have hij : i = j := by
        rw [← Text.ofDigitChars_decimal i, hdigits, Text.ofDigitChars_decimal]
      exact ⟨congrArg _ hij, hrest⟩

/-- **Reported paths with the same text are the same.** The first step is told from the text; it
tells what kind of path the rest is. -/
theorem eq_of_body_eq (hp : IsReported p) (hq : IsReported q) (h : body p = body q) : p = q := by
  induction hp generalizing q with
  | whole => exact (body_eq_nil_iff.1 h.symm).symm
  | field asked =>
    cases q with
    | nil => exact body_eq_nil_iff.1 h
    | cons t q =>
      obtain ⟨rfl, hrest⟩ := head_inj (.field asked) hq h
      rw [body_eq_nil_iff.1 hrest.symm]
  | entry asked key =>
    cases q with
    | nil => exact body_eq_nil_iff.1 h
    | cons t q =>
      obtain ⟨rfl, hrest⟩ := head_inj (.entry asked key) hq h
      rcases hq.tail_of_expects asked with rfl | ⟨key', rfl⟩
      · exact absurd (body_eq_nil_iff.1 hrest) nofun
      · -- both names reach to the end of the text
        rw [body_field, body_field, List.cons_eq_cons] at hrest
        rw [String.toList_inj.1 (List.append_cancel_right hrest.2)]
  | inside leads rest ih =>
    cases q with
    | nil => exact body_eq_nil_iff.1 h
    | cons t q =>
      obtain ⟨rfl, hrest⟩ := head_inj (.inside leads rest) hq h
      rw [ih (hq.tail_of_leadsOn leads) hrest]

end IsReported

/-- **The text of a rejection's path names one place.** Two rejections whose paths are shown
alike are at the same path, whatever the names of the header fields, cookies and form fields in
them are. -/
theorem path_eq_of_text_eq {v w : Json} {r s : Rejection} (hr : Instruction.ofJson v = .error r)
    (hs : Instruction.ofJson w = .error s) (h : r.path.text = s.path.text) : r.path = s.path := by
  have hbody := congrArg String.toList h
  rw [toList_text, toList_text, List.cons_eq_cons] at hbody
  exact (isReported_of_ofJson hr).eq_of_body_eq (isReported_of_ofJson hs) hbody.2

/-- A step that loads with a header field whose name looks like three steps of a path. -/
def deceptiveHeader (value : Json) : Json :=
  .ofFields (.ofEntries [("load", .string "a"),
    ("headers", .ofFields (.ofEntries [(".then[1]", value)]))])

theorem path_eq_of_text_eq_deceptiveHeader :
    ∃ r s, Instruction.ofJson (deceptiveHeader .null) = .error r
      ∧ Instruction.ofJson (deceptiveHeader (.bool true)) = .error s
      ∧ r.path.text = "$.headers..then[1]" ∧ r.path = s.path := by
  have hread (v : Json) (hv : v = .null ∨ v = .bool true) :
      Instruction.ofJson (deceptiveHeader v) = .error ⟨.wrongType "headers..then[1]" .string,
        [.field "headers", .field ".then[1]"], .loadStep⟩ := by
    rcases hv with rfl | rfl <;> decide +kernel
  have hnull := hread _ (.inl rfl)
  have htrue := hread _ (.inr rfl)
  exact ⟨_, _, hnull, htrue, by decide +kernel, path_eq_of_text_eq hnull htrue rfl⟩

/-- Other paths can be shown alike. -/
example : Path.text [.field "headers", .field "a.b"]
    = Path.text [.field "headers", .field "a", .field "b"] := by decide +kernel

end Grammar

end InstructionStore
