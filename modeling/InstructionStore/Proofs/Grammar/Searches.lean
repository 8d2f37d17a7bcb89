import InstructionStore.Proofs.Grammar.Levels
import Mathlib.Logic.Relation

/-!
# Looking for what stands too deep

Free-form data is checked with values that wait to be looked at, and the first array or object
that is found too deep ends the check. Which one that is depends on the order in which the
values are taken, and this order is a matter of how they are kept: on top of a stack, at the
end of a list, or in any other way.

Here any value that waits may be the next (`LooksAt`). No such search goes on forever
(`wellFounded_looksAt`), none is stuck before its end (`exists_looksAt_or_stopsAt`), and a look
does not change whether everything that waits stands at an allowed level
(`LooksAt.allWithin_iff`). So all searches end alike, and `Grammar.checkLevels_inAnyOrder` says
how: it is a matter of how deeply the data nests, which is defined by recursion on it.
-/

namespace InstructionStore

namespace Json

/-- **How deeply the values of an object nest**, the object itself not counted. -/
def Fields.nesting (object : Fields Json) : Nat := greatest fun i => (object.value i).depth

/-- The values right inside a value. -/
def parts : Json → List Json
  | .array _ item => List.ofFn item
  | .object _ value => List.ofFn value
  | _ => []

/-- A value is within the levels if it stands at one of them itself, where that matters, and
its parts are one level below. -/
theorem standsWithin_iff_parts {limit level : Nat} {v : Json} :
    StandsWithin limit level v ↔
      (v.depth = 0 ∨ level ≤ limit) ∧ ∀ u ∈ v.parts, StandsWithin limit (level + 1) u := by
  cases v with
  | null => exact ⟨fun _ => ⟨.inl rfl, nofun⟩, fun _ => .null⟩
  | bool b => exact ⟨fun _ => ⟨.inl rfl, nofun⟩, fun _ => .bool⟩
  | number n => exact ⟨fun _ => ⟨.inl rfl, nofun⟩, fun _ => .number⟩
  | string s => exact ⟨fun _ => ⟨.inl rfl, nofun⟩, fun _ => .string⟩
  | array size item =>
    rw [StandsWithin.array_iff, depth, or_iff_right (by omega), parts, List.forall_mem_ofFn_iff]
  | object keys value =>
    rw [StandsWithin.object_iff, depth, or_iff_right (by omega), parts, List.forall_mem_ofFn_iff]

/-- An object is within the levels if its values do not nest below the last of them. -/
theorem standsWithin_ofFields_iff {limit level : Nat} {object : Fields Json} :
    StandsWithin limit level (.ofFields object) ↔ level + object.nesting ≤ limit := by
  rw [standsWithin_iff_depth, ofFields, depth, Fields.nesting]
  omega

end Json

namespace Grammar

open Json (StandsWithin)

variable {limit : Nat} {waiting later : List (Json × Nat)}

/-! ## One look -/

/-- **A look at one of the values that wait**, whichever it is. The value is no array or object,
or it stands at an allowed level; its parts wait instead of it. -/
inductive LooksAt (limit : Nat) (waiting later : List (Json × Nat)) : Prop where
  /-- The value that is looked at, and the others. -/
  | next {v : Json} {level : Nat} {others : List (Json × Nat)}
    (picked : waiting.Perm ((v, level) :: others)) (allowed : v.depth = 0 ∨ level ≤ limit)
    (left : later.Perm (v.parts.map (fun u => (u, level + 1)) ++ others))

/-- **Where a search stops**, and whether everything was within the levels. -/
inductive StopsAt (limit : Nat) : (waiting : List (Json × Nat)) → (within : Bool) → Prop where
  /-- Nothing waits any more. -/
  | done : StopsAt limit [] true
  /-- An array or object that waits stands too deep. -/
  | tooDeep {waiting : List (Json × Nat)} {v : Json} {level : Nat} (waits : (v, level) ∈ waiting)
    (nests : v.depth ≠ 0) (deep : limit < level) : StopsAt limit waiting false

/-- Everything that waits is within the levels. -/
def AllWithin (limit : Nat) (waiting : List (Json × Nat)) : Prop :=
  ∀ e ∈ waiting, StandsWithin limit e.2 e.1

/-- **A look changes nothing about what is to be found.** -/
theorem LooksAt.allWithin_iff (h : LooksAt limit waiting later) :
    AllWithin limit waiting ↔ AllWithin limit later := by
  obtain ⟨picked, allowed, left⟩ := h
  have hwaiting (e : Json × Nat) := picked.mem_iff (a := e)
  have hlater (e : Json × Nat) := left.mem_iff (a := e)
  unfold AllWithin
  simp only [hwaiting, hlater]
  rw [List.forall_mem_cons, List.forall_mem_append, Json.standsWithin_iff_parts,
    List.forall_mem_map, and_iff_right allowed]

theorem pendingNodes_perm (h : waiting.Perm later) : pendingNodes waiting = pendingNodes later := by
  induction h with
  | nil => rfl
  | cons e _ ih => rw [pendingNodes, pendingNodes, ih]
  | swap a b rest => simp only [pendingNodes, Nat.add_left_comm]
  | trans _ _ ih ih' => exact ih.trans ih'

theorem pendingNodes_parts_lt (v : Json) (level : Nat) :
    pendingNodes (v.parts.map fun u => (u, level)) < v.nodes := by
  have hparts {n : Nat} (f : Fin n → Json) :
      pendingNodes ((List.ofFn f).map fun u => (u, level)) = Json.total fun i => (f i).nodes := by
    rw [List.map_ofFn]
    exact pendingNodes_ofFn f level
  cases v with
  | null | bool | number | string => exact Json.nodes_pos _
  | array size item =>
    rw [Json.parts, hparts, Json.nodes]
    omega
  | object keys value =>
    rw [Json.parts, hparts, Json.nodes]
    omega

theorem LooksAt.pendingNodes_lt (h : LooksAt limit waiting later) :
    pendingNodes later < pendingNodes waiting := by
  obtain @⟨v, level, others, picked, -, left⟩ := h
  have := pendingNodes_parts_lt v (level + 1)
  rw [pendingNodes_perm left, pendingNodes_perm picked, pendingNodes_append, pendingNodes]
  omega

/-- **No search goes on forever.** -/
theorem wellFounded_looksAt (limit : Nat) :
    WellFounded fun later waiting => LooksAt limit waiting later :=
  Subrelation.wf (fun h => h.pendingNodes_lt) (measure pendingNodes).wf

/-! ## Searches -/

/-- **As long as something waits a search goes on or stops.** -/
theorem exists_looksAt_or_stopsAt (limit : Nat) (waiting : List (Json × Nat)) :
    (∃ later, LooksAt limit waiting later) ∨ ∃ within, StopsAt limit waiting within := by
  cases waiting with
  | nil => exact .inr ⟨true, .done⟩
  | cons e others =>
    by_cases hallowed : e.1.depth = 0 ∨ e.2 ≤ limit
    · exact .inl ⟨_, .next (.refl _) hallowed (.refl _)⟩
    · rw [not_or, Nat.not_le] at hallowed
      exact .inr ⟨false, .tooDeep List.mem_cons_self hallowed.1 hallowed.2⟩

theorem StopsAt.eq_true_iff {within : Bool} (h : StopsAt limit waiting within) :
    within = true ↔ AllWithin limit waiting := by
  cases h with
  | done => exact iff_of_true rfl fun e he => absurd he List.not_mem_nil
  | tooDeep waits nests deep =>
    refine iff_of_false Bool.false_ne_true fun hall => ?_
    obtain hnone | hle := (Json.standsWithin_iff_parts.1 (hall _ waits)).1
    · exact nests hnone
    · exact absurd hle (Nat.not_le.2 deep)

/-- What a whole search has seen changes nothing either. -/
theorem allWithin_iff_of_search (h : Relation.ReflTransGen (LooksAt limit) waiting later) :
    AllWithin limit waiting ↔ AllWithin limit later := by
  induction h with
  | refl => exact .rfl
  | tail _ hlook ih => exact ih.trans hlook.allWithin_iff

/-- **The levels of free-form data are checked the same in any order.** The data passes exactly
if its level and the nesting below it come to an allowed level; otherwise it is what is
reported, at the path and for the branch that were given. Every search that begins with the
data ends, and ends with the same answer, whichever of the values that wait it takes next. -/
theorem checkLevels_inAnyOrder (path : Path) (branch : Branch) (level : Nat)
    (object : Json.Fields Json) :
    (checkLevels path branch level object = .ok () ↔ level + object.nesting ≤ 64) ∧
    (checkLevels path branch level object = .error ⟨.tooDeep 64, path, branch⟩
      ↔ 64 < level + object.nesting) ∧
    (WellFounded fun later waiting => LooksAt 64 waiting later) ∧
    ∀ waiting, Relation.ReflTransGen (LooksAt 64) [(.ofFields object, level)] waiting →
      ((∃ later, LooksAt 64 waiting later) ∨ ∃ within, StopsAt 64 waiting within) ∧
      ∀ within, StopsAt 64 waiting within →
        checkLevels path branch level object
          = if within then .ok () else .error ⟨.tooDeep 64, path, branch⟩ := by
  have hok : checkLevels path branch level object = .ok () ↔ level + object.nesting ≤ 64 :=
    checkLevels_eq_ok_iff.trans Json.standsWithin_ofFields_iff
  have herror : checkLevels path branch level object = .error ⟨.tooDeep 64, path, branch⟩
      ↔ 64 < level + object.nesting := by
    rw [checkLevels_eq_error_iff, Json.standsWithin_ofFields_iff, Nat.not_le]
    exact and_iff_left rfl
  refine ⟨hok, herror, wellFounded_looksAt 64, fun waiting hsearch =>
    ⟨exists_looksAt_or_stopsAt 64 waiting, fun within hstops => ?_⟩⟩
  have hbegin : AllWithin 64 [(.ofFields object, level)] ↔ level + object.nesting ≤ 64 :=
    List.forall_mem_singleton.trans Json.standsWithin_ofFields_iff
  have hwithin := (hstops.eq_true_iff.trans (allWithin_iff_of_search hsearch).symm).trans hbegin
  cases within with
  | true => exact hok.2 (hwithin.1 rfl)
  | false => exact herror.2 (Nat.not_le.1 fun hle => Bool.false_ne_true (hwithin.2 hle))

/-- An object with an array in an array, and with an array in an object. -/
def nestedTwice : Json.Fields Json :=
  .ofEntries [("a", .ofList [.ofList []]), ("b", .ofFields (.ofEntries [("c", .ofList [])]))]

theorem checkLevels_inAnyOrder_nestedTwice :
    let inArray : Json := .ofList [.ofList []]
    let inObject : Json := .ofFields (.ofEntries [("c", .ofList [])])
    Relation.ReflTransGen (LooksAt 64) [(.ofFields nestedTwice, 63)]
        [(.ofList [], 65), (inObject, 64)]
      ∧ Relation.ReflTransGen (LooksAt 64) [(.ofFields nestedTwice, 63)]
        [(.ofList [], 65), (inArray, 64)]
      ∧ StopsAt 64 [(.ofList [], 65), (inObject, 64)] false
      ∧ StopsAt 64 [(.ofList [], 65), (inArray, 64)] false
      ∧ checkLevels [.field "metadata"] .loadStep 63 nestedTwice
        = .error ⟨.tooDeep 64, [.field "metadata"], .loadStep⟩ := by
  intro inArray inObject
  have hbegin : LooksAt 64 [(.ofFields nestedTwice, 63)] [(inArray, 64), (inObject, 64)] :=
    .next (.refl _) (.inr (by decide)) (.of_eq (by decide +kernel))
  have harray : LooksAt 64 [(inArray, 64), (inObject, 64)] [(.ofList [], 65), (inObject, 64)] :=
    .next (.refl _) (.inr (by decide)) (.of_eq (by decide +kernel))
  have hobject : LooksAt 64 [(inArray, 64), (inObject, 64)] [(.ofList [], 65), (inArray, 64)] :=
    .next (.swap _ _ _) (.inr (by decide)) (.of_eq (by decide +kernel))
  have hstops (other : Json × Nat) : StopsAt 64 [(.ofList [], 65), other] false :=
    .tooDeep List.mem_cons_self (by decide +kernel) (by decide)
  have hsearch := Relation.ReflTransGen.tail (.single hbegin) harray
  refine ⟨hsearch, .tail (.single hbegin) hobject, hstops _, hstops _, ?_⟩
  obtain ⟨-, -, -, hends⟩ :=
    checkLevels_inAnyOrder [.field "metadata"] .loadStep 63 nestedTwice
  exact (hends _ hsearch).2 false (hstops _)

end Grammar

end InstructionStore
