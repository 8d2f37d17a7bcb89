import InstructionStore.Instruction.Grammar
import Mathlib.Data.List.OfFn

/-!
# The levels of free-form data

Free-form data shares the levels of the instructions around it: every array and
object of it stands one level below the one it is in, and none may stand below
the last level. `StandsWithin` says so by recursion on the value.

The grammar checks the same with a stack of values that wait
(`Grammar.staysWithin`), and `staysWithin_iff` says that the order in which
they wait does not matter. `standsWithin_iff_depth` measures it by the depth of
the value instead.
-/

namespace InstructionStore

namespace Json

theorem foldl_max_le_iff {xs : List Nat} {a n : Nat} :
    xs.foldl max a ≤ n ↔ a ≤ n ∧ ∀ x ∈ xs, x ≤ n := by
  induction xs generalizing a with
  | nil => simp
  | cons x xs ih =>
    rw [List.foldl_cons, ih, List.forall_mem_cons, Nat.max_le, and_assoc]

/-- The greatest of several numbers is bounded when each is. -/
theorem greatest_le_iff {m n : Nat} {f : Fin m → Nat} : greatest f ≤ n ↔ ∀ i, f i ≤ n := by
  unfold greatest
  rw [foldl_max_le_iff]
  simp [List.mem_ofFn]

/-- **Everything inside a value stands at an allowed level**, given the level of
the value itself. Only arrays and objects count. -/
inductive StandsWithin (limit : Nat) : (level : Nat) → Json → Prop where
  /-- The value `null` stands anywhere. -/
  | null {level : Nat} : StandsWithin limit level .null
  /-- A truth value stands anywhere. -/
  | bool {level : Nat} {b : Bool} : StandsWithin limit level (.bool b)
  /-- A number stands anywhere. -/
  | number {level : Nat} {n : Number} : StandsWithin limit level (.number n)
  /-- A string stands anywhere. -/
  | string {level : Nat} {s : String} : StandsWithin limit level (.string s)
  /-- An array stands at an allowed level, and its items one below. -/
  | array {level size : Nat} {item : Fin size → Json} (here : level ≤ limit)
    (inside : ∀ i, StandsWithin limit (level + 1) (item i)) :
    StandsWithin limit level (.array size item)
  /-- An object stands at an allowed level, and its values one below. -/
  | object {level : Nat} {keys : Keys} {value : Fin keys.size → Json} (here : level ≤ limit)
    (inside : ∀ i, StandsWithin limit (level + 1) (value i)) :
    StandsWithin limit level (.object keys value)

namespace StandsWithin

variable {limit level : Nat}

theorem array_iff {size : Nat} {item : Fin size → Json} :
    StandsWithin limit level (.array size item)
      ↔ level ≤ limit ∧ ∀ i, StandsWithin limit (level + 1) (item i) :=
  ⟨fun | .array here inside => ⟨here, inside⟩, fun h => .array h.1 h.2⟩

theorem object_iff {keys : Keys} {value : Fin keys.size → Json} :
    StandsWithin limit level (.object keys value)
      ↔ level ≤ limit ∧ ∀ i, StandsWithin limit (level + 1) (value i) :=
  ⟨fun | .object here inside => ⟨here, inside⟩, fun h => .object h.1 h.2⟩

end StandsWithin

theorem depth_bound_iff {n limit level : Nat} {f : Fin n → Nat} :
    level + (1 + greatest f) ≤ limit + 1
      ↔ level ≤ limit ∧ ∀ i, f i = 0 ∨ level + 1 + f i ≤ limit + 1 := by
  have hle : level + (1 + greatest f) ≤ limit + 1
      ↔ level ≤ limit ∧ greatest f ≤ limit - level := by omega
  rw [hle, greatest_le_iff]
  refine and_congr_right (fun h => forall_congr' (fun i => ?_))
  omega

/-- **The deepest level in use is that of the value and its depth.** A value
without arrays and objects uses none. -/
theorem standsWithin_iff_depth {limit : Nat} (v : Json) :
    ∀ {level : Nat}, StandsWithin limit level v ↔ v.depth = 0 ∨ level + v.depth ≤ limit + 1 := by
  induction v with
  | null => exact fun {_} => ⟨fun _ => .inl rfl, fun _ => .null⟩
  | bool b => exact fun {_} => ⟨fun _ => .inl rfl, fun _ => .bool⟩
  | number n => exact fun {_} => ⟨fun _ => .inl rfl, fun _ => .number⟩
  | string s => exact fun {_} => ⟨fun _ => .inl rfl, fun _ => .string⟩
  | array size item ih =>
    intro level
    rw [StandsWithin.array_iff, depth, or_iff_right (by omega), depth_bound_iff]
    simp only [ih]
  | object keys value ih =>
    intro level
    rw [StandsWithin.object_iff, depth, or_iff_right (by omega), depth_bound_iff]
    simp only [ih]

end Json

namespace Grammar

open Json (StandsWithin)

/-- **Values that wait are within their levels exactly when each of them is.** -/
theorem staysWithin_iff {limit : Nat} {pending : List (Json × Nat)} :
    staysWithin limit pending = true ↔ ∀ e ∈ pending, StandsWithin limit e.2 e.1 := by
  fun_induction staysWithin limit pending with
  | case1 => simp
  | case2 size item level pending ih =>
    simp only [Bool.and_eq_true, decide_eq_true_eq, ih, List.forall_mem_append,
      List.forall_mem_cons, StandsWithin.array_iff, and_assoc, List.forall_mem_ofFn_iff]
  | case3 keys value level pending ih =>
    simp only [Bool.and_eq_true, decide_eq_true_eq, ih, List.forall_mem_append,
      List.forall_mem_cons, StandsWithin.object_iff, and_assoc, List.forall_mem_ofFn_iff]
  | case4 v level pending harray hobject ih =>
    have hv : StandsWithin limit level v := by
      cases v with
      | null => exact .null
      | bool b => exact .bool
      | number n => exact .number
      | string s => exact .string
      | array size item => exact absurd rfl (harray size item)
      | object keys value => exact absurd rfl (hobject keys value)
    simp only [ih, List.forall_mem_cons, hv, true_and]

/-- **The check of an object of free-form data is the rule for levels.** -/
theorem checkLevels_eq (path : Path) (branch : Branch) (level : Nat) (object : Json.Fields Json) :
    (StandsWithin maxLevel level (.ofFields object) → checkLevels path branch level object = .ok ())
      ∧ (¬StandsWithin maxLevel level (.ofFields object) →
        checkLevels path branch level object = .error (tooDeep path branch)) := by
  have hcheck : (level ≤ maxLevel && staysWithin maxLevel
      (List.ofFn fun i => (object.value i, level + 1))) = true
        ↔ StandsWithin maxLevel level (.ofFields object) := by
    unfold Json.ofFields
    rw [Bool.and_eq_true, decide_eq_true_eq, staysWithin_iff, StandsWithin.object_iff,
      List.forall_mem_ofFn_iff]
  exact ⟨fun h => if_pos (hcheck.2 h), fun h => if_neg (mt hcheck.1 h)⟩

section
variable {path : Path} {branch : Branch} {level : Nat} {object : Json.Fields Json}

theorem checkLevels_eq_ok_iff {u : Unit} :
    checkLevels path branch level object = .ok u
      ↔ StandsWithin maxLevel level (.ofFields object) := by
  refine ⟨fun h => by_contra fun hdeep => ?_, (checkLevels_eq path branch level object).1⟩
  exact nomatch ((checkLevels_eq path branch level object).2 hdeep).symm.trans h

theorem checkLevels_eq_error_iff {r : Rejection} :
    checkLevels path branch level object = .error r
      ↔ ¬StandsWithin maxLevel level (.ofFields object) ∧ r = tooDeep path branch := by
  obtain ⟨hok, herror⟩ := checkLevels_eq path branch level object
  by_cases hwithin : StandsWithin maxLevel level (.ofFields object)
  · rw [hok hwithin]
    exact ⟨nofun, fun h => absurd hwithin h.1⟩
  · rw [herror hwithin, Except.error.injEq, eq_comm]
    exact (and_iff_right hwithin).symm

end

end Grammar

end InstructionStore
