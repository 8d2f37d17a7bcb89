import InstructionStore.Json.Basic

/-!
# Values that differ in their floats only

A float can be read as another one than was written, since it is rounded more
than once. Everything else in a value is read as it was written, so what is read
**resembles** what was written: it differs in floats at most.
-/

namespace InstructionStore.Json

/-- **A value without floats.** -/
inductive IsFloatFree : Json → Prop where
  /-- The value `null`. -/
  | null : IsFloatFree .null
  /-- A truth value. -/
  | bool {b : Bool} : IsFloatFree (.bool b)
  /-- An integer. -/
  | integer {n : Int} {inRange : minInteger ≤ n ∧ n ≤ maxInteger} :
    IsFloatFree (.number (.integer n inRange))
  /-- A string. -/
  | string {s : String} : IsFloatFree (.string s)
  /-- An array of values without floats. -/
  | array {size : Nat} {item : Fin size → Json} (items : ∀ i, IsFloatFree (item i)) :
    IsFloatFree (.array size item)
  /-- An object of values without floats. -/
  | object {keys : Keys} {value : Fin keys.size → Json} (values : ∀ i, IsFloatFree (value i)) :
    IsFloatFree (.object keys value)

/-- **Two values differ in their floats at most.** -/
inductive Resembles : Json → Json → Prop where
  /-- The value `null`. -/
  | null : Resembles .null .null
  /-- A truth value. -/
  | bool (b : Bool) : Resembles (.bool b) (.bool b)
  /-- An integer. -/
  | integer (n : Int) (inRange : minInteger ≤ n ∧ n ≤ maxInteger) :
    Resembles (.number (.integer n inRange)) (.number (.integer n inRange))
  /-- Two floats. -/
  | float (x y : Binary64) : Resembles (.number (.float x)) (.number (.float y))
  /-- A string. -/
  | string (s : String) : Resembles (.string s) (.string s)
  /-- Arrays of one size, item by item. -/
  | array {size : Nat} {item item' : Fin size → Json} (items : ∀ i, Resembles (item i) (item' i)) :
    Resembles (.array size item) (.array size item')
  /-- Objects with the same names, value by value. -/
  | object {keys : Keys} {value value' : Fin keys.size → Json}
    (values : ∀ i, Resembles (value i) (value' i)) :
    Resembles (.object keys value) (.object keys value')

/-- A value without floats differs from no value. -/
theorem Resembles.eq {v w : Json} (h : Resembles v w) (hv : IsFloatFree v) : w = v := by
  induction h with
  | null => rfl
  | bool => rfl
  | integer => rfl
  | float => exact nomatch hv
  | string => rfl
  | array _ ih =>
    cases hv with
    | array items => exact congrArg (Json.array _) (funext fun i => ih i (items i))
  | object _ ih =>
    cases hv with
    | object values => exact congrArg (Json.object _) (funext fun i => ih i (values i))

end InstructionStore.Json
