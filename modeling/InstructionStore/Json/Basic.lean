import InstructionStore.Json.Fields
import InstructionStore.Number.Binary64

/-!
# JSON values

A JSON value is null, a boolean, a number, a string, an array or an object. The
fields of an object are kept by name and not by place, so that two texts of one
object are one value.

A number is **an integer** when it is written without a point or exponent and
fits a signed or an unsigned 64-bit word; every other number is **a binary64
float**. The two never compare equal, so `1` and `1.0` are different values.

Arrays and objects hold their parts as functions of an index. Recursion and
induction then reach every part of a value directly, with no second recursion
over lists of parts.
-/

namespace InstructionStore

/-- The least integer a JSON number can be. -/
def Json.minInteger : Int := -0x8000000000000000

/-- The greatest integer a JSON number can be. -/
def Json.maxInteger : Int := 0xffffffffffffffff

/-- **A JSON number**: an integer of at most 64 bits, or a float. -/
inductive Json.Number where
  /-- A number written without a point or exponent. -/
  | integer (n : Int) (inRange : Json.minInteger ≤ n ∧ n ≤ Json.maxInteger)
  /-- A number written with a point or exponent, or too large for an integer. -/
  | float (x : Binary64)
deriving DecidableEq

/-- **A JSON value.** -/
inductive Json where
  /-- The value `null`. -/
  | null
  /-- A truth value. -/
  | bool (b : Bool)
  /-- A number. -/
  | number (n : Json.Number)
  /-- A string. -/
  | string (s : String)
  /-- An array, given by its size and the item at each index. -/
  | array (size : Nat) (item : Fin size → Json)
  /-- An object, given by its names and the value under each of them. -/
  | object (keys : Json.Keys) (value : Fin keys.size → Json)

namespace Json

instance : Inhabited Json := ⟨.null⟩

/-! ## Building values

The functions below store every part before the value is used, so that reading
a part again does not compute it again. -/

/-- The array with a given item at each index. -/
def arrayOf (size : Nat) (item : Fin size → Json) : Json :=
  let items := Array.ofFn item
  have same : items.size = size := by simp [items]
  .array size fun i => items[i.cast same.symm]

/-- The array of the items of a list. -/
def ofList (items : List Json) : Json :=
  let items := items.toArray
  .array items.size fun i => items[i]

/-- The object with the given fields. -/
def ofFields (fields : Fields Json) : Json := .object fields.keys fields.value

/-- A signed 64-bit integer as a number. -/
def Number.ofInt64 (n : Int64) : Number :=
  .integer n.toInt (by
    have := n.le_toInt
    have := n.toInt_lt
    simp only [minInteger, maxInteger]
    omega)

/-- A natural number of at most 64 bits. -/
def Number.ofNat? (n : Nat) : Option Number :=
  if h : n ≤ 0xffffffffffffffff then
    some (.integer n (by simp only [minInteger, maxInteger]; omega))
  else none

/-- The integer a number is, when it fits a signed 64-bit word. -/
def Number.toInt64? : Number → Option Int64
  | .integer n _ => if n ≤ 0x7fffffffffffffff then some (Int64.ofInt n) else none
  | .float _ => none

@[simp] theorem arrayOf_eq (size : Nat) (item : Fin size → Json) :
    arrayOf size item = .array size item := by
  simp [arrayOf]

@[simp] theorem toInt64?_ofInt64 (n : Int64) : (Number.ofInt64 n).toInt64? = some n := by
  have h : n.toInt ≤ 0x7fffffffffffffff := Int.le_of_lt_add_one n.toInt_lt
  simp only [Number.ofInt64, Number.toInt64?, h, if_true, Int64.ofInt_toInt]

/-! ## Looking into values -/

/-- The value under a name, of an object. -/
def field? : Json → String → Option Json
  | .object keys value, name => (keys.find? name).map value
  | _, _ => none

/-- The item at an index, of an array. -/
def item? : Json → Nat → Option Json
  | .array size item, index => if h : index < size then some (item ⟨index, h⟩) else none
  | _, _ => none

/-- The fields of an object. -/
def fields? : Json → Option (Fields Json)
  | .object keys value => some ⟨keys, value⟩
  | _ => none

/-- The items of an array. -/
def items? : Json → Option (List Json)
  | .array _ item => some (List.ofFn item)
  | _ => none

/-- The text of a string. -/
def string? : Json → Option String
  | .string s => some s
  | _ => none

/-! ## Equality -/

/-- Decides equality, part by part. -/
def decEq : (a b : Json) → Decidable (a = b)
  | .null, b => match b with
    | .null => isTrue rfl
    | .bool _ | .number _ | .string _ | .array _ _ | .object _ _ => isFalse nofun
  | .bool x, b => match b with
    | .bool y => decidable_of_iff (x = y) ⟨congrArg _, fun h => by injection h⟩
    | .null | .number _ | .string _ | .array _ _ | .object _ _ => isFalse nofun
  | .number x, b => match b with
    | .number y => decidable_of_iff (x = y) ⟨congrArg _, fun h => by injection h⟩
    | .null | .bool _ | .string _ | .array _ _ | .object _ _ => isFalse nofun
  | .string x, b => match b with
    | .string y => decidable_of_iff (x = y) ⟨congrArg _, fun h => by injection h⟩
    | .null | .bool _ | .number _ | .array _ _ | .object _ _ => isFalse nofun
  | .array n item, b => match b with
    | .array m item' =>
      if hn : n = m then
        haveI : DecidablePred fun i => item i = item' (i.cast hn) := fun i => decEq (item i) _
        decidable_of_iff (∀ i, item i = item' (i.cast hn)) (by
          subst hn
          exact ⟨fun h => congrArg _ (funext h), fun h i => by injection h with _ h; rw [h]; rfl⟩)
      else isFalse fun h => hn (by injection h)
    | .null | .bool _ | .number _ | .string _ | .object _ _ => isFalse nofun
  | .object keys value, b => match b with
    | .object keys' value' =>
      if hk : keys = keys' then
        have same : keys.size = keys'.size := congrArg Keys.size hk
        haveI : DecidablePred fun i => value i = value' (i.cast same) := fun i => decEq (value i) _
        decidable_of_iff (∀ i, value i = value' (i.cast same)) (by
          subst hk
          exact ⟨fun h => congrArg _ (funext h), fun h i => by injection h with _ h; rw [h]; rfl⟩)
      else isFalse fun h => hk (by injection h)
    | .null | .bool _ | .number _ | .string _ | .array _ _ => isFalse nofun

instance : DecidableEq Json := decEq

/-! ## Depth -/

/-- The greatest of finitely many numbers, zero when there are none. -/
def greatest {n : Nat} (f : Fin n → Nat) : Nat := (List.ofFn f).foldl max 0

/-- **How deeply a value nests**: the most arrays and objects that are open at
one place of its text. -/
def depth : Json → Nat
  | .array _ item => 1 + greatest fun i => (item i).depth
  | .object _ value => 1 + greatest fun i => (value i).depth
  | _ => 0

/-- The sum of finitely many numbers. -/
def total : {n : Nat} → (Fin n → Nat) → Nat
  | 0, _ => 0
  | _ + 1, f => f 0 + total fun i => f i.succ

/-- How many values a value is made of, itself included. -/
def nodes : Json → Nat
  | .array _ item => 1 + total fun i => (item i).nodes
  | .object _ value => 1 + total fun i => (value i).nodes
  | _ => 1

theorem nodes_pos (v : Json) : 0 < v.nodes := by
  cases v <;> unfold nodes <;> omega

end Json

end InstructionStore
