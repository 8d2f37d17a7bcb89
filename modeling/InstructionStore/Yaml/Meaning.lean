import InstructionStore.Number.Numeral
import InstructionStore.Yaml.Event

/-!
# What a text means

A text stands for a value. The **tag** in front of it may say of which kind the
value is. Without a tag, or with one of the document's own, a plain text stands for
nothing, a truth value, a whole number or a number, if it has the form of one, and
for itself otherwise. All other texts stand for themselves.

Whole numbers of up to 128 bits are told from other numbers. Digits after a zero
are no number, because it is not clear which base they have.
-/

namespace InstructionStore.Yaml

/-- **What a text means.** -/
inductive Meaning where
  /-- Nothing. -/
  | null
  /-- A truth value. -/
  | boolean (b : Bool)
  /-- A whole number. -/
  | integer (n : Int)
  /-- A number. -/
  | number (x : Binary64)
  /-- A number beyond all others. -/
  | infinity (negative : Bool)
  /-- What is no number. -/
  | notANumber
  /-- The text itself. -/
  | text (s : String)
deriving DecidableEq

/-! ## Forms of plain texts -/

/-- Whether a text stands for nothing. -/
def isNull (text : String) : Bool := ["null", "Null", "NULL", "~"].contains text

/-- The truth value a text stands for. -/
def boolean? (text : String) : Option Bool :=
  if ["true", "True", "TRUE"].contains text then some true
  else if ["false", "False", "FALSE"].contains text then some false
  else none

/-- Whether a text is digits after a zero, possibly with a sign in front. -/
def hasIdleZero (text : List Char) : Bool :=
  let digits := match text with
    | '+' :: rest | '-' :: rest => rest
    | _ => text
  match digits with
  | '0' :: c :: rest => (c :: rest).all Char.isDigit
  | _ => false

/-- The digits of a whole number without a sign, with their base. -/
def baseOf : List Char → Nat × List Char
  | '0' :: 'x' :: rest => (16, rest)
  | '0' :: 'o' :: rest => (8, rest)
  | '0' :: 'b' :: rest => (2, rest)
  | text => (10, text)

/-- The whole number a text without a minus sign stands for. -/
def natural? (text : List Char) : Option Nat :=
  let digits := match text with
    | '+' :: rest => rest
    | _ => text
  if hasIdleZero text then none
  else
    let (base, digits) := baseOf digits
    Text.number? base digits

/-- The amount of a whole number with a minus sign. -/
def amount? (text : List Char) : Option Nat :=
  match text with
  | '-' :: rest =>
    if hasIdleZero text then none
    else
      let (base, digits) := baseOf rest
      Text.number? base digits
  | _ => none

/-- The whole number a text stands for, if it has at most 128 bits. -/
def integer? (text : List Char) : Option Int :=
  match natural? text, amount? text with
  | some n, _ => if n < 1 <<< 128 then some n else none
  | none, some n => if n ≤ 1 <<< 127 then some (-n) else none
  | none, none => none

/-- The number a text stands for, which may be one beyond all others or none. A
decimal that is too large for a number does not stand for one. -/
def number? (text : List Char) : Option Meaning :=
  let isInfinity (s : List Char) : Bool := [".inf", ".Inf", ".INF"].contains (String.ofList s)
  if [".nan", ".NaN", ".NAN"].contains (String.ofList text) then some .notANumber
  else match text with
    | '+' :: '-' :: _ => none
    | '+' :: rest =>
      if isInfinity rest then some (.infinity false) else (Binary64.ofText? rest).map .number
    | '-' :: rest =>
      if isInfinity rest then some (.infinity true) else (Binary64.ofText? text).map .number
    | _ => if isInfinity text then some (.infinity false) else (Binary64.ofText? text).map .number

/-- **What a plain text means** that has no tag. -/
def Meaning.ofPlain (text : String) : Meaning :=
  let chars := text.toList
  if text = "" || isNull text then .null
  else match boolean? text with
    | some b => .boolean b
    | none =>
      match integer? chars with
      | some n => .integer n
      | none =>
        if hasIdleZero chars then .text text
        else (number? chars).getD (.text text)

/-! ## Tags -/

/-- **The kind of value a tag asks for.** -/
inductive Kind where
  /-- A truth value. -/
  | boolean
  /-- A whole number. -/
  | integer
  /-- A number. -/
  | number
  /-- Nothing. -/
  | null
deriving DecidableEq

/-- The kind a tag asks for, if it is one of the language. -/
def Kind.ofTag? (tag : String) : Option Kind :=
  if tag = "tag:yaml.org,2002:bool" then some .boolean
  else if tag = "tag:yaml.org,2002:int" then some .integer
  else if tag = "tag:yaml.org,2002:float" then some .number
  else if tag = "tag:yaml.org,2002:null" then some .null
  else none

/-- The value of a kind that a text stands for. -/
def Kind.read? (kind : Kind) (text : String) : Option Meaning :=
  match kind with
  | boolean => (boolean? text).map .boolean
  | integer => (integer? text.toList).map .integer
  | number => number? text.toList
  | null => if isNull text then some .null else none

/-- **What a text means**, or the kind its tag asks for in vain. -/
def Scalar.meaning (s : Scalar) : Except Kind Meaning :=
  match s.tag with
  | none => .ok (if s.style = .plain then .ofPlain s.text else .text s.text)
  | some tag =>
    match Kind.ofTag? tag with
    | some kind =>
      match kind.read? s.text with
      | some meaning => .ok meaning
      | none => .error kind
    | none =>
      .ok (if s.style = .plain && tag.startsWith "!" then .ofPlain s.text else .text s.text)

/-- The whole number of at most 64 bits a text stands for where one is expected:
whatever its tag says if it is plain, and if it is a block that is tagged as a
whole number. -/
def Scalar.word? (s : Scalar) : Option Nat :=
  let isNumeral :=
    s.style = .plain || (s.style = .literal && s.tag.bind Kind.ofTag? = some .integer)
  if isNumeral then (natural? s.text.toList).filter (· ≤ 0xffffffffffffffff) else none

end InstructionStore.Yaml
