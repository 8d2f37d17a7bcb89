/-!
# Numerals

Whole numbers as text: decimal digits without padding, with a minus sign in
front of a negative number, and lowercase hexadecimal digits. `number?` reads
digits of any base up to sixteen, of either case.
-/

namespace InstructionStore.Text

/-- The decimal digits of a number. -/
def decimal (n : Nat) : List Char := Nat.toDigits 10 n

/-- The lowercase hexadecimal digits of a number, without padding. -/
def hex (n : Nat) : List Char := Nat.toDigits 16 n

/-- The lowercase hexadecimal digits of a number, with zeros in front of them
up to a given width. -/
def paddedHex (width n : Nat) : List Char :=
  List.replicate (width - (hex n).length) '0' ++ hex n

/-- The decimal digits of a number, with zeros in front of them up to a given
width. -/
def paddedDecimal (width n : Nat) : List Char :=
  List.replicate (width - (decimal n).length) '0' ++ decimal n

/-- The digits of an integer, after its sign if it is negative. -/
def signed : Int → List Char
  | .ofNat n => decimal n
  | .negSucc n => '-' :: decimal (n + 1)

/-- A number as a string. -/
def natural (n : Nat) : String := String.ofList (decimal n)

/-- An integer as a string. -/
def integer (n : Int) : String := String.ofList (signed n)

/-! ## Reading -/

/-- The value of a digit in a base up to sixteen. -/
def digit? (base : Nat) (c : Char) : Option Nat :=
  let value :=
    if '0' ≤ c ∧ c ≤ '9' then some (c.toNat - '0'.toNat)
    else if 'a' ≤ c ∧ c ≤ 'f' then some (c.toNat - 'a'.toNat + 10)
    else if 'A' ≤ c ∧ c ≤ 'F' then some (c.toNat - 'A'.toNat + 10)
    else none
  value.filter (· < base)

/-- The number of a run of digits; without digits it is zero. -/
def digits? (base : Nat) (text : List Char) : Option Nat :=
  text.foldlM (fun n c => (digit? base c).map fun d => n * base + d) 0

/-- The number of a run of digits, of which there is at least one. -/
def number? (base : Nat) (text : List Char) : Option Nat :=
  if text.isEmpty then none else digits? base text

end InstructionStore.Text
