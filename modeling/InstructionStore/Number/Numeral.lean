import InstructionStore.Number.Shortest

/-!
# Decimals as text

A decimal is written as digits with a point among them, in front of them or
behind them, or without one, and possibly an exponent. `Decimal.ofText?` reads
that form exactly; which number is nearest to the decimal is a question of its
own.
-/

namespace InstructionStore.Binary64

/-- Reads an exponent. Without one it is zero. -/
def exponentOfText? : List Char → Option Int
  | [] => some 0
  | e :: rest =>
    if e = 'e' ∨ e = 'E' then
      match rest with
      | '-' :: digits => (Text.number? 10 digits).map fun n => -(n : Int)
      | '+' :: digits => (Text.number? 10 digits).map Int.ofNat
      | digits => (Text.number? 10 digits).map Int.ofNat
    else none

/-- **Reads a decimal** without a sign. There is a digit on at least one side of
the point. -/
def Decimal.ofText? (text : List Char) : Option Decimal :=
  let whole := text.takeWhile Char.isDigit
  let rest := text.dropWhile Char.isDigit
  let (fraction, rest) := match rest with
    | '.' :: rest => (rest.takeWhile Char.isDigit, rest.dropWhile Char.isDigit)
    | _ => ([], rest)
  match Text.number? 10 (whole ++ fraction), exponentOfText? rest with
  | some digits, some exponent => some ⟨digits, exponent - fraction.length⟩
  | _, _ => none

/-- **Reads a number** with or without a minus sign: the one that is nearest to
the decimal. -/
def ofText? (text : List Char) : Option Binary64 :=
  match text with
  | '-' :: rest => (Decimal.ofText? rest).bind (ofDecimal? true)
  | _ => (Decimal.ofText? text).bind (ofDecimal? false)

/-- The whole number that a number is, if it is one. -/
def toInt? (x : Binary64) : Option Int :=
  let size : Int := units x.rank / unitsInOne
  if units x.rank % unitsInOne = 0 then some (if x.negative then -size else size) else none

/-- The shortest decimal of a number in positional notation, after its sign. -/
def positional (x : Binary64) : List Char :=
  (if x.negative then ['-'] else []) ++ (shortest x.rank).positional

end InstructionStore.Binary64
