/-
This file finds the shortest decimal that reads back as a given binary64 number, and spells it. The numbers that
round to the number form an interval; the coarsest power of ten with a multiple in the interval gives the
fewest digits, and of two multiples the nearer one is taken. The spelling is positional from 10^-6 up to 10^21,
and has an exponent outside that range.
-/

import HtmlTemplate.Binary64.Basic

namespace HtmlTemplate

/-- The number `digits * 10 ^ exponent`. -/
structure Decimal where
  digits : Nat
  exponent : Int
  deriving DecidableEq, Repr

namespace Binary64

/-- A number and the ends of its interval, in quarters of its last place. -/
structure Interval where
  low : Nat
  middle : Nat
  high : Nat
  closed : Bool
  exponent : Int

/-- The numbers that read back as the given one; even ends belong to them. -/
def interval (number : Binary64) : Interval where
  low := 4 * number.mantissa -
    if number.mantissa = normalMantissa ∧ leastExponent < number.exponent
    then 1 else 2
  middle := 4 * number.mantissa
  high := 4 * number.mantissa + 2
  closed := number.mantissa % 2 = 0
  exponent := number.exponent

/-- Quarters of the last place, in a unit shared with powers of ten. -/
def quarters (range : Interval) (power : Int) (count : Nat) : Nat :=
  (count * Nat.pow 10 (-power).toNat) <<< range.exponent.toNat

/-- A multiple of the power of ten, in that unit. -/
def multiple (range : Interval) (power : Int) (count : Nat) : Nat :=
  (4 * count * Nat.pow 10 power.toNat) <<< (-range.exponent).toNat

/-- Whether the multiple reads back as the number. -/
def inside (range : Interval) (power : Int) (count : Nat) : Bool :=
  let low := quarters range power range.low
  let high := quarters range power range.high
  let value := multiple range power count
  if range.closed then low ≤ value && value ≤ high else low < value && value < high

/-- The nearest multiple of the power that reads back; a tie goes up. -/
def candidate? (range : Interval) (power : Int) : Option Decimal :=
  let middle := quarters range power range.middle
  let below := middle / multiple range power 1
  let above := below + 1
  let down := inside range power below
  let up := inside range power above
  let nearerBelow := middle - multiple range power below < multiple range power above - middle
  if down && (!up || nearerBelow) then some ⟨below, power⟩
  else if up then some ⟨above, power⟩
  else none

/-- A power of ten above the number; 1233 / 4096 is the decimal logarithm of two. -/
def topPower (number : Binary64) : Int :=
  ((number.mantissa.log2 : Int) + number.exponent) * 1233 / 4096 + 2

/-- The shortest decimal that reads back as the number. Seventeen digits always suffice. -/
def shortest (number : Binary64) : Decimal :=
  let range := interval number
  let powers := (List.range 22).map fun step => topPower number - (step : Nat)
  (powers.findSome? (candidate? range)).getD ⟨0, 0⟩

end Binary64

end HtmlTemplate

namespace HtmlTemplate.Binary64

/-- The greatest count of digits before the point that is still written in full. -/
def greatestPoint : Int := 21

/-- The least place of the point that is still written in full. -/
def leastPoint : Int := -5

def zeros (count : Nat) : String := String.ofList (List.replicate count '0')

/-- The decimal `0.digits * 10 ^ point` in full. -/
def positional (digits : String) (point : Int) : String :=
  let count : Int := digits.length
  if count ≤ point then digits ++ zeros (point - count).toNat
  else if 0 < point then
    String.ofList (digits.toList.take point.toNat) ++ "." ++
      String.ofList (digits.toList.drop point.toNat)
  else "0." ++ zeros (-point).toNat ++ digits

/-- The decimal `0.digits * 10 ^ point` with one digit before the point. -/
def exponential (digits : String) (point : Int) : String :=
  let mantissa := match digits.toList with
    | [] => ""
    | [digit] => String.singleton digit
    | digit :: rest => String.ofList (digit :: '.' :: rest)
  let power := point - 1
  mantissa ++ (if power < 0 then "e-" else "e+") ++ toString power.natAbs

/-- Both zeros are written alike. -/
def spell (number : Binary64) : String :=
  if number.isZero then "0"
  else
    let decimal := number.shortest
    let digits := toString decimal.digits
    let point := decimal.exponent + digits.length
    (if number.negative then "-" else "") ++
      if leastPoint ≤ point ∧ point ≤ greatestPoint then positional digits point
      else exponential digits point

end HtmlTemplate.Binary64
