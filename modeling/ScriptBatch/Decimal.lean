/-!
# Decimal numbers

A number with a fraction or an exponent is kept as it was written. Only when it has to be shown is
it rounded to double precision, and it is then written positionally with the fewest digits that tell
it apart from its neighbours.

A finite double-precision number is a whole number times a power of two. All arithmetic is on whole
numbers and exact, for rounding a decimal number to the nearest such number as well as for finding
the shortest decimal number that rounds to a given one.
-/

namespace ScriptBatch.Decimal

/-- The whole number nearest to `n / d`; of two equally near ones, the even one. -/
def roundHalfEven (n d : Nat) : Nat :=
  let q := n / d
  let r := n % d
  if 2 * r < d then q
  else if d < 2 * r then q + 1
  else if q % 2 == 0 then q
  else q + 1

def powerFraction (b : Nat) (e : Int) : Nat × Nat :=
  if 0 ≤ e then (Nat.pow b e.toNat, 1) else (1, Nat.pow b (-e).toNat)

/-- The number `mantissa * 2 ^ exponent`. -/
structure Binary64 where
  mantissa : Nat
  exponent : Int
  deriving Repr, DecidableEq

namespace Binary64

def leastFull : Nat := 0x10000000000000

/-- The least exponent; only numbers with this exponent have mantissas below `leastFull`. -/
def minExponent : Int := -1074

def maxExponent : Int := 971

def zero : Binary64 := ⟨0, minExponent⟩

/-- The nearest number to the fraction `n / d` with `0 < n` and `0 < d`, or `none` beyond the
largest number. -/
def ofFraction? (n d : Nat) : Option Binary64 :=
  let scaled (e : Int) : Nat × Nat :=
    let (up, down) := powerFraction 2 (-e)
    (n * up, d * down)
  let rough : Int := max ((n.log2 : Int) - d.log2 - 53) minExponent
  let e := if 2 * leastFull ≤ (scaled rough).1 / (scaled rough).2 then rough + 1 else rough
  let m := roundHalfEven (scaled e).1 (scaled e).2
  let x : Binary64 := if m == 2 * leastFull then ⟨leastFull, e + 1⟩ else ⟨m, e⟩
  if x.exponent ≤ maxExponent then some x else none

/-- The nearest number to `digits * 10 ^ exponent`. Exponents far outside of the range are decided
by the number of digits alone. -/
def ofDecimal? (digits : Nat) (exponent : Int) : Option Binary64 :=
  let magnitude : Int := (Nat.toDigits 10 digits).length + exponent
  if digits == 0 || magnitude < -400 then some zero
  else if 400 < magnitude then none
  else
    let (up, down) := powerFraction 10 exponent
    ofFraction? (digits * up) down

/-- A decimal number `0.d₁d₂d₃… * 10 ^ point`. -/
structure Digits where
  digits : List Char
  point : Int
  deriving Repr, DecidableEq

/-- The number and the ends of the interval that rounds to it, in units of a quarter of the last
place. The interval is shorter below a power of two. -/
def quarters (x : Binary64) : Nat × Nat × Nat :=
  let low := if x.mantissa == leastFull && x.exponent ≠ minExponent then 1 else 2
  (4 * x.mantissa - low, 4 * x.mantissa, 4 * x.mantissa + 2)

/-- The decimal number with `count` digits that is nearest to `x` among those that round to it, and
the greater one of two that are equally near. The number lies below `10 ^ point` and not below
`10 ^ (point - 1)`. -/
def digitsOfLength? (x : Binary64) (point : Int) (count : Nat) : Option Digits :=
  let (up, down) := powerFraction 2 (x.exponent - 2)
  let (gridUp, gridDown) := powerFraction 10 (point - count)
  -- In units of the decimal grid the number is `value * num / den`.
  let num := up * gridDown
  let den := down * gridUp
  let (low, value, high) := x.quarters
  let inclusive := x.mantissa % 2 == 0
  let rounds (g : Nat) : Bool :=
    if inclusive then low * num ≤ g * den && g * den ≤ high * num
    else low * num < g * den && g * den < high * num
  let below := value * num / den
  let above := below + 1
  let nearer := if 2 * (value * num % den) < den then [below, above] else [above, below]
  match nearer.find? rounds with
  | some g =>
    let text := Nat.toDigits 10 g
    some ⟨text, point - count + text.length⟩
  | none => none

/-- The number of decimal places before the point. -/
def decimalPoint (x : Binary64) : Int :=
  let (up, down) := powerFraction 2 x.exponent
  let candidates := (List.range 640).map fun (k : Nat) => (k : Int) - 330
  let fits (e : Int) : Bool :=
    let (eUp, eDown) := powerFraction 10 e
    x.mantissa * up * eDown < down * eUp
  (candidates.find? fits).getD 310

/-- The shortest decimal number that rounds to a positive `x`. Seventeen digits always suffice. -/
def shortest (x : Binary64) : Digits :=
  let point := x.decimalPoint
  ((List.range' 1 17).findSome? (x.digitsOfLength? point)).getD ⟨['0'], 1⟩

end Binary64

/-- Positional decimal text, with at least one digit on each side of the point. -/
def Binary64.Digits.positional (x : Binary64.Digits) : String :=
  let digits := (x.digits.reverse.dropWhile (· == '0')).reverse
  let count : Int := digits.length
  if digits.isEmpty then "0.0"
  else if x.point ≤ 0 then
    "0." ++ String.ofList (List.replicate (-x.point).toNat '0' ++ digits)
  else if count ≤ x.point then
    String.ofList (digits ++ List.replicate (x.point - count).toNat '0') ++ ".0"
  else
    String.ofList (digits.take x.point.toNat) ++ "." ++ String.ofList (digits.drop x.point.toNat)

/-- A written number: `digits * 10 ^ exponent` with a sign, an infinity, or no number at all. -/
inductive Number where
  | finite (negative : Bool) (digits : Nat) (exponent : Int)
  | infinite (negative : Bool)
  | nan
  deriving Repr, DecidableEq

/-- The text of the nearest double-precision number, or `none` if a finite number is too large for
one. -/
def Number.text? : Number → Option String
  | .nan => some "NaN"
  | .infinite negative => some (if negative then "-inf" else "inf")
  | .finite negative digits exponent =>
    (Binary64.ofDecimal? digits exponent).map fun x =>
      let text := if x.mantissa == 0 then "0.0" else x.shortest.positional
      if negative then "-" ++ text else text

end ScriptBatch.Decimal
