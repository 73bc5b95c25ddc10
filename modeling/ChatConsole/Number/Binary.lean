/-
# Double-precision numbers

A number of a settings file is kept as what a machine keeps of it: a sign, a whole number of at most
53 binary digits and a power of two.  Reading rounds a decimal to the nearest such number, and a tie
to the even one.  Writing gives the fewest decimal digits that read back.  All of it is exact
arithmetic on whole numbers.
-/

namespace ChatConsole
namespace Number

/-- A double-precision number. -/
inductive Binary where
  /-- `mantissa * 2 ^ exponent`, or its opposite. -/
  | finite (negative : Bool) (mantissa : Nat) (exponent : Int)
  | infinite (negative : Bool)
  | nan
  deriving DecidableEq, Repr

/-- A quotient rounded to the nearest whole number, a tie to the even one. -/
def roundEven (num den : Nat) : Nat :=
  let q := num / den
  let r := num % den
  if 2 * r > den ∨ (2 * r = den ∧ q % 2 = 1) then q + 1 else q

/-- `n * 2 ^ e` as a quotient of whole numbers. -/
def scaled (n : Nat) (e : Int) : Nat × Nat :=
  (n * Nat.pow 2 e.toNat, Nat.pow 2 (-e).toNat)

namespace Binary

/-- Digits of a mantissa in base two. -/
def precision : Nat := 53

/-- The smallest exponent. -/
def minExponent : Int := -1074

/-- The largest exponent. -/
def maxExponent : Int := 971

/-- The exponent at which a quotient has all its digits, or the smallest one. -/
def exponentFor (num den : Nat) : Int :=
  let e := max ((num.log2 : Int) - den.log2 - 52) minExponent
  let (n, d) := scaled den e
  if num * d / n < Nat.pow 2 (precision - 1) ∧ e > minExponent then e - 1 else e

/-- The number nearest to a quotient. -/
def ofQuotient (negative : Bool) (num den : Nat) : Binary :=
  let e := exponentFor num den
  let (n, d) := scaled den e
  let m := roundEven (num * d) n
  let (m, e) := if m = Nat.pow 2 precision then (m / 2, e + 1) else (m, e)
  if e > maxExponent then infinite negative else finite negative m e

/-- The number nearest to `digits * 10 ^ exponent`. -/
def ofDecimal (negative : Bool) (digits : Nat) (exponent : Int) : Binary :=
  let size := exponent + (Nat.toDigits 10 digits).length
  if digits = 0 ∨ size < -400 then finite negative 0 minExponent
  else if size > 400 then infinite negative
  else ofQuotient negative (digits * Nat.pow 10 exponent.toNat) (Nat.pow 10 (-exponent).toNat)

/-- Whether `d * 10 ^ k` reads back as `m * 2 ^ e`, for the neighbour of a number on a decimal grid:
it lies between the middles to the numbers below and above, and on a middle only if `m` is even. -/
def readsBack (m : Nat) (e k : Int) (d : Nat) : Bool :=
  let low := if m = Nat.pow 2 (precision - 1) ∧ e > minExponent then 4 * m - 1 else 4 * m - 2
  let left := d * (4 * Nat.pow 10 k.toNat * Nat.pow 2 (-e).toNat)
  let unit := Nat.pow 2 e.toNat * Nat.pow 10 (-k).toNat
  if m % 2 = 0 then low * unit ≤ left ∧ left ≤ (4 * m + 2) * unit
  else low * unit < left ∧ left < (4 * m + 2) * unit

/-- The point of the grid `10 ^ k` that reads back as `m * 2 ^ e` and is nearest to it. -/
def onGrid? (m : Nat) (e k : Int) : Option Nat :=
  let num := m * (Nat.pow 2 e.toNat * Nat.pow 10 (-k).toNat)
  let den := Nat.pow 10 k.toNat * Nat.pow 2 (-e).toNat
  let below := num / den
  let nearest := roundEven num den
  let other := if nearest = below then below + 1 else below
  if readsBack m e k nearest then some nearest
  else if readsBack m e k other then some other
  else none

/-- The first grid, from `10 ^ k` down, that has a point that reads back. -/
def shortestFrom (m : Nat) (e : Int) : Nat → Int → Nat × Int
  | 0, k => (0, k)
  | fuel + 1, k =>
    match onGrid? m e k with
    | some d => (d, k)
    | none => shortestFrom m e fuel (k - 1)

/-- The fewest decimal digits that read back as `m * 2 ^ e`, as a whole number and a power of
ten. -/
def shortest (m : Nat) (e : Int) : Nat × Int :=
  shortestFrom m e 700 (((m.log2 : Int) + e) * 30103 / 100000 + 2)

/-- A whole number and a power of ten in positional notation, always with a fraction. -/
def positional (digits : Nat) (exponent : Int) : String :=
  let text := Nat.toDigits 10 digits
  let whole := text ++ List.replicate exponent.toNat '0'
  let places := (-exponent).toNat
  if places = 0 then String.ofList whole ++ ".0"
  else
    let padded := List.replicate (places + 1 - whole.length) '0' ++ whole
    String.ofList (padded.take (padded.length - places)) ++ "."
      ++ String.ofList (padded.drop (padded.length - places))

/-- The text of a number. -/
def text : Binary → String
  | finite negative m e =>
    (if negative then "-" else "") ++
      if m = 0 then "0.0" else positional (shortest m e).1 (shortest m e).2
  | infinite negative => if negative then "-inf" else "inf"
  | nan => "nan"

/-- The digits at the start of a text, and what follows them. -/
def digits (cs : List Char) : List Char × List Char :=
  (cs.takeWhile Char.isDigit, cs.dropWhile Char.isDigit)

/-- The value of decimal digits. -/
def valueOf (cs : List Char) : Nat :=
  cs.foldl (fun n c => n * 10 + (c.toNat - '0'.toNat)) 0

/-- A sign at the start of a text, true for a minus, and what follows it. -/
def sign : List Char → Bool × List Char
  | '-' :: cs => (true, cs)
  | '+' :: cs => (false, cs)
  | cs => (false, cs)

/-- The power of ten that ends a decimal, zero when there is none. -/
def power? : List Char → Option Int
  | [] => some 0
  | c :: cs =>
    if c = 'e' ∨ c = 'E' then
      let (negative, cs) := sign cs
      let (ds, rest) := digits cs
      if ds.isEmpty ∨ !rest.isEmpty then none
      else some (if negative then -(valueOf ds : Int) else valueOf ds)
    else none

/-- The number of a decimal text: digits with an optional fraction and an optional power of ten, or
a word for infinity or for what is no number. -/
def ofText? (cs : List Char) : Option Binary :=
  let (negative, cs) := sign cs
  let word := String.ofList (cs.map Char.toLower)
  if word = "inf" ∨ word = "infinity" then some (infinite negative)
  else if word = "nan" then some nan
  else
    let (whole, rest) := digits cs
    let (fraction, rest) := match rest with
      | '.' :: rest => digits rest
      | rest => ([], rest)
    if whole.isEmpty ∧ fraction.isEmpty then none
    else (power? rest).map fun p =>
      ofDecimal negative (valueOf (whole ++ fraction)) (p - fraction.length)

end Binary
end Number
end ChatConsole
