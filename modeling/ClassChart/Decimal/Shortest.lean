/-! The shortest decimal that reads back as a given binary fraction. A fraction is `m * 2^q`; the
reals that round to it form an interval, closed when `m` is even. For one digit, two digits and so
on the two neighbours of the fraction on that decimal grid are tried; the first grid with a neighbour
in the interval gives the answer, and of two hits the nearer, or the even one of a tie. -/
namespace ClassChart.Decimal

structure Scientific where
  digits : Nat
  exponent : Int
  deriving DecidableEq, Repr

def twoTo (n : Nat) : Nat := Nat.pow 2 n
def tenTo (n : Nat) : Nat := Nat.pow 10 n

/-- The fraction `value / scale` and the ends of the interval that rounds to it. -/
structure Interval where
  value : Nat
  low : Nat
  high : Nat
  scale : Nat
  closed : Bool

/- Below a power of two the neighbours are twice as near, unless they are subnormal. -/
def interval (m : Nat) (q : Int) (powerOfTwo : Bool) : Interval :=
  let up := twoTo q.toNat
  ⟨4 * m * up, (4 * m - if powerOfTwo then 1 else 2) * up, (4 * m + 2) * up, 4 * twoTo (-q).toNat,
    m % 2 = 0⟩

def Interval.holds (i : Interval) (c : Nat) (e : Int) : Bool :=
  let point := c * tenTo e.toNat * i.scale
  let unit := tenTo (-e).toNat
  if i.closed then i.low * unit ≤ point && point ≤ i.high * unit
  else i.low * unit < point && point < i.high * unit

/- The larger neighbour is as far above the value as the smaller is below it. -/
def Interval.nearest (i : Interval) (e : Int) : Option Nat :=
  let grid := tenTo e.toNat * i.scale
  let scaled := i.value * tenTo (-e).toNat
  let c := scaled / grid
  match i.holds c e, i.holds (c + 1) e with
  | true, true =>
    let below := scaled - c * grid
    let above := (c + 1) * grid - scaled
    some (if below < above then c else if above < below then c + 1 else if c % 2 = 0 then c else c + 1)
  | true, false => some c
  | false, true => some (c + 1)
  | false, false => none

/- The exponent of the first digit: the greatest `e` with `10^e` at most the value. -/
def Interval.magnitude (i : Interval) : Int :=
  let whole := i.value / i.scale
  if whole = 0 then
    match (List.range 330).find? fun z => i.scale ≤ i.value * tenTo (z + 1) with
    | some z => -(z + 1 : Nat)
    | none => 0
  else ((Nat.toDigits 10 whole).length : Int) - 1

def shortest (m : Nat) (q : Int) (powerOfTwo : Bool) : Scientific :=
  let i := interval m q powerOfTwo
  let top := i.magnitude
  let hit := (List.range 18).findSome? fun (n : Nat) =>
    (i.nearest (top - (n : Int))).map fun c => Scientific.mk c (top - (n : Int))
  hit.getD ⟨0, 0⟩

def Scientific.trimmed : Nat → Scientific → Scientific
  | 0, s => s
  | fuel + 1, s =>
    if s.digits ≠ 0 ∧ s.digits % 10 = 0 then trimmed fuel ⟨s.digits / 10, s.exponent + 1⟩ else s

/-- Numbers are written positionally from `0.0001` to below `10^16` and always with a fraction;
outside of that with an exponent of a sign and at least two digits. -/
def Scientific.text (s : Scientific) : String :=
  let s := Scientific.trimmed 400 s
  let ds := Nat.toDigits 10 s.digits
  let point := (ds.length : Int) + s.exponent
  if s.digits = 0 then "0.0"
  else if -4 < point && point ≤ 16 then
    if point ≤ 0 then "0." ++ String.ofList (List.replicate (-point).toNat '0' ++ ds)
    else if (ds.length : Int) ≤ point then
      String.ofList (ds ++ List.replicate (point.toNat - ds.length) '0') ++ ".0"
    else String.ofList (ds.take point.toNat ++ '.' :: ds.drop point.toNat)
  else
    let e := point - 1
    let size := Nat.toDigits 10 e.natAbs
    let mantissa := match ds with
      | [] => []
      | [d] => [d]
      | d :: more => d :: '.' :: more
    String.ofList (mantissa ++ 'e' :: (if e < 0 then '-' else '+') ::
      (if size.length < 2 then '0' :: size else size))

def floatText (x : Float) : String :=
  let bits := x.toBits.toNat
  let negative := bits / twoTo 63 = 1
  let biased : Nat := bits / twoTo 52 % 2048
  let tail : Nat := bits % twoTo 52
  if biased = 2047 then (if tail ≠ 0 then "nan" else if negative then "-inf" else "inf")
  else
    let s := if biased = 0 then shortest tail (-1074) false
      else shortest (twoTo 52 + tail) ((biased : Int) - 1075) (tail = 0 && 1 < biased)
    let body := if biased = 0 ∧ tail = 0 then "0.0" else s.text
    if negative then "-" ++ body else body

end ClassChart.Decimal
