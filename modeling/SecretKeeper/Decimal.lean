/-!
Decimal texts of binary floating-point numbers: the fewest digits that read back as the same
number, and of those the nearest.
-/
namespace SecretKeeper.Decimal

/-- The number `mantissa * 2 ^ exponent`; `narrow` tells that its lower neighbour is half as far
away as its upper one. -/
structure Binary where
  mantissa : Nat
  exponent : Int
  narrow : Bool
  deriving DecidableEq, Repr

def Binary.ofFloat (x : Float) : Binary :=
  let bits := x.toBits.toNat
  let fraction : Nat := bits % Nat.pow 2 52
  let power : Nat := bits / Nat.pow 2 52 % Nat.pow 2 11
  if power = 0 then ⟨fraction, -1074, false⟩
  else ⟨fraction + Nat.pow 2 52, (power : Int) - 1075, fraction = 0 && power ≠ 1⟩

def fraction (n : Nat) (twos tens : Int) : Nat × Nat :=
  (n * Nat.pow 2 twos.toNat * Nat.pow 10 tens.toNat,
    Nat.pow 2 (-twos).toNat * Nat.pow 10 (-tens).toNat)

def Binary.leadingPower (b : Binary) : Int :=
  let scaled := fraction b.mantissa b.exponent 330
  ((Nat.toDigits 10 (scaled.1 / scaled.2)).length : Int) - 331

/-- The multiple of `10 ^ tens` nearest to the number, if one reads back as the number. -/
def Binary.onGrid? (b : Binary) (tens : Int) : Option Nat :=
  let (value, unit) := fraction (4 * b.mantissa) (b.exponent - 2) (-tens)
  let low := (fraction (4 * b.mantissa - if b.narrow then 1 else 2) (b.exponent - 2) (-tens)).1
  let high := (fraction (4 * b.mantissa + 2) (b.exponent - 2) (-tens)).1
  let closed := b.mantissa % 2 = 0
  let readsBack (c : Nat) : Bool :=
    if closed then low ≤ c * unit && c * unit ≤ high else low < c * unit && c * unit < high
  let below := value / unit
  let nearest :=
    if 2 * (value % unit) < unit ∨ 2 * (value % unit) = unit ∧ below % 2 = 0 then [below, below + 1]
    else [below + 1, below]
  nearest.find? readsBack

/-- The digits of the shortest text, and the decimal exponent of the first of them. -/
def Binary.shortestDigits (b : Binary) : List Char × Int :=
  let leading := b.leadingPower
  let found := (List.range 17).findSome? fun n : Nat =>
    (b.onGrid? (leading - n)).map fun c => (c, leading - n)
  let (c, tens) := found.getD (0, 0)
  let digits := Nat.toDigits 10 c
  let kept := (digits.reverse.dropWhile (· == '0')).reverse
  (kept, tens + digits.length - 1)

/-- Positional from 0.00001 up to sixteen digits before the point, always with a fraction;
scientific beyond, with a signed exponent. -/
def layOut (digits : List Char) (power : Int) : List Char :=
  if 0 ≤ power ∧ power ≤ 15 then
    let whole := power.toNat + 1
    let fraction := digits.drop whole
    digits.take whole ++ List.replicate (whole - digits.length) '0' ++
      '.' :: (if fraction = [] then ['0'] else fraction)
  else if -5 ≤ power ∧ power < 0 then
    '0' :: '.' :: List.replicate (-power - 1).toNat '0' ++ digits
  else
    digits.take 1 ++ (if digits.length ≤ 1 then [] else '.' :: digits.drop 1) ++
      'e' :: (if power < 0 then '-' else '+') :: Nat.toDigits 10 power.natAbs

def shortest (x : Float) : String :=
  let b := Binary.ofFloat x
  let sign := if x.toBits.toNat < Nat.pow 2 63 then [] else ['-']
  let magnitude :=
    if b.mantissa = 0 then ['0', '.', '0'] else layOut b.shortestDigits.1 b.shortestDigits.2
  String.ofList (sign ++ magnitude)

end SecretKeeper.Decimal
