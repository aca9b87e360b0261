/-!
The shortest decimal text of a floating point number.

Of all decimals that read back as the number those with the fewest digits are taken, and of these the
nearest. Whole numbers keep a zero behind the point up to sixteen digits; beyond that, and below
`0.00001`, the text has an exponent.
-/

namespace GattPeripheral.Text

/-- A positive number `mantissa * 2 ^ power`. `edge` says that the number below is only half as far away
as the number above. -/
structure Binary where
  mantissa : Nat
  power : Int
  edge : Bool

/-- The parts of the bits of a positive finite number. -/
def Binary.ofBits (bits : Nat) : Binary :=
  let fraction : Nat := bits % 0x10000000000000
  let biased : Nat := bits / 0x10000000000000 % 0x800
  if biased = 0 then ⟨fraction, -1074, false⟩
  else ⟨0x10000000000000 + fraction, (biased : Int) - 1075, fraction = 0 && 1 < biased⟩

structure Ratio where
  num : Nat
  den : Nat

/-- `n * base ^ power` -/
def Ratio.scale (base n : Nat) (power : Int) : Ratio :=
  if power ≥ 0 then ⟨n * Nat.pow base power.toNat, 1⟩ else ⟨n, Nat.pow base (-power).toNat⟩

/-- The number of digits before the point, negative when zeros follow it. -/
def Ratio.magnitude (r : Ratio) : Int :=
  if r.num ≥ r.den then (Nat.toDigits 10 (r.num / r.den)).length
  else
    let zeros := ((List.range 400).find? fun z => r.num * Nat.pow 10 (z + 1) ≥ r.den).getD 0
    Int.negOfNat zeros

/-- Whether the decimal `digits * 10 ^ power` reads back as the number. -/
def Binary.reads (b : Binary) (digits : Nat) (power : Int) : Bool :=
  let d := Ratio.scale 10 digits power
  let low := Ratio.scale 2 (4 * b.mantissa - (if b.edge then 1 else 2)) (b.power - 2)
  let high := Ratio.scale 2 (4 * b.mantissa + 2) (b.power - 2)
  let below := low.num * d.den
  let above := d.num * high.den
  if b.mantissa % 2 = 0 then below ≤ d.num * low.den && above ≤ high.num * d.den
  else below < d.num * low.den && above < high.num * d.den

/-- The candidates with `count` digits on either side of the number, the nearer one first; of two that
are equally near the even one. -/
def Binary.neighbours (b : Binary) (count : Nat) : List (Nat × Int) :=
  let v := Ratio.scale 2 b.mantissa b.power
  let power := v.magnitude - count
  let unit := Ratio.scale 10 1 power
  let num := v.num * unit.den
  let den := v.den * unit.num
  let down := num / den
  if 2 * (num % den) < den ∨ (2 * (num % den) = den ∧ down % 2 = 0) then
    [(down, power), (down + 1, power)]
  else [(down + 1, power), (down, power)]

/-- Digits without trailing zeros, and the power of ten of the last one. -/
def Binary.shortest (b : Binary) : Nat × Int :=
  (((List.range 17).flatMap fun n => b.neighbours (n + 1)).find? fun c => b.reads c.1 c.2).getD (0, 0)

def dropZeros : Nat → Nat → Int → Nat × Int
  | 0, n, power => (n, power)
  | fuel + 1, n, power => if n ≠ 0 ∧ n % 10 = 0 then dropZeros fuel (n / 10) (power + 1) else (n, power)

/-- An exponent always has a sign. -/
def writeExponent (e : Int) : String := (if e ≥ 0 then "+" else "") ++ toString e

def writeDecimal (n : Nat) (power : Int) : String :=
  let digits := Nat.toDigits 10 n
  let point := (digits.length : Int) + power
  let zeros := fun k : Int => List.replicate k.toNat '0'
  if 0 ≤ power ∧ point ≤ 16 then String.ofList (digits ++ zeros power ++ ['.', '0'])
  else if 0 < point ∧ point ≤ 16 then
    String.ofList (digits.take point.toNat ++ '.' :: digits.drop point.toNat)
  else if -5 < point ∧ point ≤ 0 then String.ofList ('0' :: '.' :: (zeros (-point) ++ digits))
  else
    match digits with
    | [d] => String.ofList [d, 'e'] ++ writeExponent (point - 1)
    | d :: rest => String.ofList (d :: '.' :: rest ++ ['e']) ++ writeExponent (point - 1)
    | [] => ""

def floatText (x : Float) : String :=
  let bits := x.toBits.toNat
  let sign := if bits ≥ 0x8000000000000000 then "-" else ""
  let magnitude := bits % 0x8000000000000000
  if magnitude = 0 then sign ++ "0.0"
  else
    let (n, power) := (Binary.ofBits magnitude).shortest
    let (n, power) := dropZeros 20 n power
    sign ++ writeDecimal n power

end GattPeripheral.Text
