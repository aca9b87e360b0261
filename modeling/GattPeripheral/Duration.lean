/-!
Spans of time in nanoseconds, and their text in the largest unit that leaves a whole part. A span is
also what a sleeper asks for, and no sleep lasts longer than `longestSleep`.
-/

namespace GattPeripheral

structure Duration where
  nanos : Nat
  deriving DecidableEq, Repr, Inhabited

namespace Duration

def ofSeconds (n : Nat) : Duration := ⟨n * 1000000000⟩
def ofMillis (n : Nat) : Duration := ⟨n * 1000000⟩
def zero : Duration := ⟨0⟩

def millis (d : Duration) : Nat := d.nanos / 1000000

def add (d e : Duration) : Duration := ⟨d.nanos + e.nanos⟩

instance : Add Duration := ⟨add⟩

/-- Thirty years of 365 days. -/
def longestSleep : Duration := ofSeconds (30 * 365 * 86400)

/-- How long a sleep of a span lasts: whoever asks for more than the longest one wakes early. -/
def slept (span : Duration) : Duration :=
  if longestSleep.nanos < span.nanos then longestSleep else span

/-- The `places` digits of a fraction, without the zeros at its end. -/
def fractionDigits : Nat → Nat → List Char
  | 0, _ => []
  | places + 1, n =>
      if n = 0 then []
      else Nat.digitChar (n / Nat.pow 10 places) :: fractionDigits places (n % Nat.pow 10 places)

/-- A count of `10 ^ places` parts as a decimal, followed by its unit. -/
def inUnit (places : Nat) (unit : String) (n : Nat) : String :=
  let whole := toString (n / Nat.pow 10 places)
  let fraction := n % Nat.pow 10 places
  if fraction = 0 then whole ++ unit
  else whole ++ "." ++ String.ofList (fractionDigits places fraction) ++ unit

def text (d : Duration) : String :=
  if d.nanos ≥ 1000000000 then inUnit 9 "s" d.nanos
  else if d.nanos ≥ 1000000 then inUnit 6 "ms" d.nanos
  else if d.nanos ≥ 1000 then inUnit 3 "µs" d.nanos
  else inUnit 0 "ns" d.nanos

example : text ⟨1500000000⟩ = "1.5s" ∧ text ⟨250000000⟩ = "250ms" ∧ text ⟨1500⟩ = "1.5µs" ∧
    text ⟨0⟩ = "0ns" := by decide +kernel

example : longestSleep.millis = 946080000000 := by decide +kernel

end Duration
end GattPeripheral
