import GattPeripheral.Duration
import GattPeripheral.Text.Hex
import GattPeripheral.Text.Shown

/-!
A simulated battery, whose level goes down and up between a floor and full charge.
-/

namespace GattPeripheral

structure BatteryCycle where
  level : Nat
  falling : Bool
  deriving DecidableEq, Repr

namespace BatteryCycle

def lowest : Nat := 20
def highest : Nat := 100
def stepSize : Nat := 5

/-- Starts downwards, unless it starts at the floor. -/
def start (level : Nat) : BatteryCycle :=
  let level := min highest (max lowest level)
  ⟨level, lowest < level⟩

def step (b : BatteryCycle) : BatteryCycle :=
  if b.falling then
    let level := max lowest (b.level - stepSize)
    ⟨level, level ≠ lowest⟩
  else
    let level := min highest (b.level + stepSize)
    ⟨level, level = highest⟩

def shown (b : BatteryCycle) : String :=
  Text.shownRecord "BatteryCycle"
    [("level", toString b.level), ("falling", Text.shownBool b.falling)]

/-- The cycle for a stored level, which is full where nothing is stored. -/
def ofValue (value : Bytes) : BatteryCycle := start ((value.head?.map UInt8.toNat).getD highest)

def value (b : BatteryCycle) : Bytes := [UInt8.ofNat b.level]

def periodSeconds : Nat := 10

/-- How many steps the simulation has made before a moment: one at each whole multiple of the sleep
between two steps that lies before it. -/
def stepsBefore (period moment : Duration) : Nat := (moment.nanos - 1) / period.slept.nanos

/-- The stored value at a moment of the simulation. -/
def valueAt (initial : Bytes) (period moment : Duration) : Bytes :=
  match stepsBefore period moment with
  | 0 => initial
  | n + 1 => ((n + 1).repeat step (ofValue initial)).value

/-- The moments at which somebody is awake who sleeps again and again. -/
def wakings (now : Duration) : List Duration → List Duration
  | [] => [now]
  | span :: spans => now :: wakings (now + span.slept) spans

def observe (initial : Bytes) (period : Duration) (spans : List Duration) : List Bytes :=
  (wakings .zero spans).map (valueAt initial period)

end BatteryCycle
end GattPeripheral
