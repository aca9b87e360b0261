import GattPeripheral.Bus.Signal
import GattPeripheral.Form.Property

/-!
JSON forms of signals and of the rules that they are subscribed to by.
-/

namespace GattPeripheral

structure SignalForm (α τ : Type) where
  added : ObjectPath → Dict String (Dict String τ) → α
  removed : ObjectPath → List String → α
  changed : ObjectPath → String → Dict String τ → List String → α
  /-- A body of another form, by interface and member. -/
  other : ObjectPath → String → String → Formed α

def SignalForm.read {α τ : Type} [OfJson τ] (f : SignalForm α τ) (j : Json) : Formed α := do
  let path ← j.get "path"
  match (← j.get "signal" : String) with
  | "added" => return f.added path (← j.get "interfaces")
  | "removed" => return f.removed path (← j.getD "interfaces" [])
  | "changed" =>
      return f.changed path (← j.get "interface") (← j.getD "changed" .empty)
        (← j.getD "invalidated" [])
  | "malformed" => f.other path (← j.getD "iface" "") (← j.getD "member" "")
  | _ => .error (.expected "a kind of signal")

instance : OfJson Signal where
  ofJson := SignalForm.read
    { added := .added
      removed := .removed
      changed := .changed
      other := fun _ _ _ => .error (.expected "a signal with the right body") }

instance : OfJson Wire.Signal where
  ofJson := SignalForm.read
    { added := .added
      removed := .removed
      changed := .changed
      other := fun path interface member => .ok (.malformed path interface member) }

instance : OfJson SignalRule where
  ofJson j := do
    match (← j.get "rule" : String) with
    | "added" => return .added
    | "removed" => return .removed
    | "changed" => return .changed (← j.get "interface")
    | _ => .error (.expected "a rule")

def SignalRule.text : SignalRule → String
  | added => "added"
  | removed => "removed"
  | changed interface => "changed:" ++ interface

end GattPeripheral
