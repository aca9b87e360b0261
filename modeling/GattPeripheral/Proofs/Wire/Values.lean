import GattPeripheral.Proofs.Dict
import GattPeripheral.Proofs.Path.Reading
import GattPeripheral.Wire.Link

/-!
# Property values over a link

A property that is no dictionary comes back from the wire as it was sent, through any number of variants. A
dictionary has a form on the wire as well, but nothing reads it: it is missing from maps, and a request for
it fails. The bus in memory gives every property back.
Main statement: `carried_iff`.
-/

namespace GattPeripheral

/-! ## Values -/

def Property.isDictionary : Property → Bool
  | .u16Bytes _ | .strBytes _ => true
  | _ => false

namespace Wire

namespace Value

def wrapped : Nat → Value → Value
  | 0, v => v
  | depth + 1, v => variant (wrapped depth v)

@[simp] theorem toProperty?_wrapped (depth : Nat) (v : Value) :
    (wrapped depth v).toProperty? = v.toProperty? := by
  induction depth with
  | zero => rfl
  | succ depth ih => rw [wrapped, toProperty?, ih]

theorem filterMap_map_of_read {α : Type} (write : α → Value) (read : Value → Option α)
    (back : ∀ a, read (write a) = some a) (items : List α) : (items.map write).filterMap read = items := by
  have same : read ∘ write = some := funext back
  rw [List.filterMap_map, same, List.filterMap_some]

theorem toProperty?_ofProperty (p : Property) :
    (ofProperty p).toProperty? = if p.isDictionary then none else some p := by
  cases p with
  | path v => simp [ofProperty, toProperty?, Property.isDictionary, v.ofText?_text]
  | bytes v =>
      have items := filterMap_map_of_read byte asByte? (fun _ => rfl) v
      simp only [ofProperty, octets, toProperty?, items, Property.isDictionary, Bool.false_eq_true, if_false]
  | strs v =>
      have items := filterMap_map_of_read str asStr? (fun _ => rfl) v
      simp only [ofProperty, toProperty?, items, Property.isDictionary, Bool.false_eq_true, if_false]
  | paths v =>
      have items := filterMap_map_of_read (fun p : ObjectPath => path p.text) asPath? ObjectPath.ofText?_text v
      simp only [ofProperty, toProperty?, items, Property.isDictionary, Bool.false_eq_true, if_false]
  | _ => rfl

end Value

/-! ## Maps -/

theorem get?_decodeMap_encodeMap (m : PropertyMap) (name : String) :
    (decodeMap (encodeMap m)).get? name =
      (m.get? name).bind fun p => if p.isDictionary then none else some p := by
  rw [decodeMap, encodeMap, Dict.mapValues, Dict.get?_filterMap, Dict.get?_filterMap]
  cases m.get? name with
  | none => rfl
  | some p => exact Value.toProperty?_ofProperty p

/-! ## Links -/

def readBack {β : Type} [Transport β] (key : PropertyKey) (p : Property) (bus : β) : Except BusError Property :=
  (Transport.getProperty key.path key.interface key.name
    (Transport.setProperty key.path key.interface key.name p bus).2).1

structure Link.Serves (l : Link) (key : PropertyKey) : Prop where
  connected : l.closed = false
  granted : l.daemon.refusedProperties.contains key.name = false
  /-- The daemon holds no foreign value in the property's place. -/
  plain : l.raw.lookup key = none

theorem readBack_memory {key : PropertyKey} {b : MemoryBus}
    (granted : b.refusedProperties.contains key.name = false) (p : Property) : readBack key p b = .ok p := by
  have held : (b.putProperty key p).property? key = some p := by
    simp [MemoryBus.property?, MemoryBus.putProperty]
  have still : (b.putProperty key p).refusedProperties.contains key.name = false := granted
  simp only [readBack, Transport.setProperty, Transport.getProperty, MemoryBus.setProperty, granted,
    Bool.false_eq_true, if_false, MemoryBus.getProperty, still, held]

theorem readBack_link {l : Link} {key : PropertyKey} (serves : l.Serves key) (p : Property) :
    readBack key p l = Link.arriving key.interface key.name (.ofProperty p) := by
  have daemon := readBack_memory serves.granted p
  simp only [readBack, Transport.setProperty, Transport.getProperty, Link.setProperty, Link.getProperty,
    Link.overLink, Link.onDaemon, serves.connected, serves.plain, Bool.false_eq_true, if_false] at daemon ⊢
  rw [daemon]
  rfl

end Wire

namespace Property
open Wire

/-- A property that travels well: however deep in variants, it is read as what it was, no map loses it, and
a link gives it back once it was set. -/
structure Carried (p : Property) : Prop where
  decoded : ∀ depth, (Value.wrapped depth (.ofProperty p)).toProperty? = some p
  in_maps : ∀ (m : PropertyMap) name, m.get? name = some p → (decodeMap (encodeMap m)).get? name = some p
  read_back : ∀ (l : Link) key, l.Serves key → (Value.ofProperty p).texts.all isReadable = true →
    readBack key p l = .ok p

structure Lost (p : Property) : Prop where
  unread : ∀ depth, (Value.wrapped depth (.ofProperty p)).toProperty? = none
  in_maps : ∀ (m : PropertyMap) name, m.get? name = some p → (decodeMap (encodeMap m)).get? name = none
  unsupported : ∀ (l : Link) key, l.Serves key → (Value.ofProperty p).texts.all isReadable = true →
    readBack key p l = .error (Link.unsupported key.interface key.name)

theorem carried_of_plain {p : Property} (plain : p.isDictionary = false) : p.Carried where
  decoded depth := by simp [Value.toProperty?_ofProperty, plain]
  in_maps m name found := by simp [get?_decodeMap_encodeMap, found, plain]
  read_back l key serves readable := by
    rw [readBack_link serves, Link.arriving, if_pos readable, Value.toProperty?_ofProperty]
    simp [plain]

theorem lost_of_dictionary {p : Property} (dictionary : p.isDictionary = true) : p.Lost where
  unread depth := by simp [Value.toProperty?_ofProperty, dictionary]
  in_maps m name found := by simp [get?_decodeMap_encodeMap, found, dictionary]
  unsupported l key serves readable := by
    rw [readBack_link serves, Link.arriving, if_pos readable, Value.toProperty?_ofProperty]
    simp [dictionary]

theorem Carried.not_lost {p : Property} (carried : p.Carried) : ¬ p.Lost := by
  intro lost
  have both := (carried.decoded 0).symm.trans (lost.unread 0)
  cases both

/-- Dictionaries are lost on a link and everything else is carried, while the bus in memory gives every property
back. -/
theorem carried_iff (p : Property) :
    (p.Carried ↔ p.isDictionary = false) ∧ (p.Lost ↔ p.isDictionary = true) ∧
      ∀ (b : MemoryBus) key, b.refusedProperties.contains key.name = false → readBack key p b = .ok p := by
  refine ⟨⟨fun carried => ?_, carried_of_plain⟩, ⟨fun lost => ?_, lost_of_dictionary⟩, fun b key granted => ?_⟩
  · exact Bool.eq_false_iff.mpr fun dictionary => carried.not_lost (lost_of_dictionary dictionary)
  · by_contra plain
    exact (carried_of_plain (Bool.eq_false_iff.mpr plain)).not_lost lost
  · exact readBack_memory granted p

theorem manufacturer_data_not_carried :
    ¬ (u16Bytes (.ofList [(1, [0xaa])])).Carried ∧
      readBack ⟨.root, Names.adapter, "Data"⟩ (u16Bytes (.ofList [(1, [0xaa])])) (Link.new .empty) =
        .error (.protocol "org.bluez.Adapter1.Data has an unsupported type") := by
  have lost := lost_of_dictionary (p := u16Bytes (.ofList [(1, [0xaa])])) rfl
  have serves : (Link.new .empty).Serves ⟨.root, Names.adapter, "Data"⟩ := ⟨rfl, rfl, rfl⟩
  exact ⟨fun carried => carried.not_lost lost, lost.unsupported _ _ serves (by decide)⟩

end Property
end GattPeripheral
