import GattPeripheral.Host.Registration
import GattPeripheral.Proofs.Dict
import GattPeripheral.Proofs.Tree.Editing
import GattPeripheral.Wire.Remote

/-!
# The options of a remote access

Six entries of an options dictionary are heeded, each only with a value of the type that it expects, in any
number of variants. Two dictionaries that agree on what is heeded are one and the same to every read and write:
`options_heeded`. The one thing that shows besides is a text which the far end cannot read, since it spoils the
whole request.
-/

namespace GattPeripheral

inductive AccessEntry where
  | offset
  | device
  | mtu
  | link
  | kind
  | prepareAuthorize
  deriving DecidableEq

namespace AccessEntry

def name : AccessEntry → String
  | offset => "offset"
  | device => "device"
  | mtu => "mtu"
  | link => "link"
  | kind => "type"
  | prepareAuthorize => "prepare-authorize"

def all : List AccessEntry := [offset, device, mtu, link, kind, prepareAuthorize]

theorem mem_all (entry : AccessEntry) : entry ∈ all := by cases entry <;> decide

theorem name_injective {e f : AccessEntry} (same : e.name = f.name) : e = f := by
  revert same
  cases e <;> cases f <;> decide

def Same (entry : AccessEntry) (o o' : AccessOptions) : Prop :=
  match entry with
  | offset => o.offset = o'.offset
  | device => o.device = o'.device
  | mtu => o.mtu = o'.mtu
  | link => o.link = o'.link
  | kind => o.writeKind = o'.writeKind
  | prepareAuthorize => o.prepareAuthorize = o'.prepareAuthorize

theorem same_equivalence (entry : AccessEntry) : Equivalence entry.Same := by
  cases entry <;> exact ⟨fun _ => rfl, Eq.symm, Eq.trans⟩

end AccessEntry

namespace AccessOptions

variable {entry : AccessEntry}

theorem eq_of_same {o o' : AccessOptions} (same : ∀ entry : AccessEntry, entry.Same o o') : o = o' := by
  obtain ⟨offset, device, mtu, link, kind, authorize⟩ := o
  cases same .offset
  cases same .device
  cases same .mtu
  cases same .link
  cases same .kind
  cases same .prepareAuthorize
  rfl

theorem absorb_other {name : String} (other : name ≠ entry.name) (o : AccessOptions) (value : Property) :
    entry.Same (o.absorb name value) o := by
  unfold absorb
  cases entry <;> split <;> first | rfl | exact absurd rfl other | (split <;> rfl)

theorem absorb_own {o o' : AccessOptions} (value : Property) (same : entry.Same o o') :
    entry.Same (o.absorb entry.name value) (o'.absorb entry.name value) := by
  cases entry with
  | offset =>
      change (o.absorb "offset" value).offset = (o'.absorb "offset" value).offset
      unfold absorb
      cases value.asNumber? with
      | none => exact same
      | some offset => rfl
  | _ => rfl

theorem ofMap_same (entry : AccessEntry) (entries : PropertyMap) : entry.Same (ofMap entries)
    ((entries.get? entry.name).elim (atOffset 0) ((atOffset 0).absorb entry.name)) :=
  Dict.foldl_toList entry.same_equivalence (fun o _ value other => absorb_other other o value)
    (fun value same => absorb_own value same) entries (entry.same_equivalence.refl _)

end AccessOptions

namespace Wire

def Value.unwrapped : Value → Value
  | variant inner => inner.unwrapped
  | v => v

theorem Value.toProperty?_unwrapped (v : Value) : v.unwrapped.toProperty? = v.toProperty? := by
  fun_induction Value.unwrapped v with
  | case1 inner ih => exact ih
  | case2 v other => rfl

theorem Value.unwrapped_ne_variant (v inner : Value) : v.unwrapped ≠ variant inner := by
  fun_induction Value.unwrapped v with
  | case1 _ ih => exact ih
  | case2 v other => exact fun same => other inner same

end Wire

namespace AccessEntry
open Wire

def expects : AccessEntry → Value → Bool
  | offset, .byte _ | offset, .u16 _ | offset, .u32 _ => true
  | mtu, .byte _ | mtu, .u16 _ => true
  | mtu, .u32 n => n.toNat < UInt16.size
  | device, .path text => (ObjectPath.ofText? text).isSome
  | link, .str _ | kind, .str _ => true
  | prepareAuthorize, .bool _ => true
  | _, _ => false

theorem absorb_unexpected {entry : AccessEntry} {v : Value} (unexpected : entry.expects v = false)
    (bare : ∀ inner, v ≠ .variant inner) {p : Property} (read : v.toProperty? = some p) :
    entry.Same ((AccessOptions.atOffset 0).absorb entry.name p) (.atOffset 0) := by
  revert read
  fun_cases Value.toProperty? v <;> intro read
  case case7 text =>
    obtain ⟨path, parsed, rfl⟩ := Option.map_eq_some_iff.mp read
    cases entry with
    | device => simp [expects, parsed] at unexpected
    | _ => rfl
  case case8 inner => exact absurd rfl (bare inner)
  case case12 => cases read
  case case5 n =>
    cases read
    cases entry with
    | offset => cases unexpected
    | mtu =>
        have wide : ¬ n.toNat < UInt16.size := by simpa [expects] using unexpected
        exact if_neg wide
    | _ => rfl
  all_goals
    cases read
    cases entry <;> first | rfl | cases unexpected

end AccessEntry

namespace Wire

/-! ## Dictionaries -/

/-- What a dictionary says about an entry: the value out of its variants, if it is one that is expected. -/
def heeded (options : ValueMap) (entry : AccessEntry) : Option Value :=
  ((options.get? entry.name).map Value.unwrapped).filter entry.expects

theorem accessOptions_same (options : ValueMap) (entry : AccessEntry) : entry.Same (accessOptions options)
    (((heeded options entry).bind Value.toProperty?).elim (.atOffset 0)
      ((AccessOptions.atOffset 0).absorb entry.name)) := by
  refine entry.same_equivalence.trans (AccessOptions.ofMap_same entry _) ?_
  rw [decodeMap, Dict.get?_filterMap, heeded]
  cases options.get? entry.name with
  | none => exact entry.same_equivalence.refl _
  | some v =>
      rw [Option.bind_some, Option.map_some, Option.filter_some, ← v.toProperty?_unwrapped]
      cases expected : entry.expects v.unwrapped with
      | true => exact entry.same_equivalence.refl _
      | false =>
          cases read : v.unwrapped.toProperty? with
          | none => exact entry.same_equivalence.refl _
          | some p => exact AccessEntry.absorb_unexpected expected v.unwrapped_ne_variant read

theorem same_of_heeded {a b : ValueMap} {entry : AccessEntry} (same : heeded a entry = heeded b entry) :
    entry.Same (accessOptions a) (accessOptions b) := by
  have there := entry.same_equivalence.symm (accessOptions_same b entry)
  rw [← same] at there
  exact entry.same_equivalence.trans (accessOptions_same a entry) there

def Agree (a b : ValueMap) : Prop := ∀ entry, heeded a entry = heeded b entry

theorem Agree.accessOptions {a b : ValueMap} (agree : Agree a b) : accessOptions a = accessOptions b :=
  AccessOptions.eq_of_same fun entry => same_of_heeded (agree entry)

def legible (options : ValueMap) : Bool := (textsIn options).all isReadable

/-! ### Without what nobody heeds -/

def isHeeded (name : String) (v : Value) : Bool :=
  AccessEntry.all.any fun entry => entry.name == name && entry.expects v.unwrapped

theorem isHeeded_name (entry : AccessEntry) (v : Value) :
    isHeeded entry.name v = entry.expects v.unwrapped := by
  rw [Bool.eq_iff_iff, isHeeded, List.any_eq_true]
  constructor
  · rintro ⟨other, -, meant⟩
    rw [Bool.and_eq_true, beq_iff_eq] at meant
    exact AccessEntry.name_injective meant.1 ▸ meant.2
  · exact fun expected => ⟨entry, entry.mem_all, by simp [expected]⟩

def pruned (options : ValueMap) : ValueMap :=
  options.filterMap fun name v => if isHeeded name v then some v else none

theorem heeded_pruned (options : ValueMap) (entry : AccessEntry) :
    heeded (pruned options) entry = heeded options entry := by
  rw [heeded, heeded, pruned, Dict.get?_filterMap]
  cases options.get? entry.name with
  | none => rfl
  | some v =>
      rw [Option.bind_some, isHeeded_name]
      cases expected : entry.expects v.unwrapped with
      | true => rfl
      | false => exact (Option.filter_some_neg (by simp [expected])).symm

theorem legible_pruned {options : ValueMap} (whole : legible options = true) : legible (pruned options) = true := by
  simp only [legible, textsIn, List.all_eq_true, List.mem_flatMap] at whole ⊢
  rintro text ⟨⟨name, v⟩, member, inside⟩
  refine whole text ⟨(name, v), ?_, inside⟩
  rw [Dict.mem_toList_iff, pruned, Dict.get?_filterMap, Option.bind_eq_some_iff] at member
  obtain ⟨v', found, kept⟩ := member
  cases (Option.ite_none_right_eq_some.mp kept).2
  exact Dict.mem_toList_iff.mpr found

/-! ## Accesses -/

section Accesses

variable {α : Type} {path : ObjectPath} {kind : ObjectKind} {a b : ValueMap}

/-- No access tells the dictionaries apart: neither its answer nor anything that it does to the host. -/
structure Alike (a b : ValueMap) : Prop where
  options : accessOptions a = accessOptions b
  read : ∀ path kind h, readRemote path kind a h = readRemote path kind b h
  write : ∀ path kind bytes h, writeRemote path kind bytes a h = writeRemote path kind bytes b h

theorem alike_of_accessOptions (same : accessOptions a = accessOptions b) (arrive : legible a = legible b) :
    Alike a b := by
  rw [legible, legible] at arrive
  constructor
  · exact same
  · intro path kind h
    simp only [readRemote, onLive, same, arrive]
  · intro path kind bytes h
    simp only [writeRemote, onLive, same, arrive]

structure Refused (path : ObjectPath) (kind : ObjectKind)
    (access : Host Link → Except RemoteError α × Host Link) : Prop where
  unchanged : ∀ h, (access h).2 = h
  answer : ∀ h node, resolve h.channel.bus path kind.interface = .ok node → holdsValue kind = true →
    (access h).1 = .error (.unknown Names.unreadable)

theorem refused_of_illegible (illegible : legible a = false)
    (act : NodeRef → Host Link → Option (Except GattError α) × Host Link) :
    Refused path kind (onLive path kind a act) := by
  rw [legible] at illegible
  constructor
  · intro h
    unfold onLive
    cases resolve h.channel.bus path kind.interface with
    | error e => rfl
    | ok node => cases holdsValue kind <;> simp [illegible]
  · intro h node found holds
    simp [onLive, found, holds, illegible]

/-- Dictionaries that say the same about the six entries are alike, as long as the far end can read both or
neither. One that it can read is alike to what is heeded of it, and one that it cannot read is refused. -/
theorem options_heeded (a b : ValueMap) :
    (∀ entry, heeded a entry = heeded b entry → entry.Same (accessOptions a) (accessOptions b)) ∧
      (Agree a b → legible a = legible b → Alike a b) ∧
      (legible a = true → Alike (pruned a) a) ∧
      (legible a = false → ∀ path kind,
        Refused path kind (readRemote path kind a) ∧ ∀ bytes, Refused path kind (writeRemote path kind bytes a)) := by
  refine ⟨fun _ => same_of_heeded, fun agree => alike_of_accessOptions agree.accessOptions, fun whole => ?_,
    fun illegible path kind => ?_⟩
  · have agree : Agree (pruned a) a := heeded_pruned a
    exact alike_of_accessOptions agree.accessOptions ((legible_pruned whole).trans whole.symm)
  · exact ⟨refused_of_illegible illegible _, fun _ => refused_of_illegible illegible _⟩

end Accesses

def levelPath : ObjectPath :=
  (ObjectPath.root.push (Element.service.numbered 0)).push (Element.char.numbered 0)

def linkedLevel : Host Link :=
  let h : Host Link := .new (.new .empty) .root .root .standard
  let tree := Edit.apply (.characteristic 0 .batteryLevel (.ofList [.read]) .empty)
    (Edit.apply (.service .batteryService true) h.application)
  (Host.setAttribute (.characteristic 0 0) [1, 2] (Host.publishApplication.run { h with application := tree }).2).2

def wrappedOffset : ValueMap := .ofList [("offset", .variant (.variant (.u16 1))), ("x", .f64 0)]

def plainOffset : ValueMap := .ofList [("mtu", .u32 70000), ("offset", .u16 1)]

theorem options_heeded_offset : Agree wrappedOffset plainOffset ∧
    readRemote levelPath .characteristic wrappedOffset linkedLevel =
      readRemote levelPath .characteristic plainOffset linkedLevel ∧
    (readRemote levelPath .characteristic plainOffset linkedLevel).1 = .ok [2] := by
  have agree : Agree wrappedOffset plainOffset := fun entry => by cases entry <;> rfl
  have alike := (options_heeded wrappedOffset plainOffset).2.1 agree (by decide +kernel)
  exact ⟨agree, alike.read levelPath .characteristic linkedLevel, rfl⟩

def spoilingOption : ValueMap := .ofList [("x", .array .str [.str "ok", .str "\x00"])]

theorem unreadable_option_shows : Agree spoilingOption .empty ∧
    (readRemote levelPath .characteristic .empty linkedLevel).1 = .ok [1, 2] ∧
    (readRemote levelPath .characteristic spoilingOption linkedLevel).1 = .error (.unknown Names.unreadable) :=
  ⟨fun entry => by cases entry <;> rfl, rfl, rfl⟩

end Wire
end GattPeripheral
