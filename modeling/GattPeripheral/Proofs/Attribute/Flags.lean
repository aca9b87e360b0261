import GattPeripheral.Attribute.Flags
import GattPeripheral.Attribute.Permissions
import GattPeripheral.Proofs.Except
import Mathlib.Logic.Function.Basic

/-!
# Sets of flags and of permissions

Such a set is known by what it contains, since every member has a bit of its own and there are no other bits. A list of
names is read as the set of all that is named in it, which is what `Flags.parse_eq_ok_iff` and
`Permissions.parse_eq_ok_iff` say.
-/

namespace GattPeripheral

variable {ν σ ε : Type}

/-! ## Members -/

/-- All members, each in the place of its bit and with a name of its own. -/
structure Roster (all : List ν) (position : ν → Nat) (name : ν → String) : Prop where
  row : ∀ x, all[position x]? = some x
  number : ∀ i : Fin all.length, position all[i] = i
  find : ∀ x, all.find? (fun y => name y == name x) = some x

namespace Roster

variable {all : List ν} {position : ν → Nat} {name : ν → String} (roster : Roster all position name)
include roster

theorem position_lt (x : ν) : position x < all.length := (List.getElem?_eq_some_iff.mp (roster.row x)).1

theorem mem (x : ν) : x ∈ all := List.mem_of_getElem? (roster.row x)

theorem position_injective : Function.Injective position := fun x y same =>
  Option.some.inj ((roster.row x).symm.trans (same ▸ roster.row y))

theorem name_injective : Function.Injective name := fun x y same =>
  Option.some.inj ((roster.find x).symm.trans (same ▸ roster.find y))

omit roster in
theorem find?_unknown {n : String} (unknown : ¬ ∃ x, name x = n) : all.find? (fun y => name y == n) = none :=
  List.find?_eq_none.mpr fun x _ same => unknown ⟨x, beq_iff_eq.mp same⟩

theorem getLsbD_insert (bits : BitVec all.length) (x y : ν) :
    (bits ||| BitVec.twoPow all.length (position x)).getLsbD (position y) = true ↔
      bits.getLsbD (position y) = true ∨ x = y := by
  simp [roster.position_lt, roster.position_injective.eq_iff, eq_comm (a := y)]

theorem bits_ext {bits bits' : BitVec all.length}
    (same : ∀ x, bits.getLsbD (position x) = bits'.getLsbD (position x)) : bits = bits' := by
  apply BitVec.eq_of_getLsbD_eq
  intro i inside
  have here := same all[(⟨i, inside⟩ : Fin all.length)]
  rwa [roster.number] at here

end Roster

/-! ## Sets -/

structure Sets (contains : σ → ν → Bool) (insert : σ → ν → σ) (empty : σ) : Prop where
  ext : ∀ {s t}, (∀ x, contains s x = contains t x) → s = t
  inserted : ∀ s x y, contains (insert s x) y = true ↔ contains s y = true ∨ x = y
  nothing : ∀ x, contains empty x = false

namespace Sets

variable {contains : σ → ν → Bool} {insert : σ → ν → σ} {empty : σ} (sets : Sets contains insert empty)
include sets

theorem contains_foldl (xs : List ν) (s : σ) (y : ν) :
    contains (xs.foldl insert s) y = true ↔ contains s y = true ∨ y ∈ xs := by
  induction xs generalizing s with
  | nil => simp
  | cons x xs ih => rw [List.foldl_cons, ih, sets.inserted, List.mem_cons, or_assoc, eq_comm (a := x)]

theorem contains_collected (xs : List ν) (y : ν) : contains (xs.foldl insert empty) y = true ↔ y ∈ xs := by
  rw [sets.contains_foldl, sets.nothing, Bool.false_eq_true, false_or]

theorem foldlM_names {name : ν → String} (different : Function.Injective name) {step : σ → String → Except ε σ}
    (known : ∀ s x, step s (name x) = .ok (insert s x))
    (unknown : ∀ s n, (¬ ∃ x, name x = n) → ∃ e, step s n = .error e) (names : List String) (s t : σ) :
    names.foldlM step s = .ok t ↔
      (∀ n ∈ names, ∃ x, name x = n) ∧ ∀ x, contains t x = true ↔ contains s x = true ∨ name x ∈ names := by
  induction names generalizing s with
  | nil =>
      have same : t = s ↔ ∀ x, contains t x = contains s x := ⟨fun same _ => same ▸ rfl, sets.ext⟩
      simp [pure_eq_ok_iff, same]
  | cons n names ih =>
      rw [List.foldlM_cons, bind_eq_ok_iff, List.forall_mem_cons]
      by_cases named : ∃ x, name x = n
      · obtain ⟨x, rfl⟩ := named
        simp [known, ih, sets.inserted, different.eq_iff, or_assoc, eq_comm (b := x)]
      · obtain ⟨e, refused⟩ := unknown s n named
        simp [refused, named]

theorem exists_named_iff {all : List ν} {position : ν → Nat} {name : ν → String} (roster : Roster all position name)
    (names : List String) :
    (∃ s, (∀ n ∈ names, ∃ x, name x = n) ∧ ∀ x, contains s x = true ↔ name x ∈ names) ↔
      ∀ n ∈ names, ∃ x, name x = n := by
  refine ⟨fun ⟨_, known, _⟩ => known,
    fun known => ⟨(all.filter fun x => name x ∈ names).foldl insert empty, known, fun x => ?_⟩⟩
  simp [sets.contains_collected, roster.mem]

end Sets

/-! ## Flags -/

theorem Flag.roster : Roster all position name where
  row f := by cases f <;> rfl
  number := by decide
  find f := by cases f <;> rfl

namespace Flags

theorem sets : Sets contains insert empty where
  ext same := congrArg Flags.mk (Flag.roster.bits_ext same)
  inserted fs := Flag.roster.getLsbD_insert fs.bits
  nothing _ := BitVec.getLsbD_zero

def Named (names : List String) (fs : Flags) : Prop :=
  (∀ n ∈ names, ∃ f : Flag, f.name = n) ∧ ∀ f, fs.contains f = true ↔ f.name ∈ names

theorem parse_eq_ok_iff {names : List String} {fs : Flags} : parse names = .ok fs ↔ Named names fs := by
  refine (sets.foldlM_names Flag.roster.name_injective (fun s f => ?_) (fun s n unknown => ?_) names empty fs).trans ?_
  · rw [Flag.ofName?, Flag.roster.find]
  · rw [Flag.ofName?, Roster.find?_unknown unknown]
    exact ⟨_, rfl⟩
  · simp only [sets.nothing, Bool.false_eq_true, false_or, Named]

theorem notifies_iff {fs : Flags} : fs.notifies = true ↔ fs.contains .notify = true ∨ fs.contains .indicate = true := by
  rw [notifies, Bool.or_eq_true]

theorem notifies_eq_false_iff {fs : Flags} :
    fs.notifies = false ↔ fs.contains .notify = false ∧ fs.contains .indicate = false := by
  rw [notifies, Bool.or_eq_false_iff]

end Flags

/-! ## Permissions -/

theorem Permission.roster : Roster all position name where
  row p := by cases p <;> rfl
  number := by decide
  find p := by cases p <;> rfl

namespace Permissions

theorem sets : Sets contains insert empty where
  ext same := congrArg Permissions.mk (Permission.roster.bits_ext same)
  inserted ps := Permission.roster.getLsbD_insert ps.bits
  nothing _ := BitVec.getLsbD_zero

def Named (names : List String) (ps : Permissions) : Prop :=
  (∀ n ∈ names, ∃ p : Permission, p.name = n) ∧ ∀ p, ps.contains p = true ↔ p.name ∈ names

theorem parse_eq_ok_iff {names : List String} {ps : Permissions} : parse names = .ok ps ↔ Named names ps := by
  refine (sets.foldlM_names Permission.roster.name_injective (fun s p => ?_) (fun s n unknown => ?_) names empty
    ps).trans ?_
  · rw [Permission.ofName?, Permission.roster.find]
  · rw [Permission.ofName?, Roster.find?_unknown unknown]
    exact ⟨_, rfl⟩
  · simp only [sets.nothing, Bool.false_eq_true, false_or, Named]

end Permissions
end GattPeripheral
