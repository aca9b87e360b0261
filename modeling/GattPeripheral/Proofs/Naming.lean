import GattPeripheral.Tree.Topology
import Mathlib.Data.List.Nodup
import Mathlib.Data.List.Perm.Subperm

/-!
# Names of new nodes

`freeNumber_free` and `freeNumber_least`: the number given to a new node is the least one that no
sibling is named by. The search finds it, and goes on to its last number exactly if the siblings are
named by those before (`freeNumber_eq_length_iff`). `Siblings` is what the paths and identifiers of
the children of one node satisfy; `Siblings.add` says that a new child at its free path keeps it.
-/

namespace GattPeripheral

theorem Element.toString_injective {m n : Nat} (same : toString m = toString n) : m = n := by
  have digits := congrArg String.toList same
  simp only [Nat.toString_eq_ofList_toDigits, String.toList_ofList] at digits
  rw [← Nat.ofDigitChars_ten_toDigits (n := m), digits, Nat.ofDigitChars_ten_toDigits]

theorem append_number_injective (stem : String) : Function.Injective fun n : Nat => stem ++ toString n := by
  intro m n same
  have lists := congrArg String.toList same
  simp only [String.toList_append, List.append_cancel_left_eq] at lists
  exact Element.toString_injective (String.toList_inj.mp lists)

@[simp] theorem Element.text_numbered (stem : Element) (n : Nat) :
    (stem.numbered n).text = stem.text ++ toString n :=
  rfl

theorem Element.numbered_text_injective (stem : Element) :
    Function.Injective fun n => (stem.numbered n).text :=
  append_number_injective stem.text

theorem nodup_eraseDups {α : Type} [BEq α] [LawfulBEq α] (xs : List α) : xs.eraseDups.Nodup := by
  induction count : xs.length using Nat.strongRecOn generalizing xs with
  | ind n ih =>
      cases xs with
      | nil => exact List.nodup_nil
      | cons x xs =>
          rw [List.eraseDups_cons, List.nodup_cons]
          have fewer : (xs.filter fun y => !y == x).length < n :=
            count ▸ Nat.lt_succ_of_le (List.length_filter_le _ xs)
          exact ⟨by simp, ih _ fewer _ rfl⟩

namespace ObjectPath

theorem ext {p q : ObjectPath} (same : p.elements = q.elements) : p = q := by
  cases p; cases q; exact congrArg mk same

/-! ## Free numbers -/

def candidates (stem : String) (n : Nat) : List String := (List.range n).map fun i => stem ++ toString i

theorem length_candidates (stem : String) (n : Nat) : (candidates stem n).length = n := by
  rw [candidates, List.length_map, List.length_range]

theorem mem_candidates {stem name : String} {n : Nat} :
    name ∈ candidates stem n ↔ ∃ m < n, name = stem ++ toString m := by
  simp only [candidates, List.mem_map, List.mem_range, eq_comm]

theorem nodup_candidates (stem : String) (n : Nat) : (candidates stem n).Nodup :=
  List.nodup_range.map (append_number_injective stem)

/-- Among the numbers up to the count of names one is not used, since there are more numbers than
names. -/
theorem exists_unused (stem : String) (names : List String) :
    ∃ n < names.length + 1, stem ++ toString n ∉ names := by
  by_contra used
  push Not at used
  have covered : candidates stem (names.length + 1) ⊆ names := by
    intro name member
    obtain ⟨n, inRange, rfl⟩ := mem_candidates.mp member
    exact used n inRange
  have := (List.subperm_of_subset (nodup_candidates stem _) covered).length_le
  rw [length_candidates] at this
  omega

section
variable (stem : String) (taken : List String)

theorem freeNumber_found : freeNumber? stem taken = some (freeNumber stem taken) := by
  obtain ⟨n, bound, unused⟩ := exists_unused stem taken.eraseDups
  have some : (freeNumber? stem taken).isSome := by
    rw [freeNumber?, List.find?_isSome]
    exact ⟨n, List.mem_range.mpr bound, by simpa using unused⟩
  obtain ⟨found, eq⟩ := Option.isSome_iff_exists.mp some
  rw [freeNumber, eq, Option.getD_some]

theorem freeNumber_free : stem ++ toString (freeNumber stem taken) ∉ taken := by
  have found := List.find?_some (freeNumber_found stem taken)
  simpa using found

theorem freeNumber_least {m : Nat} (below : m < freeNumber stem taken) : stem ++ toString m ∈ taken := by
  have found := List.find?_range_eq_some.mp (freeNumber_found stem taken)
  simpa using found.2.2 m below

theorem freeNumber_le : freeNumber stem taken ≤ taken.eraseDups.length := by
  have found := List.find?_range_eq_some.mp (freeNumber_found stem taken)
  exact Nat.le_of_lt_succ (List.mem_range.mp found.2.1)

theorem freeNumber_eq_length_iff : freeNumber stem taken = taken.eraseDups.length ↔
    ∀ name ∈ taken, ∃ m < freeNumber stem taken, name = stem ++ toString m := by
  constructor
  · intro last name member
    have covered : candidates stem (freeNumber stem taken) ⊆ taken.eraseDups := by
      intro name member
      obtain ⟨m, below, rfl⟩ := mem_candidates.mp member
      exact List.mem_eraseDups.mpr (freeNumber_least stem taken below)
    have all : (candidates stem (freeNumber stem taken)).Perm taken.eraseDups :=
      (List.subperm_of_subset (nodup_candidates stem _) covered).perm_of_length_le
        (by rw [length_candidates]; exact Nat.le_of_eq last.symm)
    exact mem_candidates.mp (all.mem_iff.mpr (List.mem_eraseDups.mpr member))
  · intro dense
    have covered : taken.eraseDups ⊆ candidates stem (freeNumber stem taken) :=
      fun name member => mem_candidates.mpr (dense name (List.mem_eraseDups.mp member))
    have fewer := (List.subperm_of_subset (nodup_eraseDups taken) covered).length_le
    rw [length_candidates] at fewer
    exact Nat.le_antisymm (freeNumber_le stem taken) fewer

theorem freeNumber_candidates (n : Nat) : freeNumber stem (candidates stem n) = n := by
  rcases Nat.lt_trichotomy (freeNumber stem (candidates stem n)) n with below | same | above
  · exact absurd (mem_candidates.mpr ⟨_, below, rfl⟩) (freeNumber_free stem (candidates stem n))
  · exact same
  · obtain ⟨m, below, same⟩ := mem_candidates.mp (freeNumber_least stem (candidates stem n) above)
    exact absurd (append_number_injective stem same) (Nat.ne_of_gt below)

end

/-! ## Free children -/

theorem name_push (p : ObjectPath) (e : Element) : (p.push e).name = e.text := by
  simp [name, push]

theorem push_free_not_mem (p : ObjectPath) (siblings : List ObjectPath) {stem : String} {e : Element}
    (named : e.text = stem ++ toString (freeNumber stem (siblings.map name))) : p.push e ∉ siblings := by
  intro member
  apply freeNumber_free stem (siblings.map name)
  rw [← named, ← name_push p]
  exact List.mem_map_of_mem member

theorem freeChild_not_mem (p : ObjectPath) (stem : Element) (siblings : List ObjectPath) :
    p.freeChild stem siblings ∉ siblings :=
  p.push_free_not_mem siblings (stem.text_numbered _)

theorem freeChild_range (p : ObjectPath) (stem : Element) (n : Nat) :
    p.freeChild stem ((List.range n).map fun i => p.push (stem.numbered i)) = p.push (stem.numbered n) := by
  have names : ((List.range n).map fun i => p.push (stem.numbered i)).map name = candidates stem.text n := by
    rw [List.map_map, candidates]
    simp only [Function.comp_def, name_push, Element.text_numbered]
  rw [freeChild, names, freeNumber_candidates]

theorem apart_of_push_ne {p q r : ObjectPath} {e f : Element} (different : p.push e ≠ p.push f)
    (left : (p.push e).elements <+: q.elements) (right : (p.push f).elements <+: r.elements) :
    q ≠ r := by
  rintro rfl
  apply different
  apply ext
  have lengths : (p.push e).elements.length = (p.push f).elements.length := by simp [push]
  exact (List.prefix_of_prefix_length_le left right (Nat.le_of_eq lengths)).eq_of_length lengths

theorem prefix_push (p : ObjectPath) (e : Element) : p.elements <+: (p.push e).elements :=
  ⟨[e], rfl⟩

theorem ne_of_prefix_push {p q : ObjectPath} {e : Element}
    (below : (p.push e).elements <+: q.elements) : p ≠ q := by
  rintro rfl
  have := below.length_le
  simp only [push, List.length_append, List.length_singleton] at this
  omega

end ObjectPath

structure Siblings (stem : Element) (parent : ObjectPath) (paths : List ObjectPath)
    (identifiers : List Identifier) : Prop where
  children : ∀ p ∈ paths, ∃ n, p = parent.push (stem.numbered n)
  apart : paths.Nodup
  different : identifiers.Pairwise fun u v => (u == v) = false

namespace Siblings

variable {stem : Element} {parent : ObjectPath} {paths : List ObjectPath}
  {identifiers : List Identifier}

theorem none (stem : Element) (parent : ObjectPath) : Siblings stem parent [] [] :=
  ⟨by simp, .nil, .nil⟩

theorem add (siblings : Siblings stem parent paths identifiers) {identifier : Identifier}
    (new : ∀ u ∈ identifiers, (u == identifier) = false) :
    Siblings stem parent (paths ++ [parent.freeChild stem paths]) (identifiers ++ [identifier]) where
  children p member := by
    rcases List.mem_append.mp member with old | added
    · exact siblings.children p old
    · exact ⟨_, List.mem_singleton.mp added⟩
  apart := by
    rw [List.nodup_append]
    refine ⟨siblings.apart, List.nodup_singleton _, ?_⟩
    intro p old q added same
    rw [List.mem_singleton] at added
    subst added same
    exact ObjectPath.freeChild_not_mem parent stem paths old
  different := by
    rw [List.pairwise_append]
    exact ⟨siblings.different, List.pairwise_singleton _ _, by simpa using new⟩

theorem sublist (siblings : Siblings stem parent paths identifiers) {paths' : List ObjectPath}
    {identifiers' : List Identifier} (fewerPaths : paths'.Sublist paths)
    (fewerIdentifiers : identifiers'.Sublist identifiers) : Siblings stem parent paths' identifiers' :=
  ⟨fun p member => siblings.children p (fewerPaths.subset member), siblings.apart.sublist fewerPaths,
    siblings.different.sublist fewerIdentifiers⟩

end Siblings
end GattPeripheral
