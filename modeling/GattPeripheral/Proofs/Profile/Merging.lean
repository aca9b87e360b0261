import GattPeripheral.Proofs.Identifier
import GattPeripheral.Proofs.Tree.Frozen
import Mathlib.Data.List.Induction

/-!
# Entries that meet in one node

Entries of a list are told apart by identifiers. `firsts` are the first entries of their identifiers, `sharing` gives
all entries of one. `merged` makes a node of each, in the order of the first entries. `merged_concat` says what one more
entry changes: the node at the place where it `Lands`, which is new if no entry had its identifier before.
-/

namespace GattPeripheral.Profile

variable {η ν : Type} (identifier : η → Identifier)

def firsts (es : List η) : List η := es.eraseDupsBy fun x y => identifier x == identifier y

def sharing (e : η) (es : List η) : List η := es.filter fun x => identifier x == identifier e

/-- The nodes of a list of entries, each made from its position, its first entry and all of its entries. -/
def merged (make : Nat → η → List η → ν) (es : List η) : List ν :=
  (firsts identifier es).mapIdx fun position first => make position first (sharing identifier first es)

def EachNode (good : η → List η → Prop) (es : List η) : Prop :=
  ∀ first ∈ firsts identifier es, good first (sharing identifier first es)

variable {identifier} {es : List η} {e f x : η} {k : Nat}

/-! ## First entries -/

theorem eraseDupsBy_loop_concat {r : η → η → Bool} (es front : List η) (e : η) :
    List.eraseDupsBy.loop r (es ++ [e]) front =
      if (List.eraseDupsBy.loop r es front).any (r e) then List.eraseDupsBy.loop r es front
      else List.eraseDupsBy.loop r es front ++ [e] := by
  induction es generalizing front with
  | nil =>
      rw [List.nil_append, List.eraseDupsBy.loop, List.eraseDupsBy.loop, List.any_reverse]
      cases front.any (r e) with
      | true => rfl
      | false => exact List.reverse_cons
  | cons x es ih =>
      rw [List.cons_append, List.eraseDupsBy.loop, List.eraseDupsBy.loop]
      cases front.any (r x) <;> exact ih _

theorem firsts_concat (es : List η) (e : η) : firsts identifier (es ++ [e]) =
    if (firsts identifier es).any fun x => identifier e == identifier x then firsts identifier es
    else firsts identifier es ++ [e] := eraseDupsBy_loop_concat es [] e

theorem firsts_cases (identifier : η → Identifier) (es : List η) (e : η) :
    firsts identifier (es ++ [e]) = firsts identifier es ∧
        (∃ f ∈ firsts identifier es, (identifier f == identifier e) = true) ∨
      firsts identifier (es ++ [e]) = firsts identifier es ++ [e] ∧
        ∀ f ∈ firsts identifier es, (identifier f == identifier e) = false := by
  rw [firsts_concat]
  cases known : (firsts identifier es).any fun x => identifier e == identifier x with
  | true =>
      obtain ⟨f, member, same⟩ := List.any_eq_true.mp known
      exact .inl ⟨rfl, f, member, BEq.symm same⟩
  | false =>
      refine .inr ⟨rfl, fun f member => ?_⟩
      rw [BEq.comm]
      simpa using List.any_eq_false.mp known f member

theorem firsts_different (identifier : η → Identifier) (es : List η) :
    (firsts identifier es).Pairwise fun f g => (identifier f == identifier g) = false := by
  induction es using List.reverseRecOn with
  | nil => exact .nil
  | append_singleton es e ih =>
      rcases firsts_cases identifier es e with ⟨same, -⟩ | ⟨added, new⟩
      · rwa [same]
      · rw [added, List.pairwise_append]
        exact ⟨ih, List.pairwise_singleton _ _, fun f member _ last => List.mem_singleton.mp last ▸ new f member⟩

theorem exists_first (identifier : η → Identifier) (member : x ∈ es) :
    ∃ f ∈ firsts identifier es, (identifier f == identifier x) = true := by
  induction es using List.reverseRecOn with
  | nil => cases member
  | append_singleton es e ih =>
      rcases firsts_cases identifier es e with ⟨same, known⟩ | ⟨added, -⟩
      · rw [same]
        rcases List.mem_append.mp member with old | last
        · exact ih old
        · exact List.mem_singleton.mp last ▸ known
      · rw [added]
        rcases List.mem_append.mp member with old | last
        · obtain ⟨f, inside, same⟩ := ih old
          exact ⟨f, List.mem_append_left _ inside, same⟩
        · exact ⟨e, List.mem_append_right _ (List.mem_singleton_self _), List.mem_singleton.mp last ▸ BEq.rfl⟩

/-! ## Entries of one identifier -/

theorem sharing_congr (same : (identifier f == identifier e) = true) (es : List η) :
    sharing identifier f es = sharing identifier e es :=
  congrArg (List.filter · es) (funext fun _ => BEq.congr_right same)

theorem sharing_concat_same (same : (identifier f == identifier e) = true) (es : List η) :
    sharing identifier f (es ++ [e]) = sharing identifier f es ++ [e] := by
  rw [sharing, List.filter_append, List.filter_singleton, BEq.symm same]
  rfl

theorem sharing_concat_other (other : (identifier f == identifier e) = false) (es : List η) :
    sharing identifier f (es ++ [e]) = sharing identifier f es := by
  rw [BEq.comm] at other
  rw [sharing, List.filter_append, List.filter_singleton, other]
  exact List.append_nil _

theorem sharing_of_new (new : ∀ f ∈ firsts identifier es, (identifier f == identifier e) = false) :
    sharing identifier e es = [] := by
  rw [sharing, List.filter_eq_nil_iff]
  intro x member same
  obtain ⟨f, inside, first⟩ := exists_first identifier member
  cases (BEq.trans first same).symm.trans (new f inside)

/-! ## One more entry -/

variable (identifier) in
/-- The node of the last entry `e` is at position `k` and has the first entry `f`. -/
structure Lands (es : List η) (e : η) (k : Nat) (f : η) : Prop where
  row : (firsts identifier (es ++ [e]))[k]? = some f
  same : (identifier f == identifier e) = true

variable (identifier) in
/-- The nodes before the last entry `e` counts, though the node for it is there. -/
def opened (make : Nat → η → List η → ν) (es : List η) (e : η) : List ν :=
  (firsts identifier (es ++ [e])).mapIdx fun position first => make position first (sharing identifier first es)

theorem Lands.other (lands : Lands identifier es e k f) {i : Nat} {g : η} (elsewhere : i ≠ k)
    (row : (firsts identifier (es ++ [e]))[i]? = some g) : (identifier g == identifier e) = false := by
  have different := List.pairwise_iff_getElem.mp (firsts_different identifier (es ++ [e]))
  obtain ⟨bound, rfl⟩ := List.getElem?_eq_some_iff.mp row
  obtain ⟨bound', rfl⟩ := List.getElem?_eq_some_iff.mp lands.row
  rw [← BEq.congr_right lands.same]
  rcases Nat.lt_or_gt_of_ne elsewhere with before | after
  · exact different _ _ bound bound' before
  · rw [BEq.comm]
    exact different _ _ bound' bound after

theorem Lands.getElem?_opened (lands : Lands identifier es e k f) (make : Nat → η → List η → ν) :
    (opened identifier make es e)[k]? = some (make k f (sharing identifier e es)) := by
  rw [opened, List.getElem?_mapIdx, lands.row, Option.map_some, sharing_congr lands.same]

theorem merged_concat (lands : Lands identifier es e k f) (make : Nat → η → List η → ν) :
    merged identifier make (es ++ [e]) =
      (opened identifier make es e).set k (make k f (sharing identifier e es ++ [e])) := by
  apply List.ext_getElem?
  intro i
  rw [merged, opened, List.getElem?_set, List.getElem?_mapIdx, List.getElem?_mapIdx, List.length_mapIdx]
  by_cases here : k = i
  · subst here
    have bound := (List.getElem?_eq_some_iff.mp lands.row).1
    rw [if_pos rfl, if_pos bound, lands.row, Option.map_some, sharing_concat_same lands.same,
      sharing_congr lands.same]
  · rw [if_neg here]
    cases row : (firsts identifier (es ++ [e]))[i]? with
    | none => rfl
    | some g => rw [Option.map_some, Option.map_some, sharing_concat_other (lands.other (Ne.symm here) row)]

section Numbered
variable (make : Nat → η → List η → ν) {path : ν → ObjectPath} {parent : ObjectPath} {stem : Element}
  (placed : ∀ position first group, path (make position first group) = parent.push (stem.numbered position))
include placed

theorem map_path_merged (es : List η) : (merged identifier make es).map path =
    (List.range (merged identifier make es).length).map fun position => parent.push (stem.numbered position) := by
  apply List.ext_getElem
  · rw [List.length_map, List.length_map, List.length_range]
  · intro i _ _
    simp only [merged, List.getElem_map, List.getElem_mapIdx, List.getElem_range, placed]

theorem freeChild_merged (es : List η) : parent.freeChild stem ((merged identifier make es).map path) =
    parent.push (stem.numbered (merged identifier make es).length) := by
  rw [map_path_merged make placed, ObjectPath.freeChild_range]

end Numbered

section Finding
variable (make : Nat → η → List η → ν) (named : ν → Identifier)
  (names : ∀ position first group, named (make position first group) = identifier first)
include names

theorem map_named_merged (es : List η) :
    (merged identifier make es).map named = (firsts identifier es).map identifier := by
  apply List.ext_getElem?
  intro i
  rw [List.getElem?_map, List.getElem?_map, merged, List.getElem?_mapIdx, Option.map_map]
  exact congrArg (Option.map · _) (funext fun first => names i first _)

theorem siblings_merged {path : ν → ObjectPath} {parent : ObjectPath} {stem : Element}
    (placed : ∀ position first group, path (make position first group) = parent.push (stem.numbered position))
    (es : List η) :
    Siblings stem parent ((merged identifier make es).map path) ((merged identifier make es).map named) := by
  have numbers : ((List.range (merged identifier make es).length).map fun position =>
      parent.push (stem.numbered position)).Nodup := by
    refine List.nodup_range.map fun m n same => Element.numbered_text_injective stem ?_
    have names := congrArg ObjectPath.name same
    rwa [ObjectPath.name_push, ObjectPath.name_push] at names
  constructor
  · intro p member
    rw [map_path_merged make placed] at member
    obtain ⟨position, -, rfl⟩ := List.mem_map.mp member
    exact ⟨position, rfl⟩
  · rwa [map_path_merged make placed]
  · rw [map_named_merged make named names, List.pairwise_map]
    exact firsts_different identifier es

theorem merged_cases (es : List η) (e : η) :
    (∃ k f, (merged identifier make es).findIdx? (fun x => named x == identifier e) = some k ∧
        Lands identifier es e k f ∧ opened identifier make es e = merged identifier make es) ∨
      (merged identifier make es).findIdx? (fun x => named x == identifier e) = none ∧
        Lands identifier es e (merged identifier make es).length e ∧
        opened identifier make es e =
          merged identifier make es ++ [make (merged identifier make es).length e []] := by
  have found : (merged identifier make es).findIdx? (fun x => named x == identifier e) =
      (firsts identifier es).findIdx? fun f => identifier f == identifier e := by
    have both := congrArg (List.findIdx? (· == identifier e)) (map_named_merged make named names es)
    rwa [List.findIdx?_map, List.findIdx?_map] at both
  have length : (merged identifier make es).length = (firsts identifier es).length := List.length_mapIdx
  rw [found, length]
  rcases firsts_cases identifier es e with ⟨same, f, member, known⟩ | ⟨added, new⟩
  · left
    rcases Application.findIdx?_cases (fun f => identifier f == identifier e) (firsts identifier es) with
      ⟨k, g, position, row, named⟩ | ⟨-, none⟩
    · exact ⟨k, g, position, ⟨same ▸ row, named⟩, by rw [opened, same, merged]⟩
    · cases known.symm.trans (none f member)
  · right
    refine ⟨List.findIdx?_eq_none_iff.mpr new, ⟨?_, BEq.rfl⟩, ?_⟩
    · rw [added, List.getElem?_append_right (Nat.le_refl _), Nat.sub_self]
      rfl
    · rw [opened, added, List.mapIdx_concat, merged, sharing_of_new new]

end Finding

/-! ## Conditions on the entries of a node -/

variable {good : η → List η → Prop}

theorem exists_lands (identifier : η → Identifier) (es : List η) (e : η) : ∃ k f, Lands identifier es e k f := by
  have member : e ∈ es ++ [e] := List.mem_append_right es (List.mem_singleton_self e)
  obtain ⟨f, member, same⟩ := exists_first identifier member
  obtain ⟨k, row⟩ := List.getElem?_of_mem member
  exact ⟨k, f, row, same⟩

theorem Lands.sharing (lands : Lands identifier es e k f) :
    f ∈ firsts identifier es ∨ f = e ∧ sharing identifier e es = [] := by
  have member := List.mem_of_getElem? lands.row
  rcases firsts_cases identifier es e with ⟨same, -⟩ | ⟨added, new⟩
  · exact .inl (same ▸ member)
  · rw [added] at member
    rcases List.mem_append.mp member with old | last
    · exact .inl old
    · exact .inr ⟨List.mem_singleton.mp last, sharing_of_new new⟩

theorem EachNode.before (each : EachNode identifier good es) (lands : Lands identifier es e k f) (none : good f []) :
    good f (Profile.sharing identifier e es) := by
  rcases lands.sharing with member | ⟨-, new⟩
  · rw [← sharing_congr lands.same]
    exact each f member
  · rwa [new]

theorem eachNode_concat (shrinks : ∀ f group e, good f (group ++ [e]) → good f group)
    (lands : Lands identifier es e k f) : EachNode identifier good (es ++ [e]) ↔
      EachNode identifier good es ∧ good f (Profile.sharing identifier e es ++ [e]) := by
  have own : Profile.sharing identifier f (es ++ [e]) = Profile.sharing identifier e es ++ [e] := by
    rw [sharing_concat_same lands.same, sharing_congr lands.same]
  constructor
  · intro each
    refine ⟨fun g member => ?_, own ▸ each f (List.mem_of_getElem? lands.row)⟩
    have kept : g ∈ firsts identifier (es ++ [e]) := by
      rcases firsts_cases identifier es e with ⟨same, -⟩ | ⟨added, -⟩
      · rwa [same]
      · rw [added]
        exact List.mem_append_left _ member
    have now := each g kept
    cases same : identifier g == identifier e with
    | true =>
        rw [sharing_concat_same same] at now
        exact shrinks g _ e now
    | false => rwa [sharing_concat_other same] at now
  · rintro ⟨each, last⟩ g member
    obtain ⟨i, row⟩ := List.getElem?_of_mem member
    by_cases here : i = k
    · subst here
      obtain rfl := Option.some.inj (row.symm.trans lands.row)
      rwa [own]
    · have other := lands.other here row
      rw [sharing_concat_other other]
      refine each g ?_
      rcases firsts_cases identifier es e with ⟨same, -⟩ | ⟨added, -⟩
      · rwa [same] at member
      · rw [added] at member
        rcases List.mem_append.mp member with old | last
        · exact old
        · rw [List.mem_singleton.mp last, BEq.rfl] at other
          cases other

theorem EachNode.shrinks (shrinks : ∀ f group e, good f (group ++ [e]) → good f group) (es : List η) (e : η)
    (each : EachNode identifier good (es ++ [e])) : EachNode identifier good es := by
  obtain ⟨k, f, lands⟩ := exists_lands identifier es e
  exact ((eachNode_concat shrinks lands).mp each).1

end GattPeripheral.Profile
