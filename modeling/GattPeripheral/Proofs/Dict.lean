import GattPeripheral.Dict

/-!
# Dictionaries and their entries

`mem_toList_iff`: looking a key up finds its entry. `entries_ofList_perm`: pairs with different keys are the entries of
the dictionary made from them, up to order. So the entries of a dictionary give it back in any order
(`ofList_eq_of_perm`). `foldl_toList`: where only one key's entry matters, a pass over all entries is as good as a look
at that one.
-/

namespace GattPeripheral.Dict

variable {κ ν : Type} [Ord κ] [Std.TransOrd κ]

/-! ## Pairs with different keys -/

omit [Std.TransOrd κ] in
theorem insertEntry_perm {k : κ} {v : ν} {l : List (κ × ν)} (other : ∀ e ∈ l, compare k e.1 ≠ .eq) :
    (insertEntry k v l).Perm ((k, v) :: l) := by
  induction l with
  | nil => exact .refl _
  | cons e l ih =>
      rw [List.forall_mem_cons] at other
      rw [insertEntry]
      cases order : compare k e.1 with
      | lt => exact .refl _
      | eq => exact absurd order other.1
      | gt => exact ((ih other.2).cons e).trans (.swap _ _ _)

theorem lookup_of_mem {k : κ} {v : ν} {l : List (κ × ν)}
    (ordered : l.Pairwise fun a b => compare a.1 b.1 = .lt) (member : (k, v) ∈ l) : lookup k l = some v := by
  induction l with
  | nil => cases member
  | cons e l ih =>
      rw [List.pairwise_cons] at ordered
      rcases List.mem_cons.mp member with rfl | later
      · simp [lookup]
      · have above : compare k e.1 = .gt := Std.OrientedCmp.gt_of_lt (ordered.1 _ later)
        simp only [lookup, above, reduceCtorEq, if_false]
        exact ih ordered.2 later

theorem get?_of_mem {d : Dict κ ν} {k : κ} {v : ν} (member : (k, v) ∈ d.entries) : d.get? k = some v :=
  lookup_of_mem d.ordered member

variable [Std.LawfulEqOrd κ]

omit [Std.TransOrd κ] in
theorem mem_of_lookup {k : κ} {v : ν} {l : List (κ × ν)} (found : lookup k l = some v) : (k, v) ∈ l := by
  induction l with
  | nil => cases found
  | cons e l ih =>
      rw [lookup] at found
      split at found
      next same =>
        cases found
        rw [Std.LawfulEqOrd.eq_of_compare same]
        exact List.mem_cons_self
      next => exact List.mem_cons_of_mem e (ih found)

theorem mem_toList_iff {d : Dict κ ν} {k : κ} {v : ν} : (k, v) ∈ d.toList ↔ d.get? k = some v :=
  ⟨get?_of_mem, mem_of_lookup⟩

theorem get?_filterMap {μ : Type} (f : κ → ν → Option μ) (d : Dict κ ν) (k : κ) :
    (d.filterMap f).get? k = (d.get? k).bind (f k) := by
  ext w
  rw [← mem_toList_iff, Option.bind_eq_some_iff]
  simp only [← mem_toList_iff, toList, filterMap, List.mem_filterMap, Option.map_eq_some_iff, Prod.mk.injEq]
  constructor
  · rintro ⟨⟨k', v⟩, member, w', kept, rfl, rfl⟩
    exact ⟨v, member, kept⟩
  · rintro ⟨v, member, kept⟩
    exact ⟨(k, v), member, w, kept, rfl, rfl⟩

omit [Std.LawfulEqOrd κ] in
theorem nodup_toList (d : Dict κ ν) : d.toList.Nodup :=
  d.ordered.imp fun {a b} below same => by
    rw [same, Std.ReflOrd.compare_self] at below
    cases below

omit [Std.LawfulEqOrd κ] in
theorem nodup_keys (d : Dict κ ν) : (d.entries.map Prod.fst).Nodup :=
  List.pairwise_map.mpr (d.ordered.imp fun {a b} below same => by
    rw [same, Std.ReflOrd.compare_self] at below
    cases below)

section Equality
variable [DecidableEq κ]

theorem get?_insert_eq (d : Dict κ ν) (k k' : κ) (v : ν) :
    (d.insert k v).get? k' = if k' = k then some v else d.get? k' := by
  rw [get?_insert]
  simp only [Std.LawfulEqCmp.compare_eq_iff_eq]

theorem get?_erase_eq (d : Dict κ ν) (k k' : κ) :
    (d.erase k).get? k' = if k' = k then none else d.get? k' := by
  rw [get?_erase]
  simp only [Std.LawfulEqCmp.compare_eq_iff_eq]

end Equality

theorem entries_foldl_perm {l : List (κ × ν)} (d : Dict κ ν)
    (distinct : ((d.entries ++ l).map Prod.fst).Nodup) :
    (l.foldl (fun d e => d.insert e.1 e.2) d).entries.Perm (d.entries ++ l) := by
  induction l generalizing d with
  | nil => simp
  | cons e l ih =>
      have other : ∀ old ∈ d.entries, compare e.1 old.1 ≠ .eq := by
        intro old member same
        rw [List.map_append, List.nodup_append] at distinct
        refine distinct.2.2 _ (List.mem_map_of_mem member) _ List.mem_cons_self ?_
        exact (Std.LawfulEqOrd.eq_of_compare same).symm
      have here : (d.insert e.1 e.2).entries.Perm (e :: d.entries) := insertEntry_perm other
      have all : ((d.insert e.1 e.2).entries ++ l).Perm (d.entries ++ e :: l) :=
        (here.append_right l).trans List.perm_middle.symm
      rw [List.foldl_cons]
      exact (ih _ ((all.map Prod.fst).nodup_iff.mpr distinct)).trans all

theorem entries_ofList_perm {l : List (κ × ν)} (distinct : (l.map Prod.fst).Nodup) :
    (ofList l).entries.Perm l := entries_foldl_perm empty distinct

theorem ofList_eq_of_perm {l : List (κ × ν)} {d : Dict κ ν} (perm : l.Perm d.toList) : ofList l = d := by
  have distinct : (l.map Prod.fst).Nodup := (perm.map Prod.fst).nodup_iff.mpr d.nodup_keys
  have same := (entries_ofList_perm distinct).trans perm
  ext1
  refine same.eq_of_pairwise (fun a b _ _ below above => ?_) (ofList l).ordered d.ordered
  rw [Std.OrientedCmp.gt_of_lt above] at below
  cases below

theorem get?_ofList_of_mem {l : List (κ × ν)} (distinct : (l.map Prod.fst).Nodup) {k : κ} {v : ν}
    (member : (k, v) ∈ l) : (ofList l).get? k = some v :=
  get?_of_mem ((entries_ofList_perm distinct).mem_iff.mpr member)

/-! ## Passes over the entries -/

section Passes

variable {σ : Type} {step : σ → κ → ν → σ} {R : σ → σ → Prop} {k : κ} (alike : Equivalence R)
  (others : ∀ s k' v, k' ≠ k → R (step s k' v) s)
include alike others

omit [Ord κ] [Std.TransOrd κ] [Std.LawfulEqOrd κ] in
theorem foldl_spared {l : List (κ × ν)} (absent : ∀ e ∈ l, e.1 ≠ k) (s : σ) :
    R (l.foldl (fun s e => step s e.1 e.2) s) s := by
  induction l generalizing s with
  | nil => exact alike.refl s
  | cons e l ih =>
      rw [List.forall_mem_cons] at absent
      exact alike.trans (ih absent.2 _) (others s e.1 e.2 absent.1)

omit [Std.TransOrd κ] in
theorem foldl_toList (own : ∀ {s t} v, R s t → R (step s k v) (step t k v)) (d : Dict κ ν) {s t : σ}
    (start : R s t) : R (d.toList.foldl (fun s e => step s e.1 e.2) s) ((d.get? k).elim t (step t k)) := by
  obtain ⟨l, ordered⟩ := d
  change R (l.foldl _ s) ((lookup k l).elim _ _)
  induction l generalizing s with
  | nil => exact start
  | cons e l ih =>
      obtain ⟨k', v⟩ := e
      rw [List.pairwise_cons] at ordered
      rw [List.foldl_cons, lookup]
      by_cases here : k = k'
      · subst here
        -- The keys ascend, so no later entry has this one.
        have absent : ∀ e ∈ l, e.1 ≠ k := fun e member same => by
          have below := ordered.1 e member
          rw [same, Std.ReflOrd.compare_self] at below
          cases below
        rw [Std.ReflOrd.compare_self]
        exact alike.trans (foldl_spared alike others absent _) (own v start)
      · rw [if_neg (here ∘ Std.LawfulEqOrd.eq_of_compare)]
        exact ih (alike.trans (others s k' v (Ne.symm here)) start) ordered.2

end Passes

end GattPeripheral.Dict
