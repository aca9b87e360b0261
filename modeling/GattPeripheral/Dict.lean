/-!
Dictionaries that list their entries in ascending key order.

Every listing this library produces (property maps, object snapshots, device tables) is shown in key
order, so the order is part of the type: `ordered` says that the keys ascend strictly, which also
makes them distinct. Main statements: `get?_insert`, `get?_erase`.
-/

namespace GattPeripheral

/-- A finite map with its entries in strictly ascending key order. -/
structure Dict (κ ν : Type) [Ord κ] where
  entries : List (κ × ν)
  ordered : entries.Pairwise (fun a b => compare a.1 b.1 = .lt)

namespace Dict

variable {κ ν μ : Type} [Ord κ]

def empty : Dict κ ν := ⟨[], .nil⟩

instance : Inhabited (Dict κ ν) := ⟨empty⟩
instance : EmptyCollection (Dict κ ν) := ⟨empty⟩

@[ext] theorem ext {d e : Dict κ ν} (same : d.entries = e.entries) : d = e := by
  cases d; cases e; cases same; rfl

instance [DecidableEq κ] [DecidableEq ν] : DecidableEq (Dict κ ν) := fun d e =>
  decidable_of_iff (d.entries = e.entries) ⟨ext, fun h => h ▸ rfl⟩

/-- Places one entry; a key that is present keeps its place and takes the new value. -/
def insertEntry (k : κ) (v : ν) : List (κ × ν) → List (κ × ν)
  | [] => [(k, v)]
  | (k', v') :: rest =>
      match compare k k' with
      | .lt => (k, v) :: (k', v') :: rest
      | .eq => (k', v) :: rest
      | .gt => (k', v') :: insertEntry k v rest

theorem below_insertEntry {low k : κ} {v : ν} {l : List (κ × ν)} (head : compare low k = .lt)
    (tail : ∀ e ∈ l, compare low e.1 = .lt) :
    ∀ e ∈ insertEntry k v l, compare low e.1 = .lt := by
  induction l with
  | nil => simpa [insertEntry] using head
  | cons x rest ih =>
      obtain ⟨k', v'⟩ := x
      have here : compare low k' = .lt := tail (k', v') (by simp)
      have later : ∀ e ∈ rest, compare low e.1 = .lt := fun e he => tail e (by simp [he])
      intro e he
      unfold insertEntry at he
      split at he
      · simp only [List.mem_cons] at he
        rcases he with rfl | rfl | he
        · exact head
        · exact here
        · exact later e he
      · simp only [List.mem_cons] at he
        rcases he with rfl | he
        · exact here
        · exact later e he
      · simp only [List.mem_cons] at he
        rcases he with rfl | he
        · exact here
        · exact ih later e he

theorem ordered_insertEntry [Std.TransOrd κ] (k : κ) (v : ν) {l : List (κ × ν)}
    (h : l.Pairwise (fun a b => compare a.1 b.1 = .lt)) :
    (insertEntry k v l).Pairwise (fun a b => compare a.1 b.1 = .lt) := by
  induction l with
  | nil => simp [insertEntry]
  | cons x rest ih =>
      obtain ⟨k', v'⟩ := x
      rw [List.pairwise_cons] at h
      obtain ⟨head, tail⟩ := h
      unfold insertEntry
      split
      next lt =>
        refine List.pairwise_cons.2 ⟨?_, List.pairwise_cons.2 ⟨head, tail⟩⟩
        intro e he
        rcases List.mem_cons.1 he with rfl | he
        · exact lt
        · exact Std.TransCmp.lt_trans lt (head e he)
      next => exact List.pairwise_cons.2 ⟨head, tail⟩
      next gt =>
        exact List.pairwise_cons.2
          ⟨below_insertEntry (Std.OrientedCmp.lt_of_gt gt) head, ih tail⟩

def insert [Std.TransOrd κ] (d : Dict κ ν) (k : κ) (v : ν) : Dict κ ν :=
  ⟨insertEntry k v d.entries, ordered_insertEntry k v d.ordered⟩

/-- A later pair with an equal key wins. -/
def ofList [Std.TransOrd κ] (pairs : List (κ × ν)) : Dict κ ν :=
  pairs.foldl (fun d e => d.insert e.1 e.2) empty

def toList (d : Dict κ ν) : List (κ × ν) := d.entries

def keys (d : Dict κ ν) : List κ := d.entries.map Prod.fst

def size (d : Dict κ ν) : Nat := d.entries.length

def isEmpty (d : Dict κ ν) : Bool := d.entries.isEmpty

def lookup (k : κ) : List (κ × ν) → Option ν
  | [] => none
  | (k', v) :: rest => if compare k k' = .eq then some v else lookup k rest

def get? (d : Dict κ ν) (k : κ) : Option ν := lookup k d.entries

def contains (d : Dict κ ν) (k : κ) : Bool := (d.get? k).isSome

def erase (d : Dict κ ν) (k : κ) : Dict κ ν :=
  ⟨d.entries.filter (fun e => compare k e.1 != .eq), d.ordered.filter _⟩

/-- Keeps the entries whose value `f` accepts, under the value it gives. -/
def filterMap (f : κ → ν → Option μ) (d : Dict κ ν) : Dict κ μ :=
  ⟨d.entries.filterMap (fun e => (f e.1 e.2).map (e.1, ·)), by
    refine d.ordered.filterMap _ ?_
    intro a b lt a' ha b' hb
    simp only [Option.map_eq_some_iff] at ha hb
    obtain ⟨_, _, rfl⟩ := ha
    obtain ⟨_, _, rfl⟩ := hb
    exact lt⟩

def mapValues (f : ν → μ) (d : Dict κ ν) : Dict κ μ := d.filterMap fun _ v => some (f v)

/-- Replaces the value at `k`, starting from `start` when there is none. -/
def update [Std.TransOrd κ] (d : Dict κ ν) (k : κ) (start : ν) (f : ν → ν) : Dict κ ν :=
  d.insert k (f ((d.get? k).getD start))

@[simp] theorem get?_empty (k : κ) : (empty : Dict κ ν).get? k = none := rfl

theorem lookup_insertEntry [Std.TransOrd κ] (k k' : κ) (v : ν) (l : List (κ × ν)) :
    lookup k' (insertEntry k v l) = if compare k' k = .eq then some v else lookup k' l := by
  induction l with
  | nil => simp [insertEntry, lookup]
  | cons x rest ih =>
      obtain ⟨low, w⟩ := x
      unfold insertEntry
      split
      next => simp [lookup]
      next eq =>
        have same : compare k' low = compare k' k := (Std.TransCmp.congr_right eq).symm
        by_cases here : compare k' k = .eq <;> simp [lookup, same, here]
      next gt =>
        by_cases here : compare k' low = .eq
        · have : compare k' k ≠ .eq := by
            intro same
            have : compare k low = .eq := Std.TransCmp.eq_trans (Std.OrientedCmp.eq_symm same) here
            rw [this] at gt
            cases gt
          simp [lookup, here, this]
        · simp [lookup, here, ih]

theorem get?_insert [Std.TransOrd κ] (d : Dict κ ν) (k k' : κ) (v : ν) :
    (d.insert k v).get? k' = if compare k' k = .eq then some v else d.get? k' :=
  lookup_insertEntry k k' v d.entries

theorem lookup_filter_ne [Std.TransOrd κ] (k k' : κ) (l : List (κ × ν)) :
    lookup k' (l.filter (fun e => compare k e.1 != .eq)) =
      if compare k' k = .eq then none else lookup k' l := by
  induction l with
  | nil => simp [lookup]
  | cons x rest ih =>
      obtain ⟨low, w⟩ := x
      by_cases drop : compare k low = .eq
      · have same : compare k' low = compare k' k := (Std.TransCmp.congr_right drop).symm
        by_cases here : compare k' k = .eq <;> simp [lookup, drop, same, here, ih]
      · by_cases here : compare k' low = .eq
        · have : compare k' k ≠ .eq := fun same =>
            drop (Std.TransCmp.eq_trans (Std.OrientedCmp.eq_symm same) here)
          simp [lookup, drop, here, this]
        · simp [lookup, drop, here, ih]

theorem get?_erase [Std.TransOrd κ] (d : Dict κ ν) (k k' : κ) :
    (d.erase k).get? k' = if compare k' k = .eq then none else d.get? k' :=
  lookup_filter_ne k k' d.entries

end Dict
end GattPeripheral
