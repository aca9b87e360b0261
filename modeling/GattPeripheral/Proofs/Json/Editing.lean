import GattPeripheral.Proofs.Json.Containers
import Mathlib.Data.List.Pairwise
import Mathlib.Data.List.Perm.Basic

/-!
# Edited documents

A document that was written by one program may have been edited before the next one reads it. Here a relation of a
value, a part of a document and an outcome says what may be found in the place of the value and what is read there;
the outcome is nothing if something required is missing. `Leaves` says what becomes of the member of a field, `Lists`
which members stand in the object of a record. Main statement: `Treats.record`, that a record is read from what is
left of its fields, in any order and among unknown members.
-/

namespace GattPeripheral.Json

variable {α τ : Type}

def Intact (write : α → Json) (a : α) (j : Json) (o : Option α) : Prop := j = write a ∧ o = some a

inductive Items (edits : α → Json → Option α → Prop) : List α → List Json → List (Option α) → Prop where
  | nil : Items edits [] [] []
  | cons {a j o as js os} (here : edits a j o) (later : Items edits as js os) :
      Items edits (a :: as) (j :: js) (o :: os)

def Itemwise (edits : α → Json → Option α → Prop) (as : List α) (j : Json) (o : Option (List α)) : Prop :=
  ∃ js os, Items edits as js os ∧ j = .array js ∧ o = os.allSome

/-- What is left of a field: its member, if there is one, and what the field has then. -/
structure Left (α : Type) where
  members : List (String × Json)
  outcome : Option α

/-- The member of a field stands with an edited value, or it is deleted and the field has its default, if it has one. -/
inductive Leaves (name : String) (standard : Option α) (edits : α → Json → Option α → Prop) (a : α) :
    Left α → Prop where
  | kept {j o} (edited : edits a j o) : Leaves name standard edits a ⟨[(name, j)], o⟩
  | deleted : Leaves name standard edits a ⟨[], standard⟩

/-- The given members in any order, and others among them whose names are unknown. -/
def Lists (names : List String) (given ms : List (String × Json)) : Prop :=
  ∃ unknown, (∀ m ∈ unknown, m.1 ∉ names) ∧ ms.Perm (given ++ unknown)

def Shape.names (shape : Shape τ) : List String := shape.fields.map FieldSpec.name

section
variable {edits : α → Json → Option α → Prop} {write : α → Json} {r : Reader α}

theorem Intact.self (write : α → Json) (a : α) : Intact write a (write a) (some a) := ⟨rfl, rfl⟩

theorem Intact.treats (treats : ∀ a, Treats r (write a) (some a)) {a : α} {j : Json} {o : Option α}
    (intact : Intact write a j o) : Treats r j o := by
  obtain ⟨rfl, rfl⟩ := intact
  exact treats a

theorem Itemwise.self (self : ∀ a, edits a (write a) (some a)) (as : List α) :
    Itemwise edits as (.array (as.map write)) (some as) := by
  refine ⟨as.map write, as.map some, ?_, rfl, (allSome_map_some as).symm⟩
  induction as with
  | nil => exact .nil
  | cons a as ih => exact .cons (self a) ih

theorem Itemwise.treats (treats : ∀ {a j o}, edits a j o → Treats r j o) {as : List α} {j : Json} {o : Option (List α)}
    (edited : Itemwise edits as j o) : Treats (Reader.list r) j o := by
  obtain ⟨js, os, items, rfl, rfl⟩ := edited
  refine Treats.list ?_
  induction items with
  | nil => exact .nil
  | cons here later ih => exact .cons (treats here) ih

theorem Lists.self (names : List String) (given : List (String × Json)) : Lists names given given :=
  ⟨[], nofun, .of_eq (List.append_nil given).symm⟩

end

/-! ## Fields of a record -/

/-- A field of a record that starts with these values, and what is left of the field in a document. -/
structure Slot (start : τ) where
  value : Type
  name : String
  standard : Option value
  read : τ → Reader τ
  set : τ → value → τ
  members : List (String × Json)
  outcome : Option value
  fits : (∃ j, members = [(name, j)] ∧ ∀ record, Treats (read record) j (outcome.map (set record))) ∨
    (members = [] ∧ outcome = standard ∧ ∀ v ∈ standard, set start v = start)

namespace Slot

variable {start : τ}

section
variable {name : String} {standard : Option α} {edits : α → Json → Option α → Prop} {a : α} {left : Left α}
  (leaves : Leaves name standard edits a left) {set : τ → α → τ}

def reading {read : τ → Reader τ} (treats : ∀ {a j o} record, edits a j o → Treats (read record) j (o.map (set record)))
    (same : ∀ v ∈ standard, set start v = start) : Slot start where
  value := α
  name := name
  standard := standard
  read := read
  set := set
  members := left.members
  outcome := left.outcome
  fits := by
    cases leaves with
    | kept edited => exact .inl ⟨_, rfl, fun record => treats record edited⟩
    | deleted => exact .inr ⟨rfl, rfl, same⟩

def of {reader : Reader α} (treats : ∀ {a j o}, edits a j o → Treats reader j o) (set : τ → α → τ)
    (same : ∀ v ∈ standard, set start v = start) : Slot start :=
  .reading leaves (fun record edited => (treats edited).map (set record)) same

end

variable (s t : Slot start)

def field : FieldSpec τ := ⟨s.name, s.standard.isNone, s.read⟩

def update : Option (τ → τ) := s.outcome.map fun v record => s.set record v

def changes : List (Option (τ → τ)) := s.members.map fun _ => s.update

theorem update_of_missing (missing : s.members = []) : s.update.getD id start = start := by
  rcases s.fits with ⟨j, given, -⟩ | ⟨-, standard, same⟩
  · rw [given] at missing
    cases missing
  · rw [update, standard]
    cases default : s.standard with
    | none => rfl
    | some v => exact same v default

theorem update_isSome_iff :
    s.update.isSome = true ↔
      (s.field.required = true → s.members ≠ []) ∧ (s.members ≠ [] → s.update.isSome = true) := by
  rcases s.fits with ⟨j, given, -⟩ | ⟨missing, standard, -⟩
  · simp [given]
  · cases default : s.standard <;> simp [missing, update, field, standard, default]

def Commute : Prop := ∀ record v w, s.set (t.set record w) v = t.set (s.set record v) w

variable {s t} in
theorem Commute.swap (commute : s.Commute t) (record : τ) :
    t.update.getD id (s.update.getD id record) = s.update.getD id (t.update.getD id record) := by
  cases first : s.outcome <;> cases second : t.outcome <;> simp [update, first, second, commute _ _ _]

end Slot

/-! ## Records -/

def changed (us : List (Option (τ → τ))) (record : τ) : τ := us.foldl (fun record u => u.getD id record) record

theorem allSome_map_foldl (us : List (Option (τ → τ))) (record : τ) :
    us.allSome.map (fun us => us.foldl (fun record u => u record) record) =
      if us.all Option.isSome then some (changed us record) else none := by
  induction us generalizing record with
  | nil => rfl
  | cons u us ih =>
      rw [allSome_cons]
      cases u with
      | none => rfl
      | some u =>
          have later := ih (u record)
          rw [Option.bind_some, Option.map_map]
          exact later

theorem changed_unknown {β : Type} (unknown : List β) (record : τ) :
    changed (unknown.map fun _ => some id) record = record := by
  induction unknown with
  | nil => rfl
  | cons m unknown ih => exact ih

def filled {start : τ} : List (Slot start) → τ → Option τ
  | [], record => some record
  | s :: slots, record => do filled slots (s.set record (← s.outcome))

section Slots
variable {start : τ} {slots : List (Slot start)}

theorem filled_eq (record : τ) : filled slots record =
    if (slots.map Slot.update).all Option.isSome then some (changed (slots.map Slot.update) record) else none := by
  induction slots generalizing record with
  | nil => rfl
  | cons s slots ih =>
      rw [filled]
      cases here : s.outcome with
      | none => simp [Slot.update, here]
      | some v =>
          have later := ih (s.set record v)
          simpa [Slot.update, here, changed] using later

theorem changed_given (record : τ) (commute : slots.Pairwise Slot.Commute)
    (same : ∀ s ∈ slots, s.members = [] → s.update.getD id record = record) :
    changed (slots.flatMap Slot.changes) record = changed (slots.map Slot.update) record := by
  induction slots generalizing record with
  | nil => rfl
  | cons s slots ih =>
      rw [List.pairwise_cons] at commute
      rw [List.forall_mem_cons] at same
      have later := ih (s.update.getD id record) commute.2 fun t member missing => by
        rw [(commute.1 t member).swap, same.2 t member missing]
      rcases s.fits with ⟨j, given, -⟩ | ⟨missing, -, -⟩
      · rw [List.flatMap_cons, Slot.changes, given]
        exact later
      · rw [same.1 missing] at later
        rw [List.flatMap_cons, Slot.changes, missing]
        simpa [changed, same.1 missing] using later

theorem updates_given {fields : List (FieldSpec τ)} (distinct : (fields.map FieldSpec.name).Nodup)
    (all : ∀ s ∈ slots, s.field ∈ fields) :
    List.Forall₂ (fun m u => Updates fields m.1 m.2 u) (slots.flatMap Slot.members)
      (slots.flatMap Slot.changes) := by
  induction slots with
  | nil => exact .nil
  | cons s slots ih =>
      rw [List.forall_mem_cons] at all
      have here : List.Forall₂ (fun m u => Updates fields m.1 m.2 u) s.members s.changes := by
        rcases s.fits with ⟨j, given, treats⟩ | ⟨missing, -, -⟩
        · have found : fields.find? (·.name == s.name) = some s.field := find?_of_nodup distinct all.1
          have updates : Updates fields s.name j s.update := by
            simp only [Updates, found]
            intro record
            rw [Slot.update, Option.map_map]
            exact treats record
          rw [Slot.changes, given]
          exact List.forall₂_cons.mpr ⟨updates, .nil⟩
        · rw [Slot.changes, missing]
          exact .nil
      exact List.rel_append here (ih all.2)

theorem names_given : ((slots.flatMap Slot.members).map Prod.fst).Sublist (slots.map Slot.name) := by
  induction slots with
  | nil => exact .refl _
  | cons s slots ih =>
      rw [List.flatMap_cons, List.map_append, List.map_cons]
      rcases s.fits with ⟨j, given, -⟩ | ⟨missing, -, -⟩
      · rw [given]
        exact ih.cons_cons s.name
      · rw [missing]
        exact ih.cons s.name

end Slots

section Record
variable {shape : Shape τ} {slots : List (Slot shape.start)} {ms unknown : List (String × Json)}

theorem mem_names_iff (distinct : (slots.map Slot.name).Nodup)
    (listed : Lists (slots.map Slot.name) (slots.flatMap Slot.members) ms) {s : Slot shape.start} (member : s ∈ slots) :
    s.name ∈ ms.map Prod.fst ↔ s.members ≠ [] := by
  obtain ⟨unknown, others, perm⟩ := listed
  constructor
  · intro named missing
    obtain ⟨m, present, name⟩ := List.mem_map.mp named
    rcases List.mem_append.mp (perm.mem_iff.mp present) with given | other
    · obtain ⟨t, member', given⟩ := List.mem_flatMap.mp given
      rcases t.fits with ⟨j, alone, -⟩ | ⟨absent, -, -⟩
      · rw [alone, List.mem_singleton] at given
        have same : t = s := List.inj_on_of_nodup_map distinct member' member (by rw [← name, given])
        rw [same, missing] at alone
        cases alone
      · rw [absent] at given
        cases given
    · exact others m other (name ▸ List.mem_map_of_mem member)
  · intro present
    rcases s.fits with ⟨j, given, -⟩ | ⟨missing, -, -⟩
    · have here : (s.name, j) ∈ slots.flatMap Slot.members :=
        List.mem_flatMap.mpr ⟨s, member, given ▸ List.mem_singleton_self _⟩
      exact List.mem_map_of_mem (perm.mem_iff.mpr (List.mem_append_left unknown here))
    · exact absurd missing present

theorem changed_perm (commute : slots.Pairwise Slot.Commute) {us : List (Option (τ → τ))}
    (order : us.Perm (slots.flatMap Slot.changes ++ unknown.map fun _ => some id)) :
    changed us shape.start = changed (slots.map Slot.update) shape.start := by
  have any : ∀ s ∈ slots, ∀ t ∈ slots, s = t ∨ s.Commute t := by
    have : Std.Symm fun s t : Slot shape.start => s = t ∨ s.Commute t :=
      ⟨fun _ _ => Or.imp Eq.symm fun pair record v w => (pair record w v).symm⟩
    exact (commute.imp fun pair => .inr pair).forall_of_forall fun s _ => .inl rfl
  have each : ∀ u ∈ us, u = some id ∨ ∃ s ∈ slots, s.update = u := by
    intro u member
    have listed := order.mem_iff.mp member
    rw [List.mem_append, List.mem_flatMap, List.mem_map] at listed
    rcases listed with ⟨s, here, given⟩ | ⟨m, -, rfl⟩
    · obtain ⟨m, -, same⟩ := List.mem_map.mp given
      exact .inr ⟨s, here, same⟩
    · exact .inl rfl
  have swap : ∀ u ∈ us, ∀ v ∈ us, ∀ record : τ,
      v.getD id (u.getD id record) = u.getD id (v.getD id record) := by
    intro u first v second record
    rcases each u first with rfl | ⟨s, here, rfl⟩
    · rfl
    · rcases each v second with rfl | ⟨t, there, rfl⟩
      · rfl
      · rcases any s here t there with rfl | pair
        · rfl
        · exact pair.swap record
  calc changed us shape.start
    _ = changed (slots.flatMap Slot.changes ++ unknown.map fun _ => some id) shape.start :=
        order.foldl_eq' (fun u first v second record => swap u first v second record) shape.start
    _ = changed (slots.flatMap Slot.changes) shape.start := by
        rw [changed, List.foldl_append]
        exact changed_unknown unknown _
    _ = changed (slots.map Slot.update) shape.start :=
        changed_given shape.start commute fun s _ missing => s.update_of_missing missing

theorem complete_iff (fields : shape.fields = slots.map Slot.field)
    (present : ∀ s ∈ slots, s.name ∈ ms.map Prod.fst ↔ s.members ≠ []) {us : List (Option (τ → τ))}
    (order : us.Perm (slots.flatMap Slot.changes ++ unknown.map fun _ => some id)) :
    (∀ f ∈ shape.fields, f.required = true → f.name ∈ ms.map Prod.fst) ∧ us.all Option.isSome = true ↔
      (slots.map Slot.update).all Option.isSome = true := by
  have required : (∀ f ∈ shape.fields, f.required = true → f.name ∈ ms.map Prod.fst) ↔
      ∀ s ∈ slots, s.field.required = true → s.members ≠ [] := by
    rw [fields, List.forall_mem_map]
    exact forall₂_congr fun s member => imp_congr_right fun _ => present s member
  have read : us.all Option.isSome = true ↔ ∀ s ∈ slots, s.members ≠ [] → s.update.isSome = true := by
    rw [order.all_eq, List.all_append, List.all_flatMap]
    simp only [Slot.changes, List.all_map, Bool.and_eq_true, List.all_eq_true, Function.comp_apply, Option.isSome_some,
      implies_true, and_true]
    exact forall₂_congr fun s _ => ⟨fun each given => each _ (List.head_mem given),
      fun given m member => given (List.ne_nil_of_mem member)⟩
  have whole : (slots.map Slot.update).all Option.isSome = true ↔ ∀ s ∈ slots, s.update.isSome = true := by
    rw [List.all_eq_true, List.forall_mem_map]
  rw [required, read, whole, ← forall₂_and]
  exact forall₂_congr fun s _ => s.update_isSome_iff.symm

theorem find?_unknown {name : String} (other : name ∉ shape.names) : shape.fields.find? (·.name == name) = none := by
  rw [List.find?_eq_none]
  intro f member same
  exact other (eq_of_beq same ▸ List.mem_map_of_mem member)

theorem updates_unknown (others : ∀ m ∈ unknown, m.1 ∉ shape.names) :
    List.Forall₂ (fun m u => Updates shape.fields m.1 m.2 u) unknown (unknown.map fun _ => some id) := by
  rw [List.forall₂_map_right_iff, List.forall₂_same]
  intro m member
  simp only [Updates, find?_unknown (others m member)]

theorem nodup_known (distinct : (slots.map Slot.name).Nodup) (others : ∀ m ∈ unknown, m.1 ∉ shape.names)
    (perm : ms.Perm (slots.flatMap Slot.members ++ unknown)) :
    ((ms.map Prod.fst).filter (known shape.fields)).Nodup := by
  have ordered := (perm.map Prod.fst).filter (known shape.fields)
  have strangers : (unknown.map Prod.fst).filter (known shape.fields) = [] := by
    rw [List.filter_eq_nil_iff, List.forall_mem_map]
    intro m member
    simp [known, find?_unknown (others m member)]
  rw [List.map_append, List.filter_append, strangers, List.append_nil] at ordered
  exact ordered.nodup_iff.mpr ((names_given.nodup distinct).filter _)

/-- A record is read from what is left of its fields, in any order and with other members among them. -/
theorem Treats.record (shape : Shape τ) (slots : List (Slot shape.start)) (fields : shape.fields = slots.map Slot.field)
    (distinct : shape.names.Nodup) (commute : slots.Pairwise Slot.Commute)
    (listed : Lists shape.names (slots.flatMap Slot.members) ms) :
    Treats (Reader.record shape) (.object ms) (filled slots shape.start) := by
  have names : shape.names = slots.map Slot.name := by
    rw [Shape.names, fields, List.map_map]
    rfl
  have present := fun s member => mem_names_iff (s := s) (names ▸ distinct) (names ▸ listed) member
  obtain ⟨unknown, others, perm⟩ := listed
  have given := updates_given distinct fun s member => fields ▸ List.mem_map_of_mem member
  obtain ⟨us, updates, order⟩ := List.perm_comp_forall₂ perm (List.rel_append given (updates_unknown others))
  have read := Treats.members updates (nodup_known (names ▸ distinct) others perm)
  rw [allSome_map_foldl, changed_perm commute order, ← ite_and,
    if_congr (complete_iff fields present order) rfl rfl] at read
  rw [filled_eq]
  exact read

end Record

end GattPeripheral.Json
