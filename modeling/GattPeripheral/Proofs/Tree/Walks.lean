import GattPeripheral.Proofs.Tree.Served

/-!
# The tree after a walk

A walk over the tree may stop anywhere, since any bus may refuse any node. However far it came,
publishing and withdrawing leave a tree that is `Grown` from the one before. `Application.publish_outcome`
and `Application.withdraw_outcome` say what else changes with the outcome, `publish_state` and
`withdraw_state` how far the state moves.
-/

namespace GattPeripheral

variable {β : Type} [Transport β]

namespace Application

/-- The second tree has part of what a publication of the first one adds; marks of publication may differ. -/
structure Grown (a b : Application) : Prop where
  path : b.path = a.path
  removed : b.removed = a.removed
  nextKey : b.nextKey = a.nextKey
  services : ∃ gs, List.Forall₂ Service.Grown a.services gs ∧ b.services.map Service.blank = gs.map Service.blank

namespace Grown

variable {a b : Application}

theorem refl (a : Application) : a.Grown a :=
  ⟨rfl, rfl, rfl, a.services, List.forall₂_same.mpr fun s _ => Service.level.refl s, rfl⟩

theorem standing (grown : a.Grown b) (state : ApplicationState) (frozen : Bool) :
    a.Grown { b with state, frozen } := ⟨grown.path, grown.removed, grown.nextKey, grown.services⟩

theorem placed (grown : a.Grown b) (placed : a.Placed) : b.Placed := by
  obtain ⟨gs, rows, alike⟩ := grown.services
  refine (placed.extends_grown rows).placed.replaced grown.path grown.nextKey ?_ ?_
  · exact (forall₂_of_map_eq alike).imp fun _ _ => .of_blank
  · rw [grown.removed]
    exact List.forall₂_same.mpr fun s _ => .refl s

theorem carries (grown : a.Grown b) : a.Carries b := by
  obtain ⟨gs, rows, alike⟩ := grown.services
  have same : List.Forall₂ Service.Carries a.removed a.removed := List.forall₂_same.mpr fun s _ => .refl s
  have added : a.Carries { a with services := gs } := .of_rows (rows.imp fun _ _ => Service.Grown.carries) same
  refine added.trans (.of_rows ((forall₂_of_map_eq alike).imp fun _ _ => .of_blank) ?_)
  rw [grown.removed]
  exact same

theorem blank (grown : a.Grown b) (complete : a.Subscribable) :
    b.services.map Service.blank = a.services.map Service.blank := by
  obtain ⟨gs, rows, alike⟩ := grown.services
  have both := (List.forall₂_and_left _ _).mpr ⟨complete, rows⟩
  have same : List.Forall₂ Eq a.services gs := both.imp fun _ _ both => (both.2.eq both.1).symm
  rw [List.forall₂_eq_eq_eq] at same
  rw [alike, same]

theorem subscribable (grown : a.Grown b) (complete : a.Subscribable) : b.Subscribable :=
  forall_of_map_eq Service.subscribable_blank (grown.blank complete) complete

end Grown

/-! ## Publishing -/

theorem exportTree_grown (a : Application) (c : Channel β) : ∃ ss outcome d,
    a.exportTree c = (({ a with services := ss }, outcome), d) ∧ a.Grown { a with services := ss } ∧
      (outcome = .ok () → a.Placed → Subscribable { a with services := ss }) := by
  obtain ⟨gs, ss, outcome, d, grown, run, alike, -, settled⟩ := a.exportTree_flat c
  refine ⟨ss, outcome, d, run, ⟨rfl, rfl, rfl, gs, grown, alike⟩, fun ok placed => ?_⟩
  refine forall_of_map_eq Service.subscribable_blank alike ?_
  rw [settled ok, List.forall_mem_map]
  exact fun s member => (placed.inner s (List.mem_append_left _ member)).subscribable

section Publish
variable {a b : Application} {c d : Channel β} (free : a.isRegistered = false)
include free

theorem publish_of_exported (exported : exportTree { a with frozen := true } c = ((b, .ok ()), d)) :
    a.publish c = (({ b with state := .published }, .ok ()), d) := by
  rw [publish, if_neg (by simp [free]), stateM_bind, exported]
  rfl

theorem publish_of_refused {e : BusError} (refused : exportTree { a with frozen := true } c = ((b, .error e), d)) :
    a.publish c = ((if b.state = .unpublished then { b with frozen := false } else b, .error (.bus e)), d) := by
  rw [publish, if_neg (by simp [free]), stateM_bind, refused]
  rfl

end Publish

theorem publish_outcome (a : Application) (c : Channel β) : ∃ b outcome d, a.publish c = ((b, outcome), d) ∧
    a.Grown b ∧
      (outcome = .ok () ∧ b.state = .published ∧ b.frozen = true ∧ (a.Placed → b.Subscribable) ∨
        (∃ e, outcome = .error e) ∧ b.state = a.state ∧
          (a.state ≠ .unpublished → a.frozen = true → b.frozen = true)) := by
  cases registered : a.isRegistered with
  | true =>
      obtain ⟨e, run⟩ := publish_registered (c := c) registered
      exact ⟨a, _, c, run, .refl a, .inr ⟨⟨e, rfl⟩, rfl, fun _ frozen => frozen⟩⟩
  | false =>
      obtain ⟨ss, outcome, d, run, raw, settled⟩ := exportTree_grown { a with frozen := true } c
      have grown : a.Grown { a with services := ss } := ⟨rfl, rfl, rfl, raw.services⟩
      cases outcome with
      | ok =>
          have settled : a.Placed → Subscribable { a with services := ss, state := .published, frozen := true } :=
            fun placed => settled rfl (placed.standing a.state true)
          exact ⟨_, _, d, publish_of_exported registered run, grown.standing .published true,
            .inl ⟨rfl, rfl, rfl, settled⟩⟩
      | error e =>
          have refused := publish_of_refused registered run
          -- Only a tree that was not published before is opened again.
          by_cases unpublished : a.state = .unpublished
          · rw [if_pos unpublished] at refused
            exact ⟨_, _, d, refused, grown.standing a.state false,
              .inr ⟨⟨_, rfl⟩, rfl, fun up => absurd unpublished up⟩⟩
          · rw [if_neg unpublished] at refused
            exact ⟨_, _, d, refused, grown.standing a.state true, .inr ⟨⟨_, rfl⟩, rfl, fun _ _ => rfl⟩⟩

/-! ## Withdrawing -/

end Application

omit [Transport β] in
theorem publishEach_blank {ν : Type} {step : Nat → ν → StateM (Channel β) (Stepped ν)} {blank : ν → ν}
    (each : ∀ i x c, blank (step i x c).1.1 = blank x) (position : Nat) (xs : List ν) (c : Channel β) :
    (publishEach step position xs c).1.1.map blank = xs.map blank := by
  induction xs generalizing position c with
  | nil => rfl
  | cons x xs ih =>
      have here := each position x c
      cases run : step position x c with
      | mk stepped d =>
          obtain ⟨x', outcome⟩ := stepped
          rw [run] at here
          cases outcome with
          | error e => rw [publishEach_cons_error run, List.map_cons, List.map_cons, here]
          | ok => rw [publishEach_cons_ok run, List.map_cons, List.map_cons, here, ih]

theorem Descriptor.unpublish_blank (x : Descriptor) (c : Channel β) : (x.unpublish c).1.1.blank = x.blank := rfl

theorem Characteristic.unpublish_blank (x : Characteristic) (c : Channel β) :
    (x.unpublish c).1.1.blank = x.blank := by
  rw [unpublish, stateM_bind]
  cases Channel.unexportNode x.path .characteristic c with
  | mk outcome d =>
      cases outcome with
      | error e => rfl
      | ok =>
          have children := publishEach_blank (fun _ x c => Descriptor.unpublish_blank x c) 0 x.descriptors d
          exact congrArg (fun ds => { x with published := false, descriptors := ds }) children

theorem Service.unpublish_blank (x : Service) (c : Channel β) : (x.unpublish c).1.1.blank = x.blank := by
  rw [unpublish, stateM_bind]
  cases Channel.unexportNode x.path .service c with
  | mk outcome d =>
      cases outcome with
      | error e => rfl
      | ok =>
          have children := publishEach_blank (fun _ x c => Characteristic.unpublish_blank x c) 0 x.characteristics d
          exact congrArg (fun cs => { x with published := false, characteristics := cs }) children

theorem Application.withdraw_outcome (a : Application) (c : Channel β) : ∃ b outcome d,
    a.withdraw c = ((b, outcome), d) ∧ a.Grown b ∧
      (outcome = .ok () ∧ b.state = .unpublished ∧ b.frozen = false ∨
        (∃ e, outcome = .error e) ∧ b.state = a.state ∧ b.frozen = a.frozen) := by
  cases removed : Channel.unexportNode a.path .application c with
  | mk outcome d =>
      cases outcome with
      | error e =>
          refine ⟨a, .error (.bus e), d, ?_, .refl a, .inr ⟨⟨_, rfl⟩, rfl, rfl⟩⟩
          rw [withdraw, stateM_bind, removed]
          rfl
      | ok =>
          have children := publishEach_blank (fun _ x c => Service.unpublish_blank x c) 0 a.services d
          cases walked : publishEach (fun _ s => s.unpublish) 0 a.services d with
          | mk stepped d' =>
              obtain ⟨ss, outcome⟩ := stepped
              rw [walked] at children
              have grown : a.Grown { a with services := ss } :=
                ⟨rfl, rfl, rfl, a.services, List.forall₂_same.mpr fun s _ => Service.level.refl s, children⟩
              cases outcome with
              | error e =>
                  refine ⟨{ a with services := ss }, .error (.bus e), d', ?_, grown, .inr ⟨⟨_, rfl⟩, rfl, rfl⟩⟩
                  rw [withdraw, stateM_bind, removed]
                  simp only [stateM_bind, walked, stateM_pure]
              | ok =>
                  refine ⟨_, .ok (), d', ?_, grown.standing .unpublished false, .inl ⟨rfl, rfl, rfl⟩⟩
                  rw [withdraw, stateM_bind, removed]
                  simp only [stateM_bind, walked, stateM_pure]

/-! ## The state -/

namespace Application

variable (a : Application) (c : Channel β)

theorem publish_state : (a.publish c).1.1.path = a.path ∧
    ((a.publish c).1.1.state = a.state ∨ (a.publish c).1.1.state = .published) := by
  obtain ⟨b, outcome, d, run, grown, ⟨-, published, -⟩ | ⟨-, same, -⟩⟩ := a.publish_outcome c
  · rw [run]
    exact ⟨grown.path, .inr published⟩
  · rw [run]
    exact ⟨grown.path, .inl same⟩

theorem withdraw_state : (a.withdraw c).1.1.path = a.path ∧
    ((a.withdraw c).1.1.state = a.state ∨ (a.withdraw c).1.1.state = .unpublished) := by
  obtain ⟨b, outcome, d, run, grown, ⟨-, unpublished, -⟩ | ⟨-, same, -⟩⟩ := a.withdraw_outcome c
  · rw [run]
    exact ⟨grown.path, .inr unpublished⟩
  · rw [run]
    exact ⟨grown.path, .inl same⟩

end Application
end GattPeripheral
