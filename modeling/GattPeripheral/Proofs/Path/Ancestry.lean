import GattPeripheral.Proofs.Path.Reading
import Mathlib.Data.List.Induction
import Mathlib.Logic.Relation
import Mathlib.Order.Defs.Unbundled

/-!
# Ancestors of a path

Every path other than the root is its parent with one more element, which is its name. A path descends from another
one if steps from child to parent lead there (`ObjectPath.isDescendantOf_iff_steps`). That is, its elements begin with
those of the other one, and in the texts a slash follows what they share (`ObjectPath.isDescendantOf_iff_text`).
Main statement: `ObjectPath.descent_follows_parents`.
-/

namespace GattPeripheral.ObjectPath

variable {p q r : ObjectPath}

/-! ## Parents -/

theorem eq_root_or_push (p : ObjectPath) : p = root ∨ ∃ (q : ObjectPath) (e : Element), p = q.push e := by
  obtain ⟨es⟩ := p
  rcases List.eq_nil_or_concat es with rfl | ⟨front, e, rfl⟩
  · exact .inl rfl
  · exact .inr ⟨⟨front⟩, e, by rw [push, List.concat_eq_append]⟩

theorem parent?_push (p : ObjectPath) (e : Element) : (p.push e).parent? = some p := by
  simp [parent?, push]

theorem push_induction {P : ObjectPath → Prop} (top : P root) (push : ∀ p e, P p → P (p.push e)) (p : ObjectPath) :
    P p := by
  obtain ⟨es⟩ := p
  induction es using List.reverseRecOn with
  | nil => exact top
  | append_singleton front e ih => exact push ⟨front⟩ e ih

theorem text_push_eq (p : ObjectPath) (e : Element) :
    (p.push e).text = (if p = root then "" else p.text) ++ "/" ++ (p.push e).name := by
  apply String.toList_inj.mp
  rw [text_push, name_push, String.toList_ofList]
  split
  next top => simp [top, root, slashed]
  next below => simp [toList_text below]

/-! ## Descendants -/

theorem isDescendantOf_iff_elements :
    p.isDescendantOf q = true ↔ q.elements <+: p.elements ∧ q.elements ≠ p.elements := by
  rw [isDescendantOf, Bool.and_eq_true, List.isPrefixOf_iff_prefix, decide_eq_true_eq]
  refine and_congr_right fun front => ⟨fun fewer same => ?_, fun other => ?_⟩
  · rw [same] at fewer
    exact Nat.lt_irrefl _ fewer
  · exact Nat.lt_of_le_of_ne front.length_le fun same => other (front.eq_of_length same)

theorem not_isDescendantOf_root (q : ObjectPath) : ¬ root.isDescendantOf q = true := by
  rw [isDescendantOf_iff_elements]
  rintro ⟨front, other⟩
  exact other (List.prefix_nil.mp front)

theorem isDescendantOf_push {e : Element} : (p.push e).isDescendantOf q = true ↔ q = p ∨ p.isDescendantOf q = true := by
  rw [isDescendantOf_iff_elements, isDescendantOf_iff_elements, push, List.prefix_concat_iff]
  constructor
  · rintro ⟨same | front, other⟩
    · exact absurd same other
    · by_cases here : q.elements = p.elements
      · exact .inl (ext here)
      · exact .inr ⟨front, here⟩
  · have longer : p.elements.length < (p.elements ++ [e]).length := by simp
    rintro (rfl | ⟨front, -⟩)
    · exact ⟨.inr List.prefix_rfl, fun same => Nat.ne_of_lt longer (congrArg List.length same)⟩
    · refine ⟨.inr front, fun same => Nat.not_le_of_lt longer ?_⟩
      calc (p.elements ++ [e]).length
        _ = q.elements.length := congrArg List.length same.symm
        _ ≤ p.elements.length := front.length_le

theorem isDescendantOf_iff_steps :
    p.isDescendantOf q = true ↔ Relation.TransGen (fun p q => p.parent? = some q) p q := by
  induction p using push_induction with
  | top =>
      refine iff_of_false (not_isDescendantOf_root q) fun steps => ?_
      obtain ⟨r, up, -⟩ := Relation.TransGen.head'_iff.mp steps
      cases up
  | push p e ih =>
      rw [isDescendantOf_push, ih, Relation.TransGen.head'_iff (a := p.push e)]
      simp only [parent?_push, Option.some.injEq, exists_eq_left', Relation.reflTransGen_iff_eq_or_transGen]

theorem isDescendantOf_iff_text :
    p.isDescendantOf q = true ↔ p ≠ root ∧ (q = root ∨ (q.text ++ "/").toList <+: p.text.toList) := by
  by_cases above : p = root
  · subst above
    simp [not_isDescendantOf_root]
  rw [isDescendantOf_iff_elements, and_iff_right above]
  by_cases top : q = root
  · subst top
    exact iff_of_true ⟨List.nil_prefix, fun none => above (ext none.symm)⟩ (.inl rfl)
  rw [or_iff_right top, String.toList_append, toList_text top, toList_text above]
  constructor
  · rintro ⟨⟨more, elements⟩, other⟩
    have deeper : more ≠ [] := by
      rintro rfl
      exact other (by simpa using elements)
    obtain ⟨e, es, rfl⟩ := List.exists_cons_of_ne_nil deeper
    rw [← elements, slashed_append, slashed_cons, List.prefix_append_right_inj]
    exact ⟨e.text.toList ++ slashed es, rfl⟩
  · rintro ⟨rest, chars⟩
    have shared : slashed p.elements = slashed q.elements ++ '/' :: rest := by
      rw [← chars, List.append_assoc]
      rfl
    obtain ⟨more, elements, behind⟩ := slashed_eq_append_iff.mp shared
    refine ⟨⟨more, elements.symm⟩, fun same => ?_⟩
    obtain rfl : more = [] := by simpa [same] using elements
    cases behind

theorem isDescendantOf_isStrictOrder : IsStrictOrder ObjectPath fun p q => p.isDescendantOf q = true where
  irrefl p descends := (isDescendantOf_iff_elements.mp descends).2 rfl
  trans p q r first second := by
    rw [isDescendantOf_iff_steps] at *
    exact first.trans second

/-- A text is read as a path exactly if it is a slash or has one before each of its words, and it is kept as it is.
Every path but the root consists of its parent and its name, which stand before and behind the last slash. A path
descends from those that steps to the parent lead to; that is, its elements begin with theirs and go on, and behind
the text that both share stands a slash, unless it is that of the root. -/
theorem descent_follows_parents :
    (∀ s, (∃ p, parse s = .ok p) ↔ IsPathText s) ∧ (∀ s p, parse s = .ok p ↔ p.text = s) ∧
      (∀ p, p ≠ root → ∃ q, p.parent? = some q ∧ parse q.text = .ok q ∧ isElement p.name = true ∧
        q.child p.name = .ok p ∧ p.text = (if q = root then "" else q.text) ++ "/" ++ p.name) ∧
      (∀ p q, (p.isDescendantOf q = true ↔ Relation.TransGen (fun p q => p.parent? = some q) p q) ∧
        (p.isDescendantOf q = true ↔ q.elements <+: p.elements ∧ q.elements ≠ p.elements) ∧
        (p.isDescendantOf q = true ↔ p ≠ root ∧ (q = root ∨ (q.text ++ "/").toList <+: p.text.toList))) ∧
      IsStrictOrder ObjectPath fun p q => p.isDescendantOf q = true := by
  refine ⟨fun _ => readable_iff, fun _ _ => parse_eq_ok_iff, fun p below => ?_,
    fun _ _ => ⟨isDescendantOf_iff_steps, isDescendantOf_iff_elements, isDescendantOf_iff_text⟩,
    isDescendantOf_isStrictOrder⟩
  rcases p.eq_root_or_push with top | ⟨q, e, rfl⟩
  · exact absurd top below
  · refine ⟨q, q.parent?_push e, parse_eq_ok_iff.mpr rfl, ?_, ?_, q.text_push_eq e⟩
    · rw [name_push]
      exact e.valid
    · rw [name_push]
      exact q.child_text e

theorem descent_follows_parents_service :
    let app : ObjectPath := ⟨[⟨"app", by decide +kernel⟩]⟩
    let service := app.push (Element.service.numbered 0)
    service ≠ root ∧ ∃ q, service.parent? = some q ∧ q = app ∧ q.child service.name = .ok service ∧
      service.text = q.text ++ "/" ++ service.name := by
  intro app service
  have below : service ≠ root := by simp [service, push, root]
  obtain ⟨q, up, -, -, back, text⟩ := descent_follows_parents.2.2.1 service below
  obtain rfl : app = q := Option.some.inj up
  rw [if_neg (by simp [app, root])] at text
  exact ⟨below, app, up, rfl, back, text⟩

end GattPeripheral.ObjectPath
