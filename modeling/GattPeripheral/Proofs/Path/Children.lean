import GattPeripheral.Proofs.Path.Ancestry
import Mathlib.Order.Bounds.Defs

/-!
# Children of a path

A text that is appended behind a slash is itself read as a path: its elements come behind those of the parent
(`ObjectPath.child_eq_ok_iff`). So it is one element as long as no slash stands in it, and the root answers the empty
text with itself. A stem with a free number behind it is one element. Main statements:
`ObjectPath.child_adds_elements` and `ObjectPath.least_number_found`.
-/

namespace GattPeripheral.ObjectPath

variable {p c : ObjectPath} {word : String}

theorem text_eq_slash_append_iff {q : ObjectPath} : q.text = "/" ++ word ↔
    q = root ∧ word = "" ∨ q ≠ root ∧ slashed q.elements = '/' :: word.toList := by
  rw [← String.toList_inj, String.toList_append]
  by_cases top : q = root
  · subst top
    simp [root, ObjectPath.text]
  · simp [top, toList_text top]

theorem child_eq_ok_iff :
    p.child word = .ok c ↔
      ∃ q, q.text = "/" ++ word ∧ (q = root → p = root) ∧ c = ⟨p.elements ++ q.elements⟩ := by
  rw [child_eq_parse, parse_eq_ok_iff, ← String.toList_inj, String.toList_ofList]
  simp only [text_eq_slash_append_iff]
  constructor
  · intro chars
    by_cases top : c = root
    · subst top
      have single : ['/'] = slashed p.elements ++ '/' :: word.toList := chars
      obtain ⟨none, empty⟩ : slashed p.elements = [] ∧ word.toList = [] := by
        have counted := congrArg List.length single
        simp only [List.length_append, List.length_cons, List.length_nil] at counted
        exact ⟨List.eq_nil_of_length_eq_zero (by omega), List.eq_nil_of_length_eq_zero (by omega)⟩
      obtain rfl : p = root := ext (slashed_eq_nil_iff.mp none)
      exact ⟨root, .inl ⟨rfl, String.toList_eq_nil_iff.mp empty⟩, fun _ => rfl, rfl⟩
    · rw [toList_text top, slashed_eq_append_iff] at chars
      obtain ⟨more, elements, behind⟩ := chars
      have below : (⟨more⟩ : ObjectPath) ≠ root := by
        intro none
        rw [show more = [] from congrArg ObjectPath.elements none] at behind
        cases behind
      exact ⟨⟨more⟩, .inr ⟨below, behind⟩, fun none => absurd none below, ext elements⟩
  · rintro ⟨q, ⟨rfl, rfl⟩ | ⟨alone, behind⟩, top, rfl⟩
    · obtain rfl := top rfl
      rfl
    · have below : (⟨p.elements ++ q.elements⟩ : ObjectPath) ≠ root := by
        intro none
        exact alone (ext (List.append_eq_nil_iff.mp (congrArg ObjectPath.elements none)).2)
      rw [toList_text below, slashed_append, behind]

/-- The text becomes one element below the path, and is refused if it is none. -/
def AppendsOne (p : ObjectPath) (word : String) : Prop :=
  ((∃ c, p.child word = .ok c) ↔ isElement word = true) ∧
    ∀ c, p.child word = .ok c → c.parent? = some p ∧ c.name = word ∧ c.isDescendantOf p = true

theorem eq_push_of_child (read : p.child word = .ok c) (given : ¬(p = root ∧ word = ""))
    (free : '/' ∉ word.toList) : ∃ e : Element, e.text = word ∧ c = p.push e := by
  obtain ⟨q, text, top, rfl⟩ := child_eq_ok_iff.mp read
  rcases text_eq_slash_append_iff.mp text with ⟨alone, empty⟩ | ⟨alone, behind⟩
  · exact absurd ⟨top alone, empty⟩ given
  · obtain ⟨e, es, own⟩ := List.exists_cons_of_ne_nil fun none => alone (ext none)
    rw [own, slashed_cons] at behind
    have behind : e.text.toList ++ slashed es = word.toList := (List.cons.inj behind).2
    obtain rfl : es = [] := by
      cases es with
      | nil => rfl
      | cons f fs =>
          rw [← behind, slashed_cons] at free
          simp at free
    refine ⟨e, String.toList_inj.mp (by rw [← behind]; simp [slashed]), ?_⟩
    rw [own, push]

theorem slash_notMem_of_isElement (valid : isElement word = true) : '/' ∉ word.toList :=
  (⟨word, valid⟩ : Element).slash_notMem

theorem appendsOne_iff :
    p.AppendsOne word ↔
      ¬(p = root ∧ word = "") ∧ ¬('/' ∈ word.toList ∧ IsPathText ("/" ++ word)) := by
  constructor
  · rintro ⟨accepts, -⟩
    constructor
    · rintro ⟨rfl, rfl⟩
      have read : root.child "" = .ok root := child_eq_ok_iff.mpr ⟨root, rfl, fun _ => rfl, rfl⟩
      exact absurd (accepts.mp ⟨root, read⟩) (by decide)
    · rintro ⟨inside, readable⟩
      obtain ⟨q, read⟩ := readable_iff.mpr readable
      have text := parse_eq_ok_iff.mp read
      have below : q ≠ root := by
        rcases text_eq_slash_append_iff.mp text with ⟨-, rfl⟩ | ⟨below, -⟩
        · cases inside
        · exact below
      have valid := accepts.mp ⟨_, child_eq_ok_iff.mpr ⟨q, text, fun top => absurd top below, rfl⟩⟩
      exact slash_notMem_of_isElement valid inside
  · rintro ⟨given, single⟩
    have one : ∀ c, p.child word = .ok c → ∃ e : Element, e.text = word ∧ c = p.push e := by
      intro c read
      obtain ⟨q, text, -⟩ := child_eq_ok_iff.mp read
      have readable : IsPathText ("/" ++ word) := text ▸ q.isPathText_text
      exact eq_push_of_child read given fun inside => single ⟨inside, readable⟩
    constructor
    · constructor
      · rintro ⟨c, read⟩
        obtain ⟨e, rfl, -⟩ := one c read
        exact e.valid
      · exact fun valid => ⟨_, p.child_text ⟨word, valid⟩⟩
    · intro c read
      obtain ⟨e, rfl, rfl⟩ := one c read
      exact ⟨p.parent?_push e, p.name_push e, isDescendantOf_push.mpr (.inl rfl)⟩

/-- A text that is appended to a path adds the elements that it has behind a slash. It becomes one element below the
path and is refused if it is none, except where it has slashes between several elements or is empty and appended to
the root. -/
theorem child_adds_elements (p : ObjectPath) (word : String) :
    (∀ c, p.child word = .ok c ↔
        ∃ q, q.text = "/" ++ word ∧ (q = root → p = root) ∧ c = ⟨p.elements ++ q.elements⟩) ∧
      (p.AppendsOne word ↔ ¬(p = root ∧ word = "") ∧ ¬('/' ∈ word.toList ∧ IsPathText ("/" ++ word))) :=
  ⟨fun _ => child_eq_ok_iff, appendsOne_iff⟩

theorem child_adds_two_elements :
    ∃ app c : ObjectPath, app.text = "/app" ∧ app.child "a/b" = .ok c ∧ c.text = "/app/a/b" ∧ c.parent? ≠ some app ∧
      c.name = "b" ∧ isElement "a/b" = false ∧ ¬app.AppendsOne "a/b" := by
  let app : ObjectPath := ⟨[⟨"app", by decide +kernel⟩]⟩
  let a : Element := ⟨"a", by decide +kernel⟩
  let b : Element := ⟨"b", by decide +kernel⟩
  have read : app.child "a/b" = .ok ((app.push a).push b) :=
    child_eq_ok_iff.mpr ⟨(root.push a).push b, rfl, fun none => by simp [push, root] at none, rfl⟩
  have text : ((app.push a).push b).text = "/app/a/b" := rfl
  have several : isElement "a/b" = false := by decide +kernel
  refine ⟨app, _, rfl, read, text, ?_, name_push _ b, several, fun one => ?_⟩
  · rw [parent?_push]
    simp [push, app]
  · rw [one.1.mp ⟨_, read⟩] at several
    cases several

/-! ## Numbered children -/

variable {stem : String}

theorem childBeside_eq (p : ObjectPath) (siblings : List ObjectPath) (valid : stem.toList.all isElementChar = true) :
    p.childBeside stem siblings = .ok (p.push
      ⟨stem ++ toString (freeNumber stem (siblings.map name)), Element.isElement_append_number valid _⟩) := by
  rw [childBeside, p.child_text ⟨_, Element.isElement_append_number valid _⟩]
  rfl

theorem childBeside_text (p : ObjectPath) (stem : Element) (siblings : List ObjectPath) :
    p.childBeside stem.text siblings = .ok (p.freeChild stem siblings) :=
  p.childBeside_eq siblings stem.chars

theorem isLeast_freeNumber (stem : String) (siblings : List ObjectPath) :
    IsLeast {m : Nat | ∀ q ∈ siblings, q.name ≠ stem ++ toString m} (freeNumber stem (siblings.map name)) := by
  constructor
  · intro q member same
    exact freeNumber_free stem (siblings.map name) (same ▸ List.mem_map_of_mem member)
  · intro n unused
    refine Nat.le_of_not_lt fun below => ?_
    obtain ⟨q, member, same⟩ := List.mem_map.mp (freeNumber_least stem (siblings.map name) below)
    exact unused q member same

/-- A stem over the characters of elements, even an empty one, and the least number behind it that no sibling is named
by are always a new child of the path. The number is found among those up to the count of distinct names, and is that
count exactly if the siblings are named by the numbers below it and by nothing else. -/
theorem least_number_found (p : ObjectPath) (siblings : List ObjectPath)
    (valid : ∀ c ∈ stem.toList, isElementChar c = true) :
    ∃ (n : Nat) (c : ObjectPath), freeNumber? stem (siblings.map name) = some n ∧
      IsLeast {m : Nat | ∀ q ∈ siblings, q.name ≠ stem ++ toString m} n ∧
      n ≤ (siblings.map name).eraseDups.length ∧
      (n = (siblings.map name).eraseDups.length ↔ ∀ q ∈ siblings, ∃ m < n, q.name = stem ++ toString m) ∧
      p.childBeside stem siblings = .ok c ∧
      c.text = (if p = root then "" else p.text) ++ "/" ++ (stem ++ toString n) ∧
      c.parent? = some p ∧ c.name = stem ++ toString n ∧ c ∉ siblings ∧
      ∀ e : Element, e.text = stem → p.freeChild e siblings = c := by
  have chars : stem.toList.all isElementChar = true := List.all_eq_true.mpr valid
  let e : Element :=
    ⟨stem ++ toString (freeNumber stem (siblings.map name)), Element.isElement_append_number chars _⟩
  have child : p.childBeside stem siblings = .ok (p.push e) := p.childBeside_eq siblings chars
  refine ⟨freeNumber stem (siblings.map name), p.push e, freeNumber_found stem _, isLeast_freeNumber stem siblings,
    freeNumber_le stem _, ?_, child, ?_, p.parent?_push e, p.name_push e, p.push_free_not_mem siblings rfl, ?_⟩
  · rw [freeNumber_eq_length_iff, List.forall_mem_map]
  · rw [text_push_eq, name_push]
  · rintro f rfl
    exact Except.ok.inj ((p.childBeside_text f siblings).symm.trans child)

theorem least_number_found_dense :
    let siblings := [root.push (Element.service.numbered 1), root.push (Element.service.numbered 0),
      (root.push Element.char).push (Element.service.numbered 1)]
    (∀ c ∈ "service".toList, isElementChar c = true) ∧ (siblings.map name).eraseDups.length = 2 ∧
      ∃ c, root.childBeside "service" siblings = .ok c ∧ c.text = "/service2" ∧ c.parent? = some root ∧
        c ∉ siblings := by
  intro siblings
  have valid : ∀ c ∈ "service".toList, isElementChar c = true := List.all_eq_true.mp Element.service.chars
  have count : (siblings.map name).eraseDups.length = 2 := by decide +kernel
  have second : freeNumber "service" (siblings.map name) = 2 := by decide +kernel
  obtain ⟨n, c, found, -, -, -, child, text, parent, -, new, -⟩ := least_number_found root siblings valid
  obtain rfl : n = 2 := (Option.some.inj (found.symm.trans (freeNumber_found "service" _))).trans second
  exact ⟨valid, count, c, child, text, parent, new⟩

end GattPeripheral.ObjectPath
