import GattPeripheral.ObjectPath
import GattPeripheral.Proofs.Naming
import Mathlib.Data.List.Basic

/-!
# Paths and their texts

A text is read as a path exactly if it is the text of one (`ObjectPath.parse_eq_ok_iff`), which are the texts that
put a slash in front of each of their elements, and the slash of the root (`ObjectPath.readable_iff`).
-/

namespace GattPeripheral

namespace Element

theorem text_ne_nil (e : Element) : e.text.toList ≠ [] := by
  have nonempty := e.valid
  simp only [isElement, Bool.and_eq_true, Bool.not_eq_true', String.isEmpty_eq_false_iff] at nonempty
  exact fun empty => nonempty.1 (String.toList_eq_nil_iff.mp empty)

theorem slash_notMem (e : Element) : '/' ∉ e.text.toList := by
  intro member
  have valid := e.valid
  simp only [isElement, Bool.and_eq_true, List.all_eq_true] at valid
  exact absurd (valid.2 '/' member) (by decide)

theorem text_injective : Function.Injective Element.text := by
  rintro ⟨s, _⟩ ⟨t, _⟩ rfl
  rfl

@[simp] theorem ofText?_text (e : Element) : ofText? e.text = some e := dif_pos e.valid

theorem ofText?_eq_some {s : String} {e : Element} (read : ofText? s = some e) : e.text = s := by
  rw [ofText?] at read
  split at read <;> cases read
  rfl

end Element

namespace ObjectPath

/-! ## Slashes -/

theorem splitSlashes_of_notMem {cs : List Char} (free : '/' ∉ cs) : splitSlashes cs = [cs] := by
  induction cs with
  | nil => rfl
  | cons c cs ih =>
      simp only [List.mem_cons, not_or] at free
      simp [splitSlashes, Ne.symm free.1, ih free.2]

theorem splitSlashes_append {cs : List Char} (free : '/' ∉ cs) (rest : List Char) :
    splitSlashes (cs ++ '/' :: rest) = cs :: splitSlashes rest := by
  induction cs with
  | nil => simp [splitSlashes]
  | cons c cs ih =>
      simp only [List.mem_cons, not_or] at free
      simp [splitSlashes, Ne.symm free.1, ih free.2]

theorem splitSlashes_ne_nil (cs : List Char) : splitSlashes cs ≠ [] := by
  induction cs with
  | nil => simp [splitSlashes]
  | cons c cs ih =>
      rw [splitSlashes]
      split
      · simp
      · split <;> simp

theorem flatMap_splitSlashes (cs : List Char) : (splitSlashes cs).flatMap ('/' :: ·) = '/' :: cs := by
  induction cs with
  | nil => rfl
  | cons c cs ih =>
      rw [splitSlashes]
      split
      next slash => rw [List.flatMap_cons, ih, slash]; rfl
      next =>
        split
        next none => exact absurd none (splitSlashes_ne_nil cs)
        next part parts split =>
          rw [split, List.flatMap_cons, List.cons_append, List.cons.injEq] at ih
          rw [List.flatMap_cons, List.cons_append, List.cons_append, ih.2]

def slashed (es : List Element) : List Char := es.flatMap fun e => '/' :: e.text.toList

theorem slashed_append (front back : List Element) : slashed (front ++ back) = slashed front ++ slashed back :=
  List.flatMap_append

theorem slashed_cons (e : Element) (es : List Element) : slashed (e :: es) = '/' :: (e.text.toList ++ slashed es) :=
  List.cons_append

theorem splitSlashes_slashed (e : Element) (es : List Element) :
    splitSlashes (e.text.toList ++ slashed es) = (e :: es).map fun e => e.text.toList := by
  induction es generalizing e with
  | nil => simp [slashed, splitSlashes_of_notMem e.slash_notMem]
  | cons next es ih =>
      rw [slashed_cons, splitSlashes_append e.slash_notMem, ih next, List.map_cons, List.map_cons, List.map_cons]

theorem splitSlashes_slashed_append (e : Element) (es : List Element) (rest : List Char) :
    splitSlashes (e.text.toList ++ slashed es ++ '/' :: rest) =
      (e :: es).map (fun e => e.text.toList) ++ splitSlashes rest := by
  induction es generalizing e with
  | nil => simp [slashed, splitSlashes_append e.slash_notMem]
  | cons next es ih =>
      have split := splitSlashes_append e.slash_notMem (next.text.toList ++ slashed es ++ '/' :: rest)
      rw [ih next] at split
      rw [slashed_cons, List.append_assoc, List.cons_append]
      exact split

theorem slashed_eq_nil_iff {es : List Element} : slashed es = [] ↔ es = [] := by
  cases es with
  | nil => exact iff_of_true rfl rfl
  | cons e es => simp [slashed_cons]

theorem slashed_eq_append_iff {es fs : List Element} {rest : List Char} :
    slashed fs = slashed es ++ '/' :: rest ↔ ∃ more, fs = es ++ more ∧ slashed more = '/' :: rest := by
  constructor
  · intro chars
    cases es with
    | nil => exact ⟨fs, rfl, chars⟩
    | cons e es =>
        have some : fs ≠ [] := by
          rintro rfl
          cases chars
        obtain ⟨f, fs, rfl⟩ := List.exists_cons_of_ne_nil some
        rw [slashed_cons, slashed_cons, List.cons_append, List.cons.injEq] at chars
        have parts := congrArg splitSlashes chars.2
        rw [splitSlashes_slashed, splitSlashes_slashed_append] at parts
        obtain ⟨front, more, elements, same, last⟩ := List.map_eq_append_iff.mp parts
        have toList_injective : Function.Injective fun e : Element => e.text.toList := fun e f same =>
          Element.text_injective (String.toList_inj.mp same)
        obtain rfl : front = e :: es := toList_injective.list_map same
        exact ⟨more, elements, by rw [← flatMap_splitSlashes, ← last, List.flatMap_map, slashed]⟩
  · rintro ⟨more, rfl, chars⟩
    rw [slashed_append, chars]

/-! ## Reading -/

theorem mapM_ofText? (es : List Element) :
    (es.map fun e => e.text.toList).mapM (fun part => Element.ofText? (String.ofList part)) = some es := by
  induction es with
  | nil => rfl
  | cons e es ih => simp [List.mapM_cons, ih]

theorem of_mapM_ofText? {parts : List (List Char)} {es : List Element}
    (read : parts.mapM (fun part => Element.ofText? (String.ofList part)) = some es) :
    (es.map fun e => e.text.toList) = parts := by
  induction parts generalizing es with
  | nil =>
      cases read
      rfl
  | cons part parts ih =>
      rw [List.mapM_cons] at read
      obtain ⟨e, here, read⟩ := Option.bind_eq_some_iff.mp read
      obtain ⟨es, later, read⟩ := Option.bind_eq_some_iff.mp read
      cases read
      rw [List.map_cons, ih later, Element.ofText?_eq_some here, String.toList_ofList]

theorem toList_text {p : ObjectPath} (below : p ≠ root) : p.text.toList = slashed p.elements := by
  obtain ⟨es⟩ := p
  cases es with
  | nil => exact absurd rfl below
  | cons e es => simp [text, slashed, List.flatMap_map]

theorem ofText?_text (p : ObjectPath) : ofText? p.text = some p := by
  obtain ⟨es⟩ := p
  cases es with
  | nil => rfl
  | cons e es =>
      have more : e.text.toList ++ slashed es ≠ [] := by simp [e.text_ne_nil]
      have read : elements? ('/' :: (e.text.toList ++ slashed es)) = some (e :: es) := by
        rw [elements?.eq_2 _ more, splitSlashes_slashed, mapM_ofText?]
      rw [ofText?, toList_text (by simp [root]), slashed_cons, read, Option.map_some]

theorem text_of_ofText? {s : String} {p : ObjectPath} (read : ofText? s = some p) : p.text = s := by
  obtain ⟨es, found, rfl⟩ := Option.map_eq_some_iff.mp read
  apply String.toList_inj.mp
  unfold elements? at found
  split at found
  next single =>
    cases found
    rw [single]
    rfl
  next rest _ chars =>
    have parts := of_mapM_ofText? found
    have below : (⟨es⟩ : ObjectPath) ≠ root := by
      intro top
      obtain rfl : es = [] := congrArg elements top
      exact splitSlashes_ne_nil rest parts.symm
    rw [toList_text below, chars, ← flatMap_splitSlashes, ← parts, List.flatMap_map, slashed]
  next => cases found

theorem parse_eq_ok_iff {s : String} {p : ObjectPath} : parse s = .ok p ↔ p.text = s := by
  have read : parse s = .ok p ↔ ofText? s = some p := by
    unfold parse
    cases ofText? s <;> simp
  rw [read]
  exact ⟨text_of_ofText?, fun same => same ▸ p.ofText?_text⟩

/-- The slash of the root, or a slash before each of one or more words over letters, digits and the
underscore. -/
def IsPathText (s : String) : Prop :=
  s = "/" ∨ ∃ words : List String, words ≠ [] ∧ (∀ word ∈ words, isElement word = true) ∧
    s = String.join (words.map fun word => "/" ++ word)

theorem isPathText_text (p : ObjectPath) : IsPathText p.text := by
  obtain ⟨es⟩ := p
  cases es with
  | nil => exact .inl rfl
  | cons e es =>
      refine .inr ⟨(e :: es).map Element.text, by simp, ?_, ?_⟩
      · rw [List.forall_mem_map]
        exact fun e _ => e.valid
      · rw [List.map_map]
        rfl

theorem readable_iff {s : String} : (∃ p, parse s = .ok p) ↔ IsPathText s := by
  simp only [parse_eq_ok_iff]
  constructor
  · rintro ⟨p, rfl⟩
    exact p.isPathText_text
  · rintro (rfl | ⟨words, some, valid, rfl⟩)
    · exact ⟨root, rfl⟩
    · obtain ⟨word, words, rfl⟩ := List.exists_cons_of_ne_nil some
      refine ⟨⟨(word :: words).pmap Element.mk valid⟩, ?_⟩
      simp only [text, List.pmap_cons, List.map_cons, List.map_pmap, List.pmap_eq_map]

/-! ## Children -/

theorem child_eq_parse (p : ObjectPath) (word : String) :
    p.child word = parse (String.ofList (slashed p.elements ++ '/' :: word.toList)) := by
  by_cases top : p = root
  · subst top
    rw [child, if_pos (show root.elements.isEmpty = true from rfl)]
    congr 1
    apply String.toList_inj.mp
    simp [root, slashed]
  · have below : p.elements.isEmpty = false := by
      cases none : p.elements.isEmpty with
      | false => rfl
      | true => exact absurd (ext (List.isEmpty_iff.mp none)) top
    rw [child, if_neg (by simp [below])]
    congr 1
    apply String.toList_inj.mp
    simp [toList_text top]

theorem text_push (p : ObjectPath) (e : Element) :
    (p.push e).text = String.ofList (slashed p.elements ++ '/' :: e.text.toList) := by
  have below : p.push e ≠ root := by simp [push, root]
  apply String.toList_inj.mp
  rw [toList_text below, push, slashed_append, String.toList_ofList, slashed_cons]
  simp [slashed]

theorem child_text (p : ObjectPath) (e : Element) : p.child e.text = .ok (p.push e) := by
  rw [child_eq_parse, parse_eq_ok_iff, text_push]

end ObjectPath
end GattPeripheral
