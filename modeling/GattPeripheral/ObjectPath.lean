import GattPeripheral.Error
import GattPeripheral.Text.Shown

/-!
Object paths.

A path is a list of elements, each a nonempty word over letters, digits and the underscore; its text
puts a slash in front of every element, and the empty list is the root `/`. Because the slash sorts
below every character of an element, the order of the element lists is the order of the texts.
`childBeside` picks the path of a new node among its siblings, `freeChild` for the stems of the tree.
-/

namespace GattPeripheral

def isElementChar (c : Char) : Bool :=
  ('a' ≤ c && c ≤ 'z') || ('A' ≤ c && c ≤ 'Z') || ('0' ≤ c && c ≤ '9') || c == '_'

def isElement (s : String) : Bool := !s.isEmpty && s.toList.all isElementChar

structure Element where
  text : String
  valid : isElement text = true
  deriving DecidableEq, Repr

instance : Ord Element := ⟨fun a b => compare a.text b.text⟩

instance : Std.TransOrd Element where
  eq_swap := Std.OrientedOrd.eq_swap (α := String)
  isLE_trans := Std.TransOrd.isLE_trans (α := String)

instance : Std.LawfulEqOrd Element where
  compare_self := Std.ReflOrd.compare_self (α := String)
  eq_of_compare {a b} h := by
    obtain ⟨s, hs⟩ := a
    obtain ⟨t, ht⟩ := b
    have : s = t := Std.LawfulEqOrd.eq_of_compare (α := String) h
    subst this
    rfl

namespace Element

def ofText? (s : String) : Option Element :=
  if h : isElement s = true then some ⟨s, h⟩ else none

theorem isElementChar_of_isDigit {c : Char} (h : c.isDigit = true) : isElementChar c = true := by
  simp only [Char.isDigit, Bool.and_eq_true, decide_eq_true_eq] at h
  simp only [isElementChar, Bool.or_eq_true, Bool.and_eq_true, decide_eq_true_eq]
  exact .inl (.inr h)

/-- A number behind characters of elements makes an element, also behind none. -/
theorem isElement_append_number {s : String} (h : s.toList.all isElementChar = true) (n : Nat) :
    isElement (s ++ toString n) = true := by
  have digits : (toString n).toList = Nat.toDigits 10 n := by
    rw [Nat.toString_eq_ofList_toDigits, String.toList_ofList]
  simp only [isElement, Bool.and_eq_true, Bool.not_eq_true', String.isEmpty_eq_false_iff]
  constructor
  · intro empty
    have none := congrArg String.toList empty
    rw [String.toList_append, digits] at none
    exact Nat.toDigits_ne_nil (List.append_eq_nil_iff.mp none).2
  · rw [String.toList_append, List.all_append, Bool.and_eq_true]
    refine ⟨h, List.all_eq_true.2 fun c hc => isElementChar_of_isDigit ?_⟩
    rw [digits] at hc
    exact Nat.isDigit_of_mem_toDigits (by decide) (by decide) hc

theorem chars (e : Element) : e.text.toList.all isElementChar = true :=
  (Bool.and_eq_true_iff.mp e.valid).2

/-- The element for the sibling with number `n`. -/
def numbered (stem : Element) (n : Nat) : Element :=
  ⟨stem.text ++ toString n, isElement_append_number stem.chars n⟩

end Element

structure ObjectPath where
  elements : List Element
  deriving DecidableEq, Repr, Inhabited

namespace ObjectPath

instance : Ord ObjectPath := ⟨fun a b => compare a.elements b.elements⟩

instance : Std.TransOrd ObjectPath where
  eq_swap := Std.OrientedOrd.eq_swap (α := List Element)
  isLE_trans := Std.TransOrd.isLE_trans (α := List Element)

instance : Std.LawfulEqOrd ObjectPath where
  compare_self := Std.ReflOrd.compare_self (α := List Element)
  eq_of_compare {a b} h := by
    obtain ⟨s⟩ := a
    obtain ⟨t⟩ := b
    have : s = t := Std.LawfulEqOrd.eq_of_compare (α := List Element) h
    subst this
    rfl

def root : ObjectPath := ⟨[]⟩

/-- A slash in front of every element; the root is a slash alone. -/
def text (p : ObjectPath) : String :=
  match p.elements with
  | [] => "/"
  | es => String.join (es.map fun e => "/" ++ e.text)

def splitSlashes : List Char → List (List Char)
  | [] => [[]]
  | c :: rest =>
      if c = '/' then [] :: splitSlashes rest
      else
        match splitSlashes rest with
        | [] => [[c]]
        | part :: parts => (c :: part) :: parts

/-- The elements of a text that puts a slash in front of each. -/
def elements? (cs : List Char) : Option (List Element) :=
  match cs with
  | ['/'] => some []
  | '/' :: rest => (splitSlashes rest).mapM fun part => Element.ofText? (String.ofList part)
  | _ => none

def ofText? (s : String) : Option ObjectPath := (elements? s.toList).map ObjectPath.mk

def parse (s : String) : Except BusError ObjectPath :=
  match ofText? s with
  | some p => .ok p
  | none => .error (.invalidPath s)

/-- Appends a text behind a slash and reads the result, so a text with slashes inside it can add
several elements. -/
def child (p : ObjectPath) (element : String) : Except BusError ObjectPath :=
  if p.elements.isEmpty then parse ("/" ++ element) else parse (p.text ++ "/" ++ element)

def push (p : ObjectPath) (e : Element) : ObjectPath := ⟨p.elements ++ [e]⟩

def parent? (p : ObjectPath) : Option ObjectPath :=
  if p.elements.isEmpty then none else some ⟨p.elements.dropLast⟩

/-- The last element, empty for the root. -/
def name (p : ObjectPath) : String := (p.elements.getLast?.map Element.text).getD ""

/-- Whether `p` lies strictly below `ancestor`. -/
def isDescendantOf (p ancestor : ObjectPath) : Bool :=
  ancestor.elements.isPrefixOf p.elements && ancestor.elements.length < p.elements.length

def shown (p : ObjectPath) : String := Text.shownCall "ObjectPath" [Text.quoted p.text]

/-- The least number that is not taken behind the stem, among the numbers up to the count of
distinct names. -/
def freeNumber? (stem : String) (taken : List String) : Option Nat :=
  let names := taken.eraseDups
  (List.range (names.length + 1)).find? fun n => !names.contains (stem ++ toString n)

def freeNumber (stem : String) (taken : List String) : Nat :=
  (freeNumber? stem taken).getD taken.eraseDups.length

/-- The path of a new child beside `siblings`, read from the parent's text with the name behind it. -/
def childBeside (p : ObjectPath) (stem : String) (siblings : List ObjectPath) :
    Except GattError ObjectPath :=
  (p.child (stem ++ toString (freeNumber stem (siblings.map name)))).mapError .bus

/-- The path of a new child whose stem is an element, so that there is nothing to refuse. -/
def freeChild (p : ObjectPath) (stem : Element) (siblings : List ObjectPath) : ObjectPath :=
  p.push (stem.numbered (freeNumber stem.text (siblings.map name)))

end ObjectPath
end GattPeripheral
