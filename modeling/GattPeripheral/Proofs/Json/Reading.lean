import GattPeripheral.Json.Reader
import GattPeripheral.Json.Value

/-!
# What readers take from a text

`Reads r cs a rest`: on the text `cs`, wherever it stands in a document, the reader gives `a` and leaves
`rest`. Places in the document do not matter, so a step of a reader only has to say which characters it
takes. `Refuses r cs`: the reader fails there. `Answers r cs outcome rest` is one or the other, so that one induction
over the parts of a text covers both.
-/

namespace GattPeripheral.Json

variable {α γ : Type}

theorem run_bind_ok {r : Reader α} {f : α → Reader γ} {c c' : Cursor} {a : α} (run : r c = (.ok a, c')) :
    (r >>= f) c = f a c' := by
  change ExceptT.bindCont f (r c).1 (r c).2 = _
  rw [run]
  rfl

theorem run_bind_error {r : Reader α} {f : α → Reader γ} {c c' : Cursor} {e : ReadError}
    (run : r c = (.error e, c')) : (r >>= f) c = (.error e, c') := by
  change ExceptT.bindCont f (r c).1 (r c).2 = _
  rw [run]
  rfl

def Reads (r : Reader α) (cs : List Char) (a : α) (rest : List Char) : Prop :=
  ∀ p, ∃ q, r ⟨cs, p⟩ = (.ok a, ⟨rest, q⟩)

namespace Reads

variable {r : Reader α} {cs mid rest : List Char} {a : α}

theorem pure (a : α) (cs : List Char) : Reads (Pure.pure a) cs a cs := fun p => ⟨p, rfl⟩

theorem bind {f : α → Reader γ} {b : γ} (first : Reads r cs a mid) (later : Reads (f a) mid b rest) :
    Reads (r >>= f) cs b rest := by
  intro p
  obtain ⟨q, here⟩ := first p
  obtain ⟨q', there⟩ := later q
  exact ⟨q', by rw [run_bind_ok here, there]⟩

theorem map {f : α → γ} (read : Reads r cs a rest) : Reads (do return f (← r)) cs (f a) rest :=
  .bind read (.pure _ _)

theorem located (read : Reads r cs a rest) : Reads (Reader.located r) cs a rest := by
  intro p
  obtain ⟨q, here⟩ := read p
  refine ⟨q, ?_⟩
  rw [Reader.located, here]

theorem enclosed {close : Reader Unit} (body : Reads r cs a mid) (closing : Reads close mid () rest) :
    Reads (Reader.enclosed r close) cs a rest := by
  intro p
  obtain ⟨q, here⟩ := body p
  obtain ⟨q', there⟩ := closing q
  refine ⟨q', ?_⟩
  simp only [Reader.enclosed, here, there]

theorem skipOne (c : Char) (cs : List Char) : Reads Reader.skipOne (c :: cs) () cs := fun _ => ⟨_, rfl⟩

theorem peek (cs : List Char) : Reads Reader.peek cs cs.head? cs := fun _ => ⟨_, rfl⟩

theorem measure (cs : List Char) : Reads Reader.measure cs (cs.length + 1) cs := fun _ => ⟨_, rfl⟩

theorem nextIs {test : Char → Bool} {cs : List Char} {answer : Bool} (here : cs.head?.any test = answer) :
    Reads (Reader.nextIs test) cs answer cs := here ▸ .bind (.peek cs) (.pure _ _)

end Reads

/-! ## Outcomes -/

def Refuses (r : Reader α) (cs : List Char) : Prop := ∀ p, ∃ e c, r ⟨cs, p⟩ = (.error e, c)

namespace Refuses

variable {r : Reader α} {cs mid : List Char} {a : α}

theorem bind {f : α → Reader γ} (refuses : Refuses r cs) : Refuses (r >>= f) cs := by
  intro p
  obtain ⟨e, c, here⟩ := refuses p
  exact ⟨e, c, run_bind_error here⟩

theorem located (refuses : Refuses r cs) : Refuses (Reader.located r) cs := by
  intro p
  obtain ⟨e, c, here⟩ := refuses p
  exact ⟨e.settle c.position, c, by rw [Reader.located, here]⟩

theorem enclosed {close : Reader Unit} (refuses : Refuses r cs) : Refuses (Reader.enclosed r close) cs := by
  intro p
  obtain ⟨e, c, here⟩ := refuses p
  exact ⟨e, (close c).2, by simp only [Reader.enclosed, here]⟩

theorem mismatch (text : String) (cs : List Char) : Refuses (Reader.mismatch text : Reader α) cs :=
  fun _ => ⟨_, _, rfl⟩

end Refuses

theorem Reads.refuses {r : Reader α} {f : α → Reader γ} {cs mid : List Char} {a : α} (first : Reads r cs a mid)
    (later : Refuses (f a) mid) : Refuses (r >>= f) cs := by
  intro p
  obtain ⟨q, here⟩ := first p
  obtain ⟨e, c, there⟩ := later q
  exact ⟨e, c, by rw [run_bind_ok here, there]⟩

def Answers (r : Reader α) (cs : List Char) (outcome : Option α) (rest : List Char) : Prop :=
  match outcome with
  | some a => Reads r cs a rest
  | none => Refuses r cs

namespace Answers

variable {r : Reader α} {cs mid rest : List Char} {outcome : Option α}

theorem bind {f : α → Reader γ} {g : α → Option γ} (first : Answers r cs outcome mid)
    (later : ∀ a, outcome = some a → Answers (f a) mid (g a) rest) : Answers (r >>= f) cs (outcome.bind g) rest := by
  cases outcome with
  | none => exact Refuses.bind first
  | some a =>
      have later := later a rfl
      rw [Option.bind_some]
      cases given : g a with
      | none =>
          rw [given] at later
          exact Reads.refuses first later
      | some b =>
          rw [given] at later
          exact Reads.bind first later

theorem map (f : α → γ) (answers : Answers r cs outcome rest) :
    Answers (do return f (← r)) cs (outcome.map f) rest := by
  cases outcome with
  | none => exact Refuses.bind answers
  | some a => exact Reads.map answers

theorem located (answers : Answers r cs outcome rest) : Answers (Reader.located r) cs outcome rest := by
  cases outcome with
  | none => exact Refuses.located answers
  | some a => exact Reads.located answers

theorem enclosed {close : Reader Unit} (body : Answers r cs outcome mid) (closing : Reads close mid () rest) :
    Answers (Reader.enclosed r close) cs outcome rest := by
  cases outcome with
  | none => exact Refuses.enclosed body
  | some a => exact Reads.enclosed body closing

end Answers

theorem Reads.answers {r : Reader α} {f : α → Reader γ} {cs mid rest : List Char} {a : α} {outcome : Option γ}
    (first : Reads r cs a mid) (later : Answers (f a) mid outcome rest) : Answers (r >>= f) cs outcome rest := by
  cases outcome with
  | none => exact first.refuses later
  | some b => exact first.bind later

/-! ## Blanks -/

theorem skipWhile_append {test : Char → Bool} {front rest : List Char} (inside : ∀ c ∈ front, test c = true)
    (outside : ∀ c ∈ rest.head?, test c = false) (p : Position) :
    ∃ q, Cursor.skipWhile test (front ++ rest) p = ⟨rest, q⟩ := by
  induction front generalizing p with
  | nil =>
      cases rest with
      | nil => exact ⟨p, rfl⟩
      | cons c rest =>
          have stops : test c = false := outside c rfl
          exact ⟨p, by simp [Cursor.skipWhile, stops]⟩
  | cons c front ih =>
      have goes : test c = true := inside c List.mem_cons_self
      obtain ⟨q, rest⟩ := ih (fun d member => inside d (List.mem_cons_of_mem c member)) (p.after c)
      exact ⟨q, by simp [Cursor.skipWhile, goes, rest]⟩

def Blank (cs : List Char) : Prop := ∀ c ∈ cs, Cursor.isBlank c = true

theorem blank_nil : Blank [] := fun _ member => by cases member

theorem Blank.append {cs ds : List Char} (front : Blank cs) (back : Blank ds) : Blank (cs ++ ds) :=
  List.forall_mem_append.mpr ⟨front, back⟩

theorem blank_newLine (depth : Nat) : Blank (newLine depth) := by
  intro c member
  simp only [newLine, List.mem_cons, List.mem_replicate] at member
  rcases member with rfl | ⟨-, rfl⟩ <;> rfl

theorem Reads.peekValue {blanks rest : List Char} {c : Char} (blank : Blank blanks)
    (visible : Cursor.isBlank c = false) :
    Reads Reader.peekValue (blanks ++ c :: rest) (some c) (c :: rest) := by
  intro p
  have stops : ∀ d ∈ (c :: rest).head?, Cursor.isBlank d = false := by simpa using visible
  obtain ⟨q, skipped⟩ := skipWhile_append blank stops p
  exact ⟨q, by simp only [Reader.peekValue, Cursor.skipBlanks, skipped, List.head?_cons]⟩

theorem Reads.valueStart {blanks rest : List Char} {c : Char} (blank : Blank blanks)
    (visible : Cursor.isBlank c = false) :
    Reads Reader.valueStart (blanks ++ c :: rest) c (c :: rest) :=
  .bind (.peekValue blank visible) (.pure _ _)

theorem Answers.document {r : Reader α} {s : String} {outcome : Option α} {blanks : List Char}
    (answers : Answers r s.toList outcome blanks) (blank : Blank blanks) :
    (Reader.document r s).toOption = outcome := by
  have ended (p : Position) : ∃ q, Reader.peekValue ⟨blanks, p⟩ = (.ok none, ⟨[], q⟩) := by
    obtain ⟨q, skipped⟩ : ∃ q, Cursor.skipWhile Cursor.isBlank (blanks ++ []) p = ⟨[], q⟩ :=
      skipWhile_append blank (by simp) p
    rw [List.append_nil] at skipped
    exact ⟨q, by simp only [Reader.peekValue, Cursor.skipBlanks, skipped, List.head?_nil]⟩
  rw [Reader.document, Cursor.start]
  cases outcome with
  | none =>
      obtain ⟨e, c, failed⟩ := answers ⟨1, 0⟩
      rw [run_bind_error failed]
      rfl
  | some a =>
      obtain ⟨p, read⟩ := answers ⟨1, 0⟩
      obtain ⟨q, ended⟩ := ended p
      rw [run_bind_ok read, run_bind_ok ended]
      rfl

theorem Reads.document {r : Reader α} {s : String} {a : α} (read : Reads r s.toList a []) :
    Reader.document r s = .ok a := by
  have answers : Answers r s.toList (some a) [] := read
  have whole := answers.document blank_nil
  cases found : Reader.document r s with
  | error e =>
      rw [found] at whole
      cases whole
  | ok b =>
      rw [found] at whole
      exact congrArg Except.ok (Option.some.inj whole)

/-! ## Values -/

/-- What follows a value does not go on with a number. -/
def Apart (rest : List Char) : Prop :=
  ∀ c ∈ rest.head?, Number.isDigit c = false ∧ c ≠ '.' ∧ c ≠ 'e' ∧ c ≠ 'E'

theorem apart_nil : Apart [] := fun _ member => by cases member

theorem apart_cons {c : Char} (ends : Number.isDigit c = false ∧ c ≠ '.' ∧ c ≠ 'e' ∧ c ≠ 'E')
    (rest : List Char) : Apart (c :: rest) := by
  intro d member
  obtain rfl : c = d := Option.some.inj member
  exact ends

theorem Blank.apart {blanks rest : List Char} (blank : Blank blanks) (apart : Apart rest) :
    Apart (blanks ++ rest) := by
  cases blanks with
  | nil => exact apart
  | cons c blanks =>
      have visible := blank c List.mem_cons_self
      simp only [Cursor.isBlank, Bool.or_eq_true, decide_eq_true_eq] at visible
      refine apart_cons ?_ _
      rcases visible with ((rfl | rfl) | rfl) | rfl <;> decide

end GattPeripheral.Json
