import GattPeripheral.Proofs.Json.Skipping
import Mathlib.Data.List.Nodup

/-!
# Lists, dictionaries and records

Readers go through a list or an object piece by piece. The outcome of the whole follows from the outcomes of the parts:
there is a value if every part has one (`Treats.list`, `Treats.dict`), and for a record if also no required field is
missing (`Treats.record`).
-/

namespace GattPeripheral.Json

open Number (isDigit)

variable {α τ : Type}

/-! ## From one piece to the next -/

theorem Reads.nextItem (first : Bool) {blanks lead : List Char} (blank : Blank blanks) (lead_blank : Blank lead)
    {c : Char} (begins : Begins c) (tail : List Char) :
    Reads (Reader.nextItem first) (blanks ++ ((if first then [] else [',']) ++ (lead ++ c :: tail))) true (c :: tail) := by
  cases first with
  | true =>
      have found : Reads Reader.peekValue (blanks ++ lead ++ c :: tail) (some c) (c :: tail) :=
        .peekValue (blank.append lead_blank) begins.visible
      rw [if_pos rfl, List.nil_append, ← List.append_assoc]
      refine .bind found ?_
      split
      next none => cases none
      next closed => exact absurd (Option.some.inj closed) begins.bracket
      next => exact .pure _ _
  | false =>
      have found : Reads Reader.peekValue (lead ++ c :: tail) (some c) (c :: tail) :=
        .peekValue lead_blank begins.visible
      refine .bind (.peekValue blank rfl) (.bind (.skipOne _ _) (.bind found ?_))
      split
      next none => cases none
      next closed => exact absurd (Option.some.inj closed) begins.bracket
      next => exact .pure _ _

theorem Reads.nextItem_end (first : Bool) {blanks : List Char} (blank : Blank blanks) (rest : List Char) :
    Reads (Reader.nextItem first) (blanks ++ ']' :: rest) false (']' :: rest) :=
  .bind (.peekValue blank rfl) (.pure _ _)

theorem Reads.nextKey (first : Bool) {blanks lead : List Char} (blank : Blank blanks) (lead_blank : Blank lead)
    (tail : List Char) :
    Reads (Reader.nextKey first) (blanks ++ ((if first then [] else [',']) ++ (lead ++ '"' :: tail))) true
      ('"' :: tail) := by
  cases first with
  | true =>
      have found : Reads Reader.peekValue (blanks ++ lead ++ '"' :: tail) (some '"') ('"' :: tail) :=
        .peekValue (blank.append lead_blank) rfl
      rw [if_pos rfl, List.nil_append, ← List.append_assoc]
      exact .bind found (.pure _ _)
  | false =>
      have found : Reads Reader.peekValue (lead ++ '"' :: tail) (some '"') ('"' :: tail) := .peekValue lead_blank rfl
      exact .bind (.peekValue blank rfl) (.bind (.skipOne _ _) (.bind found (.pure _ _)))

theorem Reads.nextKey_end (first : Bool) {blanks : List Char} (blank : Blank blanks) (rest : List Char) :
    Reads (Reader.nextKey first) (blanks ++ '\x7d' :: rest) false ('\x7d' :: rest) :=
  .bind (.peekValue blank rfl) (.pure _ _)

theorem Reads.colon {blanks : List Char} (blank : Blank blanks) (rest : List Char) :
    Reads Reader.colon (blanks ++ ':' :: rest) () rest :=
  .bind (.peekValue blank rfl) (.skipOne _ _)

theorem Reads.closeList (rest : List Char) : Reads Reader.closeList (']' :: rest) () rest :=
  .bind (.peekValue blank_nil rfl) (.skipOne _ _)

theorem Reads.closeObject (rest : List Char) : Reads Reader.closeObject ('\x7d' :: rest) () rest :=
  .bind (.peekValue blank_nil rfl) (.skipOne _ _)

theorem length_lt_pieces {pieces : List Piece} (spelled : ∀ p ∈ pieces, Spells p.json p.text) (rest : List Char) :
    pieces.length < (joined true (pieces.map Piece.written) ++ rest).length + 1 := by
  have counted : ∀ first, pieces.length ≤ (joined first (pieces.map Piece.written)).length := by
    induction pieces with
    | nil => exact fun _ => Nat.zero_le _
    | cons p pieces ih =>
        intro first
        obtain ⟨c, tail, text, -⟩ := (spelled p List.mem_cons_self).head
        have later := ih (fun q member => spelled q (List.mem_cons_of_mem p member)) false
        simp only [List.map_cons, joined, Piece.written, text, List.length_append, List.length_cons]
        omega
  rw [List.length_append]
  exact Nat.lt_succ_of_le (Nat.le_add_right_of_le (counted true))

theorem length_lt_members {members : List (String × Piece)} (spelled : ∀ m ∈ members, Spells m.2.json m.2.text)
    (rest : List Char) : members.length < (joined true (members.map fun m => m.2.written) ++ rest).length + 1 := by
  have counted := length_lt_pieces (List.forall_mem_map.mpr spelled) rest
  rwa [List.length_map, List.map_map] at counted

/-! ## Lists -/

theorem allSome_cons (o : Option α) (os : List (Option α)) :
    (o :: os).allSome = o.bind fun a => os.allSome.map (a :: ·) := by
  rw [List.allSome, List.mapM_cons]
  cases o with
  | none => rfl
  | some a => cases h : List.mapM id os <;> simp [List.allSome, h]

theorem allSome_map_some (as : List α) : (as.map some).allSome = some as := by
  induction as with
  | nil => rfl
  | cons a as ih => rw [List.map_cons, allSome_cons, ih, Option.bind_some, Option.map_some]

theorem Answers.items {r : Reader α} {ends : List Char} (ends_blank : Blank ends) (rest : List Char)
    {pieces : List Piece} {os : List (Option α)} (treats : List.Forall₂ (fun p o => Treats r p.json o) pieces os)
    (spelled : ∀ p ∈ pieces, Spells p.json p.text) (leads : ∀ p ∈ pieces, Blank p.lead)
    (trails : ∀ p ∈ pieces, Blank p.trail) (first : Bool) {blanks : List Char} (blank : Blank blanks) {fuel : Nat}
    (enough : pieces.length < fuel) :
    Answers (Reader.items r fuel first) (blanks ++ (joined first (pieces.map Piece.written) ++ (ends ++ ']' :: rest)))
      os.allSome (']' :: rest) := by
  induction treats generalizing first blanks fuel with
  | nil =>
      obtain ⟨fuel, rfl⟩ := Nat.exists_eq_add_one_of_ne_zero (Nat.ne_of_gt enough)
      have ended := Reads.nextItem_end first (blank.append ends_blank) rest
      rw [List.append_assoc] at ended
      exact Reads.bind ended (.pure _ _)
  | @cons p o pieces os here _ ih =>
      obtain ⟨fuel, rfl⟩ := Nat.exists_eq_add_one_of_ne_zero (Nat.ne_of_gt (Nat.zero_lt_of_lt enough))
      rw [List.forall_mem_cons] at spelled leads trails
      obtain ⟨c, tail, text, begins, -⟩ := spelled.1.head
      have apart : Apart (joined false (pieces.map Piece.written) ++ (ends ++ ']' :: rest)) :=
        apart_joined _ (ends_blank.apart (apart_cons (by decide) _))
      have item := here spelled.1 blank_nil (trails.1.apart apart)
      have later := ih spelled.2 leads.2 trails.2 false trails.1 (Nat.lt_of_succ_lt_succ enough)
      rw [text] at item
      rw [List.map_cons, joined_cons, Piece.written, text, List.append_assoc, List.append_assoc, List.cons_append,
        allSome_cons]
      refine Reads.answers (.nextItem first blank leads.1 begins _) ?_
      exact item.bind fun a _ => later.map (a :: ·)

theorem Treats.list {r : Reader α} {js : List Json} {os : List (Option α)} (treats : List.Forall₂ (Treats r) js os) :
    Treats (Reader.list r) (.array js) os.allSome := by
  intro cs spelled blanks rest blank _
  cases spelled with
  | @array pieces ends spelled leads trails ends_blank =>
      have enough := length_lt_pieces spelled (ends ++ ']' :: rest)
      have items := Answers.items ends_blank rest (List.forall₂_map_left_iff.mp treats) spelled leads trails true
        blank_nil enough
      rw [List.cons_append, List.append_assoc, List.append_assoc, List.singleton_append]
      exact .located (Reads.answers (.valueStart blank rfl) (Reads.answers (.skipOne _ _)
        (.enclosed (Reads.answers (.measure _) items) (.closeList rest))))

/-! ## Keys and values -/

/-- However the name of a member is written, the reader of keys takes it for this key. -/
def Names {κ : Type} (key : Reader κ) (name : String) (k : κ) : Prop :=
  ∀ ⦃text⦄, SpellsText name.toList text → ((∀ c ∈ name.toList, isDigit c = true) → text = name.toList) →
    ∀ rest, Reads key ('"' :: (text ++ '"' :: rest)) k rest

theorem names_numericKey {limit n : Nat} (small : n < limit) (narrow : limit ≤ Number.unsignedLimit) (type : String) :
    Names (Reader.numericKey limit type) (toString n) n := by
  intro text _ plain rest
  rw [Nat.toString_eq_ofList_toDigits, String.toList_ofList] at plain
  have all : ∀ c ∈ Nat.toDigits 10 n, isDigit c = true := fun c => isDigit_toDigits
  have apart : Apart ('"' :: rest) := apart_cons (by decide) rest
  have natural := Reads.natural small narrow type blank_nil apart
  have begins : (Nat.toDigits 10 n ++ '"' :: rest).head?.any (fun c => isDigit c || c = '-') = true := by
    cases some : Nat.toDigits 10 n with
    | nil => exact absurd some Nat.toDigits_ne_nil
    | cons c more =>
        have digit := all c (some ▸ List.mem_cons_self)
        simp [digit]
  rw [plain all]
  exact .bind (.skipOne _ _) (.bind (.nextIs begins) (.bind natural (.bind (.nextIs rfl)
    (.bind (.skipOne _ _) (.pure _ _)))))

section Dict
variable {κ : Type} {key : Reader κ} {value : Reader α}

theorem Reads.entries {ends : List Char} (ends_blank : Blank ends) (rest : List Char)
    {members : List (String × Piece)} {es : List (κ × α)}
    (treats : List.Forall₂ (fun m e => Names key m.1 e.1 ∧ Treats value m.2.json (some e.2)) members es)
    (spelled : ∀ m ∈ members, Spells m.2.json m.2.text) (leads : ∀ m ∈ members, Labels m.1 m.2.lead)
    (trails : ∀ m ∈ members, Blank m.2.trail) (first : Bool) {blanks : List Char} (blank : Blank blanks) {fuel : Nat}
    (enough : members.length < fuel) :
    Reads (Reader.entries key value fuel first)
      (blanks ++ (joined first (members.map fun m => m.2.written) ++ (ends ++ '\x7d' :: rest))) es ('\x7d' :: rest) := by
  induction treats generalizing first blanks fuel with
  | nil =>
      obtain ⟨fuel, rfl⟩ := Nat.exists_eq_add_one_of_ne_zero (Nat.ne_of_gt enough)
      have ended := Reads.nextKey_end first (blank.append ends_blank) rest
      rw [List.append_assoc] at ended
      exact .bind ended (.pure _ _)
  | @cons m e members es here _ ih =>
      obtain ⟨fuel, rfl⟩ := Nat.exists_eq_add_one_of_ne_zero (Nat.ne_of_gt (Nat.zero_lt_of_lt enough))
      rw [List.forall_mem_cons] at spelled leads trails
      obtain ⟨named, treated⟩ := here
      let left := joined false (members.map fun m => m.2.written) ++ (ends ++ '\x7d' :: rest)
      have apart : Apart left := apart_joined _ (ends_blank.apart (apart_cons (by decide) _))
      have later := ih spelled.2 leads.2 trails.2 false trails.1 (Nat.lt_of_succ_lt_succ enough)
      have labels := leads.1
      rw [List.map_cons, joined_cons, Piece.written]
      generalize m.2.lead = lead at labels ⊢
      cases labels with
      | intro before_blank text numeric after_blank between_blank =>
          have treated : Reads value _ e.2 _ := treated spelled.1 between_blank (trails.1.apart apart)
          have known := named text numeric
          simp only [List.append_assoc, List.cons_append]
          exact .bind (.nextKey first blank before_blank _) (.bind (known _) (.bind (.colon after_blank _)
            (.bind treated (.bind later (.pure _ _)))))

theorem Treats.dict {ms : List (String × Json)} {es : List (κ × α)}
    (treats : List.Forall₂ (fun m e => Names key m.1 e.1 ∧ Treats value m.2 (some e.2)) ms es) :
    Treats (Reader.dict key value) (.object ms) (some es) := by
  intro cs spelled blanks rest blank _
  cases spelled with
  | @object members ends spelled leads trails ends_blank =>
      have enough := length_lt_members spelled (ends ++ '\x7d' :: rest)
      have entries := Reads.entries ends_blank rest (List.forall₂_map_left_iff.mp treats) spelled leads trails true
        blank_nil enough
      rw [List.cons_append, List.append_assoc, List.append_assoc, List.singleton_append]
      exact Reads.located (.bind (.valueStart blank rfl) (.bind (.skipOne _ _)
        (.enclosed (.bind (.measure _) entries) (.closeObject rest))))

end Dict

/-! ## Records -/

theorem find?_of_nodup {fields : List (FieldSpec τ)} (distinct : (fields.map FieldSpec.name).Nodup)
    {field : FieldSpec τ} (member : field ∈ fields) : fields.find? (·.name == field.name) = some field := by
  induction fields with
  | nil => cases member
  | cons first fields ih =>
      rw [List.map_cons, List.nodup_cons] at distinct
      rcases List.mem_cons.mp member with rfl | later
      · simp
      · have other : first.name ≠ field.name := by
          intro same
          exact distinct.1 (same ▸ List.mem_map_of_mem later)
        rw [List.find?_cons_of_neg (by simpa using other)]
        exact ih distinct.2 later

section Record
variable (fields : List (FieldSpec τ))

def known (name : String) : Bool := (fields.find? (·.name == name)).isSome

def Updates (name : String) (j : Json) (u : Option (τ → τ)) : Prop :=
  match fields.find? (·.name == name) with
  | some field => ∀ record, Treats (field.read record) j (u.map (· record))
  | none => u = some id

variable {fields}

theorem Answers.named {γ : Type} {f : String → Reader γ} {other : Reader γ} {name : String} {lead : List Char}
    (labels : Labels name lead) (first : Bool) {blanks : List Char} (blank : Blank blanks) {rest rest' : List Char}
    {outcome : Option γ} (here : ∀ after between, Blank after → Blank between →
      Answers (f name) (after ++ ':' :: (between ++ rest)) outcome rest') :
    Answers (do if ← Reader.nextKey first then Reader.skipOne; f (← Reader.text) else other)
      (blanks ++ ((if first then [] else [',']) ++ (lead ++ rest))) outcome rest' := by
  cases labels with
  | intro before_blank text numeric after_blank between_blank =>
      simp only [List.append_assoc, List.cons_append]
      exact Reads.answers (.nextKey first blank before_blank _) (Reads.answers (.skipOne _ _)
        (Reads.answers (.text text _) (here _ _ after_blank between_blank)))

theorem Answers.members {ends : List Char} (ends_blank : Blank ends) (rest : List Char)
    {members : List (String × Piece)} {us : List (Option (τ → τ))}
    (updates : List.Forall₂ (fun m u => Updates fields m.1 m.2.json u) members us)
    (spelled : ∀ m ∈ members, Spells m.2.json m.2.text) (leads : ∀ m ∈ members, Labels m.1 m.2.lead)
    (trails : ∀ m ∈ members, Blank m.2.trail) (first : Bool) {given : List String}
    (distinct : (((members.map Prod.fst).filter (known fields)).reverse ++ given).Nodup) (record : τ)
    {blanks : List Char} (blank : Blank blanks) {fuel : Nat} (enough : members.length < fuel) :
    Answers (Reader.members fields fuel first given record)
      (blanks ++ (joined first (members.map fun m => m.2.written) ++ (ends ++ '\x7d' :: rest)))
      (us.allSome.map fun us => (((members.map Prod.fst).filter (known fields)).reverse ++ given,
        us.foldl (fun record u => u record) record)) ('\x7d' :: rest) := by
  induction updates generalizing first given record blanks fuel with
  | nil =>
      obtain ⟨fuel, rfl⟩ := Nat.exists_eq_add_one_of_ne_zero (Nat.ne_of_gt enough)
      have ended := Reads.nextKey_end first (blank.append ends_blank) rest
      rw [List.append_assoc] at ended
      exact Reads.bind ended (.pure _ _)
  | @cons m u members us here _ ih =>
      obtain ⟨fuel, rfl⟩ := Nat.exists_eq_add_one_of_ne_zero (Nat.ne_of_gt (Nat.zero_lt_of_lt enough))
      rw [List.forall_mem_cons] at spelled leads trails
      have apart : Apart (joined false (members.map fun m => m.2.written) ++ (ends ++ '\x7d' :: rest)) :=
        apart_joined _ (ends_blank.apart (apart_cons (by decide) _))
      have later := @ih spelled.2 leads.2 trails.2 false
      rw [List.map_cons] at distinct
      rw [List.map_cons, List.map_cons, joined_cons, Piece.written, allSome_cons, List.append_assoc, List.append_assoc]
      refine Answers.named leads.1 first blank fun after between after_blank between_blank => ?_
      unfold Updates at here
      cases found : fields.find? (·.name == m.1) with
      | none =>
          have unknown : ¬ known fields m.1 = true := by simp [known, found]
          rw [List.filter_cons_of_neg unknown] at distinct ⊢
          simp only [found] at here ⊢
          rw [here, Option.bind_some, Option.map_map]
          exact Reads.answers (.colon after_blank _)
            (Reads.answers (treats_skipValue m.2.json spelled.1 between_blank (trails.1.apart apart))
              (later distinct record trails.1 (Nat.lt_of_succ_lt_succ enough)))
      | some field =>
          have recognized : known fields m.1 = true := by simp [known, found]
          rw [List.filter_cons_of_pos recognized, List.reverse_cons, List.append_assoc, List.singleton_append]
            at distinct ⊢
          have fresh : m.1 ∉ given := (List.nodup_cons.mp (List.nodup_append.mp distinct).2.1).1
          have new : given.contains m.1 = false := by simpa using fresh
          simp only [found, new] at here ⊢
          have value := here record spelled.1 between_blank (trails.1.apart apart)
          have read := value.bind fun changed _ =>
            later distinct changed trails.1 (Nat.lt_of_succ_lt_succ enough)
          refine Reads.answers (.colon after_blank _) ?_
          cases u with
          | none => exact read
          | some u => simpa [Function.comp_def] using read

theorem Answers.checked (shape : Shape τ) (cs : List Char) (read : List String × τ) :
    Answers (match read with
      | (given, record) =>
          match shape.fields.find? fun f => f.required && !given.contains f.name with
          | some f => Reader.mismatch ("missing field `" ++ f.name ++ "`")
          | none => return record)
      cs (if ∀ f ∈ shape.fields, f.required = true → f.name ∈ read.1 then some read.2 else none) cs := by
  obtain ⟨given, record⟩ := read
  dsimp only
  cases missing : shape.fields.find? fun f => f.required && !given.contains f.name with
  | some f =>
      have member := List.mem_of_find?_eq_some missing
      have absent := List.find?_some missing
      have absent : f.required = true ∧ f.name ∉ given := by simpa using absent
      rw [if_neg fun complete => absent.2 (complete f member absent.1)]
      exact Refuses.mismatch _ cs
  | none =>
      rw [List.find?_eq_none] at missing
      have complete : ∀ f ∈ shape.fields, f.required = true → f.name ∈ given := by
        intro f member required
        have present := missing f member
        simpa [required] using present
      rw [if_pos complete]
      exact Reads.pure record cs

theorem Treats.members {shape : Shape τ} {ms : List (String × Json)} {us : List (Option (τ → τ))}
    (updates : List.Forall₂ (fun m u => Updates shape.fields m.1 m.2 u) ms us)
    (distinct : ((ms.map Prod.fst).filter (known shape.fields)).Nodup) :
    Treats (Reader.record shape) (.object ms)
      (if ∀ f ∈ shape.fields, f.required = true → f.name ∈ ms.map Prod.fst then
        us.allSome.map fun us => us.foldl (fun record u => u record) shape.start else none) := by
  intro cs spelled blanks rest blank _
  cases spelled with
  | @object members ends spelled leads trails ends_blank =>
      rw [List.map_map] at distinct ⊢
      have enough := length_lt_members spelled (ends ++ '\x7d' :: rest)
      let given := ((members.map Prod.fst).filter (known shape.fields)).reverse ++ []
      have fresh : given.Nodup := by
        simp only [given, List.append_nil, List.nodup_reverse]
        exact distinct
      have listed : (∀ f ∈ shape.fields, f.required = true → f.name ∈ given) ↔
          ∀ f ∈ shape.fields, f.required = true → f.name ∈ members.map Prod.fst := by
        refine forall₂_congr fun f member => imp_congr_right fun _ => ?_
        have recognized : known shape.fields f.name = true :=
          List.find?_isSome.mpr ⟨f, member, beq_self_eq_true f.name⟩
        simp [given, recognized]
      have read := Answers.members ends_blank rest (List.forall₂_map_left_iff.mp updates) spelled leads trails true fresh
        shape.start blank_nil enough
      have whole : Answers (Reader.recordFromObject shape) _ _ _ :=
        Reads.answers (.measure _) (read.bind fun read _ => .checked shape _ read)
      rw [List.cons_append, List.append_assoc, List.append_assoc, List.singleton_append]
      refine .located (Reads.answers (.valueStart blank rfl) (Reads.answers (.skipOne _ _)
        (.enclosed ?_ (.closeObject rest))))
      have outcome : (if ∀ f ∈ shape.fields, f.required = true → f.name ∈ members.map Prod.fst then
          us.allSome.map fun us => us.foldl (fun record u => u record) shape.start else none) =
          (us.allSome.map fun us => (given, us.foldl (fun record u => u record) shape.start)).bind fun read =>
            if ∀ f ∈ shape.fields, f.required = true → f.name ∈ read.1 then some read.2 else none := by
        cases us.allSome with
        | none => exact ite_self none
        | some us => simp only [Option.map_some, Option.bind_some, listed]
      exact outcome ▸ whole

end Record

end GattPeripheral.Json
