import GattPeripheral.Json.Cursor
import GattPeripheral.Text.Hex

/-!
Reading strings.

A string is read behind its opening quote. Escapes of UTF-16 code units have to form characters.
-/

namespace GattPeripheral.Json

def shortEscaped? : Char → Option Char
  | '"' => some '"'
  | '\\' => some '\\'
  | '/' => some '/'
  | 'b' => some '\x08'
  | 'f' => some '\x0c'
  | 'n' => some '\n'
  | 'r' => some '\r'
  | 't' => some '\t'
  | _ => none

def codeUnit? (a b c d : Char) : Option Nat := do
  let a ← Text.hexValue? a
  let b ← Text.hexValue? b
  let c ← Text.hexValue? c
  let d ← Text.hexValue? d
  return 4096 * a + 256 * b + 16 * c + d

def isLeading (n : Nat) : Bool := 0xd800 ≤ n && n ≤ 0xdbff
def isTrailing (n : Nat) : Bool := 0xdc00 ≤ n && n ≤ 0xdfff

/-- The character that a pair of surrogates stands for. -/
def joinSurrogates (high low : Nat) : Char :=
  Char.ofNat (0x10000 + (high - 0xd800) * 1024 + (low - 0xdc00))

def octetCount (cs : List Char) : Nat := (String.ofList cs).utf8ByteSize

/-- The fault of four octets that are no hexadecimal digits. -/
def hexFault (cs : List Char) (p : Position) : ReadError :=
  if octetCount cs < 4 then ⟨.truncatedString, some (p.afterOctets (octetCount cs) cs)⟩
  else ⟨.invalidEscape, some (p.afterOctets 4 cs)⟩

/-- The fault of a leading surrogate, at `cs`, that no trailing one follows. -/
def pairFault (cs : List Char) (p : Position) : ReadError :=
  match cs with
  | [] => ⟨.truncatedString, some p⟩
  | '\\' :: cs =>
      let p := p.after '\\'
      match cs with
      | [] => ⟨.truncatedString, some p⟩
      | 'u' :: cs => hexFault cs (p.after 'u')
      | cs => ⟨.unfinishedSurrogate, some (p.afterOctets 1 cs)⟩
  | cs => ⟨.unfinishedSurrogate, some (p.afterOctets 1 cs)⟩

def textFrom (cs : List Char) (p : Position) : Except ReadError (List Char) × Cursor :=
  match cs with
  | [] => (.error ⟨.truncatedString, some p⟩, ⟨[], p⟩)
  | '"' :: rest => (.ok [], ⟨rest, p.after '"'⟩)
  | '\\' :: rest =>
      let p := p.after '\\'
      match rest with
      | [] => (.error ⟨.truncatedString, some p⟩, ⟨[], p⟩)
      | 'u' :: rest =>
          let p := p.after 'u'
          match rest with
          | a :: b :: c :: d :: tail =>
              match codeUnit? a b c d with
              | none => (.error (hexFault rest p), ⟨rest, p⟩)
              | some n =>
                  let q := p.afterOctets 4 rest
                  if isTrailing n then (.error ⟨.loneSurrogate, some q⟩, ⟨tail, q⟩)
                  else if isLeading n then
                    match tail with
                    | '\\' :: 'u' :: a :: b :: c :: d :: more =>
                        match codeUnit? a b c d with
                        | none => (.error (pairFault tail q), ⟨tail, q⟩)
                        | some m =>
                            let q := q.afterOctets 6 tail
                            if isTrailing m then
                              let (result, cursor) := textFrom more q
                              (result.map (joinSurrogates n m :: ·), cursor)
                            else (.error ⟨.loneSurrogate, some q⟩, ⟨more, q⟩)
                    | _ => (.error (pairFault tail q), ⟨tail, q⟩)
                  else
                    let (result, cursor) := textFrom tail q
                    (result.map (Char.ofNat n :: ·), cursor)
          | rest => (.error (hexFault rest p), ⟨rest, p⟩)
      | letter :: tail =>
          match shortEscaped? letter with
          | none => (.error ⟨.invalidEscape, some (p.afterOctets 1 rest)⟩, ⟨rest, p⟩)
          | some c =>
              let (result, cursor) := textFrom tail (p.after letter)
              (result.map (c :: ·), cursor)
  | c :: rest =>
      if c.toNat < 0x20 then
        (.error ⟨.controlCharacter, some (p.afterOctets 1 cs)⟩, ⟨rest, p.after c⟩)
      else
        let (result, cursor) := textFrom rest (p.after c)
        (result.map (c :: ·), cursor)

/-- Passes over the rest of a string whose content does not matter, so that its escapes need not form
characters. -/
def skipTextFrom (cs : List Char) (p : Position) : Except ReadError Unit × Cursor :=
  match cs with
  | [] => (.error ⟨.truncatedString, some p⟩, ⟨[], p⟩)
  | '"' :: rest => (.ok (), ⟨rest, p.after '"'⟩)
  | '\\' :: rest =>
      let p := p.after '\\'
      match rest with
      | [] => (.error ⟨.truncatedString, some p⟩, ⟨[], p⟩)
      | 'u' :: rest =>
          let p := p.after 'u'
          match rest with
          | a :: b :: c :: d :: tail =>
              match codeUnit? a b c d with
              | none => (.error (hexFault rest p), ⟨rest, p⟩)
              | some _ => skipTextFrom tail (p.afterOctets 4 rest)
          | rest => (.error (hexFault rest p), ⟨rest, p⟩)
      | letter :: tail =>
          match shortEscaped? letter with
          | none => (.error ⟨.invalidEscape, some (p.afterOctets 1 rest)⟩, ⟨rest, p⟩)
          | some _ => skipTextFrom tail (p.after letter)
  | c :: rest =>
      if c.toNat < 0x20 then (.error ⟨.controlCharacter, some p⟩, ⟨rest, p⟩)
      else skipTextFrom rest (p.after c)

namespace Reader

def text : Reader String := fun c =>
  let (result, c) := textFrom c.rest c.position
  (result.map String.ofList, c)

def skipText : Reader Unit := fun c => skipTextFrom c.rest c.position

end Reader
end GattPeripheral.Json
