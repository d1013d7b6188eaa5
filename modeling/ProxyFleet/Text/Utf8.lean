/-!
# Bytes and text

UTF-8 in both directions.  Every text has its bytes; bytes that are no text are read leniently:
a longest start of a character that its next byte does not continue, or a byte that starts none,
becomes one replacement character.

* `utf8_append` : the bytes of a concatenation.
* `decodeFrom_ascii` : bytes below 128 are read one by one.
-/

namespace ProxyFleet.Text

/-- The UTF-8 bytes of a text. -/
def utf8 (s : String) : List UInt8 := s.toList.flatMap String.utf8EncodeChar

/-- The bytes of a concatenation stand one after another. -/
theorem utf8_append (s t : String) : utf8 (s ++ t) = utf8 s ++ utf8 t := by
  simp [utf8]

/-- The character that stands for bytes that are no text. -/
def replacement : Char := '\ufffd'

/-- A character of which some bytes are still to come: the value of the bits read so far, how many
bytes are missing, and the bounds of the next one. -/
structure Partial where
  value : Nat
  missing : Nat
  low : UInt8
  high : UInt8

/-- What a byte begins: a character of its own, a longer one, or nothing. -/
inductive Lead
  | whole (c : Char)
  | begun (p : Partial)
  | none

/-- Reads the first byte of a character.  The bounds of the second byte leave out longer forms of
short characters, surrogates, and what lies past the last code point. -/
def lead (b : UInt8) : Lead :=
  if b < 0x80 then .whole (Char.ofNat b.toNat)
  else if b < 0xC2 then .none
  else if b < 0xE0 then .begun ⟨b.toNat - 0xC0, 1, 0x80, 0xBF⟩
  else if b = 0xE0 then .begun ⟨0, 2, 0xA0, 0xBF⟩
  else if b = 0xED then .begun ⟨0xD, 2, 0x80, 0x9F⟩
  else if b < 0xF0 then .begun ⟨b.toNat - 0xE0, 2, 0x80, 0xBF⟩
  else if b = 0xF0 then .begun ⟨0, 3, 0x90, 0xBF⟩
  else if b < 0xF4 then .begun ⟨b.toNat - 0xF0, 3, 0x80, 0xBF⟩
  else if b = 0xF4 then .begun ⟨4, 3, 0x80, 0x8F⟩
  else .none

/-- Reads bytes as text; `pending` is the character begun and not yet complete. -/
def decodeFrom (pending : Option Partial) : List UInt8 → List Char
  | [] => if pending.isSome then [replacement] else []
  | b :: rest =>
    let start : List Char :=
      match lead b with
      | .whole c => c :: decodeFrom none rest
      | .begun p => decodeFrom (some p) rest
      | .none => replacement :: decodeFrom none rest
    match pending with
    | none => start
    | some p =>
      if p.low ≤ b ∧ b ≤ p.high then
        let value := p.value * 64 + (b.toNat - 0x80)
        if p.missing = 1 then Char.ofNat value :: decodeFrom none rest
        else decodeFrom (some ⟨value, p.missing - 1, 0x80, 0xBF⟩) rest
      else replacement :: start

/-- Bytes as text, with replacement characters for what is no text. -/
def ofBytes (bytes : List UInt8) : String := String.ofList (decodeFrom none bytes)

/-- A byte below 128 is the character with its number. -/
theorem decodeFrom_ascii {b : UInt8} (h : b < 0x80) (rest : List UInt8) :
    decodeFrom none (b :: rest) = Char.ofNat b.toNat :: decodeFrom none rest := by
  simp [decodeFrom, lead, h]

end ProxyFleet.Text
