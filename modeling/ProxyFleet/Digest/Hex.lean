/-!
# Hexadecimal digits

Bytes as pairs of lower-case hexadecimal digits, and back.  `unhex?_hexChars` says that reading
undoes writing.
-/

namespace ProxyFleet.Digest

/-- The digit of a number below sixteen. -/
def hexDigit (n : Nat) : Char := Nat.digitChar n

/-- Bytes as hexadecimal digits, two for each. -/
def hexChars (bytes : List UInt8) : List Char :=
  bytes.flatMap (fun b => [hexDigit (b.toNat / 16), hexDigit (b.toNat % 16)])

/-- Bytes as the text of their hexadecimal digits. -/
def hex (bytes : List UInt8) : String := String.ofList (hexChars bytes)

/-- The value of a hexadecimal digit of either case. -/
def hexValue? (c : Char) : Option Nat :=
  if '0' ≤ c ∧ c ≤ '9' then some (c.toNat - '0'.toNat)
  else if 'a' ≤ c ∧ c ≤ 'f' then some (c.toNat - 'a'.toNat + 10)
  else if 'A' ≤ c ∧ c ≤ 'F' then some (c.toNat - 'A'.toNat + 10)
  else none

/-- Bytes from their hexadecimal digits. -/
def unhex? : List Char → Option (List UInt8)
  | [] => some []
  | a :: b :: rest => do
    let high ← hexValue? a
    let low ← hexValue? b
    let bytes ← unhex? rest
    return UInt8.ofNat (high * 16 + low) :: bytes
  | [_] => none

/-- A digit is read back. -/
theorem hexValue?_hexDigit : ∀ n < 16, hexValue? (hexDigit n) = some n := by decide

/-- Reading the digits of bytes gives the bytes back. -/
theorem unhex?_hexChars (bytes : List UInt8) : unhex? (hexChars bytes) = some bytes := by
  induction bytes with
  | nil => rfl
  | cons b rest ih =>
    have h₁ : b.toNat / 16 < 16 := by have := b.toNat_lt; omega
    have h₂ : b.toNat % 16 < 16 := by omega
    have hb : b.toNat / 16 * 16 + b.toNat % 16 = b.toNat := by omega
    have hcons : hexChars (b :: rest) =
        hexDigit (b.toNat / 16) :: hexDigit (b.toNat % 16) :: hexChars rest := rfl
    rw [hcons, unhex?, hexValue?_hexDigit _ h₁, hexValue?_hexDigit _ h₂, ih]
    show some (UInt8.ofNat (b.toNat / 16 * 16 + b.toNat % 16) :: rest) = some (b :: rest)
    rw [hb, UInt8.ofNat_toNat]

/-- What holds of the sixteen digits holds of all digits of bytes. -/
theorem forall_mem_hex {p : Char → Prop} (h : ∀ n < 16, p (hexDigit n)) (bytes : List UInt8) :
    ∀ c ∈ (hex bytes).toList, p c := by
  intro c hc
  rw [hex, String.toList_ofList] at hc
  obtain ⟨b, -, hb⟩ := List.mem_flatMap.1 hc
  have hlt : b.toNat < 256 := b.toNat_lt
  simp only [List.mem_cons, List.not_mem_nil, or_false] at hb
  rcases hb with rfl | rfl
  · exact h _ (by omega)
  · exact h _ (by omega)

/-- Different bytes have different digits. -/
theorem hex_inj {a b : List UInt8} : hex a = hex b ↔ a = b := by
  constructor
  · intro h
    have hchars : hexChars a = hexChars b := by
      simpa [hex] using congrArg String.toList h
    have hbytes : some a = some b := by
      rw [← unhex?_hexChars a, ← unhex?_hexChars b, hchars]
    exact Option.some.inj hbytes
  · rintro rfl
    rfl

end ProxyFleet.Digest
