import ProxyFleet.Digest.Hex

/-!
# Internet addresses

Which texts are internet addresses: four numbers with points between them, or up to eight groups
of hexadecimal digits with colons between them, where one double colon may stand for groups of
zeros and the last two groups may be written as four numbers.
-/

namespace ProxyFleet.Address

/-- Reads a number from 0 to 255 without leading zeros; gives back what follows. -/
def octet (s : List Char) : Option (List Char) :=
  let digits := s.takeWhile Char.isDigit
  let value := digits.foldl (fun n c => n * 10 + (c.toNat - '0'.toNat)) 0
  if digits.isEmpty || 3 < digits.length || (digits.head? == some '0' && 1 < digits.length) ||
      255 < value then none
  else some (s.dropWhile Char.isDigit)

/-- Reads one given character. -/
def mark (c : Char) : List Char → Option (List Char)
  | [] => none
  | d :: rest => if d = c then some rest else none

/-- Reads four numbers with points between them. -/
def dotted (s : List Char) : Option (List Char) := do
  let s ← octet s
  let s ← octet (← mark '.' s)
  let s ← octet (← mark '.' s)
  octet (← mark '.' s)

/-- Whether a character is a hexadecimal digit. -/
def isHexDigit (c : Char) : Bool := (Digest.hexValue? c).isSome

/-- Reads a group of one to four hexadecimal digits. -/
def group (s : List Char) : Option (List Char) :=
  let digits := s.takeWhile isHexDigit
  if digits.isEmpty || 4 < digits.length then none else some (s.dropWhile isHexDigit)

/-- A row of groups: how many it counts for, whether it ended with four numbers, and what comes
after it. -/
structure Groups where
  count : Nat
  dotted : Bool
  rest : List Char

/-- Reads up to `limit` groups with colons between them.  Four numbers count as two groups and end
the row. -/
def groups (first : Bool) : Nat → List Char → Groups
  | 0, s => ⟨0, false, s⟩
  | limit + 1, s =>
    let body := if first then some s else mark ':' s
    match (if limit = 0 then none else body.bind dotted) with
    | some rest => ⟨2, true, rest⟩
    | none =>
      match body.bind group with
      | some rest =>
        let others := groups false limit rest
        ⟨others.count + 1, others.dotted, others.rest⟩
      | none => ⟨0, false, s⟩

/-- Reads an address of eight groups, or of fewer around a double colon. -/
def grouped (s : List Char) : Option (List Char) :=
  let front := groups true 8 s
  if front.count = 8 then some front.rest
  else if front.dotted then none
  else do
    let s ← mark ':' (← mark ':' front.rest)
    return (groups true (7 - front.count) s).rest

/-- Whether a text is an internet address. -/
def isAddress (s : String) : Bool :=
  dotted s.toList == some [] || grouped s.toList == some []

end ProxyFleet.Address
