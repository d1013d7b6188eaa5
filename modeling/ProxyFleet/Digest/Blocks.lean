/-!
# Padding to blocks

Both digests read their input in blocks of sixty-four bytes: the message, the byte 128, as many
zero bytes as are needed, and the length of the message in bits as eight bytes.
`length_padded` says that nothing is left over.
-/

namespace ProxyFleet.Digest

/-- The order in which the bytes of a number stand. -/
inductive ByteOrder
  | littleFirst
  | bigFirst

/-- The lowest `count` bytes of a number, the lowest one first. -/
def lowBytes : Nat → Nat → List UInt8
  | 0, _ => []
  | count + 1, n => UInt8.ofNat (n % 256) :: lowBytes count (n / 256)

/-- The lowest `count` bytes of a number in the given order. -/
def numberBytes (order : ByteOrder) (count n : Nat) : List UInt8 :=
  match order with
  | .littleFirst => lowBytes count n
  | .bigFirst => (lowBytes count n).reverse

/-- The number that bytes in the given order stand for. -/
def bytesNumber (order : ByteOrder) (bytes : List UInt8) : Nat :=
  match order with
  | .littleFirst => bytes.foldr (fun b n => n * 256 + b.toNat) 0
  | .bigFirst => bytes.foldl (fun n b => n * 256 + b.toNat) 0

/-- A message with its padding. -/
def padded (order : ByteOrder) (message : List UInt8) : List UInt8 :=
  message ++ 0x80 :: List.replicate ((119 - message.length % 64) % 64) 0 ++
    numberBytes order 8 (message.length * 8)

/-- As many bytes as asked for. -/
@[simp] theorem length_lowBytes (count n : Nat) : (lowBytes count n).length = count := by
  induction count generalizing n with
  | zero => rfl
  | succ count ih => simp [lowBytes, ih]

/-- Either order has as many bytes as asked for. -/
@[simp] theorem length_numberBytes (order : ByteOrder) (count n : Nat) :
    (numberBytes order count n).length = count := by
  cases order <;> simp [numberBytes]

/-- A padded message is a whole number of blocks. -/
theorem length_padded (order : ByteOrder) (message : List UInt8) :
    (padded order message).length % 64 = 0 := by
  simp only [padded, List.length_append, List.length_cons, List.length_replicate,
    length_numberBytes]
  omega

/-- Cuts a list into pieces of `size`; the last one may be shorter. -/
def pieces (size : Nat) (l : List α) : List (List α) :=
  go l.length l
where
  /-- At most `count` pieces of `l`. -/
  go : Nat → List α → List (List α)
    | 0, _ => []
    | _, [] => []
    | count + 1, l => l.take size :: go count (l.drop size)

/-- The words of a block, four bytes each. -/
def blockWords (order : ByteOrder) (block : List UInt8) : List UInt32 :=
  (pieces 4 block).map (fun bytes => UInt32.ofNat (bytesNumber order bytes))

/-- A word turned to the left. -/
def rotateLeft (w : UInt32) (n : UInt32) : UInt32 := (w <<< n) ||| (w >>> (32 - n))

/-- A word turned to the right. -/
def rotateRight (w : UInt32) (n : UInt32) : UInt32 := (w >>> n) ||| (w <<< (32 - n))

end ProxyFleet.Digest
