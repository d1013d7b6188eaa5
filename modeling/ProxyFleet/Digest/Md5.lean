import ProxyFleet.Digest.Blocks
import ProxyFleet.Digest.Hex
import ProxyFleet.Text.Utf8

/-!
# The MD5 digest

Sixty-four steps over four words for each block, as the digest's definition lays them down.
`md5Hex` is the digest of a text in hexadecimal digits.
-/

namespace ProxyFleet.Digest

/-- The four words an MD5 computation carries from block to block. -/
structure Md5State where
  a : UInt32
  b : UInt32
  c : UInt32
  d : UInt32

/-- What each step adds. -/
def md5Addends : List UInt32 :=
  [
    0xd76aa478, 0xe8c7b756, 0x242070db, 0xc1bdceee, 0xf57c0faf, 0x4787c62a, 0xa8304613, 0xfd469501,
    0x698098d8, 0x8b44f7af, 0xffff5bb1, 0x895cd7be, 0x6b901122, 0xfd987193, 0xa679438e, 0x49b40821,
    0xf61e2562, 0xc040b340, 0x265e5a51, 0xe9b6c7aa, 0xd62f105d, 0x02441453, 0xd8a1e681, 0xe7d3fbc8,
    0x21e1cde6, 0xc33707d6, 0xf4d50d87, 0x455a14ed, 0xa9e3e905, 0xfcefa3f8, 0x676f02d9, 0x8d2a4c8a,
    0xfffa3942, 0x8771f681, 0x6d9d6122, 0xfde5380c, 0xa4beea44, 0x4bdecfa9, 0xf6bb4b60, 0xbebfbc70,
    0x289b7ec6, 0xeaa127fa, 0xd4ef3085, 0x04881d05, 0xd9d4d039, 0xe6db99e5, 0x1fa27cf8, 0xc4ac5665,
    0xf4292244, 0x432aff97, 0xab9423a7, 0xfc93a039, 0x655b59c3, 0x8f0ccc92, 0xffeff47d, 0x85845dd1,
    0x6fa87e4f, 0xfe2ce6e0, 0xa3014314, 0x4e0811a1, 0xf7537e82, 0xbd3af235, 0x2ad7d2bb, 0xeb86d391
  ]

/-- How far each of four consecutive steps turns, by round. -/
def md5Turns : List (List UInt32) :=
  [[7, 12, 17, 22], [5, 9, 14, 20], [4, 11, 16, 23], [6, 10, 15, 21]]

/-- One step: its number, what it adds, and the words of the block. -/
def md5Step (words : Array UInt32) (s : Md5State) (step : Nat × UInt32) : Md5State :=
  let i := step.1
  let round := i / 16
  let mix :=
    match round with
    | 0 => (s.b &&& s.c) ||| (~~~s.b &&& s.d)
    | 1 => (s.d &&& s.b) ||| (~~~s.d &&& s.c)
    | 2 => s.b ^^^ s.c ^^^ s.d
    | _ => s.c ^^^ (s.b ||| ~~~s.d)
  let index :=
    match round with
    | 0 => i
    | 1 => (5 * i + 1) % 16
    | 2 => (3 * i + 5) % 16
    | _ => 7 * i % 16
  let turn := ((md5Turns.getD round []).getD (i % 4) 0)
  let sum := mix + s.a + step.2 + words.getD index 0
  ⟨s.d, s.b + rotateLeft sum turn, s.b, s.c⟩

/-- Takes one block into the state. -/
def md5Block (s : Md5State) (block : List UInt8) : Md5State :=
  let words := (blockWords .littleFirst block).toArray
  let r := ((List.range 64).zip md5Addends).foldl (md5Step words) s
  ⟨s.a + r.a, s.b + r.b, s.c + r.c, s.d + r.d⟩

/-- The MD5 digest of a message. -/
def md5 (message : List UInt8) : List UInt8 :=
  let r := (pieces 64 (padded .littleFirst message)).foldl md5Block
    ⟨0x67452301, 0xefcdab89, 0x98badcfe, 0x10325476⟩
  [r.a, r.b, r.c, r.d].flatMap (fun w => numberBytes .littleFirst 4 w.toNat)

/-- The MD5 digest of a text in hexadecimal digits. -/
def md5Hex (s : String) : String := hex (md5 (Text.utf8 s))

end ProxyFleet.Digest
