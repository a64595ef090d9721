import CommandShell.Programs.Bytes

/-!
# Digests

Short rows of bytes that stand for long ones. A text is filled up to whole blocks, with its length
at the end, and every block is stirred into a state of words, from which the digest is read off. The
constants of most of these functions are the first bits behind the point of roots of the first prime
numbers.
-/
namespace CommandShell.Digest

/-! ## Blocks -/

/-- A number as so many bytes, the greatest first. -/
def bigEndian (count n : Nat) : List UInt8 :=
  (List.range count).map fun i => UInt8.ofNat (n / Nat.pow 256 (count - 1 - i))

/-- A number as so many bytes, the least first. -/
def littleEndian (count n : Nat) : List UInt8 := (bigEndian count n).reverse

/-- A text, a bit that is set, and zeros, so that the length fits at the end of a block. -/
def padded (block : Nat) (length : List UInt8) (bytes : ByteArray) : ByteArray :=
  let used := (bytes.size + 1 + length.length) % block
  let zeros := if used = 0 then 0 else block - used
  bytes ++ (0x80 :: (List.replicate zeros 0 ++ length)).toByteArray

/-- The number in so many bytes from a place on, the greatest first. -/
def wordAt (bytes : ByteArray) (place count : Nat) : Nat :=
  count.fold (fun i _ n => 256 * n + (bytes.data.getD (place + i) 0).toNat) 0

/-- The number in so many bytes from a place on, the least first. -/
def reverseWordAt (bytes : ByteArray) (place count : Nat) : Nat :=
  count.fold (fun i _ n => 256 * n + (bytes.data.getD (place + (count - 1 - i)) 0).toNat) 0

/-- Stirs the blocks of a text into a state, one after the other. -/
def overBlocks {α : Type} (block : Nat) (stir : α → Nat → α) (bytes : ByteArray) (start : α) : α :=
  (bytes.size / block).fold (fun i _ state => stir state (i * block)) start

/-! ## Roots -/

def isPrime (n : Nat) : Bool := 2 ≤ n && (List.range n).all fun d => d < 2 || n % d ≠ 0

def primes (count : Nat) : List Nat := ((List.range 500).filter isPrime).take count

/-- The greatest number whose power is at most `n`, where it has no more than `bits` bits. -/
def root (power bits n : Nat) : Nat :=
  (List.range bits).foldl (fun r i =>
    let next := r + Nat.pow 2 (bits - 1 - i)
    if Nat.pow next power ≤ n then next else r) 0

def rootBits (power bits n : Nat) : Nat :=
  root power (bits + 8) (n * Nat.pow 2 (power * bits)) % Nat.pow 2 bits

/-! ## Words of four bytes -/

def rotateLeft (x : UInt32) (n : UInt32) : UInt32 := (x <<< n) ||| (x >>> (32 - n))

def rotateRight (x : UInt32) (n : UInt32) : UInt32 := (x >>> n) ||| (x <<< (32 - n))

/-- The sines of the numbers from 1 to 64, without their signs, as whole numbers. -/
def sines : Array UInt32 :=
  #[0xd76aa478, 0xe8c7b756, 0x242070db, 0xc1bdceee, 0xf57c0faf, 0x4787c62a, 0xa8304613, 0xfd469501,
    0x698098d8, 0x8b44f7af, 0xffff5bb1, 0x895cd7be, 0x6b901122, 0xfd987193, 0xa679438e, 0x49b40821,
    0xf61e2562, 0xc040b340, 0x265e5a51, 0xe9b6c7aa, 0xd62f105d, 0x02441453, 0xd8a1e681, 0xe7d3fbc8,
    0x21e1cde6, 0xc33707d6, 0xf4d50d87, 0x455a14ed, 0xa9e3e905, 0xfcefa3f8, 0x676f02d9, 0x8d2a4c8a,
    0xfffa3942, 0x8771f681, 0x6d9d6122, 0xfde5380c, 0xa4beea44, 0x4bdecfa9, 0xf6bb4b60, 0xbebfbc70,
    0x289b7ec6, 0xeaa127fa, 0xd4ef3085, 0x04881d05, 0xd9d4d039, 0xe6db99e5, 0x1fa27cf8, 0xc4ac5665,
    0xf4292244, 0x432aff97, 0xab9423a7, 0xfc93a039, 0x655b59c3, 0x8f0ccc92, 0xffeff47d, 0x85845dd1,
    0x6fa87e4f, 0xfe2ce6e0, 0xa3014314, 0x4e0811a1, 0xf7537e82, 0xbd3af235, 0x2ad7d2bb, 0xeb86d391]

/-- Four or five words. -/
structure Five where
  a : UInt32
  b : UInt32
  c : UInt32
  d : UInt32
  e : UInt32

namespace Five

def add (x y : Five) : Five := ⟨x.a + y.a, x.b + y.b, x.c + y.c, x.d + y.d, x.e + y.e⟩

def start : Five := ⟨0x67452301, 0xefcdab89, 0x98badcfe, 0x10325476, 0xc3d2e1f0⟩

end Five

def md5Step (words : Array UInt32) (s : Five) (i : Nat) : Five :=
  let (f, g, turns) : UInt32 × Nat × Array UInt32 :=
    if i < 16 then ((s.b &&& s.c) ||| (~~~s.b &&& s.d), i, #[7, 12, 17, 22])
    else if i < 32 then ((s.d &&& s.b) ||| (~~~s.d &&& s.c), (5 * i + 1) % 16, #[5, 9, 14, 20])
    else if i < 48 then (s.b ^^^ s.c ^^^ s.d, (3 * i + 5) % 16, #[4, 11, 16, 23])
    else (s.c ^^^ (s.b ||| ~~~s.d), 7 * i % 16, #[6, 10, 15, 21])
  let sum := s.a + f + sines.getD i 0 + words.getD g 0
  ⟨s.d, s.b + rotateLeft sum (turns.getD (i % 4) 0), s.b, s.c, s.e⟩

def md5 (bytes : ByteArray) : List UInt8 :=
  let text := padded 64 (littleEndian 8 (8 * bytes.size)) bytes
  let stir (s : Five) (place : Nat) : Five :=
    let words := (Array.range 16).map fun i => UInt32.ofNat (reverseWordAt text (place + 4 * i) 4)
    s.add ((List.range 64).foldl (md5Step words) s)
  let s := overBlocks 64 stir text .start
  [s.a, s.b, s.c, s.d].flatMap fun x => littleEndian 4 x.toNat

def sha1Step (words : Array UInt32) (s : Five) (i : Nat) : Five :=
  let (f, k) : UInt32 × UInt32 :=
    if i < 20 then ((s.b &&& s.c) ||| (~~~s.b &&& s.d), 0x5a827999)
    else if i < 40 then (s.b ^^^ s.c ^^^ s.d, 0x6ed9eba1)
    else if i < 60 then ((s.b &&& s.c) ||| (s.b &&& s.d) ||| (s.c &&& s.d), 0x8f1bbcdc)
    else (s.b ^^^ s.c ^^^ s.d, 0xca62c1d6)
  ⟨rotateLeft s.a 5 + f + s.e + k + words.getD i 0, s.a, rotateLeft s.b 30, s.c, s.d⟩

def sha1 (bytes : ByteArray) : List UInt8 :=
  let text := padded 64 (bigEndian 8 (8 * bytes.size)) bytes
  let stir (s : Five) (place : Nat) : Five :=
    let first := (Array.range 16).map fun i => UInt32.ofNat (wordAt text (place + 4 * i) 4)
    let words := (List.range 64).foldl (fun (ws : Array UInt32) i =>
      let w (back : Nat) : UInt32 := ws.getD (i + 16 - back) 0
      ws.push (rotateLeft (w 3 ^^^ w 8 ^^^ w 14 ^^^ w 16) 1)) first
    let t := (List.range 80).foldl (sha1Step words) s
    ⟨s.a + t.a, s.b + t.b, s.c + t.c, s.d + t.d, s.e + t.e⟩
  let s := overBlocks 64 stir text .start
  [s.a, s.b, s.c, s.d, s.e].flatMap fun x => bigEndian 4 x.toNat

/-- The constants of the steps for words of four bytes. -/
def cubes32 : Array UInt32 := ((primes 64).map fun p => UInt32.ofNat (rootBits 3 32 p)).toArray

/-- One step: the last eight words of the state, the first of them first. -/
def sha256Step (words : Array UInt32) (s : Array UInt32) (i : Nat) : Array UInt32 :=
  let at_ (j : Nat) : UInt32 := s.getD j 0
  let (a, e) := (at_ 0, at_ 4)
  let s1 := rotateRight e 6 ^^^ rotateRight e 11 ^^^ rotateRight e 25
  let choice := (e &&& at_ 5) ^^^ (~~~e &&& at_ 6)
  let t1 := at_ 7 + s1 + choice + cubes32.getD i 0 + words.getD i 0
  let s0 := rotateRight a 2 ^^^ rotateRight a 13 ^^^ rotateRight a 22
  let most := (a &&& at_ 1) ^^^ (a &&& at_ 2) ^^^ (at_ 1 &&& at_ 2)
  #[t1 + s0 + most, a, at_ 1, at_ 2, at_ 3 + t1, e, at_ 5, at_ 6]

def sha256With (start : List Nat) (size : Nat) (bytes : ByteArray) : List UInt8 :=
  let text := padded 64 (bigEndian 8 (8 * bytes.size)) bytes
  let stir (s : Array UInt32) (place : Nat) : Array UInt32 :=
    let first := (Array.range 16).map fun i => UInt32.ofNat (wordAt text (place + 4 * i) 4)
    let words := (List.range 48).foldl (fun (ws : Array UInt32) i =>
      let w (back : Nat) : UInt32 := ws.getD (i + 16 - back) 0
      let s0 := rotateRight (w 15) 7 ^^^ rotateRight (w 15) 18 ^^^ (w 15 >>> 3)
      let s1 := rotateRight (w 2) 17 ^^^ rotateRight (w 2) 19 ^^^ (w 2 >>> 10)
      ws.push (w 16 + s0 + w 7 + s1)) first
    Array.zipWith (· + ·) s ((List.range 64).foldl (sha256Step words) s)
  let s := overBlocks 64 stir text (start.map UInt32.ofNat).toArray
  (s.toList.flatMap fun x => bigEndian 4 x.toNat).take size

def sha256 : ByteArray → List UInt8 := sha256With ((primes 8).map (rootBits 2 32)) 32

def sha224 : ByteArray → List UInt8 :=
  sha256With (((primes 16).drop 8).map fun p => rootBits 2 64 p % Nat.pow 2 32) 28

/-! ## Words of eight bytes -/

def turn (x : UInt64) (n : UInt64) : UInt64 := (x >>> n) ||| (x <<< (64 - n))

/-- The constants of the steps for words of eight bytes. -/
def cubes64 : Array UInt64 := ((primes 80).map fun p => UInt64.ofNat (rootBits 3 64 p)).toArray

def sha512Step (words : Array UInt64) (s : Array UInt64) (i : Nat) : Array UInt64 :=
  let at_ (j : Nat) : UInt64 := s.getD j 0
  let (a, e) := (at_ 0, at_ 4)
  let s1 := turn e 14 ^^^ turn e 18 ^^^ turn e 41
  let choice := (e &&& at_ 5) ^^^ (~~~e &&& at_ 6)
  let t1 := at_ 7 + s1 + choice + cubes64.getD i 0 + words.getD i 0
  let s0 := turn a 28 ^^^ turn a 34 ^^^ turn a 39
  let most := (a &&& at_ 1) ^^^ (a &&& at_ 2) ^^^ (at_ 1 &&& at_ 2)
  #[t1 + s0 + most, a, at_ 1, at_ 2, at_ 3 + t1, e, at_ 5, at_ 6]

def sha512With (start : List Nat) (size : Nat) (bytes : ByteArray) : List UInt8 :=
  let text := padded 128 (bigEndian 16 (8 * bytes.size)) bytes
  let stir (s : Array UInt64) (place : Nat) : Array UInt64 :=
    let first := (Array.range 16).map fun i => UInt64.ofNat (wordAt text (place + 8 * i) 8)
    let words := (List.range 64).foldl (fun (ws : Array UInt64) i =>
      let w (back : Nat) : UInt64 := ws.getD (i + 16 - back) 0
      let s0 := turn (w 15) 1 ^^^ turn (w 15) 8 ^^^ (w 15 >>> 7)
      let s1 := turn (w 2) 19 ^^^ turn (w 2) 61 ^^^ (w 2 >>> 6)
      ws.push (w 16 + s0 + w 7 + s1)) first
    Array.zipWith (· + ·) s ((List.range 80).foldl (sha512Step words) s)
  let s := overBlocks 128 stir text (start.map UInt64.ofNat).toArray
  (s.toList.flatMap fun x => bigEndian 8 x.toNat).take size

def squares64 (count : Nat) : List Nat := (primes count).map (rootBits 2 64)

def sha512 : ByteArray → List UInt8 := sha512With (squares64 8) 64

def sha384 : ByteArray → List UInt8 := sha512With ((squares64 16).drop 8) 48

/-- The order in which a round takes the words of a block. -/
def orders : Array (Array Nat) :=
  #[#[0, 1, 2, 3, 4, 5, 6, 7, 8, 9, 10, 11, 12, 13, 14, 15],
    #[14, 10, 4, 8, 9, 15, 13, 6, 1, 12, 0, 2, 11, 7, 5, 3],
    #[11, 8, 12, 0, 5, 2, 15, 13, 10, 14, 3, 6, 7, 1, 9, 4],
    #[7, 9, 3, 1, 13, 12, 11, 14, 2, 6, 5, 10, 4, 0, 15, 8],
    #[9, 0, 5, 7, 2, 4, 10, 15, 14, 1, 11, 12, 6, 8, 3, 13],
    #[2, 12, 6, 10, 0, 11, 8, 3, 4, 13, 7, 5, 15, 14, 1, 9],
    #[12, 5, 1, 15, 14, 13, 4, 10, 0, 7, 6, 3, 9, 2, 8, 11],
    #[13, 11, 7, 14, 12, 1, 3, 9, 5, 0, 15, 4, 8, 6, 2, 10],
    #[6, 15, 14, 9, 11, 3, 0, 8, 12, 2, 13, 7, 1, 4, 10, 5],
    #[10, 2, 8, 4, 7, 6, 1, 5, 15, 11, 9, 14, 3, 12, 13, 0]]

/-- The places of the four words that one mixing step changes. -/
def quarters : List (Nat × Nat × Nat × Nat) :=
  [(0, 4, 8, 12), (1, 5, 9, 13), (2, 6, 10, 14), (3, 7, 11, 15), (0, 5, 10, 15), (1, 6, 11, 12),
    (2, 7, 8, 13), (3, 4, 9, 14)]

def mix (v : Array UInt64) (place : Nat × Nat × Nat × Nat) (x y : UInt64) : Array UInt64 :=
  let (i, j, k, l) := place
  let (a, b, c, d) := (v.getD i 0, v.getD j 0, v.getD k 0, v.getD l 0)
  let a := a + b + x
  let d := turn (d ^^^ a) 32
  let c := c + d
  let b := turn (b ^^^ c) 24
  let a := a + b + y
  let d := turn (d ^^^ a) 16
  let c := c + d
  let b := turn (b ^^^ c) 63
  (((v.setIfInBounds i a).setIfInBounds j b).setIfInBounds k c).setIfInBounds l d

/-- A digest of so many bytes, at most 64. -/
def blake2b (size : Nat) (bytes : ByteArray) : List UInt8 :=
  let blocks := max 1 ((bytes.size + 127) / 128)
  let text := bytes ++ (List.replicate (128 * blocks - bytes.size) (0 : UInt8)).toByteArray
  let start := (squares64 8).map UInt64.ofNat
  let first := start.toArray.modify 0 fun x => x ^^^ UInt64.ofNat (0x01010000 + size)
  let stir (h : Array UInt64) (place : Nat) : Array UInt64 :=
    let count := min bytes.size (place + 128)
    let last := place + 128 = text.size
    let words := (Array.range 16).map fun i => UInt64.ofNat (reverseWordAt text (place + 8 * i) 8)
    let v := h ++ start.toArray
    let v := v.modify 12 (· ^^^ UInt64.ofNat (count % Nat.pow 2 64))
    let v := if last then v.modify 14 (~~~ ·) else v
    let v := (List.range 12).foldl (fun v r =>
      let order := orders.getD (r % 10) #[]
      quarters.zipIdx.foldl (fun v (place, i) =>
        mix v place (words.getD (order.getD (2 * i) 0) 0) (words.getD (order.getD (2 * i + 1) 0) 0))
        v) v
    (Array.range 8).map fun i => h.getD i 0 ^^^ v.getD i 0 ^^^ v.getD (i + 8) 0
  let h := overBlocks 128 stir text first
  (h.toList.flatMap fun x => littleEndian 8 x.toNat).take size

/-! ## Sums -/

def crcStep (crc : UInt32) : UInt32 :=
  if crc &&& 0x80000000 = 0 then crc <<< 1 else (crc <<< 1) ^^^ 0x04c11db7

def crcByte (crc : UInt32) (b : UInt8) : UInt32 :=
  (List.range 8).foldl (fun c _ => crcStep c) (crc ^^^ (b.toUInt32 <<< 24))

/-- The bytes of a length, the least first, without zeros at the end. -/
def lengthBytes : Nat → Nat → List UInt8
  | 0, _ => []
  | fuel + 1, n => if n = 0 then [] else UInt8.ofNat n :: lengthBytes fuel (n / 256)

def crc (bytes : ByteArray) : Nat :=
  (~~~ ((lengthBytes 9 bytes.size).foldl crcByte (bytes.foldl crcByte 0))).toNat

/-- A sum of 16 bits that is turned by one bit before each byte. -/
def turningSum (bytes : ByteArray) : Nat :=
  bytes.foldl (fun sum b => (sum / 2 + sum % 2 * 32768 + b.toNat) % 65536) 0

def plainSum (bytes : ByteArray) : Nat :=
  let sum := bytes.foldl (fun n b => (n + b.toNat) % Nat.pow 2 32) 0
  let folded := sum % 65536 + sum / 65536
  folded % 65536 + folded / 65536

end CommandShell.Digest
