import MockCluster.Text.Hex

/-!
SHA-256 checksums of bytes, written as 64 lower-case hexadecimal digits.
-/

namespace MockCluster

namespace Sha256

def roundConstants : Array UInt32 := #[
  0x428a2f98, 0x71374491, 0xb5c0fbcf, 0xe9b5dba5, 0x3956c25b, 0x59f111f1, 0x923f82a4, 0xab1c5ed5,
  0xd807aa98, 0x12835b01, 0x243185be, 0x550c7dc3, 0x72be5d74, 0x80deb1fe, 0x9bdc06a7, 0xc19bf174,
  0xe49b69c1, 0xefbe4786, 0x0fc19dc6, 0x240ca1cc, 0x2de92c6f, 0x4a7484aa, 0x5cb0a9dc, 0x76f988da,
  0x983e5152, 0xa831c66d, 0xb00327c8, 0xbf597fc7, 0xc6e00bf3, 0xd5a79147, 0x06ca6351, 0x14292967,
  0x27b70a85, 0x2e1b2138, 0x4d2c6dfc, 0x53380d13, 0x650a7354, 0x766a0abb, 0x81c2c92e, 0x92722c85,
  0xa2bfe8a1, 0xa81a664b, 0xc24b8b70, 0xc76c51a3, 0xd192e819, 0xd6990624, 0xf40e3585, 0x106aa070,
  0x19a4c116, 0x1e376c08, 0x2748774c, 0x34b0bcb5, 0x391c0cb3, 0x4ed8aa4a, 0x5b9cca4f, 0x682e6ff3,
  0x748f82ee, 0x78a5636f, 0x84c87814, 0x8cc70208, 0x90befffa, 0xa4506ceb, 0xbef9a3f7, 0xc67178f2]

structure State where
  a : UInt32
  b : UInt32
  c : UInt32
  d : UInt32
  e : UInt32
  f : UInt32
  g : UInt32
  h : UInt32
  deriving DecidableEq, Repr

def State.start : State :=
  ⟨0x6a09e667, 0xbb67ae85, 0x3c6ef372, 0xa54ff53a, 0x510e527f, 0x9b05688c, 0x1f83d9ab, 0x5be0cd19⟩

def State.words (s : State) : List UInt32 := [s.a, s.b, s.c, s.d, s.e, s.f, s.g, s.h]

def rotate (x n : UInt32) : UInt32 := (x >>> n) ||| (x <<< (32 - n))

/-- The message, a one bit, zeros up to a whole number of blocks, and the length in bits. -/
def pad (message : ByteArray) : ByteArray :=
  let zeros := (119 - message.size % 64) % 64
  let bits := 8 * message.size
  let lengthBytes := (List.range 8).map fun i => (bits >>> (8 * (7 - i))).toUInt8
  (((0x80 : UInt8) :: List.replicate zeros 0) ++ lengthBytes).foldl ByteArray.push message

def word (bytes : ByteArray) (start : Nat) : UInt32 :=
  (bytes.get! start).toUInt32 <<< 24 ||| (bytes.get! (start + 1)).toUInt32 <<< 16 |||
    (bytes.get! (start + 2)).toUInt32 <<< 8 ||| (bytes.get! (start + 3)).toUInt32

/-- The sixteen words of a block and the forty-eight made from them. -/
def schedule (bytes : ByteArray) (start : Nat) : Array UInt32 :=
  let block := (Array.range 16).map fun i => word bytes (start + 4 * i)
  Nat.fold 48 (fun i _ words =>
    let near := words.getD (i + 1) 0
    let far := words.getD (i + 14) 0
    let s0 := rotate near 7 ^^^ rotate near 18 ^^^ (near >>> 3)
    let s1 := rotate far 17 ^^^ rotate far 19 ^^^ (far >>> 10)
    words.push (words.getD i 0 + s0 + words.getD (i + 9) 0 + s1)) block

def round (s : State) (constant word : UInt32) : State :=
  let s1 := rotate s.e 6 ^^^ rotate s.e 11 ^^^ rotate s.e 25
  let choice := (s.e &&& s.f) ^^^ (~~~s.e &&& s.g)
  let t1 := s.h + s1 + choice + constant + word
  let s0 := rotate s.a 2 ^^^ rotate s.a 13 ^^^ rotate s.a 22
  let majority := (s.a &&& s.b) ^^^ (s.a &&& s.c) ^^^ (s.b &&& s.c)
  ⟨t1 + s0 + majority, s.a, s.b, s.c, s.d + t1, s.e, s.f, s.g⟩

def compress (s : State) (bytes : ByteArray) (start : Nat) : State :=
  let words := schedule bytes start
  let t := Nat.fold 64 (fun i _ t => round t (roundConstants.getD i 0) (words.getD i 0)) s
  ⟨s.a + t.a, s.b + t.b, s.c + t.c, s.d + t.d, s.e + t.e, s.f + t.f, s.g + t.g, s.h + t.h⟩

def digest (message : ByteArray) : State :=
  let bytes := pad message
  Nat.fold (bytes.size / 64) (fun i _ s => compress s bytes (64 * i)) State.start

end Sha256

structure Checksum where
  text : String
  deriving DecidableEq, Repr

namespace Checksum

def hexWord (word : UInt32) : List Char :=
  (List.range 8).map fun i => Text.hexDigit ((word.toNat >>> (4 * (7 - i))) % 16)

def ofBytes (bytes : ByteArray) : Checksum :=
  ⟨String.ofList ((Sha256.digest bytes).words.flatMap hexWord)⟩

def ofText (text : String) : Checksum := ofBytes text.toUTF8

def verify (checksum : Checksum) (bytes : ByteArray) : Bool := ofBytes bytes = checksum

def short (checksum : Checksum) : String := String.ofList (checksum.text.toList.take 12)

end Checksum

end MockCluster
