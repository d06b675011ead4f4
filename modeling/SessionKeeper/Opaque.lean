import SessionKeeper.Sha256
import SessionKeeper.Text.Digits

/-!
Opaque values: what a client holds as its refresh token. An opaque value is 32 random bytes in the
URL-safe base64 alphabet, 43 characters. Only its hash is ever stored or compared.
-/

namespace SessionKeeper

/-- The stored form of an opaque value: a digest, or whatever bytes a caller puts in its place. -/
abbrev Hash := List UInt8

namespace Opaque

/-- The number of random bytes in an opaque value. -/
def byteCount : Nat := 32

/-- The character of a six-bit number in the URL-safe base64 alphabet. -/
def base64Char (n : Nat) : Char :=
  if n < 26 then Char.ofNat ('A'.toNat + n)
  else if n < 52 then Char.ofNat ('a'.toNat + (n - 26))
  else if n < 62 then Char.ofNat ('0'.toNat + (n - 52))
  else if n = 62 then '-'
  else '_'

/-- Bytes in the URL-safe base64 alphabet, without padding. -/
def encode : List UInt8 → List Char
  | a :: b :: c :: rest =>
    let n := a.toNat * 65536 + b.toNat * 256 + c.toNat
    base64Char (n / 262144) :: base64Char (n / 4096 % 64) :: base64Char (n / 64 % 64) ::
      base64Char (n % 64) :: encode rest
  | [a, b] =>
    let n := a.toNat * 65536 + b.toNat * 256
    [base64Char (n / 262144), base64Char (n / 4096 % 64), base64Char (n / 64 % 64)]
  | [a] =>
    let n := a.toNat * 65536
    [base64Char (n / 262144), base64Char (n / 4096 % 64)]
  | [] => []

/-- The six-bit number of a character of the URL-safe base64 alphabet. -/
def base64Value? (c : Char) : Option Nat :=
  if 'A' ≤ c ∧ c ≤ 'Z' then some (c.toNat - 'A'.toNat)
  else if 'a' ≤ c ∧ c ≤ 'z' then some (c.toNat - 'a'.toNat + 26)
  else if '0' ≤ c ∧ c ≤ '9' then some (c.toNat - '0'.toNat + 52)
  else if c = '-' then some 62
  else if c = '_' then some 63
  else none

/-- The bytes that a text in the URL-safe base64 alphabet stands for. The bits that a last group
has beyond its bytes are zero. -/
def decode? : List Char → Option (List UInt8)
  | a :: b :: c :: d :: rest => do
    let n := (← base64Value? a) * 262144 + (← base64Value? b) * 4096 + (← base64Value? c) * 64 +
      (← base64Value? d)
    let bytes ← decode? rest
    some (UInt8.ofNat (n / 65536) :: UInt8.ofNat (n / 256) :: UInt8.ofNat n :: bytes)
  | [a, b, c] => do
    let n := (← base64Value? a) * 262144 + (← base64Value? b) * 4096 + (← base64Value? c) * 64
    if n % 256 = 0 then some [UInt8.ofNat (n / 65536), UInt8.ofNat (n / 256)] else none
  | [a, b] => do
    let n := (← base64Value? a) * 262144 + (← base64Value? b) * 4096
    if n % 65536 = 0 then some [UInt8.ofNat (n / 65536)] else none
  | [_] => none
  | [] => some []

/-- The opaque value made of the given random bytes. -/
def ofBytes (bytes : List UInt8) : String := String.ofList (encode bytes)

/-- The hash under which an opaque value is stored: the SHA-256 digest of its bytes. -/
def hash (value : String) : Hash := Sha256.digest value.toUTF8.toList

/-- A hash has 32 bytes. -/
@[simp] theorem length_hash (value : String) : (hash value).length = 32 := rfl

/-- The first four bytes of a hash in hexadecimal, which logs may show. -/
def fingerprint (hash : Hash) : String := Text.hexOfBytes (hash.take 4)

end Opaque

end SessionKeeper
