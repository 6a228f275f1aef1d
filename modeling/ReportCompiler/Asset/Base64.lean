/-!
Bytes as text in base 64: three bytes become four characters, and the last group is filled up with `=`.
-/

namespace ReportCompiler

namespace Base64

def alphabet : List Char :=
  "ABCDEFGHIJKLMNOPQRSTUVWXYZabcdefghijklmnopqrstuvwxyz0123456789+/".toList

/-- The character for six bits. -/
def digit (n : Nat) : Char := alphabet.getD (n % 64) 'A'

def encodeChars : List UInt8 → List Char
  | [] => []
  | [a] => [digit (a.toNat / 4), digit (a.toNat % 4 * 16), '=', '=']
  | [a, b] =>
      [digit (a.toNat / 4), digit (a.toNat % 4 * 16 + b.toNat / 16), digit (b.toNat % 16 * 4), '=']
  | a :: b :: c :: rest =>
      digit (a.toNat / 4) :: digit (a.toNat % 4 * 16 + b.toNat / 16)
        :: digit (b.toNat % 16 * 4 + c.toNat / 64) :: digit c.toNat :: encodeChars rest

def encode (bytes : List UInt8) : String := String.ofList (encodeChars bytes)

/-- The six bits that a character stands for. -/
def value? (c : Char) : Option Nat := alphabet.findIdx? (· == c)

/-- Reads whole groups of four characters; only the last one may be filled up. -/
def decodeChars? : List Char → Option (List UInt8)
  | [] => some []
  | [a, b, '=', '='] => do
      let x ← value? a
      let y ← value? b
      return [UInt8.ofNat (x * 4 + y / 16)]
  | [a, b, c, '='] => do
      let x ← value? a
      let y ← value? b
      let z ← value? c
      return [UInt8.ofNat (x * 4 + y / 16), UInt8.ofNat (y % 16 * 16 + z / 4)]
  | a :: b :: c :: d :: rest => do
      let x ← value? a
      let y ← value? b
      let z ← value? c
      let w ← value? d
      return UInt8.ofNat (x * 4 + y / 16) :: UInt8.ofNat (y % 16 * 16 + z / 4)
        :: UInt8.ofNat (z % 4 * 64 + w) :: (← decodeChars? rest)
  | _ => none

def decode? (text : String) : Option (List UInt8) := decodeChars? text.toList

end Base64

end ReportCompiler
