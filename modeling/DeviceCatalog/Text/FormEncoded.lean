import DeviceCatalog.Text.Utf8

/-!
The values of `application/x-www-form-urlencoded`: letters, digits and four marks stand for
themselves, a plus sign for a space, and every other octet of the UTF-8 form is a percent sign
with two hexadecimal digits.
-/

namespace DeviceCatalog.Text.FormEncoded

def hexDigit (value : Nat) : Char :=
  Char.ofNat (if value < 10 then 0x30 + value else 0x37 + value)

def hexValue? (char : Char) : Option Nat :=
  let code := char.toNat
  if 0x30 ≤ code && code ≤ 0x39 then some (code - 0x30)
  else if 0x41 ≤ code && code ≤ 0x46 then some (code - 0x37)
  else if 0x61 ≤ code && code ≤ 0x66 then some (code - 0x57)
  else none

def isUnreserved (octet : UInt8) : Bool :=
  let code := octet.toNat
  0x30 ≤ code && code ≤ 0x39 || 0x41 ≤ code && code ≤ 0x5A || 0x61 ≤ code && code ≤ 0x7A
    || code == 0x2A || code == 0x2D || code == 0x2E || code == 0x5F

def encodeOctet (octet : UInt8) : List Char :=
  if isUnreserved octet then [Char.ofNat octet.toNat]
  else if octet.toNat = 0x20 then ['+']
  else ['%', hexDigit (octet.toNat / 16), hexDigit (octet.toNat % 16)]

def encode (text : List Char) : List Char := (Utf8.encode text).flatMap encodeOctet

/-- Whether two hexadecimal digits follow every percent sign. -/
def hasValidEscapes : List Char → Bool
  | [] => true
  | '%' :: high :: low :: rest =>
    (hexValue? high).isSome && (hexValue? low).isSome && hasValidEscapes rest
  | char :: rest => char != '%' && hasValidEscapes rest

/-- The octets that a written value stands for. A percent sign without its two digits stands for
itself. -/
def octets : List Char → List UInt8
  | [] => []
  | '%' :: high :: low :: rest =>
    match hexValue? high, hexValue? low with
    | some highValue, some lowValue => UInt8.ofNat (highValue * 16 + lowValue) :: octets rest
    | _, _ => 0x25 :: octets (high :: low :: rest)
  | char :: rest =>
    if char = '+' then 0x20 :: octets rest else Utf8.encodeChar char ++ octets rest

def decode (written : List Char) : List Char := Utf8.decode (octets written)

end DeviceCatalog.Text.FormEncoded
