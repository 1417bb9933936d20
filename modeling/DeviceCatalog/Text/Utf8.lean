/-!
UTF-8 octets. Writing is exact; reading takes any octets and puts one replacement character in
the place of each maximal ill-formed part: the octets that begin a well-formed sequence, up to
the first one that cannot go on with it, or else a single octet.
-/

namespace DeviceCatalog.Text.Utf8

def replacement : Char := '\uFFFD'

def encodeChar (char : Char) : List UInt8 :=
  let code := char.toNat
  if code < 0x80 then [UInt8.ofNat code]
  else if code < 0x800 then
    [UInt8.ofNat (0xC0 + code / 0x40), UInt8.ofNat (0x80 + code % 0x40)]
  else if code < 0x10000 then
    [UInt8.ofNat (0xE0 + code / 0x1000), UInt8.ofNat (0x80 + code / 0x40 % 0x40),
      UInt8.ofNat (0x80 + code % 0x40)]
  else
    [UInt8.ofNat (0xF0 + code / 0x40000), UInt8.ofNat (0x80 + code / 0x1000 % 0x40),
      UInt8.ofNat (0x80 + code / 0x40 % 0x40), UInt8.ofNat (0x80 + code % 0x40)]

def encode (chars : List Char) : List UInt8 := chars.flatMap encodeChar

/-- A sequence that has begun: the bits read so far, how many octets are still to come and the
bounds of the next one. -/
structure Pending where
  code : Nat
  missing : Nat
  low : Nat
  high : Nat
deriving DecidableEq

inductive Beginning where
  | char (char : Char)
  | pending (pending : Pending)

/-- The bounds of the second octet keep out overlong forms, surrogates and what lies above the
last code point. -/
def beginning (octet : Nat) : Beginning :=
  if octet < 0x80 then .char (Char.ofNat octet)
  else if octet < 0xC2 then .char replacement
  else if octet < 0xE0 then .pending ⟨octet - 0xC0, 1, 0x80, 0xBF⟩
  else if octet = 0xE0 then .pending ⟨0, 2, 0xA0, 0xBF⟩
  else if octet = 0xED then .pending ⟨0xD, 2, 0x80, 0x9F⟩
  else if octet < 0xF0 then .pending ⟨octet - 0xE0, 2, 0x80, 0xBF⟩
  else if octet = 0xF0 then .pending ⟨0, 3, 0x90, 0xBF⟩
  else if octet < 0xF4 then .pending ⟨octet - 0xF0, 3, 0x80, 0xBF⟩
  else if octet = 0xF4 then .pending ⟨4, 3, 0x80, 0x8F⟩
  else .char replacement

/-- An octet within the bounds ends a sequence or brings it one octet further. -/
def Pending.advance (pending : Pending) (octet : Nat) : Beginning :=
  let code := pending.code * 0x40 + (octet - 0x80)
  if pending.missing ≤ 1 then .char (Char.ofNat code)
  else .pending ⟨code, pending.missing - 1, 0x80, 0xBF⟩

def decodeFrom : Option Pending → List UInt8 → List Char
  | none, [] => []
  | some _, [] => [replacement]
  | none, octet :: rest =>
    match beginning octet.toNat with
    | .char char => char :: decodeFrom none rest
    | .pending next => decodeFrom (some next) rest
  | some pending, octet :: rest =>
    if pending.low ≤ octet.toNat && octet.toNat ≤ pending.high then
      match pending.advance octet.toNat with
      | .char char => char :: decodeFrom none rest
      | .pending next => decodeFrom (some next) rest
    else
      match beginning octet.toNat with
      | .char char => replacement :: char :: decodeFrom none rest
      | .pending next => replacement :: decodeFrom (some next) rest

def decode (octets : List UInt8) : List Char := decodeFrom none octets

end DeviceCatalog.Text.Utf8
