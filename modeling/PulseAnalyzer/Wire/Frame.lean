set_option autoImplicit false

namespace PulseAnalyzer

abbrev Bytes := List UInt8

def checksum (bytes : Bytes) : UInt8 := bytes.foldl (· ^^^ ·) 0

def frameMarker : UInt8 := 0x1B

def wordBytes (w : UInt16) : Bytes := [UInt8.ofNat w.toNat, UInt8.ofNat (w.toNat / 256)]

namespace Frame

def encode (body : Bytes) : Bytes := frameMarker :: (body ++ [checksum body])

def decode? : Bytes → Option (UInt8 × Bytes)
  | marker :: opcode :: rest =>
    match rest.getLast? with
    | none => none
    | some last =>
      if marker = frameMarker ∧ checksum (opcode :: rest.dropLast) = last then
        some (opcode, rest.dropLast)
      else none
  | _ => none

end Frame

def hexDigits (b : UInt8) : List Char :=
  [Nat.digitChar (b.toNat / 16), Nat.digitChar (b.toNat % 16)]

def hexText (bytes : Bytes) : String :=
  " ".intercalate (bytes.map fun b => String.ofList (hexDigits b))

end PulseAnalyzer
