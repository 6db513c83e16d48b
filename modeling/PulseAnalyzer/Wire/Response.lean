import PulseAnalyzer.Fault
import PulseAnalyzer.Wire.Frame

set_option autoImplicit false

namespace PulseAnalyzer.Response

def overhead : Nat := 5

def size (payload : Nat) : Nat := payload + overhead

def encode (status : UInt8) (payload : Bytes) : Bytes :=
  let covered := status :: UInt8.ofNat payload.length :: 0 :: payload
  frameMarker :: (covered ++ [checksum covered])

-- The payload of a well-formed response. A wrong checksum is reported before a wrong length.
def payload (raw : Bytes) : Except Fault Bytes :=
  match raw with
  | _ :: status :: declared :: reserved :: rest =>
    match rest.getLast? with
    | none => .error (.length declared 0)
    | some expected =>
      let body := rest.dropLast
      let computed := checksum (status :: declared :: reserved :: body)
      if computed ≠ expected then .error (.checksum computed expected)
      else if declared.toNat ≠ body.length then .error (.length declared body.length)
      else .ok body
  | [_, _, declared] => .error (.length declared 0)
  | _ => .error (.length 0 0)

def wordAt (bytes : Bytes) (offset : Nat) : Except Fault UInt16 :=
  match bytes.drop offset with
  | low :: high :: _ => .ok (UInt16.ofNat (low.toNat + 256 * high.toNat))
  | _ => .error (.length (UInt8.ofNat (offset + 2)) bytes.length)

def byteAt (bytes : Bytes) (offset : Nat) : Except Fault UInt8 :=
  match bytes.drop offset with
  | b :: _ => .ok b
  | [] => .error (.length (UInt8.ofNat (offset + 1)) bytes.length)

def bigEndian (bytes : Bytes) : Except Fault Nat :=
  if bytes.length = 0 ∨ 4 < bytes.length then .error (.length 4 bytes.length)
  else .ok (bytes.foldl (fun n b => n * 256 + b.toNat) 0)

end PulseAnalyzer.Response
