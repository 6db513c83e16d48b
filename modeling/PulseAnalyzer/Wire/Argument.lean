import PulseAnalyzer.Fault
import PulseAnalyzer.Number.Digits
import PulseAnalyzer.Text.Ascii
import PulseAnalyzer.Wire.Frame

set_option autoImplicit false

namespace PulseAnalyzer

def ArgumentKind.parse (name : String) : Except Fault ArgumentKind :=
  match ArgumentKind.ofName? (lowerAscii name) with
  | some kind => .ok kind
  | none => .error (.type (.unknownKind (lowerAscii name)))

structure Argument where
  kind : ArgumentKind
  value : Nat
deriving DecidableEq, Repr

def Argument.bytes (a : Argument) : Bytes :=
  match a.kind with
  | .byte => [UInt8.ofNat a.value]
  | .word => wordBytes (UInt16.ofNat a.value)

-- A 32-bit number in decimal digits, or in hexadecimal ones behind 0x, with blanks around.
def parseNumber (s : String) : Option Nat :=
  match trimBlanks s.toList with
  | '0' :: 'x' :: rest | '0' :: 'X' :: rest => unsigned? 16 (Nat.pow 2 32) rest
  | cs => unsigned? 10 (Nat.pow 2 32) cs

def splitColon? : List Char → Option (List Char × List Char)
  | [] => none
  | ':' :: rest => some ([], rest)
  | c :: rest => (splitColon? rest).map fun p => (c :: p.1, p.2)

def Argument.parse (s : String) : Except Fault Argument :=
  match splitColon? s.toList with
  | none => .error (.type (.untyped s))
  | some (name, value) => do
    let kind ← ArgumentKind.parse (String.ofList name)
    match parseNumber (String.ofList value) with
    | some n => .ok ⟨kind, n⟩
    | none => .error (.range (.notANumber (String.ofList value)))

end PulseAnalyzer
