import PulseAnalyzer.Number.Reading
import PulseAnalyzer.Run.Plan
import PulseAnalyzer.Wire.Argument

set_option autoImplicit false

namespace PulseAnalyzer.CommandLine

namespace Word

def byte? (word : String) : Option Nat := (integer? 0 255 word.toList).map Int.toNat

def size? (word : String) : Option Nat := unsigned? 10 (Nat.pow 2 64) word.toList

def channel? (word : String) : Option Int := integer? (-(Int.pow 2 31)) (Int.pow 2 31 - 1) word.toList

def opcode? (word : String) : Option UInt8 :=
  ((parseNumber word).filter (· < 256)).map UInt8.ofNat

def preset? (word : String) : Option PresetType := (PresetType.parse word).toOption

def argument? (word : String) : Option Argument := (Argument.parse word).toOption

end Word

inductive WordKind where
  | name
  | path
  | real
  | byte
  | size
  | channel
  | opcode
  | preset
  | argument
deriving DecidableEq, Repr

def WordKind.accepts (word : String) : WordKind → Bool
  | .name => true
  | .path => word ≠ ""
  | .real => (parseReal? word).isSome
  | .byte => (Word.byte? word).isSome
  | .size => (Word.size? word).isSome
  | .channel => (Word.channel? word).isSome
  | .opcode => (Word.opcode? word).isSome
  | .preset => (Word.preset? word).isSome
  | .argument => (Word.argument? word).isSome

end PulseAnalyzer.CommandLine
