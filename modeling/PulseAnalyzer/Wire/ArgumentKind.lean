set_option autoImplicit false

namespace PulseAnalyzer

inductive ArgumentKind where
  | byte
  | word
deriving DecidableEq, Repr

namespace ArgumentKind

def maxValue : ArgumentKind → Nat
  | .byte => 255
  | .word => 65535

def label : ArgumentKind → String
  | .byte => "byte"
  | .word => "word"

def ofName? : String → Option ArgumentKind
  | "byte" | "b" => some .byte
  | "word" | "w" => some .word
  | _ => none

end ArgumentKind
end PulseAnalyzer
