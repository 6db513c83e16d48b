import PulseAnalyzer.Number.Digits

set_option autoImplicit false

namespace PulseAnalyzer

abbrev TextReader (α : Type) := List Char → Option (α × List Char)

namespace Quoted

def isPlain (c : Char) : Bool := c = '\t' || (0x20 ≤ c.toNat && c.toNat ≠ 0x7F)

def codePoint? (digits : Nat) : TextReader Char := fun cs =>
  let word := cs.take digits
  if word.length < digits then none
  else match digitsValue? 16 0 word with
    | none => none
    | some n => if n.isValidChar then some (Char.ofNat n, cs.drop digits) else none

def escape? : TextReader Char
  | 'b' :: rest => some ('\x08', rest)
  | 't' :: rest => some ('\t', rest)
  | 'n' :: rest => some ('\n', rest)
  | 'f' :: rest => some ('\x0c', rest)
  | 'r' :: rest => some ('\r', rest)
  | '"' :: rest => some ('"', rest)
  | '\\' :: rest => some ('\\', rest)
  | 'u' :: rest => codePoint? 4 rest
  | 'U' :: rest => codePoint? 8 rest
  | _ => none

-- The text up to the closing quote, on top of the characters `acc`, latest first.
def read? : Nat → List Char → TextReader String
  | 0, _, _ => none
  | _, _, [] => none
  | _, acc, '"' :: rest => some (String.ofList acc.reverse, rest)
  | fuel + 1, acc, '\\' :: rest => match escape? rest with
    | some (c, rest) => read? fuel (c :: acc) rest
    | none => none
  | fuel + 1, acc, c :: rest => if isPlain c then read? fuel (c :: acc) rest else none

def text? : TextReader String := fun cs => read? (cs.length + 1) [] cs

end Quoted
end PulseAnalyzer
