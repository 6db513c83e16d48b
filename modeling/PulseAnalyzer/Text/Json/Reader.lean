import PulseAnalyzer.Number.Digits
import PulseAnalyzer.Number.Reading
import PulseAnalyzer.Text.Json

set_option autoImplicit false

namespace PulseAnalyzer.Json

def isJsonBlank (c : Char) : Bool := c = ' ' || c = '\n' || c = '\r' || c = '\t'

def skipBlanks (cs : List Char) : List Char := cs.dropWhile isJsonBlank

def isNumberChar (c : Char) : Bool :=
  isDigit c || c = '+' || c = '-' || c = '.' || c = 'e' || c = 'E'

def readNumber (cs : List Char) : Option Json :=
  let signed := splitSign cs
  if cs.all (fun c => isDigit c || c = '-') && !(signed.1 && digitsNat signed.2 = 0) then
    (unsignedDecimal? signed.2).map fun d =>
      .integer (if signed.1 then -(d.coefficient : Int) else d.coefficient)
  else (unsignedDecimal? signed.2).map fun d => .real (d.toFloat signed.1)

def hexUnit? : List Char → Option (Nat × List Char)
  | a :: b :: c :: d :: rest => (digitsValue? 16 0 [a, b, c, d]).map (·, rest)
  | _ => none

-- A character written by its number in one unit, or in two for those beyond the first plane.
def unicode? (cs : List Char) : Option (Char × List Char) :=
  match hexUnit? cs with
  | none => none
  | some (high, rest) =>
    if 0xD800 ≤ high ∧ high < 0xDC00 then
      match rest with
      | '\\' :: 'u' :: rest => (hexUnit? rest).map fun low =>
        (Char.ofNat (0x10000 + (high - 0xD800) * 1024 + (low.1 - 0xDC00)), low.2)
      | _ => none
    else some (Char.ofNat high, rest)

def escaped? : List Char → Option (Char × List Char)
  | 'n' :: rest => some ('\n', rest)
  | 'r' :: rest => some ('\r', rest)
  | 't' :: rest => some ('\t', rest)
  | 'b' :: rest => some ('\x08', rest)
  | 'f' :: rest => some ('\x0c', rest)
  | 'u' :: rest => unicode? rest
  | c :: rest => some (c, rest)
  | [] => none

-- The characters up to the closing quote, latest first, and what follows it.
def readText : Nat → List Char → List Char → Option (List Char × List Char)
  | 0, _, _ => none
  | _, _, [] => none
  | fuel + 1, acc, c :: rest =>
    if c = '"' then some (acc, rest)
    else if c = '\\' then match escaped? rest with
      | some (c, rest) => readText fuel (c :: acc) rest
      | none => none
    else readText fuel (c :: acc) rest

def textOf (found : List Char × List Char) : String := String.ofList found.1.reverse

def dropWord? (w : String) (cs : List Char) : Option (List Char) :=
  if w.toList.isPrefixOf cs then some (cs.drop w.length) else none

-- What follows the comma between two parts; other text is left for the closing bracket.
def afterComma (cs : List Char) : List Char :=
  match skipBlanks cs with
  | ',' :: rest => skipBlanks rest
  | cs => cs

mutual

def readValue : Nat → List Char → Option (Json × List Char)
  | 0, _ => none
  | fuel + 1, cs => match skipBlanks cs with
    | '\x7b' :: rest => readFields fuel [] (skipBlanks rest)
    | '[' :: rest => readItems fuel [] (skipBlanks rest)
    | '"' :: rest => (readText fuel [] rest).map fun found => (.text (textOf found), found.2)
    | 't' :: rest => (dropWord? "rue" rest).map (.bool true, ·)
    | 'f' :: rest => (dropWord? "alse" rest).map (.bool false, ·)
    | 'n' :: rest => (dropWord? "ull" rest).map (.null, ·)
    | cs => (readNumber (cs.takeWhile isNumberChar)).map (·, cs.dropWhile isNumberChar)

def readItems : Nat → List Json → List Char → Option (Json × List Char)
  | 0, _, _ => none
  | _, acc, ']' :: rest => some (.array acc.reverse, rest)
  | fuel + 1, acc, cs => match readValue fuel cs with
    | some (item, rest) => readItems fuel (item :: acc) (afterComma rest)
    | none => none

def readFields : Nat → List (String × Json) → List Char → Option (Json × List Char)
  | 0, _, _ => none
  | _, acc, '\x7d' :: rest => some (.object acc.reverse, rest)
  | fuel + 1, acc, '"' :: cs => match readText fuel [] cs with
    | none => none
    | some found => match skipBlanks found.2 with
      | ':' :: rest => match readValue fuel rest with
        | some (value, rest) =>
          readFields fuel ((textOf found, value) :: acc) (afterComma rest)
        | none => none
      | _ => none
  | _, _, _ => none

end

def parse? (s : String) : Option Json :=
  let cs := s.toList
  match readValue (2 * cs.length + 2) cs with
  | some (value, rest) => if (skipBlanks rest).isEmpty then some value else none
  | none => none

def field? (name : String) : Json → Option Json
  | .object fields => match fields.find? (·.1 == name) with
    | some (_, .null) => none
    | some (_, value) => some value
    | none => none
  | _ => none

def items : Json → List Json
  | .array items => items
  | _ => []

def entries : Json → List (String × Json)
  | .object fields => fields
  | _ => []

end PulseAnalyzer.Json
