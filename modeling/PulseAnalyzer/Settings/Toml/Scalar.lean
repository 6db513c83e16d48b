import PulseAnalyzer.Number.Reading
import PulseAnalyzer.Settings.Quoted
import PulseAnalyzer.Settings.Setting
import PulseAnalyzer.Settings.Toml.Moment

set_option autoImplicit false

namespace PulseAnalyzer.Toml
open Quoted

def isSpace (c : Char) : Bool := c = ' ' || c = '\t'

def skipSpace (cs : List Char) : List Char := cs.dropWhile isSpace

def lineEnd? : List Char → Option (List Char)
  | '\n' :: rest => some rest
  | '\r' :: '\n' :: rest => some rest
  | _ => none

def skipLines : List Char → List Char
  | ' ' :: rest => skipLines rest
  | '\t' :: rest => skipLines rest
  | '\n' :: rest => skipLines rest
  | '\r' :: '\n' :: rest => skipLines rest
  | cs => cs

def literal? : TextReader String := fun cs =>
  let body := cs.takeWhile (· ≠ '\'')
  match cs.dropWhile (· ≠ '\'') with
  | [] => none
  | _ :: rest => if body.all isPlain then some (String.ofList body, rest) else none

-- The number of quotes at the front that belong to the text, and whether three more close it.
def quotesAt (quote : Char) (cs : List Char) : Nat × Bool :=
  let run := (cs.takeWhile (· = quote)).length
  if run < 3 then (run, false) else (min (run - 3) 2, true)

-- A text over several lines, up to three closing quotes. Where escapes are read, a backslash at
-- the end of a line joins it with the next one that is not blank.
def long? (quote : Char) (escapes : Bool) : Nat → List Char → TextReader String
  | 0, _, _ => none
  | _, _, [] => none
  | fuel + 1, acc, c :: rest =>
    if c = quote then
      let quotes := quotesAt quote (c :: rest)
      let acc := List.replicate quotes.1 quote ++ acc
      if quotes.2 then some (String.ofList acc.reverse, (c :: rest).drop (quotes.1 + 3))
      else long? quote escapes fuel acc ((c :: rest).drop quotes.1)
    else if c = '\\' ∧ escapes then
      match lineEnd? (skipSpace rest) with
      | some rest => long? quote escapes fuel acc (skipLines rest)
      | none => match escape? rest with
        | some (c, rest) => long? quote escapes fuel (c :: acc) rest
        | none => none
    else match lineEnd? (c :: rest) with
      | some rest => long? quote escapes fuel ('\n' :: acc) rest
      | none => if isPlain c then long? quote escapes fuel (c :: acc) rest else none

def block? (quote : Char) (escapes : Bool) : TextReader String := fun cs =>
  long? quote escapes (cs.length + 1) [] ((lineEnd? cs).getD cs)

def digitRun? (base : Nat) : List Char → Option (List Char)
  | [] => none
  | [c] => (digitValue? base c).map fun _ => [c]
  | c :: '_' :: rest =>
    if (digitValue? base c).isSome then (digitRun? base rest).map (c :: ·) else none
  | c :: rest => if (digitValue? base c).isSome then (digitRun? base rest).map (c :: ·) else none

def plainRun? (cs : List Char) : Option (List Char) :=
  (digitRun? 10 cs).filter fun digits => digits.head? ≠ some '0' || digits.length = 1

def based? (base : Nat) (cs : List Char) : Option Int :=
  ((digitRun? base cs).bind (digitsValue? base 0)).map Int.ofNat

def whole? (word : List Char) : Option Int :=
  let n := match word with
    | '0' :: 'x' :: cs => based? 16 cs
    | '0' :: 'o' :: cs => based? 8 cs
    | '0' :: 'b' :: cs => based? 2 cs
    | cs =>
      let signed := splitSign cs
      (plainRun? signed.2).map fun digits =>
        if signed.1 then -(digitsNat digits : Int) else digitsNat digits
  n.filter fun n => -(Int.pow 2 63) ≤ n ∧ n < Int.pow 2 63

def isRunChar (c : Char) : Bool := isDigit c || c = '_'

def fractionPart? : TextReader (List Char)
  | '.' :: cs => (digitRun? 10 (cs.takeWhile isRunChar)).map (·, cs.dropWhile isRunChar)
  | cs => some ([], cs)

def powerPart? : List Char → Option Int
  | [] => some 0
  | mark :: cs =>
    let signed := splitSign cs
    if mark = 'e' ∨ mark = 'E' then
      (digitRun? 10 signed.2).map fun digits =>
        if signed.1 then -(digitsNat digits : Int) else digitsNat digits
    else none

-- A number with a fraction or a power of ten. None may be too large for a double, but those below
-- zero may.
def real? (word : List Char) : Option Float := do
  let signed := splitSign word
  match signed.2 with
  | ['i', 'n', 'f'] => return Decimal.signed signed.1 (1.0 / 0.0)
  | ['n', 'a', 'n'] => return 0.0 / 0.0
  | cs =>
    let whole ← plainRun? (cs.takeWhile isRunChar)
    let (fraction, rest) ← fractionPart? (cs.dropWhile isRunChar)
    if fraction.isEmpty && rest.isEmpty then none
    let power ← powerPart? rest
    let d : Decimal := ⟨digitsNat (whole ++ fraction), power - fraction.length⟩
    let x := d.toFloat signed.1
    if x == 1.0 / 0.0 then none else return x

def isWordChar (c : Char) : Bool :=
  c.isAlphanum || c = '+' || c = '-' || c = '.' || c = ':' || c = '_'

-- The word at the front. A date and a time may have a space between them.
def splitWord (cs : List Char) : List Char × List Char :=
  let word := cs.takeWhile isWordChar
  let rest := cs.dropWhile isWordChar
  match date? word, rest with
  | some [], ' ' :: a :: b :: ':' :: _ =>
    if isDigit a ∧ isDigit b then
      (word ++ ' ' :: (rest.drop 1).takeWhile isWordChar, (rest.drop 1).dropWhile isWordChar)
    else (word, rest)
  | _, _ => (word, rest)

def momentKey : String := "$__toml_private_datetime"

def word? (word : List Char) : Option Setting :=
  if word = ['t', 'r', 'u', 'e'] then some (.bool true)
  else if word = ['f', 'a', 'l', 's', 'e'] then some (.bool false)
  else if isMoment word then some (.group [(momentKey, .text (String.ofList word))])
  else match real? word with
    | some x => some (.real x)
    | none => (whole? word).map .whole

def scalar? : TextReader Setting := fun cs =>
  let asText (found : String × List Char) : Setting × List Char := (.text found.1, found.2)
  match cs with
  | '"' :: '"' :: '"' :: rest => (block? '"' true rest).map asText
  | '"' :: rest => (text? rest).map asText
  | '\'' :: '\'' :: '\'' :: rest => (block? '\'' false rest).map asText
  | '\'' :: rest => (literal? rest).map asText
  | _ => (word? (splitWord cs).1).map (·, (splitWord cs).2)

end PulseAnalyzer.Toml
