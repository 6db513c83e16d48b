import PulseAnalyzer.Number.Reading
import PulseAnalyzer.Settings.Quoted
import PulseAnalyzer.Settings.Setting
import PulseAnalyzer.Text.Ascii

set_option autoImplicit false

namespace PulseAnalyzer.Environment

def isGap (c : Char) : Bool := c = ' ' || c = '\t' || c = '\n' || c = '\x0c' || c = '\r'

def skipGaps (cs : List Char) : List Char := cs.dropWhile isGap

def isSeparator (c : Char) : Bool :=
  c = ',' || c = '\x7b' || c = '\x7d' || c = '[' || c = ']'

def real? (cs : List Char) : Option Float :=
  let signed := splitSign cs
  (unsignedDecimal? signed.2).map (Decimal.toFloat signed.1)

def whole? : List Char → Option Int
  | '-' :: cs =>
    if cs.head? = some '+' then none else (unsigned? 10 (Nat.pow 2 63 + 1) cs).map fun n => -(n : Int)
  | cs => (unsigned? 10 (Nat.pow 2 64) cs).map Int.ofNat

def bare (cs : List Char) : Setting :=
  let number :=
    if cs.contains '.' then (real? cs).map Setting.real else (whole? cs).map Setting.whole
  number.getD (.text (String.ofList cs))

def front : Nat → List Char → List Char
  | _, [] => []
  | room, c :: rest => if c.utf8Size ≤ room then c :: front (room - c.utf8Size) rest else []

-- The text behind an opening quote, and what follows the closing one. What stands before the
-- first escape keeps only as many bytes as it has characters.
def quoted? : TextReader String := fun cs =>
  let run := cs.takeWhile fun c => c ≠ '"' && c ≠ '\\'
  match cs.drop run.length with
  | '\\' :: rest =>
    if run.all Quoted.isPlain then
      Quoted.read? (cs.length + 1) (front run.length run).reverse ('\\' :: rest)
    else none
  | _ => Quoted.text? cs

def items? {α : Type} (close : Char) (item? : TextReader α) : Nat → List α → TextReader (List α)
  | 0, _, _ => none
  | fuel + 1, acc, cs =>
    if cs.head? = some close then some (acc.reverse, cs.drop 1)
    else match item? cs with
      | none => none
      | some (item, rest) => match rest with
        | ',' :: rest => items? close item? fuel (item :: acc) rest
        | c :: rest => if c = close then some ((item :: acc).reverse, rest) else none
        | [] => none

def isKeyChar (c : Char) : Bool := c.isAlphanum || c = '_' || c = '-'

def key? : TextReader String
  | '"' :: rest => quoted? rest
  | cs =>
    let word := cs.takeWhile isKeyChar
    if word.isEmpty then none else some (String.ofList word, cs.dropWhile isKeyChar)

def pair? (value? : TextReader Setting) : TextReader (String × Setting) := fun cs =>
  match key? (skipGaps cs) with
  | none => none
  | some (key, rest) => match skipGaps rest with
    | '=' :: rest => (value? rest).map fun found => ((key, found.1), found.2)
    | _ => none

def groupOf (pairs : List (String × Setting)) : Setting :=
  .group (pairs.foldl (fun entries pair => Entries.put pair.1 pair.2 entries) [])

def value? : Nat → TextReader Setting
  | 0, _ => none
  | levels + 1, cs =>
    let found : Option (Setting × List Char) := match skipGaps cs with
      | 't' :: 'r' :: 'u' :: 'e' :: rest => some (.bool true, rest)
      | 'f' :: 'a' :: 'l' :: 's' :: 'e' :: rest => some (.bool false, rest)
      | '\x7b' :: rest =>
        (items? '\x7d' (pair? (value? levels)) (rest.length + 1) [] rest).map fun found =>
          (groupOf found.1, found.2)
      | '[' :: rest =>
        (items? ']' (value? levels) (rest.length + 1) [] rest).map fun found =>
          (.list found.1, found.2)
      | '"' :: rest => (quoted? rest).map fun found => (.text found.1, found.2)
      | '\'' :: c :: '\'' :: rest => some (.letter c, rest)
      | '\'' :: _ => none
      | cs =>
        let word := cs.takeWhile fun c => !isSeparator c
        some (bare (trimBlanks word), cs.drop word.length)
    found.map fun found => (found.1, skipGaps found.2)

-- The value of a text. One that has no such form stands for itself.
def valueOf (text : String) : Setting :=
  match value? (text.length + 1) text.toList with
  | some (value, []) => value
  | _ => .text text

def nameStart : String := "udxp_"

-- The parts of a name between dots, where two underscores count as a dot.
def parts : List Char → List Char → List (List Char)
  | acc, [] => [acc.reverse]
  | acc, '_' :: '_' :: rest => acc.reverse :: parts [] rest
  | acc, '.' :: rest => acc.reverse :: parts [] rest
  | acc, c :: rest => parts (c :: acc) rest

def path? (name : String) : Option (List String) :=
  let cs := (lowerAscii (String.ofList (trimBlanks name.toList))).toList
  if nameStart.toList.isPrefixOf cs then
    let keys := parts [] (trimBlanks (cs.drop nameStart.length))
    if keys.any List.isEmpty then none else some (keys.map String.ofList)
  else none

-- The settings of all variables that have a path, each laid over those before it.
def settings (assignments : List (String × String)) : Setting :=
  assignments.foldl (fun below v => match path? v.1 with
    | some path => below.overlay ((valueOf v.2).under path)
    | none => below) (.group [])

end PulseAnalyzer.Environment
