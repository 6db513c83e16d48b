import PulseAnalyzer.Settings.Toml.Scalar
import PulseAnalyzer.Settings.Toml.Table
import PulseAnalyzer.Settings.Toml.Wrapped

set_option autoImplicit false

namespace PulseAnalyzer.Toml
open Quoted

def maxDepth : Nat := 80

def isBareKeyChar (c : Char) : Bool := c.isAlphanum || c = '-' || c = '_'

def keyPart? : TextReader String
  | '"' :: rest => text? rest
  | '\'' :: rest => literal? rest
  | cs =>
    let word := cs.takeWhile isBareKeyChar
    if word.isEmpty then none else some (String.ofList word, cs.dropWhile isBareKeyChar)

-- The parts of a dotted key, latest first on top of `acc`, and what follows the space after it.
def keyParts? : Nat → List String → TextReader (List String)
  | 0, _, _ => none
  | fuel + 1, acc, cs => match keyPart? (skipSpace cs) with
    | none => none
    | some (part, rest) => match skipSpace rest with
      | '.' :: rest => keyParts? fuel (part :: acc) rest
      | rest => some (part :: acc, rest)

structure Key where
  path : List String
  name : String
deriving DecidableEq, Repr

def Key.parts (k : Key) : List String := k.path ++ [k.name]

def key? : TextReader Key := fun cs =>
  match keyParts? (maxDepth - 1) [] cs with
  | some (name :: path, rest) => some (⟨path.reverse, name⟩, rest)
  | _ => none

def skipFiller : Bool → List Char → List Char
  | false, ' ' :: rest => skipFiller false rest
  | false, '\t' :: rest => skipFiller false rest
  | false, '#' :: rest => skipFiller true rest
  | _, '\n' :: rest => skipFiller false rest
  | _, '\r' :: '\n' :: rest => skipFiller false rest
  | true, c :: rest => if isPlain c then skipFiller true rest else c :: rest
  | _, cs => cs

def items? (value? : TextReader Node) : Nat → List Setting → TextReader (List Setting)
  | 0, _, _ => none
  | fuel + 1, acc, cs => match skipFiller false cs with
    | ']' :: rest => some (acc.reverse, rest)
    | cs => match value? cs with
      | none => none
      | some (node, rest) => match skipFiller false rest with
        | ',' :: rest => items? value? fuel (node.setting :: acc) rest
        | ']' :: rest => some ((node.setting :: acc).reverse, rest)
        | _ => none

def pair? (value? : TextReader Node) (cs : List Char) : Option (Key × Node × List Char) := do
  let (key, cs) ← key? cs
  let (node, cs) ← value? (skipSpace (← expect? '=' cs))
  return (key, node, skipSpace cs)

def placeIn (passes : Origin → Bool) (key : Key) (node : Node) (entries : Entries Node) :
    Option (Entries Node) :=
  place passes key.name node true key.path entries

-- The pairs between braces; no comma may stand behind the last one.
def pairs? (value? : TextReader Node) : Nat → Entries Node → TextReader (Entries Node)
  | 0, _, _ => none
  | fuel + 1, entries, cs => match pair? value? cs with
    | none => none
    | some (key, node, rest) => match placeIn passesInBraces key node entries with
      | none => none
      | some entries => match rest with
        | ',' :: rest => pairs? value? fuel entries rest
        | '\x7d' :: rest => some (entries, rest)
        | _ => none

def braces? (value? : TextReader Node) : TextReader (Entries Node) := fun cs =>
  match skipSpace cs with
  | '\x7d' :: rest => some ([], rest)
  | cs => pairs? value? (cs.length + 1) [] cs

def value? : Nat → TextReader Node
  | levels, '[' :: rest => match levels with
    | 0 => none
    | levels + 1 => (items? (value? levels) (rest.length + 1) [] rest).map fun found =>
      (.leaf (.list found.1), found.2)
  | levels, '\x7b' :: rest => match levels with
    | 0 => none
    | levels + 1 => (braces? (value? levels) rest).map fun found =>
      (.table .braces found.1, found.2)
  | _, cs => (scalar? cs).map fun found => (.leaf found.1, found.2)

def endOfLine? (cs : List Char) : Option (List Char) :=
  let cs := match skipSpace cs with
    | '#' :: rest => rest.dropWhile isPlain
    | cs => cs
  if cs.isEmpty then some [] else lineEnd? cs

-- A document up to some line: its tables, and the table that the latest header has opened.
structure Draft where
  root : Entries Node
  here : List String

namespace Draft

def openHeader (d : Draft) (key : Key) (change : String → Entries Node → Option (Entries Node)) :
    Option Draft :=
  (alter (change key.name) key.path d.root).map fun root => ⟨root, key.parts⟩

def addPair (d : Draft) (key : Key) (node : Node) : Option Draft :=
  (alter (placeIn passesInTable key node) d.here d.root).map fun root => { d with root }

def line? (d : Draft) (cs : List Char) : Option (Draft × List Char) :=
  match cs with
  | '[' :: '[' :: cs => do
    let (key, cs) ← key? cs
    let cs ← endOfLine? (← expect? ']' (← expect? ']' cs))
    return (← d.openHeader key openNext, cs)
  | '[' :: cs => do
    let (key, cs) ← key? cs
    let cs ← endOfLine? (← expect? ']' cs)
    return (← d.openHeader key openTable, cs)
  | cs => do
    let (key, node, cs) ← pair? (value? (maxDepth - 1)) cs
    return (← d.addPair key node, ← endOfLine? cs)

def lines? : Nat → Draft → List Char → Option Draft
  | 0, _, _ => none
  | fuel + 1, d, cs => match skipSpace cs with
    | [] => some d
    | cs => match endOfLine? cs with
      | some rest => lines? fuel d rest
      | none => match d.line? cs with
        | some (d, rest) => lines? fuel d rest
        | none => none

end Draft

-- The settings of a document, which may begin with a byte order mark. Reserved keys have no
-- meaning at its top.
def parse? (text : String) : Option Setting := do
  let cs := match text.toList with
    | '\uFEFF' :: cs => cs
    | cs => cs
  let draft ← Draft.lines? (cs.length + 1) ⟨[], []⟩ cs
  return .group (← unwrapEntries? (settings draft.root))

end PulseAnalyzer.Toml
