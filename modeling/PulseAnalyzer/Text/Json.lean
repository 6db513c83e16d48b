import PulseAnalyzer.Entries
import PulseAnalyzer.Number.Decimal

set_option autoImplicit false

namespace PulseAnalyzer

inductive Json where
  | null
  | bool (value : Bool)
  | integer (value : Int)
  | real (value : Float)
  | text (value : String)
  | array (items : List Json)
  | object (fields : List (String × Json))

namespace Json

def escapeChar (c : Char) : List Char :=
  match c with
  | '"' => ['\\', '"']
  | '\\' => ['\\', '\\']
  | '\n' => ['\\', 'n']
  | '\r' => ['\\', 'r']
  | '\t' => ['\\', 't']
  | '\x08' => ['\\', 'b']
  | '\x0c' => ['\\', 'f']
  | _ =>
    if c.toNat < 0x20 then
      ['\\', 'u', '0', '0', Nat.digitChar (c.toNat / 16), Nat.digitChar (c.toNat % 16)]
    else [c]

def quoted (s : String) : String :=
  "\"" ++ String.ofList (s.toList.flatMap escapeChar) ++ "\""

mutual

def render (real : Float → String) : Json → String
  | .null => "null"
  | .bool true => "true"
  | .bool false => "false"
  | .integer n => toString n
  | .real x => real x
  | .text s => quoted s
  | .array items => "[" ++ ",".intercalate (renderItems real items) ++ "]"
  | .object fields => "\x7b" ++ ",".intercalate (renderFields real fields) ++ "\x7d"

def renderItems (real : Float → String) : List Json → List String
  | [] => []
  | item :: rest => render real item :: renderItems real rest

def renderFields (real : Float → String) : List (String × Json) → List String
  | [] => []
  | (name, value) :: rest =>
    (quoted name ++ ":" ++ render real value) :: renderFields real rest

end

-- Objects with their fields in the order of their names.
mutual

def sorted : Json → Json
  | .array items => .array (sortedItems items)
  | .object fields => .object (sortedFields fields)
  | other => other

def sortedItems : List Json → List Json
  | [] => []
  | item :: rest => item.sorted :: sortedItems rest

def sortedFields : List (String × Json) → List (String × Json)
  | [] => []
  | (name, value) :: rest => Entries.put name value.sorted (sortedFields rest)

end

-- Real numbers as records write them; NaN and the infinities become null.
def realText (x : Float) : String := (recordText? x).getD "null"

end Json
end PulseAnalyzer
