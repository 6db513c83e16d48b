import PulseAnalyzer.Fault
import PulseAnalyzer.Number.Reading
import PulseAnalyzer.Settings.Setting

set_option autoImplicit false

namespace PulseAnalyzer

def SettingFault.under (key : String) (fault : SettingFault) : SettingFault :=
  { fault with path := key :: fault.path }

namespace Setting

abbrev Read (α : Type) := Setting → Except SettingFault α

def fail {α : Type} (kind : SettingKind) : Except SettingFault α := .error ⟨kind, []⟩

def natural (limit : Nat) : Read Nat
  | .whole n => if 0 ≤ n ∧ n < limit then .ok n.toNat else fail .wrongValue
  | _ => fail .wrongType

def number : Read Float
  | .whole n => .ok (Decimal.realOfInt n)
  | .real x => .ok x
  | _ => fail .wrongType

def string : Read String
  | .text s => .ok s
  | .letter c => .ok (String.singleton c)
  | _ => fail .wrongType

def onlyText : Read String
  | .text s => .ok s
  | _ => fail .wrongType

def readItems {α : Type} (read : Read α) : Nat → List Setting → Except SettingFault (List α)
  | _, [] => .ok []
  | index, item :: rest => do
    let first ← (read item).mapError (.under (Nat.repr index))
    return first :: (← readItems read (index + 1) rest)

def listOf {α : Type} (read : Read α) : Read (List α)
  | .list items => readItems read 0 items
  | _ => fail .wrongType

-- One of several names. A group names its first key, but no name may have a value.
def choice {α : Type} (names : List (String × α)) : Read α
  | .text s => match names.lookup s with
    | some value => .ok value
    | none => fail .unknownVariant
  | .group ((key, _) :: _) =>
    (fail (if (names.lookup key).isSome then .wrongType else .unknownVariant)).mapError (.under key)
  | _ => fail .wrongType

structure Field (α : Type) where
  name : String
  required : Bool
  read : α → Read α

namespace Field

def optional {α β : Type} (name : String) (read : Read β) (set : α → β → α) : Field α :=
  ⟨name, false, fun old setting => (read setting).map (set old)⟩

def needed {α β : Type} (name : String) (read : Read β) (set : α → β → α) : Field α :=
  ⟨name, true, fun old setting => (read setting).map (set old)⟩

end Field

def readEntries {α : Type} (fields : List (Field α)) (start : α) :
    List (String × Setting) → Except SettingFault α
  | [] => .ok start
  | (key, setting) :: rest => match fields.find? (·.name == key) with
    | none => readEntries fields start rest
    | some field => do
      let next ← (field.read start setting).mapError (.under key)
      readEntries fields next rest

def requireFields {α : Type} (fields : List (Field α)) (entries : List (String × Setting)) :
    Except SettingFault Unit :=
  if fields.all fun field => !field.required || (Entries.get? field.name entries).isSome then .ok ()
  else fail .missingField

-- Reads items in the order of the fields; only the last fields may have no item.
def readInOrder {α : Type} : List (Field α) → Nat → α → List Setting → Except SettingFault α
  | [], _, start, _ => .ok start
  | field :: fields, index, start, [] =>
    if field.required then fail .wrongLength else readInOrder fields index start []
  | field :: fields, index, start, item :: rest => do
    let next ← (field.read start item).mapError (.under (Nat.repr index))
    readInOrder fields (index + 1) next rest

def readSection {α : Type} (fields : List (Field α)) (start : α) : Read α
  | .group entries => do
    let result ← readEntries fields start entries
    requireFields fields entries
    return result
  | .list items => readInOrder fields 0 start items
  | _ => fail .wrongType

end Setting
end PulseAnalyzer
