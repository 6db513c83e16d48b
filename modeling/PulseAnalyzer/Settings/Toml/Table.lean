import PulseAnalyzer.Settings.Setting

set_option autoImplicit false

namespace PulseAnalyzer.Toml

-- A table stands on the way of another header, or comes from a dotted key, from a header of its
-- own, or from braces.
inductive Origin where
  | implied
  | dotted
  | header
  | braces
deriving DecidableEq, Repr

-- The tables of a series are kept with the latest first.
inductive Node where
  | leaf (value : Setting)
  | table (origin : Origin) (entries : List (String × Node))
  | series (tables : List (List (String × Node)))

mutual

def Node.setting : Node → Setting
  | .leaf value => value
  | .table _ entries => .group (settings entries)
  | .series tables => .list (groups tables).reverse

def settings : List (String × Node) → Entries Setting
  | [] => []
  | (key, node) :: rest => (key, node.setting) :: settings rest

def groups : List (List (String × Node)) → List Setting
  | [] => []
  | entries :: rest => .group (settings entries) :: groups rest

end

-- Changes the table that a header names by way of existing and implied tables.
def alter (change : Entries Node → Option (Entries Node)) :
    List String → Entries Node → Option (Entries Node)
  | [], entries => change entries
  | key :: path, entries => match Entries.get? key entries with
    | none => (alter change path []).map fun inner =>
      Entries.put key (.table .implied inner) entries
    | some (.table origin inner) =>
      if origin = .braces then none
      else (alter change path inner).map fun inner => Entries.put key (.table origin inner) entries
    | some (.series (latest :: earlier)) =>
      (alter change path latest).map fun latest =>
        Entries.put key (.series (latest :: earlier)) entries
    | some _ => none

def openTable (key : String) (entries : Entries Node) : Option (Entries Node) :=
  match Entries.get? key entries with
  | none => some (Entries.put key (.table .header []) entries)
  | some (.table .implied inner) => some (Entries.put key (.table .header inner) entries)
  | some _ => none

def openNext (key : String) (entries : Entries Node) : Option (Entries Node) :=
  match Entries.get? key entries with
  | none => some (Entries.put key (.series [[]]) entries)
  | some (.series tables) => some (Entries.put key (.series ([] :: tables)) entries)
  | some _ => none

-- Adds a value under a dotted key, by way of tables that `passes` admits. Only a table that comes
-- from a dotted key takes it, or the one at hand for a key of a single part (`here`).
def place (passes : Origin → Bool) (key : String) (node : Node) :
    Bool → List String → Entries Node → Option (Entries Node)
  | here, [], entries =>
    if here ∧ (Entries.get? key entries).isNone then some (Entries.put key node entries) else none
  | _, step :: path, entries => match Entries.get? step entries with
    | none => (place passes key node true path []).map fun inner =>
      Entries.put step (.table .dotted inner) entries
    | some (.table origin inner) =>
      if passes origin then
        (place passes key node (origin = .dotted) path inner).map fun inner =>
          Entries.put step (.table origin inner) entries
      else none
    | some (.series (latest :: earlier)) =>
      (place passes key node false path latest).map fun latest =>
        Entries.put step (.series (latest :: earlier)) entries
    | some _ => none

def passesInTable (origin : Origin) : Bool := origin = .implied || origin = .dotted

def passesInBraces (origin : Origin) : Bool := origin = .dotted

end PulseAnalyzer.Toml
