import PulseAnalyzer.Entries

set_option autoImplicit false

namespace PulseAnalyzer

inductive Setting where
  | bool (value : Bool)
  | whole (value : Int)
  | real (value : Float)
  | letter (value : Char)
  | text (value : String)
  | list (items : List Setting)
  | group (entries : List (String × Setting))

namespace Setting

-- Two groups are joined; anything else that comes later takes the place of what was there.
mutual

def overlay (base : Setting) : Setting → Setting
  | .group entries => match base with
    | .group below => .group (entriesOver below entries)
    | _ => .group entries
  | other => other

def entriesOver (below : Entries Setting) : List (String × Setting) → Entries Setting
  | [] => below
  | (key, value) :: rest =>
    let merged := match Entries.get? key below with
      | some old => overlay old value
      | none => value
    entriesOver (Entries.put key merged below) rest

end

def under (value : Setting) : List String → Setting
  | [] => value
  | key :: rest => .group [(key, value.under rest)]

end Setting
end PulseAnalyzer
