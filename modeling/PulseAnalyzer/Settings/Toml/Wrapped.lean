import PulseAnalyzer.Settings.Setting

set_option autoImplicit false

namespace PulseAnalyzer.Toml

def wrappedKey : String := "___figment_value_value"

def refusedKey : String := "___figment_value_id"

mutual

def unwrap? : Setting → Option Setting
  | .list items => (unwrapItems? items).map .list
  | .group entries =>
    if (Entries.get? refusedKey entries).isSome then none
    else (unwrapEntries? entries).map fun inner =>
      (Entries.get? wrappedKey inner).getD (.group inner)
  | other => some other

def unwrapItems? : List Setting → Option (List Setting)
  | [] => some []
  | item :: rest => do return (← unwrap? item) :: (← unwrapItems? rest)

def unwrapEntries? : List (String × Setting) → Option (Entries Setting)
  | [] => some []
  | (key, value) :: rest => do return (key, ← unwrap? value) :: (← unwrapEntries? rest)

end

end PulseAnalyzer.Toml
