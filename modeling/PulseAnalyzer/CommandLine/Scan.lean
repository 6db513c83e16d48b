import PulseAnalyzer.CommandLine.Word

set_option autoImplicit false

namespace PulseAnalyzer.CommandLine

inductive Usage where
  | wrong
  | help
deriving DecidableEq, Repr

abbrev Parsed (α : Type) := Except Usage α

def needed {α : Type} : Option α → Parsed α
  | some value => .ok value
  | none => .error .wrong

inductive Need where
  | nothing
  | help
  | value (kind : WordKind)
deriving DecidableEq, Repr

structure Switch where
  name : String
  letter : Option Char
  need : Need
deriving DecidableEq, Repr

-- What a line may hold up to the next subcommand. Plain words beyond `words` are of kind `more`,
-- if there may be any.
structure Level where
  switches : List Switch
  words : List WordKind
  more : Option WordKind
  subcommands : List String
deriving DecidableEq, Repr

-- What was found: options with their values, plain words, and a subcommand with what follows. The
-- value of the latest option is held back, and judged when the next option or plain word comes.
structure Found where
  given : List (String × String)
  words : List String
  held : Option (Switch × String)
  next : Option (String × List String)
deriving DecidableEq, Repr

def helpName : String := "help"

def splitEquals : List Char → List Char × Option (List Char)
  | [] => ([], none)
  | '=' :: rest => ([], some rest)
  | c :: rest => (c :: (splitEquals rest).1, (splitEquals rest).2)

-- Whether a word can be the value of the option before it. Only channels may have a minus sign.
def isValue (kind : WordKind) (word : String) : Bool :=
  match word.toList with
  | ['-'] => true
  | '-' :: rest => kind = .channel && rest.all isDigit
  | _ => true

def Level.kindAt? (level : Level) (index : Nat) : Option WordKind :=
  level.words[index]?.or level.more

namespace Found

def add (f : Found) (switch : Switch) (value : String) : Parsed Found :=
  let fits := match switch.need with
    | .value kind => kind.accepts value
    | _ => true
  if (f.given.lookup switch.name).isSome ∨ !fits then .error .wrong
  else .ok { f with given := f.given ++ [(switch.name, value)] }

def settle (f : Found) : Parsed Found :=
  match f.held with
  | some (switch, value) => { f with held := none }.add switch value
  | none => .ok f

def note (f : Found) (switch : Switch) (value : String) : Parsed Found := do
  let f ← f.settle
  if switch.need = .help then .error .help
  f.add switch value

def plain (f : Found) (level : Level) (word : String) : Parsed Found := do
  let f ← f.settle
  let kind ← needed (level.kindAt? f.words.length)
  if !kind.accepts word then .error .wrong
  return { f with words := f.words ++ [word] }

def plainAll (f : Found) (level : Level) : List String → Parsed Found
  | [] => f.settle
  | word :: rest => do plainAll (← f.plain level word) level rest

end Found

inductive Step where
  | onward (found : Found)
  | awaiting (found : Found) (switch : Switch) (kind : WordKind)

def long (level : Level) (found : Found) (body : List Char) : Parsed Step :=
  let parts := splitEquals body
  match level.switches.find? (·.name == String.ofList parts.1) with
  | none => .error .wrong
  | some switch => match switch.need, parts.2 with
    | .value _, some value => (found.note switch (String.ofList value)).map .onward
    | .value kind, none => found.settle.map (.awaiting · switch kind)
    | _, none => (found.note switch "").map .onward
    | _, some _ => .error .wrong

-- Letters behind a single dash; the first that needs a value takes the rest of the word.
def letters (level : Level) : List Char → Found → Parsed Step
  | [], found => .ok (.onward found)
  | c :: rest, found => match level.switches.find? (·.letter == some c) with
    | none => .error .wrong
    | some switch => match switch.need, rest with
      | .value kind, [] => found.settle.map (.awaiting · switch kind)
      | .value _, '=' :: value => (found.note switch (String.ofList value)).map .onward
      | .value _, value => (found.note switch (String.ofList value)).map .onward
      | _, _ => do letters level rest (← found.note switch "")

mutual

def scan (level : Level) : List String → Found → Parsed Found
  | [], found => found.settle
  | word :: rest, found => match word.toList with
    | ['-', '-'] => found.plainAll level rest
    | '-' :: '-' :: body => do follow level rest (← long level found body)
    | '-' :: c :: body => do follow level rest (← letters level (c :: body) found)
    | _ =>
      if level.subcommands.isEmpty then do scan level rest (← found.plain level word)
      else if word ∈ level.subcommands ∨ word = helpName then
        .ok { found with next := some (word, rest) }
      else .error .wrong

def follow (level : Level) : List String → Step → Parsed Found
  | rest, .onward found => scan level rest found
  | [], .awaiting _ _ _ => .error .wrong
  | word :: rest, .awaiting found switch kind =>
    if isValue kind word then scan level rest { found with held := some (switch, word) }
    else .error .wrong

end

-- The parts of a line at one level. A value before a subcommand is still held back.
def Level.read (level : Level) (words : List String) : Parsed Found :=
  scan level words ⟨[], [], none, none⟩

end PulseAnalyzer.CommandLine
