set_option autoImplicit false

namespace PulseAnalyzer.Utf8

def replacement : Char := Char.ofNat 0xFFFD

-- A character of which `missing` more bytes are due, the next one between `low` and `high`.
structure Partial where
  missing : Nat
  low : Nat
  high : Nat
  value : Nat

inductive Start where
  | whole (c : Char)
  | first (p : Partial)
  | invalid

-- The second byte's bounds exclude overlong forms, surrogates and values above the last code
-- point.
def start (byte : UInt8) : Start :=
  let b := byte.toNat
  if b < 0x80 then .whole (Char.ofNat b)
  else if b < 0xC2 then .invalid
  else if b < 0xE0 then .first ⟨1, 0x80, 0xBF, b - 0xC0⟩
  else if b < 0xF0 then
    .first ⟨2, if b = 0xE0 then 0xA0 else 0x80, if b = 0xED then 0x9F else 0xBF, b - 0xE0⟩
  else if b < 0xF5 then
    .first ⟨3, if b = 0xF0 then 0x90 else 0x80, if b = 0xF4 then 0x8F else 0xBF, b - 0xF0⟩
  else .invalid

def chars : Option Partial → List UInt8 → List Char
  | none, [] => []
  | some _, [] => [replacement]
  | none, b :: rest => begins b rest
  | some p, b :: rest =>
    if p.low ≤ b.toNat ∧ b.toNat ≤ p.high then
      let value := p.value * 64 + (b.toNat - 0x80)
      if p.missing = 1 then Char.ofNat value :: chars none rest
      else chars (some ⟨p.missing - 1, 0x80, 0xBF, value⟩) rest
    else replacement :: begins b rest
where
  begins (b : UInt8) (rest : List UInt8) : List Char :=
    match start b with
    | .whole c => c :: chars none rest
    | .first p => chars (some p) rest
    | .invalid => replacement :: chars none rest

def decode (bytes : List UInt8) : String := String.ofList (chars none bytes)

end PulseAnalyzer.Utf8
