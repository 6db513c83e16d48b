import PulseAnalyzer.Proofs.Number.Numerals
import PulseAnalyzer.Proofs.Text.Trimming
import PulseAnalyzer.Wire.Argument

set_option autoImplicit false

namespace PulseAnalyzer

inductive Denotes : List Char → Nat → Prop where
  | decimal (cs : List Char) (n : Nat) (written : Unsigned 10 cs n) : Denotes cs n
  | hexadecimal (mark : Char) (cs : List Char) (n : Nat) (marked : mark = 'x' ∨ mark = 'X')
      (written : Unsigned 16 cs n) : Denotes ('0' :: mark :: cs) n

theorem unsigned_unmarked (mark : Char) (cs : List Char) (n : Nat) (marked : mark = 'x' ∨ mark = 'X') :
    ¬ Unsigned 10 ('0' :: mark :: cs) n := by
  rintro ⟨digits, whole | signed, written⟩
  · subst whole
    obtain ⟨d, shown⟩ := numeral_digits 10 _ n written mark (by simp)
    have found := (digit_value_iff 10 (by decide) mark d).mpr shown
    rcases marked with rfl | rfl
    · cases found
    · cases found
  · cases signed

theorem marked_iff (mark : Char) (cs : List Char) (n : Nat) (marked : mark = 'x' ∨ mark = 'X') :
    Denotes ('0' :: mark :: cs) n ↔ Unsigned 16 cs n := by
  constructor
  · intro denotes
    cases denotes with
    | decimal _ _ written => exact absurd written (unsigned_unmarked mark cs n marked)
    | hexadecimal _ _ _ _ written => exact written
  · exact .hexadecimal mark cs n marked

theorem unmarked_iff (cs : List Char) (n : Nat) (small : ∀ rest, cs ≠ '0' :: 'x' :: rest)
    (capital : ∀ rest, cs ≠ '0' :: 'X' :: rest) : Denotes cs n ↔ Unsigned 10 cs n := by
  constructor
  · intro denotes
    cases denotes with
    | decimal _ _ written => exact written
    | hexadecimal mark rest _ marked =>
        rcases marked with rfl | rfl
        · exact absurd rfl (small rest)
        · exact absurd rfl (capital rest)
  · exact .decimal cs n

theorem parse_number_iff (s : String) (n : Nat) :
    parseNumber s = some n ↔ n < UInt32.size ∧ ∃ core, Trimmed s.toList core ∧ Denotes core n := by
  have only : (∃ core, Trimmed s.toList core ∧ Denotes core n) ↔ Denotes (trimBlanks s.toList) n := by
    simp [trimmed_iff]
  rw [only, parseNumber]
  split
  · rename_i rest trimmed
    rw [trimmed, marked_iff 'x' rest n (.inl rfl)]
    exact unsigned_iff 16 _ (by decide) rest n
  · rename_i rest trimmed
    rw [trimmed, marked_iff 'X' rest n (.inr rfl)]
    exact unsigned_iff 16 _ (by decide) rest n
  · rename_i small capital
    rw [unmarked_iff _ n small capital]
    exact unsigned_iff 10 _ (by decide) _ n

theorem split_colon_cons (c : Char) (rest : List Char) (other : c ≠ ':') :
    splitColon? (c :: rest) = (splitColon? rest).map fun p => (c :: p.1, p.2) := by
  rw [splitColon?]
  exact other

theorem split_colon_none_iff (cs : List Char) : splitColon? cs = none ↔ ':' ∉ cs := by
  induction cs with
  | nil => simp [splitColon?]
  | cons c rest ih =>
      by_cases colon : c = ':'
      · simp [splitColon?, colon]
      · simp [split_colon_cons c rest colon, ih, Ne.symm colon]

theorem split_colon_some_iff (cs name value : List Char) :
    splitColon? cs = some (name, value) ↔ cs = name ++ ':' :: value ∧ ':' ∉ name := by
  induction cs generalizing name with
  | nil => simp [splitColon?]
  | cons c rest ih =>
      cases name with
      | nil =>
          by_cases colon : c = ':'
          · simp [splitColon?, colon]
          · simp [split_colon_cons c rest colon, colon]
      | cons first letters =>
          by_cases colon : c = ':'
          · simp only [splitColon?, colon, Option.some.injEq, Prod.mk.injEq, List.cons_append, List.cons.injEq,
              List.mem_cons, not_or]
            exact ⟨nofun, fun ⟨⟨same, _⟩, differs, _⟩ => absurd same differs⟩
          · simp only [split_colon_cons c rest colon, Option.map_eq_some_iff, Prod.exists, Prod.mk.injEq,
              List.cons_append, List.cons.injEq, List.mem_cons, not_or]
            constructor
            · rintro ⟨before, after, divided, ⟨rfl, rfl⟩, rfl⟩
              obtain ⟨split, free⟩ := (ih before).mp divided
              exact ⟨⟨rfl, split⟩, Ne.symm colon, free⟩
            · rintro ⟨⟨rfl, split⟩, -, free⟩
              exact ⟨letters, value, (ih letters).mpr ⟨split, free⟩, ⟨rfl, rfl⟩, rfl⟩

namespace ArgumentKind

def names : ArgumentKind → List String
  | .byte => ["byte", "b"]
  | .word => ["word", "w"]

def NamedBy (kind : ArgumentKind) (text : List Char) : Prop := ∃ name ∈ kind.names, Spells text name.toList

theorem of_name_iff (name : String) (kind : ArgumentKind) : ofName? name = some kind ↔ name ∈ kind.names := by
  constructor
  · intro found
    unfold ofName? at found
    split at found
    · cases found; simp [names]
    · cases found; simp [names]
    · cases found; simp [names]
    · cases found; simp [names]
    · cases found
  · intro member
    cases kind with
    | byte =>
        rcases List.mem_cons.mp member with rfl | member
        · rfl
        · cases List.mem_singleton.mp member
          rfl
    | word =>
        rcases List.mem_cons.mp member with rfl | member
        · rfl
        · cases List.mem_singleton.mp member
          rfl

theorem of_lower_iff (text : List Char) (kind : ArgumentKind) :
    ofName? (lowerAscii (String.ofList text)) = some kind ↔ kind.NamedBy text := by
  have small : (kind.names.all fun name => name.toList.all Char.isLower) = true := by cases kind <;> rfl
  have letters (name : String) (member : name ∈ kind.names) : ∀ d ∈ name.toList, d.isLower = true :=
    List.all_eq_true.mp (List.all_eq_true.mp small name member)
  have spelled (name : String) (member : name ∈ kind.names) :
      lowerAscii (String.ofList text) = name ↔ Spells text name.toList := by
    rw [← lower_spells_iff text name.toList (letters name member), lowerAscii, String.toList_ofList, ← String.toList_inj,
      String.toList_ofList]
  rw [of_name_iff]
  constructor
  · exact fun member => ⟨_, member, (spelled _ member).mp rfl⟩
  · rintro ⟨name, member, spells⟩
    rw [(spelled name member).mpr spells]
    exact member

end ArgumentKind

-- What a text is taken for as an argument. The first colon divides it, and the kind is looked at before the value.
inductive Parsed (s : String) : Except Fault Argument → Prop where
  | untyped (absent : ':' ∉ s.toList) : Parsed s (.error (.type (.untyped s)))
  | unknownKind (name value : List Char) (split : s.toList = name ++ ':' :: value) (first : ':' ∉ name)
      (unknown : ∀ kind : ArgumentKind, ¬ kind.NamedBy name) :
      Parsed s (.error (.type (.unknownKind (lowerAscii (String.ofList name)))))
  | notANumber (name value : List Char) (split : s.toList = name ++ ':' :: value) (first : ':' ∉ name)
      (kind : ArgumentKind) (named : kind.NamedBy name) (unread : parseNumber (String.ofList value) = none) :
      Parsed s (.error (.range (.notANumber (String.ofList value))))
  | argument (name value : List Char) (split : s.toList = name ++ ':' :: value) (first : ':' ∉ name)
      (kind : ArgumentKind) (named : kind.NamedBy name) (n : Nat) (read : parseNumber (String.ofList value) = some n) :
      Parsed s (.ok ⟨kind, n⟩)

theorem parse_undivided (s : String) (absent : ':' ∉ s.toList) : Argument.parse s = .error (.type (.untyped s)) := by
  rw [Argument.parse, (split_colon_none_iff s.toList).mpr absent]

theorem parse_divided (s : String) (name value : List Char) (split : s.toList = name ++ ':' :: value) (first : ':' ∉ name) :
    Argument.parse s = (ArgumentKind.parse (String.ofList name)).bind fun kind =>
      match parseNumber (String.ofList value) with
      | some n => .ok ⟨kind, n⟩
      | none => .error (.range (.notANumber (String.ofList value))) := by
  rw [Argument.parse, (split_colon_some_iff s.toList name value).mpr ⟨split, first⟩]
  rfl

theorem kind_parse_known (name : List Char) (kind : ArgumentKind) (named : kind.NamedBy name) :
    ArgumentKind.parse (String.ofList name) = .ok kind := by
  rw [ArgumentKind.parse, (ArgumentKind.of_lower_iff name kind).mpr named]

theorem kind_parse_unknown (name : List Char) (unknown : ∀ kind : ArgumentKind, ¬ kind.NamedBy name) :
    ArgumentKind.parse (String.ofList name) = .error (.type (.unknownKind (lowerAscii (String.ofList name)))) := by
  have unnamed : ArgumentKind.ofName? (lowerAscii (String.ofList name)) = none := by
    cases found : ArgumentKind.ofName? (lowerAscii (String.ofList name)) with
    | none => rfl
    | some kind => exact absurd ((ArgumentKind.of_lower_iff name kind).mp found) (unknown kind)
  rw [ArgumentKind.parse, unnamed]

theorem parsed_outcome (s : String) (outcome : Except Fault Argument) (parsed : Parsed s outcome) :
    Argument.parse s = outcome := by
  cases parsed with
  | untyped absent => exact parse_undivided s absent
  | unknownKind name value split first unknown =>
      rw [parse_divided s name value split first, kind_parse_unknown name unknown]
      rfl
  | notANumber name value split first kind named unread =>
      rw [parse_divided s name value split first, kind_parse_known name kind named, unread]
      rfl
  | argument name value split first kind named n read =>
      rw [parse_divided s name value split first, kind_parse_known name kind named, read]
      rfl

theorem some_parsed (s : String) : ∃ outcome, Parsed s outcome := by
  cases divided : splitColon? s.toList with
  | none => exact ⟨_, .untyped ((split_colon_none_iff _).mp divided)⟩
  | some parts =>
      obtain ⟨name, value⟩ := parts
      obtain ⟨split, first⟩ := (split_colon_some_iff _ name value).mp divided
      by_cases known : ∃ kind : ArgumentKind, kind.NamedBy name
      · obtain ⟨kind, named⟩ := known
        cases read : parseNumber (String.ofList value) with
        | none => exact ⟨_, .notANumber name value split first kind named read⟩
        | some n => exact ⟨_, .argument name value split first kind named n read⟩
      · exact ⟨_, .unknownKind name value split first (not_exists.mp known)⟩

theorem argument_parse_iff (s : String) (outcome : Except Fault Argument) :
    Argument.parse s = outcome ↔ Parsed s outcome := by
  constructor
  · intro same
    obtain ⟨found, parsed⟩ := some_parsed s
    rw [← same, parsed_outcome s found parsed]
    exact parsed
  · exact parsed_outcome s outcome

theorem digit_unblank (base : Nat) (bounded : base ≤ 16) (c : Char) (d : Nat) (shown : Digit base c d) :
    isBlank c = false := by
  have table : ∀ d < 16, isBlank (Nat.digitChar d) = false ∧ isBlank (Nat.digitChar d).toUpper = false := by decide
  obtain ⟨small, rfl | rfl⟩ := shown
  · exact (table d (by omega)).1
  · exact (table d (by omega)).2

theorem numeral_unblank (base : Nat) (bounded : base ≤ 16) (cs : List Char) (n : Nat) (written : Numeral base cs n) :
    ∀ c ∈ cs, isBlank c = false := by
  intro c member
  obtain ⟨d, shown⟩ := numeral_digits base cs n written c member
  exact digit_unblank base bounded c d shown

theorem parse_number_unblank (cs : List Char) (n : Nat) (small : n < UInt32.size) (denotes : Denotes cs n)
    (unblank : ∀ c ∈ cs, isBlank c = false) : parseNumber (String.ofList cs) = some n := by
  refine (parse_number_iff _ n).mpr ⟨small, cs, ⟨⟨[], [], ?_, nofun, nofun⟩, ?_, ?_⟩, denotes⟩
  · simp
  · exact fun c first => unblank c (List.mem_of_head? first)
  · exact fun c last => unblank c (List.mem_of_getLast? last)

theorem parse_number_decimal (cs : List Char) (n : Nat) (small : n < UInt32.size) (written : Numeral 10 cs n) :
    parseNumber (String.ofList cs) = some n :=
  parse_number_unblank cs n small (.decimal cs n ⟨cs, .inl rfl, written⟩) (numeral_unblank 10 (by decide) cs n written)

theorem parse_number_hexadecimal (cs : List Char) (n : Nat) (small : n < UInt32.size) (written : Numeral 16 cs n) :
    parseNumber ("0x" ++ String.ofList cs) = some n := by
  have marked : "0x" ++ String.ofList cs = String.ofList ('0' :: 'x' :: cs) := by simp [← String.toList_inj]
  rw [marked]
  refine parse_number_unblank _ n small (.hexadecimal 'x' cs n (.inl rfl) ⟨cs, .inl rfl, written⟩) ?_
  simpa [isBlank] using numeral_unblank 16 (by decide) cs n written

theorem argument_text_grammar (s : String) :
    (∀ n, parseNumber s = some n ↔ n < UInt32.size ∧ ∃ core, Trimmed s.toList core ∧ Denotes core n) ∧
    (∀ outcome, Argument.parse s = outcome ↔ Parsed s outcome) ∧
    ∀ zeros n, n < UInt32.size →
      parseNumber (String.ofList (List.replicate zeros '0' ++ Nat.toDigits 10 n)) = some n ∧
      parseNumber ("0x" ++ String.ofList (List.replicate zeros '0' ++ Nat.toDigits 16 n)) = some n ∧
      parseNumber ("0x" ++ String.ofList ((List.replicate zeros '0' ++ Nat.toDigits 16 n).map Char.toUpper)) = some n := by
  refine ⟨parse_number_iff s, argument_parse_iff s, fun zeros n small => ?_⟩
  have decimal := numeral_leading_zeros 10 (by decide) zeros _ n (numeral_to_digits 10 (by decide) n)
  have hexadecimal := numeral_leading_zeros 16 (by decide) zeros _ n (numeral_to_digits 16 (by decide) n)
  exact ⟨parse_number_decimal _ n small decimal, parse_number_hexadecimal _ n small hexadecimal,
    parse_number_hexadecimal _ n small (numeral_upper 16 (by decide) _ n hexadecimal)⟩

-- The largest number, and blanks that are allowed around a value but not around a kind.
theorem largest_word_parsed :
    parseNumber ("0x" ++ String.ofList ((List.replicate 3 '0' ++ Nat.toDigits 16 4294967295).map Char.toUpper)) =
      some 4294967295 ∧
    Parsed "wORD:\u2003+0042\t" (.ok ⟨.word, 42⟩) ∧
    Parsed "word :0x" (.error (.type (.unknownKind "word "))) ∧
    Parsed "w:0x-1" (.error (.range (.notANumber "0x-1"))) ∧
    ∃ core, Trimmed "\u2003+0042\t".toList core ∧ Denotes core 42 := by
  obtain ⟨-, word, largest⟩ := argument_text_grammar "wORD:\u2003+0042\t"
  obtain ⟨-, spaced, -⟩ := argument_text_grammar "word :0x"
  obtain ⟨-, negative, -⟩ := argument_text_grammar "w:0x-1"
  obtain ⟨number, -, -⟩ := argument_text_grammar "\u2003+0042\t"
  exact ⟨(largest 3 4294967295 (by decide)).2.2, (word _).mp (by rfl), (spaced _).mp (by rfl), (negative _).mp (by rfl),
    ((number 42).mp (by rfl)).2⟩

end PulseAnalyzer
