import PulseAnalyzer.Text.Json.Reader
import PulseAnalyzer.Proofs.Number.DecimalText

set_option autoImplicit false

namespace PulseAnalyzer.Json

inductive Token where
  | number (written : List Char)
  | text (chars : List Char)
  | numbers (written : List (List Char))

def readToken (cs : List Char) : Option (Token × List Char) :=
  match cs with
  | '"' :: rest => (readText (rest.length + 1) [] rest).map fun found => (.text found.1.reverse, found.2)
  | '[' :: rest =>
    let listed := rest.takeWhile (· ≠ ']')
    some (.numbers (if listed.isEmpty then [] else listed.splitOn ','), (rest.dropWhile (· ≠ ']')).drop 1)
  | _ => some (.number (cs.takeWhile isNumberChar), cs.dropWhile isNumberChar)

def readTokens : Nat → List Char → Option (List (List Char × Token))
  | fuel + 1, '"' :: cs => match readText (cs.length + 1) [] cs with
    | some (name, ':' :: rest) => match readToken rest with
      | some (token, ',' :: rest) => (readTokens fuel rest).map ((name.reverse, token) :: ·)
      | some (token, ['\x7d']) => some [(name.reverse, token)]
      | _ => none
    | _ => none
  | _, _ => none

def tokens? : List Char → Option (List (List Char × Token))
  | '\x7b' :: rest => readTokens rest.length rest
  | _ => none

theorem read_escaped (fuel : Nat) (acc : List Char) (c : Char) (rest : List Char) :
    readText (fuel + 1) acc (escapeChar c ++ rest) = readText fuel (c :: acc) rest := by
  have coded : ∀ n < 0x20, digitsValue? 16 0 ['0', '0', Nat.digitChar (n / 16), Nat.digitChar (n % 16)] = some n := by
    decide
  unfold escapeChar
  split
  case h_8 quote slash _ _ _ _ _ =>
    split
    · rename_i control
      have unit : ¬ (0xD800 ≤ c.toNat ∧ c.toNat < 0xDC00) := by omega
      simp [readText, escaped?, unicode?, hexUnit?, coded c.toNat control, unit, Char.ofNat_toNat]
    · rw [List.singleton_append, readText, if_neg quote, if_neg slash]
  all_goals rfl

theorem read_escaped_all (fuel : Nat) (acc cs rest : List Char) (enough : cs.length < fuel) :
    readText fuel acc (cs.flatMap escapeChar ++ '"' :: rest) = some (cs.reverse ++ acc, rest) := by
  induction cs generalizing fuel acc with
  | nil =>
      obtain ⟨fuel, rfl⟩ : ∃ less, fuel = less + 1 := ⟨fuel - 1, by simp at enough; omega⟩
      rfl
  | cons c cs ih =>
      rw [List.length_cons] at enough
      obtain ⟨fuel, rfl⟩ : ∃ less, fuel = less + 1 := ⟨fuel - 1, by omega⟩
      rw [List.flatMap_cons, List.append_assoc, read_escaped, ih fuel (c :: acc) (by omega), List.reverse_cons,
        List.append_assoc]
      rfl

theorem escaped_longer (cs : List Char) : cs.length ≤ (cs.flatMap escapeChar).length := by
  have longer (c : Char) : 1 ≤ (escapeChar c).length := by
    unfold escapeChar
    split <;> try decide
    split <;> simp
  induction cs with
  | nil => exact Nat.le_refl 0
  | cons c cs ih =>
      have one := longer c
      rw [List.flatMap_cons, List.length_append, List.length_cons]
      omega

theorem quoted_chars (s : String) : (quoted s).toList = '"' :: (s.toList.flatMap escapeChar ++ ['"']) := by
  simp [quoted]

theorem read_quoted (s : String) (rest : List Char) :
    readText ((s.toList.flatMap escapeChar ++ '"' :: rest).length + 1) [] (s.toList.flatMap escapeChar ++ '"' :: rest) =
      some (s.toList.reverse, rest) := by
  have longer := escaped_longer s.toList
  rw [read_escaped_all, List.append_nil]
  rw [List.length_append]
  omega

def Follows (rest : List Char) : Prop := ∃ c more, rest = c :: more ∧ (c = ',' ∨ c = '\x7d')

theorem follows_unnumbered (rest : List Char) (follows : Follows rest) :
    rest.takeWhile isNumberChar = [] ∧ rest.dropWhile isNumberChar = rest := by
  obtain ⟨c, more, rfl, rfl | rfl⟩ := follows <;> exact ⟨rfl, rfl⟩

theorem read_number (written rest : List Char) (number : ∀ c ∈ written, isNumberChar c = true) (follows : Follows rest) :
    readToken (written ++ rest) = some (.number written, rest) := by
  obtain ⟨stops, stays⟩ := follows_unnumbered rest follows
  have spanned : some (Token.number ((written ++ rest).takeWhile isNumberChar), (written ++ rest).dropWhile isNumberChar) =
      some (.number written, rest) := by
    rw [List.takeWhile_append_of_pos number, List.dropWhile_append_of_pos number, stops, stays, List.append_nil]
  rw [← spanned]
  unfold readToken
  split
  · rename_i quote
    cases written with
    | nil =>
        obtain ⟨c, more, rfl, rfl | rfl⟩ := follows <;> cases quote
    | cons c written =>
        cases quote
        exact absurd (number '"' List.mem_cons_self) (by decide)
  · rename_i bracket
    cases written with
    | nil =>
        obtain ⟨c, more, rfl, rfl | rfl⟩ := follows <;> cases bracket
    | cons c written =>
        cases bracket
        exact absurd (number '[' List.mem_cons_self) (by decide)
  · rfl

theorem read_text (s : String) (rest : List Char) :
    readToken ((quoted s).toList ++ rest) = some (.text s.toList, rest) := by
  rw [quoted_chars, List.cons_append, List.append_assoc, List.singleton_append, readToken, read_quoted, Option.map_some,
    List.reverse_reverse]

structure Listed (items : List (List Char)) : Prop where
  number : ∀ item ∈ items, ∀ c ∈ item, isNumberChar c = true
  shown : ∀ item ∈ items, item ≠ []

theorem mem_intercalate (separator : Char) (items : List (List Char)) (c : Char)
    (member : c ∈ [separator].intercalate items) : c = separator ∨ ∃ item ∈ items, c ∈ item := by
  induction items with
  | nil => cases member
  | cons first rest ih =>
      cases rest with
      | nil =>
          rw [List.intercalate_singleton] at member
          exact .inr ⟨first, List.mem_cons_self, member⟩
      | cons next more =>
          rw [List.intercalate_cons_cons, List.append_assoc, List.mem_append, List.mem_append, List.mem_singleton] at member
          rcases member with here | same | later
          · exact .inr ⟨first, List.mem_cons_self, here⟩
          · exact .inl same
          · rcases ih later with same | ⟨item, among, inside⟩
            · exact .inl same
            · exact .inr ⟨item, List.mem_cons_of_mem first among, inside⟩

theorem read_listed (items : List (List Char)) (rest : List Char) (listed : Listed items) :
    readToken ('[' :: ([','].intercalate items ++ ']' :: rest)) = some (.numbers items, rest) := by
  have closed : ∀ c ∈ [','].intercalate items, decide (c ≠ ']') = true := by
    intro c member
    rcases mem_intercalate ',' items c member with rfl | ⟨item, among, inside⟩
    · decide
    · have number := listed.number item among c inside
      rw [decide_eq_true_eq]
      rintro rfl
      exact absurd number (by decide)
  have parted : (if ([','].intercalate items).isEmpty then [] else ([','].intercalate items).splitOn ',') = items := by
    cases items with
    | nil => rfl
    | cons first more =>
        have nonempty : [','].intercalate (first :: more) ≠ [] := by
          have shown := listed.shown first List.mem_cons_self
          cases more with
          | nil => rwa [List.intercalate_singleton]
          | cons next more => rw [List.intercalate_cons_cons]; simp [shown]
        have apart : ∀ item ∈ first :: more, ',' ∉ item := by
          intro item among inside
          exact absurd (listed.number item among ',' inside) (by decide)
        rw [if_neg (by rwa [List.isEmpty_iff]), List.splitOn_intercalate ',' apart (List.cons_ne_nil first more)]
  have stops : (']' :: rest).takeWhile (fun c => decide (c ≠ ']')) = [] := rfl
  have stays : (']' :: rest).dropWhile (fun c => decide (c ≠ ']')) = ']' :: rest := rfl
  rw [readToken, List.takeWhile_append_of_pos closed, List.dropWhile_append_of_pos closed, stops, stays, List.append_nil,
    parted]
  rfl

theorem digit_number (c : Char) (digit : isDigit c = true) : isNumberChar c = true := by
  rw [isNumberChar, digit]
  rfl

theorem integer_number (n : Int) : ∀ c ∈ (toString n).toList, isNumberChar c = true := by
  have figures (m : Nat) : ∀ c ∈ m.repr.toList, isNumberChar c = true := by
    intro c member
    rw [Nat.repr_eq_ofList_toDigits, String.toList_ofList] at member
    exact digit_number c (figures_to_digits m c member)
  cases n with
  | ofNat m => exact figures m
  | negSucc m =>
      intro c member
      change c ∈ ("-" ++ (m + 1).repr).toList at member
      rw [String.toList_append, List.mem_append] at member
      rcases member with sign | digit
      · cases List.mem_singleton.mp sign
        rfl
      · exact figures (m + 1) c digit

theorem integer_shown (n : Int) : (toString n).toList ≠ [] := by
  have figures (m : Nat) : m.repr.toList ≠ [] := by
    rw [Nat.repr_eq_ofList_toDigits, String.toList_ofList]
    exact Nat.toDigits_ne_nil
  cases n with
  | ofNat m => exact figures m
  | negSucc m =>
      change ("-" ++ (m + 1).repr).toList ≠ []
      rw [String.toList_append]
      exact List.append_ne_nil_of_right_ne_nil _ (figures (m + 1))

end PulseAnalyzer.Json
