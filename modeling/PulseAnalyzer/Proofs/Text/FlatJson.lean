import PulseAnalyzer.Proofs.Text.JsonTokens

set_option autoImplicit false

namespace PulseAnalyzer.Json

section flat
variable (real : Float → String)

-- Values without inner values, except for the whole numbers of a list.
def Flat : Json → Prop
  | .integer _ | .text _ => True
  | .real x => ∀ c ∈ (real x).toList, isNumberChar c = true
  | .array items => ∀ item ∈ items, ∃ n : Int, item = .integer n
  | _ => False

def token : Json → Token
  | .text s => .text s.toList
  | .array items => .numbers (items.map fun item => (item.render real).toList)
  | value => .number (value.render real).toList

theorem render_items (items : List Json) : renderItems real items = items.map (render real) := by
  induction items with
  | nil => rfl
  | cons item rest ih => rw [renderItems, ih, List.map_cons]

theorem render_fields (fields : List (String × Json)) :
    renderFields real fields = fields.map fun f => quoted f.1 ++ ":" ++ f.2.render real := by
  induction fields with
  | nil => rfl
  | cons field rest ih => rw [renderFields, ih, List.map_cons]

theorem array_chars (items : List Json) : ((Json.array items).render real).toList =
    '[' :: ([','].intercalate (items.map fun item => (item.render real).toList) ++ [']']) := by
  rw [render, render_items, String.toList_append, String.toList_append, String.toList_intercalate, List.map_map]
  rfl

def fieldChars (f : String × Json) : List Char := (quoted f.1).toList ++ ':' :: (f.2.render real).toList

theorem object_chars (fields : List (String × Json)) : ((Json.object fields).render real).toList =
    '\x7b' :: ([','].intercalate (fields.map (fieldChars real)) ++ ['\x7d']) := by
  have field (f : String × Json) : (quoted f.1 ++ ":" ++ f.2.render real).toList = fieldChars real f := by
    rw [String.toList_append, String.toList_append, List.append_assoc]
    rfl
  rw [render, render_fields, String.toList_append, String.toList_append, String.toList_intercalate, List.map_map]
  simp only [Function.comp_def, field]
  rfl

theorem read_flat (value : Json) (rest : List Char) (flat : Flat real value) (follows : Follows rest) :
    readToken ((value.render real).toList ++ rest) = some (token real value, rest) := by
  cases value with
  | integer n =>
      rw [render]
      exact read_number _ rest (integer_number n) follows
  | real x =>
      rw [render]
      exact read_number _ rest flat follows
  | text s => exact read_text s rest
  | array items =>
      have listed : Listed (items.map fun item => (item.render real).toList) := by
        constructor
        · intro written among
          obtain ⟨item, member, rfl⟩ := List.mem_map.mp among
          obtain ⟨n, rfl⟩ := flat item member
          rw [render]
          exact integer_number n
        · intro written among
          obtain ⟨item, member, rfl⟩ := List.mem_map.mp among
          obtain ⟨n, rfl⟩ := flat item member
          rw [render]
          exact integer_shown n
      rw [array_chars, List.cons_append, List.append_assoc, List.singleton_append, read_listed _ rest listed]
      rfl
  | null | bool | object => exact flat.elim

theorem read_fields (fuel : Nat) (fields : List (String × Json)) (nonempty : fields ≠ []) (enough : fields.length ≤ fuel)
    (flat : ∀ f ∈ fields, Flat real f.2) :
    readTokens fuel ([','].intercalate (fields.map (fieldChars real)) ++ ['\x7d']) =
      some (fields.map fun f => (f.1.toList, token real f.2)) := by
  induction fields generalizing fuel with
  | nil => exact absurd rfl nonempty
  | cons field rest ih =>
      obtain ⟨name, value⟩ := field
      rw [List.length_cons] at enough
      obtain ⟨fuel, rfl⟩ : ∃ less, fuel = less + 1 := ⟨fuel - 1, by omega⟩
      have plain : Flat real value := flat (name, value) List.mem_cons_self
      cases rest with
      | nil =>
          have read := read_flat real value ['\x7d'] plain ⟨'\x7d', [], rfl, .inr rfl⟩
          rw [List.map_singleton, List.intercalate_singleton, fieldChars, quoted_chars]
          simp only [List.cons_append, List.append_assoc, List.nil_append, readTokens, read_quoted, read, List.reverse_reverse,
            List.map_cons, List.map_nil]
      | cons next more =>
          have later := ih fuel (List.cons_ne_nil next more) (by omega)
            (fun f member => flat f (List.mem_cons_of_mem _ member))
          have read (tail : List Char) := read_flat real value (',' :: tail) plain ⟨',', tail, rfl, .inl rfl⟩
          simp only [List.map_cons] at later ⊢
          rw [List.intercalate_cons_cons, fieldChars, quoted_chars]
          simp only [List.cons_append, List.append_assoc, List.nil_append, readTokens, read_quoted, read, later,
            List.reverse_reverse, Option.map_some]

theorem intercalate_longer (separator : Char) (items : List (List Char)) :
    items.length ≤ ([separator].intercalate items).length + 1 := by
  induction items with
  | nil => exact Nat.zero_le _
  | cons first rest ih =>
      cases rest with
      | nil => exact Nat.le_add_left 1 _
      | cons next more =>
          rw [List.intercalate_cons_cons, List.append_assoc, List.length_append, List.length_append, List.length_cons,
            List.length_singleton]
          omega

-- A line tells all that it was written from, but for the numbers, of which it tells how they are written.
theorem tokens_read (fields : List (String × Json)) (nonempty : fields ≠ []) (flat : ∀ f ∈ fields, Flat real f.2) :
    tokens? ((Json.object fields).render real).toList = some (fields.map fun f => (f.1.toList, token real f.2)) := by
  have longer := intercalate_longer ',' (fields.map (fieldChars real))
  rw [List.length_map] at longer
  rw [object_chars, tokens?]
  refine read_fields real _ fields nonempty ?_ flat
  rw [List.length_append]
  exact longer

end flat

def breaksLine (c : Char) : Bool :=
  let n := c.toNat
  (10 ≤ n && n ≤ 13) || n == 0x85 || n == 0x2028 || n == 0x2029

theorem escape_unbroken (c : Char) (unbroken : breaksLine c = false) : ∀ d ∈ escapeChar c, breaksLine d = false := by
  have digits : ∀ n < 0x20, ['\\', 'u', '0', '0', Nat.digitChar (n / 16), Nat.digitChar (n % 16)].all
      (fun d => breaksLine d == false) = true := by decide
  unfold escapeChar
  split
  case h_8 =>
    split
    · rename_i control
      exact fun d member => eq_of_beq (List.all_eq_true.mp (digits c.toNat control) d member)
    · exact List.forall_mem_singleton.mpr unbroken
  all_goals simp [breaksLine]

theorem quoted_unbroken (s : String) (unbroken : ∀ c ∈ s.toList, breaksLine c = false) :
    ∀ c ∈ (quoted s).toList, breaksLine c = false := by
  intro c member
  rw [quoted_chars, List.mem_cons, List.mem_append, List.mem_flatMap, List.mem_singleton] at member
  rcases member with rfl | ⟨origin, inside, escaped⟩ | rfl
  · rfl
  · exact escape_unbroken origin (unbroken origin inside) c escaped
  · rfl

theorem number_unbroken (c : Char) (number : isNumberChar c = true) : breaksLine c = false := by
  simp only [isNumberChar, isDigit, Bool.or_eq_true, Bool.and_eq_true, decide_eq_true_eq] at number
  rcases number with ((((⟨low, high⟩ | rfl) | rfl) | rfl) | rfl) | rfl
  · have above : 48 ≤ c.toNat := low
    have below : c.toNat ≤ 57 := high
    simp [breaksLine]
    omega
  all_goals rfl

theorem intercalate_unbroken (items : List (List Char)) (unbroken : ∀ item ∈ items, ∀ c ∈ item, breaksLine c = false) :
    ∀ c ∈ [','].intercalate items, breaksLine c = false := by
  intro c member
  rcases mem_intercalate ',' items c member with rfl | ⟨item, among, inside⟩
  · rfl
  · exact unbroken item among c inside

section unbroken
variable (real : Float → String)

theorem flat_unbroken (value : Json) (flat : Flat real value)
    (texts : ∀ s, value = .text s → ∀ c ∈ s.toList, breaksLine c = false) :
    ∀ c ∈ (value.render real).toList, breaksLine c = false := by
  cases value with
  | integer n => exact fun c member => number_unbroken c (integer_number n c member)
  | real x => exact fun c member => number_unbroken c (flat c member)
  | text s => exact quoted_unbroken s (texts s rfl)
  | array items =>
      intro c member
      rw [array_chars, List.mem_cons, List.mem_append, List.mem_singleton] at member
      rcases member with rfl | inside | rfl
      · rfl
      · refine intercalate_unbroken _ ?_ c inside
        intro written among
        obtain ⟨item, listed, rfl⟩ := List.mem_map.mp among
        obtain ⟨n, rfl⟩ := flat item listed
        exact fun d digit => number_unbroken d (integer_number n d digit)
      · rfl
  | null | bool | object => exact flat.elim

theorem object_unbroken (fields : List (String × Json)) (flat : ∀ f ∈ fields, Flat real f.2)
    (names : ∀ f ∈ fields, ∀ c ∈ f.1.toList, breaksLine c = false)
    (texts : ∀ f ∈ fields, ∀ s, f.2 = .text s → ∀ c ∈ s.toList, breaksLine c = false) :
    ∀ c ∈ ((Json.object fields).render real).toList, breaksLine c = false := by
  intro c member
  rw [object_chars, List.mem_cons, List.mem_append, List.mem_singleton] at member
  rcases member with rfl | inside | rfl
  · rfl
  · refine intercalate_unbroken _ ?_ c inside
    intro written among
    obtain ⟨f, listed, rfl⟩ := List.mem_map.mp among
    intro d part
    rw [fieldChars, List.mem_append, List.mem_cons] at part
    rcases part with name | rfl | value
    · exact quoted_unbroken f.1 (names f listed) d name
    · rfl
    · exact flat_unbroken real f.2 (flat f listed) (texts f listed) d value
  · rfl

end unbroken
end PulseAnalyzer.Json
