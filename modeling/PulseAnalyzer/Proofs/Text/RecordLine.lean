import PulseAnalyzer.Proofs.Text.FlatJson
import PulseAnalyzer.Proofs.Number.ShortestDecimal
import PulseAnalyzer.Proofs.Time.TimestampText
import PulseAnalyzer.Record

set_option autoImplicit false

namespace PulseAnalyzer

namespace Measurement
open Json

def reals : Measurement → List Float
  | .spectrum _ statistics _ => statistics.toList
  | .trace _ _ => []
  | .reading _ volts celsius => [volts, celsius]

def names : Measurement → List String
  | .spectrum _ _ _ => ["detnum"] ++ Statistics.names ++ ["mca"]
  | .trace _ _ => ["id", "trace"]
  | .reading _ _ _ => ["detnum", "monitor_voltage", "temp_c"]

theorem fields_named (m : Measurement) : m.fields.map Prod.fst = m.names := by
  cases m <;> rfl

end Measurement

-- Times are written in characters that do not end a line and finite real numbers in the characters of JSON numbers, and
-- what is written alike is the same.
structure Faithful (times : Timestamp → Prop) (stamp : Timestamp → String) (real : Float → String) : Prop where
  stamp_once : ∀ t u, times t → times u → stamp t = stamp u → t = u
  stamp_unbroken : ∀ t, times t → ∀ c ∈ (stamp t).toList, Json.breaksLine c = false
  real_once : ∀ x y : Float, x.isFinite = true → y.isFinite = true → real x = real y → x = y
  real_number : ∀ x : Float, x.isFinite = true → ∀ c ∈ (real x).toList, Json.isNumberChar c = true

namespace Record

def Finite (r : Record) : Prop := ∀ x ∈ r.measurement.reals, x.isFinite = true

end Record

theorem map_told {α β : Type} (f : α → β) (known : α → Prop) (once : ∀ x y, known x → known y → f x = f y → x = y)
    (a b : List α) (first : ∀ x ∈ a, known x) (second : ∀ y ∈ b, known y) (same : a.map f = b.map f) : a = b := by
  induction a generalizing b with
  | nil => exact (List.map_eq_nil_iff.mp same.symm).symm
  | cons x a ih =>
      cases b with
      | nil => cases same
      | cons y b =>
          obtain ⟨head, tail⟩ := List.cons.inj same
          rw [once x y (first x List.mem_cons_self) (second y List.mem_cons_self) head,
            ih b (fun z member => first z (List.mem_cons_of_mem x member))
              (fun z member => second z (List.mem_cons_of_mem y member)) tail]

namespace Record
open Json

def entries (stamp : Timestamp → String) (r : Record) : List (String × Json) :=
  ("timestamp", .text (stamp r.time)) :: r.measurement.fields

def names (r : Record) : List String := "timestamp" :: r.measurement.names

theorem entries_named (stamp : Timestamp → String) (r : Record) : (r.entries stamp).map Prod.fst = r.names := by
  rw [entries, names, List.map_cons, r.measurement.fields_named]

theorem names_once (r : Record) : r.names.Nodup := by
  obtain ⟨time, m⟩ := r
  cases m with
  | spectrum => exact (by decide : ("timestamp" :: (["detnum"] ++ Statistics.names ++ ["mca"])).Nodup)
  | trace => exact (by decide : ["timestamp", "id", "trace"].Nodup)
  | reading => exact (by decide : ["timestamp", "detnum", "monitor_voltage", "temp_c"].Nodup)

theorem names_unbroken (r : Record) : ∀ name ∈ r.names, ∀ c ∈ name.toList, breaksLine c = false := by
  obtain ⟨time, m⟩ := r
  cases m <;> simp [names, Measurement.names, Statistics.names, breaksLine]

theorem measured_no_text (m : Measurement) : ∀ f ∈ m.fields, ∀ s, f.2 ≠ .text s := by
  cases m <;> simp [Measurement.fields, Measurement.counts, Statistics.fields, Statistics.names, Statistics.toList]

end Record

section told
variable (real : Float → String)
open Json

theorem integer_told (m n : Nat) (same : token real (.integer m) = token real (.integer n)) : m = n := by
  have written : (m : Int).repr = (n : Int).repr := String.toList_inj.mp (Token.number.inj same)
  exact Int.ofNat.inj (Int.repr_inj.mp written)

theorem counts_told (a b : Array UInt32) (same : token real (Measurement.counts a) = token real (Measurement.counts b)) :
    a = b := by
  have written := Token.numbers.inj same
  rw [List.map_map, List.map_map] at written
  refine Array.toList_inj.mp (map_told _ (fun _ => True) ?_ a.toList b.toList (by simp) (by simp) written)
  intro x y _ _ alike
  have number : (x.toNat : Int).repr = (y.toNat : Int).repr := String.toList_inj.mp alike
  exact UInt32.toNat_inj.mp (Int.ofNat.inj (Int.repr_inj.mp number))

theorem counts_flat (values : Array UInt32) : Flat real (Measurement.counts values) := by
  intro item member
  obtain ⟨n, -, rfl⟩ := List.mem_map.mp member
  exact ⟨n.toNat, rfl⟩

theorem statistics_once (s t : Statistics) (same : s.toList = t.toList) : s = t := by
  cases s
  cases t
  simpa [Statistics.toList] using same

end told

section line
variable {times : Timestamp → Prop} {stamp : Timestamp → String} {real : Float → String}
  (faithful : Faithful times stamp real)
open Json
include faithful

theorem real_told (x y : Float) (first : x.isFinite = true) (second : y.isFinite = true)
    (same : token real (.real x) = token real (.real y)) : x = y :=
  faithful.real_once x y first second (String.toList_inj.mp (Token.number.inj same))

theorem statistics_told (s t : Statistics) (first : ∀ x ∈ s.toList, x.isFinite = true)
    (second : ∀ y ∈ t.toList, y.isFinite = true)
    (same : s.toList.map (fun x => token real (.real x)) = t.toList.map (fun x => token real (.real x))) : s = t :=
  statistics_once s t (map_told _ _ (real_told faithful) s.toList t.toList first second same)

theorem measurement_told (m n : Measurement) (first : ∀ x ∈ m.reals, x.isFinite = true)
    (second : ∀ y ∈ n.reals, y.isFinite = true) (named : m.names = n.names)
    (same : m.fields.map (fun f => token real f.2) = n.fields.map (fun f => token real f.2)) : m = n := by
  cases m with
  | spectrum c s bins =>
      cases n with
      | spectrum d t others =>
          obtain ⟨channel, later⟩ := List.cons.inj same
          have parted : s.toList.map (fun x => token real (.real x)) ++ [token real (Measurement.counts bins)] =
              t.toList.map (fun x => token real (.real x)) ++ [token real (Measurement.counts others)] := later
          obtain ⟨values, last⟩ := List.append_inj' parted rfl
          rw [integer_told real c d channel, statistics_told faithful s t first second values,
            counts_told real bins others (List.cons.inj last).1]
      | trace => simp [Measurement.names] at named
      | reading => simp [Measurement.names, Statistics.names] at named
  | trace c samples =>
      cases n with
      | spectrum => simp [Measurement.names] at named
      | trace d others =>
          obtain ⟨channel, later⟩ := List.cons.inj same
          rw [integer_told real c d channel, counts_told real samples others (List.cons.inj later).1]
      | reading => simp [Measurement.names] at named
  | reading c volts celsius =>
      cases n with
      | spectrum => simp [Measurement.names, Statistics.names] at named
      | trace => simp [Measurement.names] at named
      | reading d others warmth =>
          obtain ⟨channel, later⟩ := List.cons.inj same
          have values : [volts, celsius] = [others, warmth] :=
            map_told _ _ (real_told faithful) [volts, celsius] [others, warmth] first second later
          cases values
          rw [integer_told real c d channel]

theorem entries_flat (r : Record) (finite : r.Finite) : ∀ f ∈ r.entries stamp, Flat real f.2 := by
  obtain ⟨time, m⟩ := r
  refine List.forall_mem_cons.mpr ⟨trivial, ?_⟩
  cases m with
  | spectrum c s bins =>
      intro f member
      rcases List.mem_append.mp member with early | last
      · rcases List.mem_append.mp early with channel | value
        · cases List.mem_singleton.mp channel
          trivial
        · obtain ⟨⟨name, x⟩, listed, rfl⟩ := List.mem_map.mp value
          exact faithful.real_number x (finite x (List.of_mem_zip listed).2)
      · cases List.mem_singleton.mp last
        exact counts_flat real bins
  | trace c samples =>
      exact List.forall_mem_cons.mpr ⟨trivial, List.forall_mem_singleton.mpr (counts_flat real samples)⟩
  | reading c volts celsius =>
      have told := List.forall_mem_cons.mp finite
      exact List.forall_mem_cons.mpr ⟨trivial, List.forall_mem_cons.mpr ⟨faithful.real_number volts told.1,
        List.forall_mem_singleton.mpr (faithful.real_number celsius (told.2 celsius List.mem_cons_self))⟩⟩

theorem line_read (r : Record) (finite : r.Finite) : tokens? (r.line stamp real).toList =
    some ((r.entries stamp).map fun f => (f.1.toList, token real f.2)) :=
  tokens_read real (r.entries stamp) (List.cons_ne_nil _ _) (entries_flat faithful r finite)

omit faithful in
theorem entries_names (r : Record) : ((r.entries stamp).map fun f => (f.1.toList, token real f.2)).map Prod.fst =
    r.names.map String.toList := by
  rw [← r.entries_named stamp, List.map_map, List.map_map]
  rfl

theorem record_told (r s : Record) (known : times r.time) (other : times s.time) (first : r.Finite) (second : s.Finite)
    (same : r.line stamp real = s.line stamp real) : r = s := by
  have read := line_read faithful r first
  rw [same, line_read faithful s second] at read
  have parts := Option.some.inj read
  have named : s.names = r.names := by
    have heads := congrArg (List.map Prod.fst) parts
    rw [entries_names, entries_names] at heads
    exact List.map_injective_iff.mpr (fun _ _ => String.toList_inj.mp) heads
  have values := congrArg (List.map Prod.snd) parts
  rw [List.map_map, List.map_map] at values
  obtain ⟨stamped, told⟩ := List.cons.inj values
  have time := faithful.stamp_once s.time r.time other known (String.toList_inj.mp (Token.text.inj stamped))
  have measurement := measurement_told faithful s.measurement r.measurement second first (List.cons.inj named).2 told
  cases r
  cases s
  cases time
  cases measurement
  rfl

theorem line_unbroken (r : Record) (known : times r.time) (finite : r.Finite) :
    ∀ c ∈ (r.line stamp real).toList, breaksLine c = false := by
  refine object_unbroken real (r.entries stamp) (entries_flat faithful r finite) ?_ ?_
  · intro f member
    have named : f.1 ∈ r.names := r.entries_named stamp ▸ List.mem_map_of_mem member
    exact r.names_unbroken f.1 named
  · refine List.forall_mem_cons.mpr ⟨?_, fun f member s same => absurd same (Record.measured_no_text r.measurement f member s)⟩
    rintro s ⟨⟩
    exact faithful.stamp_unbroken r.time known

end line

section writers
open Json

theorem time_unbroken (c : Char) (written : Timestamp.Written c) : breaksLine c = false := by
  rcases written with digit | mark
  · exact number_unbroken c (digit_number c digit)
  · fin_cases mark <;> rfl

theorem real_text_written (x : Float) (finite : x.isFinite = true) : recordText? x = some (realText x) := by
  obtain ⟨text, written, -⟩ := record_text_number x finite
  rw [realText, written]
  rfl

theorem real_text_number (x : Float) (finite : x.isFinite = true) :
    ∀ c ∈ (realText x).toList, isNumberChar c = true := by
  obtain ⟨text, written, number⟩ := record_text_number x finite
  rw [real_text_written x finite] at written
  cases written
  intro c member
  rcases number c member with digit | mark
  · exact digit_number c digit
  · fin_cases mark <;> rfl

theorem writers_faithful : Faithful Timestamp.Valid Timestamp.text realText where
  stamp_once t u first second same := Timestamp.text_once t u first second same
  stamp_unbroken t valid c member := time_unbroken c (t.text_written valid c member)
  real_once x y first second same :=
    record_text_once x y first second (by rw [real_text_written x first, real_text_written y second, same])
  real_number := real_text_number

end writers

theorem Record.text_once (r s : Record) (first : r.time.Valid) (second : s.time.Valid) (finite : r.Finite)
    (finite' : s.Finite) (same : r.text = s.text) : r = s :=
  record_told writers_faithful r s first second finite finite' same

theorem Record.line_tells_all (times : Timestamp → Prop) (stamp : Timestamp → String) (real : Float → String)
    (faithful : Faithful times stamp real) :
    (∀ r s : Record, times r.time → times s.time → r.Finite → s.Finite → r.line stamp real = s.line stamp real → r = s) ∧
    ∀ r : Record, times r.time → r.Finite → (∀ c ∈ (r.line stamp real).toList, Json.breaksLine c = false) ∧
      ∃ fields, Json.tokens? (r.line stamp real).toList = some fields ∧
        fields.map Prod.fst = r.names.map String.toList ∧ (fields.map Prod.fst).Nodup := by
  refine ⟨fun r s known other first second same => record_told faithful r s known other first second same, ?_⟩
  intro r known finite
  refine ⟨line_unbroken faithful r known finite, _, line_read faithful r finite, entries_names r, ?_⟩
  rw [entries_names]
  exact r.names_once.map fun _ _ => String.toList_inj.mp

-- Spectra that only a comma tells apart, and statistics that only the sign of a zero tells apart.
theorem Record.spectra_told :
    let statistics (overflows : Float) : Statistics := ⟨2.0, 1.5, 0.25, 1e21, 3.0, 0.1, 1e-7, 0.0, overflows⟩
    let spectrum (overflows : Float) (bins : Array UInt32) : Record :=
      ⟨⟨951868800, 0⟩, .spectrum 7 (statistics overflows) bins⟩
    let r := spectrum 0.0 #[1, 2, 3]
    r.text ≠ (spectrum 0.0 #[1, 23]).text ∧ r.text ≠ (spectrum (-0.0) #[1, 2, 3]).text ∧
      (∀ c ∈ r.text.toList, Json.breaksLine c = false) ∧
      ∃ fields, Json.tokens? r.text.toList = some fields ∧ fields.length = 12 ∧ (fields.map Prod.fst).Nodup := by
  intro statistics spectrum r
  have known : (⟨951868800, 0⟩ : Timestamp).Valid := ⟨by decide, by decide⟩
  have zero : ∀ x ∈ (statistics 0.0).toList, x.isFinite = true := by decide +kernel
  have negative : ∀ x ∈ (statistics (-0.0)).toList, x.isFinite = true := by decide +kernel
  have apart : (0.0 : Float) ≠ -0.0 := by decide +kernel
  obtain ⟨once, read⟩ := line_tells_all Timestamp.Valid Timestamp.text Json.realText writers_faithful
  obtain ⟨unbroken, fields, told, named, nodup⟩ := read r known zero
  refine ⟨fun same => ?_, fun same => ?_, unbroken, fields, told, ?_, nodup⟩
  · have alike := once r (spectrum 0.0 #[1, 23]) known known zero zero same
    exact absurd alike (by simp [r, spectrum])
  · have alike := once r (spectrum (-0.0) #[1, 2, 3]) known known zero negative same
    exact absurd alike (by simpa [r, spectrum, statistics] using apart)
  · rw [← List.length_map Prod.fst, named]
    rfl

end PulseAnalyzer
