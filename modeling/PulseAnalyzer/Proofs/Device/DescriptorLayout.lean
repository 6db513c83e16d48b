import Mathlib.Algebra.GroupWithZero.Nat
import Mathlib.Data.List.Basic
import Mathlib.Data.List.TakeWhile
import PulseAnalyzer.Proofs.Device.Descriptors

set_option autoImplicit false

namespace PulseAnalyzer

def octets (text : String) : Bytes := text.toUTF8.data.toList

theorem octets_of_list (cs : List Char) : octets (String.ofList cs) = cs.flatMap String.utf8EncodeChar := by
  rw [octets, String.toUTF8_eq_toByteArray, String.toByteArray_ofList, List.utf8Encode, List.data_toByteArray]

theorem octets_join (texts : List String) : octets (String.join texts) = texts.flatMap octets := by
  have characters : ∀ text : String, octets text = text.toList.flatMap String.utf8EncodeChar := fun text => by
    rw [← octets_of_list, String.ofList_toList]
  rw [characters, String.toList_join, List.flatMap_assoc]
  exact List.flatMap_congr fun text _ => (characters text).symm

namespace Utf8

theorem chars_plain (bytes : List UInt8) (plain : ∀ b ∈ bytes, b < 128) :
    chars none bytes = bytes.map fun b => Char.ofNat b.toNat := by
  induction bytes with
  | nil => rw [chars, List.map_nil]
  | cons b rest ih =>
      have below : b.toNat < 0x80 := plain b List.mem_cons_self
      have later : ∀ c ∈ rest, c < 128 := fun c member => plain c (List.mem_cons_of_mem b member)
      rw [chars, chars.begins, start, if_pos below, ih later, List.map_cons]

theorem encode_plain (b : UInt8) (plain : b < 128) : String.utf8EncodeChar (Char.ofNat b.toNat) = [b] := by
  have below : b.toNat < 128 := plain
  have valid : b.toNat.isValidChar := Or.inl (by omega)
  have code : (Char.ofNat b.toNat).val.toNat = b.toNat := by
    rw [Char.ofNat, dif_pos valid]
    rfl
  rw [String.utf8EncodeChar, code]
  simp [Nat.le_of_lt_succ below]

theorem octets_decode (bytes : List UInt8) (plain : ∀ b ∈ bytes, b < 128) : octets (decode bytes) = bytes := by
  rw [decode, octets_of_list, chars_plain bytes plain, List.flatMap_map]
  calc bytes.flatMap (fun b => String.utf8EncodeChar (Char.ofNat b.toNat))
      = bytes.flatMap (fun b => [b]) := List.flatMap_congr fun b member => encode_plain b (plain b member)
    _ = bytes := List.flatMap_singleton' bytes

end Utf8

theorem ok_iff_long {α : Type} (found : Except Fault α) (fault : Fault) (length size : Nat)
    (either : (length < size ∧ found = .error fault) ∨ (size ≤ length ∧ ∃ value, found = .ok value)) :
    (∃ value, found = .ok value) ↔ size ≤ length := by
  obtain ⟨short, rfl⟩ | ⟨whole, read⟩ := either
  · exact ⟨nofun, fun whole => absurd short (Nat.not_lt_of_le whole)⟩
  · exact ⟨fun _ => whole, fun _ => read⟩

namespace Board

theorem decode_bytes (board : Board) (rest : Bytes) : decode (board.bytes ++ rest) = .ok board := rfl

theorem decode_ok_iff (raw : Bytes) : (∃ board, decode raw = .ok board) ↔ size ≤ raw.length :=
  ok_iff_long _ _ _ _ (decode_cases raw)

theorem bytes_decoded (raw : Bytes) (board : Board) (decoded : decode raw = .ok board) :
    board.bytes = raw.take size := by
  obtain ⟨same, again, written⟩ := decode_whole raw ((decode_ok_iff raw).mp ⟨board, decoded⟩)
  rw [decoded] at again
  cases again
  exact written

theorem decode_front (raw rest : Bytes) (board : Board) (decoded : decode raw = .ok board) :
    decode (raw.take size ++ rest) = .ok board := by
  rw [← bytes_decoded raw board decoded, decode_bytes]

end Board

def slices : List Nat → Bytes → List Bytes
  | [], _ => []
  | width :: widths, raw => raw.take width :: slices widths (raw.drop width)

theorem slices_flatten (widths : List Nat) (raw : Bytes) : (slices widths raw).flatten = raw.take widths.sum := by
  induction widths generalizing raw with
  | nil => rfl
  | cons width widths ih => rw [slices, List.flatten_cons, ih, List.sum_cons, List.take_add]

theorem mem_of_mem_slices (widths : List Nat) (raw part : Bytes) (member : part ∈ slices widths raw) :
    part ⊆ raw.take widths.sum := by
  rw [← slices_flatten]
  exact fun b inside => List.mem_flatten_of_mem member inside

-- What follows the last piece is in none of them.
theorem slices_front (widths : List Nat) (raw rest : Bytes) (whole : widths.sum ≤ raw.length) :
    slices widths (raw.take widths.sum ++ rest) = slices widths raw := by
  induction widths generalizing raw with
  | nil => rfl
  | cons width widths ih =>
      rw [List.sum_cons] at whole ⊢
      have first : (raw.take (width + widths.sum)).take width = raw.take width := by
        rw [List.take_take, Nat.min_eq_left (by omega)]
      have later : (raw.take (width + widths.sum)).drop width = (raw.drop width).take widths.sum := by
        rw [List.drop_take, Nat.add_sub_cancel_left]
      have long : width ≤ (raw.take (width + widths.sum)).length := by
        rw [List.length_take]
        omega
      rw [slices, slices, List.take_append_of_le_length long, List.drop_append_of_le_length long, first, later,
        ih (raw.drop width) (by rw [List.length_drop]; omega)]

namespace SerialNumber

def widths : List Nat := [3, 2, 2, 2, 2, 6]

def texts (serial : SerialNumber) : List String :=
  [serial.header, serial.variant, serial.revision, serial.batchWeek, serial.batchYear, serial.number]

theorem texts_injective (a b : SerialNumber) (same : a.texts = b.texts) : a = b := by
  cases a
  cases b
  simpa [texts] using same

theorem decode_ok_iff (raw : Bytes) : (∃ serial, decode raw = .ok serial) ↔ size ≤ raw.length :=
  ok_iff_long _ _ _ _ (decode_cases raw)

theorem texts_decoded (raw : Bytes) (serial : SerialNumber) (decoded : decode raw = .ok serial) :
    serial.texts = (slices widths raw).map fieldText := by
  have whole := (decode_ok_iff raw).mp ⟨serial, decoded⟩
  rw [decode, if_neg (Nat.not_lt_of_le whole)] at decoded
  cases decoded
  simp [texts, widths, slices, slice, List.drop_drop]

theorem decode_front (raw rest : Bytes) (serial : SerialNumber) (decoded : decode raw = .ok serial) :
    decode (raw.take size ++ rest) = .ok serial := by
  have whole := (decode_ok_iff raw).mp ⟨serial, decoded⟩
  have long : size ≤ (raw.take size ++ rest).length := by
    rw [List.length_append, List.length_take_of_le whole]
    omega
  obtain ⟨other, again⟩ := (decode_ok_iff _).mpr long
  have same : other.texts = serial.texts := by
    rw [texts_decoded _ other again, texts_decoded raw serial decoded]
    exact congrArg _ (slices_front widths raw rest whole)
  rw [again, texts_injective other serial same]

section plain
variable (raw : Bytes) (serial : SerialNumber) (decoded : decode raw = .ok serial)
  (plain : ∀ b ∈ raw.take size, b < 128)
include decoded plain

theorem octets_texts : serial.texts.map octets = (slices widths raw).map fun part => part.takeWhile (· ≠ 0) := by
  rw [texts_decoded raw serial decoded, List.map_map]
  refine List.map_congr_left fun part member => Utf8.octets_decode _ fun b kept => ?_
  exact plain b (mem_of_mem_slices widths raw part member (List.takeWhile_subset _ kept))

theorem octets_joined (filled : 0 ∉ raw.take size) : octets (String.join serial.texts) = raw.take size := by
  have uncut : ∀ part ∈ slices widths raw, part.takeWhile (· ≠ 0) = part := fun part member =>
    List.takeWhile_eq_self_iff.mpr fun b inside => by
      have zero : b ≠ 0 := fun zero => filled (zero ▸ mem_of_mem_slices widths raw part member inside)
      simpa using zero
  calc octets (String.join serial.texts)
      = (serial.texts.map octets).flatten := by rw [octets_join, List.flatMap_def]
    _ = ((slices widths raw).map fun part => part.takeWhile (· ≠ 0)).flatten := by
        rw [octets_texts raw serial decoded plain]
    _ = (slices widths raw).flatten := by rw [List.map_congr_left uncut, List.map_id']
    _ = raw.take size := slices_flatten widths raw

end plain

end SerialNumber

namespace Statistics

theorem of_list_to_list (s : Statistics) (rest : List Float) : ofList (s.toList ++ rest) = .ok s := rfl

theorem of_list_whole (values : List Float) (whole : size ≤ values.length) :
    ∃ s, ofList values = .ok s ∧ s.toList = values.take size := by
  have counted : (values.take 9).length = 9 := List.length_take_of_le whole
  rw [← List.take_append_drop 9 values]
  generalize values.drop 9 = rest
  match values.take 9, counted with
  | [a, b, c, d, e, f, g, h, i], _ => exact ⟨⟨a, b, c, d, e, f, g, h, i⟩, rfl, rfl⟩

end Statistics

theorem descriptors_lossless (raw rest : Bytes) (values : List Float) (s : Statistics) :
    ((∃ board, Board.decode raw = .ok board) ↔ 26 ≤ raw.length) ∧
    (raw.length < 26 → Board.decode raw = .error (.length 26 raw.length)) ∧
    (∀ board, Board.decode raw = .ok board →
      board.scalars.length = 17 ∧ board.scalars ++ board.filters.flatMap FilterBlock.bytes = raw.take 26 ∧
      Board.decode (raw.take 26 ++ rest) = .ok board) ∧
    ((∃ serial, SerialNumber.decode raw = .ok serial) ↔ 17 ≤ raw.length) ∧
    (raw.length < 17 → SerialNumber.decode raw = .error (.length 17 raw.length)) ∧
    (∀ serial, SerialNumber.decode raw = .ok serial →
      SerialNumber.decode (raw.take 17 ++ rest) = .ok serial ∧
      ((∀ b ∈ raw.take 17, b < 128) →
        serial.texts.map octets = (slices [3, 2, 2, 2, 2, 6] raw).map (fun part => part.takeWhile (· ≠ 0)) ∧
        (0 ∉ raw.take 17 → octets (String.join serial.texts) = raw.take 17))) ∧
    (9 ≤ values.length → ∃ found, Statistics.ofList values = .ok found ∧ found.toList = values.take 9) ∧
    Statistics.ofList s.toList = .ok s := by
  refine ⟨Board.decode_ok_iff raw, Board.decode_short raw, fun board decoded => ?_, SerialNumber.decode_ok_iff raw,
    fun short => if_pos short, fun serial decoded => ?_, Statistics.of_list_whole values, ?_⟩
  · exact ⟨rfl, Board.bytes_decoded raw board decoded, Board.decode_front raw rest board decoded⟩
  · exact ⟨SerialNumber.decode_front raw rest serial decoded, fun plain =>
      ⟨SerialNumber.octets_texts raw serial decoded plain, SerialNumber.octets_joined raw serial decoded plain⟩⟩
  · simpa using s.of_list_to_list []

-- Ten bytes follow the serial number, and one the board information.
theorem longer_descriptor_lossless :
    let raw : Bytes :=
      [83, 78, 72, 85, 68, 48, 49, 65, 52, 53, 49, 57, 48, 48, 48, 48, 48, 2, 1, 9, 4, 1, 9, 8, 1, 9, 7]
    let values : List Float := [10.0, 9.5, 9.0, 1000.0, 950.0, 100.0, 95.0, 3.0, 4.0, 0.0]
    (∃ board, Board.decode raw = .ok board ∧
      board.scalars ++ board.filters.flatMap FilterBlock.bytes = raw.take 26) ∧
    (∃ serial, SerialNumber.decode raw = .ok serial ∧ (∀ b ∈ raw.take 17, b < 128) ∧ 0 ∉ raw.take 17 ∧
      octets (String.join serial.texts) = raw.take 17) ∧
    Board.decode (raw.take 20) = .error (.length 26 20) ∧
    ∃ found, Statistics.ofList values = .ok found ∧ found.toList = values.take 9 := by
  intro raw values
  let blank : Statistics := ⟨0.0, 0.0, 0.0, 0.0, 0.0, 0.0, 0.0, 0.0, 0.0⟩
  obtain ⟨boards, -, board_bytes, serials, -, serial_bytes, statistics, -⟩ :=
    descriptors_lossless raw [] values blank
  obtain ⟨-, short, -⟩ := descriptors_lossless (raw.take 20) [] values blank
  obtain ⟨board, read⟩ := boards.mpr (by decide)
  obtain ⟨serial, decoded⟩ := serials.mpr (by decide)
  have plain : ∀ b ∈ raw.take 17, b < 128 := by decide +kernel
  have filled : 0 ∉ raw.take 17 := by decide
  exact ⟨⟨board, read, (board_bytes board read).2.1⟩,
    ⟨serial, decoded, plain, filled, ((serial_bytes serial decoded).2 plain).2 filled⟩, short (by decide),
    statistics (by decide)⟩

end PulseAnalyzer
