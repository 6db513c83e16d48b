import PulseAnalyzer.Proofs.Run.Course

set_option autoImplicit false

namespace PulseAnalyzer

def Event.delimits (e : Event) : Bool := e.part = .stop ∨ e.part = .snapshot ∨ e.part = .capture

-- The part of a run whose calls read out what a successful stop or special run made ready.
def Event.readies? : Event → Option Part
  | ⟨.api (.stopRun _), .ok _⟩ => some .readOut
  | ⟨.api (.special _ (.snapshot _)), .ok _⟩ => some .snapshotRead
  | ⟨.api (.special _ (.adcTrace _)), .ok _⟩ => some .captureRead
  | _ => none

-- The measurement of one channel as its calls answered it, and the calls after these. Data is asked
-- for with the length just told, for a snapshot with the length of all snapshots.
def measured? (part : Part) (channel : Nat) : List Event → Option (Measurement × List Event)
  | ⟨.api (.spectrumLength c), .ok length⟩ :: ⟨.api (.spectrum d n), .ok bins⟩ ::
      ⟨.api (.statistics e), .ok statistics⟩ :: rest =>
    if part = .readOut ∧ c = channel ∧ d = channel ∧ e = channel ∧ n = length then
      some (.spectrum channel statistics bins, rest)
    else none
  | ⟨.api (.snapshotSpectrum c n), .ok bins⟩ :: ⟨.api (.snapshotStatistics d), .ok statistics⟩ :: rest =>
    if part = .snapshotRead ∧ c = channel ∧ d = channel ∧ n = 4096 then
      some (.spectrum channel statistics bins, rest)
    else none
  | ⟨.api (.traceLength c), .ok length⟩ :: ⟨.api (.trace d n), .ok samples⟩ :: rest =>
    if part = .captureRead ∧ c = channel ∧ d = channel ∧ n = length then
      some (.trace channel samples, rest)
    else none
  | _ => none

-- The measurements of all channels, when the calls are theirs and no others.
def complete? (part : Part) : List Nat → List Event → Option (List Measurement)
  | [], [] => some []
  | [], _ :: _ => none
  | channel :: rest, events =>
    match measured? part channel events with
    | some (m, left) => (complete? part rest left).map (m :: ·)
    | none => none

def sections : List Event → List (Event × List Event)
  | [] => []
  | e :: rest =>
    if e.delimits then (e, rest.takeWhile fun x => !x.delimits) :: sections rest else sections rest

def readOut? (channels : List Nat) (stretch : Event × List Event) : Option (List Measurement) :=
  match stretch.1.readies? with
  | some part => complete? part channels stretch.2
  | none => none

def called (events : List Event) : List Event := events.filter fun e => e.call?.isSome

def readOuts (channels : List Nat) (events : List Event) : List (List Measurement) :=
  (sections (called events)).filterMap (readOut? channels)

theorem measured_channel (part : Part) (channel : Nat) (events left : List Event) (m : Measurement)
    (found : measured? part channel events = some (m, left)) : m.channel = channel := by
  unfold measured? at found
  split at found
  · split at found
    · cases found
      rfl
    · cases found
  · split at found
    · cases found
      rfl
    · cases found
  · split at found
    · cases found
      rfl
    · cases found
  · cases found

theorem complete_channels (part : Part) (channels : List Nat) (events : List Event) (found : List Measurement)
    (complete : complete? part channels events = some found) : found.map Measurement.channel = channels := by
  induction channels generalizing events found with
  | nil =>
      cases events with
      | nil =>
          cases complete
          rfl
      | cons e rest => cases complete
  | cons channel rest ih =>
      unfold complete? at complete
      split at complete
      · rename_i m left first
        obtain ⟨others, later, rfl⟩ := Option.map_eq_some_iff.mp complete
        rw [List.map_cons, measured_channel part channel events left m first, ih left others later]
      · cases complete

theorem read_outs_channels (channels : List Nat) (events : List Event) (found : List Measurement)
    (member : found ∈ readOuts channels events) : found.map Measurement.channel = channels := by
  obtain ⟨stretch, -, complete⟩ := List.mem_filterMap.mp member
  unfold readOut? at complete
  split at complete
  · exact complete_channels _ channels _ found complete
  · cases complete

def Undivided (events : List Event) : Prop := ∀ e ∈ events, e.delimits = false

theorem sections_undivided (a b : List Event) (undivided : Undivided a) : sections (a ++ b) = sections b := by
  induction a with
  | nil => rfl
  | cons e rest ih =>
      have here : e.delimits = false := undivided e List.mem_cons_self
      rw [List.cons_append, sections, here]
      exact ih fun x member => undivided x (List.mem_cons_of_mem e member)

-- Where a history can be cut without parting the calls of a read-out.
def Divides (events : List Event) : Prop := ∀ e rest, called events = e :: rest → e.delimits = true

theorem take_while_divides (a b : List Event) (divides : ∀ e rest, b = e :: rest → e.delimits = true) :
    (a ++ b).takeWhile (fun x => !x.delimits) = a.takeWhile fun x => !x.delimits := by
  induction a with
  | nil =>
      cases b with
      | nil => rfl
      | cons e rest =>
          rw [List.nil_append, List.takeWhile_cons, divides e rest rfl]
          rfl
  | cons x a ih =>
      rw [List.cons_append, List.takeWhile_cons, List.takeWhile_cons, ih]

theorem sections_append (a b : List Event) (divides : ∀ e rest, b = e :: rest → e.delimits = true) :
    sections (a ++ b) = sections a ++ sections b := by
  induction a with
  | nil => rfl
  | cons e rest ih =>
      rw [List.cons_append, sections, sections, take_while_divides rest b divides, ih]
      split
      · rfl
      · rfl

theorem called_append (a b : List Event) : called (a ++ b) = called a ++ called b :=
  List.filter_append a b

theorem emitted_append (a b : List Event) : emitted (a ++ b) = emitted a ++ emitted b :=
  List.filterMap_append

theorem read_outs_append (channels : List Nat) (a b : List Event) (divides : Divides b) :
    readOuts channels (a ++ b) = readOuts channels a ++ readOuts channels b := by
  rw [readOuts, called_append, sections_append _ _ divides, List.filterMap_append]
  rfl

theorem called_undivided (events : List Event) (undivided : Undivided events) : Undivided (called events) :=
  fun e member => undivided e (List.mem_filter.mp member).1

theorem read_outs_undivided (channels : List Nat) (a b : List Event) (undivided : Undivided a) :
    readOuts channels (a ++ b) = readOuts channels b := by
  rw [readOuts, called_append, sections_undivided _ _ (called_undivided a undivided)]
  rfl

theorem take_while_undivided (events : List Event) (undivided : Undivided events) :
    events.takeWhile (fun x => !x.delimits) = events := by
  have all : ∀ e ∈ events, (!e.delimits) = true := by
    intro e member
    rw [undivided e member]
    rfl
  have whole : (events ++ []).takeWhile (fun x => !x.delimits) = events ++ [] := List.takeWhile_append_of_pos all
  rw [List.append_nil] at whole
  exact whole

theorem called_delimiter (opener : Event) (rest : List Event) (delimits : opener.delimits = true) :
    called (opener :: rest) = opener :: called rest := by
  refine List.filter_cons_of_pos ?_
  obtain ⟨request, answer⟩ := opener
  cases request with
  | api call => rfl
  | _ => cases delimits

theorem read_outs_section (channels : List Nat) (opener : Event) (a b : List Event)
    (delimits : opener.delimits = true) (undivided : Undivided a) (divides : Divides b) :
    readOuts channels (opener :: (a ++ b)) =
      (readOut? channels (opener, called a)).toList ++ readOuts channels b := by
  have quiet := called_undivided a undivided
  rw [readOuts, called_delimiter opener _ delimits, called_append, sections, delimits, if_pos rfl,
    take_while_divides _ _ divides,
    take_while_undivided _ quiet, sections_undivided _ _ quiet, List.filterMap_cons]
  cases readOut? channels (opener, called a) with
  | none => rfl
  | some found => rfl

theorem read_outs_last (channels : List Nat) (opener : Event) (a : List Event)
    (delimits : opener.delimits = true) (undivided : Undivided a) :
    readOuts channels (opener :: a) = (readOut? channels (opener, called a)).toList := by
  have whole := read_outs_section channels opener a [] delimits undivided nofun
  have nothing : readOuts channels [] = [] := rfl
  rw [List.append_nil, nothing, List.append_nil] at whole
  exact whole

theorem complete_cons (part : Part) (channel : Nat) (rest : List Nat) (events left : List Event)
    (m : Measurement) (first : measured? part channel events = some (m, left)) :
    complete? part (channel :: rest) events = (complete? part rest left).map (m :: ·) := by
  rw [complete?, first]

theorem measured_spectrum (channel length : Nat) (bins : Array UInt32) (statistics : Statistics)
    (rest : List Event) :
    measured? .readOut channel (.success (.spectrumLength channel) length ::
      .success (.spectrum channel length) bins :: .success (.statistics channel) statistics :: rest) =
      some (.spectrum channel statistics bins, rest) := by
  simp [measured?]

theorem measured_snapshot (channel : Nat) (bins : Array UInt32) (statistics : Statistics) (rest : List Event) :
    measured? .snapshotRead channel (.success (.snapshotSpectrum channel Sequencer.snapshotLength) bins ::
      .success (.snapshotStatistics channel) statistics :: rest) =
      some (.spectrum channel statistics bins, rest) := by
  simp [measured?, Sequencer.snapshotLength]

theorem measured_trace (channel length : Nat) (samples : Array UInt32) (rest : List Event) :
    measured? .captureRead channel (.success (.traceLength channel) length ::
      .success (.trace channel length) samples :: rest) = some (.trace channel samples, rest) := by
  simp [measured?]

namespace Sequencer
open Procedure

theorem read_spectra_complete (channels : List Nat) (events : List Event)
    (result : Option (Except Fault (List Measurement))) (traced : (readSpectra channels).Traced events result) :
    ∃ outcome, result = some outcome ∧ complete? .readOut channels (called events) = outcome.toOption := by
  induction channels generalizing events result with
  | nil =>
      obtain ⟨rfl, rfl⟩ := (traced_pure _ events result).mp traced
      exact ⟨.ok [], rfl, rfl⟩
  | cons channel rest ih =>
      rcases (traced_api_bind _ _ events result).mp traced with ⟨length, sized, filling, rfl⟩ | ⟨code, rfl, rfl⟩
      rcases (traced_api_bind _ _ sized result).mp filling with ⟨bins, filled, counting, rfl⟩ | ⟨code, rfl, rfl⟩
      rcases (traced_api_bind _ _ filled result).mp counting with ⟨statistics, tail, after, rfl⟩ | ⟨code, rfl, rfl⟩
      · have first := complete_cons .readOut channel rest _ _ _
          (measured_spectrum channel length bins statistics (called tail))
        rcases (traced_bind _ _ tail result).mp after with
          ⟨others, head, last, read, ended, rfl⟩ | ⟨fault, failed, rfl⟩ | ⟨stuck, rfl⟩
        · obtain ⟨rfl, rfl⟩ := (traced_pure _ last result).mp ended
          obtain ⟨outcome, same, found⟩ := ih head _ read
          cases same
          rw [List.append_nil] at first ⊢
          exact ⟨_, rfl, first.trans (by rw [found]; rfl)⟩
        · obtain ⟨outcome, same, found⟩ := ih tail _ failed
          cases same
          exact ⟨_, rfl, first.trans (by rw [found]; rfl)⟩
        · obtain ⟨outcome, impossible, -⟩ := ih tail _ stuck
          cases impossible
      · exact ⟨_, rfl, rfl⟩
      · exact ⟨_, rfl, rfl⟩
      · exact ⟨_, rfl, rfl⟩

theorem others_complete (part : Part) (channel : Nat) (rest : List Nat) (m : Measurement)
    (read : Procedure (Option (List Measurement))) (whole tail : List Event)
    (result : Option (Except Fault (Option (List Measurement))))
    (reads : ∀ events result, read.Traced events result → ∃ outcome, result = some outcome ∧
      complete? part rest (called events) = outcome.toOption.join)
    (first : complete? part (channel :: rest) whole = (complete? part rest (called tail)).map (m :: ·))
    (traced : Traced (do
      match ← read with
      | none => return none
      | some others => return some (m :: others)) tail result) :
    ∃ outcome, result = some outcome ∧ complete? part (channel :: rest) whole = outcome.toOption.join := by
  rcases (traced_bind _ _ tail result).mp traced with
    ⟨others, head, last, begun, ended, rfl⟩ | ⟨fault, failed, rfl⟩ | ⟨stuck, rfl⟩
  · obtain ⟨outcome, same, found⟩ := reads head _ begun
    cases same
    cases others with
    | none =>
        obtain ⟨rfl, rfl⟩ := (traced_pure _ last result).mp ended
        rw [List.append_nil, found] at first
        exact ⟨_, rfl, first⟩
    | some measurements =>
        obtain ⟨rfl, rfl⟩ := (traced_pure _ last result).mp ended
        rw [List.append_nil, found] at first
        exact ⟨_, rfl, first⟩
  · obtain ⟨outcome, same, found⟩ := reads tail _ failed
    cases same
    rw [found] at first
    exact ⟨_, rfl, first⟩
  · obtain ⟨outcome, impossible, -⟩ := reads tail _ stuck
    cases impossible

theorem read_snapshot_complete (channels : List Nat) (events : List Event)
    (result : Option (Except Fault (Option (List Measurement))))
    (traced : (readSnapshot channels).Traced events result) :
    ∃ outcome, result = some outcome ∧
      complete? .snapshotRead channels (called events) = outcome.toOption.join := by
  induction channels generalizing events result with
  | nil =>
      obtain ⟨rfl, rfl⟩ := (traced_pure _ events result).mp traced
      exact ⟨.ok (some []), rfl, rfl⟩
  | cons channel rest ih =>
      obtain ⟨cancelled, checked, filling, rfl⟩ := (traced_ask_bind .isCancelled _ events result).mp traced
      cases cancelled with
      | true =>
          obtain ⟨rfl, rfl⟩ := (traced_pure _ checked result).mp filling
          exact ⟨.ok none, rfl, rfl⟩
      | false =>
          rcases (traced_api_bind _ _ checked result).mp filling with ⟨bins, filled, checking, rfl⟩ | ⟨code, rfl, rfl⟩
          · obtain ⟨late, going, counting, rfl⟩ := (traced_ask_bind .isCancelled _ filled result).mp checking
            cases late with
            | true =>
                obtain ⟨rfl, rfl⟩ := (traced_pure _ going result).mp counting
                exact ⟨.ok none, rfl, rfl⟩
            | false =>
                rcases (traced_api_bind _ _ going result).mp counting with
                  ⟨statistics, tail, after, rfl⟩ | ⟨code, rfl, rfl⟩
                · have first := complete_cons .snapshotRead channel rest _ _ _
                    (measured_snapshot channel bins statistics (called tail))
                  exact others_complete .snapshotRead channel rest _ _ _ tail result ih first after
                · exact ⟨_, rfl, rfl⟩
          · exact ⟨_, rfl, rfl⟩

theorem read_traces_complete (channels : List Nat) (events : List Event)
    (result : Option (Except Fault (Option (List Measurement))))
    (traced : (readTraces channels).Traced events result) :
    ∃ outcome, result = some outcome ∧ complete? .captureRead channels (called events) = outcome.toOption.join := by
  induction channels generalizing events result with
  | nil =>
      obtain ⟨rfl, rfl⟩ := (traced_pure _ events result).mp traced
      exact ⟨.ok (some []), rfl, rfl⟩
  | cons channel rest ih =>
      obtain ⟨cancelled, checked, sizing, rfl⟩ := (traced_ask_bind .isCancelled _ events result).mp traced
      cases cancelled with
      | true =>
          obtain ⟨rfl, rfl⟩ := (traced_pure _ checked result).mp sizing
          exact ⟨.ok none, rfl, rfl⟩
      | false =>
          rcases (traced_api_bind _ _ checked result).mp sizing with ⟨length, sized, filling, rfl⟩ | ⟨code, rfl, rfl⟩
          · rcases (traced_api_bind _ _ sized result).mp filling with ⟨samples, tail, after, rfl⟩ | ⟨code, rfl, rfl⟩
            · have first := complete_cons .captureRead channel rest _ _ _
                (measured_trace channel length samples (called tail))
              exact others_complete .captureRead channel rest _ _ _ tail result ih first after
            · exact ⟨_, rfl, rfl⟩
          · exact ⟨_, rfl, rfl⟩

end Sequencer
end PulseAnalyzer
