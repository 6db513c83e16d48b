import PulseAnalyzer.Proofs.Run.SnapshotsHandedOut

set_option autoImplicit false

namespace PulseAnalyzer
namespace Sequencer
open Procedure

structure Accounts (channels : List Nat) (events : List Event) (result : Option (Except Fault Summary)) :
    Prop where
  handed : emitted events = (readOuts channels events).flatten
  counted : ∀ summary, result = some (.ok summary) → summary.records = (emitted events).length

theorem accounts_plain (channels : List Nat) (events : List Event) (result : Option (Except Fault Summary))
    (plain : Plain events) (unrecorded : ∀ summary, result = some (.ok summary) → summary.records = 0) :
    Accounts channels events result ∧ readOuts channels events = [] := by
  have unread : readOuts channels events = [] := by
    have whole := read_outs_undivided channels events [] (plain_undivided events plain)
    rw [List.append_nil] at whole
    exact whole
  have silent := plain_emitted events plain
  refine ⟨⟨?_, fun summary ended => ?_⟩, unread⟩
  · rw [silent, unread]
    rfl
  · rw [silent]
    exact unrecorded summary ended

-- With channels to read there is no read-out without calls.
theorem read_out_of_none (channels : List Nat) (listed : channels ≠ []) (opener : Event) :
    readOut? channels (opener, []) = none := by
  unfold readOut?
  split
  · cases channels with
    | nil => exact absurd rfl listed
    | cons channel rest => rfl
  · rfl

theorem start_plain (s : Sequencer) (resume : Bool) : Plain (s.startEvents resume) := by
  refine plain_of_parts [.check, .start, .phase] _ ?_ (by decide)
  simp [startEvents, Event.part, Request.part, Acquisition.Call.part]

theorem stop_section (s : Sequencer) (opening during tail : List Event) (answer : Except Int Unit)
    (plain : Plain opening) (undivided : Undivided tail) :
    readOuts s.channels (opening ++ during ++ s.stopEvents answer ++ tail) =
        readOuts s.channels during ++
          (readOut? s.channels (⟨.api (.stopRun s.target), answer⟩, called tail)).toList ∧
      emitted (opening ++ during ++ s.stopEvents answer ++ tail) = emitted during ++ emitted tail := by
  have divides : Divides (s.stopEvents answer ++ tail) := by
    intro e rest asked
    obtain ⟨rfl, -⟩ := List.cons.inj asked
    rfl
  constructor
  · have closing := read_outs_last s.channels ⟨.api (.stopRun s.target), answer⟩ tail rfl undivided
    rw [List.append_assoc, List.append_assoc,
      read_outs_undivided s.channels opening _ (plain_undivided opening plain),
      read_outs_append s.channels during _ divides, ← closing]
    rfl
  · rw [List.append_assoc, List.append_assoc, emitted_append, emitted_append,
      plain_emitted opening plain, List.nil_append]
    rfl

theorem settled_ok {α : Type} (outcome : Except Fault α) (answer : Except Int Unit) (value : α)
    (fine : settled outcome answer = .ok value) : outcome = .ok value ∧ answer = .ok () := by
  cases outcome with
  | error fault => cases fine
  | ok found =>
      cases answer with
      | error code => cases fine
      | ok _ =>
          cases fine
          exact ⟨rfl, rfl⟩

-- The read-outs of a started run are those of its body and at most one after the stop.
def ReadsLast {α : Type} (s : Sequencer) (body : Procedure α) (events : List Event) : Prop :=
  ∃ during last, (during = [] ∨ ∃ outcome, body.Traced during outcome) ∧
    readOuts s.channels events = readOuts s.channels during ++ Option.toList last

theorem unread_accounts {α : Type} (s : Sequencer) (body : Procedure α) (events : List Event)
    (result : Option (Except Fault Summary)) (plain : Plain events)
    (silent : ∀ summary, result = some (.ok summary) → summary.records = 0) :
    Accounts s.channels events result ∧ ReadsLast s body events := by
  obtain ⟨accounts, unread⟩ := accounts_plain s.channels events result plain silent
  exact ⟨accounts, [], none, .inl rfl, unread⟩

theorem spent_accounts {α : Type} (s : Sequencer) (body : Procedure α) (opening during : List Event) (plain : Plain opening)
    (ran : body.Traced during none) (handed : emitted during = (readOuts s.channels during).flatten) :
    Accounts s.channels (opening ++ during) none ∧ ReadsLast s body (opening ++ during) := by
  have whole := read_outs_undivided s.channels opening during (plain_undivided opening plain)
  refine ⟨⟨?_, nofun⟩, during, none, .inr ⟨none, ran⟩, ?_⟩
  · rw [emitted_append, plain_emitted opening plain, whole]
    exact handed
  · rw [whole]
    exact (List.append_nil _).symm

theorem stopped_accounts {α : Type} (s : Sequencer) (body : Procedure α) (opening during tail : List Event)
    (answer : Except Int Unit) (outcome : Except Fault α) (result : Option (Except Fault Summary)) (plain : Plain opening)
    (undivided : Undivided tail) (ran : body.Traced during (some outcome))
    (handed : emitted during = (readOuts s.channels during).flatten)
    (emits : emitted tail = (readOut? s.channels (⟨.api (.stopRun s.target), answer⟩, called tail)).toList.flatten)
    (counts : ∀ summary, result = some (.ok summary) → summary.records = (emitted during).length + (emitted tail).length) :
    Accounts s.channels (opening ++ during ++ s.stopEvents answer ++ tail) result ∧
      ReadsLast s body (opening ++ during ++ s.stopEvents answer ++ tail) := by
  obtain ⟨found, told⟩ := stop_section s opening during tail answer plain undivided
  refine ⟨⟨?_, fun summary ended => ?_⟩, during, _, .inr ⟨_, ran⟩, found⟩
  · rw [told, found, List.flatten_append, handed, emits]
  · rw [told, List.length_append]
    exact counts summary ended

theorem measured_accounts {α : Type} (s : Sequencer) (lead : Procedure Unit) (resume : Bool)
    (body : Procedure α) (rest : α → Procedure Summary) (events : List Event)
    (result : Option (Except Fault Summary)) (listed : s.channels ≠ [])
    (leads : ∀ before outcome, lead.Traced before outcome → Plain before)
    (runs : ∀ during outcome, body.Traced during outcome →
      emitted during = (readOuts s.channels during).flatten)
    (reads : ∀ value tail result, (rest value).Traced tail result → Undivided tail ∧
      emitted tail = (readOut? s.channels (.success (.stopRun s.target) (), called tail)).toList.flatten)
    (counts : ∀ during tail value summary, body.Traced during (some (.ok value)) →
      (rest value).Traced tail (some (.ok summary)) →
      summary.records = (emitted during).length + (emitted tail).length)
    (measured : Measured s lead resume body rest events result) :
    Accounts s.channels events result ∧ ReadsLast s body events := by
  have opened : ∀ before outcome, lead.Traced before outcome → Plain (before ++ s.startEvents resume) :=
    fun before outcome traced => plain_append before _ (leads before outcome traced) (start_plain s resume)
  cases measured with
  | unled _ traced => exact unread_accounts s body events _ (leads events _ traced) fun _ ended => by cases ended
  | misled _ fault traced => exact unread_accounts s body events _ (leads events _ traced) fun _ ended => by cases ended
  | cancelled before traced =>
      have checked : Plain [.checked true] := plain_of_parts [.check] _ (by simp [Event.part, Request.part]) (by decide)
      refine unread_accounts s body _ _ (plain_append before _ (leads before _ traced) checked) ?_
      intro summary ended
      cases ended
      rfl
  | refused before code traced =>
      have asked : Plain [.checked false, .failure (.startRun s.target resume) code] :=
        plain_of_parts [.check, .start] _ (by simp [Event.part, Request.part, Acquisition.Call.part]) (by decide)
      exact unread_accounts s body _ _ (plain_append before _ (leads before _ traced) asked) fun _ ended => by cases ended
  | spent before during traced ran => exact spent_accounts s body _ during (opened before _ traced) ran (runs during _ ran)
  | faulty before during outcome answer fault traced ran fails =>
      have unread : readOut? s.channels (⟨.api (.stopRun s.target), answer⟩, called []) = none :=
        read_out_of_none s.channels listed _
      have accounts := stopped_accounts s body _ during [] answer outcome (some (.error fault)) (opened before _ traced)
        (plain_undivided [] plain_nil) ran (runs during _ ran) (by rw [unread]; rfl) fun _ ended => by cases ended
      rwa [List.append_nil] at accounts
  | stopped before during tail outcome answer value _ traced ran fine read =>
      obtain ⟨rfl, rfl⟩ := settled_ok outcome answer value fine
      obtain ⟨undivided, emits⟩ := reads value tail result read
      refine stopped_accounts s body _ during tail (.ok ()) _ result (opened before _ traced) undivided ran
        (runs during _ ran) emits fun summary ended => ?_
      subst ended
      exact counts during tail value summary ran read

theorem undivided_append (a b : List Event) (first : Undivided a) (second : Undivided b) :
    Undivided (a ++ b) :=
  List.forall_mem_append.mpr ⟨first, second⟩

theorem read_spectra_accounts (s : Sequencer) (outcome : Outcome) (events : List Event)
    (result : Option (Except Fault Summary))
    (traced : Traced (do
      let measurements ← readSpectra s.channels
      emitAll measurements
      return (⟨outcome, measurements.length⟩ : Summary)) events result) :
    Undivided events ∧
    emitted events = (readOut? s.channels (.success (.stopRun s.target) (), called events)).toList.flatten ∧
    ∀ summary, result = some (.ok summary) → summary.records = (emitted events).length := by
  rcases (traced_bind _ _ events result).mp traced with
    ⟨measurements, reads, after, read, emitting, rfl⟩ | ⟨fault, failed, rfl⟩ | ⟨stuck, rfl⟩
  · have plain := read_spectra_plain s.channels reads _ read
    obtain ⟨_, same, complete⟩ := read_spectra_complete s.channels reads _ read
    cases same
    rcases (traced_bind _ _ after result).mp emitting with
      ⟨_, emits, last, handed, ended, rfl⟩ | ⟨fault, failed, rfl⟩ | ⟨stuck, rfl⟩
    · obtain ⟨rfl, -⟩ := emit_all_traced measurements emits _ handed
      obtain ⟨rfl, rfl⟩ := (traced_pure _ last result).mp ended
      have handedOut : emitted (reads ++ (emissions measurements ++ [])) = measurements := by
        rw [List.append_nil, emitted_append, plain_emitted reads plain, emissions_emitted, List.nil_append]
      have asked : called (reads ++ (emissions measurements ++ [])) = called reads := by
        rw [List.append_nil, called_append, emissions_called, List.append_nil]
      have found : readOut? s.channels (.success (.stopRun s.target) (), called reads) = some measurements :=
        complete
      refine ⟨?_, ?_, fun summary ended => ?_⟩
      · rw [List.append_nil]
        exact undivided_append _ _ (plain_undivided reads plain) (emissions_undivided measurements)
      · rw [handedOut, asked, found]
        exact (List.append_nil measurements).symm
      · rw [handedOut]
        cases ended
        rfl
    · obtain ⟨-, impossible⟩ := emit_all_traced measurements after _ failed
      cases impossible
    · obtain ⟨-, impossible⟩ := emit_all_traced measurements after _ stuck
      cases impossible
  · have plain := read_spectra_plain s.channels events _ failed
    obtain ⟨_, same, complete⟩ := read_spectra_complete s.channels events _ failed
    cases same
    have cut : readOut? s.channels (.success (.stopRun s.target) (), called events) = none := complete
    refine ⟨plain_undivided events plain, ?_, nofun⟩
    rw [plain_emitted events plain, cut]
    rfl
  · obtain ⟨_, impossible, -⟩ := read_spectra_complete s.channels events _ stuck
    cases impossible

theorem option_list_length {α : Type} (found : Option α) : found.toList.length ≤ 1 := by
  cases found with
  | none => exact Nat.zero_le 1
  | some value => exact Nat.le_refl 1

theorem bounded_accounts (s : Sequencer) (first budget : Nat) (plan : BoundedPlan) (events : List Event)
    (result : Option (Except Fault Summary)) (listed : s.channels ≠ [])
    (traced : (s.bounded first budget plan).Traced events result) :
    Accounts s.channels events result ∧ (readOuts s.channels events).length ≤ 1 := by
  have quiet : ∀ during outcome, Traced (do poll first budget (← ticker pollInterval)) during outcome →
      emitted during = [] ∧ readOuts s.channels during = [] := by
    intro during outcome ran
    have plain := plain_of_parts _ during (polling_steady first budget during outcome ran).1 (by decide)
    exact ⟨plain_emitted during plain, (accounts_plain s.channels during none plain nofun).2⟩
  have whole := measured_accounts s _ plan.resume _ _ events result listed (configure_plain _ s.channels)
    (fun during outcome ran => by
      obtain ⟨silent, unread⟩ := quiet during outcome ran
      rw [silent, unread, List.flatten_nil])
    (fun outcome tail ended read => by
      obtain ⟨undivided, handed, -⟩ := read_spectra_accounts s outcome tail ended read
      exact ⟨undivided, handed⟩)
    (fun during tail outcome summary ran read => by
      obtain ⟨-, -, counted⟩ := read_spectra_accounts s outcome tail _ read
      rw [(quiet during _ ran).1, counted summary rfl, List.length_nil, Nat.zero_add])
    (bounded_measured s first budget plan events result traced)
  obtain ⟨accounts, during, last, ran, found⟩ := whole
  refine ⟨accounts, ?_⟩
  have nothing : readOuts s.channels during = [] := by
    rcases ran with rfl | ⟨outcome, ran⟩
    · rfl
    · exact (quiet during outcome ran).2
  rw [found, nothing]
  exact option_list_length last

theorem snapshots_accounts (s : Sequencer) (budget : Nat) (plan : SnapshotPlan) (events : List Event)
    (result : Option (Except Fault Summary)) (listed : s.channels ≠ [])
    (traced : (s.snapshots budget plan).Traced events result) : Accounts s.channels events result := by
  have loops : ∀ during outcome,
      Traced (do s.takeSnapshots plan.clear budget (← ticker plan.period) 0) during outcome →
      emitted during = (readOuts s.channels during).flatten ∧
      ∀ n, outcome = some (.ok n) → n = (emitted during).length := by
    intro during outcome ran
    rcases (traced_bind _ _ during outcome).mp ran with
      ⟨ticking, head, tail, begun, taking, rfl⟩ | ⟨fault, failed, rfl⟩ | ⟨stuck, rfl⟩
    · have plain := ticker_plain plan.period head _ begun
      obtain ⟨hands, counted⟩ := take_snapshots_hands_out s plan.clear budget ticking 0 tail outcome taking
      rw [emitted_append, plain_emitted head plain, List.nil_append,
        read_outs_undivided s.channels head tail (plain_undivided head plain)]
      exact ⟨hands.same, fun n ended => (counted n ended).trans (Nat.zero_add _)⟩
    · have plain := ticker_plain plan.period during _ failed
      exact ⟨(accounts_plain s.channels during none plain nofun).1.handed, nofun⟩
    · have plain := ticker_plain plan.period during _ stuck
      exact ⟨(accounts_plain s.channels during none plain nofun).1.handed, nofun⟩
  have whole := measured_accounts s _ false _ _ events result listed (configure_plain _ s.channels)
    (fun during outcome ran => (loops during outcome ran).1)
    (fun records tail ended read => by
      obtain ⟨rfl, -⟩ := (traced_pure _ tail ended).mp read
      have cut : readOut? s.channels (.success (.stopRun s.target) (), called []) = none :=
        read_out_of_none s.channels listed _
      rw [cut]
      exact ⟨nofun, rfl⟩)
    (fun during tail records summary ran read => by
      obtain ⟨rfl, same⟩ := (traced_pure _ tail _).mp read
      cases same
      exact (loops during _ ran).2 records rfl)
    (snapshots_measured s budget plan events result traced)
  exact whole.1

end Sequencer
end PulseAnalyzer
