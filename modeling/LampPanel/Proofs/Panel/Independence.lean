import LampPanel.Proofs.Keypad
import LampPanel.Proofs.Panel.Step

/-!
# Events that do not matter

Samples and polls drive the buttons, the count of samples and the watch; nothing else reaches them.
Bytes that are answered as filler, empty frames or bad headers reach nothing at all.
-/

namespace LampPanel

/-- Samples and polls, the events that drive the clockwork. -/
def Event.isTimed : Event → Bool
  | .sample _ | .poll => true
  | .subframe | .receive _ | .take _ => false

def Output.load? : Output → Option UInt8
  | .load status => some status
  | .setPins _ | .answer _ | .enableRestartLines | .armWatchdog _ | .polled _ | .presses _ => none

namespace Panel

/-- What was done and answered at each sample and poll of a run, with the buttons held and the mode
after it. -/
def timedTrace (panel : Panel) : List Event → List (List Output × Buttons × Mode)
  | [] => []
  | event :: events =>
    let after := panel.next event
    if event.isTimed then
      (panel.emit event, after.keypad.held, after.watch.mode) :: after.timedTrace events
    else after.timedTrace events

/-- Two panels that differ at most in pending presses, in what came from the host, and in the lamp.
-/
structure SameClockwork (left right : Panel) : Prop where
  settings_eq : left.settings = right.settings
  keypad_eq : left.keypad.unpressed = right.keypad.unpressed
  watch_eq : left.watch = right.watch
  samples_eq : left.samples = right.samples

namespace SameClockwork

variable {left right : Panel}

theorem refl (panel : Panel) : SameClockwork panel panel := ⟨rfl, rfl, rfl, rfl⟩

theorem held_eq (h : SameClockwork left right) : left.keypad.held = right.keypad.held := by
  rw [← Keypad.held_unpressed, h.keypad_eq, Keypad.held_unpressed]

theorem engages_eq (h : SameClockwork left right) : left.engages = right.engages := by
  rw [engages, engages, h.watch_eq, h.held_eq]

theorem samplesPerTick_eq (h : SameClockwork left right) :
    left.samplesPerTick = right.samplesPerTick := by
  rw [samplesPerTick, samplesPerTick, h.settings_eq]

theorem due_eq (h : SameClockwork left right) : left.due = right.due := by
  rw [due, due, h.samplesPerTick_eq, h.samples_eq]

theorem sample (h : SameClockwork left right) (raw : Buttons) :
    SameClockwork (left.sample raw) (right.sample raw) where
  settings_eq := h.settings_eq
  keypad_eq := by
    change (left.keypad.sample raw).unpressed = (right.keypad.sample raw).unpressed
    rw [Keypad.unpressed_sample, h.keypad_eq, ← Keypad.unpressed_sample]
  watch_eq := h.watch_eq
  samples_eq := congrArg TickCount.succ h.samples_eq

theorem poll (h : SameClockwork left right) : SameClockwork left.poll right.poll where
  settings_eq := by rw [poll_eq, poll_eq, h.settings_eq]
  keypad_eq := by rw [poll_eq, poll_eq, h.keypad_eq]
  watch_eq := by
    have hengages := h.engages_eq
    cases hright : right.engages with
    | true =>
      rw [hright] at hengages
      rw [poll_watch_of_engages hengages, poll_watch_of_engages hright, h.watch_eq]
    | false =>
      rw [hright] at hengages
      rw [poll_watch_of_not_engages hengages, poll_watch_of_not_engages hright, h.watch_eq]
  samples_eq := by rw [poll_eq, poll_eq, h.due_eq, h.samples_eq, h.samplesPerTick_eq]

theorem next (h : SameClockwork left right) {event : Event} (htimed : event.isTimed = true) :
    SameClockwork (left.next event) (right.next event) := by
  cases event with
  | sample raw => exact h.sample raw
  | poll => exact h.poll
  | subframe | receive _ | take _ => exact absurd htimed Bool.false_ne_true

theorem next_left (h : SameClockwork left right) {event : Event} (huntimed : event.isTimed ≠ true) :
    SameClockwork (left.next event) right := by
  cases event with
  | sample _ | poll => exact absurd rfl huntimed
  | take mask =>
    have hkeypad := Keypad.unpressed_take left.keypad mask
    exact ⟨h.settings_eq, hkeypad.trans h.keypad_eq, h.watch_eq, h.samples_eq⟩
  | subframe | receive _ => exact ⟨h.settings_eq, h.keypad_eq, h.watch_eq, h.samples_eq⟩

theorem emit_eq (h : SameClockwork left right) {event : Event} (htimed : event.isTimed = true) :
    left.emit event = right.emit event := by
  cases event with
  | sample raw => rfl
  | poll =>
    have houtcome : left.outcome = right.outcome := by
      rw [outcome, outcome, h.poll.watch_eq, h.due_eq]
    rw [emit, emit, h.engages_eq, h.settings_eq, houtcome]
  | subframe | receive _ | take _ => exact absurd htimed Bool.false_ne_true

theorem run_filter (h : SameClockwork left right) (events : List Event) :
    SameClockwork (left.run events) (right.run (events.filter Event.isTimed)) := by
  induction events generalizing left right with
  | nil => exact h
  | cons event events ih =>
    by_cases htimed : event.isTimed = true
    · rw [List.filter_cons_of_pos htimed]
      exact ih (h.next htimed)
    · rw [List.filter_cons_of_neg htimed]
      exact ih (h.next_left htimed)

theorem timedTrace_filter (h : SameClockwork left right) (events : List Event) :
    left.timedTrace events = right.timedTrace (events.filter Event.isTimed) := by
  induction events generalizing left right with
  | nil => rfl
  | cons event events ih =>
    by_cases htimed : event.isTimed = true
    · have hnext := h.next htimed
      rw [List.filter_cons_of_pos htimed, timedTrace, timedTrace, if_pos htimed, if_pos htimed,
        h.emit_eq htimed, hnext.held_eq, hnext.watch_eq, ih hnext]
    · rw [List.filter_cons_of_neg htimed, timedTrace, if_neg htimed]
      exact ih (h.next_left htimed)

end SameClockwork

/-- Two runs with the same samples and polls agree on what every poll does and answers, on the
buttons and on the mode. Each byte from the host makes one load, of the buttons held. -/
theorem host_out_of_reach (settings : Settings) {left right : List Event}
    (h : left.filter Event.isTimed = right.filter Event.isTimed) :
    let final := (start settings).run
    (start settings).timedTrace left = (start settings).timedTrace right ∧
      (final left).keypad.held = (final right).keypad.held ∧
      (final left).watch.mode = (final right).watch.mode ∧
      ∀ (events : List Event) (byte : UInt8), ∃ status : UInt8,
        ((final events).emit (.receive byte)).filterMap Output.load? = [status] ∧
          Buttons.ofByte status = (final events).keypad.held ∧ status.toNat < 16 := by
  intro final
  have hsame : SameClockwork (start settings) (start settings) := .refl _
  have hleft := hsame.run_filter left
  have hright := hsame.run_filter right
  refine ⟨?_, ?_, ?_, ?_⟩
  · rw [hsame.timedTrace_filter left, h, ← hsame.timedTrace_filter right]
  · rw [hleft.held_eq, h, ← hright.held_eq]
  · rw [hleft.watch_eq, h, ← hright.watch_eq]
  · intro events byte
    exact ⟨(final events).status, rfl, Buttons.ofByte_statusByte _, Buttons.statusByte_lt _⟩

/-- A frame cut in two, a subframe and a taking around the chord, and a byte after it. -/
theorem host_out_of_reach_chord :
    let chord := Settings.standard.chord
    let left := [Event.receive 0x82, .sample chord, .receive 7, .subframe, .sample chord, .take .all,
      .poll, .receive 9, .poll]
    let right := [Event.sample chord, .sample chord, .poll, .poll]
    left.filter Event.isTimed = right.filter Event.isTimed ∧
      (start .standard).timedTrace left = (start .standard).timedTrace right ∧
      ((start .standard).run left).watch.mode = .restarting := by
  intro chord left right
  have htimed : left.filter Event.isTimed = right.filter Event.isTimed := by decide
  obtain ⟨htrace, _, hmode, _⟩ := host_out_of_reach .standard htimed
  have hright : ((start .standard).run right).watch.mode = .restarting := by decide
  exact ⟨htimed, htrace, hmode.trans hright⟩

end Panel

/-- Whether the byte answered so was passed over. -/
def Answer.isInert : Answer → Bool
  | .ok .filler | .ok .emptyFrame | .error _ => true
  | .ok (.header _) | .ok (.payload _) | .ok .complete => false

/-- The entries of a list without those at the struck positions. -/
def strike {α : Type} (struck : Nat → Bool) : List α → List α
  | [] => []
  | entry :: entries =>
    let rest := strike (fun i => struck (i + 1)) entries
    if struck 0 then rest else entry :: rest

theorem Framing.next_of_isInert {framing : Framing} {byte : UInt8}
    (h : (framing.answer byte).isInert = true) : framing.next byte = framing := by
  cases framing with
  | boundary =>
    rw [answer] at h
    rw [next]
    split
    · next length hclass =>
      rw [hclass] at h
      exact absurd h Bool.false_ne_true
    · rfl
  | inside expected received =>
    rw [answer] at h
    split at h
    · exact absurd h Bool.false_ne_true
    · exact absurd h Bool.false_ne_true

theorem DoubleBuffer.accept_of_isInert (buffer : DoubleBuffer) (byte : UInt8) {reply : Answer}
    (h : reply.isInert = true) : buffer.accept byte reply = buffer := by
  match reply with
  | .ok .filler | .ok .emptyFrame | .error _ => rfl
  | .ok (.header _) | .ok (.payload _) | .ok .complete => exact absurd h Bool.false_ne_true

namespace Panel

theorem receive_of_isInert {panel : Panel} {byte : UInt8}
    (h : (panel.answer byte).isInert = true) : panel.receive byte = panel := by
  have hframing : panel.framing.next byte = panel.framing := Framing.next_of_isInert h
  have hbuffer : panel.buffer.accept byte (panel.framing.answer byte) = panel.buffer :=
    DoubleBuffer.accept_of_isInert panel.buffer byte h
  rw [receive, Framing.receive, hframing, hbuffer]

def passesOver (panel : Panel) : Event → Bool
  | .receive byte => (panel.answer byte).isInert
  | .subframe | .sample _ | .poll | .take _ => false

theorem next_of_passesOver {panel : Panel} {event : Event}
    (h : panel.passesOver event = true) : panel.next event = panel := by
  cases event with
  | receive byte => exact receive_of_isInert h
  | subframe | sample _ | poll | take _ => exact absurd h Bool.false_ne_true

theorem run_strike {panel : Panel} {struck : Nat → Bool} {events : List Event}
    (hstruck : ∀ i (hi : i < events.length), struck i = true →
      (panel.run (events.take i)).passesOver events[i] = true) :
    panel.run (strike struck events) = panel.run events ∧
      panel.emits (strike struck events) = strike struck (panel.emits events) := by
  induction events generalizing panel struck with
  | nil => exact ⟨rfl, rfl⟩
  | cons event events ih =>
    have hlater : ∀ i (hi : i < events.length), struck (i + 1) = true →
        ((panel.next event).run (events.take i)).passesOver events[i] = true := by
      intro i hi hstrikes
      exact hstruck (i + 1) (Nat.succ_lt_succ hi) hstrikes
    obtain ⟨hrun, hemits⟩ := ih hlater
    rw [strike, emits, strike, run_cons]
    by_cases hfirst : struck 0 = true
    · have hnext : panel.next event = panel :=
        next_of_passesOver (hstruck 0 (Nat.zero_lt_succ _) hfirst)
      rw [hnext] at hrun hemits ⊢
      simp only [if_pos hfirst]
      exact ⟨hrun, hemits⟩
    · simp only [if_neg hfirst, run_cons, emits]
      rw [hrun, hemits]
      exact ⟨rfl, rfl⟩

/-- Of the bytes answered as filler, as an empty frame or as a bad header any may be struck from a
run: every other event does what it did before, and the panel at the end is the same. -/
theorem inert_bytes_erasable (settings : Settings) {struck : Nat → Bool} {events : List Event}
    (hstruck : ∀ i (hi : i < events.length), struck i = true →
      ((start settings).run (events.take i)).passesOver events[i] = true) :
    (start settings).run (strike struck events) = (start settings).run events ∧
      (start settings).emits (strike struck events) = strike struck ((start settings).emits events) ∧
      ∀ (before : List Event) (byte : UInt8) (error : FramingError),
        ((start settings).run before).answer byte = .error error →
          (start settings).run (before ++ [.receive byte]) = (start settings).run before := by
  obtain ⟨hrun, hemits⟩ := run_strike hstruck
  refine ⟨hrun, hemits, ?_⟩
  intro before byte error herror
  rw [run_append]
  apply receive_of_isInert
  rw [herror]
  rfl

/-- Of the bytes `0x95` only those between frames are struck, one of them before a payload that
waits is swapped in. -/
theorem inert_bytes_erasable_waiting :
    let events := [Event.receive 0x95, .receive 0x82, .receive 0x95, .receive 0x00, .receive 0x95,
      .sample ∅, .receive 0x80, .sample ∅, .sample ∅, .receive 0x03, .poll, .subframe]
    let struck := fun i => [0, 4, 6, 9].contains i
    let kept := [Event.receive 0x82, .receive 0x95, .receive 0x00, .sample ∅, .sample ∅, .sample ∅,
      .poll, .subframe]
    ((start .standard).run (events.take 4)).buffer.complete = true ∧
      ((start .standard).run (events.take 4)).answer 0x95 = .error (.badHeader 0x95) ∧
      strike struck events = kept ∧
      (start .standard).run kept = (start .standard).run events ∧
      (start .standard).emits kept = strike struck ((start .standard).emits events) := by
  intro events struck kept
  have hstruck : ∀ i (hi : i < events.length), struck i = true →
      ((start .standard).run (events.take i)).passesOver events[i] = true := by decide
  have hkept : strike struck events = kept := by decide
  obtain ⟨hrun, hemits, _⟩ := inert_bytes_erasable .standard hstruck
  rw [hkept] at hrun hemits
  exact ⟨by decide, by decide, hkept, hrun, hemits⟩

end Panel

end LampPanel
