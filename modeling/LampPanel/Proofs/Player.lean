import LampPanel.Proofs.Inbox
import LampPanel.Proofs.Panel.Step

/-!
# Playing without buffers

A player is the panel in normal mode as its users think of it: an inbox, the pattern that plays, its
cursor, and a plain count of samples.
-/

namespace LampPanel

structure Player where
  inbox : Inbox
  active : Pattern
  cursor : Cursor
  samples : Nat
deriving DecidableEq

namespace Player

def start : Player := ⟨.empty, .dark, .start, 0⟩

def begin (player : Player) : Player :=
  match player.inbox.pattern? with
  | some pattern =>
    { player with
      inbox := player.inbox.takeCompleted
      active := pattern
      cursor := { player.cursor with phase := .first, elapsed := 0 } }
  | none => player

def tick (player : Player) : Player :=
  let begun := player.begin
  { begun with cursor := begun.cursor.step begun.active }

/-- An event for a player that plays one tick for every `tickLength` samples. -/
def next (tickLength : Nat) (player : Player) : Event → Player
  | .receive byte => { player with inbox := player.inbox.receive byte }
  | .sample _ => { player with samples := min (player.samples + 1) 255 }
  | .poll =>
    if tickLength ≤ player.samples then
      { player with samples := player.samples - tickLength }.tick
    else player
  | .subframe | .take _ => player

def run (tickLength : Nat) (player : Player) (events : List Event) : Player :=
  events.foldl (next tickLength) player

@[simp] theorem run_cons (tickLength : Nat) (player : Player) (event : Event)
    (events : List Event) :
    player.run tickLength (event :: events) =
      (player.next tickLength event).run tickLength events := rfl

theorem run_append (tickLength : Nat) (player : Player) (before after : List Event) :
    player.run tickLength (before ++ after) =
      (player.run tickLength before).run tickLength after :=
  List.foldl_append

variable (player : Player)

theorem tick_eq :
    player.tick =
      { inbox := player.inbox.takeCompleted
        active := player.inbox.pattern?.getD player.active
        cursor := (if player.inbox.completed.isSome then player.cursor.rewind
          else player.cursor).step (player.inbox.pattern?.getD player.active)
        samples := player.samples } := by
  obtain ⟨⟨intake, completed⟩, active, cursor, samples⟩ := player
  cases completed <;> rfl

theorem inbox_next_cases (tickLength : Nat) (event : Event) :
    (∃ byte, event.byte? = some byte ∧
        (player.next tickLength event).inbox = player.inbox.receive byte) ∨
      event.byte? = none ∧
        ((player.next tickLength event).inbox = player.inbox ∨
          (player.next tickLength event).inbox = player.inbox.takeCompleted) := by
  cases event with
  | receive byte => exact .inl ⟨byte, rfl, rfl⟩
  | poll =>
    refine .inr ⟨rfl, ?_⟩
    rw [next]
    split
    · rw [tick_eq]
      exact .inr rfl
    · exact .inl rfl
  | subframe | sample _ | take _ => exact .inr ⟨rfl, .inl rfl⟩

end Player

namespace Panel

/-- A panel and the player that shows the same. -/
structure Tracks (settings : Settings) (panel : Panel) (player : Player) : Prop where
  setUp : panel.SetUp settings
  follows : Inbox.Follows panel.framing panel.buffer.view player.inbox
  pattern_eq : panel.buffer.pattern = player.active
  cursor_eq : panel.cursor = player.cursor
  duty_eq : panel.duty = player.cursor.duty
  samples_eq : panel.samples.toNat = player.samples

variable {settings : Settings} {panel : Panel} {player : Player}

theorem tracks_start (settings : Settings) : Tracks settings (start settings) .start where
  setUp := setUp_start settings
  follows := .empty []
  pattern_eq := rfl
  cursor_eq := rfl
  duty_eq := rfl
  samples_eq := rfl

private theorem Tracks.receive (h : Tracks settings panel player) (byte : UInt8) :
    Tracks settings (panel.receive byte) { player with inbox := player.inbox.receive byte } where
  setUp := h.setUp.next (.receive byte)
  follows := by
    have hfollows := h.follows.receive byte
    rw [← DoubleBuffer.view_accept] at hfollows
    exact hfollows
  pattern_eq := by
    rw [← h.pattern_eq]
    exact DoubleBuffer.pattern_accept panel.buffer byte _
  cursor_eq := h.cursor_eq
  duty_eq := h.duty_eq
  samples_eq := h.samples_eq

private theorem Tracks.sample (h : Tracks settings panel player) (raw : Buttons) :
    Tracks settings (panel.sample raw) { player with samples := min (player.samples + 1) 255 } where
  setUp := h.setUp.next (.sample raw)
  follows := h.follows
  pattern_eq := h.pattern_eq
  cursor_eq := h.cursor_eq
  duty_eq := h.duty_eq
  samples_eq := by rw [toNat_sample_samples, h.samples_eq]

private theorem Tracks.poll (h : Tracks settings panel player)
    (hnormal : panel.poll.watch.mode = .normal) :
    Tracks settings panel.poll (player.next (max settings.samplesPerTick.toNat 1) .poll) := by
  have hengages := not_engages_of_normal hnormal
  have hdue : panel.due = true ↔ max settings.samplesPerTick.toNat 1 ≤ player.samples := by
    rw [h.setUp.due_iff, h.samples_eq]
  cases hcase : panel.due with
  | false =>
    have hwait : ¬ max settings.samplesPerTick.toNat 1 ≤ player.samples := by
      rw [← hdue, hcase]
      exact Bool.false_ne_true
    rw [poll_of_waiting hengages hcase, Player.next, if_neg hwait]
    exact h
  | true =>
    have hcomplete : panel.buffer.complete = player.inbox.completed.isSome := h.follows.complete_eq
    have hpattern : panel.buffer.swap.1.pattern = player.inbox.pattern?.getD player.active := by
      have hswap := h.follows.pattern_swap
      rw [DoubleBuffer.view_pattern, h.pattern_eq] at hswap
      rw [← DoubleBuffer.view_pattern, DoubleBuffer.view_swap, hswap]
    have hcursor : (panel.cursor.tick panel.buffer).1 =
        (if player.inbox.completed.isSome then player.cursor.rewind else player.cursor).step
          (player.inbox.pattern?.getD player.active) := by
      rw [Cursor.tick_cursor, hpattern, hcomplete, h.cursor_eq]
    have hsamples := h.setUp.toNat_poll_samples
    rw [hcase, if_pos rfl, h.samples_eq] at hsamples
    have hsetUp := h.setUp.next .poll
    change panel.poll.SetUp settings at hsetUp
    rw [poll_of_due hengages hcase] at hsamples hsetUp ⊢
    rw [Player.next, if_pos (hdue.mp hcase), Player.tick_eq]
    refine ⟨hsetUp, ?_, hpattern, hcursor, congrArg Cursor.duty hcursor, hsamples⟩
    have hfollows := h.follows.swap
    rw [← DoubleBuffer.view_swap] at hfollows
    exact hfollows

theorem Tracks.next (h : Tracks settings panel player) {event : Event}
    (hnormal : (panel.next event).watch.mode = .normal) :
    Tracks settings (panel.next event)
      (player.next (max settings.samplesPerTick.toNat 1) event) := by
  cases event with
  | receive byte => exact h.receive byte
  | sample raw => exact h.sample raw
  | poll => exact h.poll hnormal
  | subframe =>
    exact ⟨h.setUp.next .subframe, h.follows, h.pattern_eq, h.cursor_eq, h.duty_eq, h.samples_eq⟩
  | take mask =>
    exact ⟨h.setUp.next (.take mask), h.follows, h.pattern_eq, h.cursor_eq, h.duty_eq,
      h.samples_eq⟩

theorem Tracks.run (h : Tracks settings panel player) {events : List Event}
    (hnormal : (panel.run events).watch.mode = .normal) :
    Tracks settings (panel.run events)
      (player.run (max settings.samplesPerTick.toNat 1) events) := by
  induction events generalizing panel player with
  | nil => exact h
  | cons event events ih =>
    have hnext : (panel.next event).watch.mode = .normal := normal_of_run hnormal
    exact ih (h.next hnext) hnormal

/-- Until the restart begins, nothing that shows of a panel tells it from a player. -/
theorem buffering_unobservable (settings : Settings) (events : List Event)
    (hnormal : ((start settings).run events).watch.mode = .normal) :
    let panel := (start settings).run events
    let tickLength := max settings.samplesPerTick.toNat 1
    let player := Player.start.run tickLength events
    panel.buffer.pattern = player.active ∧
      panel.buffer.complete = player.inbox.completed.isSome ∧
      panel.framing.isBoundary = player.inbox.intake.isIdle ∧
      panel.cursor = player.cursor ∧
      panel.duty = player.cursor.duty ∧
      panel.samples.toNat = player.samples ∧
      (panel.due = true ↔ tickLength ≤ player.samples) := by
  intro panel tickLength player
  have h : Tracks settings panel player := (tracks_start settings).run hnormal
  refine ⟨h.pattern_eq, h.follows.complete_eq, h.follows.isBoundary_eq, h.cursor_eq, h.duty_eq,
    h.samples_eq, ?_⟩
  rw [due_iff, h.setUp.settings_eq, h.samples_eq]

/-- A payload of two bytes, cut in half by a tick, gives way to one of eleven before it plays. -/
theorem buffering_unobservable_superseded :
    let samples := List.replicate 3 (Event.sample ∅)
    let events := [.receive 0x82, .receive 7] ++ samples ++ [.poll, .receive 9] ++
      [0x8B, 1, 2, 3, 4, 5, 6, 7, 8, 9, 10, 11].map Event.receive ++ samples ++ [.poll]
    let panel := (start .standard).run events
    panel.watch.mode = .normal ∧
      panel.buffer.pattern = .ofPayload [1, 2, 3, 4, 5, 6, 7, 8, 9, 10] ∧
      panel.buffer.complete = false ∧ panel.cursor = ⟨.first, 1, ⟨1, 2, 3⟩⟩ := by
  intro samples events panel
  have hnormal : panel.watch.mode = .normal := by decide
  obtain ⟨hpattern, hcomplete, _, hcursor, _⟩ := buffering_unobservable .standard events hnormal
  exact ⟨hnormal, hpattern.trans (by decide), hcomplete.trans (by decide),
    hcursor.trans (by decide)⟩

end Panel

open DoubleBuffer (View)

namespace Inbox

variable {view : View} {inbox : Inbox} {bytes : List UInt8}

theorem Follows.filling_inside {expected received : UInt8}
    (h : Follows (.inside expected received) view inbox) (hreads : inbox.Reads bytes) :
    view.complete = false ∧
      ∃ payload, (Grammar.cut bytes).ending = .collecting expected.toNat payload ∧
        payload.length = received.toNat ∧ view.filling = payload.take DoubleBuffer.capacity := by
  cases h with
  | @collecting playing _ _ payload hreceived hlt =>
    exact ⟨rfl, payload, hreads.intake_eq.symm, hreceived.symm, rfl⟩

theorem Follows.filling_boundary (h : Follows .boundary view inbox) (hreads : inbox.Reads bytes) :
    (Grammar.cut bytes).ending = .idle ∧
      (view.complete = true →
        ∃ payload, (Grammar.cut bytes).payloads.getLast? = some payload ∧
          view.filling = payload.take DoubleBuffer.capacity) ∧
      (view.complete = false → view.filling = []) := by
  cases h with
  | empty playing => exact ⟨hreads.intake_eq.symm, nofun, fun _ => rfl⟩
  | completed playing payload =>
    refine ⟨hreads.intake_eq.symm, ?_, nofun⟩
    intro _
    exact ⟨payload, hreads.completed_eq payload rfl, rfl⟩

end Inbox

namespace Player

variable {player : Player} {bytes : List UInt8}

theorem reads_next (h : player.inbox.Reads bytes) (tickLength : Nat) (event : Event) :
    (player.next tickLength event).inbox.Reads (bytes ++ event.byte?.toList) := by
  rcases player.inbox_next_cases tickLength event with
    ⟨byte, hbyte, hinbox⟩ | ⟨hnone, hkept | htaken⟩
  · rw [hbyte, hinbox]
    exact h.receive byte
  · rw [hnone, hkept, Option.toList_none, List.append_nil]
    exact h
  · rw [hnone, htaken, Option.toList_none, List.append_nil]
    exact h.takeCompleted

theorem reads_run (h : player.inbox.Reads bytes) (tickLength : Nat) (events : List Event) :
    (player.run tickLength events).inbox.Reads (bytes ++ events.filterMap Event.byte?) := by
  induction events generalizing player bytes with
  | nil =>
    rw [List.filterMap_nil, List.append_nil]
    exact h
  | cons event events ih =>
    have hbytes : (event :: events).filterMap Event.byte? =
        event.byte?.toList ++ events.filterMap Event.byte? := by cases event <;> rfl
    rw [hbytes, ← List.append_assoc]
    exact ih (reads_next h tickLength event)

end Player

namespace Panel

theorem normal_of_open {settings : Settings} {events : List Event}
    (hopen : ((start settings).run events).buffer.locked = false) :
    ((start settings).run events).watch.mode = .normal := by
  cases hmode : ((start settings).run events).watch.mode with
  | normal => rfl
  | restarting =>
    have hlocked := (locked_iff_restarting settings events).mpr hmode
    rw [hopen] at hlocked
    exact absurd hlocked Bool.false_ne_true

/-- While the buffer is open, its filled side holds the first ten bytes of the frame under way as
far as they have come, or between frames those of the last whole frame if it is still to be played.
-/
theorem filled_from_stream (settings : Settings) (events : List Event)
    (hopen : ((start settings).run events).buffer.locked = false) :
    let panel := (start settings).run events
    let sent := Grammar.cut (events.filterMap Event.byte?)
    (∀ expected received, panel.framing = .inside expected received →
        panel.buffer.complete = false ∧
          ∃ payload, sent.ending = .collecting expected.toNat payload ∧
            payload.length = received.toNat ∧ panel.buffer.filling = payload.take 10) ∧
      (panel.framing = .boundary →
        sent.ending = .idle ∧
          (panel.buffer.complete = true →
            ∃ payload, sent.payloads.getLast? = some payload ∧
              panel.buffer.filling = payload.take 10) ∧
          (panel.buffer.complete = false → panel.buffer.filling = [])) := by
  intro panel sent
  have htracks := (tracks_start settings).run (normal_of_open hopen)
  have hreads : Player.start.inbox.Reads [] := Inbox.reads_empty
  have hsent := Player.reads_run hreads (max settings.samplesPerTick.toNat 1) events
  constructor
  · intro expected received hinside
    have hfollows := htracks.follows
    rw [hinside] at hfollows
    exact hfollows.filling_inside hsent
  · intro hboundary
    have hfollows := htracks.follows
    rw [hboundary] at hfollows
    exact hfollows.filling_boundary hsent

/-- A payload waits through filler, an empty frame and a bad header. Of the twelve bytes of the next
frame eleven are sent. -/
theorem filled_from_stream_oversized :
    let waiting := [0x82, 7, 9, 0x00, 0x80, 0x95].map Event.receive
    let played := waiting ++ List.replicate 3 (.sample ∅) ++ [.poll]
    let payload : List UInt8 := [1, 2, 3, 4, 0x8A, 6, 7, 8, 9, 10, 11]
    let sending := played ++ (0x8C :: payload).map Event.receive
    let buffer events := ((start .standard).run events).buffer
    (buffer waiting).filling = [7, 9] ∧ (buffer played).filling = [] ∧
      (buffer sending).locked = false ∧ (buffer sending).filling = payload.take 10 := by
  intro waiting played payload sending buffer
  have hwaiting : Grammar.cut (waiting.filterMap Event.byte?) = ⟨[[7, 9]], .idle⟩ := by
    decide +kernel
  have hsending : Grammar.cut (sending.filterMap Event.byte?) =
      ⟨[[7, 9]], .collecting 12 payload⟩ := by decide +kernel
  have hopen : (buffer sending).locked = false := by decide
  refine ⟨?_, ?_, hopen, ?_⟩
  · obtain ⟨-, hboundary⟩ := filled_from_stream .standard waiting (by decide)
    obtain ⟨-, hcomplete, -⟩ := hboundary (by decide)
    obtain ⟨last, hlast, hfilling⟩ := hcomplete (by decide)
    rw [hwaiting] at hlast
    obtain rfl : [7, 9] = last := Option.some.inj hlast
    exact hfilling
  · obtain ⟨-, hboundary⟩ := filled_from_stream .standard played (by decide)
    obtain ⟨-, -, hnothing⟩ := hboundary (by decide)
    exact hnothing (by decide)
  · obtain ⟨hinside, -⟩ := filled_from_stream .standard sending hopen
    obtain ⟨-, sofar, hending, -, hfilling⟩ := hinside 12 11 (by decide)
    rw [hsending] at hending
    obtain ⟨-, rfl⟩ := Intake.collecting.inj hending
    exact hfilling

end Panel

end LampPanel
