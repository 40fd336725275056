import LampPanel.Proofs.Cursor.Fading
import LampPanel.Proofs.Modulator
import LampPanel.Proofs.Player

/-!
# What the lamp shows

Only subframes set the pins, so what a run shows follows from the duties at its subframes.
-/

namespace LampPanel

def Output.pins? : Output → Option Pins
  | .setPins pins => some pins
  | .load _ | .answer _ | .enableRestartLines | .armWatchdog _ | .polled _ | .presses _ => none

namespace Panel

def pinsSet (panel : Panel) (events : List Event) : List Pins :=
  (panel.emits events).flatten.filterMap Output.pins?

def duties (panel : Panel) : List Event → List Rgb
  | [] => []
  | event :: events =>
    (if event = .subframe then [panel.duty] else []) ++ (panel.next event).duties events

theorem modulator_next (panel : Panel) (event : Event) :
    (panel.next event).modulator =
      if event = .subframe then panel.modulator.advance else panel.modulator := by
  cases event with
  | subframe => rfl
  | poll =>
    have hpoll : panel.poll.modulator = panel.modulator := by rw [poll_eq]
    exact hpoll
  | sample _ | receive _ | take _ => rfl

theorem filterMap_pins_emit (panel : Panel) (event : Event) :
    (panel.emit event).filterMap Output.pins? =
      if event = .subframe then [panel.pins] else [] := by
  cases event with
  | poll =>
    rw [emit]
    cases panel.engages <;> rfl
  | subframe | sample _ | receive _ | take _ => rfl

theorem pinsSet_cons (panel : Panel) (event : Event) (events : List Event) :
    panel.pinsSet (event :: events) =
      (if event = .subframe then [panel.pins] else []) ++ (panel.next event).pinsSet events := by
  rw [pinsSet, emits, List.flatten_cons, List.filterMap_append, filterMap_pins_emit]
  rfl

/-- The pins are those that the modulator renders for the duties. -/
theorem pinsSet_eq (panel : Panel) (events : List Event) :
    panel.pinsSet events = panel.modulator.render (panel.duties events) := by
  induction events generalizing panel with
  | nil => rfl
  | cons event events ih =>
    rw [pinsSet_cons, duties, ih, modulator_next]
    split
    · rfl
    · rfl

theorem duties_of_steady {panel : Panel} {events : List Event} {duty : Rgb}
    (hsteady : ∀ before after, events = before ++ after → (panel.run before).duty = duty) :
    panel.duties events = List.replicate (events.count .subframe) duty := by
  induction events generalizing panel with
  | nil => rfl
  | cons event events ih =>
    have hnow : panel.duty = duty := hsteady [] _ rfl
    have hlater : (panel.next event).duties events =
        List.replicate (events.count .subframe) duty := by
      apply ih
      rintro before after rfl
      exact hsteady (event :: before) after rfl
    rw [duties, hnow, hlater]
    by_cases hsubframe : event = .subframe
    · rw [if_pos hsubframe, hsubframe, List.count_cons_self]
      rfl
    · rw [if_neg hsubframe, List.count_cons_of_ne hsubframe]
      rfl

theorem ticked_start (settings : Settings) : (start settings).modulator.Ticked 0 :=
  Modulator.ticked_start settings.subframes

theorem ticked_run {panel : Panel} {ticks : Nat} (h : panel.modulator.Ticked ticks)
    (events : List Event) :
    (panel.run events).modulator.Ticked (ticks + events.count .subframe) ∧
      (panel.run events).modulator.period = panel.modulator.period := by
  induction events generalizing panel ticks with
  | nil => exact ⟨h, rfl⟩
  | cons event events ih =>
    have hnext := modulator_next panel event
    by_cases hsubframe : event = .subframe
    · subst hsubframe
      rw [if_pos rfl] at hnext
      have hticked : (panel.next .subframe).modulator.Ticked (ticks + 1) := hnext ▸ h.advance
      obtain ⟨hlater, hperiod⟩ := ih hticked
      rw [List.count_cons_self, Nat.add_comm _ 1, ← Nat.add_assoc]
      exact ⟨hlater, hperiod⟩
    · rw [if_neg hsubframe] at hnext
      have hticked : (panel.next event).modulator.Ticked ticks := hnext ▸ h
      obtain ⟨hlater, hperiod⟩ := ih hticked
      rw [List.count_cons_of_ne hsubframe]
      rw [hnext] at hperiod
      exact ⟨hlater, hperiod⟩

theorem modulator_run (settings : Settings) (events : List Event) :
    let modulator := ((start settings).run events).modulator
    modulator.Ticked (events.count .subframe) ∧
      modulator.period.toNat = max settings.subframes.toNat 1 := by
  intro modulator
  obtain ⟨hticked, hperiod⟩ := ticked_run (ticked_start settings) events
  rw [Nat.zero_add] at hticked
  refine ⟨hticked, ?_⟩
  show ((start settings).run events).modulator.period.toNat = _
  rw [hperiod]
  exact Modulator.toNat_start_period settings.subframes

theorem countP_lit_steady (settings : Settings) {events window : List Event} {duty : Rgb}
    (hsteady : ∀ before after, window = before ++ after →
      (((start settings).run events).run before).duty = duty)
    (hwindow : window.count .subframe = max settings.subframes.toNat 1) (channel : Channel) :
    (((start settings).run events).pinsSet window).countP (fun pins => pins.lit channel) =
      min (duty.level channel).toNat (max settings.subframes.toNat 1) := by
  obtain ⟨hticked, hperiod⟩ := modulator_run settings events
  rw [pinsSet_eq, duties_of_steady hsteady, hwindow, ← hperiod]
  exact Modulator.countP_lit_period hticked.subframe_lt duty channel

/-- A subframe sets the pins once. A channel is lit exactly if the number of subframes before,
modulo the period, is below its duty, and all other pins are low. -/
theorem subframes_rendered (settings : Settings) (events : List Event) :
    let panel := (start settings).run events
    let period := max settings.subframes.toNat 1
    let subframe := events.count .subframe % period
    (∃ pins, panel.emit .subframe = [.setPins pins] ∧
      (∀ channel, pins.lit channel = true ↔ subframe < (panel.duty.level channel).toNat) ∧
      pins.bits.toNat < 8 ∧ pins.bits &&& Pins.restartLines = 0) ∧
      panel.modulator.subframe.toNat = subframe ∧
      (panel.modulator.subframe + 1).toNat = panel.modulator.subframe.toNat + 1 ∧
      (start settings).pinsSet events =
        ((start settings).duties events).mapIdx fun i duty =>
          .ofChannels fun channel => i % period < (duty.level channel).toNat := by
  intro panel period subframe
  obtain ⟨hticked, hperiod⟩ := modulator_run settings events
  have hsubframe : panel.modulator.subframe.toNat = subframe := by
    have hmod := hticked.subframe_eq
    rw [hperiod] at hmod
    exact hmod
  have hpins : panel.pins =
      .ofChannels fun channel => subframe < (panel.duty.level channel).toNat := by
    have hrendered := hticked.pins_eq panel.duty
    rw [hperiod] at hrendered
    exact hrendered
  refine ⟨⟨panel.pins, rfl, ?_, ?_, ?_⟩, hsubframe, ?_, ?_⟩
  · intro channel
    rw [hpins, Pins.lit_ofChannels, decide_eq_true_iff]
  · rw [hpins]
    exact Pins.ofChannels_lt _
  · rw [hpins]
    exact Pins.ofChannels_restartLines _
  · have hlt := hticked.subframe_lt
    exact Modulator.toNat_subframe_succ hlt
  · rw [pinsSet_eq, (ticked_start settings).render_eq]
    have hstart : (start settings).modulator.period.toNat = period :=
      Modulator.toNat_start_period settings.subframes
    simp only [hstart, Nat.zero_add]

end Panel

/-- The events send the bytes, with anything but bytes between, and end with the last of them. -/
def Sends (events : List Event) (bytes : List UInt8) : Prop :=
  events.filterMap Event.byte? = bytes ∧ ∃ before byte, events = before ++ [.receive byte]

/-- Whether the event is a byte that opens a frame when it comes between frames. -/
def Event.opensFrame : Event → Bool
  | .receive byte => byte.toNat / 16 == 8 && byte != 0x80
  | .subframe | .sample _ | .poll | .take _ => false

theorem Grammar.announced_of_not_opensFrame {byte : UInt8}
    (h : (Event.receive byte).opensFrame = false) : announced byte = 0 := by
  rw [Event.opensFrame, Bool.and_eq_false_iff, beq_eq_false_iff_ne, bne_eq_false_iff_eq] at h
  rcases h with htag | rfl
  · exact if_neg htag
  · rfl

namespace Player

variable {player : Player}

theorem intake_run (tickLength : Nat) (player : Player) (events : List Event) :
    (player.run tickLength events).inbox.intake =
      (events.filterMap Event.byte?).foldl Intake.next player.inbox.intake := by
  induction events generalizing player with
  | nil => rfl
  | cons event events ih =>
    rw [run_cons, ih]
    rcases player.inbox_next_cases tickLength event with
      ⟨byte, hbyte, hinbox⟩ | ⟨hnone, hkept | htaken⟩
    · rw [List.filterMap_cons_some hbyte, hinbox, Inbox.intake_receive, List.foldl_cons]
    · rw [List.filterMap_cons_none hnone, hkept]
    · rw [List.filterMap_cons_none hnone, htaken]
      rfl

theorem inbox_run_frame (tickLength : Nat) {events : List Event} {header : UInt8}
    {payload : List UInt8} (hidle : player.inbox.intake = .idle) (hpayload : payload ≠ [])
    (hheader : Grammar.announced header = payload.length)
    (hsends : Sends events (header :: payload)) :
    (player.run tickLength events).inbox = ⟨.idle, some payload⟩ := by
  obtain ⟨hbytes, before, last, rfl⟩ := hsends
  -- The bytes before the last one are only collected, so ticks between them find nothing to take.
  obtain ⟨front, hbefore, rfl⟩ : ∃ front, before.filterMap Event.byte? = header :: front ∧
      payload = front ++ [last] := by
    have hsplit : before.filterMap Event.byte? ++ [last] = header :: payload := by
      rw [← hbytes, List.filterMap_append]
      rfl
    cases hfirst : before.filterMap Event.byte? with
    | nil =>
      rw [hfirst] at hsplit
      exact absurd (List.cons.inj hsplit).2.symm hpayload
    | cons first front =>
      rw [hfirst] at hsplit
      obtain ⟨rfl, hrest⟩ := List.cons.inj hsplit
      exact ⟨front, rfl, hrest.symm⟩
  rw [List.length_append, List.length_singleton] at hheader
  have hopens : Intake.idle.next header = .collecting (front.length + 1) [] := by
    rw [Intake.next, hheader, if_neg (Nat.succ_ne_zero _)]
  have hroom : ([] : List UInt8).length + front.length < front.length + 1 := by
    rw [List.length_nil]
    omega
  have hintake : (player.run tickLength before).inbox.intake =
      .collecting (front.length + 1) front := by
    rw [intake_run, hidle, hbefore, List.foldl_cons, hopens,
      Intake.foldl_next_collecting hroom, List.nil_append]
  rw [run_append]
  change (player.run tickLength before).inbox.receive last = _
  rw [Inbox.receive, hintake]
  exact if_pos rfl

def playsTick (tickLength : Nat) (player : Player) : Event → Bool
  | .poll => tickLength ≤ player.samples
  | .subframe | .sample _ | .receive _ | .take _ => false

/-- A player whose last payload was a pattern that comes to rest, after some ticks. The first of
them begins the pattern; before it the payload waits. -/
inductive Resting (pattern : Pattern) (rest : Fade) (lead : Nat) : Nat → Player → Prop where
  | waiting (active : Pattern) (cursor : Cursor) (samples : Nat) :
      Resting pattern rest lead 0 ⟨⟨.idle, some pattern.payload⟩, active, cursor, samples⟩
  | playing {ticks : Nat} {cursor : Cursor} (samples : Nat)
      (hcursor : cursor.Settling pattern rest lead (ticks + 1)) :
      Resting pattern rest lead (ticks + 1) ⟨.empty, pattern, cursor, samples⟩

variable {pattern : Pattern} {rest : Fade} {lead played : Nat}

theorem Resting.of_inbox (h : player.inbox = ⟨.idle, some pattern.payload⟩) :
    Resting pattern rest lead 0 player := by
  obtain ⟨inbox, active, cursor, samples⟩ := player
  subst h
  exact .waiting active cursor samples

private theorem Resting.receive (h : Resting pattern rest lead played player) {byte : UInt8}
    (hnone : Grammar.announced byte = 0) :
    Resting pattern rest lead played { player with inbox := player.inbox.receive byte } := by
  have hinbox : ∀ completed, Inbox.receive ⟨.idle, completed⟩ byte = ⟨.idle, completed⟩ :=
    fun _ => if_pos hnone
  cases h with
  | waiting active cursor samples =>
    rw [hinbox]
    exact .waiting active cursor samples
  | playing samples hcursor =>
    rw [Inbox.empty, hinbox]
    exact .playing samples hcursor

private theorem Resting.tick (h : Resting pattern rest lead played player)
    (hrests : pattern.RestsIn rest lead) : Resting pattern rest lead (played + 1) player.tick := by
  rw [tick_eq]
  cases h with
  | waiting active cursor samples =>
    rw [Inbox.pattern?_payload]
    exact .playing samples ((Cursor.settling_rewind pattern rest lead cursor).step hrests)
  | playing samples hcursor => exact .playing samples (hcursor.step hrests)

private theorem Resting.next (h : Resting pattern rest lead played player)
    (hrests : pattern.RestsIn rest lead) (tickLength : Nat) {event : Event}
    (hquiet : event.opensFrame = false) :
    Resting pattern rest lead (played + (player.playsTick tickLength event).toNat)
      (player.next tickLength event) := by
  have hsamples : ∀ samples, Resting pattern rest lead played { player with samples } := by
    intro samples
    cases h with
    | waiting active cursor _ => exact .waiting active cursor samples
    | playing _ hcursor => exact .playing samples hcursor
  cases event with
  | receive byte => exact h.receive (Grammar.announced_of_not_opensFrame hquiet)
  | sample raw => exact hsamples _
  | poll =>
    rw [Player.next, playsTick]
    by_cases hdue : tickLength ≤ player.samples
    · rw [if_pos hdue, decide_eq_true hdue]
      exact (hsamples _).tick hrests
    · rw [if_neg hdue, decide_eq_false hdue]
      exact h
  | subframe | take _ => exact h

theorem Resting.color_eq (h : Resting pattern rest lead played player)
    (hplayed : lead + rest.settling ≤ played) : player.cursor.color = rest.target := by
  cases h with
  | waiting active cursor samples =>
    have hpos := rest.settling_pos
    omega
  | playing samples hcursor => exact hcursor.color_eq hplayed

end Player

namespace Panel

variable {settings : Settings} {panel : Panel} {player : Player}

theorem Tracks.playsTick_eq (h : Tracks settings panel player) {event : Event}
    (hnormal : (panel.next event).watch.mode = .normal) :
    panel.playsTick event = player.playsTick (max settings.samplesPerTick.toNat 1) event := by
  cases event with
  | poll =>
    rw [playsTick, animates, not_engages_of_normal hnormal, Bool.or_false, Player.playsTick,
      Bool.eq_iff_iff, decide_eq_true_iff, h.setUp.due_iff, h.samples_eq]
  | subframe | sample _ | receive _ | take _ => rfl

variable {pattern : Pattern} {rest : Fade} {lead played : Nat}

theorem Tracks.resting_later (h : Tracks settings panel player)
    (hresting : Player.Resting pattern rest lead played player) (hrests : pattern.RestsIn rest lead)
    {events : List Event} (hquiet : ∀ event ∈ events, event.opensFrame = false)
    (hnormal : (panel.run events).watch.mode = .normal) :
    Player.Resting pattern rest lead (played + panel.ticks events)
      (player.run (max settings.samplesPerTick.toNat 1) events) := by
  induction events generalizing panel player played with
  | nil => exact hresting
  | cons event events ih =>
    obtain ⟨hevent, hevents⟩ := List.forall_mem_cons.mp hquiet
    have hnext : (panel.next event).watch.mode = .normal := normal_of_run hnormal
    have hstep := hresting.next hrests (max settings.samplesPerTick.toNat 1) hevent
    rw [← h.playsTick_eq hnext] at hstep
    have hlater := ih (h.next hnext) hstep hevents hnormal
    rw [Nat.add_assoc] at hlater
    exact hlater

theorem Tracks.resting_run (h : Tracks settings panel player)
    (hidle : panel.framing.isBoundary = true) (hrests : pattern.RestsIn rest lead)
    {sending later : List Event} (hsends : Sends sending pattern.frame)
    (hquiet : ∀ event ∈ later, event.opensFrame = false)
    (hnormal : (panel.run (sending ++ later)).watch.mode = .normal) :
    Player.Resting pattern rest lead ((panel.run sending).ticks later)
      (player.run (max settings.samplesPerTick.toNat 1) (sending ++ later)) := by
  have hintake : player.inbox.intake = .idle := by
    apply Intake.eq_idle_of_isIdle
    rw [← h.follows.isBoundary_eq, hidle]
  have hheader : Grammar.announced (Framing.header (UInt8.ofNat Pattern.byteLength)) =
      pattern.payload.length := by
    rw [Grammar.announced_header_pattern, Pattern.payload_length]
  have hframe := Player.inbox_run_frame (max settings.samplesPerTick.toNat 1) hintake
    (List.cons_ne_nil _ _) hheader hsends
  rw [run_append] at hnormal
  have hresting := (h.run (normal_of_run hnormal)).resting_later
    (Player.Resting.of_inbox hframe) hrests hquiet hnormal
  rw [Nat.zero_add] at hresting
  rw [Player.run_append]
  exact hresting

theorem Tracks.duty_run (h : Tracks settings panel player)
    (hresting : Player.Resting pattern rest lead played player)
    (hplayed : lead + rest.settling ≤ played) (hrests : pattern.RestsIn rest lead)
    {events : List Event} (hquiet : ∀ event ∈ events, event.opensFrame = false)
    (hnormal : (panel.run events).watch.mode = .normal) :
    (panel.run events).duty = rest.target.linear := by
  have hcolor := (h.resting_later hresting hrests hquiet hnormal).color_eq (by omega)
  rw [(h.run hnormal).duty_eq, Cursor.duty, hcolor]

/-- A frame whose pattern comes to rest has arrived after the ticks before the fade of rest and
those in which it settles; every period then lights each channel as its target says. -/
theorem lamp_comes_to_rest (hreachable : Reachable settings panel)
    (hidle : panel.framing.isBoundary = true) (hrests : pattern.RestsIn rest lead)
    {sending later : List Event} (hsends : Sends sending pattern.frame)
    (hquiet : ∀ event ∈ later, event.opensFrame = false)
    (hnormal : (panel.run (sending ++ later)).watch.mode = .normal)
    (hplayed : lead + rest.settling ≤ (panel.run sending).ticks later) :
    let final := panel.run (sending ++ later)
    let period := max settings.subframes.toNat 1
    final.duty = rest.target.linear ∧
      ∀ window : List Event, (∀ event ∈ window, event.opensFrame = false) →
        (final.run window).watch.mode = .normal → window.count .subframe = period →
          ∀ channel, (final.pinsSet window).countP (fun pins => pins.lit channel) =
            min (Brightness.linear (rest.target.level channel)).toNat period := by
  intro final period
  obtain ⟨events, rfl⟩ := hreachable
  have hbefore : ((start settings).run events).watch.mode = .normal := normal_of_run hnormal
  have htracks := (tracks_start settings).run hbefore
  have hresting := htracks.resting_run hidle hrests hsends hquiet hnormal
  have hsteady : ∀ window : List Event, (∀ event ∈ window, event.opensFrame = false) →
      (final.run window).watch.mode = .normal → (final.run window).duty = rest.target.linear := by
    intro window hwindow hstays
    exact (htracks.run hnormal).duty_run hresting hplayed hrests hwindow hstays
  refine ⟨hsteady [] (List.forall_mem_nil _) hnormal, ?_⟩
  intro window hwindow hstays hcount channel
  have hreached : final = (start settings).run (events ++ (sending ++ later)) :=
    (run_append _ _ _).symm
  rw [hreached] at hsteady hstays ⊢
  rw [countP_lit_steady settings _ hcount, Rgb.level_linear]
  rintro before after rfl
  rw [run_append] at hstays
  exact hsteady before (List.forall_mem_append.mp hwindow).1 (normal_of_run hstays)

/-- A payload waits when the frame begins, and ticks fall between its bytes. Blue is lit in one
subframe of four. -/
theorem lamp_comes_to_rest_dim :
    let settings : Settings := ⟨4, 1, .ofSeconds 1, .all, 1⟩
    let panel := (start settings).run [.receive 0x81, .sample ∅, .receive 9]
    let pattern : Pattern := ⟨⟨.white, 40, 2⟩, ⟨⟨200, 100, 3⟩, 100, 0⟩⟩
    let sending := [Event.receive 0x8A, .sample ∅, .poll] ++ pattern.payload.map Event.receive
    let later := (List.replicate 5 [Event.receive 0x80, .sample ∅, .poll, .receive 0x93]).flatten
    let window := [Event.subframe, .receive 5, .subframe, .sample ∅, .poll, .subframe, .subframe]
    let final := panel.run (sending ++ later)
    panel.buffer.complete = true ∧ (panel.run sending).ticks later = 5 ∧
      final.duty = Rgb.linear ⟨200, 100, 3⟩ ∧
      (final.pinsSet window).countP (fun pins => pins.lit .blue) = 1 := by
  intro settings panel pattern sending later window final
  have hplayed : (panel.run sending).ticks later = 5 := by decide
  have hrests : pattern.RestsIn ⟨⟨200, 100, 3⟩, 100, 0⟩ 2 := .second (by decide) rfl
  have hsends : Sends sending pattern.frame := ⟨by decide, sending.dropLast, 0, by decide⟩
  obtain ⟨hduty, hlit⟩ := lamp_comes_to_rest ⟨_, rfl⟩ (by decide) hrests hsends (by decide)
    (by decide) (Nat.le_of_eq hplayed.symm)
  exact ⟨by decide, hplayed, hduty, hlit window (by decide) (by decide) (by decide) .blue⟩

end Panel

end LampPanel
