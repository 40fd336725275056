import LampPanel.Proofs.Cursor.Place
import LampPanel.Proofs.Panel.Step

/-!
# The restart and its flash

The first poll that finds exactly the chord held makes the calls of the restart and plays the first
tick of the flash; nothing ends either.
-/

namespace LampPanel

def Output.isRestartCall : Output → Bool
  | .enableRestartLines | .armWatchdog _ => true
  | .setPins _ | .load _ | .answer _ | .polled _ | .presses _ => false

namespace Panel

/-- What is done to the restart lines and the watchdog during a run, in order. -/
def restartCalls (panel : Panel) (events : List Event) : List Output :=
  (panel.emits events).flatten.filter Output.isRestartCall

/-- Some poll of the run finds exactly the buttons of the chord held. -/
def ChordPolled (panel : Panel) (chord : Buttons) (events : List Event) : Prop :=
  ∃ before after, events = before ++ .poll :: after ∧ (panel.run before).keypad.held = chord

variable {settings : Settings} {panel : Panel}

theorem SetUp.engages_iff (h : panel.SetUp settings) :
    panel.engages = true ↔ panel.watch.mode = .normal ∧ panel.keypad.held = settings.chord := by
  rw [engages, ChordWatch.engages_iff, h.chord_eq]

theorem SetUp.mode_next (h : panel.SetUp settings) (event : Event) :
    (panel.next event).watch.mode =
      if event = .poll ∧ panel.keypad.held = settings.chord then .restarting
      else panel.watch.mode := by
  by_cases hpoll : event = .poll
  · subst hpoll
    change panel.poll.watch.mode = _
    cases hengages : panel.engages with
    | true =>
      have hheld := (h.engages_iff.mp hengages).2
      rw [poll_watch_of_engages hengages, if_pos ⟨rfl, hheld⟩]
    | false =>
      rw [poll_watch_of_not_engages hengages]
      split
      · next hchord =>
        cases hmode : panel.watch.mode with
        | restarting => rfl
        | normal =>
          have hyes := h.engages_iff.mpr ⟨hmode, hchord.2⟩
          rw [hengages] at hyes
          exact absurd hyes Bool.false_ne_true
      · rfl
  · rw [next_watch panel hpoll, if_neg (fun hchord => hpoll hchord.1)]

theorem SetUp.filter_emit (h : panel.SetUp settings) (event : Event) :
    (panel.emit event).filter Output.isRestartCall =
      if event = .poll ∧ panel.keypad.held = settings.chord ∧ panel.watch.mode = .normal then
        [.enableRestartLines, .armWatchdog settings.watchdog]
      else [] := by
  cases event with
  | poll =>
    rw [emit, h.settings_eq, List.filter_append]
    cases hengages : panel.engages with
    | true =>
      obtain ⟨hmode, hheld⟩ := h.engages_iff.mp hengages
      exact (if_pos ⟨rfl, hheld, hmode⟩).symm
    | false =>
      have hno : ¬ (panel.keypad.held = settings.chord ∧ panel.watch.mode = .normal) := by
        intro hchord
        have hyes := h.engages_iff.mpr hchord.symm
        rw [hengages] at hyes
        exact Bool.false_ne_true hyes
      exact (if_neg (fun hchord => hno hchord.2)).symm
  | subframe | sample _ | receive _ | take _ => exact (if_neg (fun hchord => nomatch hchord.1)).symm

theorem restartCalls_cons (panel : Panel) (event : Event) (events : List Event) :
    panel.restartCalls (event :: events) =
      (panel.emit event).filter Output.isRestartCall ++ (panel.next event).restartCalls events := by
  rw [restartCalls, emits, List.flatten_cons, List.filter_append]
  rfl

theorem chordPolled_cons (panel : Panel) (chord : Buttons) (event : Event) (events : List Event) :
    panel.ChordPolled chord (event :: events) ↔
      (event = .poll ∧ panel.keypad.held = chord) ∨
        (panel.next event).ChordPolled chord events := by
  constructor
  · rintro ⟨before, after, hsplit, hheld⟩
    cases before with
    | nil =>
      obtain ⟨rfl, rfl⟩ := List.cons.inj hsplit
      exact .inl ⟨rfl, hheld⟩
    | cons first before =>
      obtain ⟨rfl, rfl⟩ := List.cons.inj hsplit
      exact .inr ⟨before, after, rfl, hheld⟩
  · rintro (⟨rfl, hheld⟩ | ⟨before, after, rfl, hheld⟩)
    · exact ⟨[], events, rfl, hheld⟩
    · exact ⟨event :: before, after, rfl, hheld⟩

theorem SetUp.restarting_run_iff (h : panel.SetUp settings) (events : List Event) :
    (panel.run events).watch.mode = .restarting ↔
      panel.watch.mode = .restarting ∨ panel.ChordPolled settings.chord events := by
  induction events generalizing panel with
  | nil =>
    have hnone : ¬ panel.ChordPolled settings.chord [] := by
      rintro ⟨before, after, hsplit, _⟩
      exact List.append_ne_nil_of_right_ne_nil before (List.cons_ne_nil _ _) hsplit.symm
    rw [run_nil, or_iff_left hnone]
  | cons event events ih =>
    rw [run_cons, ih (h.next event), h.mode_next event, chordPolled_cons]
    split
    · next hchord => exact iff_of_true (.inl rfl) (.inr (.inl hchord))
    · next hchord => rw [or_iff_right hchord]

theorem SetUp.restartCalls_run (h : panel.SetUp settings) (events : List Event) :
    panel.restartCalls events =
      if panel.watch.mode = .normal ∧ (panel.run events).watch.mode = .restarting then
        [.enableRestartLines, .armWatchdog settings.watchdog]
      else [] := by
  induction events generalizing panel with
  | nil =>
    have hno : ¬ (panel.watch.mode = .normal ∧ panel.watch.mode = .restarting) := by
      rintro ⟨hnormal, hrestarting⟩
      rw [hnormal] at hrestarting
      exact absurd hrestarting nofun
    rw [run_nil, if_neg hno]
    rfl
  | cons event events ih =>
    have hmode := h.mode_next event
    rw [restartCalls_cons, h.filter_emit event, ih (h.next event), run_cons]
    by_cases hchord : event = .poll ∧ panel.keypad.held = settings.chord
    · rw [if_pos hchord] at hmode
      have hlater := restarting_run hmode events
      have hagain : ¬ ((panel.next event).watch.mode = .normal ∧
          ((panel.next event).run events).watch.mode = .restarting) := by
        rw [hmode]
        exact fun hboth => absurd hboth.1 nofun
      rw [if_neg hagain, List.append_nil]
      obtain ⟨rfl, hheld⟩ := hchord
      simp only [hheld, hlater, true_and, and_true]
    · rw [if_neg hchord] at hmode
      rw [hmode, if_neg (fun hall => hchord ⟨hall.1, hall.2.1⟩), List.nil_append]

private theorem outcome_restarting_iff (panel : Panel) :
    panel.outcome = .restarting ↔ panel.poll.watch.mode = .restarting := by
  rw [outcome]
  split
  · next hmode => exact iff_of_true rfl hmode
  · next hmode =>
    have hother : (if panel.due = true then Outcome.animated else .waiting) ≠ .restarting := by
      split <;> nofun
    exact iff_of_false hother hmode

/-- The calls that restart the device are made once or not at all, in order, by the first poll that
finds exactly the chord held. Nothing but a poll begins the restart, and nothing ends it. -/
theorem restart_once (settings : Settings) (events : List Event) :
    let panel := (start settings).run events
    let calls := [Output.enableRestartLines, .armWatchdog settings.watchdog]
    let polled := (start settings).ChordPolled settings.chord
    (start settings).restartCalls events =
        (if panel.watch.mode = .restarting then calls else []) ∧
      (panel.watch.mode = .restarting ↔ polled events) ∧
      (∀ event, (panel.emit event).filter Output.isRestartCall =
        if event = .poll ∧ panel.keypad.held = settings.chord ∧ panel.watch.mode = .normal then
          calls
        else []) ∧
      (panel.outcome = .restarting ↔ polled (events ++ [.poll])) ∧
      (∀ event, event ≠ .poll → (panel.next event).watch.mode = panel.watch.mode) ∧
      (∀ later, panel.watch.mode = .restarting →
        (panel.run later).watch.mode = .restarting) ∧
      (panel.buffer.locked = true ↔ panel.watch.mode = .restarting) := by
  intro panel calls polled
  have hpanel : panel.SetUp settings := setUp_run settings events
  have hmode : ∀ run, ((start settings).run run).watch.mode = .restarting ↔ polled run := by
    intro run
    rw [(setUp_start settings).restarting_run_iff run]
    exact or_iff_right nofun
  refine ⟨?_, hmode events, hpanel.filter_emit, ?_, ?_, ?_, locked_iff_restarting settings events⟩
  · have hcalls := (setUp_start settings).restartCalls_run events
    have hstart : (start settings).watch.mode = .normal := rfl
    simp only [hstart, true_and] at hcalls
    exact hcalls
  · have hpoll : (start settings).run (events ++ [.poll]) = panel.poll := by
      rw [run_append]
      rfl
    rw [← hmode, hpoll, outcome_restarting_iff]
  · intro event hne
    rw [panel.next_watch hne]
  · intro later hrestarting
    exact restarting_run hrestarting later

end Panel

namespace Pattern

theorem place_flash (half : UInt8) (hpos : 0 < half.toNat) (ticks : Nat) :
    ((flash half).place ticks).1 = if ticks / half.toNat % 2 = 0 then .first else .second := by
  have hne : half.toNat ≠ 0 := by omega
  have hperiod : half.toNat + half.toNat = half.toNat * 2 := by omega
  have hhalf : ticks % (half.toNat * 2) < half.toNat ↔ ticks / half.toNat % 2 = 0 := by
    rw [← Nat.mod_mul_right_div_self ticks half.toNat 2]
    exact (Nat.div_eq_zero_iff_lt hpos).symm
  change (if half.toNat = 0 then _ else if half.toNat = 0 then _ else _ : Phase × Nat).1 = _
  simp only [flash, if_neg hne, hperiod, hhalf]
  split <;> rfl

end Pattern

theorem Fade.apply_of_slew_eq_zero {fade : Fade} (h : fade.slew = 0) (color : Rgb) :
    fade.apply color = fade.target := by
  have hstride : fade.stride = 255 := if_pos h
  apply Rgb.ext_level
  intro channel
  rw [Fade.level_apply, hstride, Slew.toward_full]

theorem Cursor.duty_step_flash {cursor : Cursor} {half : UInt8} {ticks : Nat}
    (hpos : 0 < half.toNat) (h : cursor.place = (Pattern.flash half).place ticks) :
    (cursor.step (.flash half)).duty =
      if ticks / half.toNat % 2 = 0 then .gray 254 else .black := by
  have hphase : cursor.phase = if ticks / half.toNat % 2 = 0 then .first else .second := by
    rw [← Pattern.place_flash half hpos, ← h]
    rfl
  have hslew : ((Pattern.flash half).fade cursor.phase).slew = 0 := by
    cases cursor.phase <;> rfl
  have hwhite : Rgb.white.linear = .gray 254 := by decide
  have hblack : Rgb.black.linear = .black := by decide
  rw [duty, step_color, Fade.apply_of_slew_eq_zero hslew, hphase]
  split
  · exact hwhite
  · exact hblack

namespace DoubleBuffer

theorem swap_of_incomplete {buffer : DoubleBuffer} (h : buffer.complete = false) :
    buffer.swap.1 = buffer := by
  rw [swap, h]
  rfl

theorem swap_replace_lock (buffer : DoubleBuffer) (pattern : Pattern) :
    (buffer.replace pattern).lock.swap.1.pattern = pattern ∧
      (buffer.replace pattern).lock.swap.1.complete = false ∧
      (buffer.replace pattern).lock.swap.1.locked = true ∧
      (buffer.replace pattern).lock.complete = true := by
  have hview : (buffer.replace pattern).lock.swap.1.view =
      ⟨pattern.payload, [], false, true⟩ := by
    rw [view_swap, view_lock, view_replace]
    rfl
  refine ⟨?_, congrArg View.complete hview, congrArg View.locked hview, rfl⟩
  have hpattern := congrArg View.pattern hview
  rw [view_pattern] at hpattern
  rw [hpattern]
  exact Pattern.ofPayload_payload pattern

end DoubleBuffer

namespace Panel

/-- A restarting panel after the given ticks of its flash beyond the first one. -/
structure Flashing (half : UInt8) (played : Nat) (panel : Panel) : Prop where
  restarting : panel.watch.mode = .restarting
  locked : panel.buffer.locked = true
  complete_eq : panel.buffer.complete = false
  pattern_eq : panel.buffer.pattern = .flash half
  place_eq : panel.cursor.place = (Pattern.flash half).place (played + 1)
  duty_eq : panel.duty = if played / half.toNat % 2 = 0 then .gray 254 else .black

variable {settings : Settings} {half : UInt8} {played : Nat} {panel : Panel}

theorem Flashing.begin (h : panel.engages = true) (hhalf : panel.watch.flashTicks = half)
    (hpos : 0 < half.toNat) : Flashing half 0 panel.poll := by
  have hflash : panel.watch.flash = .flash half := congrArg Pattern.flash hhalf
  obtain ⟨hpattern, hcomplete, hlocked, hready⟩ :=
    panel.buffer.swap_replace_lock (.flash half)
  have hcursor : (panel.cursor.tick (panel.buffer.replace (.flash half)).lock).1 =
      panel.cursor.rewind.step (.flash half) := by
    rw [Cursor.tick_cursor, hready, hpattern]
    rfl
  have hstart : panel.cursor.rewind.place = (Pattern.flash half).place 0 :=
    (Pattern.place_zero _).symm
  rw [poll_of_engages h, hflash, hcursor]
  exact ⟨rfl, hlocked, hcomplete, hpattern, Cursor.step_place hstart,
    Cursor.duty_step_flash hpos hstart⟩

private theorem Flashing.poll (h : Flashing half played panel) (hpos : 0 < half.toNat) :
    Flashing half (played + panel.animates.toNat) panel.poll := by
  have hengages := engages_of_restarting h.restarting
  have hanimates : panel.animates = panel.due := by rw [animates, hengages, Bool.or_false]
  rw [hanimates]
  cases hdue : panel.due with
  | false =>
    rw [poll_of_waiting hengages hdue]
    exact h
  | true =>
    have hbuffer := DoubleBuffer.swap_of_incomplete h.complete_eq
    have hcursor : (panel.cursor.tick panel.buffer).1 = panel.cursor.step (.flash half) := by
      rw [Cursor.tick_cursor, h.complete_eq, hbuffer, h.pattern_eq]
      rfl
    rw [poll_of_due hengages hdue, hbuffer, hcursor]
    exact ⟨h.restarting, h.locked, h.complete_eq, h.pattern_eq, Cursor.step_place h.place_eq,
      Cursor.duty_step_flash hpos h.place_eq⟩

private theorem Flashing.next (h : Flashing half played panel) (hpos : 0 < half.toNat)
    (event : Event) :
    Flashing half (played + (panel.playsTick event).toNat) (panel.next event) := by
  cases event with
  | poll => exact h.poll hpos
  | receive byte =>
    have hbuffer : (panel.receive byte).buffer = panel.buffer :=
      DoubleBuffer.accept_of_locked h.locked byte _
    refine ⟨h.restarting, ?_, ?_, ?_, h.place_eq, h.duty_eq⟩
    · exact hbuffer ▸ h.locked
    · exact hbuffer ▸ h.complete_eq
    · exact hbuffer ▸ h.pattern_eq
  | subframe | sample _ | take _ =>
    exact ⟨h.restarting, h.locked, h.complete_eq, h.pattern_eq, h.place_eq, h.duty_eq⟩

theorem Flashing.run (h : Flashing half played panel) (hpos : 0 < half.toNat)
    (events : List Event) : Flashing half (played + panel.ticks events) (panel.run events) := by
  induction events generalizing panel played with
  | nil => exact h
  | cons event events ih =>
    have hlater := ih (h.next hpos event)
    rw [Nat.add_assoc] at hlater
    exact hlater

theorem exists_flashing (settings : Settings) (events : List Event) :
    let panel := (start settings).run events
    panel.watch.mode = .restarting →
      ∃ played, Flashing (TickCount.atLeastOne settings.flashTicks) played panel := by
  have hpos := TickCount.atLeastOne_pos settings.flashTicks
  have hnext : ∀ (panel : Panel) (event : Event),
      panel.SetUp settings ∧ (panel.watch.mode = .restarting →
          ∃ played, Flashing (TickCount.atLeastOne settings.flashTicks) played panel) →
        (panel.next event).SetUp settings ∧ ((panel.next event).watch.mode = .restarting →
          ∃ played, Flashing (TickCount.atLeastOne settings.flashTicks) played
            (panel.next event)) := by
    rintro panel event ⟨hsetUp, hflashes⟩
    refine ⟨hsetUp.next event, ?_⟩
    intro hrestarting
    cases hmode : panel.watch.mode with
    | restarting =>
      obtain ⟨played, hflashing⟩ := hflashes hmode
      exact ⟨_, hflashing.next hpos event⟩
    | normal =>
      -- Only a poll that finds the chord leaves normal mode.
      obtain ⟨rfl, hengages⟩ := begins_of_restarting hmode hrestarting
      exact ⟨0, Flashing.begin hengages hsetUp.flashTicks_eq hpos⟩
  exact (run_invariant hnext ⟨setUp_start settings, nofun⟩ events).2

/-- Once a poll has begun the restart, whatever happens, the lamp is at full duty through the first
ticks of the flash, dark through as many, and so on; no other pattern is ever waiting. -/
theorem flash_unstoppable {settings : Settings} {panel : Panel}
    (hreachable : Reachable settings panel) (hnormal : panel.watch.mode = .normal)
    (hbegins : panel.poll.watch.mode = .restarting) (later : List Event) :
    let half := max settings.flashTicks 1
    let final := panel.run (.poll :: later)
    let played := panel.ticks (.poll :: later)
    played = panel.poll.ticks later + 1 ∧
      final.buffer.pattern = .flash half ∧
      final.buffer.complete = false ∧
      final.duty = if (played - 1) / half.toNat % 2 = 0 then .gray 254 else .black := by
  intro half final played
  obtain ⟨events, rfl⟩ := hreachable
  have hsetUp := setUp_run settings events
  have hpos : 0 < half.toNat := TickCount.atLeastOne_pos settings.flashTicks
  have hengages : ((start settings).run events).engages = true := by
    cases hcase : ((start settings).run events).engages with
    | true => rfl
    | false =>
      rw [poll_watch_of_not_engages hcase, hnormal] at hbegins
      exact absurd hbegins nofun
  have hplayed : played = ((start settings).run events).poll.ticks later + 1 := by
    have hanimates : ((start settings).run events).animates = true := by
      rw [animates, hengages, Bool.or_true]
    change ((start settings).run events).animates.toNat + _ = _
    rw [hanimates, Nat.add_comm]
    rfl
  have hflashing := (Flashing.begin hengages hsetUp.flashTicks_eq hpos).run hpos later
  rw [Nat.zero_add] at hflashing
  refine ⟨hplayed, hflashing.pattern_eq, hflashing.complete_eq, ?_⟩
  rw [hplayed, Nat.add_sub_cancel]
  exact hflashing.duty_eq

/-- A payload waits and another is under way when the chord comes; the fifth tick is dark. -/
theorem flash_unstoppable_dark :
    let chord := Settings.standard.chord
    let panel := (start .standard).run
      [.receive 0x81, .receive 7, .receive 0x8A, .receive 1, .sample chord, .sample chord]
    let later := (List.replicate 4
      [Event.receive 2, .sample ∅, .sample ∅, .sample ∅, .take .all, .poll]).flatten
    panel.watch.mode = .normal ∧ panel.poll.watch.mode = .restarting ∧
      panel.ticks (.poll :: later) = 5 ∧
      (panel.run (.poll :: later)).buffer.pattern = .flash 4 ∧
      (panel.run (.poll :: later)).duty = .black := by
  intro chord panel later
  have hreachable : Reachable .standard panel := ⟨_, rfl⟩
  have hnormal : panel.watch.mode = .normal := by decide
  have hbegins : panel.poll.watch.mode = .restarting := by decide
  have hplayed : panel.ticks (.poll :: later) = 5 := by decide
  obtain ⟨_, hpattern, _, hduty⟩ := flash_unstoppable hreachable hnormal hbegins later
  rw [hplayed] at hduty
  exact ⟨hnormal, hbegins, hplayed, hpattern, hduty⟩

end Panel

end LampPanel
