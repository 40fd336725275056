import LampPanel.Proofs.Keypad
import LampPanel.Proofs.Restart
import Mathlib.Data.List.Chain

/-!
# From the samples to the restart

Two samples in a row that read the chord are enough, and a button that is never read twice in a row
keeps the restart from beginning.
-/

namespace LampPanel

namespace Keypad

theorem lastRepeated_cons_cons (level : Bool) (levels : List Bool) :
    lastRepeated (level :: level :: levels) = level :=
  if_pos rfl

theorem lastRepeated_of_isChain {levels : List Bool}
    (h : levels.IsChain fun newer older => ¬ (newer = true ∧ older = true)) :
    lastRepeated levels = false := by
  induction levels with
  | nil => rfl
  | cons level levels ih =>
    have holder := ih (List.isChain_cons.mp h).2
    rw [lastRepeated]
    split
    · next hrepeated =>
      cases levels with
      | nil => exact hrepeated
      | cons older levels =>
        have hpair : ¬ (level = true ∧ older = true) := h.rel_head? rfl
        rw [List.headD_cons] at hrepeated
        rw [← hrepeated, and_self] at hpair
        exact Bool.eq_false_iff.mpr hpair
    · exact holder

end Keypad

def Event.key? : Event → Option Keypad.Event
  | .sample raw => some (.sample raw)
  | .take mask => some (.take mask)
  | .subframe | .receive _ | .poll => none

namespace Panel

theorem levels_key (button : Button) (events : List Event) :
    Keypad.levels button (events.filterMap Event.key?) =
      ((events.filterMap Event.raw?).map fun raw => raw.contains button).reverse := by
  rw [Keypad.levels, List.filterMap_filterMap, List.map_filterMap]
  congr 2
  funext event
  cases event <;> rfl

theorem keypad_run (panel : Panel) (events : List Event) :
    (panel.run events).keypad = panel.keypad.run (events.filterMap Event.key?) := by
  induction events generalizing panel with
  | nil => rfl
  | cons event events ih =>
    rw [run_cons, ih]
    cases event with
    | poll =>
      have hkeypad : panel.poll.keypad = panel.keypad := by rw [poll_eq]
      change panel.poll.keypad.run _ = _
      rw [hkeypad]
      rfl
    | subframe | sample _ | receive _ | take _ => rfl

theorem filters_run (settings : Settings) (events : List Event) (button : Button) :
    ((start settings).run events).keypad.Filters button
      (Keypad.levels button (events.filterMap Event.key?)) := by
  rw [keypad_run]
  exact Keypad.filters_run _ button

theorem held_of_sampled_twice (settings : Settings) (events : List Event) (raw : Buttons)
    {between after : List Event} (hbetween : between.filterMap Event.raw? = [])
    (hafter : after.filterMap Event.raw? = []) :
    ((start settings).run
      (events ++ .sample raw :: between ++ .sample raw :: after)).keypad.held = raw := by
  apply Buttons.ext_contains
  intro button
  have hraws : (events ++ .sample raw :: between ++ .sample raw :: after).filterMap Event.raw? =
      events.filterMap Event.raw? ++ [raw, raw] := by
    simp [Event.raw?, hbetween, hafter]
  rw [(filters_run settings _ button).held_eq, levels_key, hraws, List.map_append,
    List.reverse_append]
  exact Keypad.lastRepeated_cons_cons _ _

theorem not_mem_held_of_isChain (settings : Settings) {events : List Event} {button : Button}
    (h : (events.filterMap Event.raw?).IsChain
      fun earlier later => ¬ (button ∈ earlier ∧ button ∈ later)) :
    button ∉ ((start settings).run events).keypad.held := by
  have hlevels : (Keypad.levels button (events.filterMap Event.key?)).IsChain
      fun newer older => ¬ (newer = true ∧ older = true) := by
    rw [levels_key, List.isChain_reverse, List.isChain_map]
    apply h.imp
    intro earlier later hpair hboth
    exact hpair ⟨hboth.2, hboth.1⟩
  rw [Buttons.mem_iff, (filters_run settings events button).held_eq,
    Keypad.lastRepeated_of_isChain hlevels]
  exact Bool.false_ne_true

theorem SetUp.poll_of_held {settings : Settings} {panel : Panel} (h : panel.SetUp settings)
    (hheld : panel.keypad.held = settings.chord) :
    panel.poll.watch.mode = .restarting ∧
      (panel.watch.mode = .normal →
        panel.emit .poll =
            [.enableRestartLines, .armWatchdog settings.watchdog, .polled .restarting] ∧
          panel.poll.duty = .gray 254) := by
  have hmode := h.mode_next .poll
  rw [if_pos ⟨rfl, hheld⟩] at hmode
  refine ⟨hmode, ?_⟩
  intro hnormal
  have hengages : panel.engages = true := h.engages_iff.mpr ⟨hnormal, hheld⟩
  have houtcome : panel.outcome = .restarting := if_pos hmode
  have hpos : 0 < (TickCount.atLeastOne settings.flashTicks).toNat :=
    TickCount.atLeastOne_pos settings.flashTicks
  constructor
  · rw [emit, hengages, houtcome, h.settings_eq]
    rfl
  · rw [(Flashing.begin hengages h.flashTicks_eq hpos).duty_eq, Nat.zero_div]
    rfl

theorem normal_of_never_held {settings : Settings} {events : List Event}
    (hnever : ∀ before after, events = before ++ after →
      ((start settings).run before).keypad.held ≠ settings.chord) :
    ((start settings).run events).watch.mode = .normal := by
  cases hmode : ((start settings).run events).watch.mode with
  | normal => rfl
  | restarting =>
    rw [(setUp_start settings).restarting_run_iff] at hmode
    rcases hmode with hstart | ⟨before, after, hsplit, hheld⟩
    · cases hstart
    · exact absurd hheld (hnever before (.poll :: after) hsplit)

/-- Two samples in a row that read exactly the chord begin the restart at the next poll, from any
state. A button of the chord that is never read as pressed twice in a row keeps it from beginning.
-/
theorem chord_detected (settings : Settings) (events : List Event) :
    let chord := Event.sample settings.chord
    (∀ between after : List Event,
      between.filterMap Event.raw? = [] → after.filterMap Event.raw? = [] →
        let panel := (start settings).run (events ++ chord :: between ++ chord :: after)
        panel.poll.watch.mode = .restarting ∧
          (panel.watch.mode = .normal →
            panel.emit .poll =
                [.enableRestartLines, .armWatchdog settings.watchdog, .polled .restarting] ∧
              panel.poll.duty = .gray 254)) ∧
      ∀ button ∈ settings.chord,
        ((events.filterMap Event.raw?).IsChain
          fun earlier later => ¬ (button ∈ earlier ∧ button ∈ later)) →
        (∀ before after, events = before ++ after →
          ((start settings).run before).watch.mode = .normal) ∧
          (start settings).restartCalls events = [] := by
  intro chord
  constructor
  · intro between after hbetween hafter panel
    apply (setUp_run settings _).poll_of_held
    exact held_of_sampled_twice settings events settings.chord hbetween hafter
  · intro button hbutton hnever
    have hheld : ∀ before after, events = before ++ after →
        ((start settings).run before).keypad.held ≠ settings.chord := by
      rintro before after rfl hchord
      rw [List.filterMap_append] at hnever
      apply not_mem_held_of_isChain settings hnever.left_of_append
      rw [hchord]
      exact hbutton
    have hnormal : ((start settings).run events).watch.mode = .normal := normal_of_never_held hheld
    constructor
    · rintro before after rfl
      rw [run_append] at hnormal
      exact normal_of_run hnormal
    · have hcalls := (setUp_start settings).restartCalls_run events
      rw [hnormal] at hcalls
      exact hcalls

/-- All buttons are held before the chord, so that two of them have to be released; and one button
of the chord keeps bouncing. -/
theorem chord_detected_released :
    let chord := Event.sample Settings.standard.chord
    let before := [Event.sample .all, .sample .all, .poll]
    let between := [Event.receive 0x81, .poll, .take .all]
    let after := [Event.subframe, .receive 5]
    let panel := (start .standard).run (before ++ chord :: between ++ chord :: after)
    let bouncing := [chord, .sample {Button.setup}, .poll, chord, .sample {Button.setup}, .poll]
    panel.watch.mode = .normal ∧ panel.poll.watch.mode = .restarting ∧
      panel.emit .poll =
        [.enableRestartLines, .armWatchdog Settings.standard.watchdog, .polled .restarting] ∧
      panel.poll.duty = .gray 254 ∧
      ((start .standard).run bouncing).watch.mode = .normal ∧
      (start .standard).restartCalls bouncing = [] := by
  intro chord before between after panel bouncing
  have hnormal : panel.watch.mode = .normal := by decide
  obtain ⟨hdetected, _⟩ := chord_detected .standard before
  obtain ⟨hmode, hbegins⟩ := hdetected between after rfl rfl
  obtain ⟨hemit, hduty⟩ := hbegins hnormal
  obtain ⟨_, hnever⟩ := chord_detected .standard bouncing
  obtain ⟨hthroughout, hcalls⟩ := hnever .down (by decide) (by decide)
  exact ⟨hnormal, hmode, hemit, hduty, hthroughout bouncing [] rfl, hcalls⟩

end Panel

end LampPanel
