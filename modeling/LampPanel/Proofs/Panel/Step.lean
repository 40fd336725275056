import LampPanel.Panel
import LampPanel.Proofs.DoubleBuffer

/-!
# What one event changes

A poll is described field by field: by whether it engages, whether a tick is due, and whether it
animates.
-/

namespace LampPanel

namespace Cursor

theorem tick_cursor (cursor : Cursor) (buffer : DoubleBuffer) :
    (cursor.tick buffer).1 =
      (if buffer.complete then cursor.rewind else cursor).step buffer.swap.1.pattern := by
  rw [← buffer.swap_isSome]
  rfl

end Cursor

namespace Panel

variable (panel : Panel)

theorem observeChord_of_not_engages {panel : Panel} (h : panel.engages = false) :
    panel.observeChord = panel := by
  have hobserve := ChordWatch.observe_of_not_engages panel.buffer h
  rw [observeChord, hobserve]

theorem observeChord_of_engages {panel : Panel} (h : panel.engages = true) :
    panel.observeChord =
      { panel with
        watch := { panel.watch with mode := .restarting }
        buffer := (panel.buffer.replace panel.watch.flash).lock } := by
  have hobserve := ChordWatch.observe_of_engages panel.buffer h
  rw [observeChord, hobserve]

private theorem spend_eq :
    panel.spend =
      { panel with
        samples := if panel.due then panel.samples - panel.samplesPerTick else panel.samples } := by
  rw [spend]
  split <;> rfl

/-- A poll spends the samples of a tick if one is due, and plays one tick if it animates. -/
theorem poll_eq :
    panel.poll =
      { panel with
        watch := panel.observeChord.watch
        samples := if panel.due then panel.samples - panel.samplesPerTick else panel.samples
        buffer := if panel.animates then panel.observeChord.buffer.swap.1 else panel.buffer
        cursor := if panel.animates then (panel.cursor.tick panel.observeChord.buffer).1
          else panel.cursor
        duty := if panel.animates then (panel.cursor.tick panel.observeChord.buffer).1.duty
          else panel.duty } := by
  rw [poll, spend_eq]
  cases hengages : panel.engages with
  | true =>
    have hanimates : panel.animates = true := by rw [animates, hengages, Bool.or_true]
    simp only [hanimates, if_true]
    rfl
  | false =>
    have hobserve := observeChord_of_not_engages hengages
    rw [hobserve]
    cases panel.animates <;> rfl

theorem poll_of_waiting {panel : Panel} (hengages : panel.engages = false)
    (hdue : panel.due = false) : panel.poll = panel := by
  have hanimates : panel.animates = false := by rw [animates, hdue, hengages, Bool.or_false]
  rw [poll_eq, observeChord_of_not_engages hengages, hdue, hanimates]
  rfl

theorem poll_of_due {panel : Panel} (hengages : panel.engages = false)
    (hdue : panel.due = true) :
    panel.poll =
      { panel with
        samples := panel.samples - panel.samplesPerTick
        buffer := panel.buffer.swap.1
        cursor := (panel.cursor.tick panel.buffer).1
        duty := (panel.cursor.tick panel.buffer).1.duty } := by
  have hanimates : panel.animates = true := by rw [animates, hdue, Bool.true_or]
  rw [poll_eq, observeChord_of_not_engages hengages, hdue, hanimates]
  rfl

theorem poll_of_engages {panel : Panel} (h : panel.engages = true) :
    panel.poll =
      { panel with
        watch := { panel.watch with mode := .restarting }
        samples := if panel.due then panel.samples - panel.samplesPerTick else panel.samples
        buffer := (panel.buffer.replace panel.watch.flash).lock.swap.1
        cursor := (panel.cursor.tick (panel.buffer.replace panel.watch.flash).lock).1
        duty := (panel.cursor.tick (panel.buffer.replace panel.watch.flash).lock).1.duty } := by
  have hanimates : panel.animates = true := by rw [animates, h, Bool.or_true]
  rw [poll_eq, observeChord_of_engages h, hanimates]
  rfl

theorem toNat_samplesPerTick :
    panel.samplesPerTick.toNat = max panel.settings.samplesPerTick.toNat 1 :=
  TickCount.toNat_atLeastOne panel.settings.samplesPerTick

theorem due_iff :
    panel.due = true ↔ max panel.settings.samplesPerTick.toNat 1 ≤ panel.samples.toNat := by
  rw [due, decide_eq_true_iff, UInt8.le_iff_toNat_le, toNat_samplesPerTick]

theorem toNat_sample_samples (raw : Buttons) :
    (panel.sample raw).samples.toNat = min (panel.samples.toNat + 1) 255 :=
  TickCount.toNat_succ panel.samples

theorem toNat_poll_samples :
    panel.poll.samples.toNat =
      if panel.due then panel.samples.toNat - max panel.settings.samplesPerTick.toNat 1
      else panel.samples.toNat := by
  have hpoll : panel.poll.samples =
      if panel.due then panel.samples - panel.samplesPerTick else panel.samples := by rw [poll_eq]
  rw [hpoll]
  split
  · next hdue =>
    have hle : panel.samplesPerTick ≤ panel.samples := of_decide_eq_true hdue
    rw [UInt8.toNat_sub_of_le _ _ hle, toNat_samplesPerTick]
  · rfl

theorem poll_watch_of_engages {panel : Panel} (h : panel.engages = true) :
    panel.poll.watch = { panel.watch with mode := .restarting } := by
  rw [poll_eq, observeChord_of_engages h]

theorem poll_watch_of_not_engages {panel : Panel} (h : panel.engages = false) :
    panel.poll.watch = panel.watch := by
  rw [poll_eq, observeChord_of_not_engages h]

theorem engages_of_restarting {panel : Panel} (h : panel.watch.mode = .restarting) :
    panel.engages = false := by
  rw [engages, ChordWatch.engages, h]
  rfl

theorem restarting_run {panel : Panel} (h : panel.watch.mode = .restarting)
    (events : List Event) : (panel.run events).watch.mode = .restarting := by
  have hnext : ∀ (panel : Panel) (event : Event), panel.watch.mode = .restarting →
      (panel.next event).watch.mode = .restarting := by
    intro panel event h
    cases event with
    | poll => exact (poll_watch_of_not_engages (engages_of_restarting h)).symm ▸ h
    | subframe | sample _ | receive _ | take _ => exact h
  exact run_invariant hnext h events

theorem normal_of_run {panel : Panel} {events : List Event}
    (h : (panel.run events).watch.mode = .normal) : panel.watch.mode = .normal := by
  cases hmode : panel.watch.mode with
  | normal => rfl
  | restarting =>
    rw [restarting_run hmode events] at h
    exact absurd h nofun

theorem not_engages_of_normal {panel : Panel} (h : panel.poll.watch.mode = .normal) :
    panel.engages = false := by
  cases hengages : panel.engages with
  | false => rfl
  | true =>
    rw [poll_watch_of_engages hengages] at h
    exact absurd h nofun

theorem observeChord_buffer :
    panel.observeChord.buffer =
      if panel.engages then (panel.buffer.replace panel.watch.flash).lock else panel.buffer := by
  cases h : panel.engages with
  | true => rw [observeChord_of_engages h]; rfl
  | false => rw [observeChord_of_not_engages h]; rfl

theorem observeChord_locked :
    panel.observeChord.buffer.locked = (panel.engages || panel.buffer.locked) := by
  rw [observeChord_buffer]
  cases panel.engages <;> rfl

theorem poll_locked : panel.poll.buffer.locked = (panel.engages || panel.buffer.locked) := by
  rw [poll_eq, ← observeChord_locked]
  cases hanimates : panel.animates with
  | true => exact DoubleBuffer.locked_swap _
  | false =>
    have hengages : panel.engages = false := (Bool.or_eq_false_iff.mp hanimates).2
    rw [observeChord_of_not_engages hengages]
    rfl

theorem next_watch {event : Event} (h : event ≠ .poll) :
    (panel.next event).watch = panel.watch := by
  cases event with
  | poll => exact absurd rfl h
  | subframe | sample _ | receive _ | take _ => rfl

theorem next_locked {event : Event} (h : event ≠ .poll) :
    (panel.next event).buffer.locked = panel.buffer.locked := by
  cases event with
  | poll => exact absurd rfl h
  | receive byte => exact DoubleBuffer.locked_accept panel.buffer byte _
  | subframe | sample _ | take _ => rfl

theorem begins_of_restarting {panel : Panel} {event : Event} (hnormal : panel.watch.mode = .normal)
    (h : (panel.next event).watch.mode = .restarting) : event = .poll ∧ panel.engages = true := by
  by_cases hpoll : event = .poll
  · subst hpoll
    refine ⟨rfl, ?_⟩
    cases hengages : panel.engages with
    | true => rfl
    | false =>
      have hwatch := poll_watch_of_not_engages hengages
      rw [next, hwatch, hnormal] at h
      exact absurd h nofun
  · rw [panel.next_watch hpoll, hnormal] at h
    exact absurd h nofun

/-- A panel with the given settings, whose watch looks for their chord. -/
structure SetUp (settings : Settings) (panel : Panel) : Prop where
  settings_eq : panel.settings = settings
  chord_eq : panel.watch.chord = settings.chord
  flashTicks_eq : panel.watch.flashTicks = TickCount.atLeastOne settings.flashTicks

theorem setUp_start (settings : Settings) : (start settings).SetUp settings := ⟨rfl, rfl, rfl⟩

theorem SetUp.next {settings : Settings} {panel : Panel} (h : panel.SetUp settings)
    (event : Event) : (panel.next event).SetUp settings := by
  obtain ⟨hsettings, hchord, hflash⟩ := h
  cases event with
  | poll =>
    have hpoll : panel.poll.settings = panel.settings := by rw [poll_eq]
    refine ⟨hpoll.trans hsettings, ?_, ?_⟩
    · change panel.poll.watch.chord = settings.chord
      cases hengages : panel.engages with
      | true => rw [poll_watch_of_engages hengages]; exact hchord
      | false => rw [poll_watch_of_not_engages hengages]; exact hchord
    · change panel.poll.watch.flashTicks = _
      cases hengages : panel.engages with
      | true => rw [poll_watch_of_engages hengages]; exact hflash
      | false => rw [poll_watch_of_not_engages hengages]; exact hflash
  | subframe | sample _ | receive _ | take _ => exact ⟨hsettings, hchord, hflash⟩

theorem setUp_run (settings : Settings) (events : List Event) :
    ((start settings).run events).SetUp settings :=
  run_invariant (fun _ event h => h.next event) (setUp_start settings) events

variable {settings : Settings} {panel : Panel}

theorem SetUp.due_iff (h : panel.SetUp settings) :
    panel.due = true ↔ max settings.samplesPerTick.toNat 1 ≤ panel.samples.toNat := by
  rw [Panel.due_iff, h.settings_eq]

theorem SetUp.toNat_poll_samples (h : panel.SetUp settings) :
    panel.poll.samples.toNat =
      if panel.due then panel.samples.toNat - max settings.samplesPerTick.toNat 1
      else panel.samples.toNat := by
  rw [Panel.toNat_poll_samples, h.settings_eq]

theorem locked_iff_restarting (settings : Settings) (events : List Event) :
    ((start settings).run events).buffer.locked = true ↔
      ((start settings).run events).watch.mode = .restarting := by
  have hstart : (start settings).buffer.locked = true ↔
      (start settings).watch.mode = .restarting := ⟨nofun, nofun⟩
  have hnext : ∀ (panel : Panel) (event : Event),
      (panel.buffer.locked = true ↔ panel.watch.mode = .restarting) →
        ((panel.next event).buffer.locked = true ↔
          (panel.next event).watch.mode = .restarting) := by
    intro panel event h
    by_cases hpoll : event = .poll
    · subst hpoll
      change panel.poll.buffer.locked = true ↔ panel.poll.watch.mode = .restarting
      rw [poll_locked]
      cases hengages : panel.engages with
      | true => rw [poll_watch_of_engages hengages]; simp
      | false => rw [poll_watch_of_not_engages hengages, Bool.false_or]; exact h
    · rw [panel.next_locked hpoll, panel.next_watch hpoll]
      exact h
  exact run_invariant hnext hstart events

/-- The events of a run that count in the state in which the panel meets them. -/
def tally (panel : Panel) (counts : Panel → Event → Bool) : List Event → Nat
  | [] => 0
  | event :: events => (counts panel event).toNat + (panel.next event).tally counts events

/-- Whether the event is a poll that plays a tick of the pattern. -/
def playsTick (panel : Panel) : Event → Bool
  | .poll => panel.animates
  | .subframe | .sample _ | .receive _ | .take _ => false

def ticks (panel : Panel) (events : List Event) : Nat :=
  panel.tally playsTick events

end Panel

end LampPanel
