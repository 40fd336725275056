import LampPanel.Proofs.Restart

/-!
# Settings that are built, and settings that are not validated
-/

namespace LampPanel

namespace Settings

/-- What the field is set to last, or its standard value if it is never set. -/
def lastSet (changes : List Setting) (field : Field) : field.Value :=
  (changes.filterMap (Setting.value? field)).getLastD (standard.get field)

theorem get_foldl_change (settings : Settings) (changes : List Setting) (field : Field) :
    (changes.foldl change settings).get field =
      (changes.filterMap (Setting.value? field)).getLastD (settings.get field) := by
  induction changes generalizing settings with
  | nil => rfl
  | cons setting changes ih =>
    rw [List.foldl_cons, ih, get_change]
    cases hvalue : setting.value? field with
    | none => rw [List.filterMap_cons_none hvalue, Option.getD_none]
    | some value => rw [List.filterMap_cons_some hvalue, Option.getD_some, List.getLastD_cons]

theorem get_built (changes : List Setting) (field : Field) :
    (changes.foldl change standard).get field = lastSet changes field :=
  get_foldl_change standard changes field

theorem build_eq_ok_iff {changes : List Setting} {settings : Settings} :
    build changes = .ok settings ↔
      (∀ field, lastSet changes field ≠ field.unfit) ∧
        ∀ field, settings.get field = lastSet changes field := by
  have hbuilt : settings = changes.foldl change standard ↔
      ∀ field, settings.get field = lastSet changes field := by
    constructor
    · rintro rfl field
      exact get_built changes field
    · intro h
      apply ext_get
      intro field
      rw [h, get_built]
  rw [build, validate_eq_ok_iff, fit_iff, hbuilt]
  simp only [get_built]

theorem build_eq_error_iff {changes : List Setting} {fault : SettingsFault} :
    build changes = .error fault ↔
      ∃ field, (Field.inOrder.find? fun field => lastSet changes field = field.unfit) = some field ∧
        field.fault = fault := by
  rw [build, validate_eq_error_iff, firstUnfit?]
  simp only [get_built]

private theorem filterMap_value?_filter (changes : List Setting) (field : Field) :
    (changes.filter fun setting => setting.field = field).filterMap (Setting.value? field) =
      changes.filterMap (Setting.value? field) := by
  rw [List.filterMap_filter]
  congr 1
  funext setting
  split
  · rfl
  · next hother => exact (Setting.value?_of_field_ne (by simpa using hother)).symm

theorem foldl_change_congr {left right : List Setting} (settings : Settings)
    (h : ∀ field, (left.filter fun setting => setting.field = field) =
      right.filter fun setting => setting.field = field) :
    left.foldl change settings = right.foldl change settings := by
  apply ext_get
  intro field
  rw [get_foldl_change, get_foldl_change, ← filterMap_value?_filter left,
    ← filterMap_value?_filter right, h]

end Settings

open Settings (Field)

namespace Panel

theorem SetUp.not_engages_of_released {settings : Settings} {panel : Panel}
    (h : panel.SetUp settings) (hchord : settings.chord ≠ ∅) (hreleased : panel.keypad.held = ∅) :
    panel.engages = false := by
  rw [← Bool.not_eq_true, h.engages_iff]
  rintro ⟨_, hheld⟩
  exact hchord (hheld.symm.trans hreleased)

end Panel

namespace Settings

/-- Changes are accepted exactly if what they set each field to last is fit; otherwise the fault of
the first unfit field is reported. Only the order of changes to one field matters. -/
theorem built_from_last_set (changes : List Setting) :
    (∀ settings, build changes = .ok settings ↔
        (∀ field, lastSet changes field ≠ field.unfit) ∧
          ∀ field, settings.get field = lastSet changes field) ∧
      (∀ fault, build changes = .error fault ↔
        ∃ field, (Field.inOrder.find? fun field => lastSet changes field = field.unfit) = some field ∧
          field.fault = fault) ∧
      (∀ reordered : List Setting,
        (∀ field, (reordered.filter fun setting => setting.field = field) =
          changes.filter fun setting => setting.field = field) →
        build reordered = build changes) ∧
      (∀ settings, build changes = .ok settings → ∀ events,
        let panel := (Panel.start settings).run events
        panel.keypad.held = ∅ →
          panel.engages = false ∧ panel.poll.watch.mode = panel.watch.mode ∧
            (panel.emit .poll).filter Output.isRestartCall = []) := by
  refine ⟨fun _ => build_eq_ok_iff, fun _ => build_eq_error_iff, ?_, ?_⟩
  · intro reordered hsame
    rw [build, build, foldl_change_congr standard hsame]
  · intro settings haccepted events panel hreleased
    have hpanel : panel.SetUp settings := Panel.setUp_run settings events
    have hchord : settings.chord ≠ ∅ := by
      obtain ⟨hfit, hlast⟩ := build_eq_ok_iff.mp haccepted
      have hset : settings.get .chord ≠ Field.unfit .chord := hlast .chord ▸ hfit .chord
      exact hset
    have hengages := hpanel.not_engages_of_released hchord hreleased
    refine ⟨hengages, congrArg ChordWatch.mode (Panel.poll_watch_of_not_engages hengages), ?_⟩
    rw [hpanel.filter_emit]
    exact if_neg fun hbegins => hchord (hbegins.2.1.symm.trans hreleased)

/-- An unfit value is mended by a later one of the same field. The panel looks in vain for a chord
of one button once that button is let go. -/
theorem built_from_last_set_mended :
    let changes : List Setting :=
      [.flashTicks 0, .chord {Button.main}, .flashTicks 7, .subframes 700]
    let reordered : List Setting :=
      [.subframes 700, .flashTicks 0, .flashTicks 7, .chord {Button.main}]
    let settings : Settings := ⟨700, 3, .ofSeconds 1, {Button.main}, 7⟩
    let events : List Event :=
      [.sample {Button.main}, .sample {Button.main}, .sample ∅, .sample ∅]
    let panel := (Panel.start settings).run events
    build changes = .ok settings ∧ build reordered = .ok settings ∧ panel.keypad.held = ∅ ∧
      panel.engages = false := by
  intro changes reordered settings events panel
  obtain ⟨_, _, hreordered, hquiet⟩ := built_from_last_set changes
  have hbuilt : build changes = .ok settings := rfl
  have hsame : ∀ field, (reordered.filter fun setting => setting.field = field) =
      changes.filter fun setting => setting.field = field := by
    intro field
    cases field <;> rfl
  have hreleased : panel.keypad.held = ∅ := by decide
  exact ⟨hbuilt, (hreordered reordered hsame).trans hbuilt, hreleased,
    (hquiet settings hbuilt events hreleased).1⟩

/-- Of two fields that are unfit in the end the first in order is reported. -/
example :
    build [.flashTicks 0, .subframes 0, .chord ∅, .subframes 700, .chord ∅] = .error .noChord :=
  rfl

end Settings

/-- The settings with every count of zero raised to one. -/
def Settings.raised (settings : Settings) : Settings :=
  { settings with
    subframes := if settings.subframes = 0 then 1 else settings.subframes
    samplesPerTick := if settings.samplesPerTick = 0 then 1 else settings.samplesPerTick
    flashTicks := if settings.flashTicks = 0 then 1 else settings.flashTicks }

theorem TickCount.atLeastOne_raised (count : UInt8) :
    atLeastOne (if count = 0 then 1 else count) = atLeastOne count := by
  by_cases hzero : count = 0
  · rw [if_pos hzero, hzero]
    rfl
  · rw [if_neg hzero]

theorem Modulator.start_raised (steps : UInt16) :
    start (if steps = 0 then 1 else steps) = start steps := by
  by_cases hzero : steps = 0
  · rw [if_pos hzero, hzero]
    rfl
  · rw [if_neg hzero]

namespace Panel

def raised (panel : Panel) : Panel :=
  { panel with settings := panel.settings.raised }

theorem start_raised (settings : Settings) : start settings.raised = (start settings).raised := by
  have hwatch : ChordWatch.start settings.chord settings.raised.flashTicks =
      ChordWatch.start settings.chord settings.flashTicks := by
    rw [ChordWatch.start, ChordWatch.start]
    exact congrArg _ (TickCount.atLeastOne_raised settings.flashTicks)
  have hmodulator : Modulator.start settings.raised.subframes =
      Modulator.start settings.subframes := Modulator.start_raised settings.subframes
  rw [start, start, hmodulator]
  show Panel.mk settings.raised _ _ _ _ (ChordWatch.start settings.chord _) _ _ _ = _
  rw [hwatch]
  rfl

variable (panel : Panel)

theorem samplesPerTick_raised : panel.raised.samplesPerTick = panel.samplesPerTick :=
  TickCount.atLeastOne_raised panel.settings.samplesPerTick

theorem due_raised : panel.raised.due = panel.due := by
  rw [due, due, samplesPerTick_raised]
  rfl

theorem animates_raised : panel.raised.animates = panel.animates := by
  rw [animates, animates, due_raised]
  rfl

theorem poll_raised : panel.raised.poll = panel.poll.raised := by
  rw [poll_eq, poll_eq, due_raised, samplesPerTick_raised, animates_raised]
  rfl

theorem next_raised (event : Event) : panel.raised.next event = (panel.next event).raised := by
  cases event with
  | poll => exact panel.poll_raised
  | subframe | sample _ | receive _ | take _ => rfl

theorem emit_raised (event : Event) : panel.raised.emit event = panel.emit event := by
  cases event with
  | poll =>
    have houtcome : panel.raised.outcome = panel.outcome := by
      rw [outcome, outcome, poll_raised, due_raised]
      rfl
    rw [emit, emit, houtcome]
    rfl
  | subframe | sample _ | receive _ | take _ => rfl

theorem run_raised (events : List Event) : panel.raised.run events = (panel.run events).raised := by
  induction events generalizing panel with
  | nil => rfl
  | cons event events ih => rw [run_cons, run_cons, next_raised, ih]

theorem emits_raised (events : List Event) : panel.raised.emits events = panel.emits events := by
  induction events generalizing panel with
  | nil => rfl
  | cons event events ih => rw [emits, emits, emit_raised, next_raised, ih]

variable {panel}

theorem Flashing.duty_poll {played : Nat} (h : Flashing 1 played panel) (hdue : panel.due = true) :
    panel.poll.duty = if panel.duty = .black then .gray 254 else .black := by
  have hanimates : panel.animates = true := by rw [animates, hdue, Bool.true_or]
  have hlater := (h.run (by decide) [.poll]).duty_eq
  have hticks : panel.ticks [.poll] = 1 := congrArg Bool.toNat hanimates
  have hone : (1 : UInt8).toNat = 1 := rfl
  have hwhite : ¬ Rgb.gray 254 = .black := by decide
  rw [hticks, hone, Nat.div_one] at hlater
  show (panel.run [.poll]).duty = _
  rw [hlater, h.duty_eq, hone, Nat.div_one]
  by_cases heven : played % 2 = 0
  · rw [if_neg (by omega), if_pos heven, if_neg hwhite]
  · rw [if_pos (by omega), if_neg heven, if_pos rfl]

/-- Raising the zeros in settings to one changes nothing of what a run does and answers. With a
flash of zero ticks, every tick of the restart turns the lamp over. -/
theorem zeros_act_as_one (settings : Settings) (events : List Event) :
    let panel := (start settings).run events
    (start settings.raised).emits events = (start settings).emits events ∧
      (start settings.raised).run events = { panel with settings := settings.raised } ∧
      (settings.flashTicks = 0 → panel.watch.mode = .restarting → panel.due = true →
        panel.poll.duty = if panel.duty = .black then .gray 254 else .black) := by
  intro panel
  have hsettings : panel.settings = settings := (setUp_run settings events).settings_eq
  refine ⟨?_, ?_, ?_⟩
  · rw [start_raised, emits_raised]
  · rw [start_raised, run_raised]
    show ({ panel with settings := panel.settings.raised } : Panel) = _
    rw [hsettings]
  · intro hzero hrestarting hdue
    obtain ⟨played, hflashing⟩ := exists_flashing settings events hrestarting
    have hhalf : TickCount.atLeastOne settings.flashTicks = 1 := by
      rw [hzero]
      rfl
    rw [hhalf] at hflashing
    exact hflashing.duty_poll hdue

/-- The poll that finds the chord lights the lamp, the next one darkens it, and one more sample
makes a tick due that lights it again. -/
theorem zeros_act_as_one_flash :
    let settings : Settings := ⟨0, 0, .zero, {Button.up}, 0⟩
    let events := [Event.sample {Button.up}, .sample {Button.up}, .poll, .subframe, .poll, .sample ∅]
    let panel := (start settings).run events
    settings.flashTicks = 0 ∧ panel.watch.mode = .restarting ∧ panel.due = true ∧
      panel.duty = .black ∧ panel.poll.duty = .gray 254 ∧
      (start settings.raised).emits events = (start settings).emits events := by
  intro settings events panel
  have hrestarting : panel.watch.mode = .restarting := by decide
  have hdue : panel.due = true := by decide
  have hdark : panel.duty = .black := by decide
  obtain ⟨hemits, _, hturns⟩ := zeros_act_as_one settings events
  have hduty := hturns rfl hrestarting hdue
  rw [hdark, if_pos rfl] at hduty
  exact ⟨rfl, hrestarting, hdue, hdark, hduty, hemits⟩

end Panel

end LampPanel
