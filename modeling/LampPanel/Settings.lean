import LampPanel.Buttons

/-!
# Settings of the panel

The values that a panel is set up with, the faults that make them unfit, and the times and rates
that follow from them.
-/

namespace LampPanel

structure Duration where
  millis : UInt32
deriving DecidableEq

namespace Duration

def zero : Duration := ⟨0⟩

instance : Inhabited Duration where
  default := zero

/-- The duration of whole seconds, or the greatest one. -/
def ofSeconds (seconds : UInt32) : Duration :=
  if seconds ≤ 4294967 then ⟨seconds * 1000⟩ else ⟨4294967295⟩

/-- The duration of some ticks of a timer that runs at `rate` ticks a second; zero for no rate. -/
def ofTicks (ticks rate : UInt32) : Duration :=
  if rate = 0 then zero
  else ⟨(ticks.toUInt64 * 1000 / rate.toUInt64).toUInt32⟩

theorem toNat_ofSeconds (seconds : UInt32) :
    (ofSeconds seconds).millis.toNat = min (seconds.toNat * 1000) (UInt32.size - 1) := by
  unfold ofSeconds
  simp only [UInt32.le_iff_toNat_le, UInt32.reduceToNat, UInt32.size]
  split
  · rw [UInt32.toNat_mul]
    simp only [UInt32.reduceToNat]
    omega
  · simp only [UInt32.reduceToNat]
    omega

theorem toNat_ofTicks (ticks rate : UInt32) :
    (ofTicks ticks rate).millis.toNat = ticks.toNat * 1000 / rate.toNat % UInt32.size := by
  have hticks := ticks.toNat_lt
  unfold ofTicks
  split
  · next h =>
    subst h
    simp [zero]
  · have hproduct : ticks.toNat * 1000 % 2 ^ 64 = ticks.toNat * 1000 := Nat.mod_eq_of_lt (by omega)
    simp only [UInt64.toNat_toUInt32, UInt64.toNat_div, UInt64.toNat_mul, UInt32.toNat_toUInt64,
      UInt64.reduceToNat, hproduct]

end Duration

/-- Samples of the buttons a second. -/
def sampleRate : UInt32 := 120

/-- Subframes of the lamp a second. -/
def subframeRate : UInt32 := 123000

structure Settings where
  /-- Subframes in a period of the lamp. -/
  subframes : UInt16
  /-- Samples of the buttons from one tick of the pattern to the next. -/
  samplesPerTick : UInt8
  /-- How long the watchdog waits before it restarts the device. -/
  watchdog : Duration
  /-- The buttons that begin the restart. -/
  chord : Buttons
  /-- Ticks of each half of the restart flash. -/
  flashTicks : UInt8
deriving DecidableEq

inductive SettingsFault where
  | noSubframes
  | noSamplesPerTick
  | noWatchdog
  | noChord
  | noFlashTicks
deriving DecidableEq

def SettingsFault.message : SettingsFault → String
  | .noSubframes => "PWM period must have at least one step"
  | .noSamplesPerTick => "animation divider must be at least one debounce tick"
  | .noWatchdog => "watchdog timeout must be non-zero"
  | .noChord => "reset combination must include at least one button"
  | .noFlashTicks => "reset flash phases must last at least one animation tick"

inductive Setting where
  | subframes (count : UInt16)
  | samplesPerTick (count : UInt8)
  | watchdog (timeout : Duration)
  | chord (buttons : Buttons)
  | flashTicks (count : UInt8)
deriving DecidableEq

namespace Settings

/-- The settings of the reference device: eight-bit dimming, forty ticks a second, one second until
the restart, and the chord of setup and down. -/
def standard : Settings where
  subframes := 256
  samplesPerTick := 3
  watchdog := .ofSeconds 1
  chord := {Button.setup} ∪ {Button.down}
  flashTicks := 4

instance : Inhabited Settings where
  default := standard

def change (settings : Settings) : Setting → Settings
  | .subframes count => { settings with subframes := count }
  | .samplesPerTick count => { settings with samplesPerTick := count }
  | .watchdog timeout => { settings with watchdog := timeout }
  | .chord buttons => { settings with chord := buttons }
  | .flashTicks count => { settings with flashTicks := count }

/-- Passes fit settings on and reports the first fault of others. -/
def validate (settings : Settings) : Except SettingsFault Settings :=
  if settings.subframes = 0 then .error .noSubframes
  else if settings.samplesPerTick = 0 then .error .noSamplesPerTick
  else if settings.watchdog = .zero then .error .noWatchdog
  else if settings.chord = ∅ then .error .noChord
  else if settings.flashTicks = 0 then .error .noFlashTicks
  else .ok settings

def build (changes : List Setting) : Except SettingsFault Settings :=
  (changes.foldl change standard).validate

/-- No value is zero, and the chord has a button. -/
structure Fit (settings : Settings) : Prop where
  subframes : settings.subframes ≠ 0
  samplesPerTick : settings.samplesPerTick ≠ 0
  watchdog : settings.watchdog ≠ .zero
  chord : settings.chord ≠ ∅
  flashTicks : settings.flashTicks ≠ 0

theorem fit_standard : standard.Fit := by
  constructor <;> decide

def tickPeriod (settings : Settings) : Duration :=
  .ofTicks settings.samplesPerTick.toUInt32 sampleRate

def flashHalfPeriod (settings : Settings) : Duration :=
  .ofTicks (settings.samplesPerTick.toUInt32 * settings.flashTicks.toUInt32) sampleRate

def lampFrequency (settings : Settings) : UInt32 :=
  if settings.subframes = 0 then 0 else subframeRate / settings.subframes.toUInt32

/-- Halves of the flash that fit into the wait for the restart; none if a half takes no time. -/
def flashesBeforeRestart (settings : Settings) : UInt32 :=
  if settings.flashHalfPeriod.millis = 0 then 0
  else settings.watchdog.millis / settings.flashHalfPeriod.millis

inductive Field where
  | subframes
  | samplesPerTick
  | watchdog
  | chord
  | flashTicks
deriving DecidableEq

namespace Field

/-- The fields in the order in which their faults are reported. -/
def inOrder : List Field := [.subframes, .samplesPerTick, .watchdog, .chord, .flashTicks]

def Value : Field → Type
  | .subframes => UInt16
  | .samplesPerTick => UInt8
  | .watchdog => Duration
  | .chord => Buttons
  | .flashTicks => UInt8

instance (field : Field) : DecidableEq field.Value :=
  match field with
  | .subframes => inferInstanceAs (DecidableEq UInt16)
  | .samplesPerTick => inferInstanceAs (DecidableEq UInt8)
  | .watchdog => inferInstanceAs (DecidableEq Duration)
  | .chord => inferInstanceAs (DecidableEq Buttons)
  | .flashTicks => inferInstanceAs (DecidableEq UInt8)

/-- The one value of the field that makes settings unfit. -/
def unfit : (field : Field) → field.Value
  | .subframes => (0 : UInt16)
  | .samplesPerTick => (0 : UInt8)
  | .watchdog => Duration.zero
  | .chord => (∅ : Buttons)
  | .flashTicks => (0 : UInt8)

def fault : Field → SettingsFault
  | .subframes => .noSubframes
  | .samplesPerTick => .noSamplesPerTick
  | .watchdog => .noWatchdog
  | .chord => .noChord
  | .flashTicks => .noFlashTicks

theorem mem_inOrder (field : Field) : field ∈ inOrder := by
  cases field <;> decide

end Field

def get (settings : Settings) : (field : Field) → field.Value
  | .subframes => settings.subframes
  | .samplesPerTick => settings.samplesPerTick
  | .watchdog => settings.watchdog
  | .chord => settings.chord
  | .flashTicks => settings.flashTicks

theorem ext_get {left right : Settings} (h : ∀ field, left.get field = right.get field) :
    left = right := by
  have hsubframes := h .subframes
  have hsamples := h .samplesPerTick
  have hwatchdog := h .watchdog
  have hchord := h .chord
  have hflash := h .flashTicks
  cases left
  cases right
  simp_all only [get]

end Settings

open Settings (Field)

namespace Setting

def field : Setting → Field
  | .subframes _ => .subframes
  | .samplesPerTick _ => .samplesPerTick
  | .watchdog _ => .watchdog
  | .chord _ => .chord
  | .flashTicks _ => .flashTicks

/-- What a field is set to, if it is the one that is set. -/
def value? : (field : Field) → Setting → Option field.Value
  | .subframes, .subframes count => some count
  | .samplesPerTick, .samplesPerTick count => some count
  | .watchdog, .watchdog timeout => some timeout
  | .chord, .chord buttons => some buttons
  | .flashTicks, .flashTicks count => some count
  | _, _ => none

theorem value?_of_field_ne {field : Field} {setting : Setting} (h : setting.field ≠ field) :
    setting.value? field = none := by
  revert h
  cases field <;> cases setting <;> simp [Setting.field, value?]

end Setting

namespace Settings

theorem get_change (settings : Settings) (setting : Setting) (field : Field) :
    (settings.change setting).get field = (setting.value? field).getD (settings.get field) := by
  cases field <;> cases setting <;> rfl

theorem fit_iff {settings : Settings} :
    settings.Fit ↔ ∀ field, settings.get field ≠ field.unfit := by
  constructor
  · intro h field
    cases field with
    | subframes => exact h.subframes
    | samplesPerTick => exact h.samplesPerTick
    | watchdog => exact h.watchdog
    | chord => exact h.chord
    | flashTicks => exact h.flashTicks
  · intro h
    exact ⟨h .subframes, h .samplesPerTick, h .watchdog, h .chord, h .flashTicks⟩

def firstUnfit? (settings : Settings) : Option Field :=
  Field.inOrder.find? fun field => settings.get field = field.unfit

theorem firstUnfit?_eq_none_iff {settings : Settings} :
    settings.firstUnfit? = none ↔ settings.Fit := by
  rw [firstUnfit?, List.find?_eq_none, fit_iff]
  simp [Field.mem_inOrder]

private theorem elim_find?_cons (settings : Settings) (field : Field) (later : List Field) :
    ((field :: later).find? fun field => settings.get field = field.unfit).elim
        (Except.ok settings) (fun field => .error field.fault) =
      if settings.get field = field.unfit then .error field.fault
      else (later.find? fun field => settings.get field = field.unfit).elim
        (Except.ok settings) (fun field => .error field.fault) := by
  rw [List.find?_cons]
  by_cases hunfit : settings.get field = field.unfit
  · rw [if_pos hunfit, decide_eq_true hunfit]
    rfl
  · rw [if_neg hunfit, decide_eq_false hunfit]

theorem validate_eq (settings : Settings) :
    settings.validate =
      settings.firstUnfit?.elim (.ok settings) fun field => .error field.fault := by
  rw [firstUnfit?, Field.inOrder]
  simp only [elim_find?_cons]
  rfl

theorem validate_eq_ok_iff {settings result : Settings} :
    settings.validate = .ok result ↔ settings.Fit ∧ result = settings := by
  rw [validate_eq, ← firstUnfit?_eq_none_iff]
  cases settings.firstUnfit? with
  | none => simp [eq_comm]
  | some field => simp

theorem validate_eq_error_iff {settings : Settings} {fault : SettingsFault} :
    settings.validate = .error fault ↔
      ∃ field, settings.firstUnfit? = some field ∧ field.fault = fault := by
  rw [validate_eq]
  cases settings.firstUnfit? with
  | none => simp
  | some field => simp

end Settings

def quotient? {α : Type} [Div α] [OfNat α 0] [DecidableEq α] (left right : α) : Option α :=
  if right = 0 then none else some (left / right)

theorem quotient?_of_ne_zero {α : Type} [Div α] [OfNat α 0] [DecidableEq α] {left right : α}
    (h : right ≠ 0) : quotient? left right = some (left / right) :=
  if_neg h

namespace Duration

def ofTicks? (ticks rate : UInt32) : Option Duration :=
  if rate = 0 then some zero
  else (quotient? (ticks.toUInt64 * 1000) rate.toUInt64).map fun millis => ⟨millis.toUInt32⟩

theorem ofTicks?_eq (ticks rate : UInt32) : ofTicks? ticks rate = some (ofTicks ticks rate) := by
  rw [ofTicks?, ofTicks]
  by_cases hrate : rate = 0
  · rw [if_pos hrate, if_pos hrate]
  · -- A rate stays what it is in the wider word.
    have hwide : rate.toUInt64 ≠ 0 := by
      intro hzero
      apply hrate
      rw [← UInt32.toNat_inj]
      simpa using congrArg UInt64.toNat hzero
    rw [if_neg hrate, if_neg hrate, quotient?_of_ne_zero hwide]
    rfl

end Duration

namespace Settings

def flashHalfPeriod? (settings : Settings) : Option Duration :=
  Duration.ofTicks? (settings.samplesPerTick.toUInt32 * settings.flashTicks.toUInt32) sampleRate

def flashesBeforeRestart? (settings : Settings) : Option UInt32 := do
  let half ← settings.flashHalfPeriod?
  if half.millis = 0 then return 0
  quotient? settings.watchdog.millis half.millis

theorem flashesBeforeRestart?_eq (settings : Settings) :
    settings.flashesBeforeRestart? = some settings.flashesBeforeRestart := by
  have hhalf : settings.flashHalfPeriod? = some settings.flashHalfPeriod :=
    Duration.ofTicks?_eq _ _
  rw [flashesBeforeRestart?, hhalf, flashesBeforeRestart, Option.bind_eq_bind, Option.bind_some]
  by_cases hzero : settings.flashHalfPeriod.millis = 0
  · rw [if_pos hzero, if_pos hzero]
    rfl
  · rw [if_neg hzero, if_neg hzero]
    exact quotient?_of_ne_zero hzero

end Settings

end LampPanel
