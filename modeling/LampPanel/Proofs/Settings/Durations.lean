import LampPanel.Settings
import Mathlib.Tactic.Ring

/-!
# Durations and the count of flashes

Durations are whole milliseconds in a word of 32 bits.
-/

namespace LampPanel

namespace Settings

/-- Samples of the buttons in a half of the flash. -/
def flashSamples (settings : Settings) : Nat :=
  settings.samplesPerTick.toNat * settings.flashTicks.toNat

theorem flashSamples_lt (settings : Settings) : settings.flashSamples < 256 * 256 :=
  Nat.mul_lt_mul'' settings.samplesPerTick.toNat_lt settings.flashTicks.toNat_lt

theorem toNat_mul_flashTicks (settings : Settings) :
    (settings.samplesPerTick.toUInt32 * settings.flashTicks.toUInt32).toNat =
      settings.flashSamples := by
  have hfew : settings.flashSamples < 2 ^ 32 := lt_trans settings.flashSamples_lt (by decide)
  rw [UInt32.toNat_mul, UInt8.toNat_toUInt32, UInt8.toNat_toUInt32]
  exact Nat.mod_eq_of_lt hfew

theorem toNat_flashHalfPeriod (settings : Settings) :
    settings.flashHalfPeriod.millis.toNat = settings.flashSamples * 1000 / 120 := by
  have hfew := settings.flashSamples_lt
  have hrate : sampleRate.toNat = 120 := rfl
  rw [flashHalfPeriod, Duration.toNat_ofTicks, toNat_mul_flashTicks, hrate, UInt32.size]
  omega

theorem toNat_flashesBeforeRestart (settings : Settings) :
    settings.flashesBeforeRestart.toNat =
      settings.watchdog.millis.toNat / (settings.flashSamples * 1000 / 120) := by
  rw [← toNat_flashHalfPeriod, flashesBeforeRestart]
  split
  · next hzero =>
    rw [hzero]
    exact (Nat.div_zero _).symm
  · exact UInt32.toNat_div _ _

theorem flashSamples_eq_zero_iff {settings : Settings} :
    settings.flashSamples = 0 ↔ settings.samplesPerTick = 0 ∨ settings.flashTicks = 0 := by
  rw [flashSamples, Nat.mul_eq_zero]
  simp only [← UInt8.toNat_inj, UInt8.reduceToNat]

theorem Fit.flashSamples_pos {settings : Settings} (h : settings.Fit) :
    0 < settings.flashSamples := by
  apply Nat.pos_of_ne_zero
  rw [Ne, flashSamples_eq_zero_iff, not_or]
  exact ⟨h.samplesPerTick, h.flashTicks⟩

section Rounding

variable {length unit wait : Nat}

private theorem mul_length_le_iff :
    wait / (length / unit) * length ≤ wait * unit ↔
      wait / (length / unit) * (length % unit) ≤ wait % (length / unit) * unit := by
  have hpieces : wait / (length / unit) * length =
      length / unit * (wait / (length / unit)) * unit +
        wait / (length / unit) * (length % unit) :=
    calc wait / (length / unit) * length
        = wait / (length / unit) * (unit * (length / unit) + length % unit) := by
          rw [Nat.div_add_mod]
      _ = _ := by ring
  have hwait : wait * unit =
      length / unit * (wait / (length / unit)) * unit + wait % (length / unit) * unit := by
    rw [← Nat.add_mul, Nat.div_add_mod]
  rw [hpieces, hwait]
  exact Nat.add_le_add_iff_left

private theorem lt_succ_mul_length (hpos : 0 < length / unit) :
    wait * unit < (wait / (length / unit) + 1) * length := by
  have hunit : 0 < unit := Nat.pos_of_ne_zero fun hzero => by simp [hzero] at hpos
  calc wait * unit
      < (wait / (length / unit) + 1) * (length / unit) * unit := by
        rw [Nat.mul_lt_mul_right hunit]
        exact Nat.lt_mul_of_div_lt (Nat.lt_succ_self _) hpos
    _ = (wait / (length / unit) + 1) * (length / unit * unit) := Nat.mul_assoc _ _ _
    _ ≤ (wait / (length / unit) + 1) * length := Nat.mul_le_mul_left _ (Nat.div_mul_le_self _ _)

end Rounding

/-- Halves are counted as if cut to whole milliseconds, so the count is never too low; it is right
exactly if what is cut off from all of them fits into the rest of the wait. -/
theorem flash_count_right_iff {changes : List Setting} {settings : Settings}
    (hfit : build changes = .ok settings) :
    let half := settings.flashSamples * 1000
    let wait := settings.watchdog.millis.toNat
    let count := settings.flashesBeforeRestart.toNat
    (count * half ≤ wait * 120 ∧ wait * 120 < (count + 1) * half ↔
        count * (half % 120) ≤ wait % (half / 120) * 120) ∧
      wait * 120 < (count + 1) * half ∧
      count = wait / (half / 120) ∧
      (3 ∣ settings.flashSamples → count * half ≤ wait * 120) := by
  intro half wait count
  have hpos : 0 < half / 120 := by
    obtain ⟨hfields, rfl⟩ := validate_eq_ok_iff.mp hfit
    have hsamples := hfields.flashSamples_pos
    omega
  have hcount : count = wait / (half / 120) := toNat_flashesBeforeRestart _
  have hupper : wait * 120 < (count + 1) * half := by
    rw [hcount]
    exact lt_succ_mul_length hpos
  have hlower : count * half ≤ wait * 120 ↔ count * (half % 120) ≤ wait % (half / 120) * 120 := by
    rw [hcount]
    exact mul_length_le_iff
  refine ⟨(and_iff_left hupper).trans hlower, hupper, hcount, ?_⟩
  intro hthree
  have hwhole : half % 120 = 0 := by omega
  rw [hlower, hwhole, Nat.mul_zero]
  exact Nat.zero_le _

/-- A half of 1666 and two thirds milliseconds loses its fraction, and fits into the wait with it.
-/
theorem flash_count_right_iff_spare :
    let settings : Settings := ⟨256, 200, ⟨1670⟩, {Button.setup} ∪ {Button.down}, 1⟩
    build [.watchdog ⟨1670⟩, .samplesPerTick 200, .flashTicks 1] = .ok settings ∧
      settings.flashesBeforeRestart.toNat = 1 ∧
      1 * (settings.flashSamples * 1000) ≤ 1670 * 120 ∧
      1670 * 120 < (1 + 1) * (settings.flashSamples * 1000) := by
  intro settings
  have hfit : build [.watchdog ⟨1670⟩, .samplesPerTick 200, .flashTicks 1] = .ok settings := rfl
  obtain ⟨hright, -, -, -⟩ := flash_count_right_iff hfit
  have hone : settings.flashesBeforeRestart.toNat = 1 := by decide
  rw [hone] at hright
  exact ⟨hfit, hone, hright.mpr (by decide)⟩

/-- Of halves of eight and a third milliseconds a hundred and twenty-five are reported for a second,
into which a hundred and twenty fit. -/
theorem flash_count_too_high :
    let settings : Settings := { standard with samplesPerTick := 1, flashTicks := 1 }
    let half := settings.flashSamples * 1000
    let wait := settings.watchdog.millis.toNat
    let count := settings.flashesBeforeRestart.toNat
    build [.samplesPerTick 1, .flashTicks 1] = .ok settings ∧
      count = 125 ∧ 120 * half ≤ wait * 120 ∧ wait * 120 < (120 + 1) * half ∧
      ¬ (count * half ≤ wait * 120 ∧ wait * 120 < (count + 1) * half) := by
  intro settings half wait count
  exact ⟨rfl, by decide, by decide, by decide, by decide⟩

end Settings

namespace Duration

/-- Whether the milliseconds of some ticks of a timer fit into a word. -/
def Representable (ticks rate : UInt32) : Prop :=
  ticks.toNat * 1000 < rate.toNat * 2 ^ 32

instance (ticks rate : UInt32) : Decidable (Representable ticks rate) :=
  inferInstanceAs (Decidable (_ < _))

variable {ticks rate : UInt32}

theorem Representable.rate_pos (h : Representable ticks rate) : 0 < rate.toNat :=
  Nat.pos_of_mul_pos_right (Nat.zero_lt_of_lt h)

theorem toNat_ofTicks_eq_iff (hrate : 0 < rate.toNat) :
    (ofTicks ticks rate).millis.toNat = ticks.toNat * 1000 / rate.toNat ↔
      Representable ticks rate := by
  rw [toNat_ofTicks, Nat.mod_eq_iff_lt (by decide), Nat.div_lt_iff_lt_mul hrate,
    Nat.mul_comm _ rate.toNat]
  rfl

theorem representable_of_le (hrate : 1000 ≤ rate) : Representable ticks rate := by
  have hticks := ticks.toNat_lt
  rw [UInt32.le_iff_toNat_le] at hrate
  calc ticks.toNat * 1000
      < 2 ^ 32 * 1000 := Nat.mul_lt_mul_of_pos_right hticks (by decide)
    _ ≤ 2 ^ 32 * rate.toNat := Nat.mul_le_mul_left _ hrate
    _ = rate.toNat * 2 ^ 32 := Nat.mul_comm _ _

theorem Representable.mono (h : Representable ticks rate) {fewer faster : UInt32}
    (hticks : fewer ≤ ticks) (hrate : rate ≤ faster) : Representable fewer faster := by
  rw [UInt32.le_iff_toNat_le] at hticks hrate
  calc fewer.toNat * 1000
      ≤ ticks.toNat * 1000 := Nat.mul_le_mul_right _ hticks
    _ < rate.toNat * 2 ^ 32 := h
    _ ≤ faster.toNat * 2 ^ 32 := Nat.mul_le_mul_right _ hrate

theorem Representable.ofTicks_le (h : Representable ticks rate) {fewer faster : UInt32}
    (hticks : fewer ≤ ticks) (hrate : rate ≤ faster) :
    (ofTicks fewer faster).millis ≤ (ofTicks ticks rate).millis := by
  have hfewer := h.mono hticks hrate
  rw [UInt32.le_iff_toNat_le, (toNat_ofTicks_eq_iff h.rate_pos).mpr h,
    (toNat_ofTicks_eq_iff hfewer.rate_pos).mpr hfewer]
  rw [UInt32.le_iff_toNat_le] at hticks hrate
  exact Nat.div_le_div (Nat.mul_le_mul_right _ hticks) hrate (Nat.ne_of_gt h.rate_pos)

end Duration

open Duration (Representable)

namespace Settings

theorem representable_tickPeriod (settings : Settings) :
    Representable settings.samplesPerTick.toUInt32 sampleRate := by
  have hsamples := settings.samplesPerTick.toNat_lt
  have hrate : sampleRate.toNat = 120 := rfl
  rw [Representable, UInt8.toNat_toUInt32, hrate]
  omega

theorem representable_flashHalfPeriod (settings : Settings) :
    Representable (settings.samplesPerTick.toUInt32 * settings.flashTicks.toUInt32) sampleRate := by
  have hfew := settings.flashSamples_lt
  have hrate : sampleRate.toNat = 120 := rfl
  rw [Representable, toNat_mul_flashTicks, hrate]
  omega

theorem flashHalfPeriod_eq_zero_iff {settings : Settings} :
    settings.flashHalfPeriod = .zero ↔ settings.flashSamples = 0 := by
  have hlength := settings.toNat_flashHalfPeriod
  constructor
  · intro hzero
    rw [hzero] at hlength
    change 0 = _ at hlength
    omega
  · intro hzero
    rw [hzero] at hlength
    exact congrArg Duration.mk (UInt32.toNat_inj.mp hlength)

theorem Fit.flashHalfPeriod_ne_zero {settings : Settings} (h : settings.Fit) :
    settings.flashHalfPeriod.millis ≠ 0 := by
  intro hzero
  have hnone := flashHalfPeriod_eq_zero_iff.mp (congrArg Duration.mk hzero)
  exact h.flashSamples_pos.ne' hnone

/-- The milliseconds of some ticks are counted exactly if and only if they fit into a word. The
times of all settings fit, and no count of flashes divides by zero. -/
theorem durations_exact :
    (∀ ticks rate : UInt32, 0 < rate →
        ((Duration.ofTicks ticks rate).millis.toNat = ticks.toNat * 1000 / rate.toNat ↔
          ticks.toNat * 1000 < rate.toNat * 2 ^ 32)) ∧
      (∀ ticks rate : UInt32, 1000 ≤ rate → Representable ticks rate) ∧
      (∀ ticks rate fewer faster : UInt32, Representable ticks rate →
        fewer ≤ ticks → rate ≤ faster →
          Representable fewer faster ∧
            (Duration.ofTicks fewer faster).millis ≤ (Duration.ofTicks ticks rate).millis) ∧
      ∀ settings : Settings,
        let samples := settings.samplesPerTick.toUInt32
        let halfSamples := samples * settings.flashTicks.toUInt32
        (settings.tickPeriod = .ofTicks samples sampleRate ∧ Representable samples sampleRate) ∧
        (settings.flashHalfPeriod = .ofTicks halfSamples sampleRate ∧
          Representable halfSamples sampleRate ∧
          halfSamples.toNat = settings.samplesPerTick.toNat * settings.flashTicks.toNat) ∧
        (settings.flashHalfPeriod = .zero ↔
          settings.samplesPerTick = 0 ∨ settings.flashTicks = 0) ∧
        settings.flashesBeforeRestart? = some settings.flashesBeforeRestart ∧
        ∀ changes, build changes = .ok settings →
          settings.flashHalfPeriod.millis ≠ 0 ∧
            quotient? settings.watchdog.millis settings.flashHalfPeriod.millis =
              some settings.flashesBeforeRestart := by
  refine ⟨?_, fun _ _ => Duration.representable_of_le, ?_, ?_⟩
  · intro ticks rate hrate
    exact Duration.toNat_ofTicks_eq_iff hrate
  · intro ticks rate fewer faster h hticks hrate
    exact ⟨h.mono hticks hrate, h.ofTicks_le hticks hrate⟩
  · intro settings samples halfSamples
    refine ⟨⟨rfl, settings.representable_tickPeriod⟩,
      ⟨rfl, settings.representable_flashHalfPeriod, settings.toNat_mul_flashTicks⟩,
      flashHalfPeriod_eq_zero_iff.trans flashSamples_eq_zero_iff,
      settings.flashesBeforeRestart?_eq, ?_⟩
    intro changes haccepted
    obtain ⟨hfit, rfl⟩ := validate_eq_ok_iff.mp haccepted
    have hhalf := hfit.flashHalfPeriod_ne_zero
    refine ⟨hhalf, ?_⟩
    rw [quotient?_of_ne_zero hhalf, flashesBeforeRestart, if_neg hhalf]

/-- At a thousand ticks a second the greatest number of ticks just fits, at one less it does not. -/
theorem durations_exact_at_bound :
    let settings : Settings := ⟨256, 1, ⟨7⟩, {Button.setup} ∪ {Button.down}, 1⟩
    (Duration.ofTicks 4294967295 1000).millis.toNat = 4294967295 * 1000 / 1000 ∧
      (Duration.ofTicks 4294967295 999).millis.toNat ≠ 4294967295 * 1000 / 999 ∧
      (Duration.ofTicks 4294967294 1001).millis ≤ (Duration.ofTicks 4294967295 1000).millis ∧
      build [.watchdog ⟨7⟩, .samplesPerTick 1, .flashTicks 1] = .ok settings ∧
      quotient? settings.watchdog.millis settings.flashHalfPeriod.millis = some 0 := by
  intro settings
  obtain ⟨hexact, henough, hmono, hsettings⟩ := durations_exact
  have hfits : Representable 4294967295 1000 := henough 4294967295 1000 (by decide)
  have haccepted : build [.watchdog ⟨7⟩, .samplesPerTick 1, .flashTicks 1] = .ok settings := rfl
  obtain ⟨-, -, -, -, hcount⟩ := hsettings settings
  refine ⟨(hexact 4294967295 1000 (by decide)).mpr hfits, ?_, ?_, haccepted, ?_⟩
  · intro hequal
    have htoo : ¬ Representable 4294967295 999 := by decide
    exact htoo ((hexact 4294967295 999 (by decide)).mp hequal)
  · exact (hmono 4294967295 1000 4294967294 1001 hfits (by decide) (by decide)).2
  · have hzero : settings.flashesBeforeRestart = 0 := by decide
    rw [(hcount _ haccepted).2, hzero]

end Settings

end LampPanel
