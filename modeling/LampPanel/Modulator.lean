import LampPanel.Color

/-!
# Dimming by subframes

A channel is lit in the subframes of a period that are below its duty. One byte sets the pins of all
channels and of the two restart lines.
-/

namespace LampPanel

def Channel.pin : Channel → UInt8
  | .red => 1
  | .green => 2
  | .blue => 4

structure Pins where
  bits : UInt8
deriving DecidableEq

namespace Pins

/-- The pins of the two restart lines, which are asserted while low. -/
def restartLines : UInt8 := 0b11000

def dark : Pins := ⟨0⟩

instance : Inhabited Pins where
  default := dark

def ofChannels (lit : Channel → Bool) : Pins :=
  let bit channel := if lit channel then channel.pin else 0
  ⟨bit .red ||| bit .green ||| bit .blue⟩

def lit (pins : Pins) (channel : Channel) : Bool :=
  pins.bits &&& channel.pin != 0

@[simp] theorem lit_ofChannels (lit : Channel → Bool) (channel : Channel) :
    (ofChannels lit).lit channel = lit channel := by
  unfold ofChannels Pins.lit
  cases hred : lit .red <;> cases hgreen : lit .green <;> cases hblue : lit .blue <;>
    cases channel <;> simp only [hred, hgreen, hblue] <;> rfl

theorem ofChannels_lt (lit : Channel → Bool) : (ofChannels lit).bits.toNat < 8 := by
  unfold ofChannels
  cases hred : lit .red <;> cases hgreen : lit .green <;> cases hblue : lit .blue <;>
    simp only [hred, hgreen, hblue] <;> decide

theorem ofChannels_restartLines (lit : Channel → Bool) :
    (ofChannels lit).bits &&& restartLines = 0 := by
  unfold ofChannels
  cases hred : lit .red <;> cases hgreen : lit .green <;> cases hblue : lit .blue <;>
    simp only [hred, hgreen, hblue] <;> rfl

end Pins

structure Modulator where
  subframe : UInt16
  period : UInt16
deriving DecidableEq

namespace Modulator

/-- The start of a period of `steps` subframes, of one subframe if `steps` is zero. -/
def start (steps : UInt16) : Modulator :=
  ⟨0, max steps 1⟩

/-- The pins during a subframe: a channel is lit while the subframe is below its duty. -/
def pins (subframe : UInt16) (duty : Rgb) : Pins :=
  .ofChannels fun channel => subframe < (duty.level channel).toUInt16

@[simp] theorem lit_pins (subframe : UInt16) (duty : Rgb) (channel : Channel) :
    (pins subframe duty).lit channel = decide (subframe < (duty.level channel).toUInt16) :=
  Pins.lit_ofChannels _ channel

def advance (modulator : Modulator) : Modulator :=
  let next := modulator.subframe + 1
  { modulator with subframe := if modulator.period ≤ next then 0 else next }

def tick (modulator : Modulator) (duty : Rgb) : Modulator × Pins :=
  (modulator.advance, pins modulator.subframe duty)

@[simp]
theorem advance_period (modulator : Modulator) : modulator.advance.period = modulator.period := rfl

@[simp]
theorem toNat_start_period (steps : UInt16) : (start steps).period.toNat = max steps.toNat 1 := by
  have hmax : max steps 1 = if steps ≤ 1 then 1 else steps := rfl
  simp only [start, hmax, UInt16.le_iff_toNat_le, UInt16.reduceToNat]
  split
  · simp only [UInt16.reduceToNat]
    omega
  · omega

theorem toNat_subframe_succ {modulator : Modulator}
    (h : modulator.subframe.toNat < modulator.period.toNat) :
    (modulator.subframe + 1).toNat = modulator.subframe.toNat + 1 := by
  have hperiod := modulator.period.toNat_lt
  rw [UInt16.toNat_add]
  simp only [UInt16.reduceToNat]
  omega

theorem toNat_advance (modulator : Modulator)
    (h : modulator.subframe.toNat < modulator.period.toNat) :
    modulator.advance.subframe.toNat =
      (modulator.subframe.toNat + 1) % modulator.period.toNat := by
  have hnext := toNat_subframe_succ h
  unfold advance
  simp only [UInt16.le_iff_toNat_le, hnext]
  split
  · next hle =>
    rw [show modulator.subframe.toNat + 1 = modulator.period.toNat by omega]
    simp
  · next hlt => rw [hnext, Nat.mod_eq_of_lt (by omega)]

theorem advance_subframe_lt (modulator : Modulator)
    (h : modulator.subframe.toNat < modulator.period.toNat) :
    modulator.advance.subframe.toNat < modulator.advance.period.toNat := by
  rw [toNat_advance modulator h, advance_period]
  exact Nat.mod_lt _ (by omega)

end Modulator

end LampPanel
