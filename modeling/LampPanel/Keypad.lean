import LampPanel.Buttons

/-!
# The debounced keypad

The two-bit counters of all buttons lie across two registers, so that one sample advances them all.
The second disagreeing sample in a row turns a level over.
-/

namespace LampPanel

/-- Debounced levels, the two registers of the counters, and the presses not yet taken. -/
structure Keypad where
  level : UInt8
  low : UInt8
  high : UInt8
  pressed : UInt8
deriving DecidableEq

namespace Keypad

def released : Keypad := ⟨0, 0, 0, 0⟩

instance : Inhabited Keypad where
  default := released

def held (keypad : Keypad) : Buttons := .ofByte keypad.level

/-- The buttons pressed since their presses were last taken. -/
def presses (keypad : Keypad) : Buttons := .ofByte keypad.pressed

/-- The buttons whose latest sample disagreed with their debounced level. -/
def doubted (keypad : Keypad) : Buttons := .ofByte keypad.low

def sample (keypad : Keypad) (raw : Buttons) : Keypad :=
  let disagree := (keypad.level ^^^ raw.statusByte) &&& Buttons.all.statusByte
  let low := ~~~keypad.low &&& disagree
  let high := (keypad.high ^^^ keypad.low) &&& disagree
  let flip := high &&& ~~~low
  let level := keypad.level ^^^ flip
  { level
    low := low &&& ~~~flip
    high := high &&& ~~~flip
    pressed := keypad.pressed ||| (level &&& flip) }

/-- Takes the pending presses among the buttons of `mask`, which are pending no longer. -/
def take (keypad : Keypad) (mask : Buttons) : Keypad × Buttons :=
  let hit := keypad.pressed &&& mask.statusByte
  ({ keypad with pressed := keypad.pressed &&& ~~~hit }, .ofByte hit)

@[simp] theorem held_released : released.held = ∅ := rfl

@[simp] theorem presses_released : released.presses = ∅ := rfl

@[simp] theorem doubted_released : released.doubted = ∅ := rfl

theorem getLsbD_sample (keypad : Keypad) (raw : Buttons) {i : Nat} (hi : i < 8) :
    let bit := fun register : UInt8 => register.toBitVec.getLsbD i
    let disagrees := bit Buttons.all.statusByte && bit keypad.level != bit raw.statusByte
    let turns := disagrees && bit keypad.low && !bit keypad.high
    bit (keypad.sample raw).level = (bit keypad.level != turns) ∧
      bit (keypad.sample raw).low = (disagrees && !bit keypad.low) ∧
      bit (keypad.sample raw).high = (disagrees && bit keypad.high && !bit keypad.low) ∧
      bit (keypad.sample raw).pressed = (bit keypad.pressed || turns && !bit keypad.level) := by
  simp only [sample, UInt8.toBitVec_and, UInt8.toBitVec_or, UInt8.toBitVec_xor,
    UInt8.toBitVec_not, BitVec.getLsbD_and, BitVec.getLsbD_or, BitVec.getLsbD_xor,
    BitVec.getLsbD_not, hi, decide_true, Bool.true_and]
  generalize Buttons.all.statusByte.toBitVec.getLsbD i = used
  generalize raw.statusByte.toBitVec.getLsbD i = read
  cases keypad.level.toBitVec.getLsbD i <;> cases keypad.low.toBitVec.getLsbD i <;>
    cases keypad.high.toBitVec.getLsbD i <;> cases keypad.pressed.toBitVec.getLsbD i <;>
    cases used <;> cases read <;> decide

theorem high_sample {keypad : Keypad} (h : keypad.high = 0) (raw : Buttons) :
    (keypad.sample raw).high = 0 := by
  apply UInt8.eq_of_toBitVec_eq
  apply BitVec.eq_of_getLsbD_eq
  intro i hi
  obtain ⟨-, -, hhigh, -⟩ := getLsbD_sample keypad raw hi
  simp [hhigh, h]

theorem level_sample_and (keypad : Keypad) (raw : Buttons) :
    (keypad.sample raw).level &&& 0xF0 = keypad.level &&& 0xF0 := by
  apply UInt8.eq_of_toBitVec_eq
  apply BitVec.eq_of_getLsbD_eq
  intro i hi
  obtain ⟨hlevel, -⟩ := getLsbD_sample keypad raw hi
  have hunused : Buttons.all.statusByte.toBitVec.getLsbD i = !(0xF0 : BitVec 8).getLsbD i := by
    match i, hi with
    | 0, _ | 1, _ | 2, _ | 3, _ | 4, _ | 5, _ | 6, _ | 7, _ => rfl
  simp only [UInt8.toBitVec_and, BitVec.getLsbD_and, UInt8.toBitVec_ofNat, hlevel, hunused]
  cases (0xF0 : BitVec 8).getLsbD i <;> simp

private theorem contains_sample (keypad : Keypad) (raw : Buttons) (button : Button) :
    let held := keypad.held.contains button
    let disagrees := held != raw.contains button
    let doubted := keypad.doubted.contains button
    let turns := disagrees && doubted && !keypad.high.toBitVec.getLsbD button.position
    (keypad.sample raw).held.contains button = (held != turns) ∧
      (keypad.sample raw).doubted.contains button = (disagrees && !doubted) ∧
      (keypad.sample raw).presses.contains button =
        (keypad.presses.contains button || turns && !held) := by
  have hwide : button.position < 8 := Nat.lt_trans button.position_lt (by decide)
  obtain ⟨hlevel, hlow, -, hpressed⟩ := getLsbD_sample keypad raw hwide
  simp only [Buttons.statusByte_position, Buttons.contains_all, Bool.true_and]
    at hlevel hlow hpressed
  simp only [held, doubted, presses, Buttons.contains_ofByte]
  exact ⟨hlevel, hlow, hpressed⟩

/-- A sample is taken over as the level exactly where the sample before it disagreed. -/
theorem contains_held_sample {keypad : Keypad} (h : keypad.high = 0) (raw : Buttons)
    (button : Button) :
    (keypad.sample raw).held.contains button =
      bif keypad.doubted.contains button then raw.contains button
      else keypad.held.contains button := by
  obtain ⟨hheld, -, -⟩ := contains_sample keypad raw button
  rw [hheld, h]
  cases keypad.doubted.contains button <;> cases keypad.held.contains button <;>
    cases raw.contains button <;> simp

theorem contains_doubted_sample (keypad : Keypad) (raw : Buttons) (button : Button) :
    (keypad.sample raw).doubted.contains button =
      (!keypad.doubted.contains button &&
        (keypad.held.contains button != raw.contains button)) := by
  obtain ⟨-, hdoubted, -⟩ := contains_sample keypad raw button
  rw [hdoubted, Bool.and_comm]

theorem contains_presses_sample (keypad : Keypad) (raw : Buttons) (button : Button) :
    (keypad.sample raw).presses.contains button =
      (keypad.presses.contains button ||
        ((keypad.sample raw).held.contains button && !keypad.held.contains button)) := by
  obtain ⟨hheld, -, hpresses⟩ := contains_sample keypad raw button
  rw [hpresses, hheld]
  cases keypad.held.contains button <;> simp

theorem take_presses (keypad : Keypad) (mask : Buttons) :
    (keypad.take mask).2 = keypad.presses ∩ mask := by
  apply Buttons.ext_contains
  intro button
  simp only [take, presses, Buttons.contains_ofByte, UInt8.toBitVec_and, BitVec.getLsbD_and,
    Buttons.statusByte_position, Buttons.contains_inter]

theorem contains_presses_take (keypad : Keypad) (mask : Buttons) (button : Button) :
    (keypad.take mask).1.presses.contains button =
      (keypad.presses.contains button && !mask.contains button) := by
  have hwide : button.position < 8 := Nat.lt_trans button.position_lt (by decide)
  simp only [presses, take, Buttons.contains_ofByte, UInt8.toBitVec_and, UInt8.toBitVec_not,
    BitVec.getLsbD_and, BitVec.getLsbD_not, hwide, decide_true, Bool.true_and,
    Buttons.statusByte_position]
  cases keypad.pressed.toBitVec.getLsbD button.position <;> cases mask.contains button <;> rfl

@[simp]
theorem held_take (keypad : Keypad) (mask : Buttons) : (keypad.take mask).1.held = keypad.held :=
  rfl

@[simp] theorem doubted_take (keypad : Keypad) (mask : Buttons) :
    (keypad.take mask).1.doubted = keypad.doubted := rfl

@[simp]
theorem high_take (keypad : Keypad) (mask : Buttons) : (keypad.take mask).1.high = keypad.high :=
  rfl

@[simp] theorem level_take (keypad : Keypad) (mask : Buttons) :
    (keypad.take mask).1.level = keypad.level := rfl

inductive Event where
  | sample (raw : Buttons)
  | take (mask : Buttons)
deriving DecidableEq

def next (keypad : Keypad) : Event → Keypad
  | .sample raw => keypad.sample raw
  | .take mask => (keypad.take mask).1

def run (keypad : Keypad) (events : List Event) : Keypad :=
  events.foldl next keypad

@[simp] theorem run_nil (keypad : Keypad) : keypad.run [] = keypad := rfl

@[simp] theorem run_cons (keypad : Keypad) (event : Event) (events : List Event) :
    keypad.run (event :: events) = (keypad.next event).run events := rfl

theorem level_run_and (keypad : Keypad) (events : List Event) :
    (keypad.run events).level &&& 0xF0 = keypad.level &&& 0xF0 := by
  induction events generalizing keypad with
  | nil => rfl
  | cons event events ih =>
    rw [run_cons, ih]
    cases event with
    | sample raw => exact level_sample_and keypad raw
    | take mask => rfl

end Keypad

end LampPanel
