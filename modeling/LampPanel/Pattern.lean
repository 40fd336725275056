import LampPanel.Color

/-!
# Patterns of two alternating fades

What the host sends: ten bytes, five for each fade. Any list of bytes reads as a pattern, short ones
as if zeros followed and long ones by their first ten bytes.
-/

namespace LampPanel

namespace TickCount

def succ (count : UInt8) : UInt8 :=
  if count = 255 then 255 else count + 1

theorem toNat_succ (count : UInt8) : (succ count).toNat = min (count.toNat + 1) 255 := by
  have hcount := count.toNat_lt
  unfold succ
  split
  · next h => subst h; rfl
  · next h =>
    have hne : count.toNat ≠ 255 := fun heq => h (UInt8.toNat_inj.mp heq)
    rw [UInt8.toNat_add]
    simp only [UInt8.reduceToNat]
    omega

/-- The count as a duration: zero ticks last as long as one. -/
def atLeastOne (count : UInt8) : UInt8 :=
  max count 1

theorem toNat_atLeastOne (count : UInt8) : (atLeastOne count).toNat = max count.toNat 1 := by
  have hmax : max count 1 = if count ≤ 1 then 1 else count := rfl
  simp only [atLeastOne, hmax, UInt8.le_iff_toNat_le, UInt8.reduceToNat]
  split
  · simp only [UInt8.reduceToNat]
    omega
  · omega

theorem atLeastOne_pos (count : UInt8) : 0 < (atLeastOne count).toNat := by
  rw [toNat_atLeastOne]
  omega

end TickCount

/-- A target colour with its pace. A slew of zero means no limit and zero ticks mean for ever. -/
structure Fade where
  target : Rgb
  slew : UInt8
  ticks : UInt8
deriving DecidableEq

namespace Fade

def byteLength : Nat := 5

def black : Fade := ⟨.black, 0, 0⟩

instance : Inhabited Fade where
  default := black

/-- Red, green, blue, slew and ticks, in this order. -/
def bytes (fade : Fade) : List UInt8 :=
  [fade.target.red, fade.target.green, fade.target.blue, fade.slew, fade.ticks]

/-- Reads the first five bytes; missing ones read as zero. -/
def ofBytes (bytes : List UInt8) : Fade :=
  let byte i := bytes.getD i 0
  ⟨⟨byte 0, byte 1, byte 2⟩, byte 3, byte 4⟩

@[simp] theorem bytes_length (fade : Fade) : fade.bytes.length = byteLength := rfl

@[simp] theorem ofBytes_bytes (fade : Fade) : ofBytes fade.bytes = fade := rfl

@[simp] theorem ofBytes_nil : ofBytes [] = black := rfl

def stride (fade : Fade) : UInt8 :=
  if fade.slew = 0 then 255 else fade.slew

theorem stride_pos (fade : Fade) : 0 < fade.stride.toNat := by
  unfold stride
  split
  · decide
  · next h =>
    exact Nat.pos_of_ne_zero fun hzero => h (UInt8.toNat_inj.mp hzero)

/-- Whether the fade never gives way to the other one. -/
def endless (fade : Fade) : Bool :=
  fade.ticks == 0

def apply (fade : Fade) (color : Rgb) : Rgb :=
  color.toward fade.target fade.stride

@[simp] theorem level_apply (fade : Fade) (color : Rgb) (channel : Channel) :
    (fade.apply color).level channel =
      Slew.toward (color.level channel) (fade.target.level channel) fade.stride :=
  Rgb.level_toward color fade.target fade.stride channel

end Fade

inductive Phase where
  | first
  | second
deriving DecidableEq, Inhabited

namespace Phase

def other : Phase → Phase
  | .first => .second
  | .second => .first

def index : Phase → Nat
  | .first => 0
  | .second => 1

@[simp] theorem other_other (phase : Phase) : phase.other.other = phase := by
  cases phase <;> rfl

end Phase

structure Pattern where
  first : Fade
  second : Fade
deriving DecidableEq

namespace Pattern

def byteLength : Nat := 2 * Fade.byteLength

def fade (pattern : Pattern) : Phase → Fade
  | .first => pattern.first
  | .second => pattern.second

def fades (pattern : Pattern) : List Fade :=
  [pattern.first, pattern.second]

theorem fades_getElem? (pattern : Pattern) (phase : Phase) :
    pattern.fades[phase.index]? = some (pattern.fade phase) := by
  cases phase <;> rfl

def dark : Pattern := ⟨.black, .black⟩

instance : Inhabited Pattern where
  default := dark

/-- Full white and black in turn, each for the given ticks and without a fade between. -/
def flash (ticks : UInt8) : Pattern :=
  ⟨⟨.white, 0, ticks⟩, ⟨.black, 0, ticks⟩⟩

def payload (pattern : Pattern) : List UInt8 :=
  pattern.first.bytes ++ pattern.second.bytes

def ofPayload (bytes : List UInt8) : Pattern :=
  ⟨.ofBytes bytes, .ofBytes (bytes.drop Fade.byteLength)⟩

/-- The first ten bytes, with zeros in place of missing ones. -/
def padded (bytes : List UInt8) : List UInt8 :=
  bytes.take byteLength ++ List.replicate (byteLength - bytes.length) 0

@[simp] theorem payload_length (pattern : Pattern) : pattern.payload.length = byteLength := rfl

@[simp] theorem ofPayload_payload (pattern : Pattern) : ofPayload pattern.payload = pattern := rfl

@[simp] theorem ofPayload_nil : ofPayload [] = dark := rfl

private theorem padded_getElem? (bytes : List UInt8) (i : Nat) (h : i < byteLength) :
    (padded bytes)[i]? = some (bytes.getD i 0) := by
  rw [padded, List.getD_eq_getElem?_getD]
  by_cases hi : i < bytes.length
  · rw [List.getElem?_append_left (by rw [List.length_take]; omega), List.getElem?_take_of_lt h,
      List.getElem?_eq_getElem hi, Option.getD_some]
  · rw [List.getElem?_append_right (by rw [List.length_take]; omega),
      List.getElem?_replicate_of_lt (by rw [List.length_take]; omega),
      List.getElem?_eq_none (by omega), Option.getD_none]

@[simp] theorem padded_length (bytes : List UInt8) : (padded bytes).length = byteLength := by
  rw [padded, List.length_append, List.length_take, List.length_replicate]
  omega

theorem payload_ofPayload (bytes : List UInt8) : (ofPayload bytes).payload = padded bytes := by
  apply List.ext_getElem?
  intro i
  by_cases h : i < byteLength
  · rw [padded_getElem? bytes i h]
    have hi : i < 10 := h
    match i, hi with
    | 0, _ | 1, _ | 2, _ | 3, _ | 4, _ => rfl
    | 5, _ | 6, _ | 7, _ | 8, _ | 9, _ =>
      simp [payload, ofPayload, Fade.bytes, Fade.ofBytes, Fade.byteLength,
        List.getD_eq_getElem?_getD]
  · rw [List.getElem?_eq_none (by rw [payload_length]; omega),
      List.getElem?_eq_none (by rw [padded_length]; omega)]

theorem padded_of_length {bytes : List UInt8} (h : bytes.length = byteLength) :
    padded bytes = bytes := by
  rw [padded, h, Nat.sub_self, List.replicate_zero, List.append_nil, ← h, List.take_length]

theorem ofPayload_eq_iff (left right : List UInt8) :
    ofPayload left = ofPayload right ↔ padded left = padded right := by
  rw [← payload_ofPayload, ← payload_ofPayload]
  constructor
  · intro h
    rw [h]
  · intro h
    rw [← ofPayload_payload (ofPayload left), h, ofPayload_payload]

@[simp]
theorem ofPayload_padded (bytes : List UInt8) : ofPayload (padded bytes) = ofPayload bytes := by
  rw [ofPayload_eq_iff, padded_of_length (padded_length bytes)]

theorem ofPayload_take (bytes : List UInt8) :
    ofPayload (bytes.take byteLength) = ofPayload bytes := by
  rw [ofPayload_eq_iff, padded, padded, List.take_take, Nat.min_self, List.length_take]
  congr 2
  omega

end Pattern

end LampPanel
