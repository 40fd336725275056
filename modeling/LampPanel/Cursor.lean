import LampPanel.DoubleBuffer

/-!
# Playing a pattern

A tick moves the colour by one step of the running fade and then counts toward the change to the
other fade. A pattern swapped in starts at its first fade, from the colour reached.
-/

namespace LampPanel

/-- The running phase, the ticks spent in it, and the colour reached. -/
structure Cursor where
  phase : Phase
  elapsed : UInt8
  color : Rgb
deriving DecidableEq

namespace Cursor

def start : Cursor := ⟨.first, 0, .black⟩

instance : Inhabited Cursor where
  default := start

def rewind (cursor : Cursor) : Cursor :=
  { cursor with phase := .first, elapsed := 0 }

/-- Counts one tick of a fade and changes to the other phase when its ticks are over. -/
def count (cursor : Cursor) (fade : Fade) : Cursor :=
  if fade.endless then cursor
  else
    let elapsed := TickCount.succ cursor.elapsed
    if fade.ticks ≤ elapsed then { cursor with phase := cursor.phase.other, elapsed := 0 }
    else { cursor with elapsed }

def step (cursor : Cursor) (pattern : Pattern) : Cursor :=
  let fade := pattern.fade cursor.phase
  { cursor with color := fade.apply cursor.color }.count fade

def duty (cursor : Cursor) : Rgb :=
  cursor.color.linear

/-- One tick of what the buffer plays, after swapping in a complete payload; the flag tells whether
there was one. -/
def tick (cursor : Cursor) (buffer : DoubleBuffer) : Cursor × DoubleBuffer × Bool :=
  let (buffer, fresh) := buffer.swap
  let cursor := if fresh.isSome then cursor.rewind else cursor
  (cursor.step buffer.pattern, buffer, fresh.isSome)

@[simp] theorem rewind_color (cursor : Cursor) : cursor.rewind.color = cursor.color := rfl

@[simp]
theorem count_color (cursor : Cursor) (fade : Fade) : (cursor.count fade).color = cursor.color := by
  unfold count
  split
  · rfl
  simp only
  split <;> rfl

@[simp] theorem step_color (cursor : Cursor) (pattern : Pattern) :
    (cursor.step pattern).color = (pattern.fade cursor.phase).apply cursor.color :=
  count_color _ _

theorem step_level (cursor : Cursor) (pattern : Pattern) (channel : Channel) :
    (cursor.step pattern).color.level channel =
      Slew.toward (cursor.color.level channel)
        ((pattern.fade cursor.phase).target.level channel) (pattern.fade cursor.phase).stride := by
  rw [step_color, Fade.level_apply]

@[simp] theorem duty_level (cursor : Cursor) (channel : Channel) :
    cursor.duty.level channel = Brightness.linear (cursor.color.level channel) :=
  Rgb.level_linear _ channel

theorem count_of_endless (cursor : Cursor) {fade : Fade} (h : fade.endless = true) :
    cursor.count fade = cursor := by
  rw [count, if_pos h]

theorem count_of_lt (cursor : Cursor) {fade : Fade}
    (h : cursor.elapsed.toNat + 1 < fade.ticks.toNat) :
    cursor.count fade = { cursor with elapsed := cursor.elapsed + 1 } := by
  have hticks := fade.ticks.toNat_lt
  have hne : ¬ fade.endless = true := by
    simp only [Fade.endless, beq_iff_eq, ← UInt8.toNat_inj, UInt8.reduceToNat]
    omega
  have hsucc : TickCount.succ cursor.elapsed = cursor.elapsed + 1 := by
    rw [← UInt8.toNat_inj, TickCount.toNat_succ, UInt8.toNat_add]
    simp only [UInt8.reduceToNat]
    omega
  have hle : ¬ fade.ticks ≤ TickCount.succ cursor.elapsed := by
    rw [UInt8.le_iff_toNat_le, TickCount.toNat_succ]
    omega
  rw [count, if_neg hne]
  simp only [if_neg hle]
  rw [hsucc]

theorem count_of_le (cursor : Cursor) {fade : Fade} (hpos : 0 < fade.ticks.toNat)
    (h : fade.ticks.toNat ≤ cursor.elapsed.toNat + 1) :
    cursor.count fade = { cursor with phase := cursor.phase.other, elapsed := 0 } := by
  have hticks := fade.ticks.toNat_lt
  have hne : ¬ fade.endless = true := by
    simp only [Fade.endless, beq_iff_eq, ← UInt8.toNat_inj, UInt8.reduceToNat]
    omega
  have hle : fade.ticks ≤ TickCount.succ cursor.elapsed := by
    rw [UInt8.le_iff_toNat_le, TickCount.toNat_succ]
    omega
  rw [count, if_neg hne]
  simp only [if_pos hle]

def run (cursor : Cursor) (patterns : List Pattern) : Cursor :=
  patterns.foldl step cursor

def play (cursor : Cursor) (pattern : Pattern) (ticks : Nat) : Cursor :=
  cursor.run (List.replicate ticks pattern)

@[simp] theorem run_nil (cursor : Cursor) : cursor.run [] = cursor := rfl

@[simp] theorem run_cons (cursor : Cursor) (pattern : Pattern) (patterns : List Pattern) :
    cursor.run (pattern :: patterns) = (cursor.step pattern).run patterns := rfl

theorem run_append (cursor : Cursor) (before after : List Pattern) :
    cursor.run (before ++ after) = (cursor.run before).run after :=
  List.foldl_append

@[simp]
theorem play_zero (cursor : Cursor) (pattern : Pattern) : cursor.play pattern 0 = cursor := rfl

theorem play_succ (cursor : Cursor) (pattern : Pattern) (ticks : Nat) :
    cursor.play pattern (ticks + 1) = (cursor.play pattern ticks).step pattern := by
  rw [play, List.replicate_succ', run_append]
  rfl

end Cursor

end LampPanel
