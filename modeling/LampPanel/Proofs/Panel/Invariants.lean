import LampPanel.Proofs.Panel.Lamp

/-!
# What every run keeps

The lamp shows the colour of the cursor, and every part stays within its bounds, so that no checked
operation traps.
-/

namespace LampPanel

namespace Cursor

/-- Fewer ticks have gone by in the running fade than it has. In an endless fade none have. -/
def Within (cursor : Cursor) (pattern : Pattern) : Prop :=
  cursor.elapsed.toNat = 0 ∨ cursor.elapsed.toNat < (pattern.fade cursor.phase).ticks.toNat

/-- The cursor that a tick moves on, which is back at the start if a payload is swapped in. -/
def resumed (cursor : Cursor) (buffer : DoubleBuffer) : Cursor :=
  if buffer.complete then cursor.rewind else cursor

variable {cursor : Cursor} {pattern : Pattern}

theorem within_iff : cursor.Within pattern ↔
    if (pattern.fade cursor.phase).ticks = 0 then cursor.elapsed = 0
    else cursor.elapsed < (pattern.fade cursor.phase).ticks := by
  by_cases hendless : (pattern.fade cursor.phase).ticks = 0
  · rw [Within, if_pos hendless, hendless, ← UInt8.toNat_inj]
    exact or_iff_left (Nat.not_lt_zero _)
  · have hpos : (pattern.fade cursor.phase).ticks.toNat ≠ 0 :=
      fun hzero => hendless (UInt8.toNat_inj.mp hzero)
    rw [Within, if_neg hendless, UInt8.lt_iff_toNat_lt]
    omega

theorem within_rewind (cursor : Cursor) (pattern : Pattern) : cursor.rewind.Within pattern :=
  .inl rfl

theorem Within.toNat_succ (h : cursor.Within pattern) :
    (TickCount.succ cursor.elapsed).toNat = cursor.elapsed.toNat + 1 := by
  have hticks := (pattern.fade cursor.phase).ticks.toNat_lt
  rw [TickCount.toNat_succ]
  rcases h with hnone | hfewer
  · omega
  · omega

theorem Within.step (h : cursor.Within pattern) : (cursor.step pattern).Within pattern := by
  have hplace := place_step cursor pattern
  rw [count_place] at hplace
  have hphase : (cursor.step pattern).phase = _ := congrArg Prod.fst hplace
  have helapsed : (cursor.step pattern).elapsed.toNat = _ := congrArg Prod.snd hplace
  rw [Within, hphase, helapsed]
  by_cases hendless : (pattern.fade cursor.phase).ticks.toNat = 0
  · simp only [if_pos hendless]
    exact h
  by_cases hover : (pattern.fade cursor.phase).ticks.toNat ≤ cursor.elapsed.toNat + 1
  · left
    simp only [if_neg hendless, if_pos hover]
  · right
    simp only [if_neg hendless, if_neg hover]
    omega

theorem resumed_within {buffer : DoubleBuffer}
    (h : buffer.complete = false → cursor.Within buffer.pattern) :
    (cursor.resumed buffer).Within buffer.swap.1.pattern := by
  rw [resumed, DoubleBuffer.swap]
  cases hcomplete : buffer.complete with
  | true => exact within_rewind cursor _
  | false => exact h hcomplete

end Cursor

namespace Panel

/-- The lamp shows the colour of the cursor, which is within the fades of what plays. -/
structure Coherent (panel : Panel) : Prop where
  duty_eq : panel.duty = panel.cursor.duty
  within : panel.cursor.Within panel.buffer.pattern

variable {panel : Panel}

theorem coherent_start (settings : Settings) : (start settings).Coherent where
  duty_eq := by
    show Rgb.black = Rgb.black.linear
    decide
  within := .inl rfl

theorem Coherent.within_resumed (h : panel.Coherent) :
    (panel.cursor.resumed panel.observeChord.buffer).Within
      panel.observeChord.buffer.swap.1.pattern := by
  apply Cursor.resumed_within
  rw [observeChord_buffer]
  intro hincomplete
  cases hengages : panel.engages with
  | true =>
    rw [hengages] at hincomplete
    exact absurd hincomplete nofun
  | false => exact h.within

theorem cursor_poll (panel : Panel) :
    panel.poll.cursor =
      if panel.animates then
        (panel.cursor.resumed panel.observeChord.buffer).step panel.poll.buffer.pattern
      else panel.cursor := by
  rw [poll_eq]
  cases panel.animates with
  | true => exact Cursor.tick_cursor panel.cursor panel.observeChord.buffer
  | false => rfl

private theorem Coherent.poll (h : panel.Coherent) : panel.poll.Coherent := by
  cases hanimates : panel.animates with
  | true =>
    constructor
    · rw [poll_eq, hanimates]
      rfl
    · have hstep := h.within_resumed.step
      rw [cursor_poll, hanimates, if_pos rfl]
      rw [poll_eq, hanimates]
      exact hstep
  | false =>
    rw [poll_eq, hanimates]
    exact ⟨h.duty_eq, h.within⟩

theorem Coherent.next (h : panel.Coherent) (event : Event) : (panel.next event).Coherent := by
  cases event with
  | poll => exact h.poll
  | receive byte =>
    have hpattern : (panel.receive byte).buffer.pattern = panel.buffer.pattern :=
      DoubleBuffer.pattern_accept panel.buffer byte _
    refine ⟨h.duty_eq, ?_⟩
    show panel.cursor.Within (panel.receive byte).buffer.pattern
    rw [hpattern]
    exact h.within
  | subframe | sample _ | take _ => exact ⟨h.duty_eq, h.within⟩

theorem coherent_run (settings : Settings) (events : List Event) :
    ((start settings).run events).Coherent :=
  run_invariant (fun _ event h => h.next event) (coherent_start settings) events

/-- The duty of a channel is that of its level at the cursor. The running fade has more ticks than
were counted in it, or is endless with none counted, so no count of ticks is cut off. -/
theorem lamp_shows_cursor (settings : Settings) (events : List Event) :
    let panel := (start settings).run events
    let fade := panel.buffer.pattern.fade panel.cursor.phase
    let resumed := panel.cursor.resumed panel.observeChord.buffer
    (∀ channel,
      panel.duty.level channel = Brightness.linear (panel.cursor.color.level channel) ∧
        (panel.duty.level channel).toNat ≤ 254) ∧
      (if fade.ticks = 0 then panel.cursor.elapsed = 0 else panel.cursor.elapsed < fade.ticks) ∧
      panel.poll.cursor =
        (if panel.animates then resumed.step panel.poll.buffer.pattern else panel.cursor) ∧
      (TickCount.succ resumed.elapsed).toNat = resumed.elapsed.toNat + 1 := by
  intro panel fade resumed
  have hcoherent : panel.Coherent := coherent_run settings events
  refine ⟨?_, Cursor.within_iff.mp hcoherent.within, cursor_poll panel,
    hcoherent.within_resumed.toNat_succ⟩
  intro channel
  have hlevel : panel.duty.level channel =
      Brightness.linear (panel.cursor.color.level channel) := by
    rw [hcoherent.duty_eq, Cursor.duty_level]
  refine ⟨hlevel, ?_⟩
  rw [hlevel]
  exact Brightness.linear_le _

end Panel

namespace DoubleBuffer

def Fits (buffer : DoubleBuffer) : Prop :=
  ∀ side, (buffer.side side).length ≤ capacity

variable {buffer : DoubleBuffer}

theorem fits_empty : empty.Fits := by
  intro side
  cases side <;> exact Nat.zero_le capacity

theorem Fits.setSide (h : buffer.Fits) {bytes : List UInt8} (hbytes : bytes.length ≤ capacity)
    (filled : Side) : (buffer.setSide bytes filled).Fits := by
  intro side
  cases filled with
  | left =>
    cases side with
    | left => exact hbytes
    | right => exact h .right
  | right =>
    cases side with
    | left => exact h .left
    | right => exact hbytes

theorem Fits.setFilling (h : buffer.Fits) {bytes : List UInt8} (hbytes : bytes.length ≤ capacity) :
    (buffer.setFilling bytes).Fits :=
  h.setSide hbytes _

theorem Fits.discard (h : buffer.Fits) : buffer.discard.Fits := by
  rw [DoubleBuffer.discard]
  split
  · exact h
  · exact h.setFilling (Nat.zero_le capacity)

theorem Fits.append (h : buffer.Fits) (byte : UInt8) : (buffer.append byte).1.Fits := by
  rw [DoubleBuffer.append]
  split
  · next hroom =>
    rw [hasRoom, Bool.and_eq_true, decide_eq_true_iff] at hroom
    apply h.setFilling
    rw [List.length_append, List.length_singleton]
    exact hroom.2
  · exact h

theorem Fits.finish (h : buffer.Fits) : buffer.finish.Fits := by
  rw [DoubleBuffer.finish]
  split
  · exact h
  · exact h

theorem Fits.accept (h : buffer.Fits) (byte : UInt8) (reply : Answer) :
    (buffer.accept byte reply).Fits := by
  match reply with
  | .ok (.header _) => exact h.discard
  | .ok (.payload _) => exact h.append byte
  | .ok .complete => exact (h.append byte).finish
  | .ok .filler | .ok .emptyFrame | .error _ => exact h

theorem Fits.replace (h : buffer.Fits) (pattern : Pattern) : (buffer.replace pattern).Fits :=
  h.setFilling (Nat.le_of_eq pattern.payload_length)

theorem Fits.swap (h : buffer.Fits) : buffer.swap.1.Fits := by
  rw [DoubleBuffer.swap]
  split
  · have hswapped : Fits { buffer with complete := false, front := buffer.front.other } := h
    exact hswapped.setFilling (Nat.zero_le capacity)
  · exact h

end DoubleBuffer

namespace Panel

structure Bounded (panel : Panel) : Prop where
  subframe_lt : panel.modulator.subframe.toNat < panel.modulator.period.toNat
  framing : panel.framing.Bounded
  buffer : panel.buffer.Fits

variable {panel : Panel}

theorem bounded_start (settings : Settings) : (start settings).Bounded where
  subframe_lt := (ticked_start settings).subframe_lt
  framing := trivial
  buffer := DoubleBuffer.fits_empty

theorem Bounded.observeChord (h : panel.Bounded) : panel.observeChord.buffer.Fits := by
  rw [observeChord_buffer]
  split
  · exact h.buffer.replace _
  · exact h.buffer

private theorem Bounded.poll (h : panel.Bounded) : panel.poll.Bounded := by
  rw [poll_eq]
  refine ⟨h.subframe_lt, h.framing, ?_⟩
  cases panel.animates with
  | true => exact h.observeChord.swap
  | false => exact h.buffer

theorem Bounded.next (h : panel.Bounded) (event : Event) : (panel.next event).Bounded := by
  cases event with
  | subframe =>
    exact ⟨Modulator.advance_subframe_lt panel.modulator h.subframe_lt, h.framing, h.buffer⟩
  | receive byte => exact ⟨h.subframe_lt, h.framing.next byte, h.buffer.accept byte _⟩
  | poll => exact h.poll
  | sample _ | take _ => exact ⟨h.subframe_lt, h.framing, h.buffer⟩

theorem bounded_run (settings : Settings) (events : List Event) :
    ((start settings).run events).Bounded :=
  run_invariant (fun _ event h => h.next event) (bounded_start settings) events

theorem Bounded.runChecked_eq (h : panel.Bounded) (events : List Event) :
    panel.runChecked events = .ok (panel.run events, panel.emits events) := by
  induction events generalizing panel with
  | nil => rfl
  | cons event events ih =>
    have hfirst := nextChecked_eq h.subframe_lt h.framing event
    have hrest := ih (h.next event)
    rw [runChecked, hfirst, Checked.ok_bind, hrest]
    rfl

/-- With every operation checked no run from power-on traps, whatever the settings, and it does what
the run without checks does. -/
theorem never_traps (settings : Settings) (events : List Event) :
    let panel := (start settings).run events
    (start settings).runChecked events = .ok (panel, (start settings).emits events) ∧
      panel.buffer.patternChecked = .ok panel.buffer.pattern ∧
      panel.modulator.subframe.toNat < max settings.subframes.toNat 1 ∧
      (∀ expected received, panel.framing = .inside expected received →
        received < expected ∧ expected ≤ 15) ∧
      ∀ side, (panel.buffer.side side).length ≤ 10 := by
  intro panel
  have hbounded : panel.Bounded := bounded_run settings events
  obtain ⟨_, hperiod⟩ := modulator_run settings events
  refine ⟨(bounded_start settings).runChecked_eq events, panel.buffer.patternChecked_eq, ?_, ?_,
    hbounded.buffer⟩
  · rw [← hperiod]
    exact hbounded.subframe_lt
  · intro expected received hinside
    have hframing := hbounded.framing
    rw [hinside] at hframing
    exact hframing

end Panel

end LampPanel
