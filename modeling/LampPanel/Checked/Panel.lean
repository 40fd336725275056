import LampPanel.Checked
import LampPanel.Panel

/-!
# The panel with checked operations

Every sum, difference and look-up of an entry point is checked; a run ends at the first trap.
-/

namespace LampPanel

open Checked

namespace Fade

def ofBytesChecked (bytes : List UInt8) (first : Nat) : Except Trap Fade := do
  let red ← entry bytes first
  let green ← entry bytes (first + 1)
  let blue ← entry bytes (first + 2)
  let slew ← entry bytes (first + 3)
  let ticks ← entry bytes (first + 4)
  return ⟨⟨red, green, blue⟩, slew, ticks⟩

theorem ofBytesChecked_eq {bytes : List UInt8} {first : Nat}
    (h : first + byteLength ≤ bytes.length) :
    ofBytesChecked bytes first = .ok (ofBytes (bytes.drop first)) := by
  have hbyte : ∀ i, i < byteLength →
      entry bytes (first + i) = .ok ((bytes.drop first).getD i 0) := by
    intro i hi
    have hlt : first + i < bytes.length := by omega
    apply entry_eq
    rw [List.getD_eq_getElem?_getD, List.getElem?_drop, List.getElem?_eq_getElem hlt,
      Option.getD_some]
  have hred : entry bytes first = _ := hbyte 0 (by decide)
  rw [ofBytesChecked, hred, hbyte 1 (by decide), hbyte 2 (by decide), hbyte 3 (by decide),
    hbyte 4 (by decide)]
  rfl

end Fade

namespace Pattern

/-- Copies the payload, or the front of it, over ten zeros and reads the two fades. -/
def ofPayloadChecked (payload : List UInt8) : Except Trap Pattern := do
  let front ← slice payload (min payload.length byteLength)
  let bytes ← overwrite (List.replicate byteLength 0) 0 front
  let first ← Fade.ofBytesChecked bytes 0
  let second ← Fade.ofBytesChecked bytes Fade.byteLength
  return ⟨first, second⟩

private theorem overwrite_zeros (payload : List UInt8) :
    overwrite (List.replicate byteLength 0) 0 (payload.take byteLength) = .ok (padded payload) := by
  have hlength : (payload.take byteLength).length = min byteLength payload.length :=
    List.length_take
  have hfits : 0 + (payload.take byteLength).length ≤
      (List.replicate byteLength (0 : UInt8)).length := by
    rw [List.length_replicate, hlength]
    omega
  have hrest : byteLength - (0 + min byteLength payload.length) = byteLength - payload.length := by
    omega
  rw [overwrite, if_pos hfits, hlength, List.take_zero, List.nil_append, List.drop_replicate, hrest,
    padded]

theorem ofPayloadChecked_eq (payload : List UInt8) :
    ofPayloadChecked payload = .ok (ofPayload payload) := by
  have hfront : slice payload (min payload.length byteLength) = .ok (payload.take byteLength) := by
    rw [slice, if_pos (Nat.min_le_left _ _), Nat.min_comm, ← List.take_eq_take_min]
  have hlength := padded_length payload
  have hfirst : Fade.ofBytesChecked (padded payload) 0 = _ :=
    Fade.ofBytesChecked_eq (by rw [hlength]; decide)
  have hsecond : Fade.ofBytesChecked (padded payload) Fade.byteLength = _ :=
    Fade.ofBytesChecked_eq (by rw [hlength]; decide)
  rw [ofPayloadChecked, hfront, ok_bind, overwrite_zeros, ok_bind, hfirst, ok_bind, hsecond,
    ← ofPayload_padded]
  rfl

def payloadChecked (pattern : Pattern) : Except Trap (List UInt8) := do
  let bytes ← overwrite (List.replicate byteLength 0) 0 pattern.first.bytes
  overwrite bytes Fade.byteLength pattern.second.bytes

theorem payloadChecked_eq (pattern : Pattern) : pattern.payloadChecked = .ok pattern.payload := rfl

def fadeChecked (pattern : Pattern) (phase : Phase) : Except Trap Fade :=
  entry pattern.fades phase.index

theorem fadeChecked_eq (pattern : Pattern) (phase : Phase) :
    pattern.fadeChecked phase = .ok (pattern.fade phase) :=
  entry_eq (pattern.fades_getElem? phase)

end Pattern

def Side.index : Side → Nat
  | .left => 0
  | .right => 1

namespace DoubleBuffer

variable (buffer : DoubleBuffer)

def fillingIndex : Nat := buffer.front.index ^^^ 1

def payloadAt (i : Nat) : Except Trap (List UInt8) :=
  entry [buffer.left, buffer.right] i

def setPayloadAt (bytes : List UInt8) : Nat → Except Trap DoubleBuffer
  | 0 => .ok { buffer with left := bytes }
  | 1 => .ok { buffer with right := bytes }
  | _ => .error .outOfRange

theorem fillingIndex_eq : buffer.fillingIndex = buffer.front.other.index := by
  rw [fillingIndex]
  cases buffer.front <;> rfl

theorem payloadAt_eq (side : Side) : buffer.payloadAt side.index = .ok (buffer.side side) := by
  cases side <;> rfl

theorem setPayloadAt_eq (bytes : List UInt8) (side : Side) :
    buffer.setPayloadAt bytes side.index = .ok (buffer.setSide bytes side) := by
  cases side <;> rfl

def patternChecked : Except Trap Pattern := do
  let playing ← buffer.payloadAt buffer.front.index
  Pattern.ofPayloadChecked playing

theorem patternChecked_eq : buffer.patternChecked = .ok buffer.pattern := by
  rw [patternChecked, payloadAt_eq, ok_bind, Pattern.ofPayloadChecked_eq]
  rfl

def fillingChecked : Except Trap (List UInt8) :=
  buffer.payloadAt buffer.fillingIndex

theorem fillingChecked_eq : buffer.fillingChecked = .ok buffer.filling := by
  rw [fillingChecked, fillingIndex_eq, payloadAt_eq]
  rfl

def setFillingChecked (bytes : List UInt8) : Except Trap DoubleBuffer :=
  buffer.setPayloadAt bytes buffer.fillingIndex

theorem setFillingChecked_eq (bytes : List UInt8) :
    buffer.setFillingChecked bytes = .ok (buffer.setFilling bytes) := by
  rw [setFillingChecked, fillingIndex_eq, setPayloadAt_eq]
  rfl

def discardChecked : Except Trap DoubleBuffer :=
  if buffer.locked then return buffer
  else do
    let emptied ← buffer.setFillingChecked []
    return { emptied with complete := false }

theorem discardChecked_eq : buffer.discardChecked = .ok buffer.discard := by
  rw [discardChecked, discard, setFillingChecked_eq]
  split <;> rfl

def appendChecked (byte : UInt8) : Except Trap (DoubleBuffer × Bool) :=
  if buffer.locked then return (buffer, false)
  else do
    let filling ← buffer.fillingChecked
    if filling.length < capacity then
      let filled ← buffer.setFillingChecked (filling ++ [byte])
      return (filled, true)
    else return (buffer, false)

theorem appendChecked_eq (byte : UInt8) : buffer.appendChecked byte = .ok (buffer.append byte) := by
  rw [appendChecked, append, hasRoom, fillingChecked_eq, ok_bind, setFillingChecked_eq]
  cases buffer.locked with
  | true => rfl
  | false =>
    by_cases hroom : buffer.filling.length < capacity
    · simp [hroom]
    · simp [hroom]

def replaceChecked (pattern : Pattern) : Except Trap DoubleBuffer := do
  let bytes ← pattern.payloadChecked
  let filled ← buffer.setFillingChecked bytes
  return { filled with complete := true }

theorem replaceChecked_eq (pattern : Pattern) :
    buffer.replaceChecked pattern = .ok (buffer.replace pattern) := by
  rw [replaceChecked, Pattern.payloadChecked_eq, ok_bind, setFillingChecked_eq]
  rfl

def swapChecked : Except Trap (DoubleBuffer × Option Pattern) :=
  if buffer.complete then do
    let swapped := { buffer with complete := false, front := buffer.front.other }
    let cleared ← swapped.setFillingChecked []
    let pattern ← cleared.patternChecked
    return (cleared, some pattern)
  else return (buffer, none)

theorem swapChecked_eq : buffer.swapChecked = .ok buffer.swap := by
  rw [swapChecked, swap]
  split
  · simp only [setFillingChecked_eq, ok_bind, patternChecked_eq, pure_eq_ok]
  · rfl

def acceptChecked (byte : UInt8) : Answer → Except Trap DoubleBuffer
  | .ok (.header _) => buffer.discardChecked
  | .ok (.payload _) => do
    let appended ← buffer.appendChecked byte
    return appended.1
  | .ok .complete => do
    let appended ← buffer.appendChecked byte
    return appended.1.finish
  | .ok .filler | .ok .emptyFrame | .error _ => return buffer

theorem acceptChecked_eq (byte : UInt8) (reply : Answer) :
    buffer.acceptChecked byte reply = .ok (buffer.accept byte reply) := by
  match reply with
  | .ok (.header _) => exact buffer.discardChecked_eq
  | .ok (.payload _) | .ok .complete =>
    rw [acceptChecked, appendChecked_eq]
    rfl
  | .ok .filler | .ok .emptyFrame | .error _ => rfl

end DoubleBuffer

namespace Framing

/-- In a payload, some bytes of at most fifteen are still to come. -/
def Bounded : Framing → Prop
  | .boundary => True
  | .inside expected received => received < expected ∧ expected ≤ 15

def stepChecked : Framing → UInt8 → Except Trap (Framing × Answer)
  | .boundary, byte => .ok (boundary.next byte, classify byte)
  | .inside expected received, _ => do
    let received ← add received 1
    if received = expected then return (.boundary, .ok .complete)
    else do
      let remaining ← sub expected received
      return (.inside expected received, .ok (.payload remaining))

/-- The counts alone do not keep a position from a trap. -/
example : (inside 3 255).stepChecked 0 = .error .overflow ∧
    (inside 3 3).stepChecked 0 = .error .underflow := ⟨rfl, rfl⟩

def receiveChecked (framing : Framing) (buffer : DoubleBuffer) (byte : UInt8) :
    Except Trap (Framing × DoubleBuffer × Answer) := do
  let step ← framing.stepChecked byte
  let accepted ← buffer.acceptChecked byte step.2
  return (step.1, accepted, step.2)

theorem stepChecked_eq {framing : Framing} (h : framing.Bounded) (byte : UInt8) :
    framing.stepChecked byte = .ok (framing.next byte, framing.answer byte) := by
  cases framing with
  | boundary => rfl
  | inside expected received =>
    have hfewer := UInt8.lt_iff_toNat_lt.mp h.1
    have hsucc := toNat_succ_of_lt hfewer
    have hexpected := expected.toNat_lt
    have hfits : received.toNat + (1 : UInt8).toNat < UInt8.size := by
      show received.toNat + 1 < 256
      omega
    have hle : received + 1 ≤ expected := by
      rw [UInt8.le_iff_toNat_le, hsucc]
      omega
    rw [stepChecked, add_eq hfits, ok_bind, sub_eq hle, next, answer]
    split
    · rfl
    · rfl

theorem receiveChecked_eq {framing : Framing} (h : framing.Bounded) (buffer : DoubleBuffer)
    (byte : UInt8) :
    framing.receiveChecked buffer byte = .ok (framing.receive buffer byte) := by
  rw [receiveChecked, stepChecked_eq h, ok_bind, DoubleBuffer.acceptChecked_eq]
  rfl

theorem Bounded.next {framing : Framing} (h : framing.Bounded) (byte : UInt8) :
    (framing.next byte).Bounded := by
  cases framing with
  | boundary =>
    rw [(Grammar.boundary_step byte).2]
    split
    · trivial
    · next hpos =>
      have hlt := Grammar.announced_lt byte
      have hlength : (UInt8.ofNat (Grammar.announced byte)).toNat = Grammar.announced byte := by
        rw [UInt8.toNat_ofNat']
        omega
      constructor
      · rw [UInt8.lt_iff_toNat_lt, hlength]
        exact Nat.pos_of_ne_zero hpos
      · rw [UInt8.le_iff_toNat_le, hlength]
        exact Nat.le_of_lt_succ hlt
  | inside expected received =>
    have hfewer := UInt8.lt_iff_toNat_lt.mp h.1
    have hsucc := toNat_succ_of_lt hfewer
    rw [Framing.next]
    split
    · trivial
    · next hmore =>
      refine ⟨?_, h.2⟩
      have hne : (received + 1).toNat ≠ expected.toNat := fun heq => hmore (UInt8.toNat_inj.mp heq)
      rw [UInt8.lt_iff_toNat_lt]
      omega

end Framing

namespace Cursor

def stepChecked (cursor : Cursor) (pattern : Pattern) : Except Trap Cursor := do
  let fade ← pattern.fadeChecked cursor.phase
  let color ← fade.applyChecked cursor.color
  return { cursor with color }.count fade

theorem stepChecked_eq (cursor : Cursor) (pattern : Pattern) :
    cursor.stepChecked pattern = .ok (cursor.step pattern) := by
  rw [stepChecked, Pattern.fadeChecked_eq, ok_bind, Fade.applyChecked_eq]
  rfl

def tickChecked (cursor : Cursor) (buffer : DoubleBuffer) :
    Except Trap (Cursor × DoubleBuffer × Bool) := do
  let swapped ← buffer.swapChecked
  let fresh := swapped.2.isSome
  let pattern ← swapped.1.patternChecked
  let moved ← (if fresh then cursor.rewind else cursor).stepChecked pattern
  return (moved, swapped.1, fresh)

theorem tickChecked_eq (cursor : Cursor) (buffer : DoubleBuffer) :
    cursor.tickChecked buffer = .ok (cursor.tick buffer) := by
  simp only [tickChecked, DoubleBuffer.swapChecked_eq, ok_bind, DoubleBuffer.patternChecked_eq,
    stepChecked_eq, pure_eq_ok]
  rfl

def dutyChecked (cursor : Cursor) : Except Trap Rgb :=
  cursor.color.linearChecked

theorem dutyChecked_eq (cursor : Cursor) : cursor.dutyChecked = .ok cursor.duty :=
  cursor.color.linearChecked_eq

end Cursor

namespace ChordWatch

def observeChecked (watch : ChordWatch) (held : Buttons) (buffer : DoubleBuffer) :
    Except Trap (ChordWatch × DoubleBuffer × Bool) :=
  if watch.engages held then do
    let flashing ← buffer.replaceChecked watch.flash
    return ({ watch with mode := .restarting }, flashing.lock, true)
  else return (watch, buffer, false)

theorem observeChecked_eq (watch : ChordWatch) (held : Buttons) (buffer : DoubleBuffer) :
    watch.observeChecked held buffer = .ok (watch.observe held buffer) := by
  rw [observeChecked, observe, DoubleBuffer.replaceChecked_eq]
  split <;> rfl

end ChordWatch

namespace Panel

variable (panel : Panel)

def renderSubframeChecked : Except Trap (Panel × List Output) := do
  let ticked ← panel.modulator.tickChecked panel.duty
  return ({ panel with modulator := ticked.1 }, [.setPins ticked.2])

def receiveChecked (byte : UInt8) : Except Trap (Panel × List Output) := do
  let received ← panel.framing.receiveChecked panel.buffer byte
  return ({ panel with framing := received.1, buffer := received.2.1 },
    [.load panel.status, .answer received.2.2])

def observeChordChecked : Except Trap Panel := do
  let observed ← panel.watch.observeChecked panel.keypad.held panel.buffer
  return { panel with watch := observed.1, buffer := observed.2.1 }

theorem observeChordChecked_eq : panel.observeChordChecked = .ok panel.observeChord := by
  rw [observeChordChecked, ChordWatch.observeChecked_eq]
  rfl

def spendChecked : Except Trap Panel :=
  if panel.due then do
    let left ← sub panel.samples panel.samplesPerTick
    return { panel with samples := left }
  else return panel

theorem spendChecked_eq : panel.spendChecked = .ok panel.spend := by
  rw [spendChecked, spend]
  split
  · next hdue =>
    have hle : panel.samplesPerTick ≤ panel.samples := of_decide_eq_true hdue
    rw [sub_eq hle]
    rfl
  · rfl

def animateChecked : Except Trap Panel := do
  let ticked ← panel.cursor.tickChecked panel.buffer
  let duty ← ticked.1.dutyChecked
  return { panel with cursor := ticked.1, buffer := ticked.2.1, duty }

theorem animateChecked_eq : panel.animateChecked = .ok panel.animate := by
  rw [animateChecked, Cursor.tickChecked_eq, ok_bind, Cursor.dutyChecked_eq]
  rfl

def pollChecked : Except Trap (Panel × List Output) := do
  let observed ← panel.observeChordChecked
  let spent ← observed.spendChecked
  let polled ← (if panel.animates then spent.animateChecked else .ok spent)
  let outcome : Outcome :=
    if polled.watch.mode = .restarting then .restarting
    else if panel.due then .animated
    else .waiting
  return (polled,
    (if panel.engages then [.enableRestartLines, .armWatchdog panel.settings.watchdog] else []) ++
      [.polled outcome])

theorem pollChecked_eq : panel.pollChecked = .ok (panel.poll, panel.emit .poll) := by
  have hpolled : (if panel.animates then panel.observeChord.spend.animateChecked
      else .ok panel.observeChord.spend) = .ok panel.poll := by
    rw [animateChecked_eq, poll]
    split <;> rfl
  rw [pollChecked, observeChordChecked_eq, ok_bind, spendChecked_eq, ok_bind, hpolled]
  rfl

def nextChecked : Event → Except Trap (Panel × List Output)
  | .subframe => panel.renderSubframeChecked
  | .sample raw => .ok (panel.sample raw, [])
  | .receive byte => panel.receiveChecked byte
  | .poll => panel.pollChecked
  | .take mask => .ok (panel.takePresses mask, [.presses (panel.pressesAmong mask)])

/-- The panel after a run and what happens at its events, unless one of them traps. -/
def runChecked : Panel → List Event → Except Trap (Panel × List (List Output))
  | panel, [] => .ok (panel, [])
  | panel, event :: events => do
    let first ← panel.nextChecked event
    let rest ← first.1.runChecked events
    return (rest.1, first.2 :: rest.2)

theorem nextChecked_eq {panel : Panel}
    (hsubframe : panel.modulator.subframe.toNat < panel.modulator.period.toNat)
    (hframing : panel.framing.Bounded) (event : Event) :
    panel.nextChecked event = .ok (panel.next event, panel.emit event) := by
  cases event with
  | subframe =>
    rw [nextChecked, renderSubframeChecked, Modulator.tickChecked_eq hsubframe]
    rfl
  | receive byte =>
    rw [nextChecked, receiveChecked, Framing.receiveChecked_eq hframing]
    rfl
  | poll => exact panel.pollChecked_eq
  | sample _ | take _ => rfl

end Panel

end LampPanel
