import LampPanel.Cursor
import LampPanel.Framing
import LampPanel.Keypad
import LampPanel.Modulator
import LampPanel.Settings

/-!
# The panel

Timers render subframes and sample the buttons, the host sends bytes, and a foreground loop polls. A
run is a list of such calls.
-/

namespace LampPanel

inductive Mode where
  | normal
  | restarting
deriving DecidableEq, Inhabited

/-- The mode, the buttons that begin the restart, and the ticks of each half of its flash. -/
structure ChordWatch where
  mode : Mode
  chord : Buttons
  flashTicks : UInt8
deriving DecidableEq

namespace ChordWatch

def start (chord : Buttons) (flashTicks : UInt8) : ChordWatch :=
  ⟨.normal, chord, TickCount.atLeastOne flashTicks⟩

/-- Whether the buttons held begin the restart: no button of the chord is missing and no other one
is held. -/
def engages (watch : ChordWatch) (held : Buttons) : Bool :=
  watch.mode == .normal && held == watch.chord

def flash (watch : ChordWatch) : Pattern :=
  .flash watch.flashTicks

/-- Looks at the buttons held; the flag tells whether the restart began. -/
def observe (watch : ChordWatch) (held : Buttons) (buffer : DoubleBuffer) :
    ChordWatch × DoubleBuffer × Bool :=
  if watch.engages held then
    ({ watch with mode := .restarting }, (buffer.replace watch.flash).lock, true)
  else (watch, buffer, false)

theorem engages_iff {watch : ChordWatch} {held : Buttons} :
    watch.engages held = true ↔ watch.mode = .normal ∧ held = watch.chord := by
  simp only [engages, Bool.and_eq_true, beq_iff_eq]

theorem observe_of_engages {watch : ChordWatch} {held : Buttons} (buffer : DoubleBuffer)
    (h : watch.engages held = true) :
    watch.observe held buffer =
      ({ watch with mode := .restarting }, (buffer.replace watch.flash).lock, true) :=
  if_pos h

theorem observe_of_not_engages {watch : ChordWatch} {held : Buttons} (buffer : DoubleBuffer)
    (h : watch.engages held = false) : watch.observe held buffer = (watch, buffer, false) :=
  if_neg (by rw [h]; exact Bool.false_ne_true)

end ChordWatch

/-- The state of the panel. `samples` counts those not yet spent on ticks, and `duty` is what the
lamp is dimmed to. -/
structure Panel where
  settings : Settings
  keypad : Keypad
  framing : Framing
  buffer : DoubleBuffer
  cursor : Cursor
  watch : ChordWatch
  modulator : Modulator
  duty : Rgb
  samples : UInt8
deriving DecidableEq

inductive Outcome where
  | waiting
  | animated
  | restarting
deriving DecidableEq

namespace Panel

/-- The panel after power-on: buttons released, nothing received, lamp dark. -/
def start (settings : Settings) : Panel where
  settings := settings
  keypad := .released
  framing := .boundary
  buffer := .empty
  cursor := .start
  watch := .start settings.chord settings.flashTicks
  modulator := .start settings.subframes
  duty := .black
  samples := 0

def pins (panel : Panel) : Pins :=
  (panel.modulator.tick panel.duty).2

def renderSubframe (panel : Panel) : Panel :=
  { panel with modulator := (panel.modulator.tick panel.duty).1 }

def sample (panel : Panel) (raw : Buttons) : Panel :=
  { panel with
    keypad := panel.keypad.sample raw
    samples := TickCount.succ panel.samples }

/-- The byte that the host gets for the next one it sends. -/
def status (panel : Panel) : UInt8 :=
  panel.keypad.held.statusByte

def answer (panel : Panel) (byte : UInt8) : Answer :=
  panel.framing.answer byte

def receive (panel : Panel) (byte : UInt8) : Panel :=
  let (framing, buffer, _) := panel.framing.receive panel.buffer byte
  { panel with framing, buffer }

def pressesAmong (panel : Panel) (mask : Buttons) : Buttons :=
  (panel.keypad.take mask).2

/-- After the presses among the buttons of `mask` have been taken. -/
def takePresses (panel : Panel) (mask : Buttons) : Panel :=
  { panel with keypad := (panel.keypad.take mask).1 }

def engages (panel : Panel) : Bool :=
  panel.watch.engages panel.keypad.held

def observeChord (panel : Panel) : Panel :=
  let (watch, buffer, _) := panel.watch.observe panel.keypad.held panel.buffer
  { panel with watch, buffer }

def samplesPerTick (panel : Panel) : UInt8 :=
  TickCount.atLeastOne panel.settings.samplesPerTick

def due (panel : Panel) : Bool :=
  panel.samplesPerTick ≤ panel.samples

/-- Spends the samples of a tick if they are there. -/
def spend (panel : Panel) : Panel :=
  if panel.due then { panel with samples := panel.samples - panel.samplesPerTick } else panel

def animate (panel : Panel) : Panel :=
  let (cursor, buffer, _) := panel.cursor.tick panel.buffer
  { panel with cursor, buffer, duty := cursor.duty }

def animates (panel : Panel) : Bool :=
  panel.due || panel.engages

def poll (panel : Panel) : Panel :=
  let observed := panel.observeChord.spend
  if panel.animates then observed.animate else observed

def outcome (panel : Panel) : Outcome :=
  if panel.poll.watch.mode = .restarting then .restarting
  else if panel.due then .animated
  else .waiting

end Panel

/-- A call of one of the entry points. -/
inductive Event where
  | subframe
  | sample (raw : Buttons)
  | receive (byte : UInt8)
  | poll
  | take (mask : Buttons)
deriving DecidableEq

def Event.byte? : Event → Option UInt8
  | .receive byte => some byte
  | .subframe | .sample _ | .poll | .take _ => none

def Event.raw? : Event → Option Buttons
  | .sample raw => some raw
  | .subframe | .receive _ | .poll | .take _ => none

/-- What the panel does to the hardware, or hands back to its caller. -/
inductive Output where
  | setPins (pins : Pins)
  | load (status : UInt8)
  | answer (answer : Answer)
  | enableRestartLines
  | armWatchdog (timeout : Duration)
  | polled (outcome : Outcome)
  | presses (buttons : Buttons)
deriving DecidableEq

namespace Panel

def next (panel : Panel) : Event → Panel
  | .subframe => panel.renderSubframe
  | .sample raw => panel.sample raw
  | .receive byte => panel.receive byte
  | .poll => panel.poll
  | .take mask => panel.takePresses mask

def emit (panel : Panel) : Event → List Output
  | .subframe => [.setPins panel.pins]
  | .sample _ => []
  | .receive byte => [.load panel.status, .answer (panel.answer byte)]
  | .poll =>
    (if panel.engages then [.enableRestartLines, .armWatchdog panel.settings.watchdog] else []) ++
      [.polled panel.outcome]
  | .take mask => [.presses (panel.pressesAmong mask)]

def run (panel : Panel) (events : List Event) : Panel :=
  events.foldl next panel

def emits (panel : Panel) : List Event → List (List Output)
  | [] => []
  | event :: events => panel.emit event :: (panel.next event).emits events

@[simp] theorem run_nil (panel : Panel) : panel.run [] = panel := rfl

@[simp] theorem run_cons (panel : Panel) (event : Event) (events : List Event) :
    panel.run (event :: events) = (panel.next event).run events := rfl

theorem run_append (panel : Panel) (before after : List Event) :
    panel.run (before ++ after) = (panel.run before).run after :=
  List.foldl_append

/-- The panels that a run from power-on can lead to. -/
def Reachable (settings : Settings) (panel : Panel) : Prop :=
  ∃ events, panel = (start settings).run events

theorem run_invariant {keeps : Panel → Prop}
    (hnext : ∀ panel event, keeps panel → keeps (panel.next event))
    {panel : Panel} (h : keeps panel) (events : List Event) : keeps (panel.run events) := by
  induction events generalizing panel with
  | nil => exact h
  | cons event events ih => exact ih (hnext panel event h)

end Panel

end LampPanel
