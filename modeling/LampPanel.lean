import LampPanel.Color
import LampPanel.Buttons
import LampPanel.Keypad
import LampPanel.Modulator
import LampPanel.Pattern
import LampPanel.DoubleBuffer
import LampPanel.Framing
import LampPanel.Cursor
import LampPanel.Settings
import LampPanel.Panel
import LampPanel.Checked
import LampPanel.Checked.Panel
import LampPanel.Proofs.DoubleBuffer
import LampPanel.Proofs.Inbox
import LampPanel.Proofs.Link
import LampPanel.Proofs.Keypad
import LampPanel.Proofs.Modulator
import LampPanel.Proofs.Cursor.Place
import LampPanel.Proofs.Cursor.Fading
import LampPanel.Proofs.Panel.Step
import LampPanel.Proofs.Player
import LampPanel.Proofs.Panel.Lamp
import LampPanel.Proofs.Panel.Independence
import LampPanel.Proofs.Panel.Invariants
import LampPanel.Proofs.Panel.Pacing
import LampPanel.Proofs.Restart
import LampPanel.Proofs.Restart.Chord
import LampPanel.Proofs.Settings.Build
import LampPanel.Proofs.Settings.Durations
