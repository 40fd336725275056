/-!
# Sets of buttons

A set of the four buttons is stored as four bits, in the order of the status byte.
-/

namespace LampPanel

inductive Button where
  | main
  | up
  | down
  | setup
deriving DecidableEq

def Button.position : Button → Nat
  | .main => 0
  | .up => 1
  | .down => 2
  | .setup => 3

theorem Button.position_lt (button : Button) : button.position < 4 := by
  cases button <;> decide

/-- A set of buttons, one bit each. -/
structure Buttons where
  bits : BitVec 4
deriving DecidableEq

namespace Buttons

def contains (set : Buttons) (button : Button) : Bool :=
  set.bits.getLsbD button.position

instance : Membership Button Buttons where
  mem set button := set.contains button = true

instance (button : Button) (set : Buttons) : Decidable (button ∈ set) :=
  inferInstanceAs (Decidable (set.contains button = true))

theorem mem_iff {button : Button} {set : Buttons} : button ∈ set ↔ set.contains button = true :=
  Iff.rfl

theorem ext_contains {left right : Buttons}
    (h : ∀ button, left.contains button = right.contains button) : left = right := by
  have hmain := h .main
  have hup := h .up
  have hdown := h .down
  have hsetup := h .setup
  cases left with | mk left =>
  cases right with | mk right =>
  congr 1
  apply BitVec.eq_of_getLsbD_eq
  intro i hi
  match i, hi with
  | 0, _ => exact hmain
  | 1, _ => exact hup
  | 2, _ => exact hdown
  | 3, _ => exact hsetup

theorem ext_mem {left right : Buttons} (h : ∀ button, button ∈ left ↔ button ∈ right) :
    left = right :=
  ext_contains fun button => Bool.eq_iff_iff.mpr (h button)

instance : EmptyCollection Buttons where
  emptyCollection := ⟨0⟩

instance : Inhabited Buttons where
  default := ∅

def all : Buttons := ⟨0b1111⟩

instance : Singleton Button Buttons where
  singleton button := ⟨BitVec.twoPow 4 button.position⟩

instance : Union Buttons where
  union left right := ⟨left.bits ||| right.bits⟩

instance : Inter Buttons where
  inter left right := ⟨left.bits &&& right.bits⟩

instance : HasSubset Buttons where
  Subset left right := left ∩ right = left

instance (left right : Buttons) : Decidable (left ⊆ right) :=
  inferInstanceAs (Decidable (left ∩ right = left))

def isEmpty (set : Buttons) : Bool :=
  set == ∅

@[simp] theorem contains_empty (button : Button) : (∅ : Buttons).contains button = false := by
  cases button <;> rfl

@[simp] theorem contains_all (button : Button) : all.contains button = true := by
  cases button <;> rfl

@[simp] theorem contains_singleton (button other : Button) :
    ({other} : Buttons).contains button = decide (button = other) := by
  cases button <;> cases other <;> rfl

@[simp] theorem contains_union (left right : Buttons) (button : Button) :
    (left ∪ right).contains button = (left.contains button || right.contains button) :=
  BitVec.getLsbD_or

@[simp] theorem contains_inter (left right : Buttons) (button : Button) :
    (left ∩ right).contains button = (left.contains button && right.contains button) :=
  BitVec.getLsbD_and

@[simp] theorem mem_union {button : Button} {left right : Buttons} :
    button ∈ left ∪ right ↔ button ∈ left ∨ button ∈ right := by
  simp only [mem_iff, contains_union, Bool.or_eq_true]

@[simp] theorem mem_inter {button : Button} {left right : Buttons} :
    button ∈ left ∩ right ↔ button ∈ left ∧ button ∈ right := by
  simp only [mem_iff, contains_inter, Bool.and_eq_true]

theorem subset_iff {left right : Buttons} :
    left ⊆ right ↔ ∀ button, button ∈ left → button ∈ right := by
  constructor
  · intro h button hleft
    have hinter : left ∩ right = left := h
    rw [← hinter] at hleft
    exact (mem_inter.mp hleft).2
  · intro h
    apply ext_mem
    intro button
    exact ⟨fun hb => (mem_inter.mp hb).1, fun hb => mem_inter.mpr ⟨hb, h button hb⟩⟩

/-- The buttons of the low four bits of a byte; the other bits are dropped. -/
def ofByte (byte : UInt8) : Buttons :=
  ⟨byte.toBitVec.setWidth 4⟩

/-- The byte sent to the host: one bit per button, and zeros above. -/
def statusByte (set : Buttons) : UInt8 :=
  UInt8.ofBitVec (set.bits.setWidth 8)

@[simp] theorem contains_ofByte (byte : UInt8) (button : Button) :
    (ofByte byte).contains button = byte.toBitVec.getLsbD button.position := by
  have hposition := button.position_lt
  simp only [contains, ofByte, BitVec.getLsbD_setWidth, hposition, decide_true, Bool.true_and]

theorem getLsbD_statusByte (set : Buttons) (i : Nat) :
    set.statusByte.toBitVec.getLsbD i = set.bits.getLsbD i := by
  simp only [statusByte, BitVec.getLsbD_setWidth]
  by_cases hi : i < 8
  · rw [decide_eq_true hi, Bool.true_and]
  · rw [decide_eq_false hi, Bool.false_and, BitVec.getLsbD_of_ge _ _ (by omega)]

theorem statusByte_position (set : Buttons) (button : Button) :
    set.statusByte.toBitVec.getLsbD button.position = set.contains button :=
  set.getLsbD_statusByte button.position

@[simp] theorem ofByte_statusByte (set : Buttons) : ofByte set.statusByte = set := by
  simp [ofByte, statusByte]

theorem statusByte_lt (set : Buttons) : set.statusByte.toNat < 16 := by
  have hbits := set.bits.isLt
  simp only [statusByte, UInt8.toNat_ofBitVec, BitVec.toNat_setWidth]
  omega

end Buttons

end LampPanel
