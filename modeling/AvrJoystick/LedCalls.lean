import AvrJoystick.Board
import AvrJoystick.SpillRegister

/-!
# Histories of LED calls

Turning LEDs on, turning them off and toggling them are meant to act on the
LEDs of the mask and on no other.  `LedCall.intended` says so; `LedCall.perform`
makes the calls of the driver.

Turning on and off keep to their mask.  Toggling inverts the bits of its mask
and sets every other bit of the port: the complement is taken of the whole
`int`, and the bits that were to stay fixed are or-ed into ones.  So, seen from
one bit of the port, a toggle that leaves it out is a spill of `true`, and the
general account of spills says when the port ends as intended
(`ledsGetLEDs_eq_intended_iff`).
-/

namespace AvrJoystick

open Runs SpillRegister

/-- A call of the LED driver that takes a mask of LEDs to act on. -/
inductive LedCall
  | turnOn (ledMask : UInt8)
  | turnOff (ledMask : UInt8)
  | toggle (ledMask : UInt8)
  deriving DecidableEq, Repr

namespace LedCall

def mask : LedCall → UInt8
  | turnOn ledMask => ledMask
  | turnOff ledMask => ledMask
  | toggle ledMask => ledMask

/-- The call as the driver carries it out. -/
def perform (p : Ports) : LedCall → Ports
  | turnOn ledMask => ledsTurnOnLEDs ledMask p
  | turnOff ledMask => ledsTurnOffLEDs ledMask p
  | toggle ledMask => ledsToggleLEDs ledMask p

/-- The call as it is meant: the bits of the mask are set, cleared or inverted,
and the others keep their value. -/
def intended (leds : UInt8) : LedCall → UInt8
  | turnOn ledMask => leds ||| ledMask
  | turnOff ledMask => leds &&& ~~~ledMask
  | toggle ledMask => leds ^^^ ledMask

def isToggle : LedCall → Bool
  | turnOn _ => false
  | turnOff _ => false
  | toggle _ => true

/-- The call can clear a bit of its mask. -/
def canClear : LedCall → Bool
  | turnOn _ => false
  | turnOff _ => true
  | toggle _ => true

/-- The bit is in the mask of the call. -/
def Covers (i : Nat) (c : LedCall) : Prop := c.mask.toNat.testBit i = true

instance (i : Nat) : DecidablePred (Covers i) := fun _ =>
  inferInstanceAs (Decidable (_ = true))

/-- The call gives the bit a value that does not depend on the old one. -/
def Writes (i : Nat) (c : LedCall) : Prop := c.Covers i ∧ c.isToggle = false

/-- The call is a toggle that leaves the bit out of its mask. -/
def Spills (i : Nat) (c : LedCall) : Prop := ¬ c.Covers i ∧ c.isToggle = true

/-- What the call does to bit `i` of the port. -/
def cellOp (i : Nat) : LedCall → Op Bool
  | turnOn ledMask =>
      if ledMask.toNat.testBit i then .overwrite true else .update id fun _ _ h => h
  | turnOff ledMask =>
      if ledMask.toNat.testBit i then .overwrite false else .update id fun _ _ h => h
  | toggle ledMask =>
      if ledMask.toNat.testBit i then .update not fun _ _ h => Bool.not_inj h
      else .spill true

end LedCall

theorem uint8_testBit_not {i : Nat} (hi : i < 8) (v : UInt8) :
    (~~~v).toNat.testBit i = !v.toNat.testBit i := by
  rw [← UInt8.toNat_toBitVec, ← UInt8.toNat_toBitVec, UInt8.toBitVec_not,
    BitVec.testBit_toNat, BitVec.testBit_toNat, BitVec.getLsbD_not]
  simp [hi]

theorem uint8_testBit_and_not {i : Nat} (hi : i < 8) (v w : UInt8) :
    (v &&& ~~~w).toNat.testBit i = (v.toNat.testBit i && !w.toNat.testBit i) := by
  rw [UInt8.toNat_and, Nat.testBit_and, uint8_testBit_not hi]

theorem uint8_eq_iff_testBit {v w : UInt8} :
    v = w ↔ ∀ i < 8, v.toNat.testBit i = w.toNat.testBit i := by
  constructor
  · rintro rfl i _
    rfl
  · intro h
    refine UInt8.eq_of_toBitVec_eq (BitVec.eq_of_getLsbD_eq fun i hi => ?_)
    rw [← BitVec.testBit_toNat, ← BitVec.testBit_toNat]
    exact h i hi

namespace LedCall

theorem cellOp_eq_spill_iff {i : Nat} {c : LedCall} {b : Bool} :
    c.cellOp i = .spill b ↔ c.Spills i ∧ b = true := by
  cases c with
  | turnOn ledMask =>
      cases h : ledMask.toNat.testBit i <;> simp [cellOp, Spills, isToggle, h]
  | turnOff ledMask =>
      cases h : ledMask.toNat.testBit i <;> simp [cellOp, Spills, isToggle, h]
  | toggle ledMask =>
      cases h : ledMask.toNat.testBit i <;>
        simp [cellOp, Spills, Covers, mask, isToggle, h, eq_comm]

theorem exists_cellOp_eq_overwrite_iff {i : Nat} {c : LedCall} :
    (∃ b, c.cellOp i = .overwrite b) ↔ c.Writes i := by
  cases c with
  | turnOn ledMask =>
      cases h : ledMask.toNat.testBit i <;>
        simp [cellOp, Writes, Covers, mask, isToggle, h]
  | turnOff ledMask =>
      cases h : ledMask.toNat.testBit i <;>
        simp [cellOp, Writes, Covers, mask, isToggle, h]
  | toggle ledMask =>
      cases h : ledMask.toNat.testBit i <;> simp [cellOp, Writes, isToggle, h]

/-- Turning on and turning off do what they are meant to do. -/
theorem perform_portE_of_not_toggle {c : LedCall} (h : c.isToggle = false) (p : Ports) :
    (perform p c).portE = intended p.portE c := by
  cases c with
  | turnOn ledMask => rfl
  | turnOff ledMask => rfl
  | toggle ledMask => cases h

section Bit

variable {i : Nat} (hi : i < 8)
include hi

theorem intended_testBit (leds : UInt8) (c : LedCall) :
    (intended leds c).toNat.testBit i =
      SpillRegister.intended (cellOp i) (leds.toNat.testBit i) c := by
  cases c with
  | turnOn ledMask =>
      cases h : ledMask.toNat.testBit i <;>
        simp [intended, cellOp, SpillRegister.intended, h]
  | turnOff ledMask =>
      rw [intended, uint8_testBit_and_not hi]
      cases h : ledMask.toNat.testBit i <;>
        simp [cellOp, SpillRegister.intended, h]
  | toggle ledMask =>
      cases h : ledMask.toNat.testBit i <;>
        simp [intended, cellOp, SpillRegister.intended, h]

/-- The fixed bits are or-ed into the complement of the moving ones, where
they are set already. -/
theorem ledsToggleLEDs_testBit (ledMask : UInt8) (p : Ports) :
    (ledsToggleLEDs ledMask p).portE.toNat.testBit i =
      !(p.portE.toNat.testBit i && ledMask.toNat.testBit i) := by
  have hbyte : (ledsToggleLEDs ledMask p).portE =
      ~~~(p.portE &&& ledMask) ||| (p.portE &&& ~~~ledMask) := by
    simp [ledsToggleLEDs]
  rw [hbyte, UInt8.toNat_or, Nat.testBit_or, uint8_testBit_not hi,
    uint8_testBit_and_not hi, UInt8.toNat_and, Nat.testBit_and]
  cases p.portE.toNat.testBit i <;> cases ledMask.toNat.testBit i <;> rfl

/-- The driver does to each bit what `cellOp` says, spills included. -/
theorem perform_testBit (p : Ports) (c : LedCall) :
    (perform p c).portE.toNat.testBit i =
      actual (cellOp i) (p.portE.toNat.testBit i) c := by
  cases htoggle : c.isToggle with
  | false =>
      have hspill (b : Bool) : c.cellOp i ≠ .spill b := by
        intro hop
        have htrue := (cellOp_eq_spill_iff.mp hop).1.2
        rw [htoggle] at htrue
        cases htrue
      rw [perform_portE_of_not_toggle htoggle, intended_testBit hi,
        actual_of_no_spill hspill]
  | true =>
      cases c with
      | turnOn ledMask => cases htoggle
      | turnOff ledMask => cases htoggle
      | toggle ledMask =>
          rw [perform, ledsToggleLEDs_testBit hi]
          cases h : ledMask.toNat.testBit i <;> simp [cellOp, actual, h]

theorem perform_testBit_of_not_covers {c : LedCall} (hc : ¬ c.Covers i) (p : Ports) :
    (perform p c).portE.toNat.testBit i =
      (p.portE.toNat.testBit i || c.isToggle) := by
  rw [perform_testBit hi]
  cases c <;> simp_all [Covers, mask, cellOp, actual, isToggle]

end Bit

end LedCall

/-- Bit `i` comes to no harm: a later call writes it after the last toggle
that leaves it out, or that toggle should have found it set. -/
def SpillHarmless (i : Nat) (leds : UInt8) (cs : List LedCall) : Prop :=
  ∀ before c after, cs = before ++ c :: after →
    c.Spills i → (∀ c' ∈ after, ¬ c'.Spills i) →
      (∃ c' ∈ after, c'.Writes i) ∨
        (run LedCall.intended leds before).toNat.testBit i = true

/-- A bit ends as intended exactly when no toggle that leaves it out shows. -/
theorem testBit_run_perform_eq_iff {i : Nat} (hi : i < 8) (p : Ports)
    (cs : List LedCall) :
    (run LedCall.perform p cs).portE.toNat.testBit i =
        (run LedCall.intended p.portE cs).toNat.testBit i ↔
      SpillHarmless i p.portE cs := by
  have hactual := run_component (fun q : Ports => q.portE.toNat.testBit i)
    (LedCall.perform_testBit hi) p cs
  have hintended := run_component (fun leds : UInt8 => leds.toNat.testBit i)
    (LedCall.intended_testBit hi) p.portE
  rw [hactual, hintended, run_actual_eq_run_intended_iff]
  simp only [SpillHarmless, hintended, ne_eq, LedCall.cellOp_eq_spill_iff,
    LedCall.exists_cellOp_eq_overwrite_iff]
  constructor
  · intro h before c after hcs hc hafter
    have hlast := h before c after true hcs ⟨hc, rfl⟩
      fun c' hc' b hb => hafter c' hc' hb.1
    exact hlast.imp_right Eq.symm
  · rintro h before c after b hcs ⟨hc, rfl⟩ hafter
    have hlast := h before c after hcs hc
      fun c' hc' hspills => hafter c' hc' true ⟨hspills, rfl⟩
    exact hlast.imp_right Eq.symm

/-- **When the LEDs end as intended.** -/
theorem ledsGetLEDs_eq_intended_iff (p : Ports) (cs : List LedCall) :
    ledsGetLEDs (run LedCall.perform p cs) = run LedCall.intended p.portE cs ↔
      ∀ i < 8, SpillHarmless i p.portE cs := by
  rw [ledsGetLEDs, uint8_eq_iff_testBit]
  exact forall₂_congr fun i hi => testBit_run_perform_eq_iff hi p cs

/-- A bit in no mask is set for good by the first toggle. -/
theorem testBit_run_perform_of_uncovered {i : Nat} (hi : i < 8)
    {cs : List LedCall} (hcs : ∀ c ∈ cs, ¬ c.Covers i) (p : Ports) :
    (run LedCall.perform p cs).portE.toNat.testBit i =
      (p.portE.toNat.testBit i || cs.any LedCall.isToggle) := by
  induction cs generalizing p with
  | nil => simp
  | cons c cs ih =>
      obtain ⟨hc, hrest⟩ := List.forall_mem_cons.mp hcs
      rw [run_cons, ih hrest, LedCall.perform_testBit_of_not_covers hi hc,
        List.any_cons, Bool.or_assoc]

theorem ledsGetLEDs_keeps_uncovered_iff {i : Nat} (hi : i < 8)
    {cs : List LedCall} (hcs : ∀ c ∈ cs, ¬ c.Covers i) (p : Ports) :
    (ledsGetLEDs (run LedCall.perform p cs)).toNat.testBit i =
        p.portE.toNat.testBit i ↔
      p.portE.toNat.testBit i = true ∨ ∀ c ∈ cs, c.isToggle = false := by
  rw [ledsGetLEDs, testBit_run_perform_of_uncovered hi hcs]
  cases p.portE.toNat.testBit i <;> simp

namespace LedCall

/-- The first call is a toggle and sets what the second one can clear, so that
the order of the two shows. -/
def Spoils (a b : LedCall) : Prop :=
  a.isToggle = true ∧ b.canClear = true ∧ b.mask ≠ 0

/-- The order shows at bit `i`. -/
def SpoilsAt (i : Nat) (a b : LedCall) : Prop :=
  a.isToggle = true ∧ b.canClear = true ∧ b.Covers i

theorem mask_ne_zero_iff (c : LedCall) : c.mask ≠ 0 ↔ ∃ i < 8, c.Covers i := by
  rw [Ne, uint8_eq_iff_testBit]
  simp [Covers]

theorem not_spoils_iff (a b : LedCall) :
    ¬ a.Spoils b ↔ ∀ i < 8, ¬ SpoilsAt i a b := by
  simp only [Spoils, SpoilsAt, mask_ne_zero_iff]
  grind

theorem not_covers_both {a b : LedCall} (hab : a.mask &&& b.mask = 0) (i : Nat) :
    ¬ (a.Covers i ∧ b.Covers i) := by
  rintro ⟨ha, hb⟩
  have hbit := Nat.testBit_and a.mask.toNat b.mask.toNat i
  rw [← UInt8.toNat_and, hab, ha, hb] at hbit
  simp at hbit

/-- Two calls on a bit that at most one of them names.  A bit that neither
names is kept or set, in either order. -/
theorem actual_comm_iff {i : Nat} {a b : LedCall}
    (hab : ¬ (a.Covers i ∧ b.Covers i)) (lit : Bool) :
    actual (cellOp i) (actual (cellOp i) lit a) b =
        actual (cellOp i) (actual (cellOp i) lit b) a ↔
      ¬ SpoilsAt i a b ∧ ¬ SpoilsAt i b a := by
  simp only [SpoilsAt, Covers] at hab ⊢
  cases ha : a.mask.toNat.testBit i <;> cases hb : b.mask.toNat.testBit i <;>
    cases a <;> cases b <;> cases lit <;>
    simp_all [mask, cellOp, actual, isToggle, canClear]

end LedCall

/-- Calls with disjoint masks commute, a toggle and a call that clears apart. -/
theorem ledsGetLEDs_comm_iff {a b : LedCall} (hab : a.mask &&& b.mask = 0) (p : Ports) :
    ledsGetLEDs (run LedCall.perform p [a, b]) =
        ledsGetLEDs (run LedCall.perform p [b, a]) ↔
      ¬ a.Spoils b ∧ ¬ b.Spoils a := by
  have hbit (i : Nat) (hi : i < 8) :
      (ledsGetLEDs (run LedCall.perform p [a, b])).toNat.testBit i =
          (ledsGetLEDs (run LedCall.perform p [b, a])).toNat.testBit i ↔
        ¬ LedCall.SpoilsAt i a b ∧ ¬ LedCall.SpoilsAt i b a := by
    simp only [ledsGetLEDs, run_cons, run_nil, LedCall.perform_testBit hi]
    exact LedCall.actual_comm_iff (LedCall.not_covers_both hab i) _
  rw [LedCall.not_spoils_iff, LedCall.not_spoils_iff, uint8_eq_iff_testBit]
  constructor
  · intro h
    exact ⟨fun i hi => ((hbit i hi).mp (h i hi)).1,
      fun i hi => ((hbit i hi).mp (h i hi)).2⟩
  · rintro ⟨ha, hb⟩ i hi
    exact (hbit i hi).mpr ⟨ha i hi, hb i hi⟩

/-- **LED calls keep to their masks up to the spills of toggling.**  The port
ends as intended exactly when every bit comes to no harm; a bit in no mask
keeps its value exactly when it was set or nothing was toggled; and calls with
disjoint masks commute exactly when neither is a toggle that sets what the
other one clears. -/
theorem led_calls_keep_to_masks_iff (p : Ports) (cs : List LedCall) (a b : LedCall) :
    (ledsGetLEDs (run LedCall.perform p cs) = run LedCall.intended p.portE cs ↔
        ∀ i < 8, SpillHarmless i p.portE cs) ∧
      (∀ i < 8, (∀ c ∈ cs, ¬ c.Covers i) →
        ((ledsGetLEDs (run LedCall.perform p cs)).toNat.testBit i =
            p.portE.toNat.testBit i ↔
          p.portE.toNat.testBit i = true ∨ ∀ c ∈ cs, c.isToggle = false)) ∧
      (a.mask &&& b.mask = 0 →
        (ledsGetLEDs (run LedCall.perform p [a, b]) =
            ledsGetLEDs (run LedCall.perform p [b, a]) ↔
          ¬ a.Spoils b ∧ ¬ b.Spoils a)) := by
  refine ⟨ledsGetLEDs_eq_intended_iff p cs, ?_, ?_⟩
  · intro i hi hcs
    exact ledsGetLEDs_keeps_uncovered_iff hi hcs p
  · intro hab
    exact ledsGetLEDs_comm_iff hab p

/-- Toggling the one LED of a dark board sets the whole port: the result is not
the intended one, bit 0 is in no mask and changes, and it makes a difference
whether bit 0 is cleared before or after. -/
theorem toggle_sets_other_leds :
    ledsGetLEDs (run LedCall.perform quietBoard [.toggle ledsLED1]) = 0xFF ∧
      run LedCall.intended quietBoard.portE [.toggle ledsLED1] = 0x40 ∧
      ¬ (LedCall.toggle ledsLED1).Covers 0 ∧
      ledsGetLEDs (run LedCall.perform quietBoard
        [.toggle ledsLED1, .turnOff 0x01]) = 0xFE ∧
      ledsGetLEDs (run LedCall.perform quietBoard
        [.turnOff 0x01, .toggle ledsLED1]) = 0xFF := by
  decide

end AvrJoystick
