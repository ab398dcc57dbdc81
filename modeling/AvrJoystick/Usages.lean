import AvrJoystick.Report

/-!
# The usages of the buttons

A host finds a control by its usage, not by its place in the report.  The
descriptor declares thirty-two button fields but gives them a usage range of
two, so the first has the usage Button 1 and all others share Button 2.

Only button 1 can be recovered (`buttons_by_usage_iff`).  Of the other
thirty-one the host learns no more than how many are pressed, and the usages
Button 3 to Button 32 do not occur at all.
-/

namespace AvrJoystick

/-- Usage page of the buttons. -/
def buttonPage : Nat := 0x09

/-- The fields of the input report that carry data. -/
def dataFields : List Hid.Field := inputFields.filter (fun f => !f.isConstant)

theorem dataFields_eq :
    dataFields = axisItem.fields 0 ++ buttonItem.fields 48 := by
  rw [dataFields, inputFields_eq]
  decide +kernel

/-- Exactly one data field has the usage Button `n`, and it reads bit `n - 1`
of the button word. -/
def RecoversButton (r : USBJoystickReportData) (n : Nat) : Prop :=
  ∃ f, dataFields.filter (·.usage == some (buttonPage, n)) = [f] ∧
    f.value r.toBytes = ((r.button.toNat.testBit (n - 1)).toNat : Int)

/-- The states of the buttons that share the usage Button 2. -/
def USBJoystickReportData.sharedButtons (r : USBJoystickReportData) : List Bool :=
  (List.range' 1 31).map r.button.toNat.testBit

/-- How many of them are pressed. -/
def USBJoystickReportData.sharedPressed (r : USBJoystickReportData) : Nat :=
  r.sharedButtons.count true

theorem button1_fields :
    dataFields.filter (·.usage == some (buttonPage, 1)) =
      [buttonItem.field 48 0] := by
  rw [dataFields_eq]
  decide +kernel

theorem button2_fields :
    dataFields.filter (·.usage == some (buttonPage, 2)) =
      (List.range' 1 31).map (buttonItem.field 48) := by
  rw [dataFields_eq]
  decide +kernel

/-- No field has one of the usages Button 3 to Button 32. -/
theorem higher_button_fields :
    ∀ n < 33, 3 ≤ n →
      dataFields.filter (·.usage == some (buttonPage, n)) = [] := by
  rw [dataFields_eq]
  decide +kernel

theorem axis_fields :
    ∀ i < 6, dataFields.filter (·.usage == some (0x01, 0x30 + i)) =
      [axisItem.field 0 i] := by
  rw [dataFields_eq]
  decide +kernel

/-- **Only button 1 can be told by its usage.** -/
theorem recoversButton_iff (r : USBJoystickReportData) {n : Nat}
    (hn1 : 1 ≤ n) (hn32 : n ≤ 32) : RecoversButton r n ↔ n = 1 := by
  constructor
  · rintro ⟨f, hf, _⟩
    apply Classical.byContradiction
    intro hne
    by_cases htwo : n = 2
    · rw [htwo, button2_fields] at hf
      have hlength := congrArg List.length hf
      simp at hlength
    · rw [higher_button_fields n (by omega) (by omega)] at hf
      cases hf
  · rintro rfl
    exact ⟨_, button1_fields, buttonField_value r (by decide)⟩

theorem usageValues_button1 (r : USBJoystickReportData) :
    Hid.usageValues dataFields r.toBytes (buttonPage, 1) =
      [((r.button.toNat.testBit 0).toNat : Int)] := by
  rw [Hid.usageValues, button1_fields, List.map_singleton,
    buttonField_value r (by decide)]

theorem usageValues_button2 (r : USBJoystickReportData) :
    Hid.usageValues dataFields r.toBytes (buttonPage, 2) =
      r.sharedButtons.map (fun b => (b.toNat : Int)) := by
  rw [Hid.usageValues, button2_fields, USBJoystickReportData.sharedButtons,
    List.map_map, List.map_map]
  apply List.map_congr_left
  intro i hi
  exact buttonField_value r (List.mem_range'_1.mp hi).2

theorem usageValues_axis (r : USBJoystickReportData) {i : Nat} (hi : i < 6) :
    Hid.usageValues dataFields r.toBytes (0x01, 0x30 + i) =
      [(r.axes.getD i 0).toInt] := by
  rw [Hid.usageValues, axis_fields i hi, List.map_singleton,
    axisField_value r hi]

/-- Every button field but the first has the usage Button 2. -/
theorem button_usage_of_pos :
    ∀ i < 32, 1 ≤ i →
      (buttonItem.field 48 i).usage = some (buttonPage, 2) := by
  decide +kernel

/-- **What a host that goes by usages can see of a report**: the axes, the
first button, and how many of the other buttons are pressed. -/
theorem sameByUsage_iff (r s : USBJoystickReportData) :
    Hid.SameByUsage dataFields r.toBytes s.toBytes ↔
      r.axes = s.axes ∧
        r.button.toNat.testBit 0 = s.button.toNat.testBit 0 ∧
        r.sharedPressed = s.sharedPressed := by
  have hshared : (Hid.usageValues dataFields r.toBytes (buttonPage, 2)).Perm
      (Hid.usageValues dataFields s.toBytes (buttonPage, 2)) ↔
        r.sharedPressed = s.sharedPressed := by
    rw [usageValues_button2, usageValues_button2, BitStream.perm_map_toNat,
      BitStream.perm_iff_count_true (by simp [USBJoystickReportData.sharedButtons])]
    rfl
  constructor
  · intro hsame
    refine ⟨?_, ?_, hshared.mp (hsame _)⟩
    · have haxis : ∀ i < 6, r.axes.getD i 0 = s.axes.getD i 0 := by
        intro i hi
        have hvalues := hsame (0x01, 0x30 + i)
        rw [usageValues_axis r hi, usageValues_axis s hi] at hvalues
        exact Int8.toInt_inj.mp (List.singleton_perm_singleton.mp hvalues)
      have hlist : ∀ t : USBJoystickReportData,
          t.axes = (List.range 6).map (t.axes.getD · 0) := fun _ => rfl
      rw [hlist r, hlist s]
      exact List.map_congr_left (fun i hi => haxis i (List.mem_range.mp hi))
    · have hvalues := hsame (buttonPage, 1)
      rw [usageValues_button1, usageValues_button1] at hvalues
      have heq := List.singleton_perm_singleton.mp hvalues
      cases hr : r.button.toNat.testBit 0 <;>
        cases hs : s.button.toNat.testBit 0 <;> simp_all
  · rintro ⟨haxes, hfirst, hcount⟩ usage
    by_cases husage : usage = (buttonPage, 2)
    · rw [husage]
      exact hshared.mpr hcount
    · -- Every other usage belongs to an axis or to the first button.
      apply List.Perm.of_eq
      apply List.map_congr_left
      intro f hf
      obtain ⟨hmem, hfusage⟩ := List.mem_filter.mp hf
      rw [dataFields_eq, List.mem_append, Hid.MainItem.mem_fields,
        Hid.MainItem.mem_fields] at hmem
      obtain ⟨i, hi, rfl⟩ | ⟨i, hi, rfl⟩ := hmem
      · rw [axisField_value r hi, axisField_value s hi, haxes]
      · have hzero : i = 0 := by
          apply Classical.byContradiction
          intro hne
          rw [button_usage_of_pos i hi (by omega)] at hfusage
          exact husage (Option.some.inj (eq_of_beq hfusage)).symm
        rw [buttonField_value r hi, buttonField_value s hi, hzero, hfirst]

/-- **Which buttons a host that goes by usages recovers.**  Of the usages
Button 1 to Button 32, exactly Button 1 names a single field that reads its
bit of the button word.  Two reports with different button words can be told
apart exactly when their axes differ, their first buttons differ, or the
numbers of other buttons pressed differ. -/
theorem buttons_by_usage_iff (r s : USBJoystickReportData) :
    (∀ n, 1 ≤ n → n ≤ 32 → (RecoversButton r n ↔ n = 1)) ∧
    (r.button ≠ s.button →
      (¬ Hid.SameByUsage dataFields r.toBytes s.toBytes ↔
        r.axes ≠ s.axes ∨
          r.button.toNat.testBit 0 ≠ s.button.toNat.testBit 0 ∨
          r.sharedPressed ≠ s.sharedPressed)) := by
  refine ⟨fun n hn1 hn32 => recoversButton_iff r hn1 hn32, fun _ => ?_⟩
  rw [sameByUsage_iff, Classical.not_and_iff_not_or_not,
    Classical.not_and_iff_not_or_not]

/-- A report in which only one button is pressed. -/
def onlyButton (n : Nat) : USBJoystickReportData :=
  { USBJoystickReportData.cleared with button := UInt32.ofNat (2 ^ (n - 1)) }

/-- Buttons 2 and 3 look alike, and button 2 has no field of its own. -/
theorem buttons_two_and_three_alike :
    (onlyButton 2).button ≠ (onlyButton 3).button ∧
      Hid.SameByUsage dataFields (onlyButton 2).toBytes (onlyButton 3).toBytes ∧
      ¬ RecoversButton (onlyButton 2) 2 := by
  refine ⟨by decide, ?_, ?_⟩
  · exact (sameByUsage_iff _ _).mpr (by decide +kernel)
  · rw [recoversButton_iff _ (by decide) (by decide)]
    decide

end AvrJoystick
