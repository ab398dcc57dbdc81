import AvrJoystick.Descriptors

/-!
# The report structure and its declared layout

`USBJoystickReportData` is the C structure of the same name, laid out as the
AVR build does it: members packed in order, the button word least significant
byte first.  The six axis fields and the thirty-two one-bit fields that the
report descriptor declares sit exactly on its members.  The padding does not
match: the structure ends two bytes before the declared report does.
-/

namespace AvrJoystick

/-- `USB_JoystickReport_Data_t`. -/
structure USBJoystickReportData where
  x : Int8
  y : Int8
  z : Int8
  rx : Int8
  ry : Int8
  rz : Int8
  button : UInt32
  padding : Vector UInt8 22
  deriving DecidableEq

/-- `sizeof(USB_JoystickReport_Data_t)` under `-fpack-struct`. -/
def sizeofUSBJoystickReportData : Nat := 32

namespace USBJoystickReportData

/-- The axis members, in order. -/
def axes (r : USBJoystickReportData) : List Int8 :=
  [r.x, r.y, r.z, r.rx, r.ry, r.rz]

/-- The structure as it lies in memory. -/
def toBytes (r : USBJoystickReportData) : List UInt8 :=
  r.axes.map Int8.toUInt8 ++
    (BitStream.leBytes 4 r.button.toNat ++ r.padding.toList)

@[simp] theorem toBytes_length (r : USBJoystickReportData) :
    r.toBytes.length = sizeofUSBJoystickReportData := by
  simp [toBytes, axes, sizeofUSBJoystickReportData]

/-- Memory cleared by `memset`, seen through the structure. -/
def cleared : USBJoystickReportData where
  x := 0
  y := 0
  z := 0
  rx := 0
  ry := 0
  rz := 0
  button := 0
  padding := Vector.replicate 22 0

/-- The first six bytes are the axes. -/
theorem toBytes_getD_axis (r : USBJoystickReportData) {i : Nat} (hi : i < 6) :
    (r.toBytes.getD i 0).toInt8 = r.axes.getD i 0 := by
  have hlen : i < r.axes.length := by simpa [axes] using hi
  simp [toBytes, List.getD_eq_getElem?_getD, List.getElem?_append_left, hlen]

/-- The thirty-two bits behind the axes are the button word. -/
theorem toBytes_bit_button (r : USBJoystickReportData) {i : Nat} (hi : i < 32) :
    BitStream.bit r.toBytes (48 + i) = r.button.toNat.testBit i := by
  have haxes : 48 + i = 8 * (r.axes.map Int8.toUInt8).length + i := by
    simp [axes]
  rw [toBytes, haxes, BitStream.bit_append_right,
    BitStream.bit_append_left (by simpa using hi),
    BitStream.bit_leBytes (by omega)]

end USBJoystickReportData

/-- A buffer of `sizeof(USB_JoystickReport_Data_t)` bytes. -/
structure ReportBuffer where
  bytes : List UInt8
  length_eq : bytes.length = sizeofUSBJoystickReportData
  deriving DecidableEq

theorem ReportBuffer.ext {a b : ReportBuffer} (h : a.bytes = b.bytes) : a = b := by
  cases a; cases b; cases h; rfl

/-- The structure as the contents of such a buffer. -/
def USBJoystickReportData.toBuffer (r : USBJoystickReportData) : ReportBuffer :=
  ⟨r.toBytes, r.toBytes_length⟩

/-- A buffer in static storage before anything is stored in it. -/
def ReportBuffer.zeroed : ReportBuffer :=
  ⟨List.replicate sizeofUSBJoystickReportData 0, by simp⟩

/-- The declared fields that carry axis values. -/
def axisFields : List Hid.Field :=
  inputFields.filter (fun f => !f.isConstant && f.bitSize == 8)

/-- The declared one-bit fields. -/
def buttonFields : List Hid.Field :=
  inputFields.filter (fun f => f.bitSize == 1)

theorem axisFields_eq : axisFields = axisItem.fields 0 := by
  rw [axisFields, inputFields_eq]
  decide +kernel

theorem buttonFields_eq : buttonFields = buttonItem.fields 48 := by
  rw [buttonFields, inputFields_eq]
  decide +kernel

/-- An axis field reads the structure's axis of the same index. -/
theorem axisField_value (r : USBJoystickReportData) {i : Nat} (hi : i < 6) :
    (axisItem.field 0 i).value r.toBytes = (r.axes.getD i 0).toInt := by
  have hoffset : (axisItem.field 0 i).bitOffset = 8 * i := by
    simp [Hid.MainItem.field, axisItem]
  have hsigned : (axisItem.field 0 i).logicalMinimum < 0 :=
    show (-127 : Int) < 0 by decide
  rw [Hid.Field.value_signedByte hsigned hoffset rfl, r.toBytes_getD_axis hi]

/-- A button field reads the bit of the button word of the same index. -/
theorem buttonField_value (r : USBJoystickReportData) {i : Nat} (hi : i < 32) :
    (buttonItem.field 48 i).value r.toBytes =
      ((r.button.toNat.testBit i).toNat : Int) := by
  have hoffset : (buttonItem.field 48 i).bitOffset = 48 + i := by
    simp [Hid.MainItem.field, buttonItem]
  rw [Hid.Field.value_bit (Int.le_refl 0) rfl, hoffset,
    r.toBytes_bit_button hi]

/-- **The axes of the structure are the axes of the descriptor.** -/
theorem axisFields_values (r : USBJoystickReportData) :
    axisFields.map (·.value r.toBytes) = r.axes.map Int8.toInt := by
  have hfields : axisFields.map (·.value r.toBytes) =
      (List.range 6).map (fun i => (r.axes.getD i 0).toInt) := by
    rw [axisFields_eq, Hid.MainItem.fields, List.map_map]
    apply List.map_congr_left
    intro i hi
    exact axisField_value r (List.mem_range.mp hi)
  rw [hfields]
  rfl

/-- **The button word of the structure is the descriptor's row of bits.** -/
theorem buttonFields_values (r : USBJoystickReportData) :
    buttonFields.map (·.value r.toBytes) =
      (List.range 32).map
        (fun i => ((r.button.toNat.testBit i).toNat : Int)) := by
  rw [buttonFields_eq, Hid.MainItem.fields, List.map_map]
  apply List.map_congr_left
  intro i hi
  exact buttonField_value r (List.mem_range.mp hi)

end AvrJoystick
