import AvrJoystick.HidLayout

/-!
# The joystick's descriptors

`joystickReport` is the report descriptor of `descriptors.c`, built with the
item macros of the USB library's `HIDReportData.h` one line at a time.  Walking
its bytes with the HID rules yields four report items: six axis bytes, the
button bits, constant padding, and the bytes the host may send.  Everything
the rest of the development uses about the declared layout follows from that
one computation, `mainItems_joystickReport`.

The size of the buttons' usage range and the amount of padding are what the
source says, not what the report structure would need.
-/

namespace AvrJoystick

/-- `HID_RI_DATA_BITS`: the width of an item's data. -/
inductive DataBits
  | bits0
  | bits8
  | bits16
  | bits32
  deriving DecidableEq, Repr

def hidRIDataBits : DataBits → UInt8
  | .bits0 => 0x00
  | .bits8 => 0x01
  | .bits16 => 0x02
  | .bits32 => 0x03

/-- `_HID_RI_ENCODE`: the data bytes, low byte first.  Shifting the signed
value right copies its sign into the higher bytes. -/
def hidRIEncode : DataBits → Int → List UInt8
  | .bits0, _ => []
  | .bits8, data => [UInt8.ofInt data]
  | .bits16, data => [UInt8.ofInt data, UInt8.ofInt (data >>> (8 : Nat))]
  | .bits32, data =>
      [UInt8.ofInt data, UInt8.ofInt (data >>> (8 : Nat)),
        UInt8.ofInt (data >>> (16 : Nat)), UInt8.ofInt (data >>> (24 : Nat))]

def hidRITypeMain : UInt8 := 0x00
def hidRITypeGlobal : UInt8 := 0x04
def hidRITypeLocal : UInt8 := 0x08

/-- `_HID_RI_ENTRY`: header byte, then the data. -/
def hidRIEntry (type tag : UInt8) (bits : DataBits) (data : Int) : List UInt8 :=
  (type ||| tag ||| hidRIDataBits bits) :: hidRIEncode bits data

def hidRIInput := hidRIEntry hidRITypeMain 0x80
def hidRIOutput := hidRIEntry hidRITypeMain 0x90
def hidRICollection := hidRIEntry hidRITypeMain 0xA0
def hidRIEndCollection := hidRIEntry hidRITypeMain 0xC0
def hidRIUsagePage := hidRIEntry hidRITypeGlobal 0x00
def hidRILogicalMinimum := hidRIEntry hidRITypeGlobal 0x10
def hidRILogicalMaximum := hidRIEntry hidRITypeGlobal 0x20
def hidRIPhysicalMinimum := hidRIEntry hidRITypeGlobal 0x30
def hidRIPhysicalMaximum := hidRIEntry hidRITypeGlobal 0x40
def hidRIReportSize := hidRIEntry hidRITypeGlobal 0x70
def hidRIReportCount := hidRIEntry hidRITypeGlobal 0x90
def hidRIUsage := hidRIEntry hidRITypeLocal 0x00
def hidRIUsageMinimum := hidRIEntry hidRITypeLocal 0x10
def hidRIUsageMaximum := hidRIEntry hidRITypeLocal 0x20

def hidIOFConstant : Int := 1
/-- `HID_IOF_DATA | HID_IOF_VARIABLE | HID_IOF_ABSOLUTE`, to which
`HID_IOF_NON_VOLATILE` adds nothing. -/
def hidIOFDataVariableAbsolute : Int := 2

def minAxisVal : Int := -127
def maxAxisVal : Int := 127
def minPhysicalVal : Int := -1
def maxPhysicalVal : Int := 1
def buttons : Int := 32

/-- `JoystickReport`, the report descriptor. -/
def joystickReport : List UInt8 :=
  List.flatten
    [ hidRIUsagePage .bits8 0x01,
      hidRIUsage .bits8 0x04,
      hidRICollection .bits8 0x01,
      hidRIUsage .bits8 0x01,
      -- Axes
      hidRICollection .bits8 0x00,
      hidRIUsage .bits8 0x30,
      hidRIUsage .bits8 0x31,
      hidRIUsage .bits8 0x32,
      hidRIUsage .bits8 0x33,
      hidRIUsage .bits8 0x34,
      hidRIUsage .bits8 0x35,
      hidRILogicalMinimum .bits16 minAxisVal,
      hidRILogicalMaximum .bits16 maxAxisVal,
      hidRIPhysicalMinimum .bits16 minPhysicalVal,
      hidRIPhysicalMaximum .bits16 maxPhysicalVal,
      hidRIReportCount .bits8 6,
      hidRIReportSize .bits8 8,
      hidRIInput .bits8 hidIOFDataVariableAbsolute,
      hidRIEndCollection .bits0 0,
      -- Buttons
      hidRIUsagePage .bits8 0x09,
      hidRIUsageMinimum .bits8 0x01,
      hidRIUsageMaximum .bits8 0x02,
      hidRILogicalMinimum .bits8 0x00,
      hidRILogicalMaximum .bits8 0x01,
      hidRIReportSize .bits8 1,
      hidRIReportCount .bits8 buttons,
      hidRIInput .bits8 hidIOFDataVariableAbsolute,
      -- Padding
      hidRIReportSize .bits8 8,
      hidRIReportCount .bits8 24,
      hidRIInput .bits8 hidIOFConstant,
      -- HOST OUT data
      hidRIUsage .bits8 0x01,
      hidRIReportSize .bits8 0x08,
      hidRIReportCount .bits8 64,
      hidRIOutput .bits8 hidIOFDataVariableAbsolute,
      hidRIEndCollection .bits0 0 ]

/-- The six axis bytes. -/
def axisItem : Hid.MainItem where
  kind := .input
  flags := 2
  globals :=
    { usagePage := 0x01, logicalMinimum := -127, logicalMaximum := 127,
      reportSize := 8, reportCount := 6 }
  locals := { usages := [0x30, 0x31, 0x32, 0x33, 0x34, 0x35] }

/-- The button bits, with a usage range of two. -/
def buttonItem : Hid.MainItem where
  kind := .input
  flags := 2
  globals :=
    { usagePage := 0x09, logicalMinimum := 0, logicalMaximum := 1,
      reportSize := 1, reportCount := 32 }
  locals := { usageMinimum := some 1, usageMaximum := some 2 }

/-- The constant padding; usage page and logical bounds are the buttons'. -/
def paddingItem : Hid.MainItem where
  kind := .input
  flags := 1
  globals :=
    { usagePage := 0x09, logicalMinimum := 0, logicalMaximum := 1,
      reportSize := 8, reportCount := 24 }
  locals := {}

/-- The host's bytes; usage page and logical bounds are still the buttons'. -/
def hostOutItem : Hid.MainItem where
  kind := .output
  flags := 2
  globals :=
    { usagePage := 0x09, logicalMinimum := 0, logicalMaximum := 1,
      reportSize := 8, reportCount := 64 }
  locals := { usages := [0x01] }

/-- **What the report descriptor declares.** -/
theorem mainItems_joystickReport :
    Hid.mainItems joystickReport =
      [axisItem, buttonItem, paddingItem, hostOutItem] := by
  decide +kernel

/-- The fields of the input report. -/
def inputFields : List Hid.Field := Hid.reportFields joystickReport .input 0

/-- The fields of the output report. -/
def outputFields : List Hid.Field := Hid.reportFields joystickReport .output 0

theorem inputFields_eq :
    inputFields =
      axisItem.fields 0 ++ (buttonItem.fields 48 ++ paddingItem.fields 80) := by
  rw [inputFields, Hid.reportFields, mainItems_joystickReport]
  rfl

theorem outputFields_eq : outputFields = hostOutItem.fields 0 := by
  rw [outputFields, Hid.reportFields, mainItems_joystickReport]
  rfl

/-- Length in bytes of an input report, as a host computes it. -/
def declaredInputReportLength : Nat := Hid.reportBits joystickReport .input 0 / 8

/-- Six axis bytes, four button bytes and twenty-four padding bytes. -/
theorem declaredInputReportLength_eq : declaredInputReportLength = 34 := by
  rw [declaredInputReportLength, Hid.reportBits, mainItems_joystickReport]
  rfl

/-- `INTERFACE_ID_Joystick`. -/
def interfaceIDJoystick : UInt8 := 0

/-- `JOYSTICK_IN_EPSIZE`: the endpoint bank the firmware configures. -/
def joystickINEPSize : Nat := 32

/-- `HID_ReportINEndpoint.EndpointSize` of `ConfigurationDescriptor`: the
packet size the host is told. -/
def hidReportINEndpointSize : Nat := 64

/-- `FIXED_CONTROL_ENDPOINT_SIZE`. -/
def fixedControlEndpointSize : Nat := 8

end AvrJoystick
