import AvrJoystick.Descriptors

/-!
# What a host can ask the device to describe

The descriptors of `descriptors.c` as the bytes that go over the bus, the
callback that picks one of them for a GET_DESCRIPTOR, and the serial number
string the USB library makes up from the controller's signature row.

The serial number is read one hexadecimal digit at a time, the low half of
each signature byte first.  Nothing of the ten bytes is lost on the way:
`serial_number_identifies_controller`.
-/

namespace AvrJoystick

/-- A sixteen bit member of a packed descriptor. -/
def littleEndian (w : UInt16) : List UInt8 := [w.toUInt8, (w >>> 8).toUInt8]

/-- `VERSION_BCD`. -/
def versionBCD (major minor revision : UInt16) : UInt16 :=
  ((major &&& 0xFF) <<< 8) ||| ((minor &&& 0x0F) <<< 4) ||| (revision &&& 0x0F)

def dtypeDevice : UInt8 := 0x01
def dtypeConfiguration : UInt8 := 0x02
def dtypeString : UInt8 := 0x03
def dtypeInterface : UInt8 := 0x04
def dtypeEndpoint : UInt8 := 0x05
def hidDtypeHID : UInt8 := 0x21
def hidDtypeReport : UInt8 := 0x22

def stringIDLanguage : UInt8 := 0
def stringIDManufacturer : UInt8 := 1
def stringIDProduct : UInt8 := 2

/-- `NO_DESCRIPTOR`. -/
def noDescriptor : UInt8 := 0

/-- `FIXED_NUM_CONFIGURATIONS`. -/
def fixedNumConfigurations : UInt8 := 1

def endpointDirIn : UInt8 := 0x80

/-- `ENDPOINT_CONTROLEP`. -/
def endpointControlEP : UInt8 := 0

/-- `JOYSTICK_IN_EPADDR`. -/
def joystickINEPAddr : UInt8 := endpointDirIn ||| 1

def epTypeControl : UInt8 := 0x00
def epTypeInterrupt : UInt8 := 0x03

/-- `DeviceDescriptor`. -/
def deviceDescriptor : List UInt8 :=
  [18, dtypeDevice] ++ littleEndian (versionBCD 1 1 0) ++
    -- class, subclass, protocol
    [0, 0, 0] ++
    [UInt8.ofNat fixedControlEndpointSize] ++
    littleEndian 0x1337 ++ littleEndian 0xBEEF ++ littleEndian (versionBCD 0 0 1) ++
    [stringIDManufacturer, stringIDProduct, noDescriptor, fixedNumConfigurations]

/-- `ConfigurationDescriptor.HID_JoystickHID`. -/
def hidJoystickHID : List UInt8 :=
  [9, hidDtypeHID] ++ littleEndian (versionBCD 1 1 1) ++
    -- country code, number of report descriptors
    [0x00, 1] ++
    [hidDtypeReport] ++ littleEndian (UInt16.ofNat joystickReport.length)

/-- `ConfigurationDescriptor.HID_Interface`. -/
def hidInterface : List UInt8 :=
  [9, dtypeInterface, interfaceIDJoystick, 0x00, 1] ++
    -- HID class, neither boot subclass nor boot protocol
    [0x03, 0x00, 0x00, noDescriptor]

/-- `ConfigurationDescriptor.HID_ReportINEndpoint`. -/
def hidReportINEndpoint : List UInt8 :=
  [7, dtypeEndpoint, joystickINEPAddr, epTypeInterrupt] ++
    littleEndian (UInt16.ofNat hidReportINEndpointSize) ++ [0x05]

/-- `ConfigurationDescriptor`. -/
def configurationDescriptor : List UInt8 :=
  [9, dtypeConfiguration] ++
    littleEndian (UInt16.ofNat (9 + hidInterface.length + hidJoystickHID.length +
      hidReportINEndpoint.length)) ++
    -- one interface, number 1, no name, self powered, 100 mA
    [1, 1, noDescriptor, 0x80 ||| 0x40, (100 : UInt8) >>> 1] ++
    hidInterface ++ hidJoystickHID ++ hidReportINEndpoint

/-- `USB_STRING_DESCRIPTOR`. -/
def stringDescriptor (chars : List UInt16) : List UInt8 :=
  [UInt8.ofNat (2 + 2 * chars.length), dtypeString] ++ chars.flatMap littleEndian

/-- A wide string literal. -/
def wide (text : String) : List UInt16 := text.toList.map (fun c => UInt16.ofNat c.toNat)

def languageString : List UInt8 := stringDescriptor [0x0409]
def manufacturerString : List UInt8 := stringDescriptor (wide "Sam Kerr")
def productString : List UInt8 := stringDescriptor (wide "Cessna 172 I/O Board")

/-- `CALLBACK_USB_GetDescriptor`: the bytes at the address and of the size
returned, where no descriptor has size 0. -/
def callbackUSBGetDescriptor (wValue : UInt16) (_wIndex : UInt8) : List UInt8 :=
  let descriptorType := (wValue >>> 8).toUInt8
  let descriptorNumber := (wValue &&& 0xFF).toUInt8
  if descriptorType = dtypeDevice then deviceDescriptor
  else if descriptorType = dtypeConfiguration then configurationDescriptor
  else if descriptorType = dtypeString then
    if descriptorNumber = stringIDLanguage then languageString
    else if descriptorNumber = stringIDManufacturer then manufacturerString
    else if descriptorNumber = stringIDProduct then productString
    else []
  else if descriptorType = hidDtypeHID then hidJoystickHID
  else if descriptorType = hidDtypeReport then joystickReport
  else []

/-- `USE_INTERNAL_SERIAL`. -/
def useInternalSerial : UInt16 := 0xDC

/-- `INTERNAL_SERIAL_LENGTH_BITS`. -/
def internalSerialLengthBits : Nat := 80

/-- `INTERNAL_SERIAL_START_ADDRESS`. -/
def internalSerialStartAddress : UInt8 := 0x0E

/-- The character of one half of a signature byte. -/
def serialChar (serialByte : UInt8) : UInt16 :=
  if 10 ≤ serialByte then (0x41 - 10) + serialByte.toUInt16
  else 0x30 + serialByte.toUInt16

/-- The loop of `USB_Device_GetSerialString`, for the characters from
`serialCharNum` on.  `boot_signature_byte_get` is `signature`. -/
def serialStringLoop (signature : UInt8 → UInt8) :
    (rest : Nat) → (serialCharNum sigReadAddress : UInt8) → List UInt16
  | 0, _, _ => []
  | rest + 1, serialCharNum, sigReadAddress =>
      let serialByte := signature sigReadAddress
      if serialCharNum &&& 0x01 ≠ 0 then
        serialChar ((serialByte >>> 4) &&& 0x0F) ::
          serialStringLoop signature rest (serialCharNum + 1) (sigReadAddress + 1)
      else
        serialChar (serialByte &&& 0x0F) ::
          serialStringLoop signature rest (serialCharNum + 1) sigReadAddress

/-- `USB_Device_GetSerialString`. -/
def usbDeviceGetSerialString (signature : UInt8 → UInt8) : List UInt16 :=
  serialStringLoop signature (internalSerialLengthBits / 4) 0 internalSerialStartAddress

/-- The descriptor `USB_Device_GetInternalSerialDescriptor` sends. -/
def internalSerialDescriptor (signature : UInt8 → UInt8) : List UInt8 :=
  stringDescriptor (usbDeviceGetSerialString signature)

/-- The signature bytes the serial number is made of. -/
def serialBytes (signature : UInt8 → UInt8) : List UInt8 :=
  (List.range (internalSerialLengthBits / 8)).map
    (fun i => signature (internalSerialStartAddress + UInt8.ofNat i))

/-- The two characters of a signature byte. -/
def serialDigits (b : UInt8) : List UInt16 :=
  [serialChar (b &&& 0x0F), serialChar ((b >>> 4) &&& 0x0F)]

/-- A property of bytes can be checked on the numbers below 256. -/
theorem uint8_forall {P : UInt8 → Prop} (h : ∀ i : Fin 256, P (UInt8.ofNat i)) :
    ∀ x, P x := by
  intro x
  simpa only [UInt8.ofNat_toNat] using h ⟨x.toNat, x.toNat_lt⟩

theorem serialChar_injOn {a b : UInt8}
    (h : serialChar (a &&& 0x0F) = serialChar (b &&& 0x0F)) : a &&& 0x0F = b &&& 0x0F := by
  have hdigits : ∀ i j : Fin 16,
      serialChar (UInt8.ofNat i) = serialChar (UInt8.ofNat j) → i = j := by
    decide +kernel
  have hnibble : ∀ x : UInt8, (x &&& 0x0F).toNat < 16 := fun x => by
    rw [UInt8.toNat_and]
    exact lt_of_le_of_lt Nat.and_le_right (by decide)
  have heq := hdigits ⟨_, hnibble a⟩ ⟨_, hnibble b⟩ (by simpa using h)
  exact UInt8.toNat_inj.mp (Fin.mk.inj heq)

/-- The characters of a byte determine it. -/
theorem serialDigits_injective : Function.Injective serialDigits := by
  intro a b h
  have hsplit : ∀ x : UInt8,
      x = (x &&& (0x0F : UInt8)) ||| (((x >>> 4) &&& (0x0F : UInt8)) <<< (4 : UInt8)) := by
    refine uint8_forall ?_
    decide +kernel
  simp only [serialDigits, List.cons.injEq, and_true] at h
  rw [hsplit a, hsplit b, serialChar_injOn h.1, serialChar_injOn h.2]

theorem littleEndian_injective : Function.Injective littleEndian := by
  intro v w h
  have hbytes : v.toUInt8 = w.toUInt8 ∧ (v >>> 8).toUInt8 = (w >>> 8).toUInt8 := by
    simpa [littleEndian] using h
  have hlow := congrArg UInt8.toNat hbytes.1
  have hhigh := congrArg UInt8.toNat hbytes.2
  simp only [UInt16.toNat_toUInt8, UInt16.toNat_shiftRight] at hlow hhigh
  apply UInt16.toNat_inj.mp
  have hv := v.toNat_lt
  have hw := w.toNat_lt
  simp [Nat.shiftRight_eq_div_pow] at hlow hhigh
  omega

/-- Blocks of one length can be told apart again. -/
theorem flatMap_injective {α β : Type} {f : α → List β} (n : Nat)
    (hf : Function.Injective f) (hlen : ∀ a, (f a).length = n) :
    ∀ {xs ys : List α}, xs.length = ys.length →
      xs.flatMap f = ys.flatMap f → xs = ys
  | [], [], _, _ => rfl
  | x :: xs, y :: ys, hl, h => by
      rw [List.flatMap_cons, List.flatMap_cons] at h
      obtain ⟨hhead, htail⟩ := List.append_inj h ((hlen x).trans (hlen y).symm)
      rw [hf hhead, flatMap_injective n hf hlen (Nat.succ.inj hl) htail]

theorem usbDeviceGetSerialString_eq (signature : UInt8 → UInt8) :
    usbDeviceGetSerialString signature = (serialBytes signature).flatMap serialDigits :=
  rfl

/-- **The serial number identifies the controller**: two controllers send the
same serial number descriptor exactly when their signature rows agree on the
ten bytes it is made of. -/
theorem serial_number_identifies_controller (signature signature' : UInt8 → UInt8) :
    internalSerialDescriptor signature = internalSerialDescriptor signature' ↔
      serialBytes signature = serialBytes signature' := by
  constructor
  · intro h
    have hchars : usbDeviceGetSerialString signature =
        usbDeviceGetSerialString signature' := by
      refine flatMap_injective 2 littleEndian_injective (fun _ => rfl) rfl ?_
      exact (List.append_inj h rfl).2
    rw [usbDeviceGetSerialString_eq, usbDeviceGetSerialString_eq] at hchars
    exact flatMap_injective 2 serialDigits_injective (fun _ => rfl) rfl hchars
  · intro h
    rw [internalSerialDescriptor, internalSerialDescriptor,
      usbDeviceGetSerialString_eq, usbDeviceGetSerialString_eq, h]

end AvrJoystick
