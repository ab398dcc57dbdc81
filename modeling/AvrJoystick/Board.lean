/-!
# The board drivers

The I/O registers the firmware touches and the drivers of `Board/`.  The only
LED of the board hangs on bit 6 of port E, so three of the four LED masks are
empty.  The drivers are translated as they stand: setting all LEDs ignores its
mask, and toggling works on C `int`s, sixteen bits wide here, before the result
is cut back to the port.
-/

namespace AvrJoystick

/-- The port registers in use, and the level of the pins of port B. -/
structure Ports where
  portB : UInt8
  portD : UInt8
  portE : UInt8
  portF : UInt8
  ddrB : UInt8
  ddrD : UInt8
  ddrE : UInt8
  ddrF : UInt8
  pinB : UInt8
  deriving DecidableEq, Repr

/-- A board with all registers clear and all buttons released. -/
def quietBoard : Ports :=
  { portB := 0, portD := 0, portE := 0, portF := 0
    ddrB := 0, ddrD := 0, ddrE := 0, ddrF := 0, pinB := 0xFF }

def ledsLED1 : UInt8 := (1 : UInt8) <<< 6
def ledsLED2 : UInt8 := 0
def ledsLED3 : UInt8 := 0
def ledsLED4 : UInt8 := 0

def ledsAllLEDs : UInt8 := ledsLED1 ||| ledsLED2 ||| ledsLED3 ||| ledsLED4

def ledsInit (p : Ports) : Ports := { p with ddrE := 0xFF }

def ledsTurnOnLEDs (ledMask : UInt8) (p : Ports) : Ports :=
  { p with portE := p.portE ||| ledMask }

def ledsTurnOffLEDs (ledMask : UInt8) (p : Ports) : Ports :=
  { p with portE := p.portE &&& ~~~ledMask }

/-- The mask is not used. -/
def ledsSetAllLEDs (_ledMask : UInt8) (p : Ports) : Ports :=
  { p with portE := 0xFF }

/-- The complement of the moving bits is taken on a whole `int`, so it also
sets every bit outside the mask. -/
def ledsToggleLEDs (ledMask : UInt8) (p : Ports) : Ports :=
  let fixedValue := p.portE.toUInt16 &&& ~~~ledMask.toUInt16
  let movingValue := ~~~(p.portE.toUInt16 &&& ledMask.toUInt16)
  { p with portE := (movingValue ||| fixedValue).toUInt8 }

def ledsGetLEDs (p : Ports) : UInt8 := p.portE

/-- Port B is input with pull-ups; the output pins of D and F start high. -/
def buttonsInit (p : Ports) : Ports :=
  { p with
    ddrB := 0x00, ddrD := 0xFF, ddrF := 0xFF
    portB := 0xFF, portD := 0xFF, portF := 0xFF }

def ledMaskUSBNotReady : UInt8 := ledsLED1
def ledMaskUSBEnumerating : UInt8 := ledsLED2 ||| ledsLED3
def ledMaskUSBReady : UInt8 := ledsLED2 ||| ledsLED4
def ledMaskUSBError : UInt8 := ledsLED1 ||| ledsLED3

end AvrJoystick
