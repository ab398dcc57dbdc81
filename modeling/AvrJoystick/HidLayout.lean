import AvrJoystick.BitStream

/-!
# What a HID report descriptor declares

A report descriptor is a byte string of short items: a header byte with the
item's type, tag and data size, then its data, least significant byte first.
Items drive a small state machine.  Global items set attributes that stay in
force until the next item of the same tag; local items describe the next main
item only; an Input, Output or Feature item declares `Report Count` fields of
`Report Size` bits with the attributes then in force.

The fields of one report lie one after the other from bit zero.  The field
with index `i` of a main item takes the `i`-th usage given for that item (the
explicit usages in order, then the range from Usage Minimum to Usage Maximum)
and the last one when the usages have run out.  The physical and unit
attributes do not bear on the layout and are skipped.  Long items, with the
header 0xFE, are not read: the descriptor of the joystick has none.
-/

namespace Hid

/-- The type bits of an item header. -/
inductive ItemType
  | mainItem
  | globalItem
  | localItem
  | reservedItem
  deriving DecidableEq, Repr

/-- A short item. -/
structure Item where
  type : ItemType
  tag : Nat
  data : List UInt8
  deriving DecidableEq, Repr

/-- Number of data bytes announced by an item header. -/
def dataLength (header : UInt8) : Nat :=
  match (header &&& 3).toNat with
  | 0 => 0
  | 1 => 1
  | 2 => 2
  | _ => 4

def itemType (header : UInt8) : ItemType :=
  match ((header >>> 2) &&& 3).toNat with
  | 0 => .mainItem
  | 1 => .globalItem
  | 2 => .localItem
  | _ => .reservedItem

def itemTag (header : UInt8) : Nat := (header >>> 4).toNat

/-- The item reader between two bytes: the items completed so far and, while
`missing` is positive, the header and data of the item being read. -/
structure Reader where
  items : List Item := []
  header : UInt8 := 0
  missing : Nat := 0
  data : List UInt8 := []

def Reader.byte (r : Reader) (b : UInt8) : Reader :=
  match r.missing with
  | 0 =>
      if dataLength b = 0 then
        { r with items := r.items ++ [⟨itemType b, itemTag b, []⟩] }
      else
        { r with header := b, missing := dataLength b, data := [] }
  | 1 =>
      { r with
        items := r.items ++
          [⟨itemType r.header, itemTag r.header, r.data ++ [b]⟩]
        missing := 0 }
  | n + 2 => { r with missing := n + 1, data := r.data ++ [b] }

/-- The items of a descriptor.  An item cut off by its end is not one. -/
def readItems (descriptor : List UInt8) : List Item :=
  (descriptor.foldl Reader.byte {}).items

/-- Item data as an unsigned number. -/
def unsignedData (data : List UInt8) : Nat :=
  data.foldr (fun b n => b.toNat + 256 * n) 0

/-- Item data as a signed number of its own width. -/
def signedData (data : List UInt8) : Int :=
  (BitVec.ofNat (8 * data.length) (unsignedData data)).toInt

/-- Attributes that stay in force until they are set again. -/
structure Globals where
  usagePage : Nat := 0
  logicalMinimum : Int := 0
  logicalMaximum : Int := 0
  reportSize : Nat := 0
  reportID : Nat := 0
  reportCount : Nat := 0
  deriving DecidableEq, Repr

def Globals.set (g : Globals) (tag : Nat) (data : List UInt8) : Globals :=
  match tag with
  | 0x0 => { g with usagePage := unsignedData data }
  | 0x1 => { g with logicalMinimum := signedData data }
  | 0x2 => { g with logicalMaximum := signedData data }
  | 0x7 => { g with reportSize := unsignedData data }
  | 0x8 => { g with reportID := unsignedData data }
  | 0x9 => { g with reportCount := unsignedData data }
  | _ => g

/-- Attributes of the next main item only. -/
structure Locals where
  usages : List Nat := []
  usageMinimum : Option Nat := none
  usageMaximum : Option Nat := none
  deriving DecidableEq, Repr

def Locals.set (l : Locals) (tag : Nat) (data : List UInt8) : Locals :=
  match tag with
  | 0x0 => { l with usages := l.usages ++ [unsignedData data] }
  | 0x1 => { l with usageMinimum := some (unsignedData data) }
  | 0x2 => { l with usageMaximum := some (unsignedData data) }
  | _ => l

/-- All usages given for a main item, in the order they are handed out. -/
def Locals.usageList (l : Locals) : List Nat :=
  l.usages ++
    match l.usageMinimum, l.usageMaximum with
    | some lo, some hi => (List.range (hi + 1 - lo)).map (lo + ·)
    | _, _ => []

/-- The usage of field `i`; the last usage serves the fields left over. -/
def Locals.usageAt (l : Locals) (i : Nat) : Option Nat :=
  l.usageList[i]?.or l.usageList.getLast?

/-- The kinds of report. -/
inductive Kind
  | input
  | output
  | feature
  deriving DecidableEq, Repr

/-- An Input, Output or Feature item with the attributes in force at it. -/
structure MainItem where
  kind : Kind
  flags : Nat
  globals : Globals
  locals : Locals
  deriving DecidableEq, Repr

/-- State of the descriptor walk. -/
structure Walk where
  globals : Globals := {}
  pushed : List Globals := []
  locals : Locals := {}
  mains : List MainItem := []

/-- Record a report item and forget the local attributes. -/
def Walk.declare (w : Walk) (kind : Kind) (data : List UInt8) : Walk :=
  { w with
    locals := {}
    mains := w.mains ++ [⟨kind, unsignedData data, w.globals, w.locals⟩] }

def Walk.item (w : Walk) (it : Item) : Walk :=
  match it.type, it.tag with
  | .mainItem, 0x8 => w.declare .input it.data
  | .mainItem, 0x9 => w.declare .output it.data
  | .mainItem, 0xB => w.declare .feature it.data
  | .mainItem, _ => { w with locals := {} }
  | .globalItem, 0xA => { w with pushed := w.globals :: w.pushed }
  | .globalItem, 0xB =>
      match w.pushed with
      | [] => w
      | g :: rest => { w with globals := g, pushed := rest }
  | .globalItem, tag => { w with globals := w.globals.set tag it.data }
  | .localItem, tag => { w with locals := w.locals.set tag it.data }
  | .reservedItem, _ => w

/-- The report items of a descriptor, in order. -/
def mainItems (descriptor : List UInt8) : List MainItem :=
  ((readItems descriptor).foldl Walk.item {}).mains

/-- One field of a report. -/
structure Field where
  isConstant : Bool
  bitOffset : Nat
  bitSize : Nat
  usage : Option (Nat × Nat)
  logicalMinimum : Int
  logicalMaximum : Int
  deriving DecidableEq, Repr

/-- The field's value in a report, signed when its Logical Minimum is
negative. -/
def Field.value (f : Field) (report : List UInt8) : Int :=
  if f.logicalMinimum < 0 then
    (BitVec.ofNat f.bitSize
      (BitStream.window report f.bitOffset f.bitSize)).toInt
  else
    (BitStream.window report f.bitOffset f.bitSize : Int)

/-- The field's value lies between its logical bounds. -/
def Field.InRange (f : Field) (report : List UInt8) : Prop :=
  f.logicalMinimum ≤ f.value report ∧ f.value report ≤ f.logicalMaximum

instance (f : Field) (report : List UInt8) : Decidable (f.InRange report) := by
  unfold Field.InRange; infer_instance

/-- Number of bits a main item takes up in its report. -/
def MainItem.bitLength (m : MainItem) : Nat :=
  m.globals.reportSize * m.globals.reportCount

/-- Field `i` of a main item that starts at bit `offset`. -/
def MainItem.field (m : MainItem) (offset i : Nat) : Field where
  isConstant := m.flags.testBit 0
  bitOffset := offset + m.globals.reportSize * i
  bitSize := m.globals.reportSize
  usage := (m.locals.usageAt i).map (fun u => (m.globals.usagePage, u))
  logicalMinimum := m.globals.logicalMinimum
  logicalMaximum := m.globals.logicalMaximum

def MainItem.fields (m : MainItem) (offset : Nat) : List Field :=
  (List.range m.globals.reportCount).map (m.field offset)

/-- The main item belongs to the report of this kind and ID. -/
def MainItem.Declares (m : MainItem) (kind : Kind) (id : Nat) : Prop :=
  m.kind = kind ∧ m.globals.reportID = id

instance (m : MainItem) (kind : Kind) (id : Nat) :
    Decidable (m.Declares kind id) := by
  unfold MainItem.Declares; infer_instance

/-- The fields of one report, laid out from bit `offset` on. -/
def fieldsFrom (kind : Kind) (id : Nat) : Nat → List MainItem → List Field
  | _, [] => []
  | offset, m :: rest =>
      if m.Declares kind id then
        m.fields offset ++ fieldsFrom kind id (offset + m.bitLength) rest
      else
        fieldsFrom kind id offset rest

/-- The fields a descriptor declares for one report. -/
def reportFields (descriptor : List UInt8) (kind : Kind) (id : Nat) :
    List Field :=
  fieldsFrom kind id 0 (mainItems descriptor)

/-- The values a host finds in a report under one usage.  It cannot tell fields
with the same usage apart. -/
def usageValues (fields : List Field) (report : List UInt8) (usage : Nat × Nat) :
    List Int :=
  (fields.filter (·.usage == some usage)).map (·.value report)

/-- A host that goes by usages decodes the two reports to the same values. -/
def SameByUsage (fields : List Field) (report report' : List UInt8) : Prop :=
  ∀ usage,
    (usageValues fields report usage).Perm (usageValues fields report' usage)

/-- Length in bits of one report, as declared. -/
def reportBits (descriptor : List UInt8) (kind : Kind) (id : Nat) : Nat :=
  (((mainItems descriptor).filter (·.Declares kind id)).map
    MainItem.bitLength).sum

theorem MainItem.mem_fields {m : MainItem} {offset : Nat} {f : Field} :
    f ∈ m.fields offset ↔
      ∃ i, i < m.globals.reportCount ∧ m.field offset i = f := by
  simp [MainItem.fields]

/-- A byte-wide signed field at a byte boundary reads that byte as a signed
number. -/
theorem Field.value_signedByte {f : Field} {report : List UInt8} {j : Nat}
    (hmin : f.logicalMinimum < 0) (hoffset : f.bitOffset = 8 * j)
    (hsize : f.bitSize = 8) :
    f.value report = (report.getD j 0).toInt8.toInt := by
  rw [Field.value, if_pos hmin, hoffset, hsize, BitStream.window_byte]
  show (BitVec.ofNat 8 (report.getD j 0).toBitVec.toNat).toInt =
    (report.getD j 0).toBitVec.toInt
  rw [BitVec.ofNat_toNat, BitVec.setWidth_eq]

/-- A byte-wide unsigned field at a byte boundary reads that byte. -/
theorem Field.value_unsignedByte {f : Field} {report : List UInt8} {j : Nat}
    (hmin : 0 ≤ f.logicalMinimum) (hoffset : f.bitOffset = 8 * j)
    (hsize : f.bitSize = 8) :
    f.value report = ((report.getD j 0).toNat : Int) := by
  rw [Field.value, if_neg (by omega), hoffset, hsize, BitStream.window_byte]

/-- A one-bit unsigned field reads one bit of the stream. -/
theorem Field.value_bit {f : Field} {report : List UInt8}
    (hmin : 0 ≤ f.logicalMinimum) (hsize : f.bitSize = 1) :
    f.value report = ((BitStream.bit report f.bitOffset).toNat : Int) := by
  rw [Field.value, if_neg (by omega), hsize, BitStream.window_one]

end Hid
