import Mathlib.Data.Bool.Count

/-!
# Little-endian bit streams

A list of bytes read as a stream of bits: bit `i` is bit `i % 8` of byte
`i / 8`, and bits past the last byte read as zero.  A field is a window of
consecutive bits, least significant bit first.

The lemmas say how windows see the two ways streams are put together here:
byte-aligned windows return the byte itself, and a number stored least
significant byte first shows its own binary digits.
-/

namespace BitStream

/-- Bit `i` of the stream. -/
def bit (bytes : List UInt8) (i : Nat) : Bool :=
  (bytes.getD (i / 8) 0).toNat.testBit (i % 8)

/-- The value of the `width` bits from `offset` on. -/
def window (bytes : List UInt8) (offset : Nat) : Nat → Nat
  | 0 => 0
  | width + 1 =>
      window bytes offset width + 2 ^ width * (bit bytes (offset + width)).toNat

/-- The bytes of `value`, least significant first. -/
def leBytes (count value : Nat) : List UInt8 :=
  (List.range count).map (fun j => UInt8.ofNat (value >>> (8 * j)))

@[simp] theorem leBytes_length (count value : Nat) :
    (leBytes count value).length = count := by
  simp [leBytes]

theorem bit_append_right (front back : List UInt8) (i : Nat) :
    bit (front ++ back) (8 * front.length + i) = bit back i := by
  have hdiv : (8 * front.length + i) / 8 = front.length + i / 8 := by omega
  have hmod : (8 * front.length + i) % 8 = i % 8 := by omega
  unfold bit
  rw [hdiv, hmod, List.getD_eq_getElem?_getD, List.getD_eq_getElem?_getD,
    List.getElem?_append_right (Nat.le_add_right _ _), Nat.add_sub_cancel_left]

theorem bit_append_left {front back : List UInt8} {i : Nat}
    (hi : i < 8 * front.length) :
    bit (front ++ back) i = bit front i := by
  unfold bit
  rw [List.getD_eq_getElem?_getD, List.getD_eq_getElem?_getD,
    List.getElem?_append_left (by omega)]

/-- A stored number shows its own digits. -/
theorem bit_leBytes {count value i : Nat} (hi : i < 8 * count) :
    bit (leBytes count value) i = value.testBit i := by
  have hbyte : (leBytes count value).getD (i / 8) 0 =
      UInt8.ofNat (value >>> (8 * (i / 8))) := by
    have hlt : i / 8 < count := by omega
    simp [leBytes, List.getD_eq_getElem?_getD, hlt]
  unfold bit
  rw [hbyte, UInt8.toNat_ofNat', Nat.testBit_mod_two_pow, Nat.testBit_shiftRight]
  have hlow : i % 8 < 8 := Nat.mod_lt _ (by decide)
  have hsum : 8 * (i / 8) + i % 8 = i := by omega
  simp [hlow, hsum]

theorem window_one (bytes : List UInt8) (offset : Nat) :
    window bytes offset 1 = (bit bytes offset).toNat := by
  simp [window]

/-- A window inside one byte is that byte cut to its low digits. -/
theorem window_aligned (bytes : List UInt8) (j : Nat) {width : Nat}
    (hwidth : width ≤ 8) :
    window bytes (8 * j) width = (bytes.getD j 0).toNat % 2 ^ width := by
  induction width with
  | zero => simp [window, Nat.mod_one]
  | succ width ih =>
      have hdiv : (8 * j + width) / 8 = j := by omega
      have hmod : (8 * j + width) % 8 = width := by omega
      rw [window, ih (by omega), bit, hdiv, hmod, Nat.mod_pow_succ,
        Nat.toNat_testBit]

/-- A byte-aligned window of eight bits is the byte. -/
theorem window_byte (bytes : List UInt8) (j : Nat) :
    window bytes (8 * j) 8 = (bytes.getD j 0).toNat := by
  rw [window_aligned bytes j (by decide)]
  exact Nat.mod_eq_of_lt (UInt8.toNat_lt _)

/-- Rows of bits of the same length are rearrangements of each other exactly
when equally many bits are set. -/
theorem perm_iff_count_true {xs ys : List Bool} (hlen : xs.length = ys.length) :
    xs.Perm ys ↔ xs.count true = ys.count true := by
  constructor
  · intro hperm
    exact hperm.count_eq true
  · intro htrue
    rw [List.perm_iff_count]
    intro b
    have hxs := List.count_true_add_count_false xs
    have hys := List.count_true_add_count_false ys
    cases b with
    | true => exact htrue
    | false => omega

/-- The same for the bits read as numbers. -/
theorem perm_map_toNat {xs ys : List Bool} :
    (xs.map (fun b => (b.toNat : Int))).Perm
        (ys.map (fun b => (b.toNat : Int))) ↔ xs.Perm ys := by
  have hback : ∀ zs : List Bool,
      (zs.map (fun b => (b.toNat : Int))).map (· == 1) = zs := by
    intro zs
    rw [List.map_map]
    exact List.map_id'' (fun b => by cases b <;> rfl) zs
  constructor
  · intro hperm
    have hbits := hperm.map (· == 1)
    rwa [hback, hback] at hbits
  · intro hperm
    exact hperm.map _

end BitStream
