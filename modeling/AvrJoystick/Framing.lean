import Mathlib.Data.List.Basic

/-!
# Framing by short packets

Data of any length goes out in packets of at most `size` items.  Every packet
but the last is full, and the last one is not: data that fills its packets is
followed by an empty one.  A receiver that joins packets up to the first short
one therefore needs no length.
-/

namespace Framing

variable {α : Type} {size : Nat} {data received : List α} {packets : List (List α)}

/-- The receiver: all packets up to the first short one, joined. -/
def collect (size : Nat) : List (List α) → Option (List α)
  | [] => none
  | p :: packets => if p.length < size then some p else (collect size packets).map (p ++ ·)

/-- The packets that a sender of `data` may have sent so far.  Each takes the
next items, and none follows a short one. -/
def Sends (size : Nat) : List α → List (List α) → Prop
  | _, [] => True
  | data, p :: packets =>
      p = data.take size ∧ (p.length < size → packets = []) ∧ Sends size (data.drop size) packets

/-- Whatever has been sent is the beginning of the data. -/
theorem Sends.flatten_prefix (h : Sends size data packets) : packets.flatten <+: data := by
  induction packets generalizing data with
  | nil => exact List.nil_prefix
  | cons p packets ih =>
      obtain ⟨rfl, _, hrest⟩ := h
      rw [List.flatten_cons]
      conv_rhs => rw [← List.take_append_drop size data]
      exact (List.prefix_append_right_inj _).mpr (ih hrest)

/-- What the receiver has put together is the data, and all that was sent. -/
theorem Sends.collect (h : Sends size data packets)
    (hreceived : Framing.collect size packets = some received) :
    received = data ∧ packets.flatten = data := by
  induction packets generalizing data received with
  | nil => cases hreceived
  | cons p packets ih =>
      obtain ⟨rfl, hlast, hrest⟩ := h
      unfold Framing.collect at hreceived
      split at hreceived
      · next hshort =>
          have hall : data.length ≤ size := by
            rw [List.length_take] at hshort
            omega
          rw [hlast hshort, ← Option.some.inj hreceived, List.take_of_length_le hall]
          exact ⟨rfl, List.flatten_singleton⟩
      · obtain ⟨tail, htail, rfl⟩ := Option.map_eq_some_iff.mp hreceived
        obtain ⟨rfl, hflatten⟩ := ih hrest htail
        rw [List.flatten_cons, hflatten, List.take_append_drop]
        exact ⟨rfl, rfl⟩

/-- Fewer packets of the same data. -/
theorem Sends.of_append {more : List (List α)} (h : Sends size data (packets ++ more)) :
    Sends size data packets := by
  induction packets generalizing data with
  | nil => trivial
  | cons p packets ih =>
      obtain ⟨hpacket, hlast, hrest⟩ := h
      refine ⟨hpacket, fun hshort => ?_, ih hrest⟩
      exact (List.append_eq_nil_iff.mp (hlast hshort)).1

/-- A short packet is the last one. -/
theorem Sends.flatten_of_short (h : Sends size data packets) {p : List α} (hp : p ∈ packets)
    (hshort : p.length < size) : packets.flatten = data := by
  induction packets generalizing data with
  | nil => cases hp
  | cons q packets ih =>
      obtain ⟨rfl, hlast, hrest⟩ := h
      rw [List.flatten_cons]
      rcases List.mem_cons.mp hp with rfl | hp
      · rw [List.length_take] at hshort
        have hall : data.length ≤ size := by omega
        rw [hlast (by rw [List.length_take]; omega), List.flatten_nil, List.append_nil,
          List.take_of_length_le hall]
      · rw [ih hrest hp, List.take_append_drop]

/-- A receiver that wants a number of items needs no more packets. -/
def Satisfied (size wanted : Nat) (packets : List (List α)) : Prop :=
  wanted ≤ packets.flatten.length ∨ ∃ p ∈ packets, p.length < size

/-- It then has all that there is for it. -/
theorem Sends.satisfied (h : Sends size data packets) {wanted : Nat}
    (hs : Satisfied size wanted packets) : data.take wanted <+: packets.flatten := by
  rcases hs with hlength | ⟨p, hp, hshort⟩
  · have hbegins := List.prefix_iff_eq_take.mp h.flatten_prefix
    rw [hbegins]
    exact List.take_prefix_take_left hlength
  · rw [h.flatten_of_short hp hshort]
    exact List.take_prefix _ _

end Framing
