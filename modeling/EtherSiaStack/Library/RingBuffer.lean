/-
Positions in a ring.

A pointer into a ring is a number that only grows, so the place it stands for is its
remainder by the capacity.  A pointer of finite width may wrap as well: that changes no
position if the capacity divides the modulus.  A run of at most `capacity` positions
meets none twice, and goes past the end of the ring once at most.
-/

import Mathlib

namespace RingBuffer

/-- Where the element `offset` places behind the pointer is. -/
def position (capacity pointer offset : Nat) : Nat :=
  (pointer + offset) % capacity

variable {capacity pointer offset : Nat}

theorem position_lt (positive : 0 < capacity) : position capacity pointer offset < capacity :=
  Nat.mod_lt _ positive

theorem position_add (capacity pointer count offset : Nat) :
    position capacity (pointer + count) offset = position capacity pointer (count + offset) := by
  unfold position
  rw [Nat.add_assoc]

theorem position_mod {modulus : Nat} (divides : capacity ∣ modulus) (pointer offset : Nat) :
    position capacity (pointer % modulus) offset = position capacity pointer offset := by
  unfold position
  rw [Nat.add_mod, Nat.mod_mod_of_dvd _ divides, ← Nat.add_mod]

theorem position_before (before : pointer % capacity + offset < capacity) :
    position capacity pointer offset = pointer % capacity + offset := by
  unfold position
  rw [← Nat.mod_add_mod, Nat.mod_eq_of_lt before]

theorem position_behind (behind : capacity ≤ pointer % capacity + offset)
    (once : pointer % capacity + offset < 2 * capacity) :
    position capacity pointer offset = pointer % capacity + offset - capacity := by
  unfold position
  rw [← Nat.mod_add_mod, Nat.mod_eq_sub_mod behind, Nat.mod_eq_of_lt (by omega)]

theorem position_injective {first second : Nat} (firstInside : first < capacity)
    (secondInside : second < capacity)
    (same : position capacity pointer first = position capacity pointer second) :
    first = second := by
  have congruent : first ≡ second [MOD capacity] := Nat.ModEq.add_left_cancel' pointer same
  exact Nat.ModEq.eq_of_lt_of_lt congruent firstInside secondInside

end RingBuffer
