/-
When an option walk ends.

Both walks step from one option to the next by a length byte of the packet and
stop once they are past its end.  An option whose length byte is 0 is its own
successor, so a walk that meets one never ends, and every other walk does.
-/

import EtherSiaStack.Reception

namespace EtherSiaStack

open ByteMemory IPv6Packet FuelLoop

namespace EtherSia

/-- Where the option with this number starts, going by the length bytes. -/
def optionStart (memory : Memory) (first : Nat) : Nat → Nat
  | 0 => first
  | number + 1 =>
      optionStart memory first number + optionSize memory (optionStart memory first number)

/-- Among the options that start within the next `remaining` bytes, up to the
first one the walk leaves at, there is one of length 0. -/
def ZeroLengthOption (memory : Memory) (leaves : UInt8 → Prop) (first : Nat)
    (remaining : Int16) : Prop :=
  ∃ number, (optionStart memory first number : Int) < first + remaining.toInt ∧
    memory (optionStart memory first number + 1) = 0 ∧
      ∀ earlier ≤ number, ¬ leaves (memory (optionStart memory first earlier))

theorem optionStart_head (memory : Memory) (first number : Nat) :
    optionStart memory first (number + 1) =
      optionStart memory (first + optionSize memory first) number := by
  induction number with
  | zero => rfl
  | succ number ih =>
      rw [optionStart, ih]
      rfl

theorem first_le_optionStart (memory : Memory) (first number : Nat) :
    first ≤ optionStart memory first number := by
  induction number with
  | zero => exact le_rfl
  | succ number ih => exact ih.trans (Nat.le_add_right _ _)

theorem optionSize_le (memory : Memory) (ptr : Nat) : optionSize memory ptr ≤ 2040 := by
  have bound := (memory (ptr + 1)).toNat_lt
  unfold optionSize
  omega

theorem optionSize_eq_zero_iff (memory : Memory) (ptr : Nat) :
    optionSize memory ptr = 0 ↔ memory (ptr + 1) = 0 := by
  rw [← UInt8.toNat_inj, UInt8.toNat_zero]
  unfold optionSize
  omega

theorem positive_iff (word : Int16) : word > 0 ↔ 0 < word.toInt :=
  Int16.lt_iff_toInt_lt

/-- The subtraction does not wrap while the walk goes on. -/
theorem remaining_sub_toInt {remaining : Int16} (positive : remaining > 0) {size : Nat}
    (small : size ≤ 2040) :
    (remaining - Int16.ofNat size).toInt = remaining.toInt - size := by
  have above := (positive_iff remaining).mp positive
  have below : remaining.toInt ≤ 32767 := remaining.toInt_le
  have range : Int16.size = 65536 := rfl
  have word : (Int16.ofNat size).toInt = size := by
    rw [Int16.toInt_ofNat', range]
    exact Int.bmod_eq_of_le (by omega) (by omega)
  rw [Int16.toInt_sub, word]
  exact Int.bmod_eq_of_le (by omega) (by omega)

/-! ### The shape both walks share -/

/-- A loop that walks options: it leaves at the end or at an option it was
looking for, and otherwise goes on to the next option over the same packet. -/
structure WalksOptions {ρ : Type} (body : OptionWalk → OptionWalk ⊕ ρ)
    (leaves : UInt8 → Prop) : Prop where
  ends : ∀ walk : OptionWalk, ¬ walk.remaining > 0 → ∃ result, body walk = .inr result
  found : ∀ walk : OptionWalk, walk.remaining > 0 →
    leaves (walk.ether.buffer walk.ptr) → ∃ result, body walk = .inr result
  passes : ∀ walk : OptionWalk, walk.remaining > 0 →
    ¬ leaves (walk.ether.buffer walk.ptr) →
      ∃ ether, ether.buffer = walk.ether.buffer ∧ body walk = .inl (walk.advance ether)

def OptionWalk.zeroAhead (walk : OptionWalk) (leaves : UInt8 → Prop) : Prop :=
  ZeroLengthOption walk.ether.buffer leaves walk.ptr walk.remaining

namespace WalksOptions

variable {ρ : Type} {body : OptionWalk → OptionWalk ⊕ ρ} {leaves : UInt8 → Prop}

theorem zeroAhead_at_zero {walk : OptionWalk} (positive : walk.remaining > 0)
    (stays : ¬ leaves (walk.ether.buffer walk.ptr))
    (zero : walk.ether.buffer (walk.ptr + 1) = 0) : walk.zeroAhead leaves := by
  have above := (positive_iff _).mp positive
  refine ⟨0, ?_, zero, ?_⟩
  · change (walk.ptr : Int) < walk.ptr + walk.remaining.toInt
    omega
  · intro earlier first
    rw [Nat.le_zero.mp first]
    exact stays

/-- The options ahead of the next pass are those after the current one. -/
theorem zeroAhead_advance {walk : OptionWalk} {ether : EtherSia}
    (positive : walk.remaining > 0) (stays : ¬ leaves (walk.ether.buffer walk.ptr))
    (sameBuffer : ether.buffer = walk.ether.buffer) :
    (walk.advance ether).zeroAhead leaves ∨ walk.ether.buffer (walk.ptr + 1) = 0 ↔
      walk.zeroAhead leaves := by
  have above := (positive_iff _).mp positive
  have left := remaining_sub_toInt positive (optionSize_le walk.ether.buffer walk.ptr)
  have ends : ((walk.ptr + optionSize walk.ether.buffer walk.ptr : Nat) : Int) +
      (walk.remaining - Int16.ofNat (optionSize walk.ether.buffer walk.ptr)).toInt =
      walk.ptr + walk.remaining.toInt := by
    rw [left]
    omega
  have ahead : (walk.advance ether).zeroAhead leaves ↔
      ZeroLengthOption walk.ether.buffer leaves
        (walk.ptr + optionSize walk.ether.buffer walk.ptr)
        (walk.remaining - Int16.ofNat (optionSize walk.ether.buffer walk.ptr)) := by
    unfold OptionWalk.zeroAhead OptionWalk.advance
    simp only [sameBuffer]
  rw [ahead]
  constructor
  · rintro (⟨number, within, zero, before⟩ | zero)
    · refine ⟨number + 1, ?_, ?_, ?_⟩
      · rw [optionStart_head, ← ends]
        exact within
      · rw [optionStart_head]
        exact zero
      · intro earlier atMost
        cases earlier with
        | zero => exact stays
        | succ earlier =>
            rw [optionStart_head]
            exact before earlier (by omega)
    · exact zeroAhead_at_zero positive stays zero
  · rintro ⟨number, within, zero, before⟩
    cases number with
    | zero => exact Or.inr zero
    | succ number =>
        refine Or.inl ⟨number, ?_, ?_, ?_⟩
        · rw [ends, ← optionStart_head]
          exact within
        · rw [← optionStart_head]
          exact zero
        · intro earlier atMost
          rw [← optionStart_head]
          exact before (earlier + 1) (by omega)

/-- A walk at an option of length 0 stays there. -/
theorem diverges_at_zero (walks : WalksOptions body leaves) {walk : OptionWalk}
    (positive : walk.remaining > 0) (stays : ¬ leaves (walk.ether.buffer walk.ptr))
    (zero : walk.ether.buffer (walk.ptr + 1) = 0) : Diverges body walk := by
  let trap (walk : OptionWalk) : Prop :=
    walk.remaining > 0 ∧ ¬ leaves (walk.ether.buffer walk.ptr) ∧
      walk.ether.buffer (walk.ptr + 1) = 0
  refine diverges_of_trap trap ?_ ⟨positive, stays, zero⟩
  rintro walk ⟨positive, stays, zero⟩
  obtain ⟨ether, sameBuffer, continues⟩ := walks.passes walk positive stays
  have noSize : optionSize walk.ether.buffer walk.ptr = 0 :=
    (optionSize_eq_zero_iff _ _).mpr zero
  have noStep : walk.remaining - Int16.ofNat 0 = walk.remaining := by simp
  have samePtr : (walk.advance ether).ptr = walk.ptr := by
    simp only [OptionWalk.advance, sameBuffer, noSize, Nat.add_zero]
  have sameRemaining : (walk.advance ether).remaining = walk.remaining := by
    simp only [OptionWalk.advance, sameBuffer, noSize, noStep]
  refine ⟨_, continues, ?_⟩
  simp only [trap, samePtr, sameRemaining]
  exact ⟨positive, sameBuffer ▸ stays, sameBuffer ▸ zero⟩

/-- What is left of the payload, as a loop measure. -/
def left (walk : OptionWalk) : Nat :=
  walk.remaining.toInt.toNat

theorem left_advance_lt {walk : OptionWalk} {ether : EtherSia}
    (positive : walk.remaining > 0) (sameBuffer : ether.buffer = walk.ether.buffer)
    (nonzero : walk.ether.buffer (walk.ptr + 1) ≠ 0) :
    left (walk.advance ether) < left walk := by
  have above := (positive_iff _).mp positive
  have size : optionSize walk.ether.buffer walk.ptr ≠ 0 := fun noSize =>
    nonzero ((optionSize_eq_zero_iff _ _).mp noSize)
  have next : (walk.advance ether).remaining.toInt =
      walk.remaining.toInt - optionSize walk.ether.buffer walk.ptr := by
    simp only [OptionWalk.advance, sameBuffer]
    exact remaining_sub_toInt positive (optionSize_le _ _)
  unfold left
  omega

/-- One pass leaves with no option of length 0 ahead, is at such an option, or
goes on to a walk with less payload left and the same options ahead. -/
theorem pass_cases (walks : WalksOptions body leaves) (walk : OptionWalk) :
    (∃ result, body walk = .inr result ∧ ¬ walk.zeroAhead leaves) ∨
      (Diverges body walk ∧ walk.zeroAhead leaves) ∨
        ∃ next, body walk = .inl next ∧ left next < left walk ∧
          (next.zeroAhead leaves ↔ walk.zeroAhead leaves) := by
  by_cases positive : walk.remaining > 0
  · by_cases stays : leaves (walk.ether.buffer walk.ptr)
    · obtain ⟨result, returned⟩ := walks.found walk positive stays
      refine Or.inl ⟨result, returned, ?_⟩
      rintro ⟨number, _, _, before⟩
      exact before 0 (Nat.zero_le _) stays
    · by_cases zero : walk.ether.buffer (walk.ptr + 1) = 0
      · exact Or.inr (Or.inl ⟨walks.diverges_at_zero positive stays zero,
          zeroAhead_at_zero positive stays zero⟩)
      · obtain ⟨ether, sameBuffer, continues⟩ := walks.passes walk positive stays
        refine Or.inr (Or.inr ⟨_, continues, left_advance_lt positive sameBuffer zero, ?_⟩)
        rw [← zeroAhead_advance positive stays sameBuffer]
        exact (or_iff_left zero).symm
  · have ended : ¬ 0 < walk.remaining.toInt := fun above =>
      positive ((positive_iff _).mpr above)
    obtain ⟨result, returned⟩ := walks.ends walk positive
    refine Or.inl ⟨result, returned, ?_⟩
    rintro ⟨number, within, _, _⟩
    have above := first_le_optionStart walk.ether.buffer walk.ptr number
    omega

/-- A walk never ends exactly when an option of length 0 lies ahead. -/
theorem diverges_iff (walks : WalksOptions body leaves) (walk : OptionWalk) :
    Diverges body walk ↔ walk.zeroAhead leaves := by
  induction measure : left walk using Nat.strong_induction_on generalizing walk with
  | _ left ih =>
      rcases walks.pass_cases walk with
        ⟨result, returned, noZero⟩ | ⟨diverges, zero⟩ | ⟨next, continues, smaller, same⟩
      · exact iff_of_false (not_diverges_of_leave returned) noZero
      · exact iff_of_true diverges zero
      · rw [diverges_iff_of_continue continues, ← same]
        exact ih _ (measure ▸ smaller) next rfl

/-- The fuel of the model decides whether a walk returns. -/
theorem run_eq_none_iff (walks : WalksOptions body leaves) (walk : OptionWalk) :
    FuelLoop.run body optionWalkFuel walk = none ↔ walk.zeroAhead leaves := by
  rw [← walks.diverges_iff walk]
  apply run_eq_none_iff_diverges left
  · intro walk next continues
    rcases walks.pass_cases walk with
      ⟨result, returned, _⟩ | ⟨diverges, _⟩ | ⟨other, advances, smaller, _⟩
    · rw [returned] at continues
      cases continues
    · exact Or.inr diverges
    · rw [advances] at continues
      cases continues
      exact Or.inl smaller
  · have below : walk.remaining.toInt ≤ 32767 := walk.remaining.toInt_le
    have fuel : optionWalkFuel = 32768 := rfl
    unfold left
    omega

end WalksOptions

end EtherSia

end EtherSiaStack
