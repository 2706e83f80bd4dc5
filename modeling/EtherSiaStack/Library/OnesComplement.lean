/-
One's-complement addition of 16-bit words.

The end-around carry keeps a sum modulo 65535 and never turns a sum with a
nonzero term into zero, so the sum of a message is known from its residue and
from whether all of it is zero.  The checksum rule at the end says that putting
the complement of a sum into a zero word makes the whole sum 0xFFFF.
-/

import EtherSiaStack.Library.ByteMemory

namespace OnesComplement

open ByteMemory

/-- Add with end-around carry: a 16-bit addition wrapped exactly when its
result is below the word that was added. -/
def add (sum word : UInt16) : UInt16 :=
  if sum + word < word then sum + word + 1 else sum + word

theorem add_toNat (sum word : UInt16) :
    (add sum word).toNat =
      if sum.toNat + word.toNat < 65536 then sum.toNat + word.toNat
      else sum.toNat + word.toNat - 65535 := by
  have sumBound := sum.toNat_lt
  have wordBound := word.toNat_lt
  have total : (sum + word).toNat = (sum.toNat + word.toNat) % 65536 :=
    UInt16.toNat_add sum word
  unfold add
  by_cases wrapped : sum + word < word
  · have below : (sum + word).toNat < word.toNat := UInt16.lt_iff_toNat_lt.mp wrapped
    have one : (sum + word + 1).toNat = ((sum + word).toNat + 1) % 65536 :=
      UInt16.toNat_add (sum + word) 1
    rw [if_pos wrapped, one]
    split <;> omega
  · have above : ¬ (sum + word).toNat < word.toNat := fun below =>
      wrapped (UInt16.lt_iff_toNat_lt.mpr below)
    rw [if_neg wrapped]
    split <;> omega

theorem add_modEq (sum word : UInt16) :
    (add sum word).toNat ≡ sum.toNat + word.toNat [MOD 65535] := by
  rw [add_toNat]
  split
  · exact Nat.ModEq.refl _
  · rename_i carried
    have split : sum.toNat + word.toNat =
        sum.toNat + word.toNat - 65535 + 65535 := by omega
    rw [Nat.ModEq]
    conv_rhs => rw [split]
    exact (Nat.add_mod_right _ _).symm

theorem add_eq_zero_iff (sum word : UInt16) :
    add sum word = 0 ↔ sum = 0 ∧ word = 0 := by
  rw [← UInt16.toNat_inj, ← UInt16.toNat_inj, ← UInt16.toNat_inj, add_toNat]
  have sumBound := sum.toNat_lt
  have wordBound := word.toNat_lt
  simp only [UInt16.toNat_zero]
  split <;> omega

/-! ### Sums of words -/

def sum (initial : UInt16) (words : List UInt16) : UInt16 :=
  words.foldl add initial

/-- The plain sum of the words, to be read modulo 65535. -/
def total (words : List UInt16) : Nat :=
  (words.map UInt16.toNat).sum

@[simp] theorem total_nil : total [] = 0 :=
  rfl

@[simp] theorem total_cons (word : UInt16) (rest : List UInt16) :
    total (word :: rest) = word.toNat + total rest :=
  rfl

theorem total_append (first second : List UInt16) :
    total (first ++ second) = total first + total second := by
  unfold total
  rw [List.map_append, List.sum_append]

@[simp] theorem sum_nil (initial : UInt16) : sum initial [] = initial :=
  rfl

@[simp] theorem sum_cons (initial word : UInt16) (rest : List UInt16) :
    sum initial (word :: rest) = sum (add initial word) rest :=
  rfl

theorem sum_append (initial : UInt16) (first second : List UInt16) :
    sum initial (first ++ second) = sum (sum initial first) second :=
  List.foldl_append

theorem sum_modEq (initial : UInt16) (words : List UInt16) :
    (sum initial words).toNat ≡ initial.toNat + total words [MOD 65535] := by
  induction words generalizing initial with
  | nil => exact Nat.ModEq.refl _
  | cons word rest ih =>
      have step : (add initial word).toNat + total rest ≡
          initial.toNat + word.toNat + total rest [MOD 65535] :=
        (add_modEq initial word).add_right _
      have regroup : initial.toNat + total (word :: rest) =
          initial.toNat + word.toNat + total rest := by
        simp [total, Nat.add_assoc]
      rw [sum_cons, regroup]
      exact (ih (add initial word)).trans step

theorem sum_eq_zero_iff (initial : UInt16) (words : List UInt16) :
    sum initial words = 0 ↔ initial = 0 ∧ ∀ word ∈ words, word = 0 := by
  induction words generalizing initial with
  | nil => simp
  | cons word rest ih =>
      rw [sum_cons, ih, add_eq_zero_iff, List.forall_mem_cons, and_assoc]

/-- A sum that is a multiple of 65535 is 0xFFFF as soon as it is not zero. -/
theorem eq_allOnes_of_modEq_zero {word : UInt16} (nonzero : word ≠ 0)
    (multiple : word.toNat ≡ 0 [MOD 65535]) : word = 0xFFFF := by
  have bound := word.toNat_lt
  have positive : word.toNat ≠ 0 := fun zero =>
    nonzero (UInt16.toNat_inj.mp zero)
  have divides : 65535 ∣ word.toNat := (Nat.modEq_zero_iff_dvd).mp multiple
  apply UInt16.toNat_inj.mp
  change word.toNat = 65535
  omega

/-- A word is known from its residue and from whether it is zero. -/
theorem eq_of_modEq {left right : UInt16} (zero : left = 0 ↔ right = 0)
    (same : left.toNat ≡ right.toNat [MOD 65535]) : left = right := by
  have leftBound := left.toNat_lt
  have rightBound := right.toNat_lt
  rw [← UInt16.toNat_inj, ← UInt16.toNat_inj, UInt16.toNat_zero] at zero
  rw [Nat.ModEq] at same
  apply UInt16.toNat_inj.mp
  omega

/-- A sum of words that are not all zero is 0xFFFF exactly if they add up to a multiple
of 65535. -/
theorem sum_eq_allOnes_iff {initial : UInt16} {words : List UInt16}
    (nonzero : sum initial words ≠ 0) :
    sum initial words = 0xFFFF ↔ 65535 ∣ initial.toNat + total words := by
  rw [← Nat.modEq_zero_iff_dvd]
  constructor
  · intro allOnes
    have residue := sum_modEq initial words
    rw [allOnes] at residue
    exact residue.symm.trans (by decide)
  · intro multiple
    exact eq_allOnes_of_modEq_zero nonzero ((sum_modEq initial words).trans multiple)

theorem complement_toNat (word : UInt16) : (~~~word).toNat = 65535 - word.toNat := by
  rw [UInt16.toNat_not]
  rfl

/-- The checksum rule: the complement of the sum, put in place of a zero word,
brings the sum to 0xFFFF. -/
theorem sum_complement (initial : UInt16) (before after : List UInt16) :
    sum initial
      (before ++ ~~~(sum initial (before ++ 0 :: after)) :: after) = 0xFFFF := by
  have bound := (sum initial (before ++ 0 :: after)).toNat_lt
  apply eq_allOnes_of_modEq_zero
  · intro zero
    obtain ⟨initialZero, allZero⟩ := (sum_eq_zero_iff _ _).mp zero
    have complementZero : ~~~(sum initial (before ++ 0 :: after)) = 0 :=
      allZero _ (by simp)
    have sumZero : sum initial (before ++ 0 :: after) = 0 := by
      apply (sum_eq_zero_iff _ _).mpr
      refine ⟨initialZero, fun word member => ?_⟩
      rcases List.mem_append.mp member with inBefore | inRest
      · exact allZero word (List.mem_append_left _ inBefore)
      · rcases List.mem_cons.mp inRest with rfl | inAfter
        · rfl
        · exact allZero word
            (List.mem_append_right _ (List.mem_cons_of_mem _ inAfter))
    rw [sumZero] at complementZero
    exact absurd complementZero (by decide)
  · have withField := sum_modEq initial
      (before ++ ~~~(sum initial (before ++ 0 :: after)) :: after)
    have without := sum_modEq initial (before ++ 0 :: after)
    generalize sum initial (before ++ 0 :: after) = original at *
    have totalField : initial.toNat + total (before ++ ~~~original :: after) =
        initial.toNat + total (before ++ 0 :: after) + (65535 - original.toNat) := by
      simp only [total, List.map_append, List.map_cons, List.sum_append,
        List.sum_cons, complement_toNat, UInt16.toNat_zero]
      omega
    rw [totalField] at withField
    have shifted := withField.trans
      (without.symm.add_right (65535 - original.toNat))
    rw [Nat.add_sub_cancel' (by omega)] at shifted
    exact shifted.trans (by decide)

/-! ### Words of a byte string -/

/-- The big-endian words of a byte string, the last byte padded with zero. -/
def words : List UInt8 → List UInt16
  | [] => []
  | [last] => [be16 last 0]
  | high :: low :: rest => be16 high low :: words rest

theorem words_append {first : List UInt8} (even : first.length % 2 = 0)
    (second : List UInt8) : words (first ++ second) = words first ++ words second := by
  induction first using words.induct with
  | case1 => rfl
  | case2 last => simp at even
  | case3 high low rest ih =>
      simp only [List.length_cons] at even
      simp only [List.cons_append, words]
      rw [ih (by omega)]

/-- Behind an odd number of bytes the words go on as behind a padding byte. -/
theorem words_append_odd {first : List UInt8} (odd : first.length % 2 = 1)
    (second : List UInt8) :
    words (first ++ [0] ++ second) = words first ++ words second := by
  induction first using words.induct with
  | case1 => cases odd
  | case2 last => rfl
  | case3 high low rest ih =>
      rw [List.length_cons, List.length_cons] at odd
      simp only [List.cons_append, words] at ih ⊢
      rw [ih (by omega)]

theorem be16_eq_zero_iff {high low : UInt8} : be16 high low = 0 ↔ high = 0 ∧ low = 0 := by
  rw [← UInt16.toNat_inj, ← UInt8.toNat_inj, ← UInt8.toNat_inj, be16_toNat,
    UInt16.toNat_zero, UInt8.toNat_zero]
  omega

theorem words_eq_zero_iff (bytes : List UInt8) :
    (∀ word ∈ words bytes, word = 0) ↔ ∀ byte ∈ bytes, byte = 0 := by
  induction bytes using words.induct with
  | case1 => exact iff_of_true (fun _ member => nomatch member) fun _ member => nomatch member
  | case2 last =>
      rw [words, List.forall_mem_singleton, List.forall_mem_singleton, be16_eq_zero_iff]
      exact and_iff_left rfl
  | case3 high low rest ih =>
      rw [words, List.forall_mem_cons, List.forall_mem_cons, List.forall_mem_cons, ih,
        be16_eq_zero_iff, and_assoc]

/-! ### One byte of a byte string -/

/-- What a byte contributes to the sum of the words, by the number of bytes before it. -/
def byteValue (offset : Nat) (byte : UInt8) : Nat :=
  if offset % 2 = 0 then byte.toNat * 256 else byte.toNat

theorem total_words_cons (first : UInt8) (rest : List UInt8) :
    total (words (first :: rest)) = first.toNat * 256 + total (words (0 :: rest)) := by
  cases rest with
  | nil => simp [words, be16_toNat]
  | cons second rest =>
      simp only [words, total_cons, be16_toNat, UInt8.toNat_zero]
      omega

theorem total_words_split (before : List UInt8) (byte : UInt8) (after : List UInt8) :
    total (words (before ++ byte :: after)) =
      byteValue before.length byte + total (words (before ++ 0 :: after)) := by
  induction before using words.induct with
  | case1 => exact total_words_cons byte after
  | case2 first =>
      have odd : byteValue [first].length byte = byte.toNat := rfl
      rw [odd]
      simp only [List.cons_append, List.nil_append, words, total_cons, be16_toNat,
        UInt8.toNat_zero]
      omega
  | case3 high low rest ih =>
      have parity : byteValue (high :: low :: rest).length byte =
          byteValue rest.length byte := by
        unfold byteValue
        rw [List.length_cons, List.length_cons, Nat.add_assoc, Nat.add_mod_right]
      simp only [List.cons_append, words, total_cons]
      rw [ih, parity]
      omega

/-- Two values of one byte are never congruent, so the sum tells them apart. -/
theorem byteValue_inj {offset : Nat} {left right : UInt8}
    (same : byteValue offset left ≡ byteValue offset right [MOD 65535]) : left = right := by
  have leftBound := left.toNat_lt
  have rightBound := right.toNat_lt
  unfold byteValue at same
  rw [Nat.ModEq] at same
  apply UInt8.toNat_inj.mp
  split at same <;> omega

/-- The checksum rule on bytes: the field is a zero word at an even offset. -/
theorem sum_words_complement (initial : UInt16) {before : List UInt8}
    (even : before.length % 2 = 0) (after : List UInt8) :
    sum initial (words (before ++
      bytes16 (~~~(sum initial (words (before ++ bytes16 0 ++ after)))) ++
        after)) = 0xFFFF := by
  have split (field : UInt16) : words (before ++ bytes16 field ++ after) =
      words before ++ field :: words after := by
    rw [List.append_assoc, words_append even]
    simp [bytes16, words]
  rw [split, split]
  exact sum_complement initial (words before) (words after)

end OnesComplement
