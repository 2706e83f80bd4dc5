/-
Which strings `fromString` refuses.

The only way to fail is a character that is neither a colon nor a digit, and only if
it is reached: the second pass stops behind the eighth group and behind the fortieth
character.  The group a character belongs to is counted here from the text alone.
-/

import EtherSiaStack.AddressForms

namespace EtherSiaStack

open ByteMemory Inspector

namespace IPv6Address

/-! ### Reads -/

theorem countColons_within {addrstr : Memory} {rest : List UInt8} {bound : Nat}
    (remaining i : Nat) (colon_count : UInt8) (noNul : ∀ c ∈ rest, c ≠ 0)
    (spelled : Spells addrstr i (rest ++ [0])) (room : i + rest.length < bound) :
    Within bound (countColons remaining i colon_count) addrstr := by
  induction remaining generalizing i colon_count rest with
  | zero => exact within_pure _ _ _
  | succ remaining ih =>
      rw [countColons, within_bind_of_some (read_value i addrstr), within_read]
      refine ⟨by omega, ?_⟩
      cases rest with
      | nil =>
          have ended : addrstr i = 0 := spells_singleton.mp spelled
          rw [ended]
          exact within_pure _ _ _
      | cons c rest =>
          obtain ⟨here, following⟩ := NullTerminated.tail spelled
          rw [List.length_cons] at room
          have next (colon_count : UInt8) :
              Within bound (countColons remaining (i + 1) colon_count) addrstr :=
            ih (i + 1) colon_count
              (fun later member => noNul later (List.mem_cons_of_mem _ member)) following
              (by omega)
          rw [here]
          by_cases isColon : c = colon
          · rw [if_pos isColon, within_bind_of_some (read_value (i - 1) addrstr), within_read]
            exact ⟨by omega, next _⟩
          · rw [if_neg isColon, if_neg (noNul c List.mem_cons_self)]
            exact next _

theorem endsDoubleColon_within {addrstr : Memory} {bound : Nat} (colon_count : UInt8)
    (i : Nat) (inside : i < bound) :
    Within bound (endsDoubleColon colon_count i) addrstr := by
  unfold endsDoubleColon
  by_cases behind : colon_count ≠ 0 ∧ i ≠ 0
  · rw [if_pos behind, within_bind_of_some (read_value (i - 1) addrstr), within_read]
    exact ⟨by omega, within_pure _ _ _⟩
  · rw [if_neg behind]
    exact within_pure _ _ _

theorem convert_within {addrstr : Memory} {rest : List UInt8} {bound : Nat}
    (colon_count : UInt8) (remaining i pos : Nat) (accumulator : UInt16)
    (address : IPv6Address) (noNul : ∀ c ∈ rest, c ≠ 0)
    (spelled : Spells addrstr i (rest ++ [0])) (room : i + rest.length < bound) :
    Within bound (convert colon_count remaining i pos accumulator address) addrstr := by
  induction remaining generalizing i pos accumulator address rest with
  | zero => exact within_pure _ _ _
  | succ remaining ih =>
      rw [convert]
      by_cases unfilled : pos < 16
      · rw [if_pos unfilled, within_bind_of_some (read_value i addrstr), within_read]
        refine ⟨by omega, ?_⟩
        cases rest with
        | nil =>
            have ended : addrstr i = 0 := spells_singleton.mp spelled
            rw [ended, if_pos (Or.inr rfl), within_bind]
            refine ⟨endsDoubleColon_within colon_count i (by omega), fun resumes _ => ?_⟩
            exact within_pure _ _ _
        | cons c rest =>
            obtain ⟨here, following⟩ := NullTerminated.tail spelled
            have notNul : c ≠ 0 := noNul c List.mem_cons_self
            rw [List.length_cons] at room
            have next (pos : Nat) (accumulator : UInt16) (address : IPv6Address) :
                Within bound (convert colon_count remaining (i + 1) pos accumulator address)
                  addrstr :=
              ih (i + 1) pos accumulator address
                (fun later member => noNul later (List.mem_cons_of_mem _ member)) following
                (by omega)
            rw [here]
            by_cases isColon : c = colon
            · rw [if_pos (Or.inl isColon), within_bind]
              refine ⟨endsDoubleColon_within colon_count i (by omega), fun resumes _ => ?_⟩
              rw [if_neg notNul]
              exact next _ _ _
            · rw [if_neg fun either => either.elim isColon notNul]
              cases asciiToHex c with
              | none => exact within_pure _ _ _
              | some val => exact next _ _ _
      · rw [if_neg unfilled]
        exact within_pure _ _ _

/-- Step 1 starts behind the first character, whether or not the string goes on. -/
theorem fromString_within_iff {addrstr : Memory} {text : List UInt8}
    (string : NullTerminated addrstr text) :
    Within (text.length + 1) fromString addrstr ↔ text ≠ [] := by
  constructor
  · rintro within rfl
    have second := (within_bind.mp (within_bind.mp within).1).1
    exact absurd (within_read.mp second) (lt_irrefl 1)
  · intro nonempty
    obtain ⟨c, rest, rfl⟩ := List.exists_cons_of_ne_nil nonempty
    obtain ⟨-, following⟩ := NullTerminated.tail string.spelled
    rw [fromString, within_bind]
    refine ⟨?_, fun colon_count _ => ?_⟩
    · exact countColons_within _ 1 0
        (fun later member => string.noNul later (List.mem_cons_of_mem _ member)) following
        (by rw [List.length_cons]; omega)
    · exact convert_within _ _ 0 0 0 zero string.noNul string.spelled (by omega)

end IPv6Address

/-! ### The group a character belongs to -/

/-- What follows the last double colon. -/
def behindDoubleColon : List UInt8 → Option (List UInt8)
  | [] => none
  | c :: rest =>
      (behindDoubleColon rest).or
        (if c = colon ∧ rest.head? = some colon then some rest.tail else none)

/-- The group with which the digits behind a double colon go on; 0 also stands for
no double colon. -/
def resumeGroup (text : List UInt8) : Nat :=
  ((behindDoubleColon text).map fun rest => 7 - rest.count colon).getD 0

/-- The groups passed before the end of `front`. -/
def groupsPassed (resume : Nat) (front : List UInt8) : Nat :=
  match behindDoubleColon front with
  | some rest => if resume = 0 then front.count colon else resume + rest.count colon
  | none => front.count colon

/-- A character stops the conversion: it is none that can stand in an address, and
neither the room for groups nor that for characters is used up before it. -/
def Refused (text : List UInt8) : Prop :=
  ∃ k c, k ≤ MAX_IPV6_ADDRESS_STR_LEN ∧ text[k]? = some c ∧ c ≠ colon ∧
    asciiToHex c = none ∧
    ∀ j ≤ k,
      groupsPassed (resumeGroup (text.take (MAX_IPV6_ADDRESS_STR_LEN + 1)))
        (text.take j) < 8

theorem behindDoubleColon_append (front : List UInt8) (c : UInt8) :
    behindDoubleColon (front ++ [c]) =
      if c = colon ∧ front.getLast? = some colon then some []
      else (behindDoubleColon front).map (· ++ [c]) := by
  induction front with
  | nil =>
      rw [if_neg fun both => by cases both.2]
      exact if_neg fun both => by cases both.2
  | cons first rest ih =>
      rw [List.cons_append, behindDoubleColon, ih, behindDoubleColon]
      cases rest with
      | nil =>
          rw [List.getLast?_nil, if_neg fun both => by cases both.2]
          by_cases double : c = colon ∧ first = colon
          · rw [if_pos (show c = colon ∧ [first].getLast? = some colon from
              ⟨double.1, congrArg some double.2⟩)]
            exact if_pos ⟨double.2, congrArg some double.1⟩
          · rw [if_neg (show ¬(c = colon ∧ [first].getLast? = some colon) from
              fun both => double ⟨both.1, Option.some.inj both.2⟩)]
            have notHere : ¬(first = colon ∧ ([] : List UInt8).head? = some colon) :=
              fun both => by cases both.2
            rw [if_neg notHere]
            exact if_neg fun both => double ⟨Option.some.inj both.2, both.1⟩
      | cons second rest =>
          rw [List.getLast?_cons_cons]
          by_cases double : c = colon ∧ (second :: rest).getLast? = some colon
          · rw [if_pos double, if_pos double]
            rfl
          · rw [if_neg double, if_neg double]
            cases behindDoubleColon (second :: rest) with
            | some found => rfl
            | none =>
                by_cases here : first = colon ∧ (second :: rest).head? = some colon
                · rw [if_pos here]
                  exact if_pos here
                · rw [if_neg here]
                  exact if_neg here

theorem count_colon_append (front : List UInt8) (c : UInt8) :
    (front ++ [c]).count colon = front.count colon + if c = colon then 1 else 0 := by
  rw [List.count_append, List.count_singleton]
  simp only [beq_iff_eq]

theorem resumeGroup_le (text : List UInt8) : resumeGroup text ≤ 7 := by
  unfold resumeGroup
  cases behindDoubleColon text with
  | none => exact Nat.zero_le 7
  | some rest => exact Nat.sub_le 7 _

/-- What a further character does to the group a double colon resumes with. -/
theorem resumeGroup_append (front : List UInt8) (c : UInt8) :
    resumeGroup (front ++ [c]) =
      if c = colon then
        if front.getLast? = some colon then 7 else resumeGroup front - 1
      else resumeGroup front := by
  unfold resumeGroup
  rw [behindDoubleColon_append]
  by_cases isColon : c = colon
  · rw [if_pos isColon]
    by_cases double : front.getLast? = some colon
    · rw [if_pos ⟨isColon, double⟩, if_pos double]
      rfl
    · rw [if_neg fun both => double both.2, if_neg double]
      cases behindDoubleColon front with
      | none => rfl
      | some rest =>
          simp only [Option.map_some, Option.getD_some, count_colon_append]
          rw [if_pos isColon]
          exact Nat.sub_add_eq 7 _ 1
  · rw [if_neg fun both => isColon both.1, if_neg isColon]
    cases behindDoubleColon front with
    | none => rfl
    | some rest =>
        simp only [Option.map_some, Option.getD_some, count_colon_append]
        rw [if_neg isColon, Nat.add_zero]

theorem groupsPassed_append (resume : Nat) (front : List UInt8) (c : UInt8) :
    groupsPassed resume (front ++ [c]) =
      if c = colon then
        if resume ≠ 0 ∧ front.getLast? = some colon then resume
        else groupsPassed resume front + 1
      else groupsPassed resume front := by
  unfold groupsPassed
  rw [behindDoubleColon_append]
  by_cases isColon : c = colon
  · rw [if_pos isColon]
    by_cases double : front.getLast? = some colon
    · rw [if_pos ⟨isColon, double⟩]
      by_cases none : resume = 0
      · rw [if_neg fun both => both.1 none]
        cases behindDoubleColon front with
        | none => simp only [if_pos none, count_colon_append, if_pos isColon]
        | some rest => simp only [if_pos none, count_colon_append, if_pos isColon]
      · rw [if_pos ⟨none, double⟩]
        simp only [if_neg none]
        exact Nat.add_zero resume
    · rw [if_neg fun both => double both.2, if_neg fun both => double both.2]
      cases behindDoubleColon front with
      | none => simp only [Option.map_none, count_colon_append, if_pos isColon]
      | some rest =>
          simp only [Option.map_some, count_colon_append, if_pos isColon]
          split <;> rfl
  · rw [if_neg fun both => isColon both.1, if_neg isColon]
    cases behindDoubleColon front with
    | none => simp only [Option.map_none, count_colon_append, if_neg isColon, Nat.add_zero]
    | some rest =>
        simp only [Option.map_some, count_colon_append, if_neg isColon, Nat.add_zero]

namespace IPv6Address

theorem countedColons_append (before colon_count : UInt8) (front : List UInt8)
    (c : UInt8) :
    countedColons before colon_count (front ++ [c]) =
      if c = colon then
        countColon (front.getLastD before) (countedColons before colon_count front)
      else countedColons before colon_count front := by
  induction front generalizing before colon_count with
  | nil => rfl
  | cons first rest ih =>
      rw [List.cons_append, countedColons, ih, List.getLastD_cons]
      rfl

theorem getLastD_eq_colon_iff (front : List UInt8) :
    front.getLastD 0 = colon ↔ front.getLast? = some colon := by
  rw [List.getLastD_eq_getLast?]
  cases front.getLast? with
  | none => simp [colon]
  | some last => exact ⟨congrArg some, Option.some.inj⟩

/-- Step 1 computes the group to resume with, times two. -/
theorem countedColons_eq (text : List UInt8) :
    countedColons 0 0 text = UInt8.ofNat (2 * resumeGroup text) := by
  induction text using List.reverseRecOn with
  | nil => rfl
  | append_singleton front c ih =>
      rw [countedColons_append, resumeGroup_append, ih]
      by_cases isColon : c = colon
      · rw [if_pos isColon, if_pos isColon]
        by_cases double : front.getLast? = some colon
        · rw [if_pos double, countColon, if_pos ((getLastD_eq_colon_iff front).mpr double)]
          rfl
        · rw [if_neg double]
          exact countColon_single (fun same => double ((getLastD_eq_colon_iff front).mp same))
            (resumeGroup_le front)
      · rw [if_neg isColon, if_neg isColon]

theorem nextPos_eq {resume : Nat} (few : resume ≤ 7) (front : List UInt8) :
    nextPos (UInt8.ofNat (2 * resume)) (front.getLastD 0) (2 * groupsPassed resume front) =
      2 * groupsPassed resume (front ++ [colon]) := by
  rw [groupsPassed_append, if_pos rfl, nextPos]
  simp only [getLastD_eq_colon_iff, Ne, ofNat_pairs_eq_zero few, ofNat_pairs_toNat few]
  split
  · rfl
  · exact (Nat.mul_add_one 2 _).symm

/-- The same as `Refused`, from the middle of a text on. -/
def RefusedBehind (resume : Nat) (front rest : List UInt8) (remaining : Nat) : Prop :=
  ∃ k c, k < remaining ∧ rest[k]? = some c ∧ c ≠ colon ∧ asciiToHex c = none ∧
    ∀ j ≤ k, groupsPassed resume (front ++ rest.take j) < 8

theorem refusedBehind_nil (resume : Nat) (front : List UInt8) (remaining : Nat) :
    ¬RefusedBehind resume front [] remaining := by
  rintro ⟨k, c, -, here, -⟩
  cases here

theorem refusedBehind_cons_iff {resume remaining : Nat} {front rest : List UInt8}
    {c : UInt8} :
    RefusedBehind resume front (c :: rest) (remaining + 1) ↔
      groupsPassed resume front < 8 ∧
        ((c ≠ colon ∧ asciiToHex c = none) ∨
          RefusedBehind resume (front ++ [c]) rest remaining) := by
  constructor
  · rintro ⟨k, bad, inside, here, notColon, notHex, room⟩
    have now := room 0 (Nat.zero_le k)
    rw [List.take_zero, List.append_nil] at now
    refine ⟨now, ?_⟩
    cases k with
    | zero =>
        cases here
        exact Or.inl ⟨notColon, notHex⟩
    | succ k =>
        refine Or.inr ⟨k, bad, Nat.lt_of_succ_lt_succ inside, here, notColon, notHex, ?_⟩
        intro j before
        rw [List.append_assoc]
        exact room (j + 1) (Nat.succ_le_succ before)
  · rintro ⟨now, ⟨notColon, notHex⟩ | ⟨k, bad, inside, here, notColon, notHex, room⟩⟩
    · refine ⟨0, c, Nat.zero_lt_succ _, rfl, notColon, notHex, ?_⟩
      intro j atStart
      rw [Nat.le_zero.mp atStart, List.take_zero, List.append_nil]
      exact now
    · refine ⟨k + 1, bad, Nat.succ_lt_succ inside, here, notColon, notHex, ?_⟩
      intro j before
      cases j with
      | zero =>
          rw [List.take_zero, List.append_nil]
          exact now
      | succ j =>
          have later := room j (Nat.le_of_succ_le_succ before)
          rw [List.append_assoc] at later
          exact later

theorem converted_refuses_iff {resume : Nat} (few : resume ≤ 7) (rest front : List UInt8)
    (remaining : Nat) (accumulator : UInt16) (address : IPv6Address)
    (noNul : ∀ c ∈ rest, c ≠ 0) :
    (converted (UInt8.ofNat (2 * resume)) (front.getLastD 0)
        (2 * groupsPassed resume front) accumulator address
        ((rest ++ [0]).take remaining)).1 = false ↔
      RefusedBehind resume front rest remaining := by
  induction rest generalizing front remaining accumulator address with
  | nil =>
      refine iff_of_false ?_ (refusedBehind_nil resume front remaining)
      cases remaining with
      | zero => exact Bool.noConfusion
      | succ remaining =>
          rw [List.nil_append, List.take_succ_cons, converted]
          split <;> exact Bool.noConfusion
  | cons c rest ih =>
      cases remaining with
      | zero =>
          refine iff_of_false Bool.noConfusion ?_
          rintro ⟨k, -, inside, -⟩
          exact Nat.not_lt_zero k inside
      | succ remaining =>
          have next (accumulator : UInt16) (address : IPv6Address) :=
            ih (front ++ [c]) remaining accumulator address
              fun later member => noNul later (List.mem_cons_of_mem _ member)
          rw [List.getLastD_concat] at next
          rw [refusedBehind_cons_iff, List.cons_append, List.take_succ_cons, converted]
          by_cases room : groupsPassed resume front < 8
          · rw [if_pos (by omega), if_neg (noNul c List.mem_cons_self), and_iff_right room]
            by_cases isColon : c = colon
            · subst isColon
              rw [if_pos rfl, nextPos_eq few, next, or_iff_right fun bad => bad.1 rfl]
            · have unmoved := groupsPassed_append resume front c
              rw [if_neg isColon] at unmoved
              rw [unmoved] at next
              rw [if_neg isColon]
              cases parsed : asciiToHex c with
              | none => exact iff_of_true rfl (Or.inl ⟨isColon, rfl⟩)
              | some val =>
                  rw [or_iff_right fun bad => by cases bad.2]
                  exact next _ _
          · rw [if_neg (by omega)]
            exact iff_of_false Bool.noConfusion fun both => room both.1

end IPv6Address

open IPv6Address in
theorem fromString_refuses_iff {addrstr : Memory} {text : List UInt8}
    (string : NullTerminated addrstr text) (nonempty : text ≠ []) :
    (∃ address, (fromString addrstr).value = some (false, address)) ↔ Refused text := by
  rw [fromString_value string nonempty, countedColons_eq]
  have few := resumeGroup_le (text.take (MAX_IPV6_ADDRESS_STR_LEN + 1))
  have refuses := converted_refuses_iff few text [] (MAX_IPV6_ADDRESS_STR_LEN + 1) 0 zero
    string.noNul
  constructor
  · rintro ⟨address, value⟩
    have failed := refuses.mp (congrArg Prod.fst (Option.some.inj value))
    obtain ⟨k, c, inside, rest⟩ := failed
    exact ⟨k, c, Nat.le_of_lt_succ inside, rest⟩
  · rintro ⟨k, c, inside, rest⟩
    have failed := refuses.mpr ⟨k, c, Nat.lt_succ_of_le inside, rest⟩
    exact ⟨_, congrArg some (Prod.ext failed rfl)⟩

/-- What is not a standard text form is refused, and nothing behind the NUL is read,
exactly of a string that has characters and is either a standard form or stopped at
one that can not stand in an address. -/
theorem fromString_rejects_iff {addrstr : Memory} {text : List UInt8}
    (string : NullTerminated addrstr text) :
    (((¬∃ address, StandardText address text) →
          ∃ address, (IPv6Address.fromString addrstr).value = some (false, address)) ∧
        Within (text.length + 1) IPv6Address.fromString addrstr) ↔
      text ≠ [] ∧ ((∃ address, StandardText address text) ∨ Refused text) := by
  rw [IPv6Address.fromString_within_iff string, and_comm]
  apply and_congr_right
  intro nonempty
  rw [fromString_refuses_iff string nonempty]
  exact Classical.or_iff_not_imp_left.symm

/-- `"g"`. -/
theorem fromString_rejects_letter :
    ((¬∃ address, StandardText address [0x67]) →
        ∃ address, (IPv6Address.fromString (store (fun _ => 0) 0 [0x67])).value =
          some (false, address)) ∧
      Within 2 IPv6Address.fromString (store (fun _ => 0) 0 [0x67]) := by
  have refused : Refused [0x67] :=
    ⟨0, 0x67, by decide, rfl, by decide, by decide, by decide⟩
  exact (fromString_rejects_iff (nullTerminated_store [0x67] (by simp))).mpr
    ⟨List.cons_ne_nil _ _, Or.inr refused⟩

theorem StandardText.two_le_length {address : IPv6Address} {text : List UInt8}
    (standard : StandardText address text) : 2 ≤ text.length := by
  cases standard with
  | full groups same =>
      have eight := congrArg List.length same
      rw [List.length_map, List.length_map, IPv6Address.groups_length] at eight
      match groups, eight with
      | first :: second :: rest, _ =>
          rw [Group.joined_cons_cons, List.length_append, List.length_cons]
          have nonempty := first.nonempty
          omega
  | compressed before after short same =>
      simp only [List.length_append, List.length_cons, List.length_nil]
      omega

/-- A single group `"1"` is taken for an address. -/
theorem single_group_accepted :
    ¬∀ (addrstr : Memory) (text : List UInt8), NullTerminated addrstr text →
      ((¬∃ address, StandardText address text) →
          ∃ address, (IPv6Address.fromString addrstr).value = some (false, address)) ∧
        Within (text.length + 1) IPv6Address.fromString addrstr := by
  intro rejects
  obtain ⟨refuses, -⟩ := rejects (store (fun _ => 0) 0 [0x31]) [0x31]
    (nullTerminated_store [0x31] (by simp))
  have notStandard : ¬∃ address, StandardText address [0x31] := by
    rintro ⟨address, standard⟩
    exact absurd standard.two_le_length (by decide)
  obtain ⟨address, value⟩ := refuses notStandard
  have accepted : ((IPv6Address.fromString (store (fun _ => 0) 0 [0x31])).value.map
      Prod.fst) = some true := by
    decide +kernel
  rw [value] at accepted
  cases accepted

end EtherSiaStack
