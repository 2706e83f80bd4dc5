/-
Where `dnsProcessReply` stays inside the datagram.

The parser compares its pointer with the end of the payload only behind a question
and behind a record that it skips.  The names, the record headers and the address
it returns are used before any comparison.  The conditions below say of the message
alone that each of these parts lies inside; they follow the message, one name,
question or record at a time.
-/

import EtherSiaStack.DnsReply

namespace EtherSiaStack

open ByteMemory Inspector

/-- Nothing at or beyond the bound is read, and an address returned is a good one. -/
def Keeps (bound : Nat) (good : Nat → Prop) (inspector : Inspector (Option Nat))
    (memory : Memory) : Prop :=
  Within bound inspector memory ∧
    ∀ address, (inspector memory).value = some (some address) → good address

/-- The 16 bytes at the address returned lie below the bound too. -/
def StaysInside (bound : Nat) : Inspector (Option Nat) → Memory → Prop :=
  Keeps bound fun address => address + 16 ≤ bound

/-! ### The parts of a message -/

/-- The length bytes and the ending of the name at an address lie below the bound,
and the parser goes on at the second address.  It does not skip an empty name. -/
inductive NameInside (memory : Memory) (bound : Nat) : Nat → Nat → Prop
  | root {start : Nat} (inside : start < bound) (isRoot : memory start = 0) :
      NameInside memory bound start start
  | pointer {start : Nat} (inside : start < bound) (some_ : memory start ≠ 0)
      (isPointer : memory start &&& 0xC0 = 0xC0) :
      NameInside memory bound start (start + 2)
  | last {start : Nat} (some_ : memory start ≠ 0)
      (isLabel : memory start &&& 0xC0 ≠ 0xC0)
      (endInside : start + (memory start).toNat + 1 < bound)
      (ends : memory (start + (memory start).toNat + 1) = 0) :
      NameInside memory bound start (start + (memory start).toNat + 1 + 1)
  | cons {start past : Nat} (some_ : memory start ≠ 0)
      (isLabel : memory start &&& 0xC0 ≠ 0xC0)
      (continues : memory (start + (memory start).toNat + 1) ≠ 0)
      (rest : NameInside memory bound (start + (memory start).toNat + 1) past) :
      NameInside memory bound start past

/-- The names of the questions lie inside, up to the question that does not fit. -/
def QuestionsInside (memory : Memory) (bound : Nat) (answers : Nat → Prop) :
    Nat → Nat → Prop
  | 0, start => answers start
  | count + 1, start =>
      ∃ next, NameInside memory bound start next ∧
        (next + 4 ≤ bound → QuestionsInside memory bound answers count (next + 4))

/-- The names and the headers of the records lie inside, up to the first address, whose
data has to lie inside too, or the record that does not fit. -/
def AnswersInside (memory : Memory) (bound : Nat) : Nat → Nat → Prop
  | 0, _ => True
  | count + 1, start =>
      ∃ next, NameInside memory bound start next ∧ next + 10 ≤ bound ∧
        if AddressRecordAt memory next then next + 26 ≤ bound
        else
          next + (10 + (u16At memory (next + 8)).toNat) ≤ bound →
            AnswersInside memory bound count
              (next + (10 + (u16At memory (next + 8)).toNat))

/-- The counts and the identifier lie inside, and if the response is for the request and
reports no error, so do its flags and what is used of its sections. -/
def MessageInside (memory : Memory) (bound : Nat) (requestId : UInt16) : Prop :=
  8 ≤ bound ∧
    (u16At memory 0 = requestId → memory 3 &&& DNS_RCODE_MASK = 0 →
      QuestionsInside memory bound
        (AnswersInside memory bound (u16At memory 6).toUInt8.toNat)
        (u16At memory 4).toUInt8.toNat 12)

/-! ### Names -/

theorem NameInside.start_lt {memory : Memory} {bound start past : Nat}
    (inside : NameInside memory bound start past) : start < bound := by
  induction inside with
  | root inside => exact inside
  | pointer inside => exact inside
  | last _ _ endInside => omega
  | cons _ _ _ _ ih => omega

theorem within_skipNamePass {memory : Memory} {bound start : Nat} :
    Within bound (skipNamePass start) memory ↔
      start < bound ∧
        (memory start ≠ 0 → memory start &&& 0xC0 ≠ 0xC0 →
          start + (memory start).toNat + 1 < bound) := by
  unfold skipNamePass
  rw [within_bind_of_some (read_value start memory), within_read]
  apply and_congr_right
  intro _
  by_cases isRoot : memory start = 0
  · rw [if_pos isRoot]
    exact iff_of_true (within_pure _ _ _) fun some_ => absurd isRoot some_
  · rw [if_neg isRoot]
    by_cases isPointer : memory start &&& 0xC0 = 0xC0
    · rw [if_pos isPointer]
      exact iff_of_true (within_pure _ _ _) fun _ isLabel => absurd isPointer isLabel
    · rw [if_neg isPointer, within_bind_of_some (read_value _ memory), within_read]
      constructor
      · intro within _ _
        exact within.1
      · intro inside
        refine ⟨inside isRoot isPointer, ?_⟩
        split_ifs <;> exact within_pure _ _ _

/-- The parser reads inside and gets from the first address to the second. -/
structure SkipsTo (memory : Memory) (bound start past : Nat) : Prop where
  within : ∀ fuel, Within bound (skipOverName fuel start) memory
  enough : ∀ fuel, bound ≤ start + fuel →
    (skipOverName fuel start memory).value = some past
  only : ∀ fuel next, (skipOverName fuel start memory).value = some next → next = past

theorem skipsTo_of_result {memory : Memory} {bound start past : Nat}
    (within : Within bound (skipNamePass start) memory)
    (leaves : (skipNamePass start memory).value = some (.inr past)) :
    SkipsTo memory bound start past where
  within := fun fuel => by
    cases fuel with
    | zero => exact within_outOfFuel _ _
    | succ fuel =>
        refine within_loop_succ.mpr ⟨within, fun next continues => ?_⟩
        rw [leaves] at continues
        cases continues
  enough := fun fuel reaches => by
    have startInside := (within_skipNamePass.mp within).1
    obtain ⟨less, rfl⟩ : ∃ less, fuel = less + 1 :=
      Nat.exists_eq_add_one.mpr (by omega)
    exact loop_value_of_result leaves less
  only := fun fuel next yields => by
    cases fuel with
    | zero => cases yields
    | succ fuel =>
        have same := (loop_value_of_result leaves fuel).symm.trans yields
        exact (Option.some.inj same).symm

theorem skipsTo_of_next {memory : Memory} {bound start next past : Nat}
    (within : Within bound (skipNamePass start) memory)
    (continues : (skipNamePass start memory).value = some (.inl next))
    (later : start < next) (rest : SkipsTo memory bound next past) :
    SkipsTo memory bound start past where
  within := fun fuel => by
    cases fuel with
    | zero => exact within_outOfFuel _ _
    | succ fuel =>
        refine within_loop_succ.mpr ⟨within, fun other same => ?_⟩
        rw [continues] at same
        cases same
        exact rest.within fuel
  enough := fun fuel reaches => by
    have startInside := (within_skipNamePass.mp within).1
    obtain ⟨less, rfl⟩ : ∃ less, fuel = less + 1 :=
      Nat.exists_eq_add_one.mpr (by omega)
    exact (loop_value_of_next continues less).trans (rest.enough less (by omega))
  only := fun fuel other yields => by
    cases fuel with
    | zero => cases yields
    | succ fuel =>
        exact rest.only fuel other ((loop_value_of_next continues fuel).symm.trans yields)

theorem NameInside.skipsTo {memory : Memory} {bound start past : Nat}
    (inside : NameInside memory bound start past) : SkipsTo memory bound start past := by
  induction inside with
  | root inside isRoot =>
      apply skipsTo_of_result
      · exact within_skipNamePass.mpr ⟨inside, fun some_ => absurd isRoot some_⟩
      · rw [skipNamePass_value, if_pos isRoot]
  | pointer inside some_ isPointer =>
      apply skipsTo_of_result
      · exact within_skipNamePass.mpr
          ⟨inside, fun _ isLabel => absurd isPointer isLabel⟩
      · rw [skipNamePass_value, if_neg some_, if_pos isPointer]
  | last some_ isLabel endInside ends =>
      apply skipsTo_of_result
      · exact within_skipNamePass.mpr ⟨by omega, fun _ _ => endInside⟩
      · rw [skipNamePass_value, if_neg some_, if_neg isLabel, if_pos ends]
  | cons some_ isLabel continues rest ih =>
      have restInside := rest.start_lt
      refine skipsTo_of_next ?_ ?_ (by omega) ih
      · exact within_skipNamePass.mpr ⟨by omega, fun _ _ => restInside⟩
      · rw [skipNamePass_value, if_neg some_, if_neg isLabel, if_neg continues]

/-- If the parser only reads inside, the name lies inside. -/
theorem nameInside_of_within {memory : Memory} {bound fuel start : Nat}
    (some_ : 0 < fuel) (enough : bound ≤ start + fuel)
    (within : Within bound (skipOverName fuel start) memory) :
    ∃ past, NameInside memory bound start past := by
  induction fuel generalizing start with
  | zero => exact absurd some_ (Nat.lt_irrefl 0)
  | succ fuel ih =>
      obtain ⟨pass, later⟩ := within_loop_succ.mp within
      obtain ⟨startInside, endInside⟩ := within_skipNamePass.mp pass
      by_cases isRoot : memory start = 0
      · exact ⟨start, .root startInside isRoot⟩
      by_cases isPointer : memory start &&& 0xC0 = 0xC0
      · exact ⟨start + 2, .pointer startInside isRoot isPointer⟩
      by_cases ends : memory (start + (memory start).toNat + 1) = 0
      · exact ⟨_, .last isRoot isPointer (endInside isRoot isPointer) ends⟩
      have continues := skipNamePass_value start memory
      rw [if_neg isRoot, if_neg isPointer, if_neg ends] at continues
      have nextInside := endInside isRoot isPointer
      obtain ⟨past, rest⟩ := ih (by omega) (by omega) (later _ continues)
      exact ⟨past, .cons isRoot isPointer ends rest⟩

/-! ### Sections -/

theorem keeps_none (bound : Nat) (good : Nat → Prop) (memory : Memory) :
    Keeps bound good (pure none) memory :=
  ⟨within_pure _ _ _, fun _ absurdity => by cases absurdity⟩

theorem keeps_some {bound address : Nat} {good : Nat → Prop} {memory : Memory} :
    Keeps bound good (pure (some address)) memory ↔ good address := by
  constructor
  · intro keeps
    exact keeps.2 address rfl
  · intro isGood
    refine ⟨within_pure _ _ _, fun other same => ?_⟩
    cases same
    exact isGood

theorem keeps_bind {α : Type} {bound : Nat} {good : Nat → Prop} {first : Inspector α}
    {second : α → Inspector (Option Nat)} {memory : Memory} :
    Keeps bound good (first >>= second) memory ↔
      Within bound first memory ∧
        ∀ value, (first memory).value = some value →
          Keeps bound good (second value) memory := by
  unfold Keeps
  rw [within_bind, bind_value, and_assoc]
  apply and_congr_right
  intro _
  cases (first memory).value with
  | none =>
      refine iff_of_true ⟨fun _ absurdity => ?_, fun _ absurdity => ?_⟩
        fun _ absurdity => ?_
      all_goals cases absurdity
  | some yielded =>
      simp only [Option.some.injEq, forall_eq', Option.bind_some]

theorem keeps_bind_of_some {α : Type} {bound : Nat} {good : Nat → Prop}
    {first : Inspector α} {memory : Memory} {value : α}
    (yields : (first memory).value = some value) (second : α → Inspector (Option Nat)) :
    Keeps bound good (first >>= second) memory ↔
      Within bound first memory ∧ Keeps bound good (second value) memory := by
  rw [keeps_bind, yields]
  simp only [Option.some.injEq, forall_eq']

theorem keeps_skipQuestions_succ {memory : Memory} {bound fuel endPtr count start : Nat}
    {good : Nat → Prop} :
    Keeps bound good (skipQuestions fuel endPtr (count + 1) start) memory ↔
      Within bound (skipOverName fuel start) memory ∧
        ∀ next, (skipOverName fuel start memory).value = some next →
          next + 4 ≤ endPtr →
            Keeps bound good (skipQuestions fuel endPtr count (next + 4)) memory := by
  rw [skipQuestions, keeps_bind]
  apply and_congr_right
  intro _
  apply forall_congr'
  intro next
  apply imp_congr_right
  intro _
  by_cases beyond : next + 4 > endPtr
  · rw [if_pos beyond]
    exact iff_of_true (keeps_none _ _ _) fun fits => absurd fits (by omega)
  · rw [if_neg beyond]
    exact ⟨fun keeps _ => keeps, fun keeps => keeps (by omega)⟩

theorem within_looksLikeAddress {memory : Memory} {bound record : Nat} {rdlength : UInt16}
    (inside : record + 10 ≤ bound) :
    Within bound (looksLikeAddress record rdlength) memory := by
  unfold looksLikeAddress
  rw [within_bind_of_some (readWord_value _ memory), within_readWord]
  refine ⟨by omega, ?_⟩
  split_ifs
  · rw [within_bind_of_some (readWord_value _ memory), within_readWord]
    exact ⟨by omega, within_pure _ _ _⟩
  · exact within_pure _ _ _

/-- One answer: past its name the header is read, and then the record is returned,
refused or skipped. -/
theorem keeps_findAddress_succ {memory : Memory} {bound fuel endPtr count start : Nat}
    {good : Nat → Prop} :
    Keeps bound good (findAddress fuel endPtr (count + 1) start) memory ↔
      Within bound (skipOverName fuel start) memory ∧
        ∀ next, (skipOverName fuel start memory).value = some next →
          next + 10 ≤ bound ∧
            if AddressRecordAt memory next then good (next + 10)
            else
              next + (10 + (u16At memory (next + 8)).toNat) ≤ endPtr →
                Keeps bound good (findAddress fuel endPtr count
                  (next + (10 + (u16At memory (next + 8)).toNat))) memory := by
  rw [findAddress, keeps_bind]
  apply and_congr_right
  intro _
  apply forall_congr'
  intro next
  apply imp_congr_right
  intro _
  rw [keeps_bind_of_some (readWord_value (next + 8) memory), within_readWord]
  have header : next + 8 + 1 < bound ↔ next + 10 ≤ bound := by omega
  rw [header]
  apply and_congr_right
  intro inside
  rw [keeps_bind_of_some (looksLikeAddress_value memory next),
    and_iff_right (within_looksLikeAddress inside)]
  by_cases isAddress : AddressRecordAt memory next
  · rw [decide_eq_true isAddress, if_pos isAddress, if_pos rfl]
    exact keeps_some
  · rw [decide_eq_false isAddress, if_neg isAddress, if_neg Bool.false_ne_true]
    by_cases beyond : next + (10 + (u16At memory (next + 8)).toNat) > endPtr
    · rw [if_pos beyond]
      exact iff_of_true (keeps_none _ _ _) fun fits => absurd fits (by omega)
    · rw [if_neg beyond]
      exact ⟨fun keeps _ => keeps, fun keeps => keeps (by omega)⟩

theorem QuestionsInside.keeps {memory : Memory} {bound count start : Nat}
    {answers : Nat → Prop}
    (inside : QuestionsInside memory bound answers count start) (fuel : Nat) :
    Keeps bound answers (skipQuestions fuel bound count start) memory := by
  induction count generalizing start with
  | zero => exact keeps_some.mpr inside
  | succ count ih =>
      obtain ⟨past, name, rest⟩ := inside
      refine keeps_skipQuestions_succ.mpr ⟨name.skipsTo.within fuel, ?_⟩
      intro next yields fits
      obtain rfl := name.skipsTo.only fuel next yields
      exact ih (rest fits)

theorem AnswersInside.staysInside {memory : Memory} {bound count start : Nat}
    (inside : AnswersInside memory bound count start) (fuel : Nat) :
    StaysInside bound (findAddress fuel bound count start) memory := by
  induction count generalizing start with
  | zero => exact keeps_none _ _ _
  | succ count ih =>
      obtain ⟨past, name, header, rest⟩ := inside
      refine keeps_findAddress_succ.mpr ⟨name.skipsTo.within fuel, ?_⟩
      intro next yields
      obtain rfl := name.skipsTo.only fuel next yields
      refine ⟨header, ?_⟩
      split_ifs at rest ⊢ with isAddress
      · exact rest
      · intro fits
        exact ih (rest fits)

theorem questionsInside_of_keeps {memory : Memory} {bound fuel count start : Nat}
    {answers : Nat → Prop} (enough : bound < fuel)
    (keeps : Keeps bound answers (skipQuestions fuel bound count start) memory) :
    QuestionsInside memory bound answers count start := by
  induction count generalizing start with
  | zero => exact keeps_some.mp keeps
  | succ count ih =>
      obtain ⟨within, rest⟩ := keeps_skipQuestions_succ.mp keeps
      obtain ⟨past, name⟩ := nameInside_of_within (by omega) (by omega) within
      have skipped := name.skipsTo.enough fuel (by omega)
      exact ⟨past, name, fun fits => ih (rest past skipped fits)⟩

theorem answersInside_of_staysInside {memory : Memory} {bound fuel count start : Nat}
    (enough : bound < fuel)
    (stays : StaysInside bound (findAddress fuel bound count start) memory) :
    AnswersInside memory bound count start := by
  induction count generalizing start with
  | zero => exact trivial
  | succ count ih =>
      obtain ⟨within, rest⟩ := keeps_findAddress_succ.mp stays
      obtain ⟨past, name⟩ := nameInside_of_within (by omega) (by omega) within
      obtain ⟨header, after⟩ := rest past (name.skipsTo.enough fuel (by omega))
      refine ⟨past, name, header, ?_⟩
      split_ifs at after ⊢ with isAddress
      · exact after
      · intro fits
        exact ih (after fits)

/-! ### The whole response -/

/-- The reads before the sections, and what is left to the sections. -/
theorem staysInside_dnsProcessReply {memory : Memory} {bound fuel : Nat}
    {length requestId : UInt16} :
    StaysInside bound (dnsProcessReply fuel length requestId) memory ↔
      8 ≤ bound ∧
        (u16At memory 0 = requestId → memory 3 &&& DNS_RCODE_MASK = 0 →
          Keeps bound
            (fun start => StaysInside bound
              (findAddress fuel length.toNat (u16At memory 6).toUInt8.toNat start) memory)
            (skipQuestions fuel length.toNat (u16At memory 4).toUInt8.toNat 12) memory) := by
  unfold StaysInside dnsProcessReply
  rw [keeps_bind_of_some (readWord_value 4 memory),
    keeps_bind_of_some (readWord_value 6 memory),
    keeps_bind_of_some (readWord_value 0 memory)]
  simp only [within_readWord]
  have counts : (∀ rest : Prop, 4 + 1 < bound ∧ 6 + 1 < bound ∧ 0 + 1 < bound ∧ rest ↔
      8 ≤ bound ∧ rest) := by
    intro rest
    constructor
    · intro parts
      exact ⟨by omega, parts.2.2.2⟩
    · intro parts
      exact ⟨by omega, by omega, by omega, parts.2⟩
  rw [counts]
  apply and_congr_right
  intro inside
  by_cases matching : u16At memory 0 = requestId
  · rw [if_neg (not_not.mpr matching), keeps_bind_of_some (read_value 3 memory),
      within_read, and_iff_right (by omega), forall_prop_of_true matching]
    by_cases noError : memory 3 &&& DNS_RCODE_MASK = 0
    · rw [if_neg (not_not.mpr noError), forall_prop_of_true noError, keeps_bind]
      apply and_congr_right
      intro _
      constructor
      · intro keeps start yields
        exact keeps (some start) yields
      · intro keeps answers yields
        cases answers with
        | none => exact keeps_none _ _ _
        | some start => exact keeps start yields
    · rw [if_pos noError]
      exact iff_of_true (keeps_none _ _ _) fun absurdity => absurd absurdity noError
  · rw [if_pos matching]
    exact iff_of_true (keeps_none _ _ _) fun absurdity => absurd absurdity matching

end EtherSiaStack
