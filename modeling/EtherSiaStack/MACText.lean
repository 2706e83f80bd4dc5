/-
MAC addresses as text.

One loop goes over the 17 characters and stores what it reads as it goes: the first digit
of a pair as the upper half of its octet, the second into the lower half.  What is stored
when the loop gets to a position is therefore a function of that position, and the loop
stops at the first character that does not belong there.
-/

import EtherSiaStack.AddressForms

namespace EtherSiaStack

open ByteMemory Inspector

/-- `'-'`. -/
def dash : UInt8 := 0x2D

namespace MACAddress

/-! ### MACAddress.cpp -/

/-- An assignment to `_address[pos]`. -/
def updateOctet (address : MACAddress) (pos : Nat) (change : UInt8 → UInt8) : MACAddress :=
  ⟨fun index => if index.val = pos then change (address.octet index) else address.octet index⟩

/-- The passes of the loop in `fromString` that remain from `strpos` on. -/
def parse : Nat → Nat → Nat → MACAddress → Inspector (Bool × MACAddress)
  | 0, _, _, address => pure (true, address)
  | remaining + 1, strpos, pos, address => do
      let c ← read strpos
      if strpos % 3 = 2 then
        if c = colon ∨ c = dash then parse remaining (strpos + 1) (pos + 1) address
        else pure (false, address)
      else
        match asciiToHex c with
        | none => pure (false, address)
        | some val =>
            if strpos % 3 = 0 then
              parse remaining (strpos + 1) pos (address.updateOctet pos fun _ => val <<< 4)
            else
              parse remaining (strpos + 1) pos (address.updateOctet pos fun octet => octet ||| val)

/-- The value and the address afterwards, of the string at address 0. -/
def fromString (address : MACAddress) : Inspector (Bool × MACAddress) :=
  parse 17 0 0 address

/-- The characters `print` hands to its `Print`. -/
def print (address : MACAddress) : List UInt8 :=
  (List.finRange 6).flatMap fun i =>
    printPaddedHex (address.octet i) ++ if i.val < 5 then [colon] else []

/-! ### Positions -/

/-- The character at this position is one the loop goes on with. -/
def Takes (macstr : Memory) (strpos : Nat) : Prop :=
  if strpos % 3 = 2 then macstr strpos = colon ∨ macstr strpos = dash
  else (asciiToHex (macstr strpos)).isSome

/-- The value of a digit the loop has gone on with. -/
def digit (macstr : Memory) (strpos : Nat) : UInt8 :=
  (asciiToHex (macstr strpos)).getD 0

/-- What the address is when the loop gets to a position: octets whose digits it has read,
the upper half of one, and what was there. -/
def parsed (macstr : Memory) (address : MACAddress) (strpos : Nat) : MACAddress :=
  ⟨fun index =>
    if strpos ≤ 3 * index.val then address.octet index
    else if strpos = 3 * index.val + 1 then digit macstr (3 * index.val) <<< 4
    else digit macstr (3 * index.val) <<< 4 ||| digit macstr (3 * index.val + 1)⟩

section Positions

variable {macstr : Memory} {address : MACAddress}

theorem parsed_zero (macstr : Memory) (address : MACAddress) :
    parsed macstr address 0 = address := by
  refine MACAddress.ext (funext fun index => ?_)
  unfold parsed
  dsimp only
  rw [if_pos (Nat.zero_le _)]

theorem parsed_first {strpos : Nat} (isFirst : strpos % 3 = 0) :
    (parsed macstr address strpos).updateOctet (strpos / 3)
        (fun _ => digit macstr strpos <<< 4) = parsed macstr address (strpos + 1) := by
  refine MACAddress.ext (funext fun index => ?_)
  unfold updateOctet parsed
  dsimp only
  by_cases here : index.val = strpos / 3
  · have place : 3 * index.val = strpos := by omega
    rw [if_pos here, place, if_neg (by omega), if_pos rfl]
  · rw [if_neg here]
    by_cases later : strpos ≤ 3 * index.val
    · rw [if_pos later, if_pos (by omega)]
    · rw [if_neg later, if_neg (by omega), if_neg (by omega), if_neg (by omega)]

theorem parsed_second {strpos : Nat} (isSecond : strpos % 3 = 1) :
    (parsed macstr address strpos).updateOctet (strpos / 3)
        (fun octet => octet ||| digit macstr strpos) = parsed macstr address (strpos + 1) := by
  refine MACAddress.ext (funext fun index => ?_)
  unfold updateOctet parsed
  dsimp only
  by_cases here : index.val = strpos / 3
  · have place : strpos = 3 * index.val + 1 := by omega
    rw [if_pos here, if_neg (by omega), if_pos place, if_neg (by omega), if_neg (by omega),
      ← place]
  · rw [if_neg here]
    by_cases later : strpos ≤ 3 * index.val
    · rw [if_pos later, if_pos (by omega)]
    · rw [if_neg later, if_neg (by omega), if_neg (by omega), if_neg (by omega)]

theorem parsed_separator {strpos : Nat} (isSeparator : strpos % 3 = 2) :
    parsed macstr address (strpos + 1) = parsed macstr address strpos := by
  refine MACAddress.ext (funext fun index => ?_)
  unfold parsed
  dsimp only
  by_cases later : strpos ≤ 3 * index.val
  · rw [if_pos later, if_pos (by omega)]
  · rw [if_neg later, if_neg (by omega), if_neg (by omega), if_neg (by omega)]

theorem parse_takes {remaining strpos : Nat} (takes : Takes macstr strpos) :
    parse (remaining + 1) strpos (strpos / 3) (parsed macstr address strpos) macstr =
      (read strpos >>= fun _ => parse remaining (strpos + 1) ((strpos + 1) / 3)
        (parsed macstr address (strpos + 1))) macstr := by
  have yields : (read strpos macstr).value = some (macstr strpos) := rfl
  rw [parse]
  refine bind_congr_of_some yields ?_
  unfold Takes at takes
  by_cases isSeparator : strpos % 3 = 2
  · rw [if_pos isSeparator] at takes ⊢
    have next : strpos / 3 + 1 = (strpos + 1) / 3 := by omega
    rw [if_pos takes, next, parsed_separator isSeparator]
  · rw [if_neg isSeparator] at takes ⊢
    have samePos : (strpos + 1) / 3 = strpos / 3 := by omega
    obtain ⟨val, isDigit⟩ := Option.isSome_iff_exists.mp takes
    have value : digit macstr strpos = val := by
      rw [digit, isDigit, Option.getD_some]
    rw [isDigit, samePos]
    by_cases isFirst : strpos % 3 = 0
    · rw [← parsed_first isFirst, value]
      simp only [if_pos isFirst]
    · rw [← parsed_second (by omega), value]
      simp only [if_neg isFirst]

theorem parse_refuses {remaining strpos pos : Nat} (refuses : ¬Takes macstr strpos) :
    parse (remaining + 1) strpos pos address macstr =
      (read strpos >>= fun _ => pure (false, address)) macstr := by
  have yields : (read strpos macstr).value = some (macstr strpos) := rfl
  rw [parse]
  refine bind_congr_of_some yields ?_
  unfold Takes at refuses
  by_cases isSeparator : strpos % 3 = 2
  · rw [if_pos isSeparator] at refuses ⊢
    rw [if_neg refuses]
  · rw [if_neg isSeparator] at refuses ⊢
    rw [Option.not_isSome_iff_eq_none.mp refuses]

/-- Where the loop leaves: at the first character it does not take, or behind all 17. -/
structure StopsAt (macstr : Memory) (start stopped : Nat) : Prop where
  lower : start ≤ stopped
  upper : stopped ≤ 17
  takes : ∀ strpos, start ≤ strpos → strpos < stopped → Takes macstr strpos
  refuses : stopped < 17 → ¬Takes macstr stopped

theorem parse_stops (macstr : Memory) (address : MACAddress) {remaining strpos : Nat}
    (whole : strpos + remaining = 17) :
    ∃ stopped, StopsAt macstr strpos stopped ∧
      (parse remaining strpos (strpos / 3) (parsed macstr address strpos) macstr).value =
        some (decide (stopped = 17), parsed macstr address stopped) ∧
      Within (stopped + 1) (parse remaining strpos (strpos / 3) (parsed macstr address strpos))
        macstr := by
  induction remaining generalizing strpos with
  | zero =>
      have atEnd : strpos = 17 := by omega
      subst atEnd
      refine ⟨17, ⟨le_rfl, le_rfl, fun _ lower upper => absurd lower (by omega),
        fun below => absurd below (by omega)⟩, rfl, ?_⟩
      exact within_pure _ _ _
  | succ remaining ih =>
      unfold Within
      by_cases takes : Takes macstr strpos
      · obtain ⟨stopped, stops, value, within⟩ := @ih (strpos + 1) (by omega)
        have lower := stops.lower
        refine ⟨stopped, ⟨by omega, stops.upper, ?_, stops.refuses⟩, ?_, ?_⟩
        · intro other atLeast below
          rcases Nat.eq_or_lt_of_le atLeast with rfl | later
          · exact takes
          · exact stops.takes other later below
        · rw [parse_takes takes, bind_value_of_some (read_value strpos macstr)]
          exact value
        · rw [parse_takes takes]
          exact (within_bind_of_some (read_value strpos macstr) _).mpr
            ⟨within_read.mpr (by omega), within⟩
      · refine ⟨strpos, ⟨le_rfl, by omega, fun _ lower upper => absurd lower (by omega),
          fun _ => takes⟩, ?_, ?_⟩
        · rw [parse_refuses takes, bind_value_of_some (read_value strpos macstr)]
          have early : ¬strpos = 17 := by omega
          rw [decide_eq_false early]
          rfl
        · rw [parse_refuses takes]
          exact (within_bind_of_some (read_value strpos macstr) _).mpr
            ⟨within_read.mpr (Nat.lt_succ_self _), within_pure _ _ _⟩

/-- A call returns, and says whether it has got behind all 17 characters. -/
theorem fromString_stops (macstr : Memory) (address : MACAddress) :
    ∃ stopped, StopsAt macstr 0 stopped ∧
      (address.fromString macstr).value =
        some (decide (stopped = 17), parsed macstr address stopped) ∧
      Within (stopped + 1) address.fromString macstr := by
  have stops := parse_stops macstr address (Nat.zero_add 17)
  rw [parsed_zero] at stops
  exact stops

theorem ne_zero_of_takes {strpos : Nat} (takes : Takes macstr strpos) : macstr strpos ≠ 0 := by
  intro isNul
  unfold Takes at takes
  rw [isNul] at takes
  split at takes
  · rcases takes with isColon | isDash
    · cases isColon
    · cases isDash
  · cases takes

/-- The loop stops at the terminator, if it gets there. -/
theorem StopsAt.le_length {text : List UInt8} {stopped : Nat}
    (string : NullTerminated macstr text) (stops : StopsAt macstr 0 stopped) :
    stopped ≤ text.length := by
  by_contra beyond
  obtain ⟨-, ended⟩ := spells_append.mp string.spelled
  rw [Nat.zero_add, spells_singleton] at ended
  exact ne_zero_of_takes (stops.takes text.length (Nat.zero_le _) (Nat.lt_of_not_le beyond))
    ended

end Positions

/-! ### Texts of an address -/

/-- A four-bit value as a digit of either case. -/
def hexChar (upper : Bool) (value : UInt8) : UInt8 :=
  if upper then (if value > 9 then value + 55 else value + 48) else paddedHexDigit value

/-- The octets, with a separator of either kind behind each but the last. -/
def spelled (address : MACAddress) (upper : Fin 6 → Bool × Bool) (dashed : Fin 5 → Bool) :
    List UInt8 :=
  (List.finRange 6).flatMap fun i =>
    [hexChar (upper i).1 ((address.octet i >>> 4) &&& 0x0f),
      hexChar (upper i).2 (address.octet i &&& 0x0f)] ++
        if inside : i.val < 5 then [if dashed ⟨i.val, inside⟩ then dash else colon] else []

/-- What `print` writes is one of them. -/
theorem print_eq_spelled (address : MACAddress) :
    address.print = address.spelled (fun _ => (false, false)) fun _ => false :=
  rfl

theorem asciiToHex_hexChar (upper : Bool) {value : UInt8} (small : value.toNat < 16) :
    asciiToHex (hexChar upper value) = some value := by
  have table : ∀ n : Fin 16, asciiToHex (hexChar upper (UInt8.ofNat n)) =
      some (UInt8.ofNat n) := by
    cases upper <;> decide
  have row := table ⟨value.toNat, small⟩
  rw [UInt8.ofNat_toNat] at row
  exact row

theorem asciiToHex_high (upper : Bool) (octet : UInt8) :
    asciiToHex (hexChar upper ((octet >>> 4) &&& 0x0f)) = some ((octet >>> 4) &&& 0x0f) := by
  have bound := octet.toNat_lt
  exact asciiToHex_hexChar upper (by rw [high_toNat]; omega)

theorem asciiToHex_low (upper : Bool) (octet : UInt8) :
    asciiToHex (hexChar upper (octet &&& 0x0f)) = some (octet &&& 0x0f) :=
  asciiToHex_hexChar upper (by rw [low_toNat]; omega)

/-- The halves of an octet are put together again. -/
theorem nibbles (octet : UInt8) :
    ((octet >>> 4) &&& 0x0f) <<< 4 ||| (octet &&& 0x0f) = octet := by
  have table : ∀ n : Fin 256, ((UInt8.ofNat n >>> 4) &&& 0x0f) <<< 4 |||
      (UInt8.ofNat n &&& 0x0f) = UInt8.ofNat n := by
    decide +kernel
  have row := table ⟨octet.toNat, octet.toNat_lt⟩
  rw [UInt8.ofNat_toNat] at row
  exact row

section Spelled

variable {address : MACAddress} {macstr : Memory} {upper : Fin 6 → Bool × Bool}
  {dashed : Fin 5 → Bool}

theorem spelled_at (string : NullTerminated macstr (address.spelled upper dashed)) (i : Fin 6) :
    macstr (3 * i.val) = hexChar (upper i).1 ((address.octet i >>> 4) &&& 0x0f) ∧
      macstr (3 * i.val + 1) = hexChar (upper i).2 (address.octet i &&& 0x0f) ∧
        ∀ inside : i.val < 5, macstr (3 * i.val + 2) =
          if dashed ⟨i.val, inside⟩ then dash else colon := by
  obtain ⟨here, -⟩ := spells_append.mp string.spelled
  have each (index : Nat) (below : index < 17) :
      macstr index = (address.spelled upper dashed).get ⟨index, below⟩ := by
    have spells := spells_iff_getElem.mp here index below
    rw [Nat.zero_add] at spells
    exact spells
  -- the list is made of 17 characters, whatever they are
  fin_cases i
  · exact ⟨each 0 (by decide), each 1 (by decide), fun _ => each 2 (by decide)⟩
  · exact ⟨each 3 (by decide), each 4 (by decide), fun _ => each 5 (by decide)⟩
  · exact ⟨each 6 (by decide), each 7 (by decide), fun _ => each 8 (by decide)⟩
  · exact ⟨each 9 (by decide), each 10 (by decide), fun _ => each 11 (by decide)⟩
  · exact ⟨each 12 (by decide), each 13 (by decide), fun _ => each 14 (by decide)⟩
  · exact ⟨each 15 (by decide), each 16 (by decide), fun inside => absurd inside (by decide)⟩

theorem takes_spelled (string : NullTerminated macstr (address.spelled upper dashed))
    {strpos : Nat} (inside : strpos < 17) : Takes macstr strpos := by
  obtain ⟨first, second, separator⟩ := spelled_at string ⟨strpos / 3, by omega⟩
  unfold Takes
  by_cases isSeparator : strpos % 3 = 2
  · have place : 3 * (strpos / 3) + 2 = strpos := by omega
    have here := separator (show strpos / 3 < 5 by omega)
    rw [place] at here
    rw [if_pos isSeparator, here]
    split
    · exact Or.inr rfl
    · exact Or.inl rfl
  · rw [if_neg isSeparator]
    by_cases isFirst : strpos % 3 = 0
    · have place : 3 * (strpos / 3) = strpos := by omega
      rw [place] at first
      rw [first, asciiToHex_high]
      rfl
    · have place : 3 * (strpos / 3) + 1 = strpos := by omega
      rw [place] at second
      rw [second, asciiToHex_low]
      rfl

/-- And what is stored is the address, whatever there was. -/
theorem parsed_spelled (string : NullTerminated macstr (address.spelled upper dashed))
    (previous : MACAddress) : parsed macstr previous 17 = address := by
  refine MACAddress.ext (funext fun index => ?_)
  obtain ⟨first, second, -⟩ := spelled_at string index
  have high : digit macstr (3 * index.val) = (address.octet index >>> 4) &&& 0x0f := by
    rw [digit, first, asciiToHex_high, Option.getD_some]
  have low : digit macstr (3 * index.val + 1) = address.octet index &&& 0x0f := by
    rw [digit, second, asciiToHex_low, Option.getD_some]
  unfold parsed
  dsimp only
  rw [if_neg (by omega), if_neg (by omega), high, low, nibbles]

theorem fromString_of_spelled (string : NullTerminated macstr (address.spelled upper dashed))
    (previous : MACAddress) : (previous.fromString macstr).value = some (true, address) := by
  obtain ⟨stopped, stops, value, -⟩ := fromString_stops macstr previous
  have atEnd : stopped = 17 := by
    by_contra early
    have below : stopped < 17 := Nat.lt_of_le_of_ne stops.upper early
    exact stops.refuses below (takes_spelled string below)
  rw [value, atEnd, parsed_spelled string, decide_eq_true rfl]

end Spelled

/-- Every text of an address is read as that address, whatever the separators and the case
of the digits and whatever there was before; what `print` writes is one of them. -/
theorem fromString_round_trip (address previous : MACAddress) (macstr : Memory) :
    (∀ upper dashed, NullTerminated macstr (address.spelled upper dashed) →
        (previous.fromString macstr).value = some (true, address)) ∧
      (NullTerminated macstr address.print →
        (previous.fromString macstr).value = some (true, address)) := by
  constructor
  · intro upper dashed string
    exact fromString_of_spelled string previous
  · intro string
    rw [print_eq_spelled] at string
    exact fromString_of_spelled string previous

/-- "6A-06:ed:54:7f-D1". -/
def mixedText : List UInt8 :=
  [0x36, 0x41, 0x2D, 0x30, 0x36, 0x3A, 0x65, 0x64, 0x3A, 0x35, 0x34, 0x3A, 0x37, 0x66, 0x2D,
    0x44, 0x31]

theorem fromString_round_trip_mixed :
    NullTerminated (store (fun _ => 0) 0 mixedText) mixedText ∧
      ((⟨fun _ => 0xFF⟩ : MACAddress).fromString (store (fun _ => 0) 0 mixedText)).value =
        some (true, ⟨![0x6A, 0x06, 0xED, 0x54, 0x7F, 0xD1]⟩) := by
  have string := nullTerminated_store mixedText (by decide +kernel)
  have text : mixedText = (⟨![0x6A, 0x06, 0xED, 0x54, 0x7F, 0xD1]⟩ : MACAddress).spelled
      ![(true, true), (false, false), (false, false), (false, false), (false, false),
        (true, true)] ![true, false, false, false, true] := by
    decide +kernel
  have isText := string
  rw [text] at isText
  rw [text]
  exact ⟨isText, (fromString_round_trip _ _ _).1 _ _ isText⟩

end MACAddress

end EtherSiaStack
