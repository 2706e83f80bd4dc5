/-
Byte-addressed memory with big-endian words.

A memory is a total function from addresses to bytes, so a read needs no bound
and a store of a list of bytes is one range update.  Every reader below has one
lemma for a store over exactly its range and one for a store that misses its
range; a layered format is then reasoned about by field and never byte by byte.
-/

import Mathlib

namespace ByteMemory

/-- The bytes at each address. -/
abbrev Memory := Nat → UInt8

/-! ### Big-endian words -/

def be16 (high low : UInt8) : UInt16 :=
  UInt16.ofNat (high.toNat * 256 + low.toNat)

def high16 (word : UInt16) : UInt8 :=
  UInt8.ofNat (word.toNat / 256)

def low16 (word : UInt16) : UInt8 :=
  UInt8.ofNat word.toNat

def bytes16 (word : UInt16) : List UInt8 :=
  [high16 word, low16 word]

def be32 (byte0 byte1 byte2 byte3 : UInt8) : UInt32 :=
  UInt32.ofNat
    (((byte0.toNat * 256 + byte1.toNat) * 256 + byte2.toNat) * 256 +
      byte3.toNat)

def bytes32 (word : UInt32) : List UInt8 :=
  [UInt8.ofNat (word.toNat / 16777216), UInt8.ofNat (word.toNat / 65536),
    UInt8.ofNat (word.toNat / 256), UInt8.ofNat word.toNat]

@[simp] theorem bytes16_length (word : UInt16) : (bytes16 word).length = 2 :=
  rfl

@[simp] theorem bytes32_length (word : UInt32) : (bytes32 word).length = 4 :=
  rfl

theorem be16_toNat (high low : UInt8) :
    (be16 high low).toNat = high.toNat * 256 + low.toNat := by
  have highBound := high.toNat_lt
  have lowBound := low.toNat_lt
  simp only [be16, UInt16.toNat_ofNat']
  omega

theorem high16_toNat (word : UInt16) : (high16 word).toNat = word.toNat / 256 := by
  have bound := word.toNat_lt
  simp only [high16, UInt8.toNat_ofNat']
  omega

theorem low16_toNat (word : UInt16) : (low16 word).toNat = word.toNat % 256 := by
  simp [low16]

@[simp] theorem be16_high16_low16 (word : UInt16) :
    be16 (high16 word) (low16 word) = word := by
  apply UInt16.toNat_inj.mp
  rw [be16_toNat, high16_toNat, low16_toNat]
  omega

@[simp] theorem high16_be16 (high low : UInt8) : high16 (be16 high low) = high := by
  have lowBound := low.toNat_lt
  apply UInt8.toNat_inj.mp
  rw [high16_toNat, be16_toNat]
  omega

@[simp] theorem low16_be16 (high low : UInt8) : low16 (be16 high low) = low := by
  have lowBound := low.toNat_lt
  apply UInt8.toNat_inj.mp
  rw [low16_toNat, be16_toNat]
  omega

theorem be32_bytes32 (word : UInt32) :
    be32 (UInt8.ofNat (word.toNat / 16777216)) (UInt8.ofNat (word.toNat / 65536))
      (UInt8.ofNat (word.toNat / 256)) (UInt8.ofNat word.toNat) = word := by
  have bound := word.toNat_lt
  apply UInt32.toNat_inj.mp
  simp only [be32, UInt32.toNat_ofNat', UInt8.toNat_ofNat']
  omega

/-! ### Reading and storing -/

def u16At (memory : Memory) (address : Nat) : UInt16 :=
  be16 (memory address) (memory (address + 1))

def u32At (memory : Memory) (address : Nat) : UInt32 :=
  be32 (memory address) (memory (address + 1)) (memory (address + 2))
    (memory (address + 3))

/-- A fixed-size array of bytes that starts at `address`. -/
def blockAt (memory : Memory) (address : Nat) {size : Nat} : Fin size → UInt8 :=
  fun index => memory (address + index.val)

def blockBytes {size : Nat} (block : Fin size → UInt8) : List UInt8 :=
  List.ofFn block

@[simp] theorem blockBytes_length {size : Nat} (block : Fin size → UInt8) :
    (blockBytes block).length = size :=
  List.length_ofFn

def bytesAt (memory : Memory) (address count : Nat) : List UInt8 :=
  (List.range count).map fun index => memory (address + index)

def store (memory : Memory) (address : Nat) (bytes : List UInt8) : Memory :=
  fun index =>
    if index < address then memory index
    else (bytes[index - address]?).getD (memory index)

@[simp] theorem store_nil (memory : Memory) (address : Nat) :
    store memory address [] = memory := by
  funext index
  simp [store]

theorem store_before (memory : Memory) {address index : Nat} (bytes : List UInt8)
    (before : index < address) :
    store memory address bytes index = memory index := by
  simp [store, before]

theorem store_after (memory : Memory) {address index : Nat} (bytes : List UInt8)
    (after : address + bytes.length ≤ index) :
    store memory address bytes index = memory index := by
  have notBefore : ¬ index < address := by omega
  have absent : bytes[index - address]? = none :=
    List.getElem?_eq_none (by omega)
  simp [store, notBefore, absent]

theorem store_outside (memory : Memory) {address index : Nat} (bytes : List UInt8)
    (outside : index < address ∨ address + bytes.length ≤ index) :
    store memory address bytes index = memory index := by
  rcases outside with before | after
  · exact store_before memory bytes before
  · exact store_after memory bytes after

theorem store_inside (memory : Memory) (address : Nat) (bytes : List UInt8)
    (offset : Nat) (inside : offset < bytes.length) :
    store memory address bytes (address + offset) = bytes[offset] := by
  simp [store, List.getElem?_eq_getElem inside]

/-! ### Memories that agree on a range -/

/-- The two memories hold the same bytes from `first` up to but not including
`last`. -/
def Agree (left right : Memory) (first last : Nat) : Prop :=
  ∀ index, first ≤ index → index < last → left index = right index

theorem Agree.refl (memory : Memory) (first last : Nat) :
    Agree memory memory first last :=
  fun _ _ _ => rfl

theorem Agree.symm {left right : Memory} {first last : Nat}
    (agree : Agree left right first last) : Agree right left first last :=
  fun index lower upper => (agree index lower upper).symm

theorem Agree.trans {left middle right : Memory} {first last : Nat}
    (agreeLeft : Agree left middle first last)
    (agreeRight : Agree middle right first last) :
    Agree left right first last :=
  fun index lower upper =>
    (agreeLeft index lower upper).trans (agreeRight index lower upper)

theorem Agree.mono {left right : Memory} {first last first' last' : Nat}
    (agree : Agree left right first last) (lower : first ≤ first')
    (upper : last' ≤ last) : Agree left right first' last' :=
  fun index above below =>
    agree index (Nat.le_trans lower above) (Nat.lt_of_lt_of_le below upper)

theorem Agree.u16At_eq {left right : Memory} {first last address : Nat}
    (agree : Agree left right first last) (lower : first ≤ address)
    (upper : address + 2 ≤ last) : u16At left address = u16At right address := by
  unfold u16At
  rw [agree address lower (by omega), agree (address + 1) (by omega) (by omega)]

theorem Agree.u32At_eq {left right : Memory} {first last address : Nat}
    (agree : Agree left right first last) (lower : first ≤ address)
    (upper : address + 4 ≤ last) : u32At left address = u32At right address := by
  unfold u32At
  rw [agree address lower (by omega), agree (address + 1) (by omega) (by omega),
    agree (address + 2) (by omega) (by omega),
    agree (address + 3) (by omega) (by omega)]

theorem Agree.blockAt_eq {left right : Memory} {first last address size : Nat}
    (agree : Agree left right first last) (lower : first ≤ address)
    (upper : address + size ≤ last) :
    (blockAt left address : Fin size → UInt8) = blockAt right address := by
  funext index
  have bound := index.isLt
  exact agree (address + index.val) (by omega) (by omega)

theorem Agree.bytesAt_eq {left right : Memory} {first last address count : Nat}
    (agree : Agree left right first last) (lower : first ≤ address)
    (upper : address + count ≤ last) :
    bytesAt left address count = bytesAt right address count := by
  apply List.map_congr_left
  intro index member
  have bound := List.mem_range.mp member
  exact agree (address + index) (by omega) (by omega)

/-- A store keeps every range that it misses. -/
theorem agree_store (memory : Memory) {address first last : Nat}
    (bytes : List UInt8)
    (disjoint : last ≤ address ∨ address + bytes.length ≤ first) :
    Agree (store memory address bytes) memory first last := by
  intro index lower upper
  apply store_outside
  omega

/-- Storing the same bytes makes two memories agree where the store reaches,
and keeps their agreement elsewhere. -/
theorem Agree.store_both {left right : Memory} {first last : Nat}
    (agree : Agree left right first last) (address : Nat) (bytes : List UInt8) :
    Agree (store left address bytes) (store right address bytes) first last := by
  intro index lower upper
  have same := agree index lower upper
  simp only [store, same]

/-- Storing what both memories hold in a range they agree on. -/
theorem Agree.store_block {left right : Memory} {first last : Nat}
    (agree : Agree left right first last) (address source size : Nat)
    (lower : first ≤ source) (upper : source + size ≤ last) :
    Agree (store left address (blockBytes (blockAt left source : Fin size → UInt8)))
      (store right address (blockBytes (blockAt right source : Fin size → UInt8)))
      first last := by
  have same : (blockAt left source : Fin size → UInt8) = blockAt right source :=
    agree.blockAt_eq lower upper
  rw [same]
  exact agree.store_both address _

theorem Agree.store_word {left right : Memory} {first last : Nat}
    (agree : Agree left right first last) (address source : Nat) (lower : first ≤ source)
    (upper : source + 2 ≤ last) :
    Agree (store left address (bytes16 (u16At left source)))
      (store right address (bytes16 (u16At right source))) first last := by
  rw [agree.u16At_eq lower upper]
  exact agree.store_both address _

theorem agree_store_self (left right : Memory) (address : Nat)
    (bytes : List UInt8) :
    Agree (store left address bytes) (store right address bytes) address
      (address + bytes.length) := by
  intro index lower upper
  obtain ⟨offset, rfl⟩ := Nat.exists_eq_add_of_le lower
  have inside : offset < bytes.length := by omega
  rw [store_inside left address bytes offset inside,
    store_inside right address bytes offset inside]

/-- Storing the same bytes where the agreement ends makes it reach as far. -/
theorem Agree.store_onward {left right : Memory} {first last : Nat}
    (agree : Agree left right first last) (bytes : List UInt8) :
    Agree (store left last bytes) (store right last bytes) first (last + bytes.length) := by
  intro index lower upper
  by_cases inside : index < last
  · exact agree.store_both last bytes index lower inside
  · exact agree_store_self left right last bytes index (Nat.not_lt.mp inside) upper

/-! ### Memories that agree off a set -/

/-- The two memories differ at most at the addresses in the set. -/
def AgreeOff (hidden : Nat → Prop) (left right : Memory) : Prop :=
  ∀ address, ¬ hidden address → right address = left address

theorem AgreeOff.refl (hidden : Nat → Prop) (memory : Memory) :
    AgreeOff hidden memory memory :=
  fun _ _ => rfl

theorem AgreeOff.symm {hidden : Nat → Prop} {left right : Memory}
    (agree : AgreeOff hidden left right) : AgreeOff hidden right left :=
  fun address visible => (agree address visible).symm

theorem AgreeOff.trans {hidden : Nat → Prop} {left middle right : Memory}
    (first : AgreeOff hidden left middle) (second : AgreeOff hidden middle right) :
    AgreeOff hidden left right :=
  fun address visible => (second address visible).trans (first address visible)

theorem AgreeOff.agree {hidden : Nat → Prop} {left right : Memory} {first last : Nat}
    (agree : AgreeOff hidden left right)
    (visible : ∀ address, first ≤ address → address < last → ¬ hidden address) :
    Agree left right first last :=
  fun address lower upper => (agree address (visible address lower upper)).symm

theorem AgreeOff.update {hidden : Nat → Prop} {left right : Memory} {address : Nat}
    (agree : AgreeOff hidden left right) (isHidden : hidden address) (byte : UInt8) :
    AgreeOff hidden left (Function.update right address byte) := by
  intro other visible
  have different : other ≠ address := fun same => visible (same ▸ isHidden)
  rw [Function.update_of_ne different]
  exact agree other visible

theorem add_one_ne (byte : UInt8) : byte + 1 ≠ byte := by
  intro same
  have sum := congrArg UInt8.toNat same
  rw [UInt8.toNat_add] at sum
  have bound := byte.toNat_lt
  change (byte.toNat + 1) % 256 = byte.toNat at sum
  omega

/-- A block that is the same over every memory that differs at most in the set has no
address in the set. -/
theorem visible_of_blockAt_same {hidden : Nat → Prop} {memory : Memory} {first size : Nat}
    (same : ∀ other, AgreeOff hidden memory other →
      (blockAt other first : Fin size → UInt8) = blockAt memory first) :
    ∀ address, first ≤ address → address < first + size → ¬ hidden address := by
  intro address lower upper isHidden
  obtain ⟨offset, rfl⟩ := Nat.exists_eq_add_of_le lower
  have changed := congrFun (same (Function.update memory (first + offset)
    (memory (first + offset) + 1)) ((AgreeOff.refl _ memory).update isHidden _))
    ⟨offset, by omega⟩
  change Function.update memory (first + offset) _ (first + offset) = _ at changed
  rw [Function.update_self] at changed
  exact add_one_ne (memory (first + offset)) changed

/-! ### A field after a store -/

@[simp] theorem u8_store_disjoint (memory : Memory) {address field : Nat}
    (bytes : List UInt8)
    (disjoint : field + 1 ≤ address ∨ address + bytes.length ≤ field) :
    store memory address bytes field = memory field :=
  store_outside memory bytes (by omega)

@[simp] theorem u16At_store_disjoint (memory : Memory) {address field : Nat}
    (bytes : List UInt8)
    (disjoint : field + 2 ≤ address ∨ address + bytes.length ≤ field) :
    u16At (store memory address bytes) field = u16At memory field :=
  (agree_store memory bytes disjoint).u16At_eq (Nat.le_refl _) (Nat.le_refl _)

@[simp] theorem u32At_store_disjoint (memory : Memory) {address field : Nat}
    (bytes : List UInt8)
    (disjoint : field + 4 ≤ address ∨ address + bytes.length ≤ field) :
    u32At (store memory address bytes) field = u32At memory field :=
  (agree_store memory bytes disjoint).u32At_eq (Nat.le_refl _) (Nat.le_refl _)

@[simp] theorem blockAt_store_disjoint (memory : Memory) {address field size : Nat}
    (bytes : List UInt8)
    (disjoint : field + size ≤ address ∨ address + bytes.length ≤ field) :
    (blockAt (store memory address bytes) field : Fin size → UInt8) =
      blockAt memory field :=
  (agree_store memory bytes disjoint).blockAt_eq (Nat.le_refl _) (Nat.le_refl _)

theorem bytesAt_store_disjoint (memory : Memory) {address field count : Nat}
    (bytes : List UInt8)
    (disjoint : field + count ≤ address ∨ address + bytes.length ≤ field) :
    bytesAt (store memory address bytes) field count = bytesAt memory field count :=
  (agree_store memory bytes disjoint).bytesAt_eq (Nat.le_refl _) (Nat.le_refl _)

@[simp] theorem u8_store_self (memory : Memory) (address : Nat) (byte : UInt8) :
    store memory address [byte] address = byte := by
  simp [store]

theorem store_byte (memory : Memory) (address : Nat) (byte : UInt8) :
    store memory address [byte] = Function.update memory address byte := by
  funext index
  by_cases here : index = address
  · rw [here, u8_store_self, Function.update_self]
  · have outside : index < address ∨ address + 1 ≤ index := by omega
    rw [store_outside _ _ outside, Function.update_of_ne here]

theorem store_byte_twice (memory : Memory) (address : Nat) (first second : UInt8) :
    store (store memory address [first]) address [second] =
      store memory address [second] := by
  rw [store_byte, store_byte, store_byte, Function.update_idem]

@[simp] theorem u16At_store_self (memory : Memory) (address : Nat) (word : UInt16) :
    u16At (store memory address (bytes16 word)) address = word := by
  have second : address + 1 - address = 1 := by omega
  simp [u16At, store, bytes16, second]

@[simp] theorem u32At_store_self (memory : Memory) (address : Nat) (word : UInt32) :
    u32At (store memory address (bytes32 word)) address = word := by
  have first := store_inside memory address (bytes32 word) 0 (by simp)
  have second := store_inside memory address (bytes32 word) 1 (by simp)
  have third := store_inside memory address (bytes32 word) 2 (by simp)
  have fourth := store_inside memory address (bytes32 word) 3 (by simp)
  rw [Nat.add_zero] at first
  unfold u32At
  rw [first, second, third, fourth]
  exact be32_bytes32 word

@[simp] theorem blockAt_store_self (memory : Memory) (address : Nat) {size : Nat}
    (block : Fin size → UInt8) :
    blockAt (store memory address (blockBytes block)) address = block := by
  funext index
  have inside : index.val < (blockBytes block).length := by
    rw [blockBytes_length]
    exact index.isLt
  exact (store_inside memory address (blockBytes block) index.val inside).trans
    (List.getElem_ofFn ..)

@[simp] theorem bytesAt_length (memory : Memory) (address count : Nat) :
    (bytesAt memory address count).length = count := by
  simp [bytesAt]

theorem bytesAt_getElem (memory : Memory) (address count index : Nat)
    (inside : index < (bytesAt memory address count).length) :
    (bytesAt memory address count)[index] = memory (address + index) := by
  simp [bytesAt]

theorem getElem?_bytesAt {memory : Memory} {address count index : Nat}
    (inside : index < count) :
    (bytesAt memory address count)[index]? = some (memory (address + index)) := by
  rw [List.getElem?_eq_getElem (by rw [bytesAt_length]; exact inside), bytesAt_getElem]

theorem bytesAt_eq_iff {left right : Memory} {address count : Nat} :
    bytesAt left address count = bytesAt right address count ↔
      ∀ index < count, left (address + index) = right (address + index) := by
  unfold bytesAt
  rw [List.map_inj_left]
  simp only [List.mem_range]

theorem bytesAt_store_self (memory : Memory) (address : Nat) (bytes : List UInt8) :
    bytesAt (store memory address bytes) address bytes.length = bytes := by
  apply List.ext_getElem
  · simp
  · intro index inside inBytes
    rw [bytesAt_getElem, store_inside memory address bytes index inBytes]

theorem bytesAt_store_drop (memory : Memory) (bytes : List UInt8) (start : Nat) :
    bytesAt (store memory 0 bytes) start (bytes.length - start) =
      bytes.drop start := by
  apply List.ext_getElem
  · simp
  · intro index inside _inDrop
    rw [bytesAt_length] at inside
    have offset : start + index < bytes.length := by omega
    have stored := store_inside memory 0 bytes (start + index) offset
    rw [Nat.zero_add] at stored
    rw [bytesAt_getElem, List.getElem_drop, stored]

theorem store_append (memory : Memory) (address : Nat) (first second : List UInt8) :
    store memory address (first ++ second) =
      store (store memory address first) (address + first.length) second := by
  funext index
  unfold store
  by_cases before : index < address
  · rw [if_pos before, if_pos (by omega), if_pos before]
  · by_cases inFirst : index < address + first.length
    · rw [if_neg before, if_pos inFirst, if_neg before,
        List.getElem?_append_left (by omega)]
    · have absent : first[index - address]? = none := List.getElem?_eq_none (by omega)
      rw [if_neg before, if_neg inFirst, if_neg before, absent,
        List.getElem?_append_right (by omega), Nat.sub_sub, Option.getD_none]

/-- Reading a range and storing it elsewhere carries the range over. -/
theorem agree_store_bytesAt (source target : Memory) (address count : Nat) :
    Agree (store target address (bytesAt source address count)) source address
      (address + count) := by
  intro index lower upper
  obtain ⟨offset, rfl⟩ := Nat.exists_eq_add_of_le lower
  have inside : offset < (bytesAt source address count).length := by
    rw [bytesAt_length]
    omega
  rw [store_inside target address _ offset inside, bytesAt_getElem]

theorem drop_bytesAt (memory : Memory) (address count skipped : Nat) :
    (bytesAt memory address count).drop skipped =
      bytesAt memory (address + skipped) (count - skipped) := by
  apply List.ext_getElem
  · simp
  · intro index _inDrop _inRange
    rw [List.getElem_drop, bytesAt_getElem, bytesAt_getElem, Nat.add_assoc]

theorem bytesAt_add (memory : Memory) (address first second : Nat) :
    bytesAt memory address (first + second) =
      bytesAt memory address first ++ bytesAt memory (address + first) second := by
  simp only [bytesAt, List.range_add, List.map_append, List.map_map]
  congr 1
  apply List.map_congr_left
  intro index _member
  simp only [Function.comp_apply, Nat.add_assoc]

theorem bytesAt_succ (memory : Memory) (address count : Nat) :
    bytesAt memory address (count + 1) =
      memory address :: bytesAt memory (address + 1) count := by
  rw [Nat.add_comm, bytesAt_add]
  rfl

/-- A byte that is stored in front of others comes out the same behind them. -/
theorem store_cons (memory : Memory) (address : Nat) (first : UInt8) (rest : List UInt8) :
    store (store memory (address + 1) rest) address [first] =
      store memory address (first :: rest) := by
  funext index
  unfold store
  by_cases before : index < address
  · rw [if_pos before, if_pos (by omega), if_pos before]
  · obtain ⟨offset, rfl⟩ := Nat.exists_eq_add_of_le (Nat.le_of_not_lt before)
    rw [if_neg before, if_neg before, Nat.add_sub_cancel_left]
    cases offset with
    | zero => rfl
    | succ offset =>
        have behind : address + (offset + 1) - (address + 1) = offset := by omega
        rw [if_neg (by omega), behind]
        rfl

end ByteMemory
