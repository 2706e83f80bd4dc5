/-
Programs that read and write a memory.

An accessor yields a value, the memory it leaves and the addresses it touched on the way,
in order.  A computation that is known to stay below an address can be taken as one
access: `confined` gives it nothing but the bytes there.
-/

import EtherSiaStack.Library.ByteMemory

namespace ByteMemory

structure Accessed (α : Type) where
  touched : List Nat
  value : α
  memory : Memory

def Accessor (α : Type) : Type :=
  Memory → Accessed α

namespace Accessor

variable {α β : Type}

protected def pure (value : α) : Accessor α :=
  fun memory => ⟨[], value, memory⟩

/-- The second part runs on the value of the first, in the memory it leaves. -/
protected def bind (first : Accessor α) (second : α → Accessor β) : Accessor β :=
  fun memory =>
    let left := first memory
    let last := second left.value left.memory
    ⟨left.touched ++ last.touched, last.value, last.memory⟩

instance : Monad Accessor where
  pure := Accessor.pure
  bind := Accessor.bind

def read (address : Nat) : Accessor UInt8 :=
  fun memory => ⟨[address], memory address, memory⟩

/-- That many bytes from the address on. -/
def readBytes (address count : Nat) : Accessor (List UInt8) :=
  fun memory => ⟨List.range' address count, bytesAt memory address count, memory⟩

def write (address : Nat) (byte : UInt8) : Accessor Unit :=
  fun memory => ⟨[address], (), store memory address [byte]⟩

/-- The bytes below `last` of one memory, and the others of another. -/
def splice (last : Nat) (lower upper : Memory) : Memory :=
  fun address => if address < last then lower address else upper address

/-- A computation on the bytes below `last`, all of which count as touched. -/
def confined (last : Nat) (call : Memory → α × Memory) : Accessor α :=
  fun memory =>
    let result := call (splice last memory fun _ => 0)
    ⟨List.range last, result.1, splice last result.2 memory⟩

/-! ### Values and memories -/

section Run

variable (memory : Memory)

@[simp] theorem pure_value (value : α) : ((pure value : Accessor α) memory).value = value :=
  rfl

@[simp] theorem pure_memory (value : α) :
    ((pure value : Accessor α) memory).memory = memory :=
  rfl

@[simp] theorem bind_value (first : Accessor α) (second : α → Accessor β) :
    ((first >>= second) memory).value =
      (second (first memory).value (first memory).memory).value :=
  rfl

@[simp] theorem bind_memory (first : Accessor α) (second : α → Accessor β) :
    ((first >>= second) memory).memory =
      (second (first memory).value (first memory).memory).memory :=
  rfl

@[simp] theorem read_value (address : Nat) : (read address memory).value = memory address :=
  rfl

@[simp] theorem read_memory (address : Nat) : (read address memory).memory = memory :=
  rfl

@[simp] theorem readBytes_value (address count : Nat) :
    (readBytes address count memory).value = bytesAt memory address count :=
  rfl

@[simp] theorem readBytes_memory (address count : Nat) :
    (readBytes address count memory).memory = memory :=
  rfl

@[simp] theorem write_memory (address : Nat) (byte : UInt8) :
    (write address byte memory).memory = store memory address [byte] :=
  rfl

end Run

theorem agree_splice (last : Nat) (lower upper : Memory) :
    Agree lower (splice last lower upper) 0 last :=
  fun _ _ inside => (if_pos inside).symm

/-- A computation that sees and changes nothing from `last` on is not affected by being
confined. -/
theorem confined_run {last : Nat} {call : Memory → α × Memory} {memory : Memory}
    (reads : ∀ other, Agree memory other 0 last →
      (call other).1 = (call memory).1 ∧ Agree (call memory).2 (call other).2 0 last)
    (writes : ∀ address, last ≤ address → (call memory).2 address = memory address) :
    (confined last call memory).value = (call memory).1 ∧
      (confined last call memory).memory = (call memory).2 := by
  obtain ⟨sameValue, sameBelow⟩ := reads _ (agree_splice last memory fun _ => 0)
  refine ⟨sameValue, ?_⟩
  funext address
  change (if address < last then _ else _) = _
  split
  · rename_i below
    exact (sameBelow address (Nat.zero_le _) below).symm
  · rename_i above
    exact (writes address (Nat.le_of_not_lt above)).symm

/-! ### What is touched -/

/-- Every byte touched lies below the bound. -/
def StaysBelow (bound : Nat) (accessor : Accessor α) (memory : Memory) : Prop :=
  ∀ address ∈ (accessor memory).touched, address < bound

section StaysBelow

variable {bound : Nat} {memory : Memory}

theorem staysBelow_pure (value : α) : StaysBelow bound (pure value : Accessor α) memory :=
  fun _ member => absurd member List.not_mem_nil

theorem staysBelow_read {address : Nat} :
    StaysBelow bound (read address) memory ↔ address < bound := by
  constructor
  · intro stays
    exact stays address List.mem_cons_self
  · intro inside other member
    rw [List.mem_singleton.mp member]
    exact inside

theorem staysBelow_readBytes {address count : Nat} (inside : address + count ≤ bound) :
    StaysBelow bound (readBytes address count) memory := by
  intro other member
  have upper := (List.mem_range'_1.mp member).2
  omega

theorem staysBelow_write {address : Nat} {byte : UInt8} :
    StaysBelow bound (write address byte) memory ↔ address < bound :=
  @staysBelow_read bound memory address

theorem staysBelow_confined {last : Nat} (call : Memory → α × Memory)
    (inside : last ≤ bound) : StaysBelow bound (confined last call) memory := by
  intro other member
  exact Nat.lt_of_lt_of_le (List.mem_range.mp member) inside

theorem staysBelow_bind {first : Accessor α} {second : α → Accessor β} :
    StaysBelow bound (first >>= second) memory ↔
      StaysBelow bound first memory ∧
        StaysBelow bound (second (first memory).value) (first memory).memory :=
  List.forall_mem_append

end StaysBelow

end Accessor

end ByteMemory
