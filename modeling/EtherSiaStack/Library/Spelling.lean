/-
Byte strings spelled in a memory.

A memory spells a list of bytes at an address when reading there gives the list.
A format is then a function from values to lists of bytes, and a reader is
proved right by taking its spelling apart: an appended part is spelled behind
the first, and a word or a block is what the reader for it returns.
-/

import EtherSiaStack.Library.ByteMemory

namespace ByteMemory

def Spells (memory : Memory) (address : Nat) (bytes : List UInt8) : Prop :=
  bytesAt memory address bytes.length = bytes

theorem spells_append {memory : Memory} {address : Nat} {first second : List UInt8} :
    Spells memory address (first ++ second) ↔
      Spells memory address first ∧ Spells memory (address + first.length) second := by
  unfold Spells
  rw [List.length_append, bytesAt_add]
  constructor
  · intro same
    exact List.append_inj same (bytesAt_length _ _ _)
  · rintro ⟨atFirst, atSecond⟩
    rw [atFirst, atSecond]

theorem spells_singleton {memory : Memory} {address : Nat} {byte : UInt8} :
    Spells memory address [byte] ↔ memory address = byte := by
  have read : bytesAt memory address [byte].length = [memory address] := rfl
  unfold Spells
  rw [read]
  exact List.singleton_inj

theorem spells_cons {memory : Memory} {address : Nat} {byte : UInt8}
    {rest : List UInt8} :
    Spells memory address (byte :: rest) ↔
      memory address = byte ∧ Spells memory (address + 1) rest := by
  have split : byte :: rest = [byte] ++ rest := rfl
  rw [split, spells_append, spells_singleton]
  exact Iff.rfl

theorem spells_iff_getElem {memory : Memory} {address : Nat} {bytes : List UInt8} :
    Spells memory address bytes ↔
      ∀ (index : Nat) (inside : index < bytes.length),
        memory (address + index) = bytes[index] := by
  constructor
  · intro spelled index inside
    have counted : index < (bytesAt memory address bytes.length).length := by
      rw [bytesAt_length]
      exact inside
    rw [← bytesAt_getElem memory address bytes.length index counted]
    exact List.getElem_of_eq spelled counted
  · intro reads
    apply List.ext_getElem
    · exact bytesAt_length _ _ _
    · intro index counted inside
      rw [bytesAt_getElem]
      exact reads index inside

theorem spells_blockBytes {memory : Memory} {address size : Nat}
    {block : Fin size → UInt8} :
    Spells memory address (blockBytes block) ↔ blockAt memory address = block := by
  rw [spells_iff_getElem]
  constructor
  · intro reads
    funext index
    have inside : index.val < (blockBytes block).length := by
      rw [blockBytes_length]
      exact index.isLt
    exact (reads index.val inside).trans (List.getElem_ofFn ..)
  · intro same index inside
    have bound : index < size := by
      rw [blockBytes_length] at inside
      exact inside
    have read : memory (address + index) = block ⟨index, bound⟩ :=
      congrFun same ⟨index, bound⟩
    exact read.trans (List.getElem_ofFn ..).symm

theorem spells_bytes16 {memory : Memory} {address : Nat} {word : UInt16} :
    Spells memory address (bytes16 word) ↔ u16At memory address = word := by
  unfold bytes16
  rw [spells_cons, spells_singleton]
  constructor
  · rintro ⟨high, low⟩
    rw [u16At, high, low, be16_high16_low16]
  · intro read
    rw [← read, u16At, high16_be16, low16_be16]
    exact ⟨rfl, rfl⟩

theorem Spells.congr {left right : Memory} {address : Nat} {bytes : List UInt8}
    (spelled : Spells left address bytes)
    (agree : Agree right left address (address + bytes.length)) :
    Spells right address bytes := by
  unfold Spells at spelled ⊢
  rw [agree.bytesAt_eq le_rfl le_rfl]
  exact spelled

/-- What a range begins with is spelled at its start. -/
theorem prefix_bytesAt_iff {memory : Memory} {address count : Nat} {bytes : List UInt8} :
    bytes <+: bytesAt memory address count ↔
      Spells memory address bytes ∧ bytes.length ≤ count := by
  constructor
  · intro isPrefix
    have short := isPrefix.length_le
    rw [bytesAt_length] at short
    refine ⟨?_, short⟩
    obtain ⟨rest, rfl⟩ := Nat.exists_eq_add_of_le short
    have taken := List.prefix_iff_eq_take.mp isPrefix
    rw [bytesAt_add, List.take_left' (bytesAt_length _ _ _)] at taken
    exact taken.symm
  · rintro ⟨spelled, short⟩
    obtain ⟨rest, rfl⟩ := Nat.exists_eq_add_of_le short
    rw [bytesAt_add, spelled]
    exact List.prefix_append _ _

theorem spells_store (memory : Memory) (address : Nat) (bytes : List UInt8) :
    Spells (store memory address bytes) address bytes :=
  bytesAt_store_self memory address bytes

/-- Storing what is there already changes nothing. -/
theorem store_of_spells {memory : Memory} {address : Nat} {bytes : List UInt8}
    (spelled : Spells memory address bytes) : store memory address bytes = memory := by
  rw [spells_iff_getElem] at spelled
  funext index
  by_cases inside : address ≤ index ∧ index < address + bytes.length
  · obtain ⟨offset, rfl⟩ := Nat.exists_eq_add_of_le inside.1
    have within : offset < bytes.length := by omega
    rw [store_inside memory address bytes offset within, spelled offset within]
  · exact store_outside memory bytes (by omega)

end ByteMemory
