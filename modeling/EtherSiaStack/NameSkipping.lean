/-
`skipOverName` over a name of a message.

A name is any number of labels, and what ends them: a zero byte, or a pointer to another
place of the message.  The loop looks for the zero byte behind a label, so it gets past
every name but the one without labels that ends at once.
-/

import EtherSiaStack.DnsReply

namespace EtherSiaStack

open ByteMemory Inspector

/-- What ends a name. -/
inductive NameEnding
  | zero
  | pointer (high low : UInt8) (isPointer : high &&& 0xC0 = 0xC0)

def NameEnding.octets : NameEnding → List UInt8
  | zero => [0]
  | pointer high low _ => [high, low]

/-- A name as it stands in a message. -/
structure WireName where
  labels : List DnsLabel
  ending : NameEnding

namespace WireName

def octets (name : WireName) : List UInt8 :=
  name.labels.flatMap DnsLabel.encoded ++ name.ending.octets

/-- The name of the root, a zero byte. -/
def root : WireName :=
  ⟨[], .zero⟩

/-- A name that is not the root starts with a label or is a pointer. -/
theorem exists_dnsName {name : WireName} (notRoot : name ≠ root) :
    ∃ dnsName : DnsName, dnsName.octets = name.octets := by
  obtain ⟨labels, ending⟩ := name
  induction labels with
  | nil =>
      cases ending with
      | zero => exact absurd rfl notRoot
      | pointer high low isPointer => exact ⟨.pointer high low isPointer, rfl⟩
  | cons label labels ih =>
      by_cases rest : (⟨labels, ending⟩ : WireName) = root
      · obtain ⟨rfl, rfl⟩ := WireName.mk.inj rest
        refine ⟨.last label, ?_⟩
        unfold octets
        rw [List.flatMap_singleton]
        rfl
      · obtain ⟨dnsName, same⟩ := ih rest
        refine ⟨.cons label dnsName, ?_⟩
        unfold octets at same ⊢
        rw [List.flatMap_cons, List.append_assoc, ← same]
        rfl

end WireName

/-- The skip ends behind the name, with as many passes as the name has bytes. -/
def SkipsName (packet : Memory) (ptr : Nat) (name : WireName) : Prop :=
  ∀ fuel, name.octets.length ≤ fuel →
    (skipOverName fuel ptr packet).value = some (ptr + name.octets.length)

/-- At a zero byte the loop does not start, and the pointer stays where it is. -/
theorem skipOverName_of_zero {packet : Memory} {ptr : Nat} (ended : packet ptr = 0)
    (fuel : Nat) : (skipOverName (fuel + 1) ptr packet).value = some ptr := by
  apply loop_value_of_result
  rw [skipNamePass_value, if_pos ended]

theorem not_skipsName_root {packet : Memory} {ptr : Nat} (ended : packet ptr = 0) :
    ¬ SkipsName packet ptr WireName.root := by
  intro skips
  have behind := skips 1 le_rfl
  rw [skipOverName_of_zero ended 0] at behind
  exact absurd (Option.some.inj behind) (Nat.ne_of_lt (Nat.lt_succ_self ptr))

/-- Every name is skipped but that of the root, whatever lies behind it. -/
theorem skipOverName_passes_iff {packet : Memory} {ptr : Nat} {name : WireName}
    (spelled : Spells packet ptr name.octets) :
    SkipsName packet ptr name ↔ name ≠ WireName.root := by
  constructor
  · rintro skips rfl
    exact not_skipsName_root (spells_singleton.mp spelled) skips
  · intro notRoot fuel enough
    obtain ⟨dnsName, same⟩ := name.exists_dnsName notRoot
    rw [← same] at spelled enough ⊢
    exact skipOverName_of_spells dnsName spelled enough

/-- A pointer to the start of the message. -/
theorem skipOverName_passes_pointer :
    SkipsName (store (fun _ => 0) 12 [0xC0, 0x0C]) 12 ⟨[], .pointer 0xC0 0x0C rfl⟩ ↔
      (⟨[], .pointer 0xC0 0x0C rfl⟩ : WireName) ≠ WireName.root :=
  skipOverName_passes_iff (spells_store _ 12 [0xC0, 0x0C])

/-- The zero byte of the root is not skipped. -/
theorem root_is_not_passed :
    ¬ ∀ (packet : Memory) (ptr : Nat) (name : WireName),
      Spells packet ptr name.octets → SkipsName packet ptr name := by
  intro always
  exact not_skipsName_root rfl
    (always (fun _ => 0) 12 WireName.root (spells_singleton.mpr rfl))

end EtherSiaStack
