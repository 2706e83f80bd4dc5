/-
What the driver's accesses to the ENC28J60 do.

Each has one rule: from an assertion about the controller that its own events keep, to
another.  The effect is the one of a single instruction, or for the buffer memory of one
byte after the other.
-/

import EtherSiaStack.EthernetController

namespace EtherSiaStack

open ByteMemory Interference

namespace ENC28J60

open Controller (Event)

variable {χ : Type} {bus : SpiBus χ} {view : χ → Port} {bank : UInt8} {localMac : MACAddress}
  {pre : Controller → Prop}

/-- The driver has chosen this bank, and this is so of its chip. -/
structure Holds (view : χ → Port) (localMac : MACAddress) (bank : UInt8)
    (assertion : Controller → Prop) (enc : ENC28J60 χ) : Prop where
  bank : enc.bank = bank
  localMac : enc.localMac = localMac
  chip : assertion (view enc.chip).controller

/-- The same in the middle of an instruction. -/
structure HoldsAt (view : χ → Port) (localMac : MACAddress) (bank : UInt8) (phase : Phase)
    (assertion : Controller → Prop) (enc : ENC28J60 χ) : Prop
    extends Holds view localMac bank assertion enc where
  phase : (view enc.chip).phase = phase

/-! ### Single bytes -/

theorem select_triple (follows : Follows bus view) (preStable : Stable Event pre) :
    Triple (Holds view localMac bank pre) (enc28j60ArchSpiSelect bus)
      fun _ => HoldsAt view localMac bank .opcode pre :=
  fun enc holds =>
    { bank := holds.bank
      localMac := holds.localMac
      chip := preStable.elapses (follows.select enc.chip).2 holds.chip
      phase := (follows.select enc.chip).1 }

theorem deselect_triple (follows : Follows bus view) {phase : Phase}
    (preStable : Stable Event pre) :
    Triple (HoldsAt view localMac bank phase pre) (enc28j60ArchSpiDeselect bus)
      fun _ => Holds view localMac bank pre :=
  fun enc holds =>
    { bank := holds.bank
      localMac := holds.localMac
      chip := preStable.elapses (follows.deselect enc.chip).2 holds.chip }

theorem transfer_triple (follows : Follows bus view) {phase after : Phase} {data : UInt8}
    {post : UInt8 → Controller → Prop} (postStable : ∀ reply, Stable Event (post reply))
    (effect : ∀ c, pre c → (Port.transfer ⟨phase, c⟩ data).2.phase = after ∧
      post (Port.transfer ⟨phase, c⟩ data).1 (Port.transfer ⟨phase, c⟩ data).2.controller) :
    Triple (HoldsAt view localMac bank phase pre) (enc28j60ArchSpiWrite bus data)
      fun reply => HoldsAt view localMac bank after (post reply) := by
  intro enc holds
  obtain ⟨reply, phases, elapses⟩ := follows.transfer data enc.chip
  have port : view enc.chip = ⟨phase, (view enc.chip).controller⟩ := by rw [← holds.phase]
  obtain ⟨inPhase, posts⟩ := effect _ holds.chip
  rw [← port] at inPhase posts
  exact
    { bank := holds.bank
      localMac := holds.localMac
      chip := by
        change post (bus.transfer data enc.chip).1 _
        rw [reply]
        exact (postStable _).elapses elapses posts
      phase := phases.trans inPhase }

/-- A byte that leaves the controller alone but for its phase. -/
theorem transfer_phase_triple (follows : Follows bus view) {phase after : Phase} {data : UInt8}
    (preStable : Stable Event pre)
    (effect : ∀ c, pre c → (Port.transfer ⟨phase, c⟩ data).2 = ⟨after, c⟩) :
    Triple (HoldsAt view localMac bank phase pre) (enc28j60ArchSpiWrite bus data)
      fun _ => HoldsAt view localMac bank after pre := by
  refine transfer_triple follows (fun _ => preStable) fun c holds => ?_
  rw [effect c holds]
  exact ⟨rfl, holds⟩

/-! ### Instructions -/

theorem opcode_toNat (instruction : Nat) (small : instruction < 8) (reg : UInt8) :
    (UInt8.ofNat (instruction * 32) ||| (reg &&& 0x1f)).toNat =
      instruction * 32 + reg.toNat % 32 := by
  have each : ∀ instruction < 8, ∀ reg < 256,
      instruction * 32 % 256 ||| (reg &&& 31) = instruction * 32 + reg % 32 := by
    decide +kernel
  rw [UInt8.toNat_or, UInt8.toNat_and, UInt8.toNat_ofNat']
  exact each instruction small reg.toNat reg.toNat_lt

/-- The bytes the driver sends first, as the instructions they are. -/
theorem transfer_opcode (c : Controller) {instruction : Nat} (small : instruction < 8)
    (reg : UInt8) :
    (Port.transfer ⟨.opcode, c⟩ (UInt8.ofNat (instruction * 32) ||| (reg &&& 0x1f))).2 =
      Port.instruct c instruction (reg.toNat % 32) := by
  have value := opcode_toNat instruction small reg
  have quotient : (UInt8.ofNat (instruction * 32) ||| (reg &&& 0x1f)).toNat / 32 =
      instruction := by omega
  have remainder : (UInt8.ofNat (instruction * 32) ||| (reg &&& 0x1f)).toNat % 32 =
      reg.toNat % 32 := by omega
  change Port.instruct c _ _ = _
  rw [quotient, remainder]

theorem isMacMiiReg_triple {assertion : ENC28J60 χ → Prop} (reg : UInt8)
    (inBank : ∀ enc, assertion enc → enc.bank = bank) :
    Triple assertion (isMacMiiReg reg) fun mac enc => mac = macMiiAt bank reg ∧ assertion enc :=
  fun enc holds => ⟨by rw [← inBank enc holds]; rfl, holds⟩

section Registers

variable {reg : UInt8} {post : UInt8 → Controller → Prop}

/-- A register is read at one instant, and MAC and MII registers behind a byte that means
nothing. -/
theorem readreg_triple (follows : Follows bus view) (preStable : Stable Event pre)
    (postStable : ∀ reply, Stable Event (post reply))
    (agrees : ∀ c, pre c → Controller.isMac c.bank (reg.toNat % 32) = macMiiAt bank reg)
    (effect : ∀ c, pre c → post (c.readControl (reg.toNat % 32)) c) :
    Triple (Holds view localMac bank pre) (readreg bus reg)
      fun reply => Holds view localMac bank (post reply) := by
  have opcode : Triple (HoldsAt view localMac bank .opcode pre)
      (enc28j60ArchSpiWrite bus (0x00 ||| (reg &&& 0x1f))) fun _ =>
        HoldsAt view localMac bank (.readControl (reg.toNat % 32) (macMiiAt bank reg)) pre := by
    refine transfer_phase_triple follows preStable fun c holds => ?_
    rw [← agrees c holds]
    exact transfer_opcode c (show 0 < 8 by decide) reg
  have value : Triple (HoldsAt view localMac bank (.readControl (reg.toNat % 32) false) pre)
      (enc28j60ArchSpiRead bus) fun reply =>
        HoldsAt view localMac bank (.readControl (reg.toNat % 32) false) (post reply) :=
    transfer_triple follows postStable fun c holds => ⟨rfl, effect c holds⟩
  have ending (reply : UInt8) : Triple
      (HoldsAt view localMac bank (.readControl (reg.toNat % 32) false) (post reply))
        (do enc28j60ArchSpiDeselect bus; return reply) fun reply =>
          Holds view localMac bank (post reply) :=
    Triple.bind (deselect_triple follows (postStable reply)) fun _ _ holds => holds
  unfold readreg
  refine Triple.bind (select_triple follows preStable) fun _ => Triple.bind opcode fun _ =>
    Triple.bind (isMacMiiReg_triple reg fun enc holds => holds.bank) fun mac => ?_
  refine Triple.fact fun isMac => Triple.ite (fun yes => ?_) fun no => ?_
  · have dummy : Triple (HoldsAt view localMac bank (.readControl (reg.toNat % 32) true) pre)
        (enc28j60ArchSpiRead bus) fun _ =>
          HoldsAt view localMac bank (.readControl (reg.toNat % 32) false) pre :=
      transfer_phase_triple follows preStable fun _ _ => rfl
    rw [← isMac, yes]
    exact Triple.bind dummy fun _ => Triple.bind value ending
  · rw [← isMac, Bool.eq_false_of_not_eq_true no]
    exact Triple.bind value ending

/-- The three instructions with a register and one operand. -/
theorem operand_triple (follows : Follows bus view) {post : Controller → Prop}
    {instruction : Nat} (small : instruction < 8) {phase : Phase}
    (instructs : ∀ c, Port.instruct c instruction (reg.toNat % 32) = ⟨phase, c⟩)
    {data : UInt8} (preStable : Stable Event pre) (postStable : Stable Event post)
    (effect : ∀ c, pre c → (Port.transfer ⟨phase, c⟩ data).2.phase = .idle ∧
      post (Port.transfer ⟨phase, c⟩ data).2.controller) :
    Triple (Holds view localMac bank pre) (do
      enc28j60ArchSpiSelect bus
      let _ ← enc28j60ArchSpiWrite bus (UInt8.ofNat (instruction * 32) ||| (reg &&& 0x1f))
      let _ ← enc28j60ArchSpiWrite bus data
      enc28j60ArchSpiDeselect bus) fun _ => Holds view localMac bank post := by
  have opcode : Triple (HoldsAt view localMac bank .opcode pre)
      (enc28j60ArchSpiWrite bus (UInt8.ofNat (instruction * 32) ||| (reg &&& 0x1f))) fun _ =>
        HoldsAt view localMac bank phase pre := by
    refine transfer_phase_triple follows preStable fun c _ => ?_
    rw [transfer_opcode c small reg, instructs]
  have operand : Triple (HoldsAt view localMac bank phase pre) (enc28j60ArchSpiWrite bus data)
      fun _ => HoldsAt view localMac bank .idle post :=
    transfer_triple follows (fun _ => postStable) effect
  exact Triple.bind (select_triple follows preStable) fun _ => Triple.bind opcode fun _ =>
    Triple.bind operand fun _ => deselect_triple follows postStable

theorem writereg_triple (follows : Follows bus view) {post : Controller → Prop} {data : UInt8}
    (preStable : Stable Event pre) (postStable : Stable Event post)
    (effect : ∀ c, pre c → post (c.writeControl (reg.toNat % 32) data)) :
    Triple (Holds view localMac bank pre) (writereg bus reg data)
      fun _ => Holds view localMac bank post :=
  operand_triple follows (show 2 < 8 by decide) (fun _ => rfl) preStable postStable
    fun c holds => ⟨rfl, effect c holds⟩

/-- Bits are set in one instruction where the chip can do that. -/
theorem setregbitfield_triple (follows : Follows bus view) {post : Controller → Prop}
    {mask : UInt8} (outside : macMiiAt bank reg = false) (preStable : Stable Event pre)
    (postStable : Stable Event post)
    (effect : ∀ c, pre c → post (c.setBits (reg.toNat % 32) mask)) :
    Triple (Holds view localMac bank pre) (setregbitfield bus reg mask)
      fun _ => Holds view localMac bank post := by
  refine Triple.bind (isMacMiiReg_triple reg fun enc holds => holds.bank) fun mac =>
    Triple.fact fun isMac => Triple.ite (fun yes => ?_) fun no => ?_
  · rw [isMac, outside] at yes
    cases yes
  · exact operand_triple follows (show 4 < 8 by decide) (fun _ => rfl) preStable postStable
      fun c holds => ⟨rfl, effect c holds⟩

theorem clearregbitfield_triple (follows : Follows bus view) {post : Controller → Prop}
    {mask : UInt8} (outside : macMiiAt bank reg = false) (preStable : Stable Event pre)
    (postStable : Stable Event post)
    (effect : ∀ c, pre c → post (c.clearBits (reg.toNat % 32) mask)) :
    Triple (Holds view localMac bank pre) (clearregbitfield bus reg mask)
      fun _ => Holds view localMac bank post := by
  refine Triple.bind (isMacMiiReg_triple reg fun enc holds => holds.bank) fun mac =>
    Triple.fact fun isMac => Triple.ite (fun yes => ?_) fun no => ?_
  · rw [isMac, outside] at yes
    cases yes
  · exact operand_triple follows (show 5 < 8 by decide) (fun _ => rfl) preStable postStable
      fun c holds => ⟨rfl, effect c holds⟩

/-- And by reading and writing where it cannot. -/
theorem setregbitfield_mac_triple (follows : Follows bus view) {post : Controller → Prop}
    {mask : UInt8} (value : UInt8) (inside : macMiiAt bank reg = true) (preStable : Stable Event pre)
    (postStable : Stable Event post)
    (agrees : ∀ c, pre c → Controller.isMac c.bank (reg.toNat % 32) = macMiiAt bank reg)
    (reads : ∀ c, pre c → c.readControl (reg.toNat % 32) = value)
    (effect : ∀ c, pre c → post (c.writeControl (reg.toNat % 32) (value ||| mask))) :
    Triple (Holds view localMac bank pre) (setregbitfield bus reg mask)
      fun _ => Holds view localMac bank post := by
  refine Triple.bind (isMacMiiReg_triple reg fun enc holds => holds.bank) fun mac =>
    Triple.fact fun isMac => Triple.ite (fun _ => ?_) fun no => ?_
  · have reading := @readreg_triple χ bus view bank localMac pre reg
      (fun reply c => reply = value ∧ pre c) follows preStable
      (fun reply => (Stable.const _).and preStable) agrees fun c holds => ⟨reads c holds, holds⟩
    refine Triple.bind reading fun reply => ?_
    exact writereg_triple follows ((Stable.const _).and preStable) postStable
      fun c holds => by rw [holds.1]; exact effect c holds.2
  · rw [isMac, inside] at no
    exact absurd rfl no

end Registers

/-! ### Buffer memory -/

theorem store_take_succ (memory : Memory) (address : Nat) {bytes : List UInt8} {index : Nat}
    (inside : index < bytes.length) :
    Function.update (store memory address (bytes.take index)) (address + index) bytes[index] =
      store memory address (bytes.take (index + 1)) := by
  have length : (bytes.take index).length = index := List.length_take_of_le (by omega)
  rw [← List.take_concat_get' bytes index inside, store_append, length, store_byte]

/-- Bytes read out of the buffer memory are stored one behind the other. -/
theorem readdata_triple (follows : Follows bus view) {cursor : Nat → Controller → Prop}
    (stable : ∀ index, Stable Event (cursor index)) {bytes : List UInt8} {len : Int16}
    (length : len.toNatClampNeg = bytes.length)
    (effect : ∀ index, ∀ inside : index < bytes.length, ∀ c, cursor index c →
      c.readBuffer.1 = bytes[index] ∧ cursor (index + 1) c.readBuffer.2)
    (buf : Nat) (memory : Memory) :
    Triple (Holds view localMac bank (cursor 0)) (readdata bus buf len memory)
      fun after enc => after = store memory buf bytes ∧
        Holds view localMac bank (cursor bytes.length) enc := by
  have opcode : Triple (HoldsAt view localMac bank .opcode (cursor 0))
      (enc28j60ArchSpiWrite bus 0x3a) fun _ =>
        HoldsAt view localMac bank .readBuffer (cursor 0) :=
    transfer_phase_triple follows (stable 0) fun _ _ => rfl
  unfold readdata
  rw [length]
  refine Triple.bind (select_triple follows (stable 0)) fun _ => Triple.bind opcode fun _ => ?_
  let invariant : Nat → Memory → ENC28J60 χ → Prop := fun index after enc =>
    after = store memory buf (bytes.take index) ∧
      HoldsAt view localMac bank .readBuffer (cursor index) enc
  have passes : ∀ index < bytes.length, ∀ after, Triple (invariant index after) (do
      let r ← enc28j60ArchSpiRead bus
      return Function.update after (buf + index) r) (invariant (index + 1)) := by
    intro index inside after
    have byte : Triple (HoldsAt view localMac bank .readBuffer (cursor index))
        (enc28j60ArchSpiRead bus) fun r => HoldsAt view localMac bank .readBuffer fun c =>
          r = bytes[index] ∧ cursor (index + 1) c :=
      transfer_triple follows (fun _ => (Stable.const _).and (stable _))
        fun c holds => ⟨rfl, effect index inside c holds⟩
    refine Triple.fact fun stored => Triple.bind byte ?_
    rintro r enc ⟨⟨sameBank, sameMac, ⟨rfl, reading⟩⟩, phase⟩
    refine ⟨?_, ⟨sameBank, sameMac, reading⟩, phase⟩
    rw [stored]
    exact store_take_succ memory buf inside
  have loop := @Triple.times _ _ invariant _ bytes.length passes bytes.length 0
    (Nat.zero_add _) memory
  have start : ∀ enc, HoldsAt view localMac bank .readBuffer (cursor 0) enc →
      invariant 0 memory enc := by
    intro enc holds
    refine ⟨?_, holds⟩
    rw [List.take_zero, store_nil]
  refine Triple.bind (loop.weaken start fun _ _ holds => holds) fun after => ?_
  refine Triple.fact fun stored => Triple.bind (deselect_triple follows (stable _)) fun _ => ?_
  intro enc holds
  refine ⟨?_, holds⟩
  change after = _
  rw [stored, List.take_length]

theorem readdatabyte_triple (follows : Follows bus view) {post : UInt8 → Controller → Prop}
    (preStable : Stable Event pre) (postStable : ∀ value, Stable Event (post value))
    (effect : ∀ c, pre c → post c.readBuffer.1 c.readBuffer.2) :
    Triple (Holds view localMac bank pre) (readdatabyte bus)
      fun value => Holds view localMac bank (post value) := by
  have opcode : Triple (HoldsAt view localMac bank .opcode pre) (enc28j60ArchSpiWrite bus 0x3a)
      fun _ => HoldsAt view localMac bank .readBuffer pre :=
    transfer_phase_triple follows preStable fun _ _ => rfl
  have byte : Triple (HoldsAt view localMac bank .readBuffer pre) (enc28j60ArchSpiRead bus)
      fun value => HoldsAt view localMac bank .readBuffer (post value) :=
    transfer_triple follows postStable fun c holds => ⟨rfl, effect c holds⟩
  have stored : Triple (HoldsAt view localMac bank .readBuffer pre)
      (Interference.times (fun i (memory : Memory) => do
        let r ← enc28j60ArchSpiRead bus
        return Function.update memory (0 + i) r) 1 0 fun _ => 0) fun memory =>
          HoldsAt view localMac bank .readBuffer (post (memory 0)) :=
    Triple.bind (Triple.bind byte fun _ _ holds => holds) fun _ _ holds => holds
  have reading : Triple (Holds view localMac bank pre) (readdata bus 0 1 fun _ => 0)
      fun memory => Holds view localMac bank (post (memory 0)) :=
    Triple.bind (select_triple follows preStable) fun _ => Triple.bind opcode fun _ =>
      Triple.bind stored fun memory =>
        Triple.bind (deselect_triple follows (postStable (memory 0))) fun _ _ holds => holds
  exact Triple.bind reading fun _ _ holds => holds

theorem writedata_triple (follows : Follows bus view) {cursor : Nat → Controller → Prop}
    (stable : ∀ index, Stable Event (cursor index)) {datalen : Int16} {count : Nat}
    (length : datalen.toNatClampNeg = count) {memory : Memory} {data : Nat}
    (effect : ∀ index < count, ∀ c, cursor index c →
      cursor (index + 1) (c.writeBuffer (memory (data + index)))) :
    Triple (Holds view localMac bank (cursor 0)) (writedata bus memory data datalen)
      fun _ => Holds view localMac bank (cursor count) := by
  have opcode : Triple (HoldsAt view localMac bank .opcode (cursor 0))
      (enc28j60ArchSpiWrite bus 0x7a) fun _ =>
        HoldsAt view localMac bank .writeBuffer (cursor 0) :=
    transfer_phase_triple follows (stable 0) fun _ _ => rfl
  unfold writedata
  rw [length]
  refine Triple.bind (select_triple follows (stable 0)) fun _ => Triple.bind opcode fun _ => ?_
  have passes : ∀ index < count, ∀ value : Unit,
      Triple (HoldsAt view localMac bank .writeBuffer (cursor index)) (do
        let _ ← enc28j60ArchSpiWrite bus (memory (data + index))
        return ()) fun _ => HoldsAt view localMac bank .writeBuffer (cursor (index + 1)) := by
    intro index inside _
    have byte : Triple (HoldsAt view localMac bank .writeBuffer (cursor index))
        (enc28j60ArchSpiWrite bus (memory (data + index))) fun _ =>
          HoldsAt view localMac bank .writeBuffer (cursor (index + 1)) :=
      transfer_triple follows (fun _ => stable _) fun c holds => ⟨rfl, effect index inside c holds⟩
    exact Triple.bind byte fun _ _ holds => holds
  have loop := @Triple.times (ENC28J60 χ) Unit
    (fun index _ => HoldsAt view localMac bank .writeBuffer (cursor index)) _ count passes count 0
    (Nat.zero_add _) ()
  exact Triple.bind loop fun _ => deselect_triple follows (stable _)

theorem writedatabyte_triple (follows : Follows bus view) {post : Controller → Prop}
    {byte : UInt8} (preStable : Stable Event pre) (postStable : Stable Event post)
    (effect : ∀ c, pre c → post (c.writeBuffer byte)) :
    Triple (Holds view localMac bank pre) (writedatabyte bus byte)
      fun _ => Holds view localMac bank post := by
  have writing := @writedata_triple χ bus view bank localMac follows
    (fun index => if index = 0 then pre else post)
    (fun index => by
      by_cases first : index = 0
      · rw [if_pos first]
        exact preStable
      · rw [if_neg first]
        exact postStable)
    1 1 rfl (fun _ => byte) 0 (by
      intro index inside c holds
      obtain rfl : index = 0 := by omega
      exact effect c holds)
  exact writing

end ENC28J60

end EtherSiaStack
