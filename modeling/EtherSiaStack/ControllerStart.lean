/-
The ENC28J60 from its reset on.

Until reception is turned on nothing but the oscillator does anything by itself, so the
registers are what the driver has written.  From then on the driver is attached to a link
on which nothing has been taken or sent, in a bank that is not the one it remembers.
-/

import EtherSiaStack.ControllerBench
import EtherSiaStack.ControllerLink

namespace EtherSiaStack

open ByteMemory Interference FrameLink

namespace ENC28J60

open Controller (Event)

variable {χ : Type} {bus : SpiBus χ} {view : χ → Port} {bank : UInt8} {localMac : MACAddress}

/-! ### A controller that does nothing by itself -/

structure Quiet (c : Controller) : Prop where
  clock : c.estat = ESTAT_CLKRDY
  receiving : c.econ1 &&& ECON1_RXEN = 0
  sending : c.econ1 &&& ECON1_TXRTS = 0

theorem Quiet.stable {c : Controller} (quiet : Quiet c) : Stable Event fun other => other = c := by
  refine Stable.quiet fun after event => ?_
  cases event with
  | clockReady waiting =>
      rw [quiet.clock] at waiting
      exact absurd waiting (by decide)
  | packet receiving _ _ => exact receiving quiet.receiving
  | corruption receiving _ => exact receiving quiet.receiving
  | transmitted requested _ => exact requested quiet.sending

section Writes

variable {c next : Controller}

theorem quiet_writereg_triple (quiet : Quiet c) (follows : Follows bus view)
    {reg data : UInt8} (after : Quiet next) (writes : c.writeControl (reg.toNat % 32) data = next) :
    Triple (Holds view localMac bank fun other => other = c) (writereg bus reg data) fun _ =>
      Holds view localMac bank fun other => other = next :=
  writereg_triple follows quiet.stable after.stable fun _ same => by rw [same, writes]

theorem quiet_setregbank_triple (quiet : Quiet c) (follows : Follows bus view)
    {newBank : UInt8} (after : Quiet next)
    (writes : c.writeControl 0x1f ((c.econ1 &&& 0xfc) ||| (newBank &&& 0x03)) = next) :
    Triple (Holds view localMac bank fun other => other = c) (setregbank bus newBank) fun _ =>
      Holds view localMac newBank fun other => other = next := by
  have reads := @readreg_triple χ bus view bank localMac _ ECON1
    (fun reply other => reply = c.econ1 ∧ other = c) follows quiet.stable
    (fun _ => (Stable.const _).and quiet.stable)
    (fun other _ => by
      rw [macMiiAt_common bank (by decide)]
      exact isMac_common _ (by decide))
    fun other same => by
      rw [same]
      exact ⟨rfl, rfl⟩
  refine Triple.bind reads fun reply => ?_
  refine Triple.bind (writereg_triple follows ((Stable.const _).and quiet.stable) after.stable
    fun other known => ?_) fun _ enc holds => ⟨rfl, holds.localMac, holds.chip⟩
  rw [known.1, known.2, ← writes]
  rfl

end Writes

/-! ### The reset -/

/-- After the reset instruction, with the oscillator running or not yet. -/
def AfterReset (c : Controller) : Prop :=
  ∃ before : Controller, ∃ estat, (estat = 0 ∨ estat = ESTAT_CLKRDY) ∧
    c = { before.reset with estat := estat }

theorem AfterReset.stable : Stable Event AfterReset := by
  rintro before after ⟨c, estat, clock, rfl⟩ event
  cases event with
  | clockReady _ =>
      have running : estat ||| ESTAT_CLKRDY = ESTAT_CLKRDY := by
        rcases clock with rfl | rfl <;> rfl
      refine ⟨c, ESTAT_CLKRDY, .inr rfl, ?_⟩
      change { c.reset with estat := estat ||| ESTAT_CLKRDY } = _
      rw [running]
  | packet receiving _ _ => exact (receiving UInt8.zero_and).elim
  | corruption receiving _ => exact (receiving UInt8.zero_and).elim
  | transmitted requested _ => exact (requested UInt8.zero_and).elim

/-- Whatever was being done with the chip, it is reset. -/
theorem resetChip_resets (follows : Follows bus view) (enc : ENC28J60 χ) :
    Holds view enc.localMac ERXTX_BANK AfterReset ((resetChip bus).run enc).2 := by
  let deselected := bus.deselect enc.chip
  let selected := bus.select deselected
  let told := (bus.transfer 0xff selected).2
  let ended := bus.deselect told
  have opcode : (view selected).phase = .opcode := (follows.select deselected).1
  have port : view selected = ⟨.opcode, (view selected).controller⟩ := by rw [← opcode]
  have effect : ((view selected).transfer 0xff).2 =
      ⟨.idle, (view selected).controller.reset⟩ := by
    rw [port]
    rfl
  obtain ⟨-, -, first⟩ := follows.transfer 0xff selected
  rw [effect] at first
  have reset : AfterReset (view selected).controller.reset :=
    ⟨(view selected).controller, 0, .inl rfl, rfl⟩
  have second := (follows.deselect told).2
  have third := (follows.delay 1000 ended).2
  exact
    { bank := rfl
      localMac := rfl
      chip := AfterReset.stable.elapses third
        (AfterReset.stable.elapses second (AfterReset.stable.elapses first reset)) }

/-- The controller as it is when the driver starts to set it up. -/
def Controller.ready (before : Controller) : Controller :=
  { before.reset with estat := ESTAT_CLKRDY }

theorem Controller.ready_quiet (before : Controller) : Quiet before.ready :=
  ⟨rfl, UInt8.zero_and, UInt8.zero_and⟩

/-- Behind the loop the oscillator is running. -/
theorem clockReadyPass_keeps (follows : Follows bus view) {enc : ENC28J60 χ}
    (holds : Holds view localMac ERXTX_BANK AfterReset enc) :
    (∀ next, clockReadyPass bus enc = .inl next →
      Holds view localMac ERXTX_BANK AfterReset next) ∧
    ∀ last, clockReadyPass bus enc = .inr last → ∃ before : Controller,
      Holds view localMac ERXTX_BANK (fun c => c = before.ready) last := by
  have polls := @readreg_triple χ bus view ERXTX_BANK localMac _ ESTAT
    (fun reply c => if reply &&& ESTAT_CLKRDY = 0 then AfterReset c
      else ∃ before : Controller, c = before.ready)
    follows AfterReset.stable (fun reply => by
      by_cases waiting : reply &&& ESTAT_CLKRDY = 0
      · simp only [if_pos waiting]
        exact AfterReset.stable
      · simp only [if_neg waiting]
        exact Stable.exists fun before => before.ready_quiet.stable)
    (fun c _ => by
      rw [macMiiAt_common ERXTX_BANK (by decide)]
      exact isMac_common _ (by decide))
    (by
      rintro c ⟨before, estat, clock, rfl⟩
      change if estat &&& ESTAT_CLKRDY = 0 then _ else _
      rcases clock with rfl | rfl
      · rw [if_pos (by decide)]
        exact ⟨before, 0, .inl rfl, rfl⟩
      · rw [if_neg (by decide)]
        exact ⟨before, rfl⟩)
  have polled := polls enc holds
  unfold clockReadyPass
  rcases answer : (readreg bus ESTAT).run enc with ⟨estat, after⟩
  rw [answer] at polled
  dsimp only at polled ⊢
  by_cases waiting : estat &&& ESTAT_CLKRDY = 0
  · simp only [if_pos waiting] at polled ⊢
    refine ⟨?_, fun _ impossible => (nomatch impossible)⟩
    rintro next ⟨⟩
    exact polled
  · simp only [if_neg waiting] at polled ⊢
    refine ⟨fun _ impossible => (nomatch impossible), ?_⟩
    rintro last ⟨⟩
    obtain ⟨before, ready⟩ := polled.chip
    exact ⟨before, polled.bank, polled.localMac, ready⟩

/-! ### Setting up -/

/-- The registers of the controller's MAC are set up. -/
structure Programmed (localMac : MACAddress) (others : Nat × Nat → UInt8) : Prop where
  filters : others (1, 0x18) = 0xa2
  reception : others (2, 0x00) = 0x0d
  frames : others (2, 0x02) = 0xf3
  backToBack : others (2, 0x04) = 0x15
  gap : others (2, 0x06) = 0x12
  lengthLow : others (2, 0x0a) = 0xee
  lengthHigh : others (2, 0x0b) = 0x05
  address1 : others (3, 0x04) = localMac.octet 0
  address2 : others (3, 0x05) = localMac.octet 1
  address3 : others (3, 0x02) = localMac.octet 2
  address4 : others (3, 0x03) = localMac.octet 3
  address5 : others (3, 0x00) = localMac.octet 4
  address6 : others (3, 0x01) = localMac.octet 5

theorem Programmed.stable (localMac : MACAddress) :
    Stable Event fun c => Programmed localMac c.others := by
  intro before after programmed event
  cases event with
  | packet _ _ receives =>
      rw [receives.rest]
      exact programmed
  | _ => exact programmed

/-- Nothing has been read from the empty ring, and reception is on. -/
def Started (localMac : MACAddress) (c : Controller) : Prop :=
  Between 0 0 [] [] 0 ECON1_RXEN [] (fun _ => True) c ∧ Programmed localMac c.others

/-- The controller while the ring is being set up. -/
def Controller.ringed (before : Controller) (erdpt erxst erxnd : Nat) (erxrdptLow : UInt8)
    (erxrdpt erxwrpt : Nat) : Controller :=
  { before.ready with
    erdpt := erdpt
    erxst := erxst
    erxnd := erxnd
    erxrdptLow := erxrdptLow
    erxrdpt := erxrdpt
    erxwrpt := erxwrpt }

/-- And while the other banks are. -/
def Controller.banked (before : Controller) (econ1 : UInt8) (others : Nat × Nat → UInt8) :
    Controller :=
  { before.ringed 0 0 0xfff 0xff 0xfff 0 with econ1 := econ1, others := others }

section Parts

variable {before : Controller} {others : Nat × Nat → UInt8}

theorem Controller.ringed_quiet (before : Controller) (erdpt erxst erxnd : Nat)
    (erxrdptLow : UInt8) (erxrdpt erxwrpt : Nat) :
    Quiet (before.ringed erdpt erxst erxnd erxrdptLow erxrdpt erxwrpt) :=
  ⟨rfl, UInt8.zero_and, UInt8.zero_and⟩

/-- The three banks behind the first. -/
def Behind (econ1 : UInt8) : Prop :=
  econ1 = 1 ∨ econ1 = 2 ∨ econ1 = 3

theorem Controller.banked_quiet {econ1 : UInt8} (behind : Behind econ1) :
    Quiet (before.banked econ1 others) := by
  have resting : econ1 &&& ECON1_RXEN = 0 ∧ econ1 &&& ECON1_TXRTS = 0 := by
    rcases behind with rfl | rfl | rfl <;> decide
  exact ⟨rfl, resting.1, resting.2⟩

theorem banked_setregbank_triple (follows : Follows bus view) {newBank : UInt8}
    (behind : Behind bank) (newBehind : Behind newBank) :
    Triple (Holds view localMac bank fun c => c = before.banked bank others)
      (setregbank bus newBank)
      fun _ => Holds view localMac newBank fun c => c = before.banked newBank others := by
  refine quiet_setregbank_triple (Controller.banked_quiet behind) follows
    (Controller.banked_quiet newBehind) ?_
  have chosen : (bank &&& 0xfc) ||| (newBank &&& 0x03) = newBank := by
    rcases behind with rfl | rfl | rfl <;> rcases newBehind with rfl | rfl | rfl <;> rfl
  change before.banked ((bank &&& 0xfc) ||| (newBank &&& 0x03)) others = _
  rw [chosen]

theorem banked_write (econ1 : UInt8) (behind : Behind econ1) {address : Nat} (data : UInt8)
    (banked : address < 0x1b) (other : ¬(econ1 = 1 ∧ address = 0x19)) :
    (before.banked econ1 others).writeControl address data =
      before.banked econ1 (Function.update others (econ1.toNat, address) data) := by
  unfold Controller.writeControl
  rw [if_neg (by omega), if_neg (by omega), if_neg (by omega), if_neg (by omega),
    if_neg (by omega)]
  rcases behind with rfl | rfl | rfl <;> rfl

theorem banked_writereg_triple (follows : Follows bus view) (behind : Behind bank)
    {reg data : UInt8} (banked : reg.toNat % 32 < 0x1b)
    (other : ¬(bank = 1 ∧ reg.toNat % 32 = 0x19)) :
    Triple (Holds view localMac bank fun c => c = before.banked bank others)
      (writereg bus reg data) fun _ => Holds view localMac bank fun c =>
        c = before.banked bank (Function.update others (bank.toNat, reg.toNat % 32) data) :=
  quiet_writereg_triple (Controller.banked_quiet behind) follows (Controller.banked_quiet behind)
    (banked_write bank behind data banked other)

/-- Reception is turned on with an empty ring. -/
theorem started_of_banked (programmed : Programmed localMac others) :
    Started localMac ((before.banked 3 others).writeControl (ECON1.toNat % 32) ECON1_RXEN) := by
  refine ⟨⟨⟨[], ?_⟩, rfl, rfl, trivial⟩, programmed⟩
  exact
    { start := rfl
      stop := rfl
      increments := rfl
      inside := by decide
      even := rfl
      arrived := rfl
      releases := rfl
      behind := Nat.le_refl 0
      counted := Nat.zero_le _
      linked := trivial
      fits := Nat.zero_le _
      written := rfl
      limit := rfl
      cursor := rfl }

theorem banked_increments : (before.banked 3 others).setBits (ECON2.toNat % 32) ECON2_AUTOINC =
    before.banked 3 others := by
  have already : (ECON2_AUTOINC ||| ECON2_AUTOINC) &&& ~~~ECON2_PKTDEC = ECON2_AUTOINC := by
    decide
  have uncounted : (ECON2_AUTOINC ||| ECON2_AUTOINC) &&& ECON2_PKTDEC = 0 := by decide
  change { before.banked 3 others with
    econ2 := (ECON2_AUTOINC ||| ECON2_AUTOINC) &&& ~~~ECON2_PKTDEC
    released := if (ECON2_AUTOINC ||| ECON2_AUTOINC) &&& ECON2_PKTDEC = 0 then 0 else 0 + 1 } = _
  rw [already, if_pos uncounted]
  rfl

theorem readControl_banked (c : Controller) {address : Nat} (banked : address < 0x1b) :
    c.readControl address = c.readBanked c.bank address := by
  unfold Controller.readControl
  rw [if_neg (by omega), if_neg (by omega), if_neg (by omega), if_neg (by omega),
    if_neg (by omega)]

theorem banked_setregbitfield_triple (follows : Follows bus view) {reg mask : UInt8}
    (inside : macMiiAt MACONX_BANK reg = true) (banked : reg.toNat % 32 < 0x1b) :
    Triple (Holds view localMac MACONX_BANK fun c => c = before.banked 2 others)
      (setregbitfield bus reg mask) fun _ => Holds view localMac MACONX_BANK fun c =>
        c = before.banked 2 (Function.update others (2, reg.toNat % 32)
          (others (2, reg.toNat % 32) ||| mask)) := by
  have behind : Behind 2 := .inr (.inl rfl)
  refine setregbitfield_mac_triple follows (others (2, reg.toNat % 32)) inside
    (Controller.banked_quiet behind).stable (Controller.banked_quiet behind).stable
    (fun c same => ?_) (fun c same => ?_) fun c same => ?_
  · rw [same, inside]
    exact decide_eq_true (.inl ⟨rfl, banked⟩)
  · rw [same, readControl_banked _ banked]
    rfl
  · rw [same]
    exact banked_write 2 behind _ banked fun both => absurd both.1 (by decide)

end Parts

theorem econ1_write (c : Controller) {econ1 value : UInt8} (chosen : econ1 = value) :
    c.writeControl 0x1f econ1 = { c with econ1 := value } := by
  rw [← chosen]
  rfl

theorem configureRing_triple (follows : Follows bus view) (before : Controller) :
    Triple (Holds view localMac ERXTX_BANK fun c => c = before.ready) (configureRing bus)
      fun _ => Holds view localMac ERXTX_BANK
        fun c => c = before.ringed 0 0 0xfff 0xff 0xfff 0 := by
  have ring {erdpt erxst erxnd : Nat} {erxrdptLow : UInt8} {erxrdpt erxwrpt : Nat}
      {c : Controller} (quiet : Quiet c) {reg data : UInt8}
      (writes : c.writeControl (reg.toNat % 32) data =
        before.ringed erdpt erxst erxnd erxrdptLow erxrdpt erxwrpt) :=
    @quiet_writereg_triple χ bus view ERXTX_BANK localMac c _ quiet follows reg data
      (before.ringed_quiet erdpt erxst erxnd erxrdptLow erxrdpt erxwrpt) writes
  have quiet := before.ringed_quiet
  -- of each pointer the low byte is written first, and the rest of it with the high byte
  refine Triple.bind (quiet_setregbank_triple before.ready_quiet follows before.ready_quiet
    (econ1_write before.ready (show (0 &&& 0xfc) ||| (ERXTX_BANK &&& 0x03) = 0 by decide)))
      fun _ => ?_
  refine Triple.bind (ring before.ready_quiet
    (congrArg (fun erxst => before.ringed 0x5fa erxst 0x1fff 0xfa 0x5fa erxst)
      (show Controller.withLow 0x5fa (RX_BUF_START &&& 0xff).toUInt8 = 0x500 by decide)))
      fun _ => ?_
  refine Triple.bind (ring (quiet _ _ _ _ _ _)
    (congrArg (fun erxst => before.ringed 0x5fa erxst 0x1fff 0xfa 0x5fa erxst)
      (show Controller.withHigh 0x500 (RX_BUF_START >>> 8).toUInt8 = 0 by decide)))
      fun _ => ?_
  refine Triple.bind (ring (quiet _ _ _ _ _ _)
    (congrArg (fun erxnd => before.ringed 0x5fa 0 erxnd 0xfa 0x5fa 0)
      (show Controller.withLow 0x1fff (RX_BUF_END &&& 0xff).toUInt8 = 0x1fff by decide)))
      fun _ => ?_
  refine Triple.bind (ring (quiet _ _ _ _ _ _)
    (congrArg (fun erxnd => before.ringed 0x5fa 0 erxnd 0xfa 0x5fa 0)
      (show Controller.withHigh 0x1fff (RX_BUF_END >>> 8).toUInt8 = 0xfff by decide)))
      fun _ => ?_
  refine Triple.bind (ring (quiet _ _ _ _ _ _)
    (congrArg (fun erdpt => before.ringed erdpt 0 0xfff 0xfa 0x5fa 0)
      (show Controller.withLow 0x5fa (RX_BUF_START &&& 0xff).toUInt8 = 0x500 by decide)))
      fun _ => ?_
  refine Triple.bind (ring (quiet _ _ _ _ _ _)
    (congrArg (fun erdpt => before.ringed erdpt 0 0xfff 0xfa 0x5fa 0)
      (show Controller.withHigh 0x500 (RX_BUF_START >>> 8).toUInt8 = 0 by decide)))
      fun _ => ?_
  refine Triple.bind (ring (quiet _ _ _ _ _ _)
    (congrArg (fun erxrdptLow => before.ringed 0 0 0xfff erxrdptLow 0x5fa 0)
      (show (RX_BUF_END &&& 0xff).toUInt8 = 0xff by decide)))
      fun _ => ?_
  exact ring (quiet _ _ _ _ _ _)
    (congrArg (fun erxrdpt => before.ringed 0 0 0xfff 0xff erxrdpt 0)
      (show Controller.withHigh 0xff (RX_BUF_END >>> 8).toUInt8 = 0xfff by decide))

theorem configureMac_triple (follows : Follows bus view) (before : Controller) :
    Triple (Holds view localMac ERXTX_BANK fun c => c = before.ringed 0 0 0xfff 0xff 0xfff 0)
      (configureMac bus) fun _ => Holds view localMac MAADRX_BANK
        fun c => ∃ others, Programmed localMac others ∧ c = before.banked 3 others := by
  have first : Behind 1 := .inl rfl
  have second : Behind 2 := .inr (.inl rfl)
  have third : Behind 3 := .inr (.inr rfl)
  refine Triple.bind (quiet_setregbank_triple (before.ringed_quiet _ _ _ _ _ _) follows
    (Controller.banked_quiet first) (econ1_write _
      (show (0 &&& 0xfc) ||| (EPKTCNT_BANK &&& 0x03) = 1 by decide))) fun _ => ?_
  refine Triple.bind (banked_writereg_triple follows first (by decide) (by decide)) fun _ => ?_
  refine Triple.bind (banked_setregbank_triple follows first second) fun _ => ?_
  refine Triple.bind (banked_setregbitfield_triple follows rfl (by decide)) fun _ => ?_
  refine Triple.bind (banked_setregbitfield_triple follows rfl (by decide)) fun _ => ?_
  refine Triple.bind (banked_writereg_triple follows second (by decide) (by decide)) fun _ => ?_
  refine Triple.bind (banked_writereg_triple follows second (by decide) (by decide)) fun _ => ?_
  refine Triple.bind (banked_writereg_triple follows second (by decide) (by decide)) fun _ => ?_
  refine Triple.bind (banked_writereg_triple follows second (by decide) (by decide)) fun _ => ?_
  refine Triple.bind (banked_setregbank_triple follows second third) fun _ => ?_
  refine Triple.bind Triple.get fun current => Triple.known
    (fun enc holds => (congrArg ENC28J60.localMac holds.1).trans holds.2.localMac) fun sameMac => ?_
  refine Triple.weaken ?_ (fun _ holds => holds.2) fun _ _ holds => holds
  dsimp only
  rw [sameMac]
  refine Triple.bind (banked_writereg_triple follows third (by decide) (by decide)) fun _ => ?_
  refine Triple.bind (banked_writereg_triple follows third (by decide) (by decide)) fun _ => ?_
  refine Triple.bind (banked_writereg_triple follows third (by decide) (by decide)) fun _ => ?_
  refine Triple.bind (banked_writereg_triple follows third (by decide) (by decide)) fun _ => ?_
  refine Triple.bind (banked_writereg_triple follows third (by decide) (by decide)) fun _ => ?_
  refine (banked_writereg_triple follows third (by decide) (by decide)).weaken
    (fun _ holds => holds) fun _ enc holds =>
      ⟨holds.bank, holds.localMac, _, ?_, holds.chip⟩
  have reception : (0 : UInt8) ||| (MACON1_MARXEN ||| MACON1_TXPAUS ||| MACON1_RXPAUS) = 0x0d := by
    decide
  have frames : (0 : UInt8) ||| (MACON3_PADCFG_FULL ||| MACON3_TXCRCEN ||| MACON3_FULDPX |||
      MACON3_FRMLNEN) = 0xf3 := by
    decide
  exact ⟨rfl, reception, frames, rfl, rfl, rfl, rfl, rfl, rfl, rfl, rfl, rfl, rfl⟩

/-- Auto-increment is on already, and with reception the controller starts to do things by
itself. -/
theorem configure_triple (follows : Follows bus view) (before : Controller) :
    Triple (Holds view localMac ERXTX_BANK fun c => c = before.ready) (configure bus) fun _ =>
      Holds view localMac MAADRX_BANK (Started localMac) := by
  have third : Behind 3 := .inr (.inr rfl)
  have quiet : Stable Event fun c => ∃ others, Programmed localMac others ∧
      c = before.banked 3 others :=
    Stable.exists fun others => (Stable.const _).and (Controller.banked_quiet third).stable
  have started : Stable Event (Started localMac) :=
    (Between.stable _ _ _ _ _ rfl _ _).and (Programmed.stable localMac)
  have increments : Triple (Holds view localMac MAADRX_BANK fun c =>
      ∃ others, Programmed localMac others ∧ c = before.banked 3 others)
      (setregbitfield bus ECON2 ECON2_AUTOINC) fun _ => Holds view localMac MAADRX_BANK fun c =>
        ∃ others, Programmed localMac others ∧ c = before.banked 3 others := by
    refine setregbitfield_triple follows (by decide) quiet quiet ?_
    rintro c ⟨others, programmed, rfl⟩
    exact ⟨others, programmed, banked_increments⟩
  have receives : Triple (Holds view localMac MAADRX_BANK fun c =>
      ∃ others, Programmed localMac others ∧ c = before.banked 3 others)
      (writereg bus ECON1 ECON1_RXEN) fun _ => Holds view localMac MAADRX_BANK
        (Started localMac) := by
    refine writereg_triple follows quiet started ?_
    rintro c ⟨others, programmed, rfl⟩
    exact started_of_banked programmed
  exact Triple.bind (configureRing_triple follows before) fun _ =>
    Triple.bind (configureMac_triple follows before) fun _ =>
    Triple.bind increments fun _ => receives

/-- Whatever the chip was doing: after a reset that returns, the driver is attached to a link
on which nothing has been taken or sent, and the MAC has its address. -/
theorem reset_attaches (follows : Follows bus view) {enc last : ENC28J60 χ} {fuel : Nat}
    (returned : reset bus fuel enc = some last) :
    ∃ pending, Attached view last ⟨[], pending, []⟩ ∧ last.localMac = enc.localMac ∧
      Programmed enc.localMac (view last.chip).controller.others := by
  obtain ⟨ready, ran, rfl⟩ := Option.map_eq_some_iff.mp returned
  obtain ⟨before, holds⟩ := FuelLoop.run_invariant
    (Holds view enc.localMac ERXTX_BANK AfterReset)
    (fun last => ∃ before : Controller,
      Holds view enc.localMac ERXTX_BANK (fun c => c = before.ready) last)
    (fun _ next inside => (clockReadyPass_keeps follows inside).1 next)
    (fun _ last inside => (clockReadyPass_keeps follows inside).2 last)
    (resetChip_resets follows enc) ran
  have started := configure_triple follows before ready holds
  obtain ⟨between, programmed⟩ := started.chip
  obtain ⟨rest, attached⟩ := @Between.attached χ view ((configure bus).run ready).2 0 [] [] []
    ECON1_RXEN _ (.inl rfl) between
  exact ⟨rest, attached, started.localMac, programmed⟩

theorem reset_attaches_bench :
    ∃ last, reset Bench.bus 1 Bench.supplied = some last ∧
      ∃ pending, Attached Bench.port last ⟨[], pending, []⟩ ∧
        last.localMac = Bench.supplied.localMac ∧
        Programmed Bench.supplied.localMac (Bench.port last.chip).controller.others := by
  obtain ⟨last, returned⟩ := Option.isSome_iff_exists.mp
    (show (reset Bench.bus 1 Bench.supplied).isSome = true from rfl)
  exact ⟨last, returned, reset_attaches Bench.follows returned⟩

end ENC28J60

end EtherSiaStack
