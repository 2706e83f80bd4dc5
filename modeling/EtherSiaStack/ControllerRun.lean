/-
Runs of the ENC28J60 driver from a reset on.

The loops of the driver wait for the chip, so that a call returns is a matter of a chip whose
oscillator starts and whose transmissions end.  One that does both at once is built at the
end.
-/

import EtherSiaStack.ControllerStart

namespace EtherSiaStack

open ByteMemory Interference FrameLink

namespace ENC28J60

open Controller (Event)

variable {χ : Type} {bus : SpiBus χ} {view : χ → Port} {bank : UInt8} {localMac : MACAddress}

/-! ### Calls return -/

/-- The chip once a register that is not behind a dummy byte has been read. -/
def polled (bus : SpiBus χ) (reg : UInt8) (chip : χ) : χ :=
  bus.deselect (bus.transfer 0 (bus.transfer (0x00 ||| (reg &&& 0x1f)) (bus.select chip)).2).2

/-- While it is being polled, the oscillator starts some time, and a transmission ends. -/
structure Punctual (bus : SpiBus χ) (view : χ → Port) : Prop where
  clock : ∃ remaining : χ → Nat, ∀ chip,
    (view (polled bus ESTAT chip)).controller.estat &&& ESTAT_CLKRDY = 0 →
      remaining (polled bus ESTAT chip) < remaining chip
  transmission : ∃ remaining : χ → Nat, ∀ chip,
    (view (polled bus ECON1 chip)).controller.econ1 &&& ECON1_TXRTS ≠ 0 →
      remaining (polled bus ECON1 chip) < remaining chip

theorem Bench.punctual : Punctual Bench.bus Bench.port where
  clock := by
    refine ⟨fun _ => 0, fun bench waiting => absurd waiting ?_⟩
    exact (Bench.settled _ _).1
  transmission := by
    refine ⟨fun _ => 0, fun bench sending => absurd ?_ sending⟩
    exact (Bench.settled _ _).2

theorem clockReadyPass_chip {enc next : ENC28J60 χ} (inBank : enc.bank = ERXTX_BANK)
    (goesOn : clockReadyPass bus enc = .inl next) : next.chip = polled bus ESTAT enc.chip := by
  obtain ⟨bank, mac, chip⟩ := enc
  change bank = ERXTX_BANK at inBank
  subst inBank
  have wait : ((readreg bus ESTAT).run ⟨ERXTX_BANK, mac, chip⟩).2.chip = polled bus ESTAT chip := rfl
  unfold clockReadyPass at goesOn
  rcases answer : (readreg bus ESTAT).run ⟨ERXTX_BANK, mac, chip⟩ with ⟨estat, after⟩
  rw [answer] at goesOn wait
  dsimp only at goesOn wait
  split_ifs at goesOn
  obtain rfl := Sum.inl.inj goesOn
  exact wait

theorem transmittingPass_chip {enc next : ENC28J60 χ} (inBank : enc.bank = ERXTX_BANK)
    (goesOn : transmittingPass bus enc = .inl next) : next.chip = polled bus ECON1 enc.chip := by
  obtain ⟨bank, mac, chip⟩ := enc
  change bank = ERXTX_BANK at inBank
  subst inBank
  have wait : ((readreg bus ECON1).run ⟨ERXTX_BANK, mac, chip⟩).2.chip = polled bus ECON1 chip := rfl
  unfold transmittingPass at goesOn
  rcases answer : (readreg bus ECON1).run ⟨ERXTX_BANK, mac, chip⟩ with ⟨econ1, after⟩
  rw [answer] at goesOn wait
  dsimp only at goesOn wait
  split_ifs at goesOn
  obtain rfl := Sum.inl.inj goesOn
  exact wait

/-- With the oscillator running, the loop is left. -/
theorem clockReadyPass_leaves (follows : Follows bus view) {before : Controller}
    {enc : ENC28J60 χ}
    (holds : Holds view localMac ERXTX_BANK (fun c => c = before.ready) enc) :
    ∃ last, clockReadyPass bus enc = .inr last := by
  have quiet := before.ready_quiet
  have reads := @readreg_triple χ bus view ERXTX_BANK localMac _ ESTAT
    (fun reply c => reply = ESTAT_CLKRDY ∧ c = before.ready) follows quiet.stable
    (fun _ => (Stable.const _).and quiet.stable)
    (fun c _ => by
      rw [macMiiAt_common ERXTX_BANK (by decide)]
      exact isMac_common _ (by decide))
    (fun c same => by
      rw [same]
      exact ⟨rfl, rfl⟩) enc holds
  have value := reads.chip.1
  unfold clockReadyPass
  rcases answer : (readreg bus ESTAT).run enc with ⟨estat, after⟩
  rw [answer] at value
  dsimp only at value ⊢
  rw [value, if_neg (by decide)]
  exact ⟨_, rfl⟩

theorem clockReady_returns (follows : Follows bus view) (punctual : Punctual bus view)
    {enc : ENC28J60 χ} (holds : Holds view localMac ERXTX_BANK AfterReset enc) :
    ∃ last, FuelLoop.Returns (clockReadyPass bus) enc last := by
  obtain ⟨remaining, ends⟩ := punctual.clock
  induction bound : remaining enc.chip using Nat.strong_induction_on generalizing enc with
  | _ bound ih =>
      cases pass : clockReadyPass bus enc with
      | inr last => exact ⟨last, 1, FuelLoop.run_leave pass 0⟩
      | inl next =>
          have stillHolds := (clockReadyPass_keeps follows holds).1 next pass
          have chip := clockReadyPass_chip holds.bank pass
          obtain ⟨last, returns⟩ : ∃ last, FuelLoop.Returns (clockReadyPass bus) next last := by
            obtain ⟨before, estat, clock, same⟩ := stillHolds.chip
            rcases clock with rfl | rfl
            · have waiting : (view (polled bus ESTAT enc.chip)).controller.estat &&&
                  ESTAT_CLKRDY = 0 := by
                rw [← chip, same]
                exact UInt8.zero_and
              have closer := ends enc.chip waiting
              rw [← chip, bound] at closer
              exact ih _ closer stillHolds rfl
            · obtain ⟨last, leaves⟩ := clockReadyPass_leaves follows
                ⟨stillHolds.bank, stillHolds.localMac, same⟩
              exact ⟨last, 1, FuelLoop.run_leave leaves 0⟩
          exact ⟨last, returns.head pass⟩

section Sending

variable {first released reading : Nat} {taken known sent : List (List UInt8)}

/-- With the transmission at its end, the loop is left. -/
theorem transmittingPass_leaves (follows : Follows bus view) {side : SendSide → Prop}
    {enc : ENC28J60 χ} (holds : Holds view localMac ERXTX_BANK
      (Between first released taken known reading ECON1_RXEN sent side) enc) :
    ∃ last, transmittingPass bus enc = .inr last := by
  have stable : Stable Event (Between first released taken known reading ECON1_RXEN sent side) :=
    Between.stable _ _ _ _ _ rfl _ _
  have reads := @readreg_triple χ bus view ERXTX_BANK localMac _ ECON1
    (fun reply c => reply = ECON1_RXEN ∧
      Between first released taken known reading ECON1_RXEN sent side c) follows stable
    (fun _ => (Stable.const _).and stable)
    (fun c _ => by
      rw [macMiiAt_common ERXTX_BANK (by decide)]
      exact isMac_common _ (by decide))
    (fun c between => ⟨between.econ1, between⟩) enc holds
  have value := reads.chip.1
  unfold transmittingPass
  rcases answer : (readreg bus ECON1).run enc with ⟨econ1, after⟩
  rw [answer] at value
  dsimp only at value ⊢
  rw [value, if_neg (by decide)]
  exact ⟨_, rfl⟩

theorem transmitting_returns (follows : Follows bus view) (punctual : Punctual bus view)
    {bytes : List UInt8} (filled : bytes ≠ []) (fits : bytes.length ≤ 3577) {enc : ENC28J60 χ}
    (holds : Holds view localMac ERXTX_BANK
      (Transmits first released taken known reading sent bytes) enc) :
    ∃ last, FuelLoop.Returns (transmittingPass bus) enc last := by
  obtain ⟨remaining, ends⟩ := punctual.transmission
  induction bound : remaining enc.chip using Nat.strong_induction_on generalizing enc with
  | _ bound ih =>
      cases pass : transmittingPass bus enc with
      | inr last => exact ⟨last, 1, FuelLoop.run_leave pass 0⟩
      | inl next =>
          have stillHolds := (transmittingPass_keeps follows filled fits holds).1 next pass
          have chip := transmittingPass_chip holds.bank pass
          obtain ⟨last, returns⟩ : ∃ last, FuelLoop.Returns (transmittingPass bus) next last := by
            rcases stillHolds.chip.progress with ⟨underWay, -⟩ | ⟨idle, isSent⟩
            · have busy : (view (polled bus ECON1 enc.chip)).controller.econ1 &&&
                  ECON1_TXRTS ≠ 0 := by
                rw [← chip, underWay]
                decide
              have closer := ends enc.chip busy
              rw [← chip, bound] at closer
              exact ih _ closer stillHolds rfl
            · obtain ⟨last, leaves⟩ := @transmittingPass_leaves χ bus view localMac first released
                reading taken known _ follows (fun _ => True) next
                ⟨stillHolds.bank, stillHolds.localMac, stillHolds.chip.receives, idle, isSent,
                  trivial⟩
              exact ⟨last, 1, FuelLoop.run_leave leaves 0⟩
          exact ⟨last, returns.head pass⟩

end Sending

theorem reset_returns (follows : Follows bus view) (punctual : Punctual bus view)
    (enc : ENC28J60 χ) : ∃ fuel last, reset bus fuel enc = some last := by
  obtain ⟨ready, fuel, ran⟩ := clockReady_returns follows punctual (resetChip_resets follows enc)
  exact ⟨fuel, _, Option.map_eq_some_iff.mpr ⟨ready, ran, rfl⟩⟩

theorem sendFrame_returns (follows : Follows bus view) (punctual : Punctual bus view)
    {enc : ENC28J60 χ} {link : Link (List UInt8)} (attached : Attached view enc link)
    (memory : Memory) (data : Nat) {datalen : UInt16} (room : datalen.toNat ≤ 3576) :
    ∃ next, Calls bus enc (.sendFrame memory data datalen datalen) next := by
  obtain ⟨-, first, econ1, chooses, between⟩ := attached
  have requested := requestTransmission_triple follows chooses memory data room enc
    ⟨rfl, rfl, between⟩
  have size : (packetOf (bytesAt memory data datalen.toNat)).length ≤ 3577 := by
    rw [packetOf, List.length_cons, bytesAt_length]
    omega
  obtain ⟨last, fuel, ran⟩ := transmitting_returns follows punctual (List.cons_ne_nil _ _) size
    requested
  exact ⟨last, .sendFrame room (Option.map_eq_some_iff.mpr ⟨last, ran, rfl⟩)⟩

/-! ### Runs from a reset on -/

theorem attached_of_run (follows : Follows bus view) {enc started last : ENC28J60 χ} {fuel : Nat}
    (wasReset : reset bus fuel enc = some started) {calls : List DriverCall}
    (run : Run (Calls bus) started calls last) :
    ∃ pending actions after, Attached view started ⟨[], pending, []⟩ ∧
      List.Forall₂ DriverCall.Explains calls actions ∧ Run Step ⟨[], pending, []⟩ actions after ∧
        Attached view last after := by
  obtain ⟨pending, attached, -⟩ := reset_attaches follows wasReset
  obtain ⟨actions, after, explained, linkRun, stillAttached⟩ :=
    (implements follows).run run attached
  exact ⟨pending, actions, after, attached, explained, linkRun, stillAttached⟩

/-- The ring at the end of a run: from the place that will be read next, which is behind the
read limit, to the one the chip will write to next are the packets that have not been taken,
each pointing to the next.  The read limit is odd, as erratum 14 requires. -/
theorem run_keeps_ring (follows : Follows bus view) {enc started last : ENC28J60 χ} {fuel : Nat}
    (wasReset : reset bus fuel enc = some started) {calls : List DriverCall}
    (run : Run (Calls bus) started calls last) :
    ∃ actions pending, List.Forall₂ DriverCall.Explains calls actions ∧
      let c := (view last.chip).controller
      c.arrived = received actions ++ pending ∧ Linked c.memory c.erdpt pending ∧
        c.erxwrpt = place c.erdpt (used pending) ∧ c.erxrdpt = place c.erdpt 4095 ∧
        used pending ≤ 4094 ∧ c.packetCount = pending.length ∧ c.erxrdpt % 2 = 1 := by
  obtain ⟨pending, actions, after, -, explained, linkRun, stillAttached⟩ :=
    attached_of_run follows wasReset run
  obtain ⟨taken, -, -⟩ := linkRun.conserves
  obtain ⟨arrived, first, econ1, -, ⟨rest, receiving⟩, -⟩ := stillAttached
  have cursor := receiving.cursor
  rw [place_zero receiving.inside] at cursor
  have length := congrArg List.length (receiving.arrived)
  refine ⟨actions, after.pending ++ rest, explained, ?_, ?_, ?_, ?_, receiving.fits, ?_,
    receiving.odd⟩
  · rw [receiving.arrived, taken]
    rfl
  · rw [cursor]
    exact receiving.linked
  · rw [cursor]
    exact receiving.written
  · rw [cursor]
    exact receiving.limit
  · unfold Controller.packetCount
    rw [length, receiving.releases, List.length_append, Nat.add_sub_cancel_left]

theorem run_keeps_ring_bench :
    ∃ started actions pending, reset Bench.bus 1 Bench.supplied = some started ∧
      List.Forall₂ DriverCall.Explains [.readFrame (fun _ => 0) 0 6
        ((readFrame Bench.bus 0 6 fun _ => 0).run started).1] actions ∧
      let c := (Bench.port ((readFrame Bench.bus 0 6 fun _ => 0).run started).2.chip).controller
      c.arrived = received actions ++ pending ∧ Linked c.memory c.erdpt pending ∧
        c.erxwrpt = place c.erdpt (used pending) ∧ c.erxrdpt = place c.erdpt 4095 ∧
        used pending ≤ 4094 ∧ c.packetCount = pending.length ∧ c.erxrdpt % 2 = 1 := by
  obtain ⟨started, wasReset⟩ := Option.isSome_iff_exists.mp
    (show (reset Bench.bus 1 Bench.supplied).isSome = true from rfl)
  exact ⟨started, (run_keeps_ring Bench.follows wasReset (.next .readFrame (.done _))).imp
    fun _ => Exists.imp fun _ kept => ⟨wasReset, kept⟩⟩

/-- On a chip that is punctual, a reset returns from any state, and so does a call that sends
a frame there is room for, after any calls. -/
theorem driver_returns (follows : Follows bus view) (punctual : Punctual bus view)
    (enc : ENC28J60 χ) :
    (∃ fuel started, reset bus fuel enc = some started) ∧
      ∀ fuel started calls last, reset bus fuel enc = some started →
        Run (Calls bus) started calls last → ∀ memory data datalen, datalen.toNat ≤ 3576 →
          ∃ next, Calls bus last (.sendFrame memory data datalen datalen) next := by
  refine ⟨reset_returns follows punctual enc, ?_⟩
  intro fuel started calls last wasReset run memory data datalen room
  obtain ⟨pending, actions, after, -, -, -, stillAttached⟩ := attached_of_run follows wasReset run
  exact sendFrame_returns follows punctual stillAttached memory data room

theorem driver_returns_bench :
    (∃ fuel started, reset Bench.bus fuel Bench.supplied = some started) ∧
      ∀ fuel started calls last, reset Bench.bus fuel Bench.supplied = some started →
        Run (Calls Bench.bus) started calls last → ∀ memory data datalen, datalen.toNat ≤ 3576 →
          ∃ next, Calls Bench.bus last (.sendFrame memory data datalen datalen) next :=
  driver_returns Bench.follows Bench.punctual Bench.supplied

end ENC28J60

end EtherSiaStack
