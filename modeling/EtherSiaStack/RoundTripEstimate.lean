/-
The round-trip estimate of a client.

The update is Van Jacobson's, with `_sa`, `_sv` and `_rto` in bytes and `m` in a signed
char.  Each update feeds the next, since a larger `_rto` admits a larger sample.  Samples
of up to 31 ticks keep every value in its type for ever; a chain of longer ones overflows,
and so does one acknowledgement behind a timer that has run below zero.
-/

import EtherSiaStack.ActiveOpen

namespace EtherSiaStack

open ByteMemory IPv6Packet Trace

/-! ### Bytes and signed bytes -/

theorem bmod_eq_self_iff (value : ℤ) :
    value.bmod 256 = value ↔ -128 ≤ value ∧ value ≤ 127 := by
  rw [Int.bmod_def]
  split <;> omega

theorem toInt8_toInt (byte : UInt8) : byte.toInt8.toInt = (byte.toNat : ℤ).bmod 256 :=
  BitVec.toInt_eq_toNat_bmod _

theorem toInt8_toInt_of_small {byte : UInt8} (small : byte.toNat < 128) :
    byte.toInt8.toInt = byte.toNat := by
  rw [toInt8_toInt, bmod_eq_self_iff]
  omega

theorem int8_bounds (value : Int8) : -128 ≤ value.toInt ∧ value.toInt ≤ 127 := by
  have lower := value.le_toInt
  have upper := value.toInt_lt
  omega

theorem byte_sub_toInt (left right : UInt8) :
    (left - right).toInt8.toInt = ((left.toNat : ℤ) - right.toNat).bmod 256 := by
  have leftBound := left.toNat_lt
  have rightBound := right.toNat_lt
  rw [toInt8_toInt, UInt8.toNat_sub]
  simp only [Int.bmod_def]
  omega

theorem byte_add_toNat (byte : UInt8) (change : Int8) :
    ((byte + change.toUInt8).toNat : ℤ) = (byte.toNat + change.toInt) % 256 := by
  have asByte : (change.toUInt8.toNat : ℤ) = change.toInt % 256 := by
    have pattern : change.toInt = (change.toUInt8.toNat : ℤ).bmod 256 :=
      BitVec.toInt_eq_toNat_bmod _
    have bound := change.toUInt8.toNat_lt
    rw [pattern, Int.bmod_def]
    split <;> omega
  rw [UInt8.toNat_add]
  push_cast
  rw [asByte]
  omega

namespace TCPClient

/-! ### The update and its ideal -/

/-- What an update assigns: `m` four times, and the three estimates. -/
@[ext] structure RtoUpdate where
  sample : ℤ
  error : ℤ
  sa : ℤ
  magnitude : ℤ
  deviation : ℤ
  sv : ℤ
  rto : ℤ

/-- The formulas over the integers. -/
def idealUpdate (client : TCPClient) : RtoUpdate :=
  let sample : ℤ := client.rto.toNat - client.timer.toNat
  let error := sample - client.sa.toNat / 8
  let sa := client.sa.toNat + error
  let magnitude := |error|
  let deviation := magnitude - client.sv.toNat / 4
  let sv := client.sv.toNat + deviation
  { sample := sample
    error := error
    sa := sa
    magnitude := magnitude
    deviation := deviation
    sv := sv
    rto := sa / 8 + sv }

/-- The values that `updateRto` computes. -/
def machineUpdate (client : TCPClient) : RtoUpdate :=
  let sample : Int8 := (client.rto - client.timer).toInt8
  let error := sample - (client.sa >>> 3).toInt8
  let sa := client.sa + error.toUInt8
  let magnitude := if error < 0 then -error else error
  let deviation := magnitude - (client.sv >>> 2).toInt8
  let sv := client.sv + deviation.toUInt8
  { sample := sample.toInt
    error := error.toInt
    sa := sa.toNat
    magnitude := magnitude.toInt
    deviation := deviation.toInt
    sv := sv.toNat
    rto := ((sa >>> 3) + sv).toNat }

/-- The ticks that a sample counts. -/
def elapsed (client : TCPClient) : ℤ :=
  client.rto.toNat - client.timer.toNat

/-- How long a sample may be, given the estimates, for no byte and no signed byte to
overflow. -/
structure SampleFits (client : TCPClient) : Prop where
  least : (client.sa.toNat : ℤ) / 8 - 127 ≤ client.elapsed
  most : client.elapsed ≤ 127
  nonnegative : (client.sa.toNat : ℤ) / 8 ≤ client.sa.toNat + client.elapsed
  average : (client.sa.toNat : ℤ) - client.sa.toNat / 8 + client.elapsed ≤ 255
  timeout : (client.sa.toNat - client.sa.toNat / 8 + client.elapsed) / 8 +
    (client.sv.toNat - client.sv.toNat / 4) + |client.elapsed - client.sa.toNat / 8| ≤ 255

theorem shiftRight_three (byte : UInt8) : (byte >>> 3).toNat = byte.toNat / 8 := by
  rw [UInt8.toNat_shiftRight]
  exact Nat.shiftRight_eq_div_pow byte.toNat 3

theorem shiftRight_two (byte : UInt8) : (byte >>> 2).toNat = byte.toNat / 4 := by
  rw [UInt8.toNat_shiftRight]
  exact Nat.shiftRight_eq_div_pow byte.toNat 2

theorem magnitude_toInt {error : Int8} (least : -127 ≤ error.toInt) :
    (if error < 0 then -error else error).toInt = |error.toInt| := by
  have bounds := int8_bounds error
  split
  · rename_i negative
    have below : error.toInt < 0 := Int8.lt_iff_toInt_lt.mp negative
    rw [Int8.toInt_neg, abs_of_neg below]
    exact (bmod_eq_self_iff _).mpr (by omega)
  · rename_i notNegative
    have above : 0 ≤ error.toInt := by
      by_contra below
      exact notNegative (Int8.lt_iff_toInt_lt.mpr (by simpa using below))
    exact (abs_of_nonneg above).symm

/-- The update is the ideal one exactly when the sample fits. -/
theorem machineUpdate_eq_iff (client : TCPClient) :
    client.machineUpdate = client.idealUpdate ↔ client.SampleFits := by
  have saBound := client.sa.toNat_lt
  have svBound := client.sv.toNat_lt
  have saEighth : (client.sa >>> 3).toInt8.toInt = (client.sa.toNat : ℤ) / 8 := by
    have eighth := shiftRight_three client.sa
    rw [toInt8_toInt_of_small (by omega), eighth]
    rfl
  have svQuarter : (client.sv >>> 2).toInt8.toInt = (client.sv.toNat : ℤ) / 4 := by
    have quarter := shiftRight_two client.sv
    rw [toInt8_toInt_of_small (by omega), quarter]
    rfl
  constructor
  · intro same
    obtain ⟨sample, error, sa, magnitude, _, _, rto⟩ := RtoUpdate.ext_iff.mp same
    have sampleBounds := int8_bounds (client.rto - client.timer).toInt8
    have magnitudeBounds : |client.idealUpdate.error| ≤ 127 := by
      rw [← show client.machineUpdate.magnitude = |client.idealUpdate.error| from magnitude]
      exact (int8_bounds _).2
    have saRange : 0 ≤ client.idealUpdate.sa ∧ client.idealUpdate.sa ≤ 255 := by
      rw [← sa]
      have bound := client.updateRto.sa.toNat_lt
      change 0 ≤ (client.updateRto.sa.toNat : ℤ) ∧ (client.updateRto.sa.toNat : ℤ) ≤ 255
      omega
    have rtoRange : client.idealUpdate.rto ≤ 255 := by
      rw [← rto]
      have bound := client.updateRto.rto.toNat_lt
      change (client.updateRto.rto.toNat : ℤ) ≤ 255
      omega
    have errorLeast := neg_le_of_abs_le magnitudeBounds
    have isSample : client.machineUpdate.sample = client.elapsed := sample
    have sampleMost : client.machineUpdate.sample ≤ 127 := sampleBounds.2
    dsimp only [idealUpdate] at saRange rtoRange errorLeast
    refine ⟨?_, ?_, ?_, ?_, ?_⟩
    · unfold elapsed
      omega
    · omega
    · unfold elapsed
      omega
    · unfold elapsed
      omega
    · unfold elapsed
      omega
  · rintro ⟨least, most, nonnegative, average, timeout⟩
    let sample : Int8 := (client.rto - client.timer).toInt8
    let error := sample - (client.sa >>> 3).toInt8
    let magnitude := if error < 0 then -error else error
    let deviation := magnitude - (client.sv >>> 2).toInt8
    have isSample : sample.toInt = client.elapsed :=
      (byte_sub_toInt _ _).trans ((bmod_eq_self_iff client.elapsed).mpr (by omega))
    have isError : error.toInt = client.elapsed - client.sa.toNat / 8 := by
      rw [Int8.toInt_sub, isSample, saEighth]
      exact (bmod_eq_self_iff _).mpr (by omega)
    have isMagnitude : magnitude.toInt = |client.elapsed - client.sa.toNat / 8| := by
      rw [← isError]
      exact magnitude_toInt (by omega)
    have magnitudeRange : 0 ≤ magnitude.toInt ∧ magnitude.toInt ≤ 127 :=
      ⟨isMagnitude ▸ abs_nonneg _, (int8_bounds magnitude).2⟩
    have isDeviation : deviation.toInt =
        |client.elapsed - client.sa.toNat / 8| - client.sv.toNat / 4 := by
      rw [Int8.toInt_sub, svQuarter, ← isMagnitude]
      exact (bmod_eq_self_iff _).mpr (by omega)
    have isSa : ((client.sa + error.toUInt8).toNat : ℤ) =
        client.sa.toNat + (client.elapsed - client.sa.toNat / 8) := by
      rw [byte_add_toNat, isError]
      omega
    rw [← isMagnitude] at timeout
    have isSv : ((client.sv + deviation.toUInt8).toNat : ℤ) =
        client.sv.toNat + (magnitude.toInt - client.sv.toNat / 4) := by
      rw [byte_add_toNat, isDeviation, ← isMagnitude]
      omega
    have isRto : ((((client.sa + error.toUInt8) >>> 3) +
          (client.sv + deviation.toUInt8)).toNat : ℤ) =
        (client.sa.toNat + (client.elapsed - client.sa.toNat / 8)) / 8 +
          (client.sv.toNat + (magnitude.toInt - client.sv.toNat / 4)) := by
      rw [UInt8.toNat_add, shiftRight_three]
      omega
    rw [isMagnitude] at isSv isRto
    exact RtoUpdate.ext isSample isError isSa isMagnitude isDeviation isSv isRto

/-! ### What the updates keep -/

/-- What holds of the estimates as long as the samples fit. -/
structure EstimatesSane (client : TCPClient) : Prop where
  deviation : 3 ≤ client.sv.toNat
  positive : 1 ≤ client.rto.toNat

/-- A sample that fits takes sane estimates to sane ones. -/
theorem SampleFits.sane {client : TCPClient} (fits : client.SampleFits)
    (sane : client.EstimatesSane) : client.updateRto.EstimatesSane := by
  have same := (machineUpdate_eq_iff client).mpr fits
  obtain ⟨_, _, saNonnegative, _, _⟩ := fits
  obtain ⟨svLeast, _⟩ := sane
  have nonnegative := abs_nonneg (client.elapsed - client.sa.toNat / 8)
  have isSv : (client.updateRto.sv.toNat : ℤ) = client.sv.toNat +
      (|client.elapsed - client.sa.toNat / 8| - client.sv.toNat / 4) :=
    congrArg RtoUpdate.sv same
  have isRto : (client.updateRto.rto.toNat : ℤ) =
      (client.sa.toNat + (client.elapsed - client.sa.toNat / 8)) / 8 +
        (client.sv.toNat +
          (|client.elapsed - client.sa.toNat / 8| - client.sv.toNat / 4)) :=
    congrArg RtoUpdate.rto same
  exact ⟨by omega, by omega⟩

/-- The acknowledgement comes within 31 ticks, and the timer has not run below zero. -/
structure PromptSample (client : TCPClient) : Prop where
  notEarly : 0 ≤ client.elapsed
  notLate : client.elapsed ≤ 31

/-- The estimates leave room for a prompt sample. -/
structure RoomForPrompt (client : TCPClient) : Prop where
  deviation : client.sv.toNat ≤ 127

theorem PromptSample.fits {client : TCPClient} (prompt : client.PromptSample)
    (room : client.RoomForPrompt) : client.SampleFits := by
  obtain ⟨notEarly, notLate⟩ := prompt
  obtain ⟨svMost⟩ := room
  have saBound := client.sa.toNat_lt
  have magnitude : |client.elapsed - client.sa.toNat / 8| ≤ 31 :=
    abs_le.mpr ⟨by omega, by omega⟩
  exact ⟨by omega, by omega, by omega, by omega, by omega⟩

/-- Behind a prompt sample the next one has room again. -/
theorem PromptSample.leavesRoom {client : TCPClient} (prompt : client.PromptSample)
    (room : client.RoomForPrompt) : client.updateRto.RoomForPrompt := by
  have same := (machineUpdate_eq_iff client).mpr (prompt.fits room)
  obtain ⟨notEarly, notLate⟩ := prompt
  obtain ⟨svMost⟩ := room
  have saBound := client.sa.toNat_lt
  have magnitude : |client.elapsed - client.sa.toNat / 8| ≤ 31 :=
    abs_le.mpr ⟨by omega, by omega⟩
  have isSv : (client.updateRto.sv.toNat : ℤ) = client.sv.toNat +
      (|client.elapsed - client.sa.toNat / 8| - client.sv.toNat / 4) :=
    congrArg RtoUpdate.sv same
  exact ⟨by omega⟩

/-! ### Which call takes a sample -/

/-- The estimates are the same. -/
structure SameEstimates (before after : TCPClient) : Prop where
  sa : after.sa = before.sa
  sv : after.sv = before.sv
  rto : after.rto = before.rto

theorem SameEstimates.trans {first second third : TCPClient}
    (left : SameEstimates first second) (right : SameEstimates second third) :
    SameEstimates first third :=
  ⟨right.sa.trans left.sa, right.sv.trans left.sv, right.rto.trans left.rto⟩

theorem EstimatesSane.of_same {before after : TCPClient} (sane : before.EstimatesSane)
    (same : SameEstimates before after) : after.EstimatesSane :=
  ⟨same.sv ▸ sane.deviation, same.rto ▸ sane.positive⟩

theorem RoomForPrompt.of_same {before after : TCPClient} (room : before.RoomForPrompt)
    (same : SameEstimates before after) : after.RoomForPrompt :=
  ⟨same.sv ▸ room.deviation⟩

theorem opening_estimatesSane (client : TCPClient) (randomNumber now : UInt32) :
    (client.opening randomNumber now).EstimatesSane := by
  have deviation : 3 ≤ (16 : UInt8).toNat := by decide
  have positive : 1 ≤ UIP_RTO.toNat := by decide
  exact ⟨deviation, positive⟩

theorem opening_roomForPrompt (client : TCPClient) (randomNumber now : UInt32) :
    (client.opening randomNumber now).RoomForPrompt := by
  have deviation : (16 : UInt8).toNat ≤ 127 := by decide
  exact ⟨deviation⟩

/-- The packet in the buffer gets to the acking test and acknowledges what was sent once:
it is a sample of the round-trip time. -/
structure TakesSample (client : TCPClient) (ether : EtherSia) : Prop where
  received : ether.bufferContainsReceived = true
  ours : client.OfConnection ether
  noReset : hasFlag (TCPHeader.flags ether.buffer) TCP_FLAG_RST = false
  expected : client.testsSequence ether.buffer = true →
    TCPHeader.sequenceNum ether.buffer = client.remoteSeqNum
  acknowledges : client.Acknowledges ether.buffer
  sentOnce : client.nrtx = 0

instance (client : TCPClient) (ether : EtherSia) : Decidable (client.TakesSample ether) :=
  decidable_of_iff
    (ether.bufferContainsReceived = true ∧ client.OfConnection ether ∧
      hasFlag (TCPHeader.flags ether.buffer) TCP_FLAG_RST = false ∧
      (client.testsSequence ether.buffer = true →
        TCPHeader.sequenceNum ether.buffer = client.remoteSeqNum) ∧
      client.Acknowledges ether.buffer ∧ client.nrtx = 0)
    ⟨fun ⟨received, ours, noReset, expected, acknowledges, sentOnce⟩ =>
        ⟨received, ours, noReset, expected, acknowledges, sentOnce⟩,
      fun sample => ⟨sample.received, sample.ours, sample.noReset, sample.expected,
        sample.acknowledges, sample.sentOnce⟩⟩

theorem ticked_sameEstimates (client : TCPClient) (clock : HavePacketClock) :
    SameEstimates client (client.ticked clock) := by
  obtain ⟨_, _, _, _, same⟩ := client.ticked_eq clock
  rw [same]
  exact ⟨rfl, rfl, rfl⟩

theorem checkForRetransmit_sameEstimates (client : TCPClient) (ether : EtherSia) :
    SameEstimates client (client.checkForRetransmit ether).1 := by
  unfold checkForRetransmit
  split
  · dsimp only
    split
    · exact ⟨rfl, rfl, rfl⟩
    · split <;> exact ⟨rfl, rfl, rfl⟩
  · exact ⟨rfl, rfl, rfl⟩

theorem ackTest_of_sample {client : TCPClient} {packet : Memory}
    (acknowledges : client.Acknowledges packet) (sentOnce : client.nrtx = 0) :
    SameEstimates client.updateRto (client.ackTest packet) := by
  unfold ackTest
  rw [if_pos ⟨acknowledges.isAck, acknowledges.outstanding, acknowledges.number⟩]
  dsimp only
  rw [if_pos sentOnce]
  exact ⟨rfl, rfl, rfl⟩

theorem ackTest_of_no_sample {client : TCPClient} {packet : Memory}
    (noSample : ¬ (client.Acknowledges packet ∧ client.nrtx = 0)) :
    SameEstimates client (client.ackTest packet) := by
  by_cases acknowledges : client.Acknowledges packet
  · have sentAgain : ¬ client.nrtx = 0 := fun once => noSample ⟨acknowledges, once⟩
    unfold ackTest
    rw [if_pos ⟨acknowledges.isAck, acknowledges.outstanding, acknowledges.number⟩]
    dsimp only
    rw [if_neg sentAgain]
    exact ⟨rfl, rfl, rfl⟩
  · rw [ackTest_of_not_acknowledges acknowledges]
    exact ⟨rfl, rfl, rfl⟩

/-- Behind the acking test no branch changes the estimates. -/
theorem foundSegment_sameEstimates {client : TCPClient} {ether : EtherSia}
    (noReset : hasFlag (TCPHeader.flags ether.buffer) TCP_FLAG_RST = false)
    (expected : ¬ (client.testsSequence ether.buffer = true ∧
      TCPHeader.sequenceNum ether.buffer ≠ client.remoteSeqNum)) :
    SameEstimates (client.ackTest ether.buffer) (client.foundSegment ether).1 := by
  unfold foundSegment
  rw [noReset, if_neg Bool.false_ne_true, if_neg expected]
  dsimp only
  split
  · unfold waitSynAckSegment
    split <;> exact ⟨rfl, rfl, rfl⟩
  · unfold connectedSegment
    split
    · split
      · exact checkForRetransmit_sameEstimates _ ether
      · exact ⟨rfl, rfl, rfl⟩
    · split
      · exact ⟨rfl, rfl, rfl⟩
      · exact checkForRetransmit_sameEstimates _ ether
  · unfold lastAckSegment
    split
    · exact ⟨rfl, rfl, rfl⟩
    · exact checkForRetransmit_sameEstimates _ ether
  · exact ⟨rfl, rfl, rfl⟩

theorem poll_of_sample {client : TCPClient} (active : client.Active)
    {clock : HavePacketClock} {ether : EtherSia}
    (sample : (client.ticked clock).TakesSample ether) :
    SameEstimates (client.ticked clock).updateRto (client.poll clock ether).1 := by
  have acknowledges : (client.ticked clock).counted.Acknowledges ether.buffer :=
    ⟨sample.acknowledges.isAck, sample.acknowledges.outstanding,
      sample.acknowledges.number⟩
  have expected : ¬ ((client.ticked clock).counted.testsSequence ether.buffer = true ∧
      TCPHeader.sequenceNum ether.buffer ≠ (client.ticked clock).counted.remoteSeqNum) :=
    fun ⟨tested, differs⟩ => differs (sample.expected tested)
  have counts : SameEstimates (client.ticked clock).updateRto
      (client.ticked clock).counted.updateRto :=
    ⟨rfl, rfl, rfl⟩
  rw [poll_of_active active, dispatchPacket_of_ofConnection sample.received sample.ours]
  exact counts.trans ((ackTest_of_sample acknowledges sample.sentOnce).trans
    (foundSegment_sameEstimates sample.noReset expected))

theorem poll_of_no_sample {client : TCPClient} {clock : HavePacketClock} {ether : EtherSia}
    (noSample : client.Active → ¬ (client.ticked clock).TakesSample ether) :
    SameEstimates client (client.poll clock ether).1 := by
  have ticks := client.ticked_sameEstimates clock
  refine poll_cases client clock ether
    (motive := fun after => SameEstimates client after.1) ?_ ?_ ?_ ?_
  · intro _
    obtain ⟨_, _, started⟩ := client.startCall_eq clock
    rw [started]
    exact ⟨rfl, rfl, rfl⟩
  · intro active received ours
    have counts : SameEstimates client (client.ticked clock).counted :=
      ticks.trans ⟨rfl, rfl, rfl⟩
    by_cases reset : hasFlag (TCPHeader.flags ether.buffer) TCP_FLAG_RST = true
    · unfold foundSegment
      rw [if_pos reset]
      exact counts.trans ⟨rfl, rfl, rfl⟩
    · by_cases unexpected : (client.ticked clock).counted.testsSequence ether.buffer = true ∧
          TCPHeader.sequenceNum ether.buffer ≠ (client.ticked clock).counted.remoteSeqNum
      · unfold foundSegment
        rw [if_neg reset, if_pos unexpected]
        exact counts
      · have noReset := Bool.eq_false_iff.mpr reset
        refine counts.trans ((ackTest_of_no_sample ?_).trans
          (foundSegment_sameEstimates noReset unexpected))
        rintro ⟨acknowledges, sentOnce⟩
        refine noSample active ⟨received, ours, noReset, fun tested => ?_,
          ⟨acknowledges.isAck, acknowledges.outstanding, acknowledges.number⟩, sentOnce⟩
        by_contra differs
        exact unexpected ⟨tested, differs⟩
  · exact fun _ _ _ => ticks.trans ⟨rfl, rfl, rfl⟩
  · intro _ nrcvd ndropped
    have counts : SameEstimates (client.ticked clock)
        { client.ticked clock with nrcvd := nrcvd, ndropped := ndropped } :=
      ⟨rfl, rfl, rfl⟩
    exact ticks.trans (counts.trans (checkForRetransmit_sameEstimates _ ether))

/-- The update is the ideal one, and its values are those the client goes on with. -/
structure UpdatesExactly (client after : TCPClient) : Prop where
  arithmetic : client.machineUpdate = client.idealUpdate
  values : SameEstimates client.updateRto after

end TCPClient

/-! ### Runs -/

section Runs

variable {ι : Type} [DecidableEq ι]

/-- Where the step is a call that takes a sample, the property holds of the client that
takes it, with its timers advanced, and of the client behind the call. -/
def OnSample (index : ι) (property : TCPClient → TCPClient → Prop)
    (taken : Taken (Station ι) (StationEvent ι)) : Prop :=
  ∀ clock, taken.event = .clientHavePacket index clock →
    (taken.before.clients index).Active →
      ((taken.before.clients index).ticked clock).TakesSample taken.before.ether →
        property ((taken.before.clients index).ticked clock) (taken.after.clients index)

theorem Station.step_onSample {index : ι} {taken : Taken (Station ι) (StationEvent ι)}
    (stepped : taken.before.step taken.event = some taken.after) :
    OnSample index (fun client after => TCPClient.SameEstimates client.updateRto after)
      taken := by
  obtain ⟨before, event, after⟩ := taken
  rintro clock rfl active sample
  have polled : before.update index ((before.clients index).poll clock before.ether) =
      after := Option.some.inj stepped
  dsimp only
  rw [← polled, update_clients_same]
  exact TCPClient.poll_of_sample active sample

/-- Step lemma: what a connection opens with and each sample keeps, every step keeps. -/
theorem Station.step_estimates {index : ι} {taken : Taken (Station ι) (StationEvent ι)}
    {property : TCPClient → Prop}
    (ofSame : ∀ {before after}, property before → TCPClient.SameEstimates before after →
      property after)
    (opened : ∀ client randomNumber now, property (TCPClient.opening client randomNumber now))
    (stepped : taken.before.step taken.event = some taken.after)
    (holds : property (taken.before.clients index))
    (sampled : OnSample index
      (fun client _after => property client → property client.updateRto) taken) :
    property (taken.after.clients index) := by
  obtain ⟨before, event, after⟩ := taken
  dsimp only at stepped holds ⊢
  apply step_client_cases index stepped
  · intro _ same
    rw [same]
    exact holds
  · rintro socket _ rfl
    rw [update_clients_same]
    exact ofSame holds ⟨rfl, rfl, rfl⟩
  · rintro randomNumber now _ rfl
    rw [update_clients_same, TCPClient.connect_fst]
    exact opened _ _ _
  · rintro clock rfl rfl
    rw [update_clients_same]
    by_cases samples : (before.clients index).Active ∧
        ((before.clients index).ticked clock).TakesSample before.ether
    · obtain ⟨active, sample⟩ := samples
      have ticked := ofSame holds ((before.clients index).ticked_sameEstimates clock)
      exact ofSame (sampled clock rfl active sample ticked)
        (TCPClient.poll_of_sample active sample)
    · exact ofSame holds
        (TCPClient.poll_of_no_sample fun active sample => samples ⟨active, sample⟩)
  · rintro length isReply _ rfl
    rw [update_clients_same, TCPClient.send_fst]
    split
    · exact holds
    · exact ofSame holds ⟨rfl, rfl, rfl⟩

theorem Station.step_estimatesSane {index : ι} {taken : Taken (Station ι) (StationEvent ι)}
    (stepped : taken.before.step taken.event = some taken.after)
    (sane : (taken.before.clients index).EstimatesSane)
    (fits : OnSample index (fun client _after => client.SampleFits) taken) :
    (taken.after.clients index).EstimatesSane :=
  step_estimates TCPClient.EstimatesSane.of_same
    (fun client randomNumber now => client.opening_estimatesSane randomNumber now) stepped
    sane fun clock called active sample => (fits clock called active sample).sane

theorem Station.step_roomForPrompt {index : ι} {taken : Taken (Station ι) (StationEvent ι)}
    (stepped : taken.before.step taken.event = some taken.after)
    (room : (taken.before.clients index).RoomForPrompt)
    (prompt : OnSample index (fun client _after => client.PromptSample) taken) :
    (taken.after.clients index).RoomForPrompt :=
  step_estimates TCPClient.RoomForPrompt.of_same
    (fun client randomNumber now => client.opening_roomForPrompt randomNumber now) stepped
    room fun clock called active sample => (prompt clock called active sample).leavesRoom

/-- A run that begins with a `connect` keeps what the connection opens with. -/
theorem Station.run_estimates {index : ι} {property : TCPClient → Prop}
    {condition result : Taken (Station ι) (StationEvent ι) → Prop}
    (opened : ∀ client randomNumber now, property (TCPClient.opening client randomNumber now))
    (keeps : ∀ taken : Taken (Station ι) (StationEvent ι),
      taken.before.step taken.event = some taken.after →
        property (taken.before.clients index) → condition taken →
          property (taken.after.clients index))
    (first : ∀ {station randomNumber now after},
      property ((after : Station ι).clients index) →
        result ⟨station, .connect index randomNumber now, after⟩)
    (gives : ∀ taken : Taken (Station ι) (StationEvent ι),
      taken.before.step taken.event = some taken.after →
        property (taken.before.clients index) → condition taken → result taken)
    {station : Station ι} {randomNumber now : UInt32} {events : List (StationEvent ι)}
    (allMeet : Always Station.step station (.connect index randomNumber now :: events)
      condition) :
    Always Station.step station (.connect index randomNumber now :: events) result := by
  have connects : station.step (.connect index randomNumber now) = some
      (station.update index ((station.clients index).connect randomNumber now
        station.ether)) := rfl
  obtain ⟨_, later⟩ := (always_cons_of_step connects events _).mp allMeet
  have opens : property ((station.update index ((station.clients index).connect
      randomNumber now station.ether)).clients index) := by
    rw [Station.update_clients_same, TCPClient.connect_fst]
    exact opened _ _ _
  exact (always_cons_of_step connects events _).mpr ⟨first opens,
    always_of_invariant (fun station : Station ι => property (station.clients index))
      keeps gives opens later⟩

/-- From a `connect` on, the updates are the ideal ones and `_rto` stays positive exactly
when each sample fits the estimates; and samples of up to 31 ticks all fit. -/
theorem run_estimates_round_trip (station : Station ι) (index : ι)
    (randomNumber now : UInt32) (events : List (StationEvent ι)) :
    (Always Station.step station (.connect index randomNumber now :: events)
        (fun taken => OnSample index TCPClient.UpdatesExactly taken ∧
          1 ≤ (taken.after.clients index).rto.toNat) ↔
      Always Station.step station (.connect index randomNumber now :: events)
        (OnSample index fun client _after => client.SampleFits)) ∧
    (Always Station.step station (.connect index randomNumber now :: events)
        (OnSample index fun client _after => client.PromptSample) →
      Always Station.step station (.connect index randomNumber now :: events)
        (OnSample index fun client _after => client.SampleFits)) := by
  refine ⟨⟨fun exact => ?_, fun fits => ?_⟩, fun prompt => ?_⟩
  · refine exact.mono fun taken ⟨updates, _⟩ clock called active sample => ?_
    exact (TCPClient.machineUpdate_eq_iff _).mp
      (updates clock called active sample).arithmetic
  · refine Station.run_estimates
      (fun client randomNumber now => client.opening_estimatesSane randomNumber now)
      (fun _ => Station.step_estimatesSane) (fun sane => ⟨nofun, sane.positive⟩) ?_ fits
    intro taken stepped sane fits
    refine ⟨fun clock called active sample => ?_,
      (Station.step_estimatesSane stepped sane fits).positive⟩
    exact ⟨(TCPClient.machineUpdate_eq_iff _).mpr (fits clock called active sample),
      Station.step_onSample stepped clock called active sample⟩
  · refine Station.run_estimates
      (fun client randomNumber now => client.opening_roomForPrompt randomNumber now)
      (fun _ => Station.step_roomForPrompt) (fun _ => nofun) ?_ prompt
    intro taken stepped room prompt clock called active sample
    have ticked := (taken.before.clients index).ticked_sameEstimates clock
    exact (prompt clock called active sample).fits (room.of_same ticked)

end Runs

/-- An ACK for port 20001 with the acknowledgement number and the checksum given. -/
def ackOf (acknowledged checksum : UInt16) : Frame :=
  exampleFrame 20 IP6_PROTO_TCP
    [0, 80, 0x4e, 0x21, 0, 0, 0x13, 0x89, 0, 0, high16 acknowledged, low16 acknowledged,
      0x50, 0x10, 1, 0xea, high16 checksum, low16 checksum, 0, 0] (by simp)

def callAtTick (tick : ℕ) : StationEvent Bool :=
  .clientHavePacket false (clockAt (250 * UInt32.ofNat tick))

/-- Two bytes are sent, and their acknowledgement is there at the last of the ticks. -/
def sendAndAwait (start ticks : ℕ) (acknowledgement : Frame) : List (StationEvent Bool) :=
  .clientSend false 2 false ::
    (List.range (ticks - 1)).map (fun tick => callAtTick (start + tick + 1)) ++
    [.receivePacket acknowledgement]

/-- Acknowledgements after 12, 22, 40, 72 and 128 ticks, each within `_rto`. -/
def slowAcknowledgements : List (StationEvent Bool) :=
  sendAndAwait 0 12 (ackOf 1003 0x4d01) ++ [callAtTick 12] ++
  sendAndAwait 12 22 (ackOf 1005 0x4cff) ++ [callAtTick 34] ++
  sendAndAwait 34 40 (ackOf 1007 0x4cfd) ++ [callAtTick 74] ++
  sendAndAwait 74 72 (ackOf 1009 0x4cfb) ++ [callAtTick 146] ++
  sendAndAwait 146 128 (ackOf 1011 0x4cf9)

/-- The sample of 128 ticks does not fit the signed char `m`. -/
theorem slow_acknowledgements_overflow :
    ¬ Always Station.step twoClients
      ([.connect false 1000 0, .receivePacket synAckFirst,
        .clientHavePacket false (clockAt 1)] ++ slowAcknowledgements ++ [callAtTick 274])
      (fun taken => OnSample false TCPClient.UpdatesExactly taken ∧
        1 ≤ (taken.after.clients false).rto.toNat) := by
  have returns : (run Station.step twoClients ([.connect false 1000 0,
      .receivePacket synAckFirst, .clientHavePacket false (clockAt 1)] ++
        slowAcknowledgements)).map (fun station =>
      let client := (station.clients false).ticked (clockAt 68500)
      decide ((station.clients false).Active ∧ client.TakesSample station.ether ∧
        client.elapsed = 128)) = some true := by
    decide +kernel
  obtain ⟨station, reached, sampled⟩ := Option.map_eq_some_iff.mp returns
  obtain ⟨active, sample, late⟩ := of_decide_eq_true sampled
  rw [always_append_of_run reached, always_cons_of_step rfl]
  rintro ⟨_, ⟨updates, _⟩, _⟩
  have exact := (updates (clockAt 68500) rfl active sample).arithmetic
  have inTime := ((TCPClient.machineUpdate_eq_iff _).mp exact).most
  rw [late] at inTime
  exact absurd inTime (by decide)

end EtherSiaStack
