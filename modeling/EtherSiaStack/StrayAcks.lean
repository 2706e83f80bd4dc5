/-
Acknowledgements of other blocks in a read transfer.

`waitForAck` returns false when nothing came in time and also when an acknowledgement
came for another block, and `handleReadRequest` answers either by counting a retry and
sending the block again.  A transfer whose retries all come from the clock is therefore
one in which no such acknowledgement arrives while its block is waited for.
-/

import EtherSiaStack.TFTPRead

namespace EtherSiaStack

open ByteMemory IPv6Packet Trace

namespace TFTPServer

/-! ### Retries and what they wait for -/

/-- The socket takes the packet in the buffer for an acknowledgement. -/
def TakenForAck (data : Socket) (ether : EtherSia) : Prop :=
  UDPSocket.havePacket data ether = true ∧
    hasOpcode ether.buffer TFTP_OPCODE_ACK = true

instance (data : Socket) (ether : EtherSia) : Decidable (TakenForAck data ether) :=
  inferInstanceAs (Decidable (_ ∧ _))

/-- How long a wait has lasted by the reading of a pass; it began when its end was set. -/
def waited (transfer : ReadTransfer) (pass : ReadPass) : UInt32 :=
  pass.testTime - (transfer.timeout - TFTP_ACK_TIMEOUT)

/-- The block is sent once more, a retry is counted, or the transfer is given up. -/
def Retries (taken : Taken ReadTransfer ReadPass) : Prop :=
  (∃ octets ∈ framesSent taken.before.ether taken.after.ether,
    IsMessage TFTP_OPCODE_DATA taken.before.block octets) ∨
      taken.before.retries < taken.after.retries ∨
        taken.after.left = some .tooManyRetries

instance : DecidablePred Retries := fun taken =>
  inferInstanceAs (Decidable ((∃ octets ∈ framesSent taken.before.ether taken.after.ether,
    IsMessage TFTP_OPCODE_DATA taken.before.block octets) ∨ _ ∨ _))

/-- An acknowledgement of an earlier block is behind no retry; what is behind one is that
the time is over and the acknowledgement waited for is not there. -/
structure OnlyTimeRetries (data : Socket) (taken : Taken ReadTransfer ReadPass) : Prop where
  duplicate : OnReceipt taken.before.ether taken.event.frame fun ether =>
    TakenForAck data ether → blockNumber ether.buffer < taken.before.block →
      ¬ Retries taken
  elapsed : Retries taken → TFTP_ACK_TIMEOUT ≤ waited taken.before taken.event
  missing : Retries taken → OnReceipt taken.before.ether taken.event.frame fun ether =>
    TakenForAck data ether → blockNumber ether.buffer ≠ taken.before.block

/-- What is taken for an acknowledgement has the number waited for, or a later one when
the time is over. -/
def AcksInTurn (data : Socket) (taken : Taken ReadTransfer ReadPass) : Prop :=
  OnReceipt taken.before.ether taken.event.frame fun ether => TakenForAck data ether →
    blockNumber ether.buffer = taken.before.block ∨
      taken.before.block < blockNumber ether.buffer ∧
        TFTP_ACK_TIMEOUT ≤ waited taken.before taken.event

instance (data : Socket) : DecidablePred (AcksInTurn data) := fun _ =>
  inferInstanceAs (Decidable (OnReceipt _ _ fun _ => _ → _ ∨ _ ∧ _))

/-! ### One pass -/

/-- What ends a pass. -/
inductive PassEnd (data : Socket) (readBytes : UInt16 → List UInt8) (before : ReadTransfer)
    (pass : ReadPass) (ether : EtherSia) (after : ReadTransfer) : Prop
  | waitsOn (noAck : ¬ TakenForAck data ether)
      (same : after = { before with ether := ether })
  | acknowledged (ack : TakenForAck data ether)
      (isNumber : blockNumber ether.buffer = before.block)
      (goesOn : after =
        afterWait data readBytes pass.restartTime true { before with ether := ether })
  | otherBlock (ack : TakenForAck data ether)
      (other : blockNumber ether.buffer ≠ before.block)
      (goesOn : after =
        afterWait data readBytes pass.restartTime false { before with ether := ether })
  | timedOut (noAck : ¬ TakenForAck data ether)
      (over_ : ¬ (before.timeout - pass.testTime).toInt32 > 0)
      (goesOn : after =
        afterWait data readBytes pass.restartTime false { before with ether := ether })

theorem readPass_passEnd {data : Socket} {readBytes : UInt16 → List UInt8}
    {before after : ReadTransfer} {pass : ReadPass}
    (stepped : readPass data readBytes before pass = some after) :
    before.left = none ∧ ∃ len ether,
      before.ether.receivePacket pass.frame = some (len, ether) ∧
        PassEnd data readBytes before pass ether after := by
  unfold readPass at stepped
  split at stepped
  · cases stepped
  · rename_i running
    refine ⟨Option.not_isSome_iff_eq_none.mp running, ?_⟩
    obtain ⟨⟨len, ether⟩, received, same⟩ := Option.map_eq_some_iff.mp stepped
    refine ⟨len, ether, received, ?_⟩
    unfold waitForAckPass at same
    dsimp only at same
    by_cases ack : UDPSocket.havePacket data ether = true ∧
        hasOpcode ether.buffer TFTP_OPCODE_ACK = true
    · rw [if_pos ack] at same
      by_cases isNumber : blockNumber ether.buffer = before.block
      · rw [decide_eq_true isNumber] at same
        exact .acknowledged ack isNumber same.symm
      · rw [decide_eq_false isNumber] at same
        exact .otherBlock ack isNumber same.symm
    · rw [if_neg ack] at same
      by_cases waits : (before.timeout - pass.testTime).toInt32 > 0
      · rw [if_pos waits] at same
        exact .waitsOn ack same.symm
      · rw [if_neg waits] at same
        exact .timedOut ack waits same.symm

theorem sendBlock_retries (data : Socket) (readBytes : UInt16 → List UInt8) (now : UInt32)
    (transfer : ReadTransfer) :
    (sendBlock data readBytes now transfer).retries = transfer.retries := by
  unfold sendBlock
  split
  · rfl
  · rfl

theorem sendBlock_left (data : Socket) (readBytes : UInt16 → List UInt8) (now : UInt32)
    (transfer : ReadTransfer) :
    (sendBlock data readBytes now transfer).left = transfer.left ∨
      (sendBlock data readBytes now transfer).left = some .outOfBlocks := by
  unfold sendBlock
  split
  · exact Or.inl rfl
  · exact Or.inr rfl

/-- The message that is sent has the number of the block, whatever the application put
behind its header. -/
theorem sendBlock_message {data : Socket} {readBytes : UInt16 → List UInt8} {now : UInt32}
    {transfer : ReadTransfer} {octets : List UInt8} {block : UInt16}
    (member : octets ∈ framesSent transfer.ether
      (sendBlock data readBytes now transfer).ether)
    (isMessage : IsMessage TFTP_OPCODE_DATA block octets) : block = transfer.block := by
  unfold framesSent at member
  by_cases inRange : transfer.block < 0xFFFF
  · let message := header TFTP_OPCODE_DATA transfer.block ++ readBytes transfer.block
    let written := transfer.ether.modifyPacket fun packet =>
      store packet UDPSocket.payload message
    let count := UInt16.ofNat message.length
    let buffer := (UDPSocket.send data count false written).buffer
    have sent : (sendBlock data readBytes now transfer).ether.sent =
        transfer.ether.sent ++ [bytesAt buffer 0 (length buffer).toNat] := by
      rw [sendBlock_eq inRange]
      exact congrArg (· ++ [_]) (data.prepare_sent false written)
    rw [sent, List.drop_left] at member
    have isFrame := List.mem_singleton.mp member
    have start : UDPSocket.payload = 62 := rfl
    have kept : Agree buffer written.buffer 62 66 :=
      (UDPSocket.sendInternal_agree data count false (data.prepare false written)
          (Or.inr (Or.inr le_rfl))).trans
        ((data.prepare_payload false written 66).mono (by decide) le_rfl)
    have headed : bytesAt written.buffer 62 4 = header TFTP_OPCODE_DATA transfer.block := by
      have stored := spells_store transfer.ether.buffer 62 message
      exact (spells_append.mp stored).1
    have read := isMessage.2
    rw [isFrame, drop_bytesAt, Nat.zero_add] at read
    have long : 4 ≤ (length buffer).toNat - 62 := by
      have lengths := congrArg List.length read
      rw [List.length_take, bytesAt_length, header_length] at lengths
      omega
    obtain ⟨more, isMore⟩ := Nat.exists_eq_add_of_le long
    rw [isMore, bytesAt_add, List.take_left' (bytesAt_length _ _ _),
      kept.bytesAt_eq le_rfl le_rfl, headed] at read
    exact (header_inj read).2.symm
  · have silent : (sendBlock data readBytes now transfer).ether = transfer.ether := by
      unfold sendBlock
      rw [if_neg inRange]
    rw [silent, List.drop_length] at member
    cases member

theorem sendBlock_grows (data : Socket) (readBytes : UInt16 → List UInt8) (now : UInt32)
    (transfer : ReadTransfer) :
    transfer.ether.sent <+: (sendBlock data readBytes now transfer).ether.sent := by
  unfold sendBlock
  split
  · exact ⟨[_], (congrArg (· ++ [_]) (data.prepare_sent false _)).symm⟩
  · exact List.prefix_rfl

/-! ### Which pass retries -/

section Pass

variable {data : Socket} {readBytes : UInt16 → List UInt8} {before after : ReadTransfer}
  {pass : ReadPass} {ether : EtherSia}

theorem not_retries_of_waitsOn (running : before.left = none)
    (quiet : SendsNoDatagram before.ether ether)
    (same : after = { before with ether := ether }) : ¬ Retries ⟨before, pass, after⟩ := by
  rintro (⟨octets, member, isMessage⟩ | counted | gaveUp)
  · rw [same] at member
    exact not_isMessage_of_sendsNoDatagram quiet member _ _ isMessage
  · rw [same] at counted
    exact absurd counted (UInt8.lt_irrefl _)
  · rw [same] at gaveUp
    rw [running] at gaveUp
    cases gaveUp

/-- Behind the acknowledgement comes the next block, if anything. -/
theorem not_retries_of_acknowledged (running : before.left = none)
    (quiet : SendsNoDatagram before.ether ether)
    (goesOn : after =
      afterWait data readBytes pass.restartTime true { before with ether := ether }) :
    ¬ Retries ⟨before, pass, after⟩ := by
  unfold afterWait at goesOn
  dsimp only at goesOn
  rw [if_pos rfl] at goesOn
  by_cases isLast : before.len < TFTP_BLOCK_SIZE
  · rw [if_pos isLast] at goesOn
    rintro (⟨octets, member, isMessage⟩ | counted | gaveUp)
    · rw [goesOn] at member
      exact not_isMessage_of_sendsNoDatagram quiet member _ _ isMessage
    · rw [goesOn] at counted
      exact absurd counted UInt8.not_lt_zero
    · rw [goesOn] at gaveUp
      cases gaveUp
  · rw [if_neg isLast] at goesOn
    let next : ReadTransfer := { before with
      ether := ether, block := before.block + 1, retries := 0 }
    have sends : after = sendBlock data readBytes pass.restartTime next := goesOn
    rintro (⟨octets, member, isMessage⟩ | counted | gaveUp)
    · have grows : next.ether.sent <+: after.ether.sent := by
        rw [sends]
        exact sendBlock_grows _ _ _ _
      rw [framesSent_append quiet.grows grows, sends] at member
      rcases List.mem_append.mp member with received | sent
      · exact not_isMessage_of_sendsNoDatagram quiet received _ _ isMessage
      · have isNext : before.block = next.block := sendBlock_message sent isMessage
        have number : before.block.toNat = (before.block + 1).toNat :=
          congrArg UInt16.toNat isNext
        rw [UInt16.toNat_add] at number
        have bound := before.block.toNat_lt
        change _ = (_ + 1) % 65536 at number
        omega
    · rw [sends, sendBlock_retries] at counted
      exact absurd counted UInt8.not_lt_zero
    · rw [sends] at gaveUp
      rcases sendBlock_left data readBytes pass.restartTime next with same | outOfBlocks
      · rw [same, running] at gaveUp
        cases gaveUp
      · rw [outOfBlocks] at gaveUp
        cases gaveUp

/-- Without the acknowledgement a retry is counted, up to the last. -/
theorem retries_of_not_acknowledged (few : before.retries ≤ TFTP_RETRIES)
    (goesOn : after =
      afterWait data readBytes pass.restartTime false { before with ether := ether }) :
    Retries ⟨before, pass, after⟩ ∧ (after.left = none → after.retries ≤ TFTP_RETRIES) := by
  have counts : before.retries < before.retries + 1 := by
    have bound := UInt8.le_iff_toNat_le.mp few
    rw [UInt8.lt_iff_toNat_lt, UInt8.toNat_add]
    change _ ≤ 10 at bound
    change _ < (_ + 1) % 256
    omega
  unfold afterWait at goesOn
  dsimp only at goesOn
  rw [if_neg Bool.false_ne_true] at goesOn
  by_cases many : before.retries + 1 > TFTP_RETRIES
  · rw [if_pos many] at goesOn
    rw [goesOn]
    exact ⟨Or.inr (Or.inl counts), fun running => by cases running⟩
  · rw [if_neg many] at goesOn
    have retries : after.retries = before.retries + 1 := by
      rw [goesOn]
      exact sendBlock_retries _ _ _ _
    refine ⟨Or.inr (Or.inl ?_), fun _ => ?_⟩
    · dsimp only
      rw [retries]
      exact counts
    · rw [retries]
      exact UInt8.not_lt.mp many

theorem waited_of_timedOut (over_ : ¬ (before.timeout - pass.testTime).toInt32 > 0) :
    TFTP_ACK_TIMEOUT ≤ waited before pass := by
  have left : waited before pass =
      TFTP_ACK_TIMEOUT - (before.timeout - pass.testTime) := by
    unfold waited
    grind
  rw [left, UInt32.le_iff_toNat_le]
  generalize before.timeout - pass.testTime = rest at over_
  have bound := rest.toNat_lt
  have signed : rest.toInt32.toInt =
      if 2 * rest.toNat < 4294967296 then (rest.toNat : Int)
      else (rest.toNat : Int) - 4294967296 :=
    BitVec.toInt_eq_toNat_cond rest.toBitVec
  have notPositive := Int32.le_iff_toInt_le.mp (Int32.not_lt.mp over_)
  rw [signed] at notPositive
  rw [UInt32.toNat_sub]
  change _ ≤ (0 : Int) at notPositive
  change 100 ≤ (4294967296 - rest.toNat + 100) % 4294967296
  split at notPositive <;> omega

/-- The step lemma: a pass is answerable for its retries exactly when what it takes for
an acknowledgement is in turn. -/
theorem onlyTimeRetries_iff (few : before.retries ≤ TFTP_RETRIES)
    (stepped : readPass data readBytes before pass = some after) :
    OnlyTimeRetries data ⟨before, pass, after⟩ ↔ AcksInTurn data ⟨before, pass, after⟩ := by
  obtain ⟨running, len, ether, received, passEnd⟩ := readPass_passEnd stepped
  have quiet := receivePacket_sendsNoDatagram received
  unfold AcksInTurn
  rw [onReceipt_iff received]
  dsimp only
  cases passEnd with
  | waitsOn noAck same =>
      have noRetry : ¬ Retries ⟨before, pass, after⟩ :=
        not_retries_of_waitsOn running quiet same
      refine iff_of_true ⟨?_, fun retries => absurd retries noRetry,
        fun retries => absurd retries noRetry⟩ fun ack => absurd ack noAck
      exact (onReceipt_iff received).mpr fun _ _ => noRetry
  | acknowledged ack isNumber goesOn =>
      have noRetry := not_retries_of_acknowledged running quiet goesOn
      refine iff_of_true ⟨?_, fun retries => absurd retries noRetry,
        fun retries => absurd retries noRetry⟩ fun _ => Or.inl isNumber
      exact (onReceipt_iff received).mpr fun _ _ => noRetry
  | otherBlock ack other goesOn =>
      have retries : Retries ⟨before, pass, after⟩ :=
        (retries_of_not_acknowledged few goesOn).1
      constructor
      · intro onlyTime _
        right
        refine ⟨?_, onlyTime.elapsed retries⟩
        have notEarlier : ¬ blockNumber ether.buffer < before.block := fun earlier =>
          (onReceipt_iff received).mp onlyTime.duplicate ack earlier retries
        rcases UInt16.lt_or_eq_of_le (UInt16.not_lt.mp notEarlier) with later | same
        · exact later
        · exact absurd same.symm other
      · intro inTurn
        obtain ⟨later, elapsed⟩ := (inTurn ack).resolve_left other
        refine ⟨?_, fun _ => elapsed, fun _ => ?_⟩
        · exact (onReceipt_iff received).mpr fun _ earlier =>
            absurd (UInt16.lt_trans earlier later) (UInt16.lt_irrefl _)
        · exact (onReceipt_iff received).mpr fun _ => other
  | timedOut noAck over_ goesOn =>
      refine iff_of_true ⟨?_, fun _ => waited_of_timedOut over_, fun _ => ?_⟩ fun ack =>
        absurd ack noAck
      · exact (onReceipt_iff received).mpr fun ack => absurd ack noAck
      · exact (onReceipt_iff received).mpr fun ack => absurd ack noAck

/-- A transfer that goes on has not used up its retries. -/
theorem readPass_retries (few : before.retries ≤ TFTP_RETRIES)
    (stepped : readPass data readBytes before pass = some after) :
    after.left = none → after.retries ≤ TFTP_RETRIES := by
  obtain ⟨running, len, ether, received, passEnd⟩ := readPass_passEnd stepped
  intro goesOnRunning
  cases passEnd with
  | waitsOn noAck same =>
      rw [same]
      exact few
  | acknowledged ack isNumber goesOn =>
      unfold afterWait at goesOn
      dsimp only at goesOn
      rw [if_pos rfl] at goesOn
      split at goesOn
      · rw [goesOn]
        exact UInt8.zero_le
      · rw [goesOn, sendBlock_retries]
        exact UInt8.zero_le
  | otherBlock ack other goesOn =>
      exact (retries_of_not_acknowledged few goesOn).2 goesOnRunning
  | timedOut noAck over_ goesOn =>
      exact (retries_of_not_acknowledged few goesOn).2 goesOnRunning

end Pass

/-! ### Whole transfers -/

/-- Over a whole transfer, whatever arrives and whatever the clock says, only the clock
makes a block be sent again exactly when every acknowledgement taken is in turn. -/
theorem only_time_retries_iff (data : Socket) (readBytes : UInt16 → List UInt8)
    (now : UInt32) (ether : EtherSia) (passes : List ReadPass) :
    Always (readPass data readBytes) (readStart data readBytes now ether) passes
        (OnlyTimeRetries data) ↔
      Always (readPass data readBytes) (readStart data readBytes now ether) passes
        (AcksInTurn data) := by
  have few : (readStart data readBytes now ether).left = none →
      (readStart data readBytes now ether).retries ≤ TFTP_RETRIES := by
    intro _
    rw [readStart, sendBlock_retries]
    exact UInt8.zero_le
  have byStep : ∀ taken : Taken ReadTransfer ReadPass,
      readPass data readBytes taken.before taken.event = some taken.after →
        (taken.before.left = none → taken.before.retries ≤ TFTP_RETRIES) →
          (OnlyTimeRetries data taken ↔ AcksInTurn data taken) ∧
            (taken.after.left = none → taken.after.retries ≤ TFTP_RETRIES) := by
    intro taken stepped fewIfRunning
    have fewBefore := fewIfRunning (readPass_passEnd stepped).1
    exact ⟨onlyTimeRetries_iff fewBefore stepped, readPass_retries fewBefore stepped⟩
  constructor
  · exact always_of_invariant
      (fun transfer => transfer.left = none → transfer.retries ≤ TFTP_RETRIES)
      (fun taken stepped invariant _ => (byStep taken stepped invariant).2)
      (fun taken stepped invariant holds => (byStep taken stepped invariant).1.mp holds) few
  · exact always_of_invariant
      (fun transfer => transfer.left = none → transfer.retries ≤ TFTP_RETRIES)
      (fun taken stepped invariant _ => (byStep taken stepped invariant).2)
      (fun taken stepped invariant holds => (byStep taken stepped invariant).1.mpr holds) few

/-! ### A file of 513 bytes -/

def exampleTwoBlocks : List UInt8 :=
  List.replicate 513 0x61

/-- The acknowledgement of the first block, and the same once more. -/
theorem retries_behind_duplicate :
    ¬ ∀ (data : Socket) (readBytes : UInt16 → List UInt8) (now : UInt32) (ether : EtherSia)
      (passes : List ReadPass),
        Always (readPass data readBytes) (readStart data readBytes now ether) passes
          (OnlyTimeRetries data) := by
  intro always
  have noDuplicate := (always (exampleTransfer 1000) (chunk exampleTwoBlocks) 0
    (EtherSia.configured (exampleMac 1) fun _ => 0)
    [exampleAck, { exampleAck with testTime := 3 }]).mono fun _ onlyTime => onlyTime.duplicate
  revert noDuplicate
  decide +kernel

end TFTPServer

end EtherSiaStack
