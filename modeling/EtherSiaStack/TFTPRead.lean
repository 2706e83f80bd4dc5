/-
Read transfers of the TFTP server.

The file is a list of bytes and `readBytes` gives its chunks.  What a transfer sends is
compared with the acknowledgements that come from the address and the port of the
client alone.
-/

import EtherSiaStack.TFTPServer

namespace EtherSiaStack

open ByteMemory IPv6Packet Trace

namespace TFTPServer

/-! ### What is sent and acknowledged -/

/-- The bytes of a block; the block behind a file of whole blocks has none. -/
def chunk (file : List UInt8) (block : UInt16) : List UInt8 :=
  (file.drop ((block.toNat - 1) * 512)).take 512

/-- The number in the acknowledgement of the client that a pass receives. -/
def ackIn (data : Socket) (taken : Taken ReadTransfer ReadPass) : Option UInt16 :=
  match taken.before.ether.receivePacket taken.event.frame with
  | none => none
  | some (_, ether) =>
      if FromClient data TFTP_OPCODE_ACK ether then some (blockNumber ether.buffer)
      else none

/-- The block sent last, in a pass that receives the acknowledgement of it. -/
def acknowledgedIn (data : Socket) (taken : Taken ReadTransfer ReadPass) : Option UInt16 :=
  if ackIn data taken = some taken.before.block then some taken.before.block else none

def acknowledged (data : Socket) (steps : List (Taken ReadTransfer ReadPass)) :
    List UInt16 :=
  steps.filterMap (acknowledgedIn data)

/-- How often the block is among the frames. -/
def timesSent (block : UInt16) (frames : List (List UInt8)) : Nat :=
  frames.countP fun octets => IsMessage TFTP_OPCODE_DATA block octets

/-- The packet taken for the acknowledgement that is waited for comes from the client
and has the four bytes of one. -/
def TakesAck (data : Socket) (block : UInt16) (ether : EtherSia) : Prop :=
  UDPSocket.havePacket data ether = true →
    hasOpcode ether.buffer TFTP_OPCODE_ACK = true → blockNumber ether.buffer = block →
      SentByClient data ether ∧ 12 ≤ (UDPHeader.length ether.buffer).toNat

instance (data : Socket) (block : UInt16) (ether : EtherSia) :
    Decidable (TakesAck data block ether) :=
  inferInstanceAs (Decidable (_ → _ → _ → _))

def AcksFromClient (data : Socket) (taken : Taken ReadTransfer ReadPass) : Prop :=
  OnReceipt taken.before.ether taken.event.frame (TakesAck data taken.before.block)

instance (data : Socket) : DecidablePred (AcksFromClient data) := fun taken =>
  inferInstanceAs (Decidable (OnReceipt _ _ (TakesAck data taken.before.block)))

/-! ### One pass -/

/-- What a pass does: it waits on, sends a block again, sends the next one, or ends the
transfer. -/
inductive Continues (data : Socket) (readBytes : UInt16 → List UInt8)
    (before : ReadTransfer) (ether : EtherSia) (after : ReadTransfer) : Prop
  | waits (notAcked : FromClient data TFTP_OPCODE_ACK ether →
        blockNumber ether.buffer ≠ before.block)
      (same : after = { before with ether := ether })
  | resends (now : UInt32) (notAcked : FromClient data TFTP_OPCODE_ACK ether →
        blockNumber ether.buffer ≠ before.block)
      (few : before.retries + 1 ≤ TFTP_RETRIES)
      (sends : after = sendBlock data readBytes now
        { before with ether := ether, retries := before.retries + 1 })
  | givesUp (notAcked : FromClient data TFTP_OPCODE_ACK ether →
        blockNumber ether.buffer ≠ before.block)
      (same : after.ether = ether) (gaveUp : after.left = some .tooManyRetries)
  | advances (now : UInt32) (message : FromClient data TFTP_OPCODE_ACK ether)
      (isNumber : blockNumber ether.buffer = before.block)
      (isFull : ¬ before.len < TFTP_BLOCK_SIZE)
      (sends : after = sendBlock data readBytes now
        { before with ether := ether, block := before.block + 1, retries := 0 })
  | finishes (message : FromClient data TFTP_OPCODE_ACK ether)
      (isNumber : blockNumber ether.buffer = before.block)
      (isLast : before.len < TFTP_BLOCK_SIZE) (same : after.ether = ether)
      (finished : after.left = some .finished)

theorem afterWait_of_not_acked {data : Socket} {readBytes : UInt16 → List UInt8}
    {now : UInt32} {before : ReadTransfer} {ether : EtherSia}
    (notAcked : FromClient data TFTP_OPCODE_ACK ether →
      blockNumber ether.buffer ≠ before.block) :
    Continues data readBytes before ether
      (afterWait data readBytes now false { before with ether := ether }) := by
  unfold afterWait
  dsimp only
  rw [if_neg (by decide)]
  by_cases many : before.retries + 1 > TFTP_RETRIES
  · rw [if_pos many]
    exact .givesUp notAcked rfl rfl
  · rw [if_neg many]
    exact .resends now notAcked (UInt8.not_lt.mp many) rfl

theorem afterWait_of_acked {data : Socket} {readBytes : UInt16 → List UInt8}
    {now : UInt32} {before : ReadTransfer} {ether : EtherSia}
    (message : FromClient data TFTP_OPCODE_ACK ether)
    (isNumber : blockNumber ether.buffer = before.block) :
    Continues data readBytes before ether
      (afterWait data readBytes now true { before with ether := ether }) := by
  unfold afterWait
  dsimp only
  rw [if_pos rfl]
  by_cases isLast : before.len < TFTP_BLOCK_SIZE
  · rw [if_pos isLast]
    exact .finishes message isNumber isLast rfl rfl
  · rw [if_neg isLast]
    exact .advances now message isNumber isLast rfl

theorem readPass_continues {data : Socket} {readBytes : UInt16 → List UInt8}
    {before after : ReadTransfer} {pass : ReadPass}
    (stepped : readPass data readBytes before pass = some after)
    (takes : AcksFromClient data ⟨before, pass, after⟩) :
    before.left = none ∧ ∃ len ether,
      before.ether.receivePacket pass.frame = some (len, ether) ∧
        Continues data readBytes before ether after := by
  unfold readPass at stepped
  split at stepped
  · cases stepped
  · rename_i running
    refine ⟨Option.not_isSome_iff_eq_none.mp running, ?_⟩
    obtain ⟨⟨len, ether⟩, received, same⟩ := Option.map_eq_some_iff.mp stepped
    refine ⟨len, ether, received, ?_⟩
    have takesHere : TakesAck data before.block ether := takes len ether received
    unfold waitForAckPass at same
    dsimp only at same
    by_cases taken : UDPSocket.havePacket data ether = true ∧
        hasOpcode ether.buffer TFTP_OPCODE_ACK = true
    · rw [if_pos taken] at same
      by_cases isNumber : blockNumber ether.buffer = before.block
      · obtain ⟨sent, whole⟩ := takesHere taken.1 taken.2 isNumber
        have message : FromClient data TFTP_OPCODE_ACK ether :=
          fromClient_of_taken taken.1 taken.2 (fun _ _ => whole) sent
        rw [decide_eq_true isNumber] at same
        rw [← same]
        exact afterWait_of_acked message isNumber
      · rw [decide_eq_false isNumber] at same
        rw [← same]
        exact afterWait_of_not_acked fun _ => isNumber
    · rw [if_neg taken] at same
      have notAcked : FromClient data TFTP_OPCODE_ACK ether →
          blockNumber ether.buffer ≠ before.block :=
        fun message => absurd ⟨message.taken, message.isMessage⟩ taken
      split at same
      · rename_i waiting
        split at waiting
        · rw [← same]
          exact .waits notAcked rfl
        · cases waiting
      · rename_i gotAck ended
        split at ended
        · cases ended
        · cases ended
          rw [← same]
          exact afterWait_of_not_acked notAcked

/-! ### Chunks of the file -/

section Chunks

variable {file : List UInt8} {block : UInt16}

theorem chunk_length (file : List UInt8) (block : UInt16) :
    (chunk file block).length = min 512 (file.length - (block.toNat - 1) * 512) := by
  unfold chunk
  rw [List.length_take, List.length_drop]

theorem chunk_length_le (file : List UInt8) (block : UInt16) :
    (chunk file block).length ≤ 512 := by
  rw [chunk_length]
  exact Nat.min_le_left _ _

theorem chunk_of_short (short : (chunk file block).length < 512) :
    chunk file block = file.drop ((block.toNat - 1) * 512) := by
  rw [chunk_length] at short
  unfold chunk
  apply List.take_of_length_le
  rw [List.length_drop]
  omega

theorem chunk_append (positive : 0 < block.toNat) :
    chunk file block ++ file.drop (block.toNat * 512) =
      file.drop ((block.toNat - 1) * 512) := by
  have next : block.toNat * 512 = (block.toNat - 1) * 512 + 512 := by omega
  unfold chunk
  rw [next, ← List.drop_drop, List.take_append_drop]

theorem len_lt_iff :
    UInt16.ofNat (chunk file block).length < TFTP_BLOCK_SIZE ↔
      (chunk file block).length < 512 := by
  have small := chunk_length_le file block
  have same : (UInt16.ofNat (chunk file block).length).toNat =
      (chunk file block).length := UInt16.toNat_ofNat_of_lt' (by
        change _ < 65536
        omega)
  rw [UInt16.lt_iff_toNat_lt, same]
  exact Iff.rfl

end Chunks

/-! ### The frames of a transfer -/

theorem framesSent_append {origin before after : EtherSia}
    (grows : origin.sent <+: before.sent) (further : before.sent <+: after.sent) :
    framesSent origin after = framesSent origin before ++ framesSent before after := by
  obtain ⟨first, isFirst⟩ := grows
  obtain ⟨second, isSecond⟩ := further
  unfold framesSent
  rw [← isSecond, ← isFirst, List.drop_left, List.append_assoc, List.drop_left,
    ← List.append_assoc, List.drop_left]

theorem SendsNoDatagram.grows {before after : EtherSia}
    (quiet : SendsNoDatagram before after) : before.sent <+: after.sent := by
  obtain ⟨frames, sent, _⟩ := quiet
  exact ⟨frames, sent.symm⟩

theorem SendsData.grows {bytes : List UInt8} {before after : EtherSia}
    (sends : SendsData bytes before after) : before.sent <+: after.sent := by
  obtain ⟨octets, sent, _⟩ := sends
  exact ⟨[octets], sent.symm⟩

theorem timesSent_quiet {before after : EtherSia} (quiet : SendsNoDatagram before after)
    (block : UInt16) : timesSent block (framesSent before after) = 0 := by
  apply List.countP_eq_zero.mpr
  intro octets member isMessage
  exact not_isMessage_of_sendsNoDatagram quiet member _ _ (of_decide_eq_true isMessage)

theorem timesSent_sendsData {before after : EtherSia} {block : UInt16}
    {bytes : List UInt8}
    (sends : SendsData (header TFTP_OPCODE_DATA block ++ bytes) before after)
    (number : UInt16) :
    timesSent number (framesSent before after) = if number = block then 1 else 0 := by
  obtain ⟨octets, sent, isUdp, carried⟩ := sends
  have start : (octets.drop 62).take 4 = header TFTP_OPCODE_DATA block := by
    rw [carried, List.take_left' (header_length _ _)]
  have isMessage : IsMessage TFTP_OPCODE_DATA number octets ↔ number = block := by
    constructor
    · intro isMessage
      exact (header_inj (isMessage.2.symm.trans start)).2
    · rintro rfl
      exact ⟨isUdp, start⟩
  unfold timesSent framesSent
  rw [sent, List.drop_left, List.countP_singleton, decide_eq_decide.mpr isMessage]
  by_cases same : number = block
  · rw [if_pos same, decide_eq_true same]
    rfl
  · rw [if_neg same, decide_eq_false same]
    rfl

/-- Every block sent carries its chunk and is sent at most eleven times. -/
structure Honest (file : List UInt8) (origin ether : EtherSia) : Prop where
  grows : origin.sent <+: ether.sent
  carries : ∀ octets ∈ framesSent origin ether, ∀ block : UInt16,
    IsMessage TFTP_OPCODE_DATA block octets →
      octets.drop 62 = header TFTP_OPCODE_DATA block ++ chunk file block
  atMost : ∀ block, timesSent block (framesSent origin ether) ≤ TFTP_RETRIES.toNat + 1

theorem Honest.quiet {file : List UInt8} {origin before after : EtherSia}
    (honest : Honest file origin before) (quiet : SendsNoDatagram before after) :
    Honest file origin after ∧
      ∀ block, timesSent block (framesSent origin after) =
        timesSent block (framesSent origin before) := by
  have frames := framesSent_append honest.grows quiet.grows
  have times : ∀ block, timesSent block (framesSent origin after) =
      timesSent block (framesSent origin before) := by
    intro block
    have none := timesSent_quiet quiet block
    rw [frames]
    unfold timesSent at none ⊢
    rw [List.countP_append, none, Nat.add_zero]
  refine ⟨⟨honest.grows.trans quiet.grows, ?_, ?_⟩, times⟩
  · intro octets member block isMessage
    rw [frames] at member
    rcases List.mem_append.mp member with earlier | here
    · exact honest.carries octets earlier block isMessage
    · exact absurd isMessage (not_isMessage_of_sendsNoDatagram quiet here _ _)
  · intro block
    rw [times]
    exact honest.atMost block

theorem Honest.sends {file : List UInt8} {origin before after : EtherSia}
    {block : UInt16} (honest : Honest file origin before)
    (sends : SendsData (header TFTP_OPCODE_DATA block ++ chunk file block) before after)
    (few : timesSent block (framesSent origin before) ≤ TFTP_RETRIES.toNat) :
    Honest file origin after ∧
      ∀ number, timesSent number (framesSent origin after) =
        timesSent number (framesSent origin before) + if number = block then 1 else 0 := by
  have frames := framesSent_append honest.grows sends.grows
  have times : ∀ number, timesSent number (framesSent origin after) =
      timesSent number (framesSent origin before) + if number = block then 1 else 0 := by
    intro number
    have once := timesSent_sendsData sends number
    rw [frames, ← once]
    exact List.countP_append
  refine ⟨⟨honest.grows.trans sends.grows, ?_, ?_⟩, times⟩
  · intro octets member number isMessage
    rw [frames] at member
    rcases List.mem_append.mp member with earlier | here
    · exact honest.carries octets earlier number isMessage
    · obtain ⟨_, rfl, carried⟩ :=
        isMessage_of_sendsData (sendsNoDatagram_of_same rfl) sends here isMessage
      exact carried
  · intro number
    have before := honest.atMost number
    rw [times]
    by_cases same : number = block
    · rw [if_pos same, same]
      omega
    · rw [if_neg same]
      exact before

/-! ### The invariant -/

/-- The transfer is at a block of the file that has been sent `attempts` times at most,
and no later one has been sent. -/
structure AtBlock (file : List UInt8) (origin : EtherSia) (transfer : ReadTransfer)
    (attempts : Nat) : Prop where
  running : transfer.left = none
  positive : 0 < transfer.block.toNat
  few : transfer.block.toNat ≤ 65534
  inside : (transfer.block.toNat - 1) * 512 ≤ file.length
  retries : transfer.retries ≤ TFTP_RETRIES
  honest : Honest file origin transfer.ether
  latest : ∀ block : UInt16, transfer.block < block →
    timesSent block (framesSent origin transfer.ether) = 0
  attempted : timesSent transfer.block (framesSent origin transfer.ether) ≤ attempts

/-- The block has been sent and its acknowledgement is waited for. -/
structure Sending (file : List UInt8) (origin : EtherSia) (transfer : ReadTransfer) :
    Prop extends AtBlock file origin transfer (transfer.retries.toNat + 1) where
  len : transfer.len = UInt16.ofNat (chunk file transfer.block).length
  sent : 0 < timesSent transfer.block (framesSent origin transfer.ether)

section Invariant

variable {data : Socket} {file : List UInt8} {origin : EtherSia} {now : UInt32}
  {transfer : ReadTransfer}

theorem inRange_of_few (few : transfer.block.toNat ≤ 65534) :
    transfer.block < 0xFFFF := by
  rw [UInt16.lt_iff_toNat_lt]
  change _ < 65535
  omega

theorem sendBlock_sendsData (file : List UInt8) (inRange : transfer.block < 0xFFFF) :
    SendsData (header TFTP_OPCODE_DATA transfer.block ++ chunk file transfer.block)
      transfer.ether (sendBlock data (chunk file) now transfer).ether := by
  rw [sendBlock_eq inRange]
  apply sendData_sendsData
  have small := chunk_length_le file transfer.block
  rw [List.length_append, header_length]
  omega

theorem AtBlock.sendBlock (atBlock : AtBlock file origin transfer transfer.retries.toNat) :
    Sending file origin (sendBlock data (chunk file) now transfer) := by
  have inRange := inRange_of_few atBlock.few
  have sends : SendsData _ transfer.ether
      (TFTPServer.sendBlock data (chunk file) now transfer).ether :=
    sendBlock_sendsData file inRange
  have few := UInt8.le_iff_toNat_le.mp atBlock.retries
  obtain ⟨honest, times⟩ := atBlock.honest.sends sends
    (Nat.le_trans atBlock.attempted few)
  rw [sendBlock_eq inRange] at honest times ⊢
  refine ⟨⟨atBlock.running, atBlock.positive, atBlock.few, atBlock.inside, atBlock.retries,
    honest, ?_, ?_⟩, rfl, ?_⟩
  · intro block later
    rw [times, if_neg (UInt16.ne_of_lt later).symm, atBlock.latest block later]
  · have attempted := atBlock.attempted
    dsimp only at times ⊢
    rw [times, if_pos rfl]
    omega
  · dsimp only at times ⊢
    rw [times, if_pos rfl]
    omega

/-- While packets are received nothing changes for the transfer. -/
theorem Sending.receives {ether : EtherSia} (sending : Sending file origin transfer)
    (quiet : SendsNoDatagram transfer.ether ether) :
    Sending file origin { transfer with ether := ether } := by
  obtain ⟨honest, times⟩ := sending.honest.quiet quiet
  refine ⟨⟨sending.running, sending.positive, sending.few, sending.inside,
    sending.retries, honest, ?_, ?_⟩, sending.len, ?_⟩
  · intro block later
    dsimp only
    rw [times]
    exact sending.latest block later
  · dsimp only
    rw [times]
    exact sending.attempted
  · dsimp only
    rw [times]
    exact sending.sent

theorem Sending.retry (sending : Sending file origin transfer)
    (few : transfer.retries + 1 ≤ TFTP_RETRIES) :
    AtBlock file origin { transfer with retries := transfer.retries + 1 }
      (transfer.retries + 1).toNat := by
  have bound := UInt8.le_iff_toNat_le.mp sending.retries
  have counts : (transfer.retries + 1).toNat = transfer.retries.toNat + 1 := by
    rw [UInt8.toNat_add]
    apply Nat.mod_eq_of_lt
    change _ ≤ 10 at bound
    change _ + 1 < 256
    omega
  refine ⟨sending.running, sending.positive, sending.few, sending.inside, few,
    sending.honest, sending.latest, ?_⟩
  rw [counts]
  exact sending.attempted

theorem Sending.isFull (sending : Sending file origin transfer)
    (full : ¬ transfer.len < TFTP_BLOCK_SIZE) :
    (chunk file transfer.block).length = 512 := by
  rw [sending.len, len_lt_iff] at full
  have small := chunk_length_le file transfer.block
  omega

theorem Sending.next_toNat (sending : Sending file origin transfer) :
    (transfer.block + 1).toNat = transfer.block.toNat + 1 := by
  have few := sending.few
  rw [UInt16.toNat_add]
  apply Nat.mod_eq_of_lt
  change _ + 1 < 65536
  omega

theorem Sending.advance (fits : file.length < 65534 * 512)
    (sending : Sending file origin transfer)
    (full : (chunk file transfer.block).length = 512) :
    AtBlock file origin { transfer with block := transfer.block + 1, retries := 0 } 0 := by
  have next := sending.next_toNat
  have positive := sending.positive
  have later : transfer.block < transfer.block + 1 := by
    rw [UInt16.lt_iff_toNat_lt, next]
    exact Nat.lt_succ_self _
  rw [chunk_length] at full
  have none : (0 : UInt8) ≤ TFTP_RETRIES := by decide
  refine ⟨sending.running, ?_, ?_, ?_, none, sending.honest, ?_, ?_⟩
  · dsimp only
    omega
  · dsimp only
    omega
  · dsimp only
    rw [next]
    omega
  · intro block behind
    apply sending.latest
    exact UInt16.lt_trans later behind
  · exact Nat.le_of_eq (sending.latest _ later)

end Invariant

/-! ### One step of a run -/

theorem ackIn_of_received (data : Socket) {taken : Taken ReadTransfer ReadPass}
    {len : UInt16} {ether : EtherSia}
    (received : taken.before.ether.receivePacket taken.event.frame = some (len, ether)) :
    ackIn data taken =
      if FromClient data TFTP_OPCODE_ACK ether then some (blockNumber ether.buffer)
      else none := by
  unfold ackIn
  rw [received]

theorem acknowledgedIn_of_acked {data : Socket} {taken : Taken ReadTransfer ReadPass}
    {len : UInt16} {ether : EtherSia}
    (received : taken.before.ether.receivePacket taken.event.frame = some (len, ether))
    (message : FromClient data TFTP_OPCODE_ACK ether)
    (isNumber : blockNumber ether.buffer = taken.before.block) :
    acknowledgedIn data taken = some taken.before.block := by
  have acked := ackIn_of_received data received
  rw [if_pos message, isNumber] at acked
  exact if_pos acked

theorem acknowledgedIn_of_not_acked {data : Socket} {taken : Taken ReadTransfer ReadPass}
    {len : UInt16} {ether : EtherSia}
    (received : taken.before.ether.receivePacket taken.event.frame = some (len, ether))
    (notAcked : FromClient data TFTP_OPCODE_ACK ether →
      blockNumber ether.buffer ≠ taken.before.block) :
    acknowledgedIn data taken = none := by
  have acked := ackIn_of_received data received
  apply if_neg
  rw [acked]
  by_cases message : FromClient data TFTP_OPCODE_ACK ether
  · rw [if_pos message]
    intro same
    exact notAcked message (Option.some.inj same)
  · rw [if_neg message]
    exact Option.some_ne_none _ ∘ Eq.symm

/-- No other block is sent in between. -/
def OnlySends (number : UInt16) (before after : EtherSia) : Prop :=
  ∀ octets ∈ framesSent before after, ∀ block : UInt16,
    IsMessage TFTP_OPCODE_DATA block octets → block = number

/-- What a step of a transfer leads to: the same block still, the next one behind the
acknowledgement of a full one, or an end. -/
inductive Leads (data : Socket) (file : List UInt8) (origin : EtherSia)
    (taken : Taken ReadTransfer ReadPass) : Prop
  | same (sending : Sending file origin taken.after)
      (block : taken.after.block = taken.before.block)
      (sends : OnlySends taken.after.block taken.before.ether taken.after.ether)
      (notAcked : acknowledgedIn data taken = none)
  | next (sending : Sending file origin taken.after)
      (block : taken.after.block = taken.before.block + 1)
      (sends : OnlySends taken.after.block taken.before.ether taken.after.ether)
      (acked : acknowledgedIn data taken = some taken.before.block)
      (full : (chunk file taken.before.block).length = 512)
  | gaveUp (honest : Honest file origin taken.after.ether)
      (silent : SendsNoDatagram taken.before.ether taken.after.ether)
      (left : taken.after.left = some .tooManyRetries)
  | finished (honest : Honest file origin taken.after.ether)
      (silent : SendsNoDatagram taken.before.ether taken.after.ether)
      (left : taken.after.left = some .finished)
      (acked : acknowledgedIn data taken = some taken.before.block)
      (short : (chunk file taken.before.block).length < 512)

theorem sendBlock_block {data : Socket} {readBytes : UInt16 → List UInt8} {now : UInt32}
    (transfer : ReadTransfer) :
    (sendBlock data readBytes now transfer).block = transfer.block := by
  unfold sendBlock
  split <;> rfl

theorem sendBlock_onlySends {data : Socket} {file : List UInt8} {now : UInt32}
    {before : EtherSia} {transfer : ReadTransfer}
    (quiet : SendsNoDatagram before transfer.ether)
    (few : transfer.block.toNat ≤ 65534) :
    OnlySends (sendBlock data (chunk file) now transfer).block before
      (sendBlock data (chunk file) now transfer).ether := by
  intro octets member block isMessage
  have sends : SendsData _ transfer.ether
      (sendBlock data (chunk file) now transfer).ether :=
    sendBlock_sendsData file (inRange_of_few few)
  rw [sendBlock_block]
  exact (isMessage_of_sendsData quiet sends member isMessage).2.1

theorem readPass_leads {data : Socket} {file : List UInt8} {origin : EtherSia}
    {before after : ReadTransfer} {pass : ReadPass} (fits : file.length < 65534 * 512)
    (sending : Sending file origin before)
    (stepped : readPass data (chunk file) before pass = some after)
    (takes : AcksFromClient data ⟨before, pass, after⟩) :
    Leads data file origin ⟨before, pass, after⟩ := by
  obtain ⟨_, len, ether, received, continues⟩ := readPass_continues stepped takes
  have quiet := receivePacket_sendsNoDatagram received
  have receiving := sending.receives quiet
  cases continues with
  | waits notAcked same =>
      subst same
      refine .same receiving rfl ?_ (acknowledgedIn_of_not_acked received notAcked)
      intro octets member block isMessage
      exact absurd isMessage (not_isMessage_of_sendsNoDatagram quiet member _ _)
  | resends now notAcked few sends =>
      subst sends
      have atBlock := receiving.retry few
      exact .same (AtBlock.sendBlock atBlock) (sendBlock_block _)
        (sendBlock_onlySends quiet atBlock.few) (acknowledgedIn_of_not_acked received notAcked)
  | givesUp notAcked same gaveUp =>
      rw [← same] at quiet
      exact .gaveUp (sending.honest.quiet quiet).1 quiet gaveUp
  | advances now message isNumber isFull sends =>
      have full := receiving.isFull isFull
      have acked : acknowledgedIn data ⟨before, pass, after⟩ = some before.block :=
        acknowledgedIn_of_acked received message isNumber
      subst sends
      have atNext := receiving.advance fits full
      exact .next (AtBlock.sendBlock atNext) (sendBlock_block _)
        (sendBlock_onlySends quiet atNext.few) acked full
  | finishes message isNumber isLast same finished =>
      rw [sending.len, len_lt_iff] at isLast
      rw [← same] at quiet
      have acked : acknowledgedIn data ⟨before, pass, after⟩ = some before.block :=
        acknowledgedIn_of_acked received message isNumber
      exact .finished (sending.honest.quiet quiet).1 quiet finished acked isLast

/-! ### Whole transfers -/

theorem readPass_of_left (data : Socket) (readBytes : UInt16 → List UInt8)
    {transfer : ReadTransfer} {end_ : ReadEnd} (left : transfer.left = some end_)
    (pass : ReadPass) : readPass data readBytes transfer pass = none := by
  unfold readPass
  rw [left]
  exact if_pos rfl

theorem trace_of_left (data : Socket) (readBytes : UInt16 → List UInt8)
    {transfer : ReadTransfer} {end_ : ReadEnd} (left : transfer.left = some end_)
    (passes : List ReadPass) :
    trace (readPass data readBytes) transfer passes = [] ∧
      reached (readPass data readBytes) transfer passes = transfer := by
  cases passes with
  | nil => exact ⟨rfl, rfl⟩
  | cons pass rest =>
      have stops := readPass_of_left data readBytes left pass
      exact ⟨trace_cons_of_none stops rest, reached_cons_of_none stops rest⟩

theorem acknowledged_cons_of_none {data : Socket} {taken : Taken ReadTransfer ReadPass}
    (none : acknowledgedIn data taken = none) (rest : List (Taken ReadTransfer ReadPass)) :
    acknowledged data (taken :: rest) = acknowledged data rest := by
  unfold acknowledged
  rw [List.filterMap_cons, none]

theorem acknowledged_cons_of_some {data : Socket} {taken : Taken ReadTransfer ReadPass}
    {block : UInt16} (acked : acknowledgedIn data taken = some block)
    (rest : List (Taken ReadTransfer ReadPass)) :
    acknowledged data (taken :: rest) = block :: acknowledged data rest := by
  unfold acknowledged
  rw [List.filterMap_cons, acked]

/-- The chunks of the blocks are the file from `position` on, and the last is short. -/
def RestOfFile (file : List UInt8) (position : Nat) (blocks : List UInt16) : Prop :=
  (blocks.map (chunk file)).flatten = file.drop position ∧
    ∃ last, blocks.getLast? = some last ∧ (chunk file last).length < 512

theorem restOfFile_of_short {file : List UInt8} {block : UInt16}
    (short : (chunk file block).length < 512) :
    RestOfFile file ((block.toNat - 1) * 512) [block] := by
  refine ⟨?_, block, rfl, short⟩
  rw [List.map_singleton, List.flatten_singleton]
  exact chunk_of_short short

theorem RestOfFile.cons {file : List UInt8} {block : UInt16} {blocks : List UInt16}
    (rest : RestOfFile file (block.toNat * 512) blocks) (positive : 0 < block.toNat) :
    RestOfFile file ((block.toNat - 1) * 512) (block :: blocks) := by
  obtain ⟨isRest, last, isLast, short⟩ := rest
  refine ⟨?_, last, ?_, short⟩
  · rw [List.map_cons, List.flatten_cons, isRest]
    exact chunk_append positive
  · rw [List.getLast?_cons, isLast]
    rfl

/-- The run lemma for what is sent and acknowledged. -/
theorem run_acknowledges {data : Socket} {file : List UInt8} {origin : EtherSia}
    {start : ReadTransfer} {passes : List ReadPass} (fits : file.length < 65534 * 512)
    (sending : Sending file origin start)
    (takes : Always (readPass data (chunk file)) start passes (AcksFromClient data)) :
    Honest file origin (reached (readPass data (chunk file)) start passes).ether ∧
      ∀ end_, (reached (readPass data (chunk file)) start passes).left = some end_ →
        end_ ≠ .tooManyRetries →
          RestOfFile file ((start.block.toNat - 1) * 512)
            (acknowledged data (trace (readPass data (chunk file)) start passes)) := by
  induction passes generalizing start with
  | nil =>
      refine ⟨sending.honest, fun end_ left => ?_⟩
      have running : start.left = some end_ := left
      rw [sending.running] at running
      cases running
  | cons pass rest ih =>
      cases stepped : readPass data (chunk file) start pass with
      | none =>
          rw [reached_cons_of_none stepped]
          refine ⟨sending.honest, fun end_ left => ?_⟩
          rw [sending.running] at left
          cases left
      | some next =>
          obtain ⟨takesHere, takesLater⟩ := (always_cons_of_step stepped rest _).mp takes
          rw [reached_cons_of_step stepped, trace_cons_of_step stepped]
          cases readPass_leads fits sending stepped takesHere with
          | same sendingNext block sends notAcked =>
              dsimp only at block sendingNext
              rw [acknowledged_cons_of_none notAcked, ← block]
              exact ih sendingNext takesLater
          | next sendingNext block sends acked full =>
              dsimp only at block sendingNext
              obtain ⟨honest, whole⟩ := ih sendingNext takesLater
              refine ⟨honest, fun end_ left notRetries => ?_⟩
              have later := whole end_ left notRetries
              rw [block, sending.next_toNat, Nat.add_sub_cancel] at later
              rw [acknowledged_cons_of_some acked]
              exact later.cons sending.positive
          | gaveUp honest silent left =>
              obtain ⟨none, stays⟩ := trace_of_left data (chunk file) left rest
              rw [stays]
              refine ⟨honest, fun end_ isEnd notRetries => ?_⟩
              dsimp only at left
              rw [left] at isEnd
              exact absurd (Option.some.inj isEnd).symm notRetries
          | finished honest silent left acked short =>
              obtain ⟨none, stays⟩ := trace_of_left data (chunk file) left rest
              dsimp only at none stays short
              rw [stays, none, acknowledged_cons_of_some acked]
              exact ⟨honest, fun end_ isEnd notRetries => restOfFile_of_short short⟩

/-- A block behind the first is sent only in or behind a step that receives the
acknowledgement of the one before it. -/
def SendsBehindAck (data : Socket) (history steps : List (Taken ReadTransfer ReadPass)) :
    Prop :=
  ∀ earlier taken later, steps = earlier ++ taken :: later →
    ∀ octets ∈ framesSent taken.before.ether taken.after.ether, ∀ block : UInt16,
      IsMessage TFTP_OPCODE_DATA block octets → block = 1 ∨
        ∃ acked ∈ history ++ earlier ++ [taken], ackIn data acked = some (block - 1)

theorem sendsBehindAck_nil (data : Socket)
    (history : List (Taken ReadTransfer ReadPass)) : SendsBehindAck data history [] :=
  fun _ _ _ none => absurd none (List.append_ne_nil_of_right_ne_nil _
    (List.cons_ne_nil _ _)).symm

theorem sendsBehindAck_cons {data : Socket}
    {history rest : List (Taken ReadTransfer ReadPass)}
    {head : Taken ReadTransfer ReadPass}
    (here : ∀ octets ∈ framesSent head.before.ether head.after.ether, ∀ block : UInt16,
      IsMessage TFTP_OPCODE_DATA block octets → block = 1 ∨
        ∃ acked ∈ history ++ [head], ackIn data acked = some (block - 1))
    (behind : SendsBehindAck data (history ++ [head]) rest) :
    SendsBehindAck data history (head :: rest) := by
  intro earlier taken later split
  cases earlier with
  | nil =>
      obtain ⟨rfl, _⟩ := List.cons.inj split
      rw [List.append_nil]
      exact here
  | cons first earlier =>
      obtain ⟨rfl, isRest⟩ := List.cons.inj split
      have later := behind earlier taken later isRest
      rw [List.append_assoc history] at later
      exact later

theorem ackIn_of_acknowledgedIn {data : Socket} {taken : Taken ReadTransfer ReadPass}
    {block : UInt16} (acked : acknowledgedIn data taken = some block) :
    ackIn data taken = some block := by
  unfold acknowledgedIn at acked
  split at acked
  · rename_i received
    rw [← acked]
    exact received
  · cases acked

theorem run_sendsBehindAck {data : Socket} {file : List UInt8} {origin : EtherSia}
    {start : ReadTransfer} {passes : List ReadPass} (fits : file.length < 65534 * 512)
    (sending : Sending file origin start)
    (takes : Always (readPass data (chunk file)) start passes (AcksFromClient data))
    (history : List (Taken ReadTransfer ReadPass))
    (behind : start.block = 1 ∨
      ∃ acked ∈ history, ackIn data acked = some (start.block - 1)) :
    SendsBehindAck data history (trace (readPass data (chunk file)) start passes) := by
  induction passes generalizing start history with
  | nil => exact sendsBehindAck_nil data history
  | cons pass rest ih =>
      cases stepped : readPass data (chunk file) start pass with
      | none =>
          rw [trace_cons_of_none stepped]
          exact sendsBehindAck_nil data history
      | some next =>
          obtain ⟨takesHere, takesLater⟩ := (always_cons_of_step stepped rest _).mp takes
          rw [trace_cons_of_step stepped]
          let head : Taken ReadTransfer ReadPass := ⟨start, pass, next⟩
          cases readPass_leads fits sending stepped takesHere with
          | same sendingNext block sends notAcked =>
              dsimp only at block sendingNext sends
              have still : next.block = 1 ∨
                  ∃ acked ∈ history ++ [head], ackIn data acked = some (next.block - 1) := by
                rw [block]
                rcases behind with first | ⟨acked, member, isAck⟩
                · exact Or.inl first
                · exact Or.inr ⟨acked, List.mem_append_left _ member, isAck⟩
              refine sendsBehindAck_cons (fun octets member number isMessage => ?_)
                (ih sendingNext takesLater _ still)
              rw [sends octets member number isMessage]
              exact still
          | next sendingNext block sends acked full =>
              dsimp only at block sendingNext sends acked
              have now : ∃ acked ∈ history ++ [head],
                  ackIn data acked = some (next.block - 1) := by
                refine ⟨head, List.mem_append_right _ List.mem_cons_self, ?_⟩
                rw [block, UInt16.add_sub_cancel]
                exact ackIn_of_acknowledgedIn acked
              refine sendsBehindAck_cons (fun octets member number isMessage => ?_)
                (ih sendingNext takesLater _ (Or.inr now))
              rw [sends octets member number isMessage]
              exact Or.inr now
          | gaveUp honest silent left =>
              rw [(trace_of_left data (chunk file) left rest).1]
              refine sendsBehindAck_cons (fun octets member number isMessage => ?_)
                (sendsBehindAck_nil data _)
              exact absurd isMessage (not_isMessage_of_sendsNoDatagram silent member _ _)
          | finished honest silent left acked short =>
              rw [(trace_of_left data (chunk file) left rest).1]
              refine sendsBehindAck_cons (fun octets member number isMessage => ?_)
                (sendsBehindAck_nil data _)
              exact absurd isMessage (not_isMessage_of_sendsNoDatagram silent member _ _)

/-- What is acknowledged has been sent before. -/
def AcksSent (data : Socket) (origin : EtherSia)
    (taken : Taken ReadTransfer ReadPass) : Prop :=
  ∀ block, acknowledgedIn data taken = some block →
    ∃ octets ∈ framesSent origin taken.before.ether, IsMessage TFTP_OPCODE_DATA block octets

theorem Sending.acksSent {data : Socket} {file : List UInt8} {origin : EtherSia}
    {taken : Taken ReadTransfer ReadPass} (sending : Sending file origin taken.before) :
    AcksSent data origin taken := by
  intro block acked
  have isBlock : taken.before.block = block := by
    unfold acknowledgedIn at acked
    split at acked
    · exact Option.some.inj acked
    · cases acked
  rw [← isBlock]
  obtain ⟨octets, member, isMessage⟩ := List.countP_pos_iff.mp sending.sent
  exact ⟨octets, member, of_decide_eq_true isMessage⟩

/-- A read transfer of the file: `carries`, `atMost` and `grows` are about all frames
sent since `origin`, the others about the steps behind the call's start. -/
structure ReadsInTurn (data : Socket) (file : List UInt8) (origin : EtherSia)
    (start : ReadTransfer) (passes : List ReadPass) : Prop
    extends Honest file origin (reached (readPass data (chunk file)) start passes).ether where
  first : ∀ octets ∈ framesSent origin start.ether, ∀ block : UInt16,
    IsMessage TFTP_OPCODE_DATA block octets → block = 1
  behindAck : SendsBehindAck data [] (trace (readPass data (chunk file)) start passes)
  acksSent : Always (readPass data (chunk file)) start passes (AcksSent data origin)
  whole : ∀ end_, (reached (readPass data (chunk file)) start passes).left = some end_ →
    end_ ≠ .tooManyRetries →
      ((acknowledged data (trace (readPass data (chunk file)) start passes)).map
          (chunk file)).flatten = file ∧
        ∃ last, (acknowledged data
            (trace (readPass data (chunk file)) start passes)).getLast? = some last ∧
          (chunk file last).length < 512

theorem readStart_sending (data : Socket) (file : List UInt8) (now : UInt32)
    (ether : EtherSia) :
    Sending file ether (readStart data (chunk file) now ether) ∧
      OnlySends 1 ether (readStart data (chunk file) now ether).ether := by
  let initial : ReadTransfer :=
    { ether := ether, block := 1, retries := 0, len := 0, timeout := 0, left := none }
  have nothing : framesSent ether ether = [] := by
    unfold framesSent
    exact List.drop_length
  have atFirst : AtBlock file ether initial 0 := by
    have one : (1 : UInt16).toNat = 1 := rfl
    refine ⟨rfl, ?_, ?_, ?_, UInt8.zero_le, ⟨List.prefix_rfl, ?_, ?_⟩, ?_, ?_⟩
    · exact Nat.lt_of_lt_of_eq Nat.zero_lt_one one.symm
    · exact Nat.le_trans (Nat.le_of_eq one) (by decide)
    · dsimp only [initial]
      rw [one, Nat.sub_self, Nat.zero_mul]
      exact Nat.zero_le _
    · intro octets member
      rw [nothing] at member
      cases member
    · intro block
      rw [nothing]
      exact Nat.zero_le _
    · intro block _
      dsimp only [initial]
      rw [nothing]
      rfl
    · dsimp only [initial]
      rw [nothing]
      exact Nat.le_refl _
  have quiet : SendsNoDatagram ether initial.ether := sendsNoDatagram_of_same rfl
  have sends : OnlySends initial.block ether
      (readStart data (chunk file) now ether).ether := by
    rw [← sendBlock_block initial]
    exact sendBlock_onlySends quiet atFirst.few
  exact ⟨AtBlock.sendBlock atFirst, sends⟩

/-- A read transfer, whatever packets arrive and whatever the clock says, as long as what
is taken for the acknowledgement waited for is one, and comes from the client. -/
theorem read_transfer_in_turn {data : Socket} {file : List UInt8} {now : UInt32}
    {ether : EtherSia} {passes : List ReadPass} (fits : file.length < 65534 * 512)
    (takes : Always (readPass data (chunk file)) (readStart data (chunk file) now ether)
      passes (AcksFromClient data)) :
    ReadsInTurn data file ether (readStart data (chunk file) now ether) passes := by
  obtain ⟨sending, first⟩ := readStart_sending data file now ether
  have isFirst : (readStart data (chunk file) now ether).block = 1 := sendBlock_block _
  obtain ⟨honest, whole⟩ := run_acknowledges fits sending takes
  refine ⟨honest, ?_, ?_, ?_, ?_⟩
  · exact first
  · exact run_sendsBehindAck fits sending takes [] (Or.inl isFirst)
  · refine always_of_invariant
      (fun transfer => transfer.left = none → Sending file ether transfer) ?_ ?_
      (fun _ => sending) takes
    · intro taken stepped invariant takesHere running
      have running' := (readPass_continues stepped takesHere).1
      cases readPass_leads fits (invariant running') stepped takesHere with
      | same sendingNext block sends notAcked => exact sendingNext
      | next sendingNext block sends acked full => exact sendingNext
      | gaveUp honest silent left =>
          rw [left] at running
          cases running
      | finished honest silent left acked short =>
          rw [left] at running
          cases running
    · intro taken stepped invariant takesHere
      exact (invariant (readPass_continues stepped takesHere).1).acksSent
  · intro end_ left notRetries
    have rest := whole end_ left notRetries
    rw [isFirst] at rest
    exact rest

/-! ### A file of three bytes -/

def exampleFile : List UInt8 :=
  [0x61, 0x62, 0x63]

def exampleRead : ReadTransfer :=
  readStart (exampleTransfer 1000) (chunk exampleFile) 0
    (EtherSia.configured (exampleMac 1) fun _ => 0)

/-- ACK(1), from port 1000. -/
def exampleAck : ReadPass where
  frame := exampleFrame 12 IP6_PROTO_UDP
    [0x03, 0xe8, 0x4e, 0x20, 0, 12, 0xb2, 0xc4, 0, 4, 0, 1] (by decide)
  testTime := 1
  restartTime := 2

/-- The first two bytes of an ACK, and no number. -/
def exampleCutAck : ReadPass where
  frame := exampleFrame 10 IP6_PROTO_UDP
    [0x03, 0xe8, 0x4e, 0x20, 0, 10, 0xb2, 0xc9, 0, 4] (by decide)
  testTime := 1
  restartTime := 2

theorem read_transfer_in_turn_example :
    ReadsInTurn (exampleTransfer 1000) exampleFile
      (EtherSia.configured (exampleMac 1) fun _ => 0) exampleRead [exampleAck] := by
  apply read_transfer_in_turn
  · decide
  · decide +kernel

theorem exampleCutAck_finishes :
    (reached (readPass (exampleTransfer 1000) (chunk exampleFile)) exampleRead
        [exampleCutAck]).left = some .finished ∧
      acknowledged (exampleTransfer 1000)
        (trace (readPass (exampleTransfer 1000) (chunk exampleFile)) exampleRead
          [exampleCutAck]) = [] := by
  decide +kernel

/-- The number that is missing is read from the block in the buffer; the transfer is
finished without an acknowledgement. -/
theorem read_transfer_completes_cut_ack :
    ¬ ReadsInTurn (exampleTransfer 1000) exampleFile
      (EtherSia.configured (exampleMac 1) fun _ => 0) exampleRead [exampleCutAck] := by
  intro inTurn
  have whole := inTurn.whole .finished exampleCutAck_finishes.1 (by decide)
  rw [exampleCutAck_finishes.2] at whole
  cases whole.1

end TFTPServer

end EtherSiaStack
