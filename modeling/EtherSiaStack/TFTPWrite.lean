/-
Write transfers of the TFTP server.

The blocks handed to `writeBytes` are compared with the messages of the client alone:
of the DATA messages that come from its address and its port, the first with number 1,
then the first with number 2, and so on up to a block that is not full.
-/

import EtherSiaStack.TFTPServer

namespace EtherSiaStack

open ByteMemory IPv6Packet Trace

namespace TFTPServer

/-! ### The blocks in turn -/

/-- What a DATA message carries behind its header. -/
def dataBytes (packet : Memory) : List UInt8 :=
  bytesAt packet (UDPSocket.payload + 4) ((UDPHeader.length packet).toNat - 12)

/-- From `expected` on, the first message of each block, up to one that is not full. -/
def firstOfEach : Nat → List (UInt16 × List UInt8) → List (UInt16 × List UInt8)
  | _, [] => []
  | expected, (block, bytes) :: rest =>
      if block.toNat = expected then
        (block, bytes) :: if bytes.length = 512 then firstOfEach (expected + 1) rest else []
      else firstOfEach expected rest

section FirstOfEach

variable {block : UInt16} {bytes : List UInt8} {expected : Nat}

theorem firstOfEach_next (isNext : block.toNat = expected) (isFull : bytes.length = 512)
    (rest : List (UInt16 × List UInt8)) :
    firstOfEach expected ((block, bytes) :: rest) =
      (block, bytes) :: firstOfEach (expected + 1) rest := by
  rw [firstOfEach, if_pos isNext, if_pos isFull]

theorem firstOfEach_last (isNext : block.toNat = expected)
    (notFull : bytes.length ≠ 512) (rest : List (UInt16 × List UInt8)) :
    firstOfEach expected ((block, bytes) :: rest) = [(block, bytes)] := by
  rw [firstOfEach, if_pos isNext, if_neg notFull]

theorem firstOfEach_skip (other : block.toNat ≠ expected)
    (rest : List (UInt16 × List UInt8)) :
    firstOfEach expected ((block, bytes) :: rest) = firstOfEach expected rest := by
  rw [firstOfEach, if_neg other]

end FirstOfEach

/-- The numbers count up from the first, and every block but the last is full. -/
theorem firstOfEach_inOrder (messages : List (UInt16 × List UInt8)) (expected : Nat)
    (index : Nat) (inside : index < (firstOfEach expected messages).length) :
    ((firstOfEach expected messages)[index]).1.toNat = expected + index ∧
      (index + 1 < (firstOfEach expected messages).length →
        ((firstOfEach expected messages)[index]).2.length = 512) := by
  induction messages generalizing expected index with
  | nil => exact absurd inside (Nat.not_lt_zero _)
  | cons message rest ih =>
      obtain ⟨block, bytes⟩ := message
      by_cases isNext : block.toNat = expected
      · by_cases isFull : bytes.length = 512
        · simp only [firstOfEach_next isNext isFull] at inside ⊢
          cases index with
          | zero => exact ⟨isNext, fun _ => isFull⟩
          | succ index =>
              rw [List.length_cons] at inside ⊢
              obtain ⟨number, full⟩ := ih (expected + 1) index (by omega)
              rw [List.getElem_cons_succ]
              exact ⟨by omega, fun more => full (by omega)⟩
        · simp only [firstOfEach_last isNext isFull, List.length_singleton] at inside ⊢
          obtain rfl : index = 0 := by omega
          exact ⟨isNext, fun more => absurd more (by decide)⟩
      · simp only [firstOfEach_skip isNext] at inside ⊢
        exact ih expected index inside

/-! ### One pass -/

/-- The message of the client that a pass receives. -/
def dataIn (data : Socket) (taken : Taken WriteTransfer WritePass) :
    Option (UInt16 × List UInt8) :=
  match taken.before.ether.receivePacket taken.event.frame with
  | none => none
  | some (_, ether) =>
      if FromClient data TFTP_OPCODE_DATA ether then
        some (blockNumber ether.buffer, dataBytes ether.buffer)
      else none

/-- What a pass receives has the property. -/
def OnReceived (property : WriteTransfer → EtherSia → Prop)
    (taken : Taken WriteTransfer WritePass) : Prop :=
  OnReceipt taken.before.ether taken.event.frame (property taken.before)

instance {property : WriteTransfer → EtherSia → Prop}
    [∀ transfer ether, Decidable (property transfer ether)] :
    DecidablePred (OnReceived property) := fun taken =>
  inferInstanceAs (Decidable (OnReceipt _ _ (property taken.before)))

/-- DATA messages have at least the four bytes of their header. -/
def LongMessages (data : Socket) : Taken WriteTransfer WritePass → Prop :=
  OnReceived fun _ ether => LongEnough data TFTP_OPCODE_DATA ether

/-- The packet taken for the block that is waited for comes from the client, and it is
not taken for a block behind number 65535. -/
def TakesFromClient (data : Socket) (before : WriteTransfer) (ether : EtherSia) : Prop :=
  UDPSocket.havePacket data ether = true →
    hasOpcode ether.buffer TFTP_OPCODE_DATA = true →
      blockNumber ether.buffer = before.expectedBlock →
        SentByClient data ether ∧ before.expectedBlock ≠ 0

instance (data : Socket) (before : WriteTransfer) (ether : EtherSia) :
    Decidable (TakesFromClient data before ether) :=
  inferInstanceAs (Decidable (_ → _ → _ → _))

def OneTransfer (data : Socket) : Taken WriteTransfer WritePass → Prop :=
  OnReceived (TakesFromClient data)

instance (data : Socket) : DecidablePred (LongMessages data) :=
  inferInstanceAs (DecidablePred (OnReceived _))

instance (data : Socket) : DecidablePred (OneTransfer data) :=
  inferInstanceAs (DecidablePred (OnReceived _))

/-- The number expected counts the blocks written, each of which is there. -/
structure Counts (transfer : WriteTransfer) : Prop where
  few : transfer.written.length ≤ 65535
  expected : transfer.expectedBlock = UInt16.ofNat (transfer.written.length + 1)
  holds : ∀ number, 0 < number → number ≤ transfer.written.length →
    ∃ entry ∈ transfer.written, entry.1.toNat = number

section HandleData

variable {data : Socket} {writeTime : UInt32} {transfer : WriteTransfer}

theorem handleData_next
    (isNext : blockNumber transfer.ether.buffer = transfer.expectedBlock) :
    handleData data writeTime transfer = { transfer with
      ether := sendAck data transfer.expectedBlock transfer.ether
      written := transfer.written ++ [(transfer.expectedBlock,
        bytesAt (sendAck data transfer.expectedBlock transfer.ether).buffer
          (UDPSocket.payload + 4)
          (UDPSocket.payloadLength transfer.ether.buffer - 4).toNat)]
      expectedBlock := transfer.expectedBlock + 1
      timeout := writeTime + TFTP_DATA_TIMEOUT
      ended := UDPSocket.payloadLength transfer.ether.buffer - 4 ≠ TFTP_BLOCK_SIZE } := by
  unfold handleData
  dsimp only
  rw [isNext, if_pos (UInt16.le_refl _), if_pos rfl]

theorem handleData_past
    (isPast : blockNumber transfer.ether.buffer < transfer.expectedBlock) :
    handleData data writeTime transfer = { transfer with
      ether := sendAck data (blockNumber transfer.ether.buffer) transfer.ether } := by
  unfold handleData
  dsimp only
  rw [if_pos (UInt16.le_of_lt isPast), if_neg (UInt16.ne_of_lt isPast)]

theorem handleData_future
    (isFuture : transfer.expectedBlock < blockNumber transfer.ether.buffer) :
    handleData data writeTime transfer = transfer := by
  unfold handleData
  dsimp only
  rw [if_neg (UInt16.not_le.mpr isFuture), if_neg (UInt16.ne_of_lt isFuture).symm]

end HandleData

/-- An ACK is built in front of the data it acknowledges. -/
theorem sendAck_agree (sock : Socket) (block : UInt16) (ether : EtherSia) (last : Nat) :
    Agree (sendAck sock block ether).buffer ether.buffer 66 last := by
  have start : UDPSocket.payload = 62 := rfl
  let written := ether.modifyPacket fun packet =>
    store packet UDPSocket.payload (header TFTP_OPCODE_ACK block)
  have sends : Agree (sendAck sock block ether).buffer
      (sock.prepare false written).buffer 66 last :=
    UDPSocket.sendInternal_agree sock 4 false (sock.prepare false written)
      (Or.inr (Or.inr (by decide)))
  have prepares : Agree (sock.prepare false written).buffer written.buffer 66 last :=
    (sock.prepare_payload false written last).mono (by decide) (Nat.le_refl _)
  have headed : Agree written.buffer ether.buffer 66 last :=
    agree_store _ _ (Or.inr (by rw [header_length, start]))
  exact (sends.trans prepares).trans headed

theorem sendAck_dataBytes (sock : Socket) (block : UInt16) (ether : EtherSia)
    (count : Nat) :
    bytesAt (sendAck sock block ether).buffer (UDPSocket.payload + 4) count =
      bytesAt ether.buffer (UDPSocket.payload + 4) count :=
  (sendAck_agree sock block ether (66 + count)).bytesAt_eq (Nat.le_refl _) (Nat.le_refl _)

theorem len_toNat {packet : Memory} (whole : 12 ≤ (UDPHeader.length packet).toNat) :
    (UDPSocket.payloadLength packet - 4).toNat = (UDPHeader.length packet).toNat - 12 := by
  have inHeader : UDP_HEADER_LEN ≤ UDPHeader.length packet := by
    rw [UInt16.le_iff_toNat_le]
    change 8 ≤ _
    omega
  have length : (UDPSocket.payloadLength packet).toNat =
      (UDPHeader.length packet).toNat - 8 := UInt16.toNat_sub_of_le _ _ inHeader
  have inMessage : 4 ≤ UDPSocket.payloadLength packet := by
    rw [UInt16.le_iff_toNat_le, length]
    change 4 ≤ _
    omega
  rw [UInt16.toNat_sub_of_le _ _ inMessage, length]
  change _ - 8 - 4 = _
  omega

theorem len_eq_iff {packet : Memory} (whole : 12 ≤ (UDPHeader.length packet).toNat) :
    UDPSocket.payloadLength packet - 4 = TFTP_BLOCK_SIZE ↔
      (dataBytes packet).length = 512 := by
  rw [← UInt16.toNat_inj, len_toNat whole, dataBytes, bytesAt_length]
  exact Iff.rfl

/-- What a pass does with what it receives: it writes the block it waits for,
acknowledges an earlier one, or leaves the transfer as it is. -/
inductive Passes (data : Socket) (before : WriteTransfer) (ether : EtherSia)
    (after : WriteTransfer) : Prop
  | writes (message : FromClient data TFTP_OPCODE_DATA ether)
      (isNext : blockNumber ether.buffer = before.expectedBlock)
      (room : before.expectedBlock ≠ 0)
      (acknowledged : after.ether = sendAck data before.expectedBlock ether)
      (written : after.written =
        before.written ++ [(before.expectedBlock, dataBytes ether.buffer)])
      (expected : after.expectedBlock = before.expectedBlock + 1)
      (ended : (dataBytes ether.buffer).length ≠ 512 → after.ended = true)
  | acknowledges (isPast : blockNumber ether.buffer < before.expectedBlock)
      (acknowledged : after.ether = sendAck data (blockNumber ether.buffer) ether)
      (written : after.written = before.written)
      (expected : after.expectedBlock = before.expectedBlock)
  | ignores (notNext : FromClient data TFTP_OPCODE_DATA ether →
        blockNumber ether.buffer ≠ before.expectedBlock)
      (silent : after.ether = ether)
      (written : after.written = before.written)
      (expected : after.expectedBlock = before.expectedBlock)

theorem handleReceived_passes {data : Socket} {writeTime : UInt32}
    {transfer : WriteTransfer} (long : LongEnough data TFTP_OPCODE_DATA transfer.ether)
    (takes : TakesFromClient data transfer transfer.ether) :
    Passes data transfer transfer.ether (handleReceived data writeTime transfer) := by
  unfold handleReceived
  by_cases taken : UDPSocket.havePacket data transfer.ether = true ∧
      hasOpcode transfer.ether.buffer TFTP_OPCODE_DATA = true
  · rw [if_pos taken]
    rcases Nat.lt_trichotomy (blockNumber transfer.ether.buffer).toNat
      transfer.expectedBlock.toNat with isPast | isNext | isFuture
    · rw [← UInt16.lt_iff_toNat_lt] at isPast
      rw [handleData_past isPast]
      exact .acknowledges isPast rfl rfl rfl
    · have isNext := UInt16.toNat_inj.mp isNext
      obtain ⟨sent, room⟩ := takes taken.1 taken.2 isNext
      have message := fromClient_of_taken taken.1 taken.2 long sent
      rw [handleData_next isNext, sendAck_dataBytes, len_toNat message.whole]
      refine .writes message isNext room rfl rfl rfl fun notFull => ?_
      exact decide_eq_true fun isFull => notFull ((len_eq_iff message.whole).mp isFull)
    · rw [← UInt16.lt_iff_toNat_lt] at isFuture
      rw [handleData_future isFuture]
      exact .ignores (fun _ => (UInt16.ne_of_lt isFuture).symm) rfl rfl rfl
  · rw [if_neg taken]
    refine .ignores (fun message => ?_) rfl rfl rfl
    exact absurd ⟨message.taken, message.isMessage⟩ taken

/-- The test of the timeout may end the transfer besides. -/
theorem Passes.of_timeout {data : Socket} {before after : WriteTransfer}
    {ether : EtherSia} (passes : Passes data before ether after) :
    Passes data before ether { after with ended := true } := by
  cases passes with
  | writes message isNext room acknowledged written expected =>
      exact .writes message isNext room acknowledged written expected fun _ => rfl
  | acknowledges isPast acknowledged written expected =>
      exact .acknowledges isPast acknowledged written expected
  | ignores notNext silent written expected =>
      exact .ignores notNext silent written expected

theorem Passes.of_receiving {data : Socket} {before after : WriteTransfer}
    {ether : EtherSia} (passes : Passes data { before with ether := ether } ether after) :
    Passes data before ether after := by
  cases passes with
  | writes message isNext room acknowledged written expected ended =>
      exact .writes message isNext room acknowledged written expected ended
  | acknowledges isPast acknowledged written expected =>
      exact .acknowledges isPast acknowledged written expected
  | ignores notNext silent written expected =>
      exact .ignores notNext silent written expected

theorem writePass_passes {data : Socket} {before after : WriteTransfer} {pass : WritePass}
    (stepped : writePass data before pass = some after)
    (long : LongMessages data ⟨before, pass, after⟩)
    (one : OneTransfer data ⟨before, pass, after⟩) :
    ∃ len ether, before.ether.receivePacket pass.frame = some (len, ether) ∧
      Passes data before ether after := by
  unfold writePass at stepped
  split at stepped
  · cases stepped
  · obtain ⟨⟨len, ether⟩, received, same⟩ := Option.map_eq_some_iff.mp stepped
    refine ⟨len, ether, received, ?_⟩
    let receiving : WriteTransfer := { before with ether := ether }
    have passes : Passes data receiving ether
        (handleReceived data pass.writeTime receiving) :=
      handleReceived_passes (long len ether received) (one len ether received)
    dsimp only at same
    split at same
    · cases same
      exact passes.of_timeout.of_receiving
    · cases same
      exact passes.of_receiving

/-! ### Blocks and acknowledgements -/

theorem Counts.expected_toNat {transfer : WriteTransfer} (counts : Counts transfer)
    (room : transfer.expectedBlock ≠ 0) :
    transfer.expectedBlock.toNat = transfer.written.length + 1 := by
  have few := counts.few
  have wrapped : (UInt16.ofNat (transfer.written.length + 1)).toNat =
      (transfer.written.length + 1) % 65536 := UInt16.toNat_ofNat'
  rw [counts.expected] at room ⊢
  rw [wrapped]
  apply Nat.mod_eq_of_lt
  by_contra full
  have last : transfer.written.length + 1 = 65536 := by omega
  rw [last] at room
  exact room rfl

theorem Passes.counts {data : Socket} {before after : WriteTransfer} {ether : EtherSia}
    (passes : Passes data before ether after) (counts : Counts before) :
    Counts after := by
  cases passes with
  | writes message isNext room acknowledged written expected ended =>
      have number := counts.expected_toNat room
      have bound := before.expectedBlock.toNat_lt
      have longer : after.written.length = before.written.length + 1 := by
        rw [written, List.length_append, List.length_singleton]
      constructor
      · change _ < 65536 at bound
        omega
      · rw [expected, counts.expected, longer]
        exact (UInt16.ofNat_add (before.written.length + 1) 1).symm
      · intro wanted positive inside
        rw [written]
        by_cases isLast : wanted = before.written.length + 1
        · exact ⟨_, List.mem_append_right _ List.mem_cons_self, number.trans isLast.symm⟩
        · obtain ⟨entry, member, isWanted⟩ := counts.holds wanted positive (by omega)
          exact ⟨entry, List.mem_append_left _ member, isWanted⟩
  | acknowledges isPast acknowledged written expected =>
      obtain ⟨few, expects, holds⟩ := counts
      rw [← written] at few expects holds
      exact ⟨few, expected.trans expects, holds⟩
  | ignores notNext silent written expected =>
      obtain ⟨few, expects, holds⟩ := counts
      rw [← written] at few expects holds
      exact ⟨few, expected.trans expects, holds⟩

/-- An ACK sent for a block other than 0 finds it written. -/
def AcksWritten (taken : Taken WriteTransfer WritePass) : Prop :=
  ∀ octets ∈ framesSent taken.before.ether taken.after.ether, ∀ block : UInt16,
    block ≠ 0 → IsMessage TFTP_OPCODE_ACK block octets →
      ∃ bytes, (block, bytes) ∈ taken.after.written

theorem Counts.written_of_le {transfer : WriteTransfer} (counts : Counts transfer)
    {block : UInt16} (nonzero : block ≠ 0)
    (inside : block.toNat ≤ transfer.written.length) :
    ∃ bytes, (block, bytes) ∈ transfer.written := by
  have positive : 0 < block.toNat := by
    apply Nat.pos_of_ne_zero
    intro zero
    exact nonzero (UInt16.toNat_inj.mp zero)
  obtain ⟨⟨number, bytes⟩, member, isBlock⟩ := counts.holds block.toNat positive inside
  obtain rfl : number = block := UInt16.toNat_inj.mp isBlock
  exact ⟨bytes, member⟩

theorem Passes.acksWritten {data : Socket} {before after : WriteTransfer}
    {ether : EtherSia} {pass : WritePass} (passes : Passes data before ether after)
    (quiet : SendsNoDatagram before.ether ether) (counts : Counts before)
    (countsAfter : Counts after) : AcksWritten ⟨before, pass, after⟩ := by
  intro octets member block nonzero isAck
  dsimp only at member ⊢
  cases passes with
  | writes message isNext room acknowledged written expected ended =>
      have sends := sendAck_sendsData data before.expectedBlock ether
      rw [← acknowledged, ← List.append_nil (header _ _)] at sends
      obtain ⟨_, rfl, _⟩ := isMessage_of_sendsData quiet sends member isAck
      rw [written]
      exact ⟨_, List.mem_append_right _ List.mem_cons_self⟩
  | acknowledges isPast acknowledged written expected =>
      have sends := sendAck_sendsData data (blockNumber ether.buffer) ether
      rw [← acknowledged, ← List.append_nil (header _ _)] at sends
      obtain ⟨_, rfl, _⟩ := isMessage_of_sendsData quiet sends member isAck
      apply countsAfter.written_of_le nonzero
      rw [written]
      have room : before.expectedBlock ≠ 0 := by
        intro full
        rw [full] at isPast
        exact absurd isPast (UInt16.not_lt_zero)
      have number := counts.expected_toNat room
      have below := UInt16.lt_iff_toNat_lt.mp isPast
      omega
  | ignores notNext silent written expected =>
      rw [silent] at member
      exact absurd isAck (not_isMessage_of_sendsNoDatagram quiet member _ _)

/-! ### Whole transfers -/

theorem Counts.next_of_toNat {transfer : WriteTransfer} (counts : Counts transfer)
    {block : UInt16} (isNext : block.toNat = transfer.written.length + 1) :
    block = transfer.expectedBlock := by
  rw [counts.expected, ← isNext, UInt16.ofNat_toNat]

theorem dataIn_of_received (data : Socket) {taken : Taken WriteTransfer WritePass}
    {len : UInt16} {ether : EtherSia}
    (received : taken.before.ether.receivePacket taken.event.frame = some (len, ether)) :
    dataIn data taken =
      if FromClient data TFTP_OPCODE_DATA ether then
        some (blockNumber ether.buffer, dataBytes ether.buffer)
      else none := by
  unfold dataIn
  rw [received]

/-- The messages of the client that the passes taken receive. -/
def messages (data : Socket) (steps : List (Taken WriteTransfer WritePass)) :
    List (UInt16 × List UInt8) :=
  steps.filterMap (dataIn data)

theorem messages_cons_of_none {data : Socket} {taken : Taken WriteTransfer WritePass}
    (none : dataIn data taken = none) (rest : List (Taken WriteTransfer WritePass)) :
    messages data (taken :: rest) = messages data rest := by
  unfold messages
  rw [List.filterMap_cons, none]

theorem messages_cons_of_some {data : Socket} {taken : Taken WriteTransfer WritePass}
    {message : UInt16 × List UInt8} (some_ : dataIn data taken = some message)
    (rest : List (Taken WriteTransfer WritePass)) :
    messages data (taken :: rest) = message :: messages data rest := by
  unfold messages
  rw [List.filterMap_cons, some_]

/-- A message that is not the next one changes nothing. -/
theorem firstOfEach_messages_skip {data : Socket} {taken : Taken WriteTransfer WritePass}
    {len : UInt16} {ether : EtherSia} {expected : Nat}
    (received : taken.before.ether.receivePacket taken.event.frame = some (len, ether))
    (notNext : FromClient data TFTP_OPCODE_DATA ether →
      (blockNumber ether.buffer).toNat ≠ expected)
    (rest : List (Taken WriteTransfer WritePass)) :
    firstOfEach expected (messages data (taken :: rest)) =
      firstOfEach expected (messages data rest) := by
  have message := dataIn_of_received data received
  by_cases fromClient : FromClient data TFTP_OPCODE_DATA ether
  · rw [if_pos fromClient] at message
    rw [messages_cons_of_some message, firstOfEach_skip (notNext fromClient)]
  · rw [if_neg fromClient] at message
    rw [messages_cons_of_none message]

theorem writePass_of_ended (data : Socket) {transfer : WriteTransfer}
    (ended : transfer.ended = true) (pass : WritePass) :
    writePass data transfer pass = none :=
  if_pos ended

theorem trace_of_ended (data : Socket) {transfer : WriteTransfer}
    (ended : transfer.ended = true) (passes : List WritePass) :
    trace (writePass data) transfer passes = [] ∧
      reached (writePass data) transfer passes = transfer := by
  cases passes with
  | nil => exact ⟨rfl, rfl⟩
  | cons pass rest =>
      have stops := writePass_of_ended data ended pass
      exact ⟨trace_cons_of_none stops rest, reached_cons_of_none stops rest⟩

/-- The run lemma: behind the blocks written so far come the first messages of the
blocks that follow. -/
theorem run_writes {data : Socket} {start : WriteTransfer} {passes : List WritePass}
    (counts : Counts start)
    (long : Always (writePass data) start passes (LongMessages data))
    (one : Always (writePass data) start passes (OneTransfer data)) :
    (reached (writePass data) start passes).written = start.written ++
        firstOfEach (start.written.length + 1)
          (messages data (trace (writePass data) start passes)) ∧
      Always (writePass data) start passes AcksWritten := by
  induction passes generalizing start with
  | nil =>
      refine ⟨(List.append_nil _).symm, fun taken member => ?_⟩
      exact absurd member List.not_mem_nil
  | cons pass rest ih =>
      cases stepped : writePass data start pass with
      | none =>
          rw [trace_cons_of_none stepped, reached_cons_of_none stepped]
          refine ⟨(List.append_nil _).symm, fun taken member => ?_⟩
          rw [trace_cons_of_none stepped] at member
          exact absurd member List.not_mem_nil
      | some next =>
          obtain ⟨longHere, longLater⟩ := (always_cons_of_step stepped rest _).mp long
          obtain ⟨oneHere, oneLater⟩ := (always_cons_of_step stepped rest _).mp one
          obtain ⟨len, ether, received, passed⟩ :=
            writePass_passes stepped longHere oneHere
          have countsNext := passed.counts counts
          have quiet := receivePacket_sendsNoDatagram received
          have acks : AcksWritten ⟨start, pass, next⟩ :=
            passed.acksWritten quiet counts countsNext
          obtain ⟨writes, acksLater⟩ := ih countsNext longLater oneLater
          refine ⟨?_, (always_cons_of_step stepped rest _).mpr ⟨acks, acksLater⟩⟩
          rw [reached_cons_of_step stepped, trace_cons_of_step stepped]
          cases passed with
          | writes message isNext room acknowledged written expected ended =>
              have number := counts.expected_toNat room
              have isMessage : dataIn data ⟨start, pass, next⟩ =
                  some (start.expectedBlock, dataBytes ether.buffer) := by
                rw [dataIn_of_received data received, if_pos message, isNext]
              rw [messages_cons_of_some isMessage]
              by_cases isFull : (dataBytes ether.buffer).length = 512
              · rw [firstOfEach_next number isFull, writes, written, List.length_append,
                  List.length_singleton, List.append_assoc, List.singleton_append]
              · obtain ⟨noMore, stays⟩ := trace_of_ended data (ended isFull) rest
                rw [firstOfEach_last number isFull, stays, written]
          | acknowledges isPast acknowledged written expected =>
              rw [firstOfEach_messages_skip received, ← written]
              · exact writes
              · intro _ isNext
                rw [counts.next_of_toNat isNext] at isPast
                exact absurd isPast (UInt16.lt_irrefl _)
          | ignores notNext silent written expected =>
              rw [firstOfEach_messages_skip received, ← written]
              · exact writes
              · intro fromClient isNext
                exact notNext fromClient (counts.next_of_toNat isNext)

/-- The calls of `writeBytes` during a transfer. -/
def writesOf (data : Socket) (start : WriteTransfer) (passes : List WritePass) :
    List (UInt16 × List UInt8) :=
  (reached (writePass data) start passes).written

/-- The blocks written are the first of each number that the client sends in turn; all
but the last are full, and only written blocks are acknowledged. -/
structure WritesInTurn (data : Socket) (start : WriteTransfer) (passes : List WritePass) :
    Prop where
  firsts : writesOf data start passes =
    firstOfEach 1 (messages data (trace (writePass data) start passes))
  few : (writesOf data start passes).length ≤ 65535
  numbered : ∀ index (inside : index < (writesOf data start passes).length),
    ((writesOf data start passes)[index]).1.toNat = index + 1
  full : ∀ index (inside : index + 1 < (writesOf data start passes).length),
    ((writesOf data start passes)[index]).2.length = 512
  acks : Always (writePass data) start passes AcksWritten

theorem writeStart_counts (data : Socket) (now : UInt32) (ether : EtherSia) :
    Counts (writeStart data now ether) where
  few := Nat.zero_le _
  expected := rfl
  holds := fun number positive inside => by
    have none : (writeStart data now ether).written.length = 0 := rfl
    omega

/-- A write transfer, whatever packets arrive and whatever the clock says, as long as no
other sender gets past the socket's filters and no block is numbered 0 behind block
65535. -/
theorem write_transfer_in_turn {data : Socket} {now : UInt32} {ether : EtherSia}
    {passes : List WritePass}
    (long : Always (writePass data) (writeStart data now ether) passes (LongMessages data))
    (one : Always (writePass data) (writeStart data now ether) passes (OneTransfer data)) :
    WritesInTurn data (writeStart data now ether) passes := by
  obtain ⟨writes, acks⟩ := run_writes (writeStart_counts data now ether) long one
  have firsts : writesOf data (writeStart data now ether) passes = firstOfEach 1
      (messages data (trace (writePass data) (writeStart data now ether) passes)) := writes
  have numbered : ∀ index
      (inside : index < (writesOf data (writeStart data now ether) passes).length),
      ((writesOf data (writeStart data now ether) passes)[index]).1.toNat = index + 1 := by
    intro index inside
    simp only [firsts] at inside ⊢
    rw [(firstOfEach_inOrder _ 1 index inside).1, Nat.add_comm]
  refine ⟨firsts, ?_, numbered, ?_, acks⟩
  · by_contra many
    have last := numbered 65535 (by omega)
    have bound := UInt16.toNat_lt
      ((writesOf data (writeStart data now ether) passes)[65535]).1
    change _ < 65536 at bound
    omega
  · intro index inside
    simp only [firsts] at inside ⊢
    exact (firstOfEach_inOrder _ 1 index (by omega)).2 inside

/-! ### A file of three bytes -/

def exampleWrite (remotePort : UInt16) : WriteTransfer :=
  writeStart (exampleTransfer remotePort) 0 (EtherSia.configured (exampleMac 1) fun _ => 0)

/-- DATA(1) with "abc", from port 1000. -/
def exampleData : WritePass where
  frame := exampleFrame 15 IP6_PROTO_UDP
    [0x03, 0xe8, 0x4e, 0x20, 0, 15, 0xee, 0x5c, 0, 3, 0, 1, 0x61, 0x62, 0x63] (by decide)
  writeTime := 1
  testTime := 2

theorem write_transfer_in_turn_example :
    WritesInTurn (exampleTransfer 1000) (exampleWrite 1000) [exampleData] := by
  apply write_transfer_in_turn
  · decide +kernel
  · decide +kernel

theorem exampleData_written :
    writesOf (exampleTransfer 0) (exampleWrite 0) [exampleData] =
        [(1, [0x61, 0x62, 0x63])] ∧
      messages (exampleTransfer 0)
        (trace (writePass (exampleTransfer 0)) (exampleWrite 0) [exampleData]) = [] := by
  decide +kernel

/-- The request came from port 0; data from port 1000 is written. -/
theorem write_transfer_takes_foreign_data :
    ¬ WritesInTurn (exampleTransfer 0) (exampleWrite 0) [exampleData] := by
  intro inTurn
  have firsts := inTurn.firsts
  rw [exampleData_written.1, exampleData_written.2] at firsts
  cases firsts

end TFTPServer

end EtherSiaStack
