/-
Files put into a store and got back from it.

A write transfer hands its blocks to a store, a read transfer takes them from there.  At any
time of a put, the store has what it had before, with the blocks written so far over its
start; a get of it is a read transfer of the file that the contents are.
-/

import EtherSiaStack.BlockStores
import EtherSiaStack.TFTPWrite

namespace EtherSiaStack

open TFTPServer Trace Overwrite

/-! ### A put -/

namespace TFTPServer

/-- Blocks are numbered up to how many there are. -/
def Numbered (transfer : WriteTransfer) : Prop :=
  ∀ entry ∈ transfer.written, entry.1.toNat ≤ transfer.written.length

/-- No acknowledgement is for a block behind these. -/
def AcksWithin (count : Nat) (taken : Taken WriteTransfer WritePass) : Prop :=
  ∀ octets ∈ framesSent taken.before.ether taken.after.ether, ∀ block : UInt16,
    block ≠ 0 → IsMessage TFTP_OPCODE_ACK block octets → block.toNat ≤ count

/-- An acknowledgement of the block is sent. -/
def AcksBlock (block : Nat) (taken : Taken WriteTransfer WritePass) : Prop :=
  ∃ octets ∈ framesSent taken.before.ether taken.after.ether,
    IsMessage TFTP_OPCODE_ACK (UInt16.ofNat block) octets

instance (block : Nat) : DecidablePred (AcksBlock block) := fun _ =>
  inferInstanceAs (Decidable (∃ octets ∈ _, _))

section Put

variable {data : Socket}

theorem Passes.numbered {before after : WriteTransfer} {ether : EtherSia}
    (passes : Passes data before ether after) (counts : Counts before)
    (numbered : Numbered before) :
    Numbered after ∧ before.written <+: after.written := by
  cases passes with
  | writes message isNext room acknowledged written expected ended =>
      have number := counts.expected_toNat room
      refine ⟨fun entry member => ?_, ⟨_, written.symm⟩⟩
      rw [written, List.length_append, List.length_singleton] at *
      rcases List.mem_append.mp member with earlier | here
      · exact Nat.le_succ_of_le (numbered entry earlier)
      · rw [List.mem_singleton.mp here, number]
  | acknowledges isPast acknowledged written expected =>
      unfold Numbered
      rw [written]
      exact ⟨numbered, List.prefix_rfl⟩
  | ignores notNext silent written expected =>
      unfold Numbered
      rw [written]
      exact ⟨numbered, List.prefix_rfl⟩

/-- Whatever has been acknowledged is among the blocks written. -/
theorem run_acknowledges_written {start : WriteTransfer} {passes : List WritePass}
    (counts : Counts start) (numbered : Numbered start)
    (long : Always (writePass data) start passes (LongMessages data))
    (one : Always (writePass data) start passes (OneTransfer data)) :
    start.written <+: (reached (writePass data) start passes).written ∧
      Always (writePass data) start passes
        (AcksWithin (reached (writePass data) start passes).written.length) := by
  induction passes generalizing start with
  | nil => exact ⟨List.prefix_rfl, fun taken member => absurd member List.not_mem_nil⟩
  | cons pass rest ih =>
      cases stepped : writePass data start pass with
      | none =>
          rw [reached_cons_of_none stepped]
          refine ⟨List.prefix_rfl, fun taken member => ?_⟩
          rw [trace_cons_of_none stepped] at member
          exact absurd member List.not_mem_nil
      | some next =>
          obtain ⟨longHere, longLater⟩ := (always_cons_of_step stepped rest _).mp long
          obtain ⟨oneHere, oneLater⟩ := (always_cons_of_step stepped rest _).mp one
          obtain ⟨len, ether, received, passed⟩ := writePass_passes stepped longHere oneHere
          have countsNext := passed.counts counts
          have quiet := receivePacket_sendsNoDatagram received
          obtain ⟨numberedNext, grows⟩ := passed.numbered counts numbered
          obtain ⟨growsLater, acksLater⟩ := ih countsNext numberedNext longLater oneLater
          rw [reached_cons_of_step stepped]
          refine ⟨grows.trans growsLater, (always_cons_of_step stepped rest _).mpr
            ⟨fun octets member block nonzero isAck => ?_, acksLater⟩⟩
          have acks : AcksWritten ⟨start, pass, next⟩ :=
            passed.acksWritten quiet counts countsNext
          obtain ⟨bytes, written⟩ := acks octets member block nonzero isAck
          exact Nat.le_trans (numberedNext _ written) growsLater.length_le

end Put

end TFTPServer

namespace BlockStore

variable {σ : Type} (store : BlockStore σ)

/-- The calls of `writeBytes` one after the other. -/
def writeAll : List (UInt16 × List UInt8) → σ → Option σ
  | [], state => some state
  | (block, bytes) :: rest, state => (store.write block bytes state).bind (writeAll rest)

/-- The client sends nothing but blocks of the file. -/
def SendsFile (data : Socket) (file : List UInt8) (taken : Taken WriteTransfer WritePass) :
    Prop :=
  ∀ message ∈ dataIn data taken, message.2 = chunk file message.1

instance (data : Socket) (file : List UInt8) : DecidablePred (SendsFile data file) :=
  fun _ => inferInstanceAs (Decidable (∀ message ∈ _, _))

theorem chunk_eq (file : List UInt8) {block : UInt16} {count : Nat}
    (isNext : block.toNat = count + 1) :
    chunk file block = (file.drop (count * 512)).take 512 := by
  unfold chunk
  rw [isNext, Nat.add_sub_cancel]

/-- The blocks written lie one behind the other in the store. -/
theorem writeAll_firstOfEach {file : List UInt8} (short : file.length < 65536)
    {messages : List (UInt16 × List UInt8)}
    (honest : ∀ message ∈ messages, message.2 = chunk file message.1) {count : Nat}
    (inside : count * 512 ≤ file.length) (state : σ) :
    ∃ after, store.writeAll (firstOfEach (count + 1) messages) state = some after ∧
      store.contents after = overwrite (store.contents state) (count * 512)
        ((file.drop (count * 512)).take ((firstOfEach (count + 1) messages).length * 512)) := by
  induction messages generalizing count state with
  | nil =>
      have none : (firstOfEach (count + 1) []).length = 0 := rfl
      refine ⟨state, rfl, ?_⟩
      rw [none, Nat.zero_mul, List.take_zero, overwrite_nil]
  | cons message rest ih =>
      obtain ⟨block, bytes⟩ := message
      have later : ∀ message ∈ rest, message.2 = chunk file message.1 :=
        fun message member => honest message (List.mem_cons_of_mem _ member)
      by_cases isNext : block.toNat = count + 1
      · have isChunk : bytes = (file.drop (count * 512)).take 512 := by
          rw [← chunk_eq file isNext]
          exact honest (block, bytes) List.mem_cons_self
        have count_eq : block.toNat - 1 = count := by omega
        have small : bytes.length ≤ 512 := by
          rw [isChunk]
          exact List.length_take_le _ _
        have remains : bytes.length ≤ file.length - count * 512 := by
          rw [isChunk, ← List.length_drop]
          exact List.length_take_le' _ _
        have fits : count * 512 + bytes.length < 65536 := by omega
        have writes := store.writes block bytes state (isNext ▸ Nat.succ_pos count) small
        rw [count_eq] at writes
        obtain ⟨between, writes, isBetween⟩ := writes fits
        by_cases isFull : bytes.length = 512
        · have more : (count + 1) * 512 ≤ file.length := by
            rw [isFull] at remains
            rw [Nat.succ_mul]
            exact Nat.add_le_of_le_sub' inside remains
          obtain ⟨after, writesRest, isAfter⟩ := ih later more between
          rw [firstOfEach_next isNext isFull]
          refine ⟨after, ?_, ?_⟩
          · rw [writeAll, writes, Option.bind_some, writesRest]
          · have behind : file.drop ((count + 1) * 512) = (file.drop (count * 512)).drop 512 := by
              rw [List.drop_drop, Nat.succ_mul]
            have place : (count + 1) * 512 = count * 512 + bytes.length := by
              rw [isFull, Nat.succ_mul]
            rw [isAfter, isBetween, behind, place, ← overwrite_append, isChunk, ← List.take_add,
              List.length_cons, Nat.succ_mul, Nat.add_comm 512]
        · rw [firstOfEach_last isNext isFull]
          refine ⟨between, ?_, ?_⟩
          · rw [writeAll, writes]
            rfl
          · rw [isBetween, isChunk, List.length_singleton, Nat.one_mul]
      · rw [firstOfEach_skip isNext]
        exact ih later inside state

/-! ### A get -/

/-- `sendBlock` of a read request for what is in the store. -/
def sendBlock (data : Socket) (now : UInt32) (transfer : ReadTransfer) (state : σ) :
    ReadTransfer × σ :=
  (TFTPServer.sendBlock data (fun block => (store.read block state).1) now transfer,
    if transfer.block < 0xFFFF then (store.read transfer.block state).2 else state)

def getStart (data : Socket) (now : UInt32) (ether : EtherSia) (state : σ) :
    ReadTransfer × σ :=
  store.sendBlock data now
    { ether := ether, block := 1, retries := 0, len := 0, timeout := 0, left := none } state

def afterWait (data : Socket) (now : UInt32) (gotAck : Bool) (transfer : ReadTransfer)
    (state : σ) : ReadTransfer × σ :=
  if gotAck then
    let transfer := { transfer with block := transfer.block + 1, retries := 0 }
    if transfer.len < TFTP_BLOCK_SIZE then ({ transfer with left := some .finished }, state)
    else store.sendBlock data now transfer state
  else
    let transfer := { transfer with retries := transfer.retries + 1 }
    if transfer.retries > TFTP_RETRIES then
      ({ transfer with left := some .tooManyRetries }, state)
    else store.sendBlock data now transfer state

/-- A pass of the loop, as `readPass`. -/
def getPass (data : Socket) (getting : ReadTransfer × σ) (pass : ReadPass) :
    Option (ReadTransfer × σ) :=
  if getting.1.left.isSome then none
  else
    (getting.1.ether.receivePacket pass.frame).map fun (_, ether) =>
      let transfer := { getting.1 with ether := ether }
      match waitForAckPass data transfer.block transfer.timeout pass.testTime ether with
      | none => (transfer, getting.2)
      | some gotAck => store.afterWait data pass.restartTime gotAck transfer getting.2

section Get

variable {store} {data : Socket} {file : List UInt8} {origin : EtherSia}

theorem sendBlock_eq {now : UInt32} {transfer : ReadTransfer} {state : σ}
    (positive : 0 < transfer.block.toNat)
    (inside : (transfer.block.toNat - 1) * 512 ≤ (store.contents state).length) :
    (store.sendBlock data now transfer state).1 =
        TFTPServer.sendBlock data (chunk (store.contents state)) now transfer ∧
      store.contents (store.sendBlock data now transfer state).2 = store.contents state := by
  obtain ⟨isChunk, keeps⟩ := store.reads transfer.block state positive inside
  unfold sendBlock TFTPServer.sendBlock
  by_cases inRange : transfer.block < 0xFFFF
  · rw [if_pos inRange, if_pos inRange, if_pos inRange]
    refine ⟨?_, keeps⟩
    dsimp only
    rw [isChunk]
  · rw [if_neg inRange, if_neg inRange, if_neg inRange]
    exact ⟨rfl, rfl⟩

theorem afterWait_eq {now : UInt32} {transfer : ReadTransfer} {state : σ}
    (sending : Sending (store.contents state) origin transfer) (gotAck : Bool) :
    (store.afterWait data now gotAck transfer state).1 =
        TFTPServer.afterWait data (chunk (store.contents state)) now gotAck transfer ∧
      store.contents (store.afterWait data now gotAck transfer state).2 =
        store.contents state := by
  unfold afterWait TFTPServer.afterWait
  cases gotAck with
  | true =>
      rw [if_pos rfl, if_pos rfl]
      dsimp only
      by_cases isLast : transfer.len < TFTP_BLOCK_SIZE
      · rw [if_pos isLast, if_pos isLast]
        exact ⟨rfl, rfl⟩
      · rw [if_neg isLast, if_neg isLast]
        have full := sending.isFull isLast
        have number := sending.next_toNat
        have positive := sending.positive
        have reaches : transfer.block.toNat * 512 ≤ (store.contents state).length := by
          rw [chunk_length] at full
          omega
        exact sendBlock_eq (by rw [number]; omega) (by rw [number]; exact reaches)
  | false =>
      rw [if_neg Bool.false_ne_true, if_neg Bool.false_ne_true]
      dsimp only
      by_cases many : transfer.retries + 1 > TFTP_RETRIES
      · rw [if_pos many, if_pos many]
        exact ⟨rfl, rfl⟩
      · rw [if_neg many, if_neg many]
        exact sendBlock_eq sending.positive sending.inside

/-- While the transfer is at a block of the file, a pass does what it does for the file. -/
theorem getPass_eq {transfer : ReadTransfer} {state : σ}
    (sending : Sending (store.contents state) origin transfer) (pass : ReadPass) :
    (store.getPass data (transfer, state) pass).map Prod.fst =
        readPass data (chunk (store.contents state)) transfer pass ∧
      ∀ next, store.getPass data (transfer, state) pass = some next →
        store.contents next.2 = store.contents state := by
  have running : ¬transfer.left.isSome = true := by
    rw [sending.running]
    exact Bool.false_ne_true
  unfold getPass readPass
  rw [if_neg running, if_neg running, Option.map_map]
  cases received : transfer.ether.receivePacket pass.frame with
  | none => exact ⟨rfl, fun next stops => by cases stops⟩
  | some result =>
      obtain ⟨len, ether⟩ := result
      have receiving := sending.receives (receivePacket_sendsNoDatagram received)
      rw [Option.map_some, Option.map_some, Option.map_some]
      dsimp only [Function.comp]
      cases waitForAckPass data transfer.block transfer.timeout pass.testTime ether with
      | none => exact ⟨rfl, fun next same => by cases same; rfl⟩
      | some gotAck =>
          obtain ⟨same, keeps⟩ := afterWait_eq receiving gotAck
          exact ⟨congrArg some same, fun next isNext => by cases isNext; exact keeps⟩

/-- What a get needs to know of a pass: it takes acknowledgements from the client only. -/
def GetsFromClient (data : Socket) (taken : Taken (ReadTransfer × σ) ReadPass) : Prop :=
  AcksFromClient data (taken.map Prod.fst)

instance : DecidablePred (GetsFromClient (σ := σ) data) := fun taken =>
  inferInstanceAs (Decidable (AcksFromClient data (taken.map Prod.fst)))

/-- A get is the read transfer of the file that the contents are. -/
theorem run_gets {now : UInt32} {ether : EtherSia} {state : σ} {passes : List ReadPass}
    (isFile : store.contents state = file)
    (takes : Always (store.getPass data) (store.getStart data now ether state) passes
      (GetsFromClient data)) :
    (trace (store.getPass data) (store.getStart data now ether state) passes).map
          (Taken.map Prod.fst) =
        trace (readPass data (chunk file)) (readStart data (chunk file) now ether) passes ∧
      (reached (store.getPass data) (store.getStart data now ether state) passes).1 =
        reached (readPass data (chunk file)) (readStart data (chunk file) now ether) passes ∧
      store.contents
        (reached (store.getPass data) (store.getStart data now ether state) passes).2 = file := by
  subst isFile
  let invariant : ReadTransfer × σ → Prop := fun getting =>
    store.contents getting.2 = store.contents state ∧
      (getting.1.left = none → Sending (store.contents state) ether getting.1)
  obtain ⟨sending, _⟩ := readStart_sending data (store.contents state) now ether
  let first : ReadTransfer :=
    { ether := ether, block := 1, retries := 0, len := 0, timeout := 0, left := none }
  have one : first.block.toNat = 1 := rfl
  have atStart : (first.block.toNat - 1) * 512 ≤ (store.contents state).length := by
    rw [one, Nat.sub_self, Nat.zero_mul]
    exact Nat.zero_le _
  have started := @sendBlock_eq σ store data now first state (by rw [one]; decide) atStart
  have initial : invariant (store.getStart data now ether state) :=
    ⟨started.2, fun _ => started.1 ▸ sending⟩
  have fits : (store.contents state).length < 65534 * 512 := by
    have short := store.short state
    omega
  have agrees : ∀ getting pass, invariant getting →
      (store.getPass data getting pass).map Prod.fst =
        readPass data (chunk (store.contents state)) getting.1 pass := by
    intro getting pass holds
    obtain ⟨transfer, current⟩ := getting
    obtain ⟨same, running⟩ := holds
    cases left : transfer.left with
    | none =>
        have sendingHere := running left
        dsimp only at same
        rw [← same] at sendingHere ⊢
        exact (getPass_eq sendingHere pass).1
    | some end_ =>
        rw [readPass_of_left data _ left pass]
        unfold getPass
        rw [left]
        rfl
  have keeps : ∀ getting pass next, invariant getting →
      store.getPass data getting pass = some next →
        AcksFromClient data ⟨getting.1, pass, next.1⟩ → invariant next := by
    intro getting pass next holds stepped takesHere
    have reads := agrees getting pass holds
    rw [stepped] at reads
    have running := (readPass_continues reads.symm takesHere).1
    obtain ⟨transfer, current⟩ := getting
    obtain ⟨same, sendingIf⟩ := holds
    have sendingHere := sendingIf running
    have leads := readPass_leads fits sendingHere reads.symm takesHere
    refine ⟨?_, fun goesOn => ?_⟩
    · dsimp only at same
      rw [← same] at sendingHere
      rw [(getPass_eq sendingHere pass).2 next stepped, same]
    · cases leads with
      | same sendingNext block sends notAcked => exact sendingNext
      | next sendingNext block sends acked full => exact sendingNext
      | gaveUp honest silent left =>
          rw [goesOn] at left
          cases left
      | finished honest silent left acked short =>
          rw [goesOn] at left
          cases left
  obtain ⟨sameTrace, sameEnd, holds⟩ := trace_map Prod.fst invariant agrees keeps initial takes
  have isStart : (store.getStart data now ether state).1 =
      readStart data (chunk (store.contents state)) now ether := started.1
  rw [isStart] at sameTrace sameEnd
  exact ⟨sameTrace, sameEnd, holds.1⟩

/-- What a get has sent when it has finished is the contents, and nothing else at any time. -/
theorem get_returns {now : UInt32} {ether : EtherSia} {state : σ} {passes : List ReadPass}
    (isFile : store.contents state = file)
    (takes : Always (store.getPass data) (store.getStart data now ether state) passes
      (GetsFromClient data)) :
    let got := reached (store.getPass data) (store.getStart data now ether state) passes
    let blocks := TFTPServer.acknowledged data
      ((trace (store.getPass data) (store.getStart data now ether state) passes).map
        (Taken.map Prod.fst))
    Honest file ether got.1.ether ∧
      (got.1.left = some .finished → (blocks.map (chunk file)).flatten = file) := by
  obtain ⟨sameTrace, sameEnd, _⟩ := run_gets isFile takes
  have takesFile : Always (readPass data (chunk file)) (readStart data (chunk file) now ether)
      passes (AcksFromClient data) := by
    intro taken member
    rw [← sameTrace] at member
    obtain ⟨getting, inTrace, rfl⟩ := List.mem_map.mp member
    exact takes getting inTrace
  have bounded : file.length < 65534 * 512 := by
    have short := store.short state
    rw [isFile] at short
    omega
  obtain ⟨sending, _⟩ := readStart_sending data file now ether
  obtain ⟨honest, complete⟩ := run_acknowledges bounded sending takesFile
  intro got blocks
  have isEnd : got.1 = _ := sameEnd
  have isBlocks : blocks = _ := congrArg (TFTPServer.acknowledged data) sameTrace
  rw [isEnd, isBlocks]
  refine ⟨honest, fun finished => ?_⟩
  have rest := (complete .finished finished (by decide)).1
  have isFirst : (readStart data (chunk file) now ether).block = 1 := sendBlock_block _
  have one : (1 : UInt16).toNat = 1 := rfl
  rwa [isFirst, one, Nat.sub_self, Nat.zero_mul, List.drop_zero] at rest

end Get

/-! ### Both -/

section RoundTrip

variable {data : Socket} {file : List UInt8}

/-- At any time of a put, the first blocks of the file lie over the start of the old contents,
and no block has been acknowledged that is not among them. -/
theorem put_stores {now : UInt32} {ether : EtherSia} {passes : List WritePass}
    (short : file.length < 65536)
    (long : Always (writePass data) (writeStart data now ether) passes (LongMessages data))
    (one : Always (writePass data) (writeStart data now ether) passes (OneTransfer data))
    (sends : Always (writePass data) (writeStart data now ether) passes (SendsFile data file))
    (state : σ) :
    ∃ after, store.writeAll (writesOf data (writeStart data now ether) passes) state =
        some after ∧
      store.contents after = overwrite (store.contents state) 0
        (file.take ((writesOf data (writeStart data now ether) passes).length * 512)) ∧
      Always (writePass data) (writeStart data now ether) passes
        (AcksWithin (writesOf data (writeStart data now ether) passes).length) := by
  have counts := writeStart_counts data now ether
  have numbered : Numbered (writeStart data now ether) :=
    fun entry member => absurd member List.not_mem_nil
  have writes : writesOf data (writeStart data now ether) passes = firstOfEach (0 + 1)
      (messages data (trace (writePass data) (writeStart data now ether) passes)) :=
    (run_writes counts long one).1
  have honest : ∀ message ∈ messages data
      (trace (writePass data) (writeStart data now ether) passes),
      message.2 = chunk file message.1 := by
    intro message member
    obtain ⟨taken, inTrace, isMessage⟩ := List.mem_filterMap.mp member
    exact sends taken inTrace message isMessage
  have start : 0 * 512 ≤ file.length := by
    rw [Nat.zero_mul]
    exact Nat.zero_le _
  obtain ⟨after, all, contents⟩ := store.writeAll_firstOfEach short honest start state
  rw [← writes, Nat.zero_mul, List.drop_zero] at contents
  rw [← writes] at all
  exact ⟨after, all, contents, (run_acknowledges_written counts numbered long one).2⟩

/-- The store has the file in front of what was there, and any client gets all of it. -/
structure Keeps (store : BlockStore σ) (file : List UInt8) (before after : σ) : Prop where
  contents : store.contents after = file ++ (store.contents before).drop file.length
  returned : ∀ (client : Socket) (now : UInt32) (ether : EtherSia) (gets : List ReadPass),
    Always (store.getPass client) (store.getStart client now ether after) gets
        (GetsFromClient client) →
      let got := reached (store.getPass client) (store.getStart client now ether after) gets
      let blocks := TFTPServer.acknowledged client
        ((trace (store.getPass client) (store.getStart client now ether after) gets).map
          (Taken.map Prod.fst))
      Honest (file ++ (store.contents before).drop file.length) ether got.1.ether ∧
        (got.1.left = some .finished →
          (blocks.map (chunk (file ++ (store.contents before).drop file.length))).flatten =
            file ++ (store.contents before).drop file.length)

variable {store}

end RoundTrip

end BlockStore

/-! ### Three bytes on the two-wire bus -/

/-- The device, with the place selected. -/
structure At24c128 where
  contents : List UInt8
  size : contents.length = 16384
  selected : Nat

namespace At24c128

open ByteMemory CustomTFTPServer

/-- Behind the end of a page comes its start again. -/
def inPage (address index : Nat) : Nat :=
  address / 64 * 64 + (address + index) % 64

def writePage (address : Nat) : Nat → List UInt8 → List UInt8 → List UInt8
  | _, [], contents => contents
  | index, byte :: rest, contents =>
      writePage address (index + 1) rest (contents.set (inPage address index) byte)

theorem writePage_length (address index : Nat) (bytes contents : List UInt8) :
    (writePage address index bytes contents).length = contents.length := by
  induction bytes generalizing index contents with
  | nil => rfl
  | cons byte rest ih =>
      rw [writePage, ih, List.length_set]

def transmit (device : UInt8) (octets : List UInt8) (chip : At24c128) : At24c128 :=
  match octets with
  | high :: low :: bytes =>
      if device = AT24C128_ADDRESS then
        let address := (be16 high low).toNat % 16384
        { contents := writePage address 0 bytes chip.contents
          size := (writePage_length _ _ _ _).trans chip.size
          selected := inPage address bytes.length }
      else chip
  | _ => chip

def requestFrom (device quantity : UInt8) (chip : At24c128) : List UInt8 × At24c128 :=
  if device = AT24C128_ADDRESS then
    ((List.range quantity.toNat).map fun index =>
        chip.contents.getD ((chip.selected + index) % 16384) 0,
      { chip with selected := (chip.selected + quantity.toNat) % 16384 })
  else ([], chip)

def wire : Wire At24c128 where
  transmit := transmit
  requestFrom := requestFrom

theorem inPage_of_le {address index : Nat} (inside : address % 64 + index < 64) :
    inPage address index = address + index := by
  unfold inPage
  omega

theorem writePage_eq {address index : Nat} {bytes : List UInt8} (contents : List UInt8)
    (inside : address % 64 + index + bytes.length ≤ 64) :
    writePage address index bytes contents = overwrite contents (address + index) bytes := by
  induction bytes generalizing index contents with
  | nil => exact overwrite_nil.symm
  | cons byte rest ih =>
      rw [List.length_cons] at inside
      rw [writePage, ih _ (by omega), overwrite_cons, inPage_of_le (by omega), Nat.add_assoc]

theorem transmit_eq {address : UInt16} (bytes : List UInt8) (chip : At24c128)
    (below : address.toNat < 16384) :
    (wire.transmit AT24C128_ADDRESS (bytes16 address ++ bytes) chip).contents =
        writePage address.toNat 0 bytes chip.contents ∧
      (wire.transmit AT24C128_ADDRESS (bytes16 address ++ bytes) chip).selected =
        inPage address.toNat bytes.length := by
  have isAddress : (be16 (high16 address) (low16 address)).toNat % 16384 = address.toNat := by
    rw [be16_high16_low16, Nat.mod_eq_of_lt below]
  change (transmit _ (high16 address :: low16 address :: bytes) chip).contents = _ ∧
    (transmit _ (high16 address :: low16 address :: bytes) chip).selected = _
  unfold transmit
  dsimp only
  rw [if_pos rfl]
  dsimp only
  rw [isAddress]
  exact ⟨rfl, rfl⟩

theorem isAT24C128 : IsAT24C128 wire contents selected where
  size := size
  selects := by
    intro address chip below
    obtain ⟨same, place⟩ := transmit_eq [] chip below
    rw [List.append_nil] at same place
    refine ⟨same, place.trans ?_⟩
    exact inPage_of_le (Nat.mod_lt _ (by decide))
  writesPage := by
    intro address bytes chip below inside _
    rw [(transmit_eq bytes chip below).1]
    exact writePage_eq chip.contents inside
  reads := by
    intro quantity chip _ inside
    refine ⟨?_, rfl⟩
    change (List.range quantity.toNat).map _ = _
    have size := chip.size
    apply List.ext_getElem
    · rw [List.length_map, List.length_range, List.length_take, List.length_drop]
      omega
    · intro index inList inFile
      rw [List.length_map, List.length_range] at inList
      rw [List.getElem_map, List.getElem_range, List.getElem_take, List.getElem_drop,
        Nat.mod_eq_of_lt (by omega), List.getD_eq_getElem _ _ (by omega)]

def erased : Devices At24c128 where
  serial := []
  eeprom := ⟨[], by decide⟩
  bus := ⟨List.replicate 16384 0xFF, List.length_replicate, 0⟩

end At24c128

end EtherSiaStack
