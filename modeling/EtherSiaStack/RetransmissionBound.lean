/-
The bound on retransmissions.

`_nrtx` counts what is sent again or asked for since the SYN, the data or the FIN that is
outstanding was first sent.  It starts anew with each of these, so no run takes it past its
limits, and the call that finds it there sends the reset that ends the connection.
-/

import EtherSiaStack.Retransmission

namespace EtherSiaStack

open ByteMemory IPv6Packet Trace

/-! ### Flags among the frames of a call -/

/-- Some frame sent in between carries the flag. -/
def sendsFlagged (flag : UInt8) (before after : EtherSia) : Bool :=
  (framesSent before after).any fun octets => hasFlag (frameFlags octets) flag

theorem sendsFlagged_of_same {before after : EtherSia} (same : after.sent = before.sent)
    (flag : UInt8) : sendsFlagged flag before after = false := by
  unfold sendsFlagged
  rw [framesSent_of_same same]
  rfl

theorem SendsFlags.framesSent_eq {flags : UInt8} {before after : EtherSia}
    (sends : SendsFlags flags before after) :
    ∃ octets, framesSent before after = [octets] ∧ frameFlags octets = flags := by
  obtain ⟨octets, sent, isFlags⟩ := sends
  exact ⟨octets, framesSent_append sent, isFlags⟩

theorem SendsFlags.sendsFlagged_eq {flags : UInt8} {before after : EtherSia}
    (sends : SendsFlags flags before after) (flag : UInt8) :
    sendsFlagged flag before after = hasFlag flags flag := by
  obtain ⟨octets, onlyFrame, isFlags⟩ := sends.framesSent_eq
  unfold sendsFlagged
  rw [onlyFrame]
  simp [isFlags]

namespace TCPClient

theorem tcpResend_sendsFlags (client : TCPClient) (flags : UInt8) {dataOffset : UInt8}
    (bounds : 14 ≤ (((dataOffset &&& 0xF0) >>> 2).toUInt16).toNat ∧
      (((dataOffset &&& 0xF0) >>> 2).toUInt16).toNat ≤ 60) (ether : EtherSia) :
    SendsFlags flags ether (client.tcpResend flags dataOffset ether) :=
  (client.tcpResend_sendsBuffer flags dataOffset bounds ether).sendsFlags
    (client.tcpResend_flags flags dataOffset ether)

theorem QuietFrames.no_syn {before : TCPClient} {ether : EtherSia}
    {after : TCPClient × EtherSia} (frames : QuietFrames before ether after) :
    sendsFlagged TCP_FLAG_SYN ether after.2 = false := by
  cases frames with
  | nothing same => exact sendsFlagged_of_same same TCP_FLAG_SYN
  | acknowledges sends =>
      rw [sends.sendsFlagged_eq]
      decide
  | resets sends =>
      rw [sends.sendsFlagged_eq]
      decide
  | closes _ _ sends =>
      rw [sends.sendsFlagged_eq]
      decide

theorem QuietFrames.no_fin {before : TCPClient} {ether : EtherSia}
    {after : TCPClient × EtherSia} (frames : QuietFrames before ether after)
    (closing : before.state = .lastAck) :
    sendsFlagged TCP_FLAG_FIN ether after.2 = false := by
  cases frames with
  | nothing same => exact sendsFlagged_of_same same TCP_FLAG_FIN
  | acknowledges sends =>
      rw [sends.sendsFlagged_eq]
      decide
  | resets sends =>
      rw [sends.sendsFlagged_eq]
      decide
  | closes open_ _ _ => cases closing.symm.trans open_

/-! ### What a call counts -/

/-- The call has the SYN sent again. -/
def resendsSyn (before after : EtherSia) : Bool :=
  sendsFlagged TCP_FLAG_SYN before after

/-- The call has the SYN or the FIN sent again, or asks for the data. -/
def retransmits (before : TCPClient) (ether : EtherSia) (after : TCPClient × EtherSia) :
    Bool :=
  sendsFlagged TCP_FLAG_SYN ether after.2 ||
    (decide (before.state = .lastAck) && sendsFlagged TCP_FLAG_FIN ether after.2) ||
      after.1.appliFlags.rexmit

/-- The connection is waiting for an answer to its SYN. -/
structure Waiting (client : TCPClient) : Prop where
  state : client.state = .waitSynAck
  inTime : client.timedOut = false

instance (client : TCPClient) : Decidable client.Waiting :=
  decidable_of_iff (client.state = .waitSynAck ∧ client.timedOut = false)
    ⟨fun ⟨state, inTime⟩ => ⟨state, inTime⟩, fun waiting => ⟨waiting.state, waiting.inTime⟩⟩

theorem Waiting.active {client : TCPClient} (waiting : client.Waiting) : client.Active :=
  ⟨by rw [waiting.state]; exact nofun, waiting.inTime⟩

/-- The bounds on the count of retransmissions. -/
structure WithinBounds (client : TCPClient) : Prop where
  nrtx : client.nrtx.toNat ≤ 8
  syn : client.Waiting → client.unAckLen > 0 ∧ client.nrtx.toNat ≤ 5

/-- What a call does to the count. -/
structure CountsCall (before : TCPClient) (ether : EtherSia)
    (after : TCPClient × EtherSia) : Prop where
  bounds : before.WithinBounds → after.1.WithinBounds
  counts : before.WithinBounds → ¬ (before.state = .connected ∧ after.1.state = .lastAck) →
    before.nrtx.toNat + (retransmits before ether after).toNat ≤ after.1.nrtx.toNat
  syn : resendsSyn ether after.2 = true → before.Waiting ∧ after.1.Waiting
  waits : after.1.Waiting → before.Waiting

theorem WithinBounds.of_same {client other : TCPClient} (bounds : client.WithinBounds)
    (state : other.state = client.state) (timedOut : other.timedOut = client.timedOut)
    (unAckLen : other.unAckLen = client.unAckLen) (nrtx : other.nrtx = client.nrtx) :
    other.WithinBounds := by
  constructor
  · rw [nrtx]
    exact bounds.nrtx
  · intro waiting
    rw [unAckLen, nrtx]
    exact bounds.syn ⟨state.symm.trans waiting.state, timedOut.symm.trans waiting.inTime⟩

/-- A client that is not waiting for an answer only has the common bound to keep. -/
theorem withinBounds_of_not_waiting {client : TCPClient} (notWaiting : ¬ client.Waiting)
    (nrtx : client.nrtx.toNat ≤ 8) : client.WithinBounds :=
  ⟨nrtx, fun waiting => absurd waiting notWaiting⟩

theorem QuietCall.not_retransmits {before : TCPClient} {ether : EtherSia}
    {after : TCPClient × EtherSia} (quiet : QuietCall before ether after)
    (fresh : before.appliFlags.rexmit = false) : retransmits before ether after = false := by
  have noSignal : after.1.appliFlags.rexmit = false :=
    quiet.noSignal.elim (fun same => same.trans fresh) id
  unfold retransmits
  rw [quiet.frames.no_syn, noSignal, Bool.or_false, Bool.false_or]
  by_cases closing : before.state = .lastAck
  · rw [quiet.frames.no_fin closing, Bool.and_false]
  · rw [decide_eq_false closing, Bool.false_and]

theorem countsCall_of_quiet {before : TCPClient} {ether : EtherSia}
    {after : TCPClient × EtherSia} (quiet : QuietCall before ether after)
    (inTime : before.timedOut = false) (fresh : before.appliFlags.rexmit = false) :
    CountsCall before ether after := by
  have silent := quiet.not_retransmits fresh
  have noSyn : resendsSyn ether after.2 = false := quiet.frames.no_syn
  refine ⟨?_, ?_, fun resends => absurd (noSyn.symm.trans resends) Bool.false_ne_true, ?_⟩
  · intro bounds
    cases quiet.outcome with
    | kept _ state timedOut _ unAckLen _ nrtx =>
        exact bounds.of_same state timedOut unAckLen nrtx
    | acknowledged state _ _ nrtx =>
        apply withinBounds_of_not_waiting
        · exact fun waiting => nomatch state.symm.trans waiting.state
        · rw [nrtx]
          exact bounds.nrtx
    | closed state _ nrtx =>
        apply withinBounds_of_not_waiting
        · exact fun waiting => nomatch state.symm.trans waiting.state
        · rw [nrtx]
          exact bounds.nrtx
    | finReceived _ state _ _ _ nrtx =>
        apply withinBounds_of_not_waiting
        · exact fun waiting => nomatch state.symm.trans waiting.state
        · rw [nrtx]
          decide
  · intro _ noFin
    rw [silent]
    cases quiet.outcome with
    | kept _ _ _ _ _ _ nrtx => exact Nat.le_of_eq (congrArg UInt8.toNat nrtx.symm)
    | acknowledged _ _ _ nrtx => exact Nat.le_of_eq (congrArg UInt8.toNat nrtx.symm)
    | closed _ _ nrtx => exact Nat.le_of_eq (congrArg UInt8.toNat nrtx.symm)
    | finReceived accepts state _ _ _ _ => exact absurd ⟨accepts.connected, state⟩ noFin
  · intro waiting
    cases quiet.outcome with
    | kept _ state _ _ _ _ _ => exact ⟨state.symm.trans waiting.state, inTime⟩
    | acknowledged state _ _ _ => cases state.symm.trans waiting.state
    | closed state _ _ => cases state.symm.trans waiting.state
    | finReceived _ state _ _ _ _ => cases state.symm.trans waiting.state

theorem nrtx_succ_toNat {nrtx : UInt8} (below : nrtx.toNat ≤ 8) :
    (nrtx + 1).toNat = nrtx.toNat + 1 := by
  rw [UInt8.toNat_add]
  change (nrtx.toNat + 1) % 256 = nrtx.toNat + 1
  omega

theorem countsCall_of_gaveUp {before : TCPClient} {ether : EtherSia}
    {after : TCPClient × EtherSia} (fresh : before.appliFlags.rexmit = false)
    (timedOut : after.1.timedOut = true) (nrtx : after.1.nrtx = before.nrtx)
    (noSignal : after.1.appliFlags.rexmit = before.appliFlags.rexmit)
    (resends : after.2 = before.tcpResend (TCP_FLAG_RST ||| TCP_FLAG_ACK) 0x50 ether) :
    CountsCall before ether after := by
  have sends : SendsFlags (TCP_FLAG_RST ||| TCP_FLAG_ACK) ether after.2 := by
    rw [resends]
    exact before.tcpResend_sendsFlags _ (by decide) ether
  have noSyn : sendsFlagged TCP_FLAG_SYN ether after.2 = false := by
    rw [sends.sendsFlagged_eq]
    decide
  have noFin : sendsFlagged TCP_FLAG_FIN ether after.2 = false := by
    rw [sends.sendsFlagged_eq]
    decide
  have silent : retransmits before ether after = false := by
    unfold retransmits
    rw [noSyn, noFin, noSignal, fresh, Bool.and_false]
    rfl
  have isOver : ¬ after.1.Waiting :=
    fun waiting => Bool.false_ne_true (waiting.inTime.symm.trans timedOut)
  refine ⟨?_, ?_, fun resends => absurd (noSyn.symm.trans resends) Bool.false_ne_true,
    fun waiting => absurd waiting isOver⟩
  · intro bounds
    apply withinBounds_of_not_waiting isOver
    rw [nrtx]
    exact bounds.nrtx
  · intro _ _
    rw [silent, nrtx]
    exact Nat.le_refl _

theorem countsCall_of_retried {before : TCPClient} {ether : EtherSia}
    {after : TCPClient × EtherSia} (expiry : Expiry before ether after)
    (inTime : before.timedOut = false) (triesLeft : ¬ before.LastTry)
    (timedOut : after.1.timedOut = before.timedOut) (nrtx : after.1.nrtx = before.nrtx + 1)
    (performs : before.state = .waitSynAck ∧
        after.2 = before.tcpResend TCP_FLAG_SYN 0x60 ether ∨
      before.state = .connected ∧ after.1.appliFlags.rexmit = true ∧
        after.2.sent = ether.sent ∨
      before.state = .lastAck ∧
        after.2 = before.tcpResend (TCP_FLAG_FIN ||| TCP_FLAG_ACK) 0x50 ether) :
    CountsCall before ether after := by
  have waits (waiting : after.1.Waiting) : before.Waiting :=
    ⟨expiry.state.symm.trans waiting.state, inTime⟩
  have notLast : before.nrtx.toNat ≠ 8 :=
    fun isLast => triesLeft (Or.inl (UInt8.toNat_inj.mp isLast))
  refine ⟨?_, ?_, ?_, waits⟩
  · intro bounds
    have below := bounds.nrtx
    constructor
    · rw [nrtx, nrtx_succ_toNat below]
      omega
    · intro waiting
      obtain ⟨outstanding, atMost⟩ := bounds.syn (waits waiting)
      have notLastSyn : before.nrtx.toNat ≠ 5 := fun isLast => triesLeft
        (Or.inr ⟨(waits waiting).state, inTime, UInt8.toNat_inj.mp isLast⟩)
      rw [expiry.unAckLen, nrtx, nrtx_succ_toNat below]
      exact ⟨outstanding, by omega⟩
  · intro bounds _
    have atMostOne := Bool.toNat_le (retransmits before ether after)
    rw [nrtx, nrtx_succ_toNat bounds.nrtx]
    omega
  · intro resends
    rcases performs with ⟨waiting, _⟩ | ⟨_, _, same⟩ | ⟨_, isFin⟩
    · exact ⟨⟨waiting, inTime⟩, ⟨expiry.state.trans waiting, timedOut.trans inTime⟩⟩
    · exact absurd ((sendsFlagged_of_same same _).symm.trans resends) Bool.false_ne_true
    · have sends : SendsFlags (TCP_FLAG_FIN ||| TCP_FLAG_ACK) ether after.2 := by
        rw [isFin]
        exact before.tcpResend_sendsFlags _ (by decide) ether
      have noSyn := sends.sendsFlagged_eq TCP_FLAG_SYN
      exact absurd (noSyn.symm.trans resends) (by decide)

theorem CountsCall.of_same {client other : TCPClient} {ether : EtherSia}
    {after : TCPClient × EtherSia} (counts : CountsCall client ether after)
    (state : other.state = client.state) (timedOut : other.timedOut = client.timedOut)
    (unAckLen : other.unAckLen = client.unAckLen) (nrtx : other.nrtx = client.nrtx) :
    CountsCall other ether after := by
  have transfer (bounds : other.WithinBounds) : client.WithinBounds :=
    bounds.of_same state.symm timedOut.symm unAckLen.symm nrtx.symm
  have waits (waiting : client.Waiting) : other.Waiting :=
    ⟨state.trans waiting.state, timedOut.trans waiting.inTime⟩
  refine ⟨fun bounds => counts.bounds (transfer bounds), ?_, ?_, ?_⟩
  · intro bounds noFin
    have same : retransmits other ether after = retransmits client ether after := by
      unfold retransmits
      rw [state]
    rw [state] at noFin
    rw [nrtx, same]
    exact counts.counts (transfer bounds) noFin
  · intro resends
    exact ⟨waits (counts.syn resends).1, (counts.syn resends).2⟩
  · exact fun waiting => waits (counts.waits waiting)

theorem poll_countsCall (client : TCPClient) (clock : HavePacketClock) (ether : EtherSia) :
    CountsCall client ether (client.poll clock ether) := by
  by_cases active : client.Active
  · obtain ⟨reset, cleared⟩ := client.ticked_appliFlags clock
    have fresh : (client.ticked clock).appliFlags.rexmit = false :=
      congrArg AppliFlags.rexmit cleared
    have inTime : (client.ticked clock).timedOut = false :=
      (client.ticked_timedOut clock).trans active.inTime
    have counts : CountsCall (client.ticked clock) ether (client.poll clock ether) := by
      rcases poll_outcome active clock ether with quiet | ⟨_, expiry⟩
      · exact countsCall_of_quiet quiet inTime fresh
      · cases expiry.outcome with
        | gaveUp _ timedOut nrtx noSignal resends =>
            exact countsCall_of_gaveUp fresh timedOut nrtx noSignal resends
        | retried triesLeft timedOut nrtx performs =>
            exact countsCall_of_retried expiry inTime triesLeft timedOut nrtx performs
    exact counts.of_same (client.ticked_state clock).symm (client.ticked_timedOut clock).symm
      (client.ticked_unAckLen clock).symm (client.ticked_nrtx clock).symm
  · obtain ⟨_, _, started⟩ := client.startCall_eq clock
    rw [poll_of_idle active, started]
    have noFrames (flag : UInt8) : sendsFlagged flag ether ether = false :=
      sendsFlagged_of_same rfl flag
    refine ⟨?_, ?_, ?_, ?_⟩
    · intro bounds
      exact withinBounds_of_not_waiting (fun waiting => nomatch waiting.state) bounds.nrtx
    · intro _ _
      simp [retransmits, noFrames, AppliFlags.none]
    · exact fun resends => absurd ((noFrames _).symm.trans resends) Bool.false_ne_true
    · exact fun waiting => nomatch waiting.state

theorem poll_of_unrelated {client : TCPClient} (active : client.Active)
    (clock : HavePacketClock) {ether : EtherSia}
    (unrelated : ether.bufferContainsReceived = true →
      ¬ client.OfConnection ether ∧ ¬ client.TakenForOld ether) :
    ∃ nrcvd ndropped, client.poll clock ether =
      ((client.ticked clock).recounted nrcvd ndropped).checkForRetransmit ether := by
  have sameSocket := client.ticked_toSocket clock
  rw [poll_of_active active]
  by_cases flagged : ether.bufferContainsReceived = true
  · obtain ⟨notOurs, notOld⟩ := unrelated flagged
    rw [dispatchPacket_of_other flagged
      (fun ours => notOurs (ours.of_toSocket sameSocket.symm))
      (fun old => notOld (old.of_toSocket sameSocket.symm))]
    exact ⟨_, _, rfl⟩
  · rw [dispatchPacket_of_not_received _ (by simpa using flagged)]
    exact ⟨_, _, rfl⟩

/-- With no packet of its peer to process, a call whose timer has run out acts on it. -/
theorem poll_expiry {client : TCPClient} (active : client.Active)
    {clock : HavePacketClock} {ether : EtherSia} (outstanding : client.unAckLen > 0)
    (expires : client.TimerExpires clock)
    (unrelated : ether.bufferContainsReceived = true →
      ¬ client.OfConnection ether ∧ ¬ client.TakenForOld ether) :
    Expiry (client.ticked clock) ether (client.poll clock ether) := by
  obtain ⟨nrcvd, ndropped, checks⟩ := poll_of_unrelated active clock unrelated
  have stillOutstanding : (client.ticked clock).unAckLen > 0 := by
    rw [client.ticked_unAckLen clock]
    exact outstanding
  have due : ((client.ticked clock).recounted nrcvd ndropped).Due :=
    ⟨stillOutstanding, (client.ticked_timer_eq_zero_iff clock outstanding).mpr expires⟩
  have open_ : ((client.ticked clock).recounted nrcvd ndropped).state ≠ .disconnected :=
    fun closed => active.open_ ((client.ticked_state clock).symm.trans closed)
  rw [checks]
  exact (checkForRetransmit_expiry due open_ ether).of_recounted

end TCPClient

/-! ### Every run -/

section Runs

variable {ι : Type} [DecidableEq ι]

/-- The application sends while data is unacknowledged only when it is asked to. -/
def SendsAgainWhenAsked (index : ι) (taken : Taken (Station ι) (StationEvent ι)) : Prop :=
  ∀ length isReply, taken.event = .clientSend index length isReply →
    (taken.before.clients index).unAckLen > 0 →
      (taken.before.clients index).appliFlags.rexmit = true

/-- The event is a call of `havePacket` on the client. -/
def isCallOn (index : ι) : StationEvent ι → Bool
  | .clientHavePacket other _ => decide (other = index)
  | _ => false

/-- A call of `havePacket` in which the SYN is sent again. -/
def resendsSyn (index : ι) (taken : Taken (Station ι) (StationEvent ι)) : Bool :=
  isCallOn index taken.event && TCPClient.resendsSyn taken.before.ether taken.after.ether

/-- A call of `havePacket` in which the SYN or the FIN is sent again, or the application
is asked to send its data again. -/
def retransmits (index : ι) (taken : Taken (Station ι) (StationEvent ι)) : Bool :=
  isCallOn index taken.event && (taken.before.clients index).retransmits taken.before.ether
    (taken.after.clients index, taken.after.ether)

def ConnectsIn (index : ι) (taken : Taken (Station ι) (StationEvent ι)) : Prop :=
  ∃ randomNumber now, taken.event = .connect index randomNumber now

/-- A SYN, data or a FIN is sent for the first time. -/
inductive StartsSegment (index : ι) (taken : Taken (Station ι) (StationEvent ι)) : Prop
  | syn (connects : ConnectsIn index taken)
  | data (length : UInt16) (isReply : Bool)
      (sends : taken.event = .clientSend index length isReply)
      (nothing : (taken.before.clients index).unAckLen = 0)
  | fin (isCall : isCallOn index taken.event = true)
      (open_ : (taken.before.clients index).state = .connected)
      (closing : (taken.after.clients index).state = .lastAck)

/-- What a step does to the count of retransmissions of a client. -/
structure CountsStep (index : ι) (taken : Taken (Station ι) (StationEvent ι)) : Prop where
  bounds : (taken.before.clients index).WithinBounds →
    (taken.after.clients index).WithinBounds
  counts : (taken.before.clients index).WithinBounds → ¬ StartsSegment index taken →
    (taken.before.clients index).nrtx.toNat + (retransmits index taken).toNat ≤
      (taken.after.clients index).nrtx.toNat
  syn : resendsSyn index taken = true →
    (taken.before.clients index).Waiting ∧ (taken.after.clients index).Waiting
  waits : ¬ ConnectsIn index taken → (taken.after.clients index).Waiting →
    (taken.before.clients index).Waiting

theorem isCallOn_of_not_concerns {index : ι} {event : StationEvent ι}
    (unrelated : ¬ Station.Concerns index event) : isCallOn index event = false := by
  cases event with
  | clientHavePacket other clock => exact decide_eq_false unrelated
  | _ => rfl

theorem countsStep_of_same {index : ι} {taken : Taken (Station ι) (StationEvent ι)}
    (noCall : isCallOn index taken.event = false)
    (state : (taken.after.clients index).state = (taken.before.clients index).state)
    (timedOut : (taken.after.clients index).timedOut =
      (taken.before.clients index).timedOut)
    (unAckLen : (taken.after.clients index).unAckLen =
      (taken.before.clients index).unAckLen)
    (nrtx : (taken.after.clients index).nrtx = (taken.before.clients index).nrtx) :
    CountsStep index taken where
  bounds := fun bounds => bounds.of_same state timedOut unAckLen nrtx
  counts := fun _ _ => by
    unfold retransmits
    rw [noCall, nrtx]
    exact Nat.le_refl _
  syn := fun resends => by
    unfold resendsSyn at resends
    rw [noCall] at resends
    cases resends
  waits := fun _ waiting =>
    ⟨state.symm.trans waiting.state, timedOut.symm.trans waiting.inTime⟩

theorem step_countsStep {index : ι} {taken : Taken (Station ι) (StationEvent ι)}
    (stepped : taken.before.step taken.event = some taken.after)
    (asked : SendsAgainWhenAsked index taken) : CountsStep index taken := by
  obtain ⟨before, event, after⟩ := taken
  dsimp only at stepped
  apply Station.step_client_cases index stepped
  · intro unrelated same
    apply countsStep_of_same (isCallOn_of_not_concerns unrelated)
    · exact congrArg TCPClient.state same
    · exact congrArg TCPClient.timedOut same
    · exact congrArg TCPClient.unAckLen same
    · exact congrArg TCPClient.nrtx same
  · rintro socket rfl rfl
    have updated := before.update_clients_same index
      ({ before.clients index with toSocket := socket }, before.ether)
    apply countsStep_of_same rfl
    · exact (congrArg TCPClient.state updated).trans rfl
    · exact (congrArg TCPClient.timedOut updated).trans rfl
    · exact (congrArg TCPClient.unAckLen updated).trans rfl
    · exact (congrArg TCPClient.nrtx updated).trans rfl
  · rintro randomNumber now rfl rfl
    have updated := before.update_clients_same index
      ((before.clients index).connect randomNumber now before.ether)
    rw [TCPClient.connect_fst] at updated
    have one : (1 : UInt16) > 0 := by decide
    refine ⟨fun _ => ?_, fun _ noStart => ?_, fun resends => ?_, fun noConnect => ?_⟩
    · dsimp only
      rw [updated]
      exact ⟨Nat.zero_le 8, fun _ => ⟨one, Nat.zero_le 5⟩⟩
    · exact absurd (.syn ⟨randomNumber, now, rfl⟩) noStart
    · cases resends
    · exact absurd ⟨randomNumber, now, rfl⟩ noConnect
  · rintro clock rfl rfl
    have counts := (before.clients index).poll_countsCall clock before.ether
    have isCall : isCallOn index (.clientHavePacket index clock : StationEvent ι) = true :=
      decide_eq_true rfl
    refine ⟨fun bounds => ?_, fun bounds noStart => ?_, fun resends => ?_, fun _ => ?_⟩
    · dsimp only
      rw [Station.update_clients_same]
      exact counts.bounds bounds
    · dsimp only at bounds ⊢
      unfold retransmits
      rw [isCall, Bool.true_and, Station.update_clients_same]
      refine counts.counts bounds fun finReceived => noStart (.fin isCall finReceived.1 ?_)
      dsimp only
      rw [Station.update_clients_same]
      exact finReceived.2
    · dsimp only
      rw [Station.update_clients_same]
      unfold resendsSyn at resends
      rw [isCall] at resends
      exact counts.syn resends
    · dsimp only
      rw [Station.update_clients_same]
      exact counts.waits
  · rintro length isReply rfl rfl
    have updated := before.update_clients_same index
      ((before.clients index).send length isReply before.ether)
    rw [TCPClient.send_fst] at updated
    by_cases again : (before.clients index).appliFlags.rexmit = true
    · rw [if_pos again] at updated
      apply countsStep_of_same rfl
      · exact congrArg TCPClient.state updated
      · exact congrArg TCPClient.timedOut updated
      · exact congrArg TCPClient.unAckLen updated
      · exact congrArg TCPClient.nrtx updated
    · rw [if_neg again] at updated
      have nothing : ¬ (before.clients index).unAckLen > 0 :=
        fun outstanding => again (asked length isReply rfl outstanding)
      refine ⟨fun bounds => ?_, fun _ noStart => ?_, fun resends => ?_, fun _ => ?_⟩
      · dsimp only at bounds ⊢
        rw [updated]
        apply TCPClient.withinBounds_of_not_waiting
        · exact fun waiting => nothing (bounds.syn ⟨waiting.state, waiting.inTime⟩).1
        · exact Nat.zero_le 8
      · exact absurd (.data length isReply rfl (TCPClient.eq_zero_of_not_pos nothing)) noStart
      · cases resends
      · dsimp only
        rw [updated]
        exact fun waiting => ⟨waiting.state, waiting.inTime⟩

/-! ### The end of a connection -/

/-- A call finds the timer of unacknowledged bytes run out, no tries left and no packet of
its peer to process. -/
structure BoundExceeded (index : ι) (clock : HavePacketClock) (before : Station ι) :
    Prop where
  active : (before.clients index).Active
  outstanding : (before.clients index).unAckLen > 0
  expires : (before.clients index).TimerExpires clock
  last : (before.clients index).LastTry
  unrelated : before.ether.bufferContainsReceived = true →
    ¬ (before.clients index).OfConnection before.ether ∧
      ¬ (before.clients index).TakenForOld before.ether

theorem lastTry_ticked_iff (client : TCPClient) (clock : HavePacketClock) :
    (client.ticked clock).LastTry ↔ client.LastTry := by
  unfold TCPClient.LastTry
  rw [client.ticked_nrtx clock, client.ticked_state clock, client.ticked_timedOut clock]

omit [DecidableEq ι] in
theorem poll_givesUp {index : ι} {clock : HavePacketClock} {before : Station ι}
    (exceeded : BoundExceeded index clock before) :
    ((before.clients index).poll clock before.ether).1.timedOut = true := by
  obtain ⟨active, outstanding, expires, last, unrelated⟩ := exceeded
  have expiry := TCPClient.poll_expiry active outstanding expires unrelated
  cases expiry.outcome with
  | gaveUp _ timedOut _ _ _ => exact timedOut
  | retried triesLeft _ _ _ => exact absurd ((lastTry_ticked_iff _ clock).mpr last) triesLeft

/-- Only such a call leaves the connection timed out, and a reset is all that it sends. -/
theorem poll_timedOut {client : TCPClient} {clock : HavePacketClock} {ether : EtherSia}
    (timedOut : (client.poll clock ether).1.timedOut = true) :
    client.LastTry ∧ ∃ octets, framesSent ether (client.poll clock ether).2 = [octets] ∧
      frameFlags octets = TCP_FLAG_RST ||| TCP_FLAG_ACK := by
  by_cases active : client.Active
  · have inTime := (client.ticked_timedOut clock).trans active.inTime
    rcases TCPClient.poll_outcome active clock ether with quiet | ⟨_, expiry⟩
    · exact absurd ((quiet.outcome.inTime inTime).symm.trans timedOut) Bool.false_ne_true
    · cases expiry.outcome with
      | gaveUp last _ _ _ resends =>
          refine ⟨(lastTry_ticked_iff client clock).mp last, ?_⟩
          rw [resends]
          exact ((client.ticked clock).tcpResend_sendsFlags _ (by decide)
            ether).framesSent_eq
      | retried _ same _ _ =>
          exact absurd ((same.trans inTime).symm.trans timedOut) Bool.false_ne_true
  · rw [TCPClient.poll_of_idle active] at timedOut
    cases timedOut

/-- The state that `havePacket` leaves behind once the connection has timed out. -/
structure Closed (client : TCPClient) : Prop where
  state : client.state = .disconnected
  inTime : client.timedOut = false

theorem Closed.not_active {client : TCPClient} (closed : Closed client) :
    ¬ client.Active :=
  fun active => active.open_ closed.state

theorem poll_closed {client : TCPClient} (idle : ¬ client.Active) (clock : HavePacketClock)
    (ether : EtherSia) :
    (client.poll clock ether).2 = ether ∧ Closed (client.poll clock ether).1 := by
  rw [TCPClient.poll_of_idle idle]
  exact ⟨rfl, rfl, rfl⟩

/-- Until the application connects again, an idle client stays idle and a closed one
closed. -/
theorem step_idle {index : ι} {taken : Taken (Station ι) (StationEvent ι)}
    (stepped : taken.before.step taken.event = some taken.after)
    (noConnect : ¬ ConnectsIn index taken) :
    (¬ (taken.before.clients index).Active → ¬ (taken.after.clients index).Active) ∧
      (Closed (taken.before.clients index) → Closed (taken.after.clients index)) := by
  obtain ⟨before, event, after⟩ := taken
  dsimp only at stepped ⊢
  have kept {client : TCPClient} (state : client.state = (before.clients index).state)
      (timedOut : client.timedOut = (before.clients index).timedOut) :
      (¬ (before.clients index).Active → ¬ client.Active) ∧
        (Closed (before.clients index) → Closed client) :=
    ⟨fun idle active => idle ⟨state ▸ active.open_, timedOut.symm.trans active.inTime⟩,
      fun closed => ⟨state.trans closed.state, timedOut.trans closed.inTime⟩⟩
  apply Station.step_client_cases index stepped
  · intro _ same
    exact kept (congrArg TCPClient.state same) (congrArg TCPClient.timedOut same)
  · rintro socket rfl rfl
    rw [Station.update_clients_same]
    exact kept rfl rfl
  · rintro randomNumber now rfl _
    exact absurd ⟨randomNumber, now, rfl⟩ noConnect
  · rintro clock rfl rfl
    rw [Station.update_clients_same]
    constructor
    · intro idle
      exact (poll_closed idle clock before.ether).2.not_active
    · intro closed
      exact (poll_closed closed.not_active clock before.ether).2
  · rintro length isReply rfl rfl
    rw [Station.update_clients_same, TCPClient.send_fst]
    split
    · exact kept rfl rfl
    · exact kept rfl rfl

/-! ### The bound -/

/-- What holds of the retransmissions of a client in the steps of a run. -/
structure BoundsRetransmissions (index : ι)
    (steps : List (Taken (Station ι) (StationEvent ι))) : Prop where
  syn : ∀ first block rest, steps = first ++ (block ++ rest) →
    (∀ taken ∈ block, ¬ ConnectsIn index taken) →
      block.countP (resendsSyn index) ≤ TCPClient.UIP_MAXSYNRTX.toNat
  segment : ∀ first block rest, steps = first ++ (block ++ rest) →
    (∀ taken ∈ block, ¬ StartsSegment index taken) →
      block.countP (retransmits index) ≤ TCPClient.UIP_MAXRTX.toNat
  givesUp : ∀ taken ∈ steps, ∀ clock, taken.event = .clientHavePacket index clock →
    BoundExceeded index clock taken.before → (taken.after.clients index).timedOut = true
  resets : ∀ taken ∈ steps, isCallOn index taken.event = true →
    (taken.after.clients index).timedOut = true →
      (taken.before.clients index).LastTry ∧
        ∃ octets, framesSent taken.before.ether taken.after.ether = [octets] ∧
          frameFlags octets = TCP_FLAG_RST ||| TCP_FLAG_ACK
  silent : ∀ first gaveUp between call rest,
    steps = first ++ gaveUp :: (between ++ call :: rest) →
      (gaveUp.after.clients index).timedOut = true →
        (∀ taken ∈ between, ¬ ConnectsIn index taken) →
          isCallOn index call.event = true →
            call.after.ether = call.before.ether ∧ Closed (call.after.clients index)
  closed : ∀ taken ∈ steps, ¬ ConnectsIn index taken →
    Closed (taken.before.clients index) → Closed (taken.after.clients index)

theorem clientHavePacket_of_isCallOn {index : ι} {event : StationEvent ι}
    (isCall : isCallOn index event = true) : ∃ clock, event = .clientHavePacket index clock := by
  cases event with
  | clientHavePacket other clock =>
      cases of_decide_eq_true isCall
      exact ⟨clock, rfl⟩
  | _ => cases isCall

/-- What the client has used of its tries for the SYN; an answered SYN has none left. -/
def synTries (client : TCPClient) : Nat :=
  if client.Waiting then client.nrtx.toNat else 5

/-- A client that keeps waiting starts no new segment. -/
theorem not_startsSegment_of_waiting {index : ι}
    {taken : Taken (Station ι) (StationEvent ι)}
    (bounds : (taken.before.clients index).WithinBounds)
    (noConnect : ¬ ConnectsIn index taken)
    (waited : (taken.before.clients index).Waiting)
    (waits : (taken.after.clients index).Waiting) : ¬ StartsSegment index taken := by
  intro starts
  cases starts with
  | syn connects => exact noConnect connects
  | data _ _ _ nothing =>
      have outstanding := (bounds.syn waited).1
      rw [nothing] at outstanding
      exact absurd outstanding (by decide)
  | fin _ _ closing => cases closing.symm.trans waits.state

theorem resendsSyn_toNat_le (index : ι) (taken : Taken (Station ι) (StationEvent ι)) :
    (resendsSyn index taken).toNat ≤ (retransmits index taken).toNat := by
  have implies : resendsSyn index taken = true → retransmits index taken = true := by
    unfold resendsSyn retransmits TCPClient.resendsSyn TCPClient.retransmits
    intro resends
    obtain ⟨isCall, syn⟩ := Bool.and_eq_true_iff.mp resends
    rw [isCall, syn]
    rfl
  exact Bool.toNat_le_toNat fun resends => implies resends

theorem step_synTries {index : ι} {taken : Taken (Station ι) (StationEvent ι)}
    (counts : CountsStep index taken)
    (bounds : (taken.before.clients index).WithinBounds)
    (noConnect : ¬ ConnectsIn index taken) :
    synTries (taken.before.clients index) + (resendsSyn index taken).toNat ≤
      synTries (taken.after.clients index) := by
  by_cases waits : (taken.after.clients index).Waiting
  · have waited := counts.waits noConnect waits
    have paid := counts.counts bounds
      (not_startsSegment_of_waiting bounds noConnect waited waits)
    have atMost := resendsSyn_toNat_le index taken
    unfold synTries
    rw [if_pos waited, if_pos waits]
    omega
  · have noSyn : resendsSyn index taken = false := by
      rw [← Bool.not_eq_true]
      exact fun resends => waits (counts.syn resends).2
    unfold synTries
    rw [if_neg waits, noSyn]
    split
    · rename_i waited
      exact (bounds.syn waited).2
    · exact Nat.le_refl 5

section Bound

variable {index : ι} {start : Station ι} {events : List (StationEvent ι)}
  {first block rest : List (Taken (Station ι) (StationEvent ι))}
  (split : trace Station.step start events = first ++ (block ++ rest))
  (initial : (start.clients index).WithinBounds)
  (asked : Always Station.step start events (SendsAgainWhenAsked index))

include split initial asked

theorem retransmits_le (goesOn : ∀ taken ∈ block, ¬ StartsSegment index taken) :
    block.countP (retransmits index) ≤ 8 := by
  obtain ⟨last, bounds, paid⟩ := countP_le_measure
    (fun station : Station ι => (station.clients index).WithinBounds)
    (fun station => (station.clients index).nrtx.toNat)
    (fun taken stepped bounds asked => (step_countsStep stepped asked).bounds bounds)
    (fun taken stepped bounds asked goesOn =>
      (step_countsStep stepped asked).counts bounds goesOn)
    split initial asked goesOn
  exact Nat.le_trans paid bounds.nrtx

theorem resendsSyn_le (goesOn : ∀ taken ∈ block, ¬ ConnectsIn index taken) :
    block.countP (resendsSyn index) ≤ 5 := by
  obtain ⟨last, bounds, paid⟩ := countP_le_measure
    (fun station : Station ι => (station.clients index).WithinBounds)
    (fun station => synTries (station.clients index))
    (fun taken stepped bounds asked => (step_countsStep stepped asked).bounds bounds)
    (fun taken stepped bounds asked noConnect =>
      step_synTries (step_countsStep stepped asked) bounds noConnect)
    split initial asked goesOn
  refine Nat.le_trans paid ?_
  unfold synTries
  split
  · rename_i waiting
    exact (bounds.syn waiting).2
  · exact Nat.le_refl 5

end Bound

theorem step_call {index : ι} {taken : Taken (Station ι) (StationEvent ι)}
    (stepped : taken.before.step taken.event = some taken.after)
    {clock : HavePacketClock} (isCall : taken.event = .clientHavePacket index clock) :
    taken.after.ether =
        ((taken.before.clients index).poll clock taken.before.ether).2 ∧
      taken.after.clients index =
        ((taken.before.clients index).poll clock taken.before.ether).1 := by
  rw [isCall] at stepped
  have isAfter := Option.some.inj stepped
  rw [← isAfter]
  exact ⟨rfl, Station.update_clients_same _ index _⟩

/-- Once the connection has timed out, calls are silent until the next `connect`. -/
theorem trace_silent {index : ι} {start : Station ι} {events : List (StationEvent ι)}
    {first between rest : List (Taken (Station ι) (StationEvent ι))}
    {gaveUp call : Taken (Station ι) (StationEvent ι)}
    (split : trace Station.step start events = first ++ gaveUp :: (between ++ call :: rest))
    (timedOut : (gaveUp.after.clients index).timedOut = true)
    (noConnect : ∀ taken ∈ between, ¬ ConnectsIn index taken)
    (isCall : isCallOn index call.event = true) :
    call.after.ether = call.before.ether ∧ Closed (call.after.clients index) := by
  obtain ⟨_, _, isRest, _⟩ := invariant_after_prefix (fun _ => True)
    (fun _ _ _ (_ : True) => trivial) split trivial fun _ _ => trivial
  obtain ⟨_, _, later, isLater⟩ := trace_eq_cons isRest
  have idle : ¬ (gaveUp.after.clients index).Active :=
    fun active => Bool.false_ne_true (active.inTime.symm.trans timedOut)
  obtain ⟨before, _, isCalls, stillIdle⟩ := invariant_after_prefix
    (fun station : Station ι => ¬ (station.clients index).Active)
    (fun taken stepped idle noConnect => (step_idle stepped noConnect).1 idle)
    isLater idle noConnect
  obtain ⟨rfl, stepped, _⟩ := trace_eq_cons isCalls
  obtain ⟨clock, isHavePacket⟩ := clientHavePacket_of_isCallOn isCall
  obtain ⟨isEther, isClient⟩ := step_call stepped isHavePacket
  rw [isEther, isClient]
  exact poll_closed stillIdle clock call.before.ether

/-- From a `connect` on, with an application that sends while data is unacknowledged only
when it is asked to, the SYN is sent again at most 5 times and each data segment or FIN is
sent again or asked for at most 8 times; then one reset ends the connection. -/
theorem run_bounds_retransmissions {index : ι} {start connecting : Station ι}
    {iss now : UInt32} (connects : start.step (.connect index iss now) = some connecting)
    {events : List (StationEvent ι)}
    (asked : Always Station.step connecting events (SendsAgainWhenAsked index)) :
    BoundsRetransmissions index (trace Station.step connecting events) := by
  have one : (1 : UInt16) > 0 := by decide
  have initial : (connecting.clients index).WithinBounds := by
    rw [← Option.some.inj connects, Station.update_clients_same, TCPClient.connect_fst]
    exact ⟨Nat.zero_le 8, fun _ => ⟨one, Nat.zero_le 5⟩⟩
  constructor
  · exact fun first block rest split goesOn => resendsSyn_le split initial asked goesOn
  · exact fun first block rest split goesOn => retransmits_le split initial asked goesOn
  · intro taken member clock isCall exceeded
    rw [(step_call (step_of_mem_trace member) isCall).2]
    exact poll_givesUp exceeded
  · intro taken member isCall timedOut
    obtain ⟨clock, isHavePacket⟩ := clientHavePacket_of_isCallOn isCall
    obtain ⟨isEther, isClient⟩ := step_call (step_of_mem_trace member) isHavePacket
    rw [isClient] at timedOut
    rw [isEther]
    exact poll_timedOut timedOut
  · exact fun first gaveUp between call rest split timedOut noConnect isCall =>
      trace_silent split timedOut noConnect isCall
  · exact fun taken member noConnect closed =>
      (step_idle (step_of_mem_trace member) noConnect).2 closed

end Runs

/-- The first client has sent its SYN. -/
def synSent : Station Bool :=
  twoClients.update false ((twoClients.clients false).connect 1000 0 twoClients.ether)

/-- The calls at the first three ticks, the last of which sends the SYN again. -/
def firstExpiry : List (StationEvent Bool) :=
  [.clientHavePacket false (clockAt 250), .clientHavePacket false (clockAt 500),
    .clientHavePacket false (clockAt 750)]

example : (trace Station.step synSent firstExpiry).countP (resendsSyn false) = 1 := by
  decide +kernel

theorem run_bounds_retransmissions_first :
    BoundsRetransmissions false (trace Station.step synSent firstExpiry) := by
  have connects : twoClients.step (.connect false 1000 0) = some synSent := rfl
  refine run_bounds_retransmissions connects fun taken member length isReply isSend => ?_
  have isEvent := event_mem_of_mem_trace member
  rw [isSend] at isEvent
  simp [firstExpiry] at isEvent

end EtherSiaStack
