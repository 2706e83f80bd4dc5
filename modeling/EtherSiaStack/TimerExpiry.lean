/-
The life of the retransmission timer.

The timer is decremented at the start of a call and tested at its end, and many packets
take a call past the test.  A timer that is passed over at 0 waits there for the next call;
the tick after that takes it to 255.
-/

import EtherSiaStack.RetransmissionBound

namespace EtherSiaStack

open ByteMemory IPv6Packet Trace

namespace TCPClient

open TCPHeader

/-- The timer of an open connection with something outstanding stands at 0. -/
structure RunOut (client : TCPClient) : Prop where
  active : client.Active
  outstanding : client.unAckLen > 0
  timer : client.timer = 0

theorem backoff_ne_zero (nrtx : UInt8) : backoff nrtx ≠ 0 := by
  have shifted (count : UInt8) (small : count.toNat ≤ 4) : UIP_RTO <<< count ≠ 0 := by
    intro isZero
    have asNat := congrArg UInt8.toNat isZero
    rw [UInt8.toNat_shiftLeft] at asNat
    change (3 <<< (count.toNat % 8)) % 256 = 0 at asNat
    interval_cases count.toNat
    · cases asNat
    · cases asNat
    · cases asNat
    · cases asNat
    · cases asNat
  unfold backoff
  split
  · exact shifted 4 (by decide)
  · rename_i notMore
    apply shifted
    by_contra more
    exact notMore (UInt8.lt_iff_toNat_lt.mpr (Nat.lt_of_not_le more))

/-- The call leaves the timer at 0: its packet took it past the check, or it is a FIN,
which restarts the count but not the timer. -/
inductive LeavesRunOut (client : TCPClient) (clock : HavePacketClock) (ether : EtherSia) :
    Prop
  | skips (outstanding : client.unAckLen > 0) (expires : client.TimerExpires clock)
      (received : ether.bufferContainsReceived = true) (skips : client.SkipsCheck ether)
  | accepts (accepts : client.AcceptsFin ether)
      (timer : ((client.ticked clock).ackTest ether.buffer).timer = 0)

theorem poll_runOut {client : TCPClient} {clock : HavePacketClock} {ether : EtherSia}
    (runOut : (client.poll clock ether).1.RunOut) :
    client.Active ∧ LeavesRunOut client clock ether := by
  obtain ⟨active, outstanding, timer⟩ := runOut
  have nothing : ¬ (0 : UInt16) > 0 := by decide
  by_cases wasActive : client.Active
  · refine ⟨wasActive, ?_⟩
    have same := client.ticked_same clock
    rcases poll_outcome wasActive clock ether with quiet | ⟨_, expiry⟩
    · cases quiet.outcome with
      | kept skips _ _ _ unAckLen sameTimer _ =>
          have wasOutstanding : client.unAckLen > 0 := by
            rw [same.unAckLen, ← unAckLen]
            exact outstanding
          have expired : (client.ticked clock).timer = 0 := sameTimer.symm.trans timer
          have due : (client.ticked clock).Due := ⟨unAckLen ▸ outstanding, expired⟩
          exact .skips wasOutstanding
            ((client.ticked_timer_eq_zero_iff clock wasOutstanding).mp expired)
            (skips due).1 ((skips due).2.of_same same)
      | acknowledged _ _ unAckLen _ => exact absurd (unAckLen ▸ outstanding) nothing
      | closed state _ _ => exact absurd state active.open_
      | finReceived accepts _ _ _ finTimer _ =>
          exact .accepts (accepts.of_same same) (finTimer.symm.trans timer)
    · exact absurd (expiry.timer.symm.trans timer) (backoff_ne_zero _)
  · have closed := (poll_closed wasActive clock ether).2
    exact absurd active closed.not_active

/-- The check with the timer run out retransmits or gives up. -/
theorem Expiry.retransmits {before : TCPClient} {ether : EtherSia}
    {after : TCPClient × EtherSia} (expiry : Expiry before ether after) :
    before.retransmits ether after = true ∨ after.1.timedOut = true := by
  cases expiry.outcome with
  | gaveUp _ timedOut _ _ _ => exact Or.inr timedOut
  | retried _ _ _ performs =>
      left
      unfold TCPClient.retransmits
      rcases performs with ⟨_, isSyn⟩ | ⟨_, signals, _⟩ | ⟨closing, isFin⟩
      · have sends : SendsFlags TCP_FLAG_SYN ether after.2 := by
          rw [isSyn]
          exact before.tcpResend_sendsFlags _ (by decide) ether
        have flagged : sendsFlagged TCP_FLAG_SYN ether after.2 = true := by
          rw [sends.sendsFlagged_eq]
          decide
        rw [flagged]
        rfl
      · rw [signals, Bool.or_true]
      · have sends : SendsFlags (TCP_FLAG_FIN ||| TCP_FLAG_ACK) ether after.2 := by
          rw [isFin]
          exact before.tcpResend_sendsFlags _ (by decide) ether
        have flagged : sendsFlagged TCP_FLAG_FIN ether after.2 = true := by
          rw [sends.sendsFlagged_eq]
          decide
        rw [closing, flagged, Bool.and_true, decide_eq_true rfl, Bool.or_true]
        rfl

theorem poll_expires {client : TCPClient} {clock : HavePacketClock} {ether : EtherSia}
    (active : client.Active) (outstanding : client.unAckLen > 0)
    (expires : client.TimerExpires clock)
    (unrelated : ether.bufferContainsReceived = true →
      ¬ client.OfConnection ether ∧ ¬ client.TakenForOld ether) :
    client.retransmits ether (client.poll clock ether) = true ∨
      (client.poll clock ether).1.timedOut = true := by
  have expiry := poll_expiry active outstanding expires unrelated
  have sameState : (client.ticked clock).retransmits ether (client.poll clock ether) =
      client.retransmits ether (client.poll clock ether) := by
    unfold TCPClient.retransmits
    rw [client.ticked_state clock]
  rw [← sameState]
  exact expiry.retransmits

end TCPClient

/-! ### Every run -/

section Runs

variable {ι : Type} [DecidableEq ι]

/-- The step leaves the timer of a client at 0 although its call does not act on it. -/
inductive PassesOver (index : ι) (taken : Taken (Station ι) (StationEvent ι)) : Prop
  | call (clock : HavePacketClock) (isCall : taken.event = .clientHavePacket index clock)
      (active : (taken.before.clients index).Active)
      (leaves : (taken.before.clients index).LeavesRunOut clock taken.before.ether)
  | armed (length : UInt16) (isReply : Bool)
      (isSend : taken.event = .clientSend index length isReply)
      (active : (taken.before.clients index).Active)
      (new : (taken.before.clients index).appliFlags.rexmit = false)
      (outstanding : (taken.before.clients index).unAckLen + length > 0)
      (rto : (taken.before.clients index).rto = 0)

/-- The step is a call of `havePacket`, or it arms the timer. -/
inductive MovesTimer (index : ι) (taken : Taken (Station ι) (StationEvent ι)) : Prop
  | call (isCall : isCallOn index taken.event = true)
  | connects (connects : ConnectsIn index taken)
  | sends (length : UInt16) (isReply : Bool)
      (isSend : taken.event = .clientSend index length isReply)
      (new : (taken.before.clients index).appliFlags.rexmit = false)

theorem step_runOut {index : ι} {taken : Taken (Station ι) (StationEvent ι)}
    (stepped : taken.before.step taken.event = some taken.after)
    (runOut : (taken.after.clients index).RunOut) :
    PassesOver index taken ∨
      (taken.before.clients index).RunOut ∧ ¬ MovesTimer index taken := by
  obtain ⟨before, event, after⟩ := taken
  dsimp only at stepped runOut ⊢
  apply Station.step_client_cases index stepped
  · intro unrelated same
    rw [same] at runOut
    refine Or.inr ⟨runOut, fun moves => ?_⟩
    cases moves with
    | call isCall =>
        rw [isCallOn_of_not_concerns unrelated] at isCall
        cases isCall
    | connects connects =>
        obtain ⟨_, _, rfl⟩ := connects
        exact unrelated rfl
    | sends _ _ isSend _ =>
        cases isSend
        exact unrelated rfl
  · rintro socket rfl rfl
    rw [Station.update_clients_same] at runOut
    obtain ⟨⟨open_, inTime⟩, outstanding, timer⟩ := runOut
    refine Or.inr ⟨⟨⟨open_, inTime⟩, outstanding, timer⟩, fun moves => ?_⟩
    cases moves with
    | call isCall => cases isCall
    | connects connects =>
        obtain ⟨_, _, isConnect⟩ := connects
        cases isConnect
    | sends _ _ isSend _ => cases isSend
  · rintro randomNumber now rfl rfl
    rw [Station.update_clients_same, TCPClient.connect_fst] at runOut
    have armed : TCPClient.UIP_RTO ≠ 0 := by decide
    exact absurd runOut.timer armed
  · rintro clock rfl rfl
    rw [Station.update_clients_same] at runOut
    obtain ⟨active, leaves⟩ := TCPClient.poll_runOut runOut
    exact Or.inl (.call clock rfl active leaves)
  · rintro length isReply rfl rfl
    rw [Station.update_clients_same, TCPClient.send_fst] at runOut
    by_cases again : (before.clients index).appliFlags.rexmit = true
    · rw [if_pos again] at runOut
      refine Or.inr ⟨runOut, fun moves => ?_⟩
      cases moves with
      | call isCall => cases isCall
      | connects connects =>
          obtain ⟨_, _, isConnect⟩ := connects
          cases isConnect
      | sends _ _ _ new => exact Bool.false_ne_true (new.symm.trans again)
    · rw [if_neg again] at runOut
      rw [Bool.not_eq_true] at again
      obtain ⟨⟨open_, inTime⟩, outstanding, timer⟩ := runOut
      exact Or.inl (.armed length isReply rfl ⟨open_, inTime⟩ again outstanding timer)

/-- The periodic timer has fired at the start of a call on the client. -/
def Ticks (index : ι) (taken : Taken (Station ι) (StationEvent ι)) : Prop :=
  ∃ clock, taken.event = .clientHavePacket index clock ∧
    hasElapsed clock.periodicTest (taken.before.clients index).periodic
      TCPClient.PERIODIC_TIME_OUT = true

/-- No run-out timer is passed over until the next tick, and none is found run out while
the buffer holds an old packet of the peer. -/
structure HandlesExpiries (index : ι)
    (steps : List (Taken (Station ι) (StationEvent ι))) : Prop where
  noTick : ∀ first passes between call rest,
    steps = first ++ passes :: (between ++ call :: rest) → PassesOver index passes →
      (∀ taken ∈ between, ¬ MovesTimer index taken) → ¬ Ticks index call
  noOld : ∀ taken ∈ steps, ∀ clock, taken.event = .clientHavePacket index clock →
    (taken.before.clients index).Active → (taken.before.clients index).unAckLen > 0 →
      (taken.before.clients index).TimerExpires clock →
        taken.before.ether.bufferContainsReceived = true →
          ¬ (taken.before.clients index).TakenForOld taken.before.ether

/-- The timer is not decremented at 0, and a call that finds it run out, now or since an
earlier call, and has no segment of the connection to process retransmits or gives up. -/
def ActsOnExpiry (index : ι) (taken : Taken (Station ι) (StationEvent ι)) : Prop :=
  ∀ clock, taken.event = .clientHavePacket index clock →
    (taken.before.clients index).Active → (taken.before.clients index).unAckLen > 0 →
      (hasElapsed clock.periodicTest (taken.before.clients index).periodic
          TCPClient.PERIODIC_TIME_OUT = true →
        (taken.before.clients index).timer ≠ 0) ∧
      ((taken.before.clients index).timer = 0 ∨
          (taken.before.clients index).TimerExpires clock →
        ¬ (taken.before.ether.bufferContainsReceived = true ∧
            (taken.before.clients index).OfConnection taken.before.ether) →
          retransmits index taken = true ∨ (taken.after.clients index).timedOut = true)

/-- The timer stands at 0 only since a step that passed over it. -/
def RunOutSince (index : ι) (history : List (Taken (Station ι) (StationEvent ι)))
    (station : Station ι) : Prop :=
  (station.clients index).RunOut → ∃ first passes between,
    history = first ++ passes :: between ∧ PassesOver index passes ∧
      ∀ taken ∈ between, ¬ MovesTimer index taken

theorem step_runOutSince {index : ι} (history : List (Taken (Station ι) (StationEvent ι)))
    (taken : Taken (Station ι) (StationEvent ι))
    (stepped : taken.before.step taken.event = some taken.after)
    (since : RunOutSince index history taken.before) :
    RunOutSince index (history ++ [taken]) taken.after := by
  intro runOut
  rcases step_runOut stepped runOut with passes | ⟨wasRunOut, stays⟩
  · exact ⟨history, taken, [], rfl, passes, fun _ none => absurd none List.not_mem_nil⟩
  · obtain ⟨first, passes, between, rfl, passesOver, quiet⟩ := since wasRunOut
    refine ⟨first, passes, between ++ [taken], ?_, passesOver, fun other member => ?_⟩
    · rw [List.append_assoc, List.cons_append]
    · rcases List.mem_append.mp member with earlier | last
      · exact quiet other earlier
      · rw [List.mem_singleton.mp last]
        exact stays

/-- A call before which the timer has not been passed over, or that finds no tick due, and
that finds no old packet acts on the timer. -/
theorem actsOnExpiry_of_not_runOut {index : ι} {taken : Taken (Station ι) (StationEvent ι)}
    (stepped : taken.before.step taken.event = some taken.after)
    (noTick : (taken.before.clients index).RunOut → ¬ Ticks index taken)
    (noOld : ∀ clock, taken.event = .clientHavePacket index clock →
      (taken.before.clients index).Active → (taken.before.clients index).unAckLen > 0 →
        (taken.before.clients index).TimerExpires clock →
          taken.before.ether.bufferContainsReceived = true →
            ¬ (taken.before.clients index).TakenForOld taken.before.ether) :
    ActsOnExpiry index taken := by
  intro clock isCall active outstanding
  have notTicked (elapsed : hasElapsed clock.periodicTest
      (taken.before.clients index).periodic TCPClient.PERIODIC_TIME_OUT = true) :
      (taken.before.clients index).timer ≠ 0 := by
    intro isZero
    exact noTick ⟨active, outstanding, isZero⟩ ⟨clock, isCall, elapsed⟩
  refine ⟨notTicked, fun expired notOurs => ?_⟩
  have expires : (taken.before.clients index).TimerExpires clock := by
    rcases expired with isZero | expires
    · unfold TCPClient.TimerExpires
      split
      · rename_i elapsed
        exact absurd isZero (notTicked elapsed)
      · exact isZero
    · exact expires
  have unrelated (received : taken.before.ether.bufferContainsReceived = true) :
      ¬ (taken.before.clients index).OfConnection taken.before.ether ∧
        ¬ (taken.before.clients index).TakenForOld taken.before.ether :=
    ⟨fun ours => notOurs ⟨received, ours⟩,
      noOld clock isCall active outstanding expires received⟩
  obtain ⟨isEther, isClient⟩ := step_call stepped isCall
  have acts := TCPClient.poll_expires active outstanding expires unrelated
  have isCallOn : isCallOn index taken.event = true := by
    rw [isCall]
    exact decide_eq_true rfl
  unfold retransmits
  rw [isCallOn, Bool.true_and, isEther, isClient]
  exact acts

/-- In a run in which no tick comes while the timer stands at 0 because it was passed over,
and no old packet is in the buffer when it runs out, the timer never wraps and every expiry
is acted on by the first call that has no segment of the connection to process. -/
theorem run_acts_on_expiry {index : ι} {start : Station ι}
    (closed : (start.clients index).state = .disconnected)
    {events : List (StationEvent ι)}
    (handles : HandlesExpiries index (trace Station.step start events)) :
    Always Station.step start events (ActsOnExpiry index) := by
  have initial : RunOutSince index [] start :=
    fun runOut => absurd closed runOut.active.open_
  obtain ⟨_, since⟩ := history_invariant (RunOutSince index) step_runOutSince events []
    initial
  intro taken member
  obtain ⟨earlier, later, split⟩ := List.append_of_mem member
  have runOutSince := since earlier taken later split
  rw [List.nil_append] at runOutSince
  refine actsOnExpiry_of_not_runOut (step_of_mem_trace member) (fun runOut => ?_)
    (handles.noOld taken member)
  obtain ⟨first, passes, between, rfl, passesOver, quiet⟩ := runOutSince runOut
  rw [List.append_assoc, List.cons_append] at split
  exact handles.noTick first passes between taken later split passesOver quiet

end Runs

/-- Two bytes of data for port 20001, without news about what was sent. -/
def dataFirst : Frame :=
  exampleFrame 22 IP6_PROTO_TCP
    [0, 80, 0x4e, 0x21, 0, 0, 0x13, 0x89, 0, 0, 3, 0xe9, 0x50, 0x18, 1, 0xea, 0xe4, 0x8f,
      0, 0, 0x68, 0x69] (by decide)

/-- The last tick of the timer comes in the call that delivers the data. -/
def untilPassedOver : List (StationEvent Bool) :=
  untilLastTick ++ [.receivePacket dataFirst, .clientHavePacket false (clockAt 3000)]

/-- The next tick finds the timer at 0 and takes it to 255. -/
theorem timer_wraps :
    ¬ Always Station.step twoClients
      (untilPassedOver ++ [.clientHavePacket false (clockAt 3250)])
      (ActsOnExpiry false) := by
  have facts : (run Station.step twoClients untilPassedOver).map (fun station =>
      let client := station.clients false
      (client.state, client.timedOut, decide (client.unAckLen > 0), client.timer,
        hasElapsed 3250 client.periodic TCPClient.PERIODIC_TIME_OUT,
        (client.poll (clockAt 3250) station.ether).1.timer)) =
      some (.connected, false, true, 0, true, 255) := by
    decide +kernel
  obtain ⟨station, returns, isClient⟩ := Option.map_eq_some_iff.mp facts
  simp only [Prod.mk.injEq, decide_eq_true_eq] at isClient
  obtain ⟨connected, inTime, outstanding, isZero, elapsed, _⟩ := isClient
  have open_ : (station.clients false).state ≠ .disconnected := by
    rw [connected]
    exact nofun
  rw [always_append_of_run returns, always_cons_of_step rfl]
  rintro ⟨_, acts, _⟩
  exact (acts (clockAt 3250) rfl ⟨open_, inTime⟩ outstanding).1 elapsed isZero

theorem run_acts_on_expiry_first :
    Always Station.step twoClients (.connect false 1000 0 :: firstExpiry)
      (ActsOnExpiry false) := by
  have noPacket : Always Station.step twoClients (.connect false 1000 0 :: firstExpiry)
      (fun taken => taken.before.ether.bufferContainsReceived = false) := by
    decide +kernel
  have closed : (twoClients.clients false).state = .disconnected := rfl
  refine run_acts_on_expiry closed ⟨fun first passes between call rest split passesOver => ?_,
    fun taken member _ _ _ _ _ received => ?_⟩
  · have member : passes ∈ trace Station.step twoClients
        (.connect false 1000 0 :: firstExpiry) := by
      rw [split]
      exact List.mem_append_right _ List.mem_cons_self
    have empty := noPacket passes member
    cases passesOver with
    | call _ _ _ leaves =>
        cases leaves with
        | skips _ _ received _ => cases empty.symm.trans received
        | accepts accepts _ => cases empty.symm.trans accepts.received
    | armed length isReply isSend _ _ _ _ =>
        have isEvent := event_mem_of_mem_trace member
        rw [isSend] at isEvent
        simp [firstExpiry] at isEvent
  · cases (noPacket taken member).symm.trans received

end EtherSiaStack
