/-
Rejecting a packet once.

`_bufferContainsReceived` is set by `receivePacket` alone and cleared by whatever
sends.  While it is set, nothing has been sent since the call that accepted the packet
in the buffer began, so `rejectPacket` answers a packet at most once and never one
that has been answered.
-/

import EtherSiaStack.ClientCall
import EtherSiaStack.NeighbourDiscovery

namespace EtherSiaStack

open ByteMemory IPv6Packet Trace

/-! ### One call -/

/-- The call sends nothing and sets no flag, or it sends one frame and clears it. -/
inductive SendsOnce (before after : EtherSia) : Prop
  | nothing (sent : after.sent = before.sent)
      (flag : after.bufferContainsReceived = true → before.bufferContainsReceived = true)
  | frame (octets : List UInt8) (sent : after.sent = before.sent ++ [octets])
      (flag : after.bufferContainsReceived = false)

theorem sendsOnce_refl (ether : EtherSia) : SendsOnce ether ether :=
  .nothing rfl id

theorem sendsOnce_send {before ether : EtherSia} (same : ether.sent = before.sent) :
    SendsOnce before ether.send :=
  .frame _ (congrArg (· ++ [_]) same) rfl

namespace EtherSia

theorem icmp6NSReply_sendsOnce (ether : EtherSia) : SendsOnce ether ether.icmp6NSReply := by
  unfold icmp6NSReply
  dsimp only
  split
  · exact sendsOnce_refl ether
  · exact sendsOnce_send rfl

theorem icmp6EchoReply_sendsOnce (ether : EtherSia) :
    SendsOnce ether ether.icmp6EchoReply :=
  sendsOnce_send rfl

theorem icmp6ErrorReply_sendsOnce (ether : EtherSia) (type code : UInt8) :
    SendsOnce ether (ether.icmp6ErrorReply type code) :=
  sendsOnce_send rfl

theorem dispatchReceived_sendsOnce {ether after : EtherSia} {len result : UInt16}
    (returned : ether.dispatchReceived len = some (result, after)) :
    SendsOnce ether after := by
  refine dispatchReceived_cases returned (motive := fun _ later => SendsOnce ether later)
    ?_ ?_ ?_ ?_
  · exact sendsOnce_refl ether
  · exact fun _ => icmp6NSReply_sendsOnce ether
  · exact fun _ => icmp6EchoReply_sendsOnce ether
  · intro _ walked walks
    obtain ⟨_, _, _, rfl⟩ := icmp6ProcessRA_configuresOnly walks
    exact .nothing rfl id

/-- Only a packet that is accepted sets the flag. -/
theorem receivePacket_sendsOnce {ether after : EtherSia} {frame : Frame} {len : UInt16}
    (returned : ether.receivePacket frame = some (len, after)) :
    (after.bufferContainsReceived = false ∧ SendsOnce ether after) ∨
      ether.Accepts frame ∧ SendsOnce (ether.accepted frame) after := by
  by_cases accepts : ether.Accepts frame
  · rw [receivePacket_of_accepts accepts] at returned
    exact Or.inr ⟨accepts, dispatchReceived_sendsOnce returned⟩
  · rw [receivePacket_of_not_accepts accepts] at returned
    cases returned
    refine Or.inl ⟨rfl, .nothing rfl fun flag => ?_⟩
    cases flag

theorem tcpSendRSTReply_sendsOnce (ether : EtherSia) :
    SendsOnce ether ether.tcpSendRSTReply :=
  sendsOnce_send rfl

theorem rejectPacket_sendsOnce (ether : EtherSia) : SendsOnce ether ether.rejectPacket := by
  unfold rejectPacket
  split_ifs
  · exact sendsOnce_refl ether
  · exact sendsOnce_refl ether
  · exact tcpSendRSTReply_sendsOnce ether
  · exact icmp6ErrorReply_sendsOnce ether _ _
  · exact sendsOnce_refl ether
  · exact icmp6ErrorReply_sendsOnce ether _ _

end EtherSia

theorem UDPSocket.send_sendsOnce (socket : Socket) (length : UInt16) (isReply : Bool)
    (ether : EtherSia) : SendsOnce ether (UDPSocket.send socket length isReply ether) := by
  apply sendsOnce_send
  exact socket.prepare_sent isReply ether

theorem TCPServer.send_sendsOnce (socket : Socket) (length : UInt16) (isReply : Bool)
    (ether : EtherSia) : SendsOnce ether (TCPServer.send socket length isReply ether) := by
  apply sendsOnce_send
  exact socket.prepare_sent isReply ether

theorem TCPServer.havePacket_sendsOnce (socket : Socket) (randomNumber : UInt32)
    (ether : EtherSia) :
    SendsOnce ether (TCPServer.havePacket socket randomNumber ether).2.2 := by
  unfold TCPServer.havePacket
  dsimp only
  split_ifs
  · exact sendsOnce_refl ether
  · exact sendsOnce_refl ether
  · exact sendsOnce_refl ether
  · exact sendsOnce_refl ether
  · exact sendsOnce_send rfl
  · exact sendsOnce_send rfl
  · exact .nothing rfl id
  · exact sendsOnce_refl ether

namespace TCPClient

theorem send_sendsOnce (client : TCPClient) (length : UInt16) (isReply : Bool)
    (ether : EtherSia) : SendsOnce ether (client.send length isReply ether).2 := by
  have sent := client.toSocket.prepare_sent isReply ether
  unfold send sendInternal
  dsimp only
  split
  · exact sendsOnce_send sent
  · exact sendsOnce_send sent

theorem resetReply_sendsOnce (client : TCPClient) (ether : EtherSia) :
    SendsOnce ether (client.resetReply ether) := by
  unfold resetReply
  split
  · exact sendsOnce_refl ether
  · exact sendsOnce_send rfl

theorem checkForRetransmit_sendsOnce (client : TCPClient) (ether : EtherSia) :
    SendsOnce ether (client.checkForRetransmit ether).2 := by
  apply checkForRetransmit_ether_cases
  · exact sendsOnce_refl ether
  · exact fun _ _ _ _ => sendsOnce_send rfl
  · exact .nothing rfl id

theorem foundSegment_sendsOnce (client : TCPClient) (ether : EtherSia) :
    SendsOnce ether (client.foundSegment ether).2 := by
  apply foundSegment_ether_cases
  · exact sendsOnce_refl ether
  · exact fun _ _ => sendsOnce_send rfl
  · exact fun other => resetReply_sendsOnce other ether
  · exact fun other _ => checkForRetransmit_sendsOnce other ether

theorem poll_sendsOnce (client : TCPClient) (clock : HavePacketClock) (ether : EtherSia) :
    SendsOnce ether (client.poll clock ether).2 := by
  refine poll_cases client clock ether (motive := fun after => SendsOnce ether after.2)
    ?_ ?_ ?_ ?_
  · exact fun _ => sendsOnce_refl ether
  · exact fun _ _ _ => foundSegment_sendsOnce _ ether
  · exact fun _ _ _ => resetReply_sendsOnce _ ether
  · exact fun _ _ _ => checkForRetransmit_sendsOnce _ ether

end TCPClient

/-! ### One step -/

variable {ι : Type}

/-- The step receives a frame that is accepted. -/
def AcceptsFrame (taken : Taken (Station ι) (StationEvent ι)) : Prop :=
  ∃ frame, taken.event = .receivePacket frame ∧ taken.before.ether.Accepts frame

/-- The step sends nothing. -/
def SendsNothing (taken : Taken (Station ι) (StationEvent ι)) : Prop :=
  taken.after.ether.sent = taken.before.ether.sent

/-- The step sends at most one frame, and the flag is set behind it only if it sends
nothing and either accepts a packet or receives none and finds the flag set. -/
structure StepSends (taken : Taken (Station ι) (StationEvent ι)) : Prop where
  atMostOne : SendsNothing taken ∨
    ∃ octets, taken.after.ether.sent = taken.before.ether.sent ++ [octets]
  silent : taken.after.ether.bufferContainsReceived = true → SendsNothing taken
  flag : taken.after.ether.bufferContainsReceived = true → AcceptsFrame taken ∨
    (∀ frame, taken.event ≠ .receivePacket frame) ∧
      taken.before.ether.bufferContainsReceived = true

theorem SendsOnce.stepSends {taken : Taken (Station ι) (StationEvent ι)}
    (sends : SendsOnce taken.before.ether taken.after.ether)
    (other : ∀ frame, taken.event ≠ .receivePacket frame) : StepSends taken := by
  cases sends with
  | nothing sent flag =>
      exact ⟨Or.inl sent, fun _ => sent, fun set => Or.inr ⟨other, flag set⟩⟩
  | frame octets sent flag =>
      refine ⟨Or.inr ⟨octets, sent⟩, fun set => ?_, fun set => ?_⟩
      · rw [flag] at set
        cases set
      · rw [flag] at set
        cases set

/-! ### Since a packet was accepted -/

/-- Some step accepted a packet, none since has received one, and nothing has been sent
since that step began. -/
def SilentSinceAccepted (steps : List (Taken (Station ι) (StationEvent ι))) : Prop :=
  ∃ earlier accepting later, steps = earlier ++ accepting :: later ∧
    AcceptsFrame accepting ∧
      (∀ step ∈ later, ∀ frame, step.event ≠ .receivePacket frame) ∧
        ∀ step ∈ accepting :: later, SendsNothing step

theorem silentSinceAccepted_step {steps : List (Taken (Station ι) (StationEvent ι))}
    {taken : Taken (Station ι) (StationEvent ι)} (sends : StepSends taken)
    (before : taken.before.ether.bufferContainsReceived = true → SilentSinceAccepted steps)
    (flag : taken.after.ether.bufferContainsReceived = true) :
    SilentSinceAccepted (steps ++ [taken]) := by
  have silent := sends.silent flag
  rcases sends.flag flag with accepts | ⟨other, wasSet⟩
  · refine ⟨steps, taken, [], rfl, accepts, ?_, ?_⟩
    · exact fun step none => absurd none List.not_mem_nil
    · intro step member
      rw [List.mem_singleton.mp member]
      exact silent
  · obtain ⟨earlier, accepting, later, rfl, accepts, others, allSilent⟩ := before wasSet
    refine ⟨earlier, accepting, later ++ [taken], ?_, accepts, ?_, ?_⟩
    · rw [List.append_assoc, List.cons_append]
    · intro step member
      rcases List.mem_append.mp member with old | isLast
      · exact others step old
      · rw [List.mem_singleton.mp isLast]
        exact other
    · intro step member
      rw [← List.cons_append] at member
      rcases List.mem_append.mp member with old | isLast
      · exact allSilent step old
      · rw [List.mem_singleton.mp isLast]
        exact silent

/-- The step is a call of `rejectPacket` that sends. -/
def Rejects (taken : Taken (Station ι) (StationEvent ι)) : Prop :=
  taken.event = .rejectPacket ∧ ¬ SendsNothing taken

variable [DecidableEq ι]

theorem Station.step_sends {taken : Taken (Station ι) (StationEvent ι)}
    (stepped : taken.before.step taken.event = some taken.after) : StepSends taken := by
  obtain ⟨before, event, after⟩ := taken
  change before.step event = some after at stepped
  cases event with
  | receivePacket frame =>
      obtain ⟨⟨len, received⟩, returned, rfl⟩ := Option.map_eq_some_iff.mp stepped
      rcases EtherSia.receivePacket_sendsOnce returned with ⟨cleared, sends⟩ |
        ⟨accepts, sends⟩
      · have notSet : ¬ received.bufferContainsReceived = true := by
          rw [cleared]
          exact Bool.false_ne_true
        refine ⟨?_, fun set => absurd set notSet, fun set => absurd set notSet⟩
        cases sends with
        | nothing sent flag => exact Or.inl sent
        | frame octets sent flag => exact Or.inr ⟨octets, sent⟩
      · have isAccepted : AcceptsFrame
            ⟨before, .receivePacket frame, { before with ether := received }⟩ :=
          ⟨frame, rfl, accepts⟩
        cases sends with
        | nothing sent flag =>
            exact ⟨Or.inl sent, fun _ => sent, fun _ => Or.inl isAccepted⟩
        | frame octets sent flag =>
            refine ⟨Or.inr ⟨octets, sent⟩, fun set => ?_, fun _ => Or.inl isAccepted⟩
            rw [flag] at set
            cases set
  | rejectPacket =>
      cases stepped
      exact SendsOnce.stepSends (EtherSia.rejectPacket_sendsOnce _) nofun
  | tcpSendRSTReply =>
      cases stepped
      exact SendsOnce.stepSends (EtherSia.tcpSendRSTReply_sendsOnce _) nofun
  | icmp6SendNS target source =>
      cases stepped
      exact SendsOnce.stepSends (sendsOnce_send rfl) nofun
  | icmp6SendRS =>
      cases stepped
      exact SendsOnce.stepSends (sendsOnce_send rfl) nofun
  | configure globalAddress dnsServerAddress routerMac autoConfigurationEnabled =>
      cases stepped
      exact SendsOnce.stepSends (.nothing rfl id) nofun
  | writePayload offset bytes =>
      cases stepped
      exact SendsOnce.stepSends (.nothing rfl id) nofun
  | udpSend socket length isReply =>
      cases stepped
      exact SendsOnce.stepSends (UDPSocket.send_sendsOnce socket length isReply _) nofun
  | serverHavePacket socket randomNumber =>
      cases stepped
      exact SendsOnce.stepSends (TCPServer.havePacket_sendsOnce socket randomNumber _) nofun
  | serverSend socket length isReply =>
      cases stepped
      exact SendsOnce.stepSends (TCPServer.send_sendsOnce socket length isReply _) nofun
  | setRemoteAddress index socket =>
      cases stepped
      exact SendsOnce.stepSends (sendsOnce_refl _) nofun
  | connect index randomNumber now =>
      cases stepped
      have transmits := TCPClient.connect_transmits (before.clients index) randomNumber now
        before.ether
      exact SendsOnce.stepSends (.frame _ transmits.sent transmits.received) nofun
  | clientHavePacket index clock =>
      cases stepped
      exact SendsOnce.stepSends (TCPClient.poll_sendsOnce _ clock _) nofun
  | clientSend index length isReply =>
      cases stepped
      exact SendsOnce.stepSends (TCPClient.send_sendsOnce _ length isReply _) nofun

/-! ### Whole runs -/

/-- `begin()`, of which the first statement that touches the interface is the
solicitation for our own address, and everything behind it. -/
def fromBegin (station : Station ι) (events : List (StationEvent ι)) :
    List (Taken (Station ι) (StationEvent ι)) :=
  trace Station.step station
    (.icmp6SendNS station.ether.linkLocalAddress IPv6Address.zero :: events)

/-- The state behind these calls. -/
def behindBegin (station : Station ι) (events : List (StationEvent ι)) : Station ι :=
  reached Station.step station
    (.icmp6SendNS station.ether.linkLocalAddress IPv6Address.zero :: events)

/-- What the flag says in a run, and what follows for `rejectPacket`. -/
structure RejectsOnce (station : Station ι) (events : List (StationEvent ι)) : Prop where
  flag : (behindBegin station events).ether.bufferContainsReceived = true →
    SilentSinceAccepted (fromBegin station events)
  answers : ∀ earlier taken later, fromBegin station events = earlier ++ taken :: later →
    Rejects taken → SilentSinceAccepted earlier ∧
      ∃ octets, taken.after.ether.sent = taken.before.ether.sent ++ [octets]
  once : ∀ earlier first between second later,
    fromBegin station events = earlier ++ first :: between ++ second :: later →
      Rejects first → Rejects second → ∃ accepting ∈ between, AcceptsFrame accepting

/-- The interface may come to this state by calls that solicit and receive. -/
def Calls (before after : EtherSia) : Prop :=
  ∀ (ι : Type) [DecidableEq ι] (clients : ι → TCPClient),
    ∃ events, run Station.step ⟨before, clients⟩ events = some ⟨after, clients⟩

theorem calls_refl (ether : EtherSia) : Calls ether ether :=
  fun _ _ _ => ⟨[], rfl⟩

theorem Calls.trans {before between after : EtherSia} (first : Calls before between)
    (second : Calls between after) : Calls before after := by
  intro ι decidable clients
  obtain ⟨events, runs⟩ := first ι clients
  obtain ⟨more, runsMore⟩ := second ι clients
  exact ⟨events ++ more, run_append runs runsMore⟩

theorem solicitWhenDue_calls (address : IPv6Address) (pass : DiscoveryPass)
    (discovery : Discovery) :
    Calls discovery.ether (EtherSia.solicitWhenDue address pass discovery).ether := by
  unfold EtherSia.solicitWhenDue
  split
  · exact fun _ _ _ => ⟨[.icmp6SendNS address _], rfl⟩
  · exact calls_refl _

theorem receivePacket_calls {ether after : EtherSia} {frame : Frame} {len : UInt16}
    (returned : ether.receivePacket frame = some (len, after)) : Calls ether after := by
  intro ι decidable clients
  refine ⟨[.receivePacket frame], ?_⟩
  have stepped : Station.step ⟨ether, clients⟩ (.receivePacket frame) =
      some ⟨after, clients⟩ := Option.map_eq_some_iff.mpr ⟨_, returned, rfl⟩
  exact run_cons_of_step stepped []

theorem discoverPass_calls {address : IPv6Address} {attempts : UInt8}
    {passes : Nat → DiscoveryPass} {discovery : Discovery} :
    (∀ next, EtherSia.discoverPass address attempts passes discovery = .inl next →
      Calls discovery.ether next.ether) ∧
    ∀ result after, EtherSia.discoverPass address attempts passes discovery =
        .inr (some (result, after)) → Calls discovery.ether after := by
  have solicits := solicitWhenDue_calls address (passes discovery.passNumber) discovery
  unfold EtherSia.discoverPass
  constructor
  · intro next continues
    split at continues
    · dsimp only at continues
      split at continues
      · cases continues
      · rename_i len ether returned
        have calls := solicits.trans (receivePacket_calls returned)
        split at continues
        · split at continues
          · cases continues
          · cases continues
          · cases continues
            exact calls
        · cases continues
          exact calls
    · cases continues
  · intro result after leaves
    split at leaves
    · dsimp only at leaves
      split at leaves
      · cases leaves
      · rename_i len ether returned
        have calls := solicits.trans (receivePacket_calls returned)
        split at leaves
        · split at leaves
          · cases leaves
          · cases leaves
            exact calls
          · cases leaves
        · cases leaves
    · cases leaves
      exact calls_refl _

/-- A call of `discoverNeighbour` is made of steps of a run. -/
theorem discoverNeighbour_calls {ether after : EtherSia} {address : IPv6Address}
    {attempts : UInt8} {now : UInt32} {passes : Nat → DiscoveryPass}
    {result : Option MACAddress}
    (returns : ether.DiscoverNeighbour address attempts now passes (result, after)) :
    Calls ether after := by
  obtain ⟨discovery, reached, leaves⟩ := FuelLoop.returns_iff_reaches.mp returns
  have calls : Calls ether discovery.ether := by
    clear leaves
    induction reached with
    | start => exact calls_refl ether
    | next _ continues ih => exact ih.trans (discoverPass_calls.1 _ continues)
  exact calls.trans (discoverPass_calls.2 result after leaves)

theorem rejectPacket_of_not_received {ether : EtherSia}
    (empty : ether.bufferContainsReceived = false) : ether.rejectPacket = ether :=
  if_pos empty

theorem Rejects.received {taken : Taken (Station ι) (StationEvent ι)}
    (rejects : Rejects taken)
    (stepped : taken.before.step taken.event = some taken.after) :
    taken.before.ether.bufferContainsReceived = true := by
  by_contra empty
  rw [Bool.not_eq_true] at empty
  obtain ⟨isReject, sends⟩ := rejects
  rw [isReject] at stepped
  apply sends
  unfold SendsNothing
  rw [← Option.some.inj stepped]
  exact congrArg EtherSia.sent (rejectPacket_of_not_received empty)

theorem fromBegin_cons (station : Station ι) (events : List (StationEvent ι)) :
    ∃ first next, fromBegin station events = first :: trace Station.step next events ∧
      behindBegin station events = reached Station.step next events ∧
        first.event = .icmp6SendNS station.ether.linkLocalAddress IPv6Address.zero ∧
          next.ether.bufferContainsReceived = false :=
  ⟨_, _, rfl, rfl, rfl, rfl⟩

theorem fromBegin_step {station : Station ι} {events : List (StationEvent ι)}
    {earlier later : List (Taken (Station ι) (StationEvent ι))}
    {taken : Taken (Station ι) (StationEvent ι)}
    (split : fromBegin station events = earlier ++ taken :: later) :
    taken.before.step taken.event = some taken.after := by
  have member : taken ∈ fromBegin station events := by
    rw [split]
    exact List.mem_append_right _ List.mem_cons_self
  exact step_of_mem_trace member

theorem fromBegin_history (station : Station ι) (events : List (StationEvent ι)) :
    ((behindBegin station events).ether.bufferContainsReceived = true →
      SilentSinceAccepted (fromBegin station events)) ∧
    ∀ earlier taken later, fromBegin station events = earlier ++ taken :: later →
      Rejects taken → SilentSinceAccepted earlier := by
  obtain ⟨first, next, isTrace, isReached, solicits, cleared⟩ :=
    fromBegin_cons station events
  have notSet : ¬ next.ether.bufferContainsReceived = true := by
    rw [cleared]
    exact Bool.false_ne_true
  obtain ⟨atEnd, before⟩ := history_invariant
    (fun history (station : Station ι) =>
      station.ether.bufferContainsReceived = true → SilentSinceAccepted history)
    (fun history taken stepped => silentSinceAccepted_step (Station.step_sends stepped))
    events [first] (fun set => absurd set notSet)
  rw [isReached, isTrace]
  refine ⟨atEnd, fun earlier taken later split rejects => ?_⟩
  cases earlier with
  | nil =>
      obtain ⟨isFirst, _⟩ := List.cons.inj split
      have isReject := rejects.1
      rw [← isFirst, solicits] at isReject
      cases isReject
  | cons head earlier =>
      obtain ⟨isFirst, isRest⟩ := List.cons.inj split
      rw [← isFirst]
      apply before earlier taken later isRest
      exact rejects.received (fromBegin_step (isTrace.trans split))

/-- Every run from `begin()` on; a call of `discoverNeighbour` is a part of one. -/
theorem run_rejects_once (station : Station ι) (events : List (StationEvent ι)) :
    RejectsOnce station events ∧
      ∀ (ether after : EtherSia) address attempts now passes result,
        ether.DiscoverNeighbour address attempts now passes (result, after) →
          Calls ether after := by
  obtain ⟨flag, before⟩ := fromBegin_history station events
  refine ⟨⟨flag, ?_, ?_⟩, fun _ _ _ _ _ _ _ => discoverNeighbour_calls⟩
  · intro earlier taken later split rejects
    refine ⟨before earlier taken later split rejects, ?_⟩
    exact (Station.step_sends (fromBegin_step split)).atMostOne.resolve_left rejects.2
  · intro earlier first between second later split rejectsFirst rejectsSecond
    have regrouped : fromBegin station events =
        (earlier ++ first :: between) ++ second :: later := by
      rw [split, List.append_assoc, List.cons_append]
    obtain ⟨pre, accepting, post, isSplit, accepts, _, silent⟩ :=
      before _ second later regrouped rejectsSecond
    have isOther : first ≠ accepting := by
      rintro rfl
      obtain ⟨frame, isReceive, _⟩ := accepts
      rw [rejectsFirst.1] at isReceive
      cases isReceive
    refine ⟨accepting, ?_, accepts⟩
    rcases List.append_eq_append_iff.mp isSplit with ⟨gap, _, isRest⟩ | ⟨gap, _, isRest⟩
    · cases gap with
      | nil => exact absurd (List.cons.inj isRest).1 isOther
      | cons head gap =>
          rw [(List.cons.inj isRest).2]
          exact List.mem_append_right _ List.mem_cons_self
    · cases gap with
      | nil => exact absurd (List.cons.inj isRest).1.symm isOther
      | cons head gap =>
          have member : first ∈ accepting :: post := by
            rw [isRest]
            exact List.mem_append_right _ List.mem_cons_self
          exact absurd (silent first member) rejectsFirst.2

end EtherSiaStack
