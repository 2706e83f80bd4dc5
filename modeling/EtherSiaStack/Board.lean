/-
A board: a station and the driver of its Ethernet controller.

`receivePacket` asks the driver for one frame, and `send` hands it the packet in the buffer.
Over a driver that implements a link, a board does what a station does that is given the
frames of the link, and what it sends is what goes out on the link.
-/

import EtherSiaStack.LinkLayer
import EtherSiaStack.Rejection

namespace EtherSiaStack

open ByteMemory FrameLink

namespace EtherSia

/-- `receivePacket` behind its call of `readFrame`. -/
def receiveLoaded (ether : EtherSia) (len : UInt16) : Option (UInt16 × EtherSia) :=
  if len ≠ 0 then
    if !ether.acceptsPacket then
      some (0, { ether with bufferContainsReceived := false })
    else
      { ether with bufferContainsReceived := true }.dispatchReceived len
  else
    some (0, { ether with bufferContainsReceived := false })

theorem receivePacket_eq_receiveLoaded (ether : EtherSia) (frame : Frame) :
    ether.receivePacket frame =
      (ether.withBuffer (store ether.buffer 0 frame.octets)).receiveLoaded
        (UInt16.ofNat frame.octets.length) := by
  unfold receivePacket receiveLoaded
  dsimp only
  by_cases nonempty : frame.octets = []
  · have zero : ¬UInt16.ofNat frame.octets.length ≠ 0 := by
      rw [nonempty]
      decide
    rw [if_neg zero, if_neg zero, nonempty, store_nil]
    rfl
  · have nonzero := (frame_length_ne_zero_iff frame).mpr nonempty
    rw [if_pos nonzero, if_pos nonzero]
    rfl

end EtherSia

structure Board (ι δ : Type) where
  station : Station ι
  driver : δ

/-- A call on a board: which frame is received is up to the driver. -/
inductive BoardEvent (ι : Type)
  | receivePacket
  | other (event : StationEvent ι) (isOther : ∀ frame, event ≠ .receivePacket frame)

namespace Board

variable {ι δ : Type} {call : δ → DriverCall → δ → Prop}

/-- Frames are handed to the driver one after the other, each in a buffer. -/
inductive HandsOver (call : δ → DriverCall → δ → Prop) : δ → List (List UInt8) → δ → Prop
  | nothing (driver : δ) : HandsOver call driver [] driver
  | frame {driver between last : δ} {memory : Memory} {datalen result : UInt16}
      {rest : List (List UInt8)} (sends : call driver (.sendFrame memory 0 datalen result) between)
      (others : HandsOver call between rest last) :
      HandsOver call driver (bytesAt memory 0 datalen.toNat :: rest) last

inductive Step [DecidableEq ι] (call : δ → DriverCall → δ → Prop) : Board ι δ → BoardEvent ι → Board ι δ → Prop
  | receivePacket {board : Board ι δ} {len result : UInt16} {memory : Memory} {ether : EtherSia}
      {read last : δ} {frames : List (List UInt8)}
      (reads : call board.driver (.readFrame board.station.ether.buffer 0 600 (len, memory)) read)
      (receives : (board.station.ether.withBuffer memory).receiveLoaded len =
        some (result, ether))
      (sent : ether.sent = board.station.ether.sent ++ frames)
      (sends : HandsOver call read frames last) :
      Step call board .receivePacket ⟨{ board.station with ether := ether }, last⟩
  | other {board : Board ι δ} {event : StationEvent ι} {station : Station ι} {last : δ}
      {frames : List (List UInt8)} {isOther : ∀ frame, event ≠ .receivePacket frame}
      (steps : board.station.step event = some station)
      (sent : station.ether.sent = board.station.ether.sent ++ frames)
      (sends : HandsOver call board.driver frames last) :
      Step call board (.other event isOther) ⟨station, last⟩

/-- A call that sends one frame hands over the packet in the buffer. -/
theorem Step.transmits [DecidableEq ι] {board : Board ι δ} {event : StationEvent ι}
    {station : Station ι} {last : δ} {result : UInt16}
    (isOther : ∀ frame, event ≠ .receivePacket frame)
    (steps : board.station.step event = some station)
    (transmits : Transmits board.station.ether station.ether)
    (sends : call board.driver (.sendFrame station.ether.buffer 0
      (IPv6Packet.length station.ether.buffer) result) last) :
    Step call board (.other event isOther) ⟨station, last⟩ :=
  .other steps transmits.sent (.frame sends (.nothing last))

/-! ### What the station sees -/

/-- The call of the station, if the driver has given this frame. -/
inductive Matches : BoardEvent ι → StationEvent ι → Prop
  | receivePacket (frame : Frame) : Matches .receivePacket (.receivePacket frame)
  | other (event : StationEvent ι) (isOther : ∀ frame, event ≠ .receivePacket frame) :
      Matches (.other event isOther) event

/-- The frames there is something in, and room for. -/
def admitted (frames : List (List UInt8)) : List (List UInt8) :=
  frames.filter fun frame => frame ≠ [] ∧ frame.length ≤ ETHERSIA_MAX_PACKET_SIZE

/-- The frames calls have received, without those that were given none. -/
def framesGiven : List (StationEvent ι) → List (List UInt8)
  | [] => []
  | .receivePacket frame :: events => admitted [frame.octets] ++ framesGiven events
  | _ :: events => framesGiven events

/-- How often a frame is asked for. -/
def receives : List (BoardEvent ι) → Nat
  | [] => 0
  | .receivePacket :: events => receives events + 1
  | .other _ _ :: events => receives events

/-- What a run of a board is to its station, and to the link behind its driver. -/
structure Refined [DecidableEq ι] (holds : δ → Link (List UInt8) → Prop) (board : Board ι δ)
    (link : Link (List UInt8)) (events : List (BoardEvent ι)) (calls : List (StationEvent ι))
    (actions : List (Action (List UInt8))) (last : Board ι δ) (after : Link (List UInt8)) :
    Prop where
  corresponds : List.Forall₂ Matches events calls
  station : Trace.run Station.step board.station calls = some last.station
  link : Run FrameLink.Step link actions after
  attached : holds last.driver after
  given : framesGiven calls = admitted (received actions)
  asked : requests actions = receives events
  sent : last.station.ether.sent = board.station.ether.sent ++ transmitted actions

section Composition

variable {holds : δ → Link (List UInt8) → Prop}

theorem framesGiven_append (front rest : List (StationEvent ι)) :
    framesGiven (front ++ rest) = framesGiven front ++ framesGiven rest := by
  induction front with
  | nil => rfl
  | cons event events ih =>
      cases event with
      | receivePacket frame =>
          rw [List.cons_append, framesGiven, framesGiven, ih, List.append_assoc]
      | _ => exact ih

theorem receives_append (front rest : List (BoardEvent ι)) :
    receives (front ++ rest) = receives front + receives rest := by
  induction front with
  | nil => exact (Nat.zero_add _).symm
  | cons event events ih =>
      cases event with
      | receivePacket =>
          rw [List.cons_append, receives, receives, ih]
          omega
      | other event isOther => exact ih

theorem Refined.trans [DecidableEq ι] {board between last : Board ι δ} {link middle after : Link (List UInt8)}
    {front rest : List (BoardEvent ι)} {calls more : List (StationEvent ι)}
    {actions further : List (Action (List UInt8))}
    (first : Refined holds board link front calls actions between middle)
    (second : Refined holds between middle rest more further last after) :
    Refined holds board link (front ++ rest) (calls ++ more) (actions ++ further) last after where
  corresponds := List.rel_append first.corresponds second.corresponds
  station := Trace.run_append first.station second.station
  link := first.link.append second.link
  attached := second.attached
  given := by
    rw [framesGiven_append, received_append, first.given, second.given]
    exact (List.filter_append _ _).symm
  asked := by rw [requests_append, receives_append, first.asked, second.asked]
  sent := by rw [transmitted_append, second.sent, first.sent, List.append_assoc]

end Composition

/-! ### Runs -/

section Runs

variable {holds : δ → Link (List UInt8) → Prop}

/-- What is handed to the driver goes out on the link. -/
theorem HandsOver.run (implements : Implements holds call DriverCall.Explains)
    {driver last : δ} {frames : List (List UInt8)} (sends : HandsOver call driver frames last)
    {link : Link (List UInt8)} (attached : holds driver link) :
    ∃ after, Run FrameLink.Step link (frames.map Action.send) after ∧ holds last after := by
  induction sends generalizing link with
  | nothing driver => exact ⟨link, .done link, attached⟩
  | frame sends _ ih =>
      obtain ⟨action, between, explained, step, stillAttached⟩ :=
        implements _ _ _ _ attached sends
      obtain ⟨after, run, attachedLast⟩ := ih stillAttached
      cases explained
      exact ⟨after, .next step run, attachedLast⟩

/-- What `readFrame` leaves is what is left by a call that has been given a frame, or none. -/
theorem frame_of_explains {memory loaded : Memory} {len : UInt16}
    {action : Action (List UInt8)}
    (explained : DriverCall.Explains (.readFrame memory 0 600 (len, loaded)) action) :
    ∃ (outcome : Option (List UInt8)) (frame : Frame), action = .receive outcome ∧
      len = UInt16.ofNat frame.octets.length ∧ loaded = store memory 0 frame.octets ∧
        admitted [frame.octets] = admitted outcome.toList := by
  generalize isResult : (len, loaded) = result at explained
  cases explained with
  | nothing =>
      obtain ⟨rfl, rfl⟩ := Prod.mk.inj isResult
      exact ⟨none, ⟨[], Nat.zero_le _⟩, rfl, rfl, (store_nil _ _).symm, rfl⟩
  | @frame _ _ _ frame =>
      unfold delivered at isResult
      by_cases fits : frame.length ≤ (600 : UInt16).toNat
      · rw [if_pos fits] at isResult
        obtain ⟨rfl, rfl⟩ := Prod.mk.inj isResult
        exact ⟨some frame, ⟨frame, fits⟩, rfl, rfl, rfl, rfl⟩
      · rw [if_neg fits] at isResult
        obtain ⟨rfl, rfl⟩ := Prod.mk.inj isResult
        have dropped : admitted [frame] = [] :=
          List.filter_cons_of_neg fun kept => fits (of_decide_eq_true kept).2
        exact ⟨some frame, ⟨[], Nat.zero_le _⟩, rfl, rfl, (store_nil _ _).symm, dropped.symm⟩

variable [DecidableEq ι]

theorem Step.refines (implements : Implements holds call DriverCall.Explains)
    {board last : Board ι δ} {event : BoardEvent ι} (step : Step call board event last)
    {link : Link (List UInt8)} (attached : holds board.driver link) :
    ∃ calls actions after, Refined holds board link [event] calls actions last after := by
  cases step with
  | receivePacket reads received sent sends =>
      obtain ⟨action, between, explained, linkStep, stillAttached⟩ :=
        implements _ _ _ _ attached reads
      obtain ⟨outcome, frame, rfl, rfl, rfl, same⟩ := frame_of_explains explained
      obtain ⟨after, run, attachedLast⟩ := sends.run implements stillAttached
      rw [← EtherSia.receivePacket_eq_receiveLoaded] at received
      refine ⟨[.receivePacket frame], _, after, ?_, ?_, .next linkStep run, attachedLast, ?_, ?_,
        ?_⟩
      · exact .cons (.receivePacket frame) .nil
      · exact Trace.run_cons_of_step (Option.map_eq_some_iff.mpr ⟨_, received, rfl⟩) []
      · rw [framesGiven, framesGiven, FrameLink.received, received_map_send, List.append_nil,
          List.append_nil]
        exact same
      · rw [requests, requests_map_send]
        rfl
      · rw [transmitted, transmitted_map_send]
        exact sent
  | @other event _ _ _ isOther steps sent sends =>
      obtain ⟨after, run, attachedLast⟩ := sends.run implements attached
      refine ⟨[event], _, after, ?_, ?_, run, attachedLast, ?_, ?_, ?_⟩
      · exact .cons (.other event isOther) .nil
      · exact Trace.run_cons_of_step steps []
      · rw [received_map_send]
        cases event with
        | receivePacket frame => exact absurd rfl (isOther frame)
        | _ => rfl
      · rw [requests_map_send]
        rfl
      · rw [transmitted_map_send]
        exact sent

/-- A board does what its station does that is given the frames of the link. -/
theorem run_corresponds (implements : Implements holds call DriverCall.Explains)
    {board last : Board ι δ} {events : List (BoardEvent ι)}
    (run : Run (Step call) board events last) {link : Link (List UInt8)}
    (attached : holds board.driver link) :
    ∃ calls actions after, Refined holds board link events calls actions last after := by
  induction run generalizing link with
  | done board =>
      exact ⟨[], [], link, .nil, rfl, .done link, attached, rfl, rfl, (List.append_nil _).symm⟩
  | next step _ ih =>
      obtain ⟨calls, actions, between, first⟩ := step.refines implements attached
      obtain ⟨more, further, after, rest⟩ := ih first.attached
      exact ⟨_, _, after, first.trans rest⟩

end Runs

end Board

end EtherSiaStack
