/-
The ENC28J60 driver as a link.

However the controller's own events fall between the accesses of the driver, what the calls
return and what is sent is what a link would give: the packets are taken in the order they
came in, each once, and whole or not at all.
-/

import EtherSiaStack.PacketReception

namespace EtherSiaStack

open ByteMemory Interference FrameLink

namespace ENC28J60

open Controller (Event)

variable {χ : Type} {bus : SpiBus χ} {view : χ → Port}

/-- The packets behind the driver are those of the link, and so is what has been sent. -/
structure Attached (view : χ → Port) (enc : ENC28J60 χ) (link : Link (List UInt8)) : Prop where
  arrived : (view enc.chip).controller.arrived = link.arrived
  between : ∃ first econ1, Chooses econ1 ∧
    Between first link.taken.length link.taken link.pending 0 econ1 (link.sent.map packetOf)
      (fun _ => True) (view enc.chip).controller

/-- A call returns; one that sends has room for its frame behind the ring. -/
inductive Calls (bus : SpiBus χ) : ENC28J60 χ → DriverCall → ENC28J60 χ → Prop
  | readFrame {enc : ENC28J60 χ} {memory : Memory} {buffer : Nat} {bufsize : UInt16} :
      Calls bus enc (.readFrame memory buffer bufsize
        ((readFrame bus buffer bufsize memory).run enc).1)
        ((readFrame bus buffer bufsize memory).run enc).2
  | sendFrame {enc next : ENC28J60 χ} {memory : Memory} {data fuel : Nat}
      {datalen result : UInt16} (room : datalen.toNat ≤ 3576)
      (returns : sendFrame bus fuel memory data datalen enc = some (result, next)) :
      Calls bus enc (.sendFrame memory data datalen result) next

/-- What is known of the ring is completed to what is in it. -/
theorem Between.attached {enc : ENC28J60 χ} {first : Nat}
    {taken known sent : List (List UInt8)} {econ1 : UInt8} {side : SendSide → Prop}
    (chooses : Chooses econ1)
    (between : Between first taken.length taken known 0 econ1 (sent.map packetOf) side
      (view enc.chip).controller) :
    ∃ rest, Attached view enc ⟨taken, known ++ rest, sent⟩ := by
  obtain ⟨⟨rest, receiving⟩, control, transmitted, -⟩ := between
  refine ⟨rest, receiving.arrived, first, econ1, chooses, ⟨[], ?_⟩, control, transmitted, trivial⟩
  rw [List.append_nil]
  exact receiving

/-- Every call is an action of the link. -/
theorem implements (follows : Follows bus view) :
    Implements (Attached view) (Calls bus) DriverCall.Explains := by
  rintro enc link label next ⟨-, first, econ1, chooses, between⟩ called
  have holds : Holds view enc.localMac enc.bank _ enc := ⟨rfl, rfl, between⟩
  cases called with
  | @readFrame memory buffer bufsize =>
      rcases readFrame_triple follows chooses buffer bufsize memory enc holds with
        ⟨empty, result, left⟩ | ⟨packet, others, ⟨more, isPrefix⟩, result, left⟩
      · obtain ⟨rest, attached⟩ := left.chip.attached (.inr (.inl rfl))
        refine ⟨_, _, ?_, .nothing empty, attached⟩
        rw [result]
        exact .nothing
      · have length : link.taken.length + 1 = (link.taken ++ [packet]).length := by
          rw [List.length_append]
          rfl
        rw [length] at left
        obtain ⟨rest, attached⟩ := left.chip.attached (.inl rfl)
        have waiting : link.pending ++ (more ++ rest) = packet :: (others ++ rest) := by
          rw [← List.append_assoc, isPrefix, List.cons_append]
        refine ⟨_, _, ?_, .frame waiting, attached⟩
        rw [result]
        exact .frame
  | @sendFrame _ memory data fuel datalen result room returns =>
      obtain ⟨length, sent⟩ := sendFrame_sends follows chooses room holds returns
      have log : link.sent.map packetOf ++ [packetOf (bytesAt memory data datalen.toNat)] =
          (link.sent ++ [bytesAt memory data datalen.toNat]).map packetOf := by
        rw [List.map_append]
        rfl
      have left := sent.chip
      rw [log] at left
      obtain ⟨rest, attached⟩ := left.attached (.inl rfl)
      change result = datalen at length
      subst length
      exact ⟨_, _, .sent, .send, attached⟩

end ENC28J60

end EtherSiaStack
