import Tedious.IncomingMessageStream

/-!
# Tedious.MessageFraming

Both directions together: what `OutgoingMessageStream` pushes for a sequence of
messages, cut into chunks in any way, makes `IncomingMessageStream` push the same
sequence of messages.
-/

namespace Tedious

open Chunked

/-- A message as its receiver sees it. -/
def Message.received (message : Message) : Received := ⟨message.type, message.data⟩

/-- The packets of a sequence of messages. -/
def packetsOf (size : PacketSize) (messages : List Message) : List Packet :=
  messages.flatMap (OutgoingMessageStream.write size)

theorem Framed.wellFormed {type : UInt8} {ps : List Packet} {data : Bytes}
    (h : Framed type ps data) : ∀ p ∈ ps, p.WellFormed := by
  induction h with
  | last hp _ _ =>
    intro p hmem
    obtain rfl := List.mem_singleton.1 hmem
    exact hp
  | more hp _ _ _ ih =>
    intro p hmem
    rcases List.mem_cons.1 hmem with rfl | hmem
    · exact hp
    · exact ih p hmem

/-- The packets of messages that are never ignored amount to these messages. -/
theorem absorb_packetsOf (size : PacketSize) {messages : List Message}
    (hnever : ∀ message ∈ messages, .ignore ∉ message.events) (ended : List Received) :
    (packetsOf size messages).foldl IncomingMessageStream.absorb (ended, none) =
      (ended ++ messages.map Message.received, none) := by
  induction messages generalizing ended with
  | nil => simp [packetsOf]
  | cons message messages ih =>
    have hframed := OutgoingMessageStream.write_framed size (hnever message (List.mem_cons_self ..))
    have hone := IncomingMessageStream.absorb_framed hframed ended none (by simp)
    rw [packetsOf, List.flatMap_cons, List.foldl_append, hone]
    have hrest := ih (fun m hm => hnever m (List.mem_cons_of_mem _ hm))
      (ended ++ [message.received])
    rw [packetsOf] at hrest
    simpa [Message.received] using hrest

/-- **The framing round trip.** However the bytes are cut and at whatever pace the
consumer reads, the receiving stream makes no more than a bounded number of steps and
does not fail; and where nothing can happen any more it has pushed the messages that
were sent, all of them ended, and has called the callback of every `_transform` once. -/
theorem framing_roundtrip (size : PacketSize) {messages : List Message}
    (hnever : ∀ message ∈ messages, .ignore ∉ message.events) {chunks : List Bytes}
    (hchunks : chunks.flatten = OutgoingMessageStream.writeAll size messages)
    {es : List IncomingEvent} {s : IncomingMessageStream}
    (hrun : IncomingMessageStream.machine.Runs (.start chunks) es s) :
    es.length ≤ (IncomingMessageStream.start chunks).remaining ∧ s.control ≠ .failed ∧
      (IncomingMessageStream.machine.Final s →
        s.pushed = messages.map Message.received ∧ s.currentMessage = none ∧
          s.transforms = chunks.length ∧ s.callbacks = List.range chunks.length) := by
  have hwf : ∀ p ∈ packetsOf size messages, p.WellFormed := by
    intro p hp
    obtain ⟨message, hmem, hp⟩ := List.mem_flatMap.1 hp
    exact (OutgoingMessageStream.write_framed size (hnever message hmem)).wellFormed p hp
  have hbytes : chunks.flatten = (packetsOf size messages).flatMap Packet.buffer := by
    rw [hchunks, OutgoingMessageStream.writeAll, packetsOf, List.flatMap_assoc]
  obtain ⟨hreceiving, hle⟩ := IncomingMessageStream.runs_receiving hwf hbytes hrun
  refine ⟨hle, hreceiving.notFailed, fun hfinal => ?_⟩
  obtain ⟨hidle, hnone, -, htarget⟩ := hreceiving.of_final hfinal
  rw [absorb_packetsOf size hnever, List.nil_append, IncomingMessageStream.assembled, hidle,
    Prod.mk.injEq] at htarget
  have hcalls := hreceiving.callbacks
  have htransforms := hreceiving.chunks
  rw [IncomingMessageStream.heldCallback, hidle, List.append_nil] at hcalls
  rw [hnone, List.length_nil, Nat.add_zero] at htransforms
  refine ⟨?_, htarget.2, htransforms, by rw [hcalls, htransforms]⟩
  rw [IncomingMessageStream.pushed, htarget.1, htarget.2]
  simp

/-- A message in two pieces and an empty one, in the smallest packets there are. -/
theorem framing_roundtrip_small :
    let messages : List Message :=
      [{ type := 1, resetConnection := true, events := [.data [10, 20], .data [30]] },
        { type := 3, resetConnection := false, events := [] }]
    let bytes := OutgoingMessageStream.writeAll ⟨9, by decide, by decide⟩ messages
    ∀ es s, IncomingMessageStream.machine.Runs (.start [bytes.take 11, [], bytes.drop 11]) es s →
      es.length ≤ (IncomingMessageStream.start [bytes.take 11, [], bytes.drop 11]).remaining ∧
        s.control ≠ .failed ∧
        (IncomingMessageStream.machine.Final s →
          s.pushed = [⟨1, [10, 20, 30]⟩, ⟨3, []⟩] ∧ s.currentMessage = none ∧
            s.transforms = 3 ∧ s.callbacks = [0, 1, 2]) := by
  intro messages bytes es s hrun
  have hnever : ∀ message ∈ messages, .ignore ∉ message.events := by decide
  exact framing_roundtrip ⟨9, by decide, by decide⟩ hnever (by simp [bytes]) hrun

end Tedious
