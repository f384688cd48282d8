import UsbPd.Link.Wire
import UsbPd.Machine.Channel
import UsbPd.Machine.Observer
import UsbPd.Sink.PsRdy

/-!
# Two ports on a cable

A source and a sink exchange messages over two channels, one in each direction,
which keep the order but may lose messages. The events of either port come in any
order; an iteration finds the next message of its channel or none.
-/

namespace UsbPd

open Machine (Packet packets InTransit)

namespace Event

/-- The event with the message that an iteration finds. -/
def finding (message : Option PdMsg) : Event → Event
  | .iterate inp => .iterate { inp with message := message }
  | e => e

/-- The packet that an iteration takes out of the channel. -/
def takes (e : Event) (deliver : Bool) (chan : List (Packet PdMsg)) : Option (Packet PdMsg) :=
  if deliver && e.iterates then chan.head? else none

/-- The event as the port sees it. -/
def heard (e : Event) (deliver : Bool) (chan : List (Packet PdMsg)) : Event :=
  e.finding ((e.takes deliver chan).map Packet.content)

variable {e : Event} {deliver : Bool} {chan : List (Packet PdMsg)}

theorem eq_of_takes {k : Packet PdMsg} (h : e.takes deliver chan = some k) :
    chan = k :: chan.tail := by
  unfold takes at h
  split_ifs at h
  exact List.eq_cons_of_mem_head? h

/-- What a port receives comes out of the channel. -/
theorem takes_of_received {r : Input × PdMsg} (h : (e.heard deliver chan).received = some r) :
    ∃ k, e.takes deliver chan = some k ∧ r.2 = k.content := by
  unfold heard at h
  cases hk : e.takes deliver chan with
  | none =>
      rw [hk] at h
      cases e <;> cases h
  | some k =>
      rw [hk] at h
      refine ⟨k, rfl, ?_⟩
      cases e with
      | iterate inp => cases h; rfl
      | _ => cases h

theorem received_of_takes {k : Packet PdMsg} (h : e.takes deliver chan = some k) :
    ∃ r, (e.heard deliver chan).received = some r ∧ r.2 = k.content := by
  unfold heard
  rw [h]
  cases e with
  | iterate inp => exact ⟨_, rfl, rfl⟩
  | _ => simp [takes, iterates] at h

end Event

/-- The turn of one port: its state afterwards, what is left of the channel to it, and
what it sends. -/
structure Turn where
  port : Port
  inbox : List (Packet PdMsg)
  sent : List (Packet PdMsg)

/-- A port takes an event, with the next message of its channel if `deliver` says so. -/
def Port.turn (b : Board) (p : Port) (e : Event) (deliver : Bool) (inbox : List (Packet PdMsg)) :
    Turn where
  port := p.step b (e.heard deliver inbox)
  inbox := if (e.takes deliver inbox).isSome then inbox.tail else inbox
  sent := packets (sentMsgs p.log).length (newMsgs p (p.step b (e.heard deliver inbox)))

structure Pair where
  source : Port
  sink : Port
  toSource : List (Packet PdMsg)
  toSink : List (Packet PdMsg)

inductive PairEvent where
  | source (e : Event) (deliver : Bool)
  | sink (e : Event) (deliver : Bool)
  /-- the channel to the source loses a message -/
  | loseToSource (k : Nat)
  | loseToSink (k : Nat)

namespace Pair

/-- Both ports as `setup` leaves them. -/
def start : Pair where
  source := .setup
  sink := .setup
  toSource := []
  toSink := []

/-- One event of the pair; `src` and `snk` are the boards of the source and the sink. -/
def step (src snk : Board) (s : Pair) : PairEvent → Pair
  | .source e deliver =>
    let t := s.source.turn src e deliver s.toSource
    { s with source := t.port, toSource := t.inbox, toSink := s.toSink ++ t.sent }
  | .sink e deliver =>
    let t := s.sink.turn snk e deliver s.toSink
    { s with sink := t.port, toSink := t.inbox, toSource := s.toSource ++ t.sent }
  | .loseToSource k => { s with toSource := s.toSource.eraseIdx k }
  | .loseToSink k => { s with toSink := s.toSink.eraseIdx k }

end Pair

namespace Port

variable {b : Board} {p : Port} {e : Event} {deliver : Bool} {inbox outbox : List (Packet PdMsg)}
  {low : Nat}

/-- The messages sent after a turn. -/
theorem sentMsgs_turn (b : Board) (p : Port) (e : Event) (deliver : Bool)
    (inbox : List (Packet PdMsg)) : sentMsgs (p.turn b e deliver inbox).port.log =
      sentMsgs p.log ++ newMsgs p (p.turn b e deliver inbox).port :=
  sentMsgs_newMsgs (p.suffix_step b _)

theorem sublist_inbox (b : Board) (p : Port) (e : Event) (deliver : Bool)
    (inbox : List (Packet PdMsg)) : (p.turn b e deliver inbox).inbox.Sublist inbox := by
  unfold turn
  split
  · exact List.tail_sublist inbox
  · exact List.Sublist.refl inbox

/-- The channel that the port sends to. -/
theorem inTransit_outbox (h : InTransit (sentMsgs p.log) low outbox)
    (hlow : low ≤ (sentMsgs p.log).length) (b : Board) (e : Event) (deliver : Bool)
    (inbox : List (Packet PdMsg)) : InTransit (sentMsgs (p.turn b e deliver inbox).port.log) low
      (outbox ++ (p.turn b e deliver inbox).sent) := by
  rw [sentMsgs_turn]
  exact h.send hlow _

/-- The channel that the port reads, after a packet is taken. -/
theorem inTransit_inbox {sent : List PdMsg} (h : InTransit sent low inbox) {k : Packet PdMsg}
    (hk : e.takes deliver inbox = some k) (b : Board) (p : Port) :
    low ≤ k.serial ∧ sent[k.serial]? = some k.content ∧
      InTransit sent (k.serial + 1) (p.turn b e deliver inbox).inbox := by
  have hinbox := Event.eq_of_takes hk
  have hrest : (p.turn b e deliver inbox).inbox = inbox.tail := by
    unfold turn
    rw [hk]
    rfl
  rw [hrest]
  rw [hinbox] at h
  exact ⟨h.fresh k (List.mem_cons_self ..), h.carries k (List.mem_cons_self ..), h.deliver⟩

theorem inbox_of_takes_none (hk : e.takes deliver inbox = none) (b : Board) (p : Port) :
    (p.turn b e deliver inbox).inbox = inbox := by
  unfold turn
  rw [hk]
  rfl

end Port

end UsbPd
