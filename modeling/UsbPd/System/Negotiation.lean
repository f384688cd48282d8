import UsbPd.Link.Exchange
import UsbPd.System.Pair

/-!
# Two ports come to a contract

A source that has sent its capabilities and a sink that listens, on channels that lose nothing,
come to a contract about the capability that the sink has selected, in whatever order their
iterations and interrupts come, as long as neither port falls behind by more than a gap.
-/

namespace UsbPd

open Machine (Packet Shows packets)

/-- The power of an entry of the table. -/
def Board.power (b : Board) (i : Nat) : Nat × Nat := pdExtractPdoPower (b.srcPdo.getD i 0)

/-- The ends of the last iterations of the two ports. -/
structure PairClock where
  source : Nat
  sink : Nat

namespace PairEvent

def ends : PairEvent → Option Nat
  | .source e _ => e.ends
  | .sink e _ => e.ends
  | _ => none

/-- The port is run as it should be: it hears the next message if there is one, and an iteration
takes `gap` at most from its switch to its end. -/
inductive Runs (polarity : Bool) (gap : Nat) : PairEvent → Prop
  | source {inp : Input} (hreset : inp.reset = false) (hplugged : inp.plugged polarity)
      (htime : inp.time .switch ≤ inp.time .tail)
      (hshort : inp.time .tail ≤ inp.time .switch + gap) :
      Runs polarity gap (.source (.iterate inp) true)
  | sink {inp : Input} (hreset : inp.reset = false)
      (htime : inp.time .switch ≤ inp.time .tail)
      (hshort : inp.time .tail ≤ inp.time .switch + gap) :
      Runs polarity gap (.sink (.iterate inp) true)
  | sourceAlert {irq : Interrupts} (h : irq.fine) (now : Nat) (deliver : Bool) :
      Runs polarity gap (.source (.alert irq now) deliver)
  | sinkAlert {irq : Interrupts} (h : irq.fine) (now : Nat) (deliver : Bool) :
      Runs polarity gap (.sink (.alert irq now) deliver)

end PairEvent

namespace PairClock

def tick (c : PairClock) : PairEvent → PairClock
  | .source e _ => { c with source := e.ends.getD c.source }
  | .sink e _ => { c with sink := e.ends.getD c.sink }
  | _ => c

/-- No iteration ends before an earlier one, nor more than `gap` after the last one of either
port. -/
def Allows (gap : Nat) (c : PairClock) (e : PairEvent) : Prop :=
  ∀ t ∈ e.ends, (c.source ≤ t ∧ t ≤ c.source + gap) ∧ c.sink ≤ t ∧ t ≤ c.sink + gap

/-- One port that is early keeps the other one early, too, when it iterates. -/
theorem tick_lt {c : PairClock} {gap bound : Nat} {e : PairEvent} (h : c.Allows gap e)
    (hends : e.ends ≠ none) (hearly : c.source < bound ∨ c.sink < bound) :
    (c.tick e).source < bound + gap ∧ (c.tick e).sink < bound + gap := by
  obtain ⟨t, ht⟩ := Option.ne_none_iff_exists'.1 hends
  obtain ⟨⟨hsource, hafter⟩, hsink, hlater⟩ := h t ht
  cases e with
  | source e deliver =>
      change e.ends.getD c.source < bound + gap ∧ c.sink < bound + gap
      rw [show e.ends = some t from ht, Option.getD_some]
      omega
  | sink e deliver =>
      change c.source < bound + gap ∧ e.ends.getD c.sink < bound + gap
      rw [show e.ends = some t from ht, Option.getD_some]
      omega
  | loseToSource | loseToSink => cases ht

end PairClock

namespace Port

variable {b : Board} {p q : Port}

theorem newMsgs_of_sent {ms : List PdMsg} (h : q.sent = p.sent ++ ms) : newMsgs p q = ms := by
  unfold newMsgs
  rw [show sentMsgs q.log = sentMsgs p.log ++ ms from h, List.drop_left]

/-- The turn of a port whose channel is empty. -/
theorem turn_none (b : Board) (p : Port) (inp : Input) : p.turn b (.iterate inp) true [] =
    ⟨p.pdRunStateMachine b { inp with message := none }, [],
      packets p.sent.length (newMsgs p (p.pdRunStateMachine b { inp with message := none }))⟩ :=
  rfl

theorem turn_some (b : Board) (p : Port) (inp : Input) (k : Packet PdMsg)
    (inbox : List (Packet PdMsg)) : p.turn b (.iterate inp) true (k :: inbox) =
    ⟨p.pdRunStateMachine b { inp with message := some k.content }, inbox,
      packets p.sent.length
        (newMsgs p (p.pdRunStateMachine b { inp with message := some k.content }))⟩ :=
  rfl

theorem turn_alert (b : Board) (p : Port) (irq : Interrupts) (now : Nat) (deliver : Bool)
    (inbox : List (Packet PdMsg)) : p.turn b (.alert irq now) deliver inbox =
    ⟨p.tcpcAlert irq now, inbox, packets p.sent.length (newMsgs p (p.tcpcAlert irq now))⟩ := by
  unfold turn Event.takes Event.heard
  simp [Event.iterates, Event.finding, step]
  rfl

/-! The source before the Request. -/

variable {polarity : Bool} {gap start : Nat}

/-- The source waits for a Request, since `start` at the earliest. -/
structure Offering (polarity : Bool) (gap start : Nat) (p : Port) : Prop where
  supplies : p.Supplies polarity
  task : p.pd.taskState = .srcNegociate
  calm : p.Calm
  timer : (p.pd.lastState = .srcDiscovery ∧ p.pd.timeout = 0) ∨
    (p.pd.lastState = .srcNegociate ∧ start + pdTSenderResponse ≤ p.pd.timeout + gap)

namespace Offering

theorem last_ne (h : p.Offering polarity gap start) : p.pd.lastState ≠ .srcAccepted := by
  obtain ⟨hlast, -⟩ | ⟨hlast, -⟩ := h.timer
  · rw [hlast]
    decide
  · rw [hlast]
    decide

theorem alert_fine (h : p.Offering polarity gap start) {irq : Interrupts} (hfine : irq.fine)
    (now : Nat) : (p.tcpcAlert irq now).Offering polarity gap start := by
  obtain ⟨hdoes, hkept⟩ := h.supplies.alert_fine hfine now
  obtain ⟨htimeout, -⟩ := Prod.mk.inj (hdoes.keeps .timer (by decide))
  have hlast : (p.tcpcAlert irq now).pd.lastState = p.pd.lastState := hdoes.keeps .last (by decide)
  refine ⟨hkept, (hdoes.keeps .task (by decide)).trans h.task, (h.calm.alert_fine hfine now).1, ?_⟩
  rw [hlast, htimeout]
  exact h.timer

/-- While the Request is on its way the source waits. -/
theorem iterate_still (h : p.Offering polarity gap start) (hgap : 2 * gap < pdTSenderResponse)
    (b : Board) {inp : Input} (hstill : inp.still) (hplugged : inp.plugged polarity)
    (hshort : inp.time .tail ≤ inp.time .switch + gap) (hstart : start ≤ inp.time .tail)
    (hlate : inp.time .tail ≤ start + gap) :
    (p.pdRunStateMachine b inp).Offering polarity gap start ∧
      (p.pdRunStateMachine b inp).sent = p.sent := by
  obtain ⟨hcalm, hsilent⟩ := h.calm.iterate_still h.supplies.awake (by rw [h.task]; decide) b hstill
  refine ⟨?_, hsilent⟩
  have hbefore : p.beforeSwitch b inp = p := by
    rw [beforeSwitch_still b hstill h.supplies.awake, h.calm.beforeMessage hstill.1]
  have hresult : p.pdRunStateMachine b inp =
      (p.armOnEntry (inp.time .switch + pdTSenderResponse) .hardResetSend).finish .srcNegociate
        inp := by
    rw [pdRunStateMachine, hbefore, runState, h.task]
    rfl
  have harmed : (p.armOnEntry (inp.time .switch + pdTSenderResponse) .hardResetSend).Supplies
      polarity ∧ (p.armOnEntry (inp.time .switch + pdTSenderResponse)
        .hardResetSend).pd.taskState = .srcNegociate ∧
      start + pdTSenderResponse ≤ (p.armOnEntry (inp.time .switch + pdTSenderResponse)
        .hardResetSend).pd.timeout + gap := by
    have hsupplies := h.supplies
    unfold armOnEntry
    obtain ⟨hlast, -⟩ | ⟨hlast, htimer⟩ := h.timer
    · have hentering : p.entering = true := by
        unfold entering
        rw [hlast, h.task]
        decide
      rw [if_pos hentering]
      refine ⟨⟨hsupplies.role, hsupplies.awake, hsupplies.polarity, hsupplies.pullUp,
        hsupplies.vconn, hsupplies.tx⟩, h.task, ?_⟩
      change start + pdTSenderResponse ≤ inp.time .switch + pdTSenderResponse + gap
      omega
    · rw [if_neg (by simp [entering_eq_false (hlast.trans h.task.symm)])]
      exact ⟨hsupplies, h.task, htimer⟩
  obtain ⟨hsupplies, htask, htimer⟩ := harmed
  generalize p.armOnEntry (inp.time .switch + pdTSenderResponse) .hardResetSend = q at *
  obtain ⟨hends, hkept, htime⟩ :=
    hsupplies.tail_early .srcNegociate hplugged (.inr (by omega))
  obtain ⟨htimeout, -⟩ := Prod.mk.inj htime
  rw [hresult] at hcalm ⊢
  refine ⟨hends.supplies, hkept.trans htask, hcalm, .inr ⟨hends.last, ?_⟩⟩
  rwa [htimeout]

end Offering

/-- A listening sink goes on listening. -/
theorem Listens.alert_fine (h : p.Listens) {irq : Interrupts} (hfine : irq.fine) (now : Nat) :
    (p.tcpcAlert irq now).Listens ∧
      (p.tcpcAlert irq now).st.sourceCapCurrentIndex = p.st.sourceCapCurrentIndex := by
  obtain ⟨hdoes, htx⟩ := p.does_tcpcAlert_fine hfine now
  refine ⟨⟨?_, ?_, ?_, ?_, htx h.tx⟩, hdoes.keeps .index (by decide)⟩
  · exact (hdoes.keeps .role (by decide)).trans h.role
  · exact (hdoes.keeps .suspend (by decide)).trans h.awake
  · exact (hdoes.keeps .task (by decide)).trans h.task
  · exact fun heq => h.last ((hdoes.keeps .last (by decide)).symm.trans heq)

end Port

/-! One event of the pair, by what the port sends. -/

/-- An iteration as it hears `message`. -/
theorem Input.exists_heard (inp : Input) (message : Option PdMsg) :
    ∃ heard : Input, heard = { inp with message := message } ∧ heard.reset = inp.reset ∧
      heard.message = message ∧ heard.time = inp.time ∧
      ∀ polarity, inp.plugged polarity → heard.plugged polarity :=
  ⟨_, rfl, rfl, rfl, rfl, fun _ h => h⟩

namespace Pair

variable {src snk : Board} {s : Pair} {q : Port} {ms : List PdMsg} {inp heard : Input}
  {k : Packet PdMsg} {rest : List (Packet PdMsg)} {irq : Interrupts}

theorem step_source_none (hchan : s.toSource = [])
    (hheard : heard = { inp with message := none }) (hq : s.source.pdRunStateMachine src heard = q)
    (hsent : q.sent = s.source.sent ++ ms) : s.step src snk (.source (.iterate inp) true) =
      ⟨q, s.sink, [], s.toSink ++ packets s.source.sent.length ms⟩ := by
  unfold step
  simp only
  rw [hchan, Port.turn_none, ← hheard, hq, Port.newMsgs_of_sent hsent]

theorem step_source_some (hchan : s.toSource = k :: rest)
    (hheard : heard = { inp with message := some k.content })
    (hq : s.source.pdRunStateMachine src heard = q)
    (hsent : q.sent = s.source.sent ++ ms) : s.step src snk (.source (.iterate inp) true) =
      ⟨q, s.sink, rest, s.toSink ++ packets s.source.sent.length ms⟩ := by
  unfold step
  simp only
  rw [hchan, Port.turn_some, ← hheard, hq, Port.newMsgs_of_sent hsent]

theorem step_sink_none (hchan : s.toSink = [])
    (hheard : heard = { inp with message := none }) (hq : s.sink.pdRunStateMachine snk heard = q)
    (hsent : q.sent = s.sink.sent ++ ms) : s.step src snk (.sink (.iterate inp) true) =
      ⟨s.source, q, s.toSource ++ packets s.sink.sent.length ms, []⟩ := by
  unfold step
  simp only
  rw [hchan, Port.turn_none, ← hheard, hq, Port.newMsgs_of_sent hsent]

theorem step_sink_some (hchan : s.toSink = k :: rest)
    (hheard : heard = { inp with message := some k.content })
    (hq : s.sink.pdRunStateMachine snk heard = q)
    (hsent : q.sent = s.sink.sent ++ ms) : s.step src snk (.sink (.iterate inp) true) =
      ⟨s.source, q, s.toSource ++ packets s.sink.sent.length ms, rest⟩ := by
  unfold step
  simp only
  rw [hchan, Port.turn_some, ← hheard, hq, Port.newMsgs_of_sent hsent]

/-- An interrupt in a calm port is silent. -/
theorem step_source_alert (hcalm : s.source.Calm) (hfine : irq.fine) (now : Nat)
    (deliver : Bool) : s.step src snk (.source (.alert irq now) deliver) =
      { s with source := s.source.tcpcAlert irq now } := by
  have hsent := (hcalm.alert_fine hfine now).2
  unfold step
  simp only
  rw [Port.turn_alert, Port.newMsgs_of_sent (hsent.trans (List.append_nil _).symm), packets,
    List.append_nil]

theorem step_sink_alert (hcalm : s.sink.Calm) (hfine : irq.fine) (now : Nat) (deliver : Bool) :
    s.step src snk (.sink (.alert irq now) deliver) =
      { s with sink := s.sink.tcpcAlert irq now } := by
  have hsent := (hcalm.alert_fine hfine now).2
  unfold step
  simp only
  rw [Port.turn_alert, Port.newMsgs_of_sent (hsent.trans (List.append_nil _).symm), packets,
    List.append_nil]

end Pair

/-! The phases of the pair. -/

namespace Pair

section

variable (src : Board) (polarity : Bool) (i gap start : Nat) (old : List Call) (c : PairClock)
  (s : Pair)

/-- The capabilities are on their way. -/
structure Offers : Prop where
  source : s.source.Offering polarity gap start
  sink : s.sink.Listens
  calm : s.sink.Calm
  index : s.sink.st.sourceCapCurrentIndex = i
  toSource : s.toSource = []
  toSink : ∃ k, s.toSink = [k] ∧ k.content.isData .sourceCap = true ∧
    k.content.payload = src.srcPdo
  log : old <:+ s.source.log
  clock : start ≤ c.source ∧ c.sink ≤ start

/-- The Request is on its way. -/
structure Asks : Prop where
  source : s.source.Offering polarity gap start
  sink : ∃ deadline, s.sink.Expects .snkRequested deadline (src.power i) ∧
    c.source + pdTSenderResponse ≤ deadline + gap
  calm : s.sink.Calm
  toSource : ∃ k, s.toSource = [k] ∧ k.content.isData .request = true ∧
    k.content.acceptable src = true ∧ rdoPos (firstObject k.content.payload) = i + 1
  toSink : s.toSink = []
  log : old <:+ s.source.log
  clock : c.source ≤ start + gap

/-- The source after the Accept at the time `accepted`; `rest` is what it has sent since then. -/
inductive SourceCloses (accepted : Nat) (rest : List (Packet PdMsg)) : Prop
  | serves (hsupplies : s.source.Supplies polarity)
      (hserves : s.source.Serves (i + 1) accepted gap old c.source) (hcalm : s.source.Calm)
      (hchan : s.toSource = []) (hrest : rest = [])
  | served {k : Packet PdMsg}
      (hlog : Shows old s.source.log [Call.sendsPsRdy, Call.changesTo (i + 1), Call.sendsAccept])
      (hrest : ∃ later, rest = k :: later) (hready : k.content.isCtrl .psRdy = true)
      (hclock : c.sink < start + pdTSinkTransition + pdPowerSupplyTurnOnDelay + 6 * gap)

/-- The sink waits for Accept or for PS_RDY. -/
inductive SinkCloses (accepted : Nat) (rest : List (Packet PdMsg)) : Prop
  | accept {k : Packet PdMsg} {deadline : Nat}
      (h : s.sink.Expects .snkRequested deadline (src.power i)) (hchan : s.toSink = k :: rest)
      (haccept : k.content.isCtrl .accept = true) (hclock : c.sink ≤ start + 2 * gap)
  | psRdy {deadline : Nat} (h : s.sink.Expects .snkTransition deadline (src.power i))
      (hchan : s.toSink = rest) (hdeadline : accepted + pdTPsTransition ≤ deadline + gap)

/-- The Request is accepted. -/
structure Closes (accepted : Nat) (rest : List (Packet PdMsg)) : Prop where
  source : s.SourceCloses polarity i gap start old c accepted rest
  sink : s.SinkCloses src i gap start c accepted rest
  calm : s.sink.Calm
  clock : accepted ≤ c.source ∧ accepted ≤ start + 2 * gap

/-- The two ports on the way to their contract. -/
inductive Negotiates : Prop
  | offers (h : s.Offers src polarity i gap start old c)
  | asks (h : s.Asks src polarity i gap start old c)
  | closes {accepted : Nat} {rest : List (Packet PdMsg)}
      (h : s.Closes src polarity i gap start old c accepted rest)

/-- The source has served the Request for the position, and the sink draws the power of this
entry of the table. -/
structure Settled : Prop where
  source : Shows old s.source.log [Call.sendsPsRdy, Call.changesTo (i + 1), Call.sendsAccept]
  sink : s.sink.Agreed (src.power i)

end

variable {src snk : Board} {polarity : Bool} {i gap start : Nat} {old : List Call} {c : PairClock}
  {s : Pair}

/-! The capabilities. -/

namespace Offers

/-- The source waits. -/
theorem source_iterate (h : s.Offers src polarity i gap start old c)
    (hgap : 2 * gap < pdTSenderResponse) {inp : Input} (hreset : inp.reset = false)
    (hplugged : inp.plugged polarity) (hshort : inp.time .tail ≤ inp.time .switch + gap)
    (hallowed : c.Allows gap (.source (.iterate inp) true)) :
    (s.step src snk (.source (.iterate inp) true)).Offers src polarity i gap start old
      (c.tick (.source (.iterate inp) true)) := by
  obtain ⟨⟨hafter, -⟩, -, hlate⟩ := hallowed _ rfl
  obtain ⟨hstart, hsink⟩ := h.clock
  obtain ⟨heard, hheard, hnoReset, hnone, htime, hplug⟩ := inp.exists_heard none
  have hearly : start ≤ inp.time .tail := by omega
  rw [← htime] at hshort hearly hlate
  obtain ⟨hoffering, hsilent⟩ := h.source.iterate_still hgap src ⟨hnoReset.trans hreset, hnone⟩
    (hplug _ hplugged) hshort hearly (by omega)
  have hlog : s.source.log <:+ (s.source.pdRunStateMachine src heard).log :=
    s.source.suffix_step src (.iterate heard)
  rw [step_source_none h.toSource hheard rfl (hsilent.trans (List.append_nil _).symm)]
  refine ⟨hoffering, h.sink, h.calm, h.index, rfl, ?_, h.log.trans hlog, ?_, hsink⟩
  · rw [packets, List.append_nil]
    exact h.toSink
  · change start ≤ inp.time .tail
    omega

/-- The sink asks for the selected capability. -/
theorem sink_iterate (h : s.Offers src polarity i gap start old c)
    (hgap : 2 * gap < pdTSenderResponse) (hlinked : Linked s.sink)
    (hi : i < src.srcPdo.length) (htype : pdoType (src.srcPdo.getD i 0) ≠ .battery) {inp : Input}
    (hreset : inp.reset = false) (hshort : inp.time .tail ≤ inp.time .switch + gap)
    (hallowed : c.Allows gap (.sink (.iterate inp) true)) :
    (s.step src snk (.sink (.iterate inp) true)).Asks src polarity i gap start old
      (c.tick (.sink (.iterate inp) true)) := by
  obtain ⟨⟨hafter, hsoon⟩, -, hlate⟩ := hallowed _ rfl
  obtain ⟨hstart, hsink⟩ := h.clock
  obtain ⟨k, hchan, hcaps, htable⟩ := h.toSink
  obtain ⟨heard, hheard, hnoReset, hmessage, htime, -⟩ := inp.exists_heard (some k.content)
  have hprompt : inp.time .tail < inp.time .switch + pdTSenderResponse := by omega
  rw [← htime] at hprompt
  rw [hreset] at hnoReset
  have hselected : s.sink.selected src.srcPdo = src.srcPdo.getD i 0 := by
    unfold Port.selected
    rw [h.index, List.getD_eq_getElem?_getD, List.getElem?_append_left hi,
      ← List.getD_eq_getElem?_getD]
  have hseven : i < 7 := by
    have hlength := k.content.length_payload_le
    rw [htable] at hlength
    omega
  have hpower : s.sink.capsPower k.content.payload = src.power i := by
    rw [htable]
    exact congrArg pdExtractPdoPower hselected
  have hexpects : (s.sink.pdRunStateMachine snk heard).Expects .snkRequested
      (heard.time .switch + pdTSenderResponse) (s.sink.capsPower k.content.payload) :=
    h.sink.sourceCap hnoReset hmessage hcaps hprompt
  obtain ⟨hcalm, hsent⟩ := h.sink.sent_sourceCap h.calm snk hnoReset hmessage hcaps
  rw [hpower, htime] at hexpects
  rw [h.index, htable, hselected] at hsent
  rw [step_sink_some hchan hheard rfl hsent, h.toSource]
  obtain ⟨hrequest, hpayload⟩ :=
    isData_wire hlinked.msgId_lt .request (requestObject i (src.srcPdo.getD i 0)).rdo
  refine ⟨h.source, ⟨_, hexpects, ?_⟩, hcalm, ⟨_, rfl, hrequest, ?_, ?_⟩, rfl, h.log, ?_⟩
  · change c.source + pdTSenderResponse ≤ inp.time .switch + pdTSenderResponse + gap
    omega
  · refine decide_eq_true ⟨?_, ?_⟩
    · exact congrArg List.length hpayload
    · change pdCheckRequestedVoltage src (firstObject (s.sink.requestFor i _).payload) = .success
      unfold Port.requestFor
      rw [hpayload]
      exact pdCheckRequestedVoltage_requestObject hi hseven htype
  · change rdoPos (firstObject (s.sink.requestFor i _).payload) = i + 1
    unfold Port.requestFor
    rw [hpayload]
    exact rdoPos_requestObject hseven _
  · change c.source ≤ start + gap
    omega

theorem source_alert (h : s.Offers src polarity i gap start old c) {irq : Interrupts}
    (hfine : irq.fine) (now : Nat) (deliver : Bool) :
    (s.step src snk (.source (.alert irq now) deliver)).Offers src polarity i gap start old c := by
  have hlog : s.source.log <:+ (s.source.tcpcAlert irq now).log :=
    s.source.suffix_step src (.alert irq now)
  rw [step_source_alert h.source.calm hfine]
  exact ⟨h.source.alert_fine hfine now, h.sink, h.calm, h.index, h.toSource, h.toSink,
    h.log.trans hlog, h.clock⟩

theorem sink_alert (h : s.Offers src polarity i gap start old c) {irq : Interrupts}
    (hfine : irq.fine) (now : Nat) (deliver : Bool) :
    (s.step src snk (.sink (.alert irq now) deliver)).Offers src polarity i gap start old c := by
  obtain ⟨hlistens, hindex⟩ := h.sink.alert_fine hfine now
  rw [step_sink_alert h.calm hfine]
  exact ⟨h.source, hlistens, (h.calm.alert_fine hfine now).1, hindex.trans h.index, h.toSource,
    h.toSink, h.log, h.clock⟩

end Offers

/-! The Request. -/

namespace Asks

/-- The sink waits. -/
theorem sink_iterate (h : s.Asks src polarity i gap start old c)
    (hgap : 2 * gap < pdTSenderResponse) {inp : Input} (hreset : inp.reset = false)
    (hallowed : c.Allows gap (.sink (.iterate inp) true)) :
    (s.step src snk (.sink (.iterate inp) true)).Asks src polarity i gap start old
      (c.tick (.sink (.iterate inp) true)) := by
  obtain ⟨⟨-, hsoon⟩, -⟩ := hallowed _ rfl
  obtain ⟨deadline, hexpects, hdeadline⟩ := h.sink
  obtain ⟨heard, hheard, hnoReset, hnone, htime, -⟩ := inp.exists_heard none
  have hearly : heard.time .tail < deadline := by
    rw [htime]
    omega
  have hstill : heard.still := ⟨hnoReset.trans hreset, hnone⟩
  obtain ⟨hcalm, hsilent⟩ :=
    h.calm.iterate_still hexpects.awake (by rw [hexpects.task]; decide) snk hstill
  have hkept : (s.sink.step snk (.iterate heard)).Expects .snkRequested deadline (src.power i) :=
    hexpects.still (.inl rfl) (.iterate hstill hearly)
  rw [step_sink_none h.toSink hheard rfl (hsilent.trans (List.append_nil _).symm)]
  refine ⟨h.source, ⟨deadline, hkept, hdeadline⟩, hcalm, ?_, rfl, h.log, h.clock⟩
  rw [packets, List.append_nil]
  exact h.toSource

/-- The source accepts. -/
theorem source_iterate (h : s.Asks src polarity i gap start old c) (hlinked : Linked s.source)
    {inp : Input} (hreset : inp.reset = false) (hplugged : inp.plugged polarity)
    (hswitch : inp.time .switch ≤ inp.time .tail)
    (hshort : inp.time .tail ≤ inp.time .switch + gap)
    (hallowed : c.Allows gap (.source (.iterate inp) true)) :
    (s.step src snk (.source (.iterate inp) true)).Closes src polarity i gap start old
      (c.tick (.source (.iterate inp) true)) (inp.time .switch) [] := by
  obtain ⟨⟨-, hsoon⟩, hafter, -⟩ := hallowed _ rfl
  obtain ⟨k, hchan, hrequest, hacceptable, hposition⟩ := h.toSource
  obtain ⟨heard, hheard, hnoReset, hmessage, htime, hplug⟩ := inp.exists_heard (some k.content)
  obtain ⟨deadline, hexpects, -⟩ := h.sink
  have hclock := h.clock
  have hsettle : 0 < pdTSinkTransition := by decide
  have hprompt : heard.time .tail < heard.time .switch + pdTSinkTransition + gap := by
    rw [htime]
    omega
  rw [hreset] at hnoReset
  have hserves := h.source.supplies.serves_request h.source.task h.source.last_ne hnoReset hmessage
    hrequest hacceptable (hplug _ hplugged) hprompt h.log
  obtain ⟨hcalm, hsent⟩ := h.source.supplies.sent_request h.source.calm h.source.task hnoReset
    hmessage hrequest hacceptable
  obtain ⟨hsupplies, hserving⟩ := hserves
  rw [hposition, htime] at hserving
  rw [step_source_some hchan hheard rfl hsent, h.toSink]
  refine ⟨.serves hsupplies hserving hcalm rfl rfl, ?_, h.calm, ?_, ?_⟩
  · refine .accept hexpects rfl (isCtrl_wire hlinked.msgId_lt .accept) ?_
    change c.sink ≤ start + 2 * gap
    omega
  · exact hswitch
  · omega

theorem source_alert (h : s.Asks src polarity i gap start old c) {irq : Interrupts}
    (hfine : irq.fine) (now : Nat) (deliver : Bool) :
    (s.step src snk (.source (.alert irq now) deliver)).Asks src polarity i gap start old c := by
  have hlog : s.source.log <:+ (s.source.tcpcAlert irq now).log :=
    s.source.suffix_step src (.alert irq now)
  rw [step_source_alert h.source.calm hfine]
  exact ⟨h.source.alert_fine hfine now, h.sink, h.calm, h.toSource, h.toSink, h.log.trans hlog,
    h.clock⟩

theorem sink_alert (h : s.Asks src polarity i gap start old c) {irq : Interrupts}
    (hfine : irq.fine) (now : Nat) (deliver : Bool) :
    (s.step src snk (.sink (.alert irq now) deliver)).Asks src polarity i gap start old c := by
  obtain ⟨deadline, hexpects, hdeadline⟩ := h.sink
  have hkept : (s.sink.step snk (.alert irq now)).Expects .snkRequested deadline (src.power i) :=
    hexpects.still (.inl rfl) (.alert hfine now)
  rw [step_sink_alert h.calm hfine]
  exact ⟨h.source, ⟨deadline, hkept, hdeadline⟩, (h.calm.alert_fine hfine now).1, h.toSource,
    h.toSink, h.log, h.clock⟩

end Asks

/-! The Accept and the PS_RDY. -/

/-- What the source sends goes to the end of the channel. -/
theorem SinkCloses.send {accepted : Nat} {rest new : List (Packet PdMsg)}
    (h : s.SinkCloses src i gap start c accepted rest) {s' : Pair} {c' : PairClock}
    (hsink : s'.sink = s.sink) (hchan : s'.toSink = s.toSink ++ new) (hclock : c'.sink = c.sink) :
    s'.SinkCloses src i gap start c' accepted (rest ++ new) := by
  cases h with
  | accept hexpects htoSink haccept hearly =>
      refine .accept (hsink ▸ hexpects) ?_ haccept (hclock ▸ hearly)
      rw [hchan, htoSink]
      rfl
  | psRdy hexpects htoSink hdeadline =>
      exact .psRdy (hsink ▸ hexpects) (hchan.trans (congrArg (· ++ new) htoSink)) hdeadline

namespace Closes

variable {accepted : Nat} {rest : List (Packet PdMsg)}

/-- After PS_RDY the source may do what it wants. -/
theorem source_served (h : s.Closes src polarity i gap start old c accepted rest)
    {k : Packet PdMsg}
    (hlog : Shows old s.source.log [Call.sendsPsRdy, Call.changesTo (i + 1), Call.sendsAccept])
    (hrest : ∃ later, rest = k :: later) (hready : k.content.isCtrl .psRdy = true)
    (hclock : c.sink < start + pdTSinkTransition + pdPowerSupplyTurnOnDelay + 6 * gap)
    {e : Event} {deliver : Bool} (hallowed : c.Allows gap (.source e deliver)) :
    ∃ rest', (s.step src snk (.source e deliver)).Closes src polarity i gap start old
      (c.tick (.source e deliver)) accepted rest' := by
  have hlater : c.source ≤ (c.tick (.source e deliver)).source := by
    change c.source ≤ e.ends.getD c.source
    cases hends : e.ends with
    | none => exact Nat.le_refl _
    | some t => exact (hallowed t hends).1.1
  have hsuffix : s.source.log <:+ (s.step src snk (.source e deliver)).source.log :=
    s.source.suffix_step src (e.heard deliver s.toSource)
  refine ⟨rest ++ (s.source.turn src e deliver s.toSource).sent, ?_, ?_, h.calm, ?_⟩
  · obtain ⟨later, rfl⟩ := hrest
    exact .served (hlog.later hsuffix) ⟨_, rfl⟩ hready hclock
  · exact h.sink.send rfl rfl rfl
  · exact ⟨Nat.le_trans h.clock.1 hlater, h.clock.2⟩

/-- The source on its way to PS_RDY. -/
theorem source_serves (h : s.Closes src polarity i gap start old c accepted rest)
    (hsupplies : s.source.Supplies polarity)
    (hserves : s.source.Serves (i + 1) accepted gap old c.source) (hcalm : s.source.Calm)
    (hchan : s.toSource = []) (hrest : rest = []) (hlinked : Linked s.source) {inp : Input}
    (hreset : inp.reset = false) (hplugged : inp.plugged polarity)
    (hswitch : inp.time .switch ≤ inp.time .tail)
    (hallowed : c.Allows gap (.source (.iterate inp) true)) :
    ∃ rest', (s.step src snk (.source (.iterate inp) true)).Closes src polarity i gap start old
      (c.tick (.source (.iterate inp) true)) accepted rest' := by
  obtain ⟨⟨hafter, hsoon⟩, hsinkAfter, -⟩ := hallowed _ rfl
  obtain ⟨heard, hheard, hnoReset, hnone, htime, hplug⟩ := inp.exists_heard none
  have hstill : heard.still := ⟨hnoReset.trans hreset, hnone⟩
  obtain ⟨haccepted, hearly⟩ := h.clock
  have hclock : accepted ≤ inp.time .tail := Nat.le_trans haccepted hafter
  by_cases hlate : s.source.pd.taskState = .srcTransition
  · have hshows := hserves.iterate_late (b := src) hsupplies hlate hstill
    have hbefore : s.source.beforeSwitch src heard = s.source := by
      rw [Port.beforeSwitch_still src hstill hsupplies.awake, hcalm.beforeMessage hstill.1]
    have hsent : (s.source.pdRunStateMachine src heard).sent =
        s.source.sent ++ [wire (s.source.header CtrlMsgType.psRdy.toNat 0) []] := by
      rw [Port.pdRunStateMachine, hbefore, Port.runState, hlate]
      exact Port.sent_srcTransition hsupplies.tx heard _
    have hready := isCtrl_wire hlinked.msgId_lt .psRdy
    have hnow := hserves.now_lt
    generalize wire (s.source.header CtrlMsgType.psRdy.toNat 0) [] = m at hsent hready
    rw [step_source_none hchan hheard rfl hsent]
    refine ⟨rest ++ packets s.source.sent.length [m],
      .served hshows ⟨[], congrArg (· ++ _) hrest⟩ hready ?_, h.sink.send rfl rfl rfl, h.calm,
      hclock, hearly⟩
    change c.sink < start + pdTSinkTransition + pdPowerSupplyTurnOnDelay + 6 * gap
    omega
  · have hwaiting : s.source.pd.taskState ∈ silentStates := hserves.waiting hlate
    obtain ⟨hstays, hsilent⟩ := hcalm.iterate_still hsupplies.awake hwaiting src hstill
    have hgap : heard.time .tail ≤ c.source + gap := by
      rw [htime]
      exact hsoon
    obtain ⟨hq, hserving⟩ := hserves.iterate_early (b := src) hsupplies hlate hstill
      (hplug _ hplugged) (by rw [htime]; exact hswitch) hgap
    rw [htime] at hserving
    rw [step_source_none hchan hheard rfl (hsilent.trans (List.append_nil _).symm)]
    refine ⟨rest, .serves hq hserving hstays rfl hrest, ?_, h.calm, hclock, hearly⟩
    rw [← List.append_nil rest]
    exact h.sink.send rfl rfl rfl

/-- The source changes the voltage and sends PS_RDY. -/
theorem source_iterate (h : s.Closes src polarity i gap start old c accepted rest)
    (hlinked : Linked s.source) {inp : Input} (hreset : inp.reset = false)
    (hplugged : inp.plugged polarity) (hswitch : inp.time .switch ≤ inp.time .tail)
    (hallowed : c.Allows gap (.source (.iterate inp) true)) :
    ∃ rest', (s.step src snk (.source (.iterate inp) true)).Closes src polarity i gap start old
      (c.tick (.source (.iterate inp) true)) accepted rest' := by
  cases h.source with
  | serves hsupplies hserves hcalm hchan hrest =>
      exact h.source_serves hsupplies hserves hcalm hchan hrest hlinked hreset hplugged hswitch
        hallowed
  | served hlog hrest hready hclock => exact h.source_served hlog hrest hready hclock hallowed

/-- The sink that has asked hears the Accept. -/
theorem sink_accept (h : s.Closes src polarity i gap start old c accepted rest)
    {k : Packet PdMsg} {deadline : Nat}
    (hexpects : s.sink.Expects .snkRequested deadline (src.power i)) (hchan : s.toSink = k :: rest)
    (haccept : k.content.isCtrl .accept = true) (hclock : c.sink ≤ start + 2 * gap)
    (hgap : 2 * gap < pdTSenderResponse) {inp : Input} (hreset : inp.reset = false)
    (hshort : inp.time .tail ≤ inp.time .switch + gap)
    (hallowed : c.Allows gap (.sink (.iterate inp) true)) :
    (s.step src snk (.sink (.iterate inp) true)).Closes src polarity i gap start old
      (c.tick (.sink (.iterate inp) true)) accepted rest := by
  obtain ⟨⟨hafter, -⟩, -, hsoon⟩ := hallowed _ rfl
  obtain ⟨heard, hheard, hnoReset, hmessage, htime, -⟩ := inp.exists_heard (some k.content)
  obtain ⟨haccepted, hearly⟩ := h.clock
  have hwait : pdTSenderResponse < pdTPsTransition := by decide
  have hprompt : heard.time .tail < heard.time .switch + pdTPsTransition := by
    rw [htime]
    omega
  rw [hreset] at hnoReset
  obtain ⟨hstays, hsilent⟩ := hexpects.sent_accept h.calm snk hnoReset hmessage haccept
  have hnext : (s.sink.pdRunStateMachine snk heard).Expects .snkTransition
      (heard.time .switch + pdTPsTransition) (src.power i) :=
    hexpects.accept hnoReset hmessage haccept hprompt
  rw [htime] at hnext
  rw [step_sink_some hchan hheard rfl (hsilent.trans (List.append_nil _).symm), packets,
    List.append_nil]
  refine ⟨?_, .psRdy hnext rfl ?_, hstays, h.clock⟩
  · cases h.source with
    | serves hsupplies hserves hcalm htoSource hrest =>
        exact .serves hsupplies hserves hcalm htoSource hrest
    | served hlog hrest hready _ =>
        refine .served hlog hrest hready ?_
        have hlong : 0 < pdTSinkTransition := by decide
        change inp.time .tail < start + pdTSinkTransition + pdPowerSupplyTurnOnDelay + 6 * gap
        omega
  · omega

/-- The sink that knows of the Accept waits for PS_RDY, or hears it. -/
theorem sink_psRdy (h : s.Closes src polarity i gap start old c accepted rest) {deadline : Nat}
    (hexpects : s.sink.Expects .snkTransition deadline (src.power i)) (hchan : s.toSink = rest)
    (hdeadline : accepted + pdTPsTransition ≤ deadline + gap)
    (hgap : 2 * gap < pdTSenderResponse) {inp : Input} (hreset : inp.reset = false)
    (hallowed : c.Allows gap (.sink (.iterate inp) true)) :
    (s.step src snk (.sink (.iterate inp) true)).Closes src polarity i gap start old
      (c.tick (.sink (.iterate inp) true)) accepted rest ∨
        (s.step src snk (.sink (.iterate inp) true)).Settled src i old := by
  obtain ⟨⟨hafter, hsoon⟩, -, -⟩ := hallowed _ rfl
  cases h.source with
  | serves hsupplies hserves hcalm htoSource hrest =>
      obtain ⟨heard, hheard, hnoReset, hnone, htime, -⟩ := inp.exists_heard none
      have hstill : heard.still := ⟨hnoReset.trans hreset, hnone⟩
      have hnow := hserves.now_lt
      have htimers : pdTSinkTransition + pdPowerSupplyTurnOnDelay + 3 * pdTSenderResponse <
          pdTPsTransition := by
        decide
      have hearly : heard.time .tail < deadline := by
        rw [htime]
        omega
      obtain ⟨hstays, hsilent⟩ :=
        h.calm.iterate_still hexpects.awake (by rw [hexpects.task]; decide) snk hstill
      have hkept : (s.sink.step snk (.iterate heard)).Expects .snkTransition deadline
          (src.power i) :=
        hexpects.still (.inr rfl) (.iterate hstill hearly)
      rw [step_sink_none (hchan.trans hrest) hheard rfl
        (hsilent.trans (List.append_nil _).symm), packets, List.append_nil]
      exact .inl ⟨.serves hsupplies hserves hcalm htoSource hrest,
        .psRdy hkept hrest.symm hdeadline, hstays, h.clock⟩
  | served hlog hrest hready hclock =>
      rename_i k
      obtain ⟨later, rfl⟩ := hrest
      obtain ⟨heard, hheard, hnoReset, hmessage, -⟩ := inp.exists_heard (some k.content)
      rw [hreset] at hnoReset
      have hagreed : (s.sink.pdRunStateMachine snk heard).Agreed (src.power i) :=
        hexpects.psRdy hnoReset hmessage hready
      have hsuffix : s.sink.log <:+ (s.sink.pdRunStateMachine snk heard).log :=
        s.sink.suffix_step snk (.iterate heard)
      have hsent : (s.sink.pdRunStateMachine snk heard).sent =
          s.sink.sent ++ Port.newMsgs s.sink (s.sink.pdRunStateMachine snk heard) :=
        Port.sentMsgs_newMsgs hsuffix
      rw [step_sink_some hchan hheard rfl hsent]
      exact .inr ⟨hlog, hagreed⟩

/-- The sink goes on. -/
theorem sink_iterate (h : s.Closes src polarity i gap start old c accepted rest)
    (hgap : 2 * gap < pdTSenderResponse) {inp : Input} (hreset : inp.reset = false)
    (hshort : inp.time .tail ≤ inp.time .switch + gap)
    (hallowed : c.Allows gap (.sink (.iterate inp) true)) :
    (s.step src snk (.sink (.iterate inp) true)).Closes src polarity i gap start old
      (c.tick (.sink (.iterate inp) true)) accepted rest ∨
        (s.step src snk (.sink (.iterate inp) true)).Settled src i old := by
  cases h.sink with
  | accept hexpects hchan haccept hclock =>
      exact .inl (h.sink_accept hexpects hchan haccept hclock hgap hreset hshort hallowed)
  | psRdy hexpects hchan hdeadline =>
      exact h.sink_psRdy hexpects hchan hdeadline hgap hreset hallowed

theorem source_alert (h : s.Closes src polarity i gap start old c accepted rest)
    {irq : Interrupts} (hfine : irq.fine) (now : Nat) (deliver : Bool) :
    ∃ rest', (s.step src snk (.source (.alert irq now) deliver)).Closes src polarity i gap start
      old c accepted rest' := by
  cases h.source with
  | serves hsupplies hserves hcalm hchan hrest =>
      obtain ⟨hdoes, hstill⟩ := hsupplies.alert_fine hfine now
      have hserving := hserves.of_does hdoes (by decide)
      rw [step_source_alert hcalm hfine]
      refine ⟨rest, .serves hstill hserving (hcalm.alert_fine hfine now).1 hchan hrest, ?_, h.calm,
        h.clock⟩
      rw [← List.append_nil rest]
      exact h.sink.send rfl (List.append_nil _).symm rfl
  | served hlog hrest hready hclock =>
      have hallowed : c.Allows gap (.source (.alert irq now) deliver) := fun t ht => by cases ht
      exact h.source_served hlog hrest hready hclock hallowed

theorem sink_alert (h : s.Closes src polarity i gap start old c accepted rest)
    {irq : Interrupts} (hfine : irq.fine) (now : Nat) (deliver : Bool) :
    (s.step src snk (.sink (.alert irq now) deliver)).Closes src polarity i gap start old c
      accepted rest := by
  have hkept : ∀ {state : PdState} {deadline : Nat},
      state = .snkRequested ∨ state = .snkTransition →
      s.sink.Expects state deadline (src.power i) →
      (s.sink.tcpcAlert irq now).Expects state deadline (src.power i) :=
    fun hstate hexpects => hexpects.still (b := snk) hstate (.alert hfine now)
  rw [step_sink_alert h.calm hfine]
  refine ⟨?_, ?_, (h.calm.alert_fine hfine now).1, h.clock⟩
  · cases h.source with
    | serves hsupplies hserves hcalm hchan hrest =>
        exact .serves hsupplies hserves hcalm hchan hrest
    | served hlog hrest hready hclock => exact .served hlog hrest hready hclock
  · cases h.sink with
    | accept hexpects hchan haccept hclock =>
        exact .accept (hkept (.inl rfl) hexpects) hchan haccept hclock
    | psRdy hexpects hchan hdeadline => exact .psRdy (hkept (.inr rfl) hexpects) hchan hdeadline

end Closes

namespace Negotiates

/-- An event of the pair leaves it on its way, or ends the negotiation. -/
theorem step (h : s.Negotiates src polarity i gap start old c) (hgap : 2 * gap < pdTSenderResponse)
    (hi : i < src.srcPdo.length) (htype : pdoType (src.srcPdo.getD i 0) ≠ .battery)
    (hsource : Linked s.source) (hsink : Linked s.sink) {e : PairEvent} (he : e.Runs polarity gap)
    (hallowed : c.Allows gap e) :
    (s.step src snk e).Negotiates src polarity i gap start old (c.tick e) ∨
      ((s.step src snk e).Settled src i old ∧ e.ends ≠ none) := by
  cases h with
  | offers h =>
      cases he with
      | source hreset hplugged htime hshort =>
          exact .inl (.offers (h.source_iterate hgap hreset hplugged hshort hallowed))
      | sink hreset htime hshort =>
          exact .inl (.asks (h.sink_iterate hgap hsink hi htype hreset hshort hallowed))
      | sourceAlert hfine now deliver => exact .inl (.offers (h.source_alert hfine now deliver))
      | sinkAlert hfine now deliver => exact .inl (.offers (h.sink_alert hfine now deliver))
  | asks h =>
      cases he with
      | source hreset hplugged htime hshort =>
          exact .inl (.closes (h.source_iterate hsource hreset hplugged htime hshort hallowed))
      | sink hreset htime hshort =>
          exact .inl (.asks (h.sink_iterate hgap hreset hallowed))
      | sourceAlert hfine now deliver => exact .inl (.asks (h.source_alert hfine now deliver))
      | sinkAlert hfine now deliver => exact .inl (.asks (h.sink_alert hfine now deliver))
  | closes h =>
      cases he with
      | source hreset hplugged htime hshort =>
          obtain ⟨rest, hcloses⟩ := h.source_iterate hsource hreset hplugged htime hallowed
          exact .inl (.closes hcloses)
      | sink hreset htime hshort =>
          exact (h.sink_iterate hgap hreset hshort hallowed).imp .closes fun hsettled =>
            ⟨hsettled, Option.some_ne_none _⟩
      | sourceAlert hfine now deliver =>
          obtain ⟨rest, hcloses⟩ := h.source_alert hfine now deliver
          exact .inl (.closes hcloses)
      | sinkAlert hfine now deliver => exact .inl (.closes (h.sink_alert hfine now deliver))

/-- The negotiation does not last. -/
theorem early (h : s.Negotiates src polarity i gap start old c) :
    c.source < start + pdTSinkTransition + pdPowerSupplyTurnOnDelay + 6 * gap ∨
      c.sink < start + pdTSinkTransition + pdPowerSupplyTurnOnDelay + 6 * gap := by
  have hdelay : 0 < pdPowerSupplyTurnOnDelay := by decide
  cases h with
  | offers h =>
      obtain ⟨-, hsink⟩ := h.clock
      exact .inr (by omega)
  | asks h =>
      have hsource := h.clock
      exact .inl (by omega)
  | closes h =>
      obtain ⟨-, haccepted⟩ := h.clock
      cases h.source with
      | serves _ hserves _ _ _ =>
          have hnow := hserves.now_lt
          exact .inl (by omega)
      | served _ _ _ hclock => exact .inr hclock

end Negotiates

theorem linked_step (src snk : Board) (hsource : Linked s.source) (hsink : Linked s.sink)
    (e : PairEvent) : Linked (s.step src snk e).source ∧ Linked (s.step src snk e).sink := by
  cases e with
  | source e deliver => exact ⟨hsource.step src _, hsink⟩
  | sink e deliver => exact ⟨hsource, hsink.step snk _⟩
  | loseToSource | loseToSink => exact ⟨hsource, hsink⟩

/-- Two ports that hear each other come to a contract about the selected capability before the
clock of either has passed the timers of the source and seven gaps. -/
theorem settled_run (src snk : Board) {s : Pair} {polarity : Bool} {i gap start : Nat}
    (h : s.Offers src polarity i gap start s.source.log ⟨start, start⟩)
    (hsource : Linked s.source) (hsink : Linked s.sink) (hi : i < src.srcPdo.length)
    (htype : pdoType (src.srcPdo.getD i 0) ≠ .battery) (hgap : 2 * gap < pdTSenderResponse)
    {es : List PairEvent} (hruns : ∀ e ∈ es, e.Runs polarity gap)
    (htimed : Machine.Timed PairClock.tick (PairClock.Allows gap) ⟨start, start⟩ es)
    (hlate : start + pdTSinkTransition + pdPowerSupplyTurnOnDelay + 6 * gap ≤
      min (es.foldl PairClock.tick ⟨start, start⟩).source
        (es.foldl PairClock.tick ⟨start, start⟩).sink) :
    Machine.Reaches PairClock.tick (Pair.step src snk)
      (fun c t => t.Settled src i s.source.log ∧
        max c.source c.sink < start + pdTSinkTransition + pdPowerSupplyTurnOnDelay + 7 * gap)
      ⟨start, start⟩ s es := by
  obtain ⟨-, -, hends⟩ | hreached := Machine.timed_reaches
    (R := fun c (t : Pair) => Linked t.source ∧ Linked t.sink ∧
      t.Negotiates src polarity i gap start s.source.log c)
    (G := fun c (t : Pair) => t.Settled src i s.source.log ∧
      max c.source c.sink < start + pdTSinkTransition + pdPowerSupplyTurnOnDelay + 7 * gap)
    (fun c t e ⟨hsource, hsink, hnegotiates⟩ he hallowed => by
      obtain ⟨hsource', hsink'⟩ := linked_step src snk hsource hsink e
      refine (hnegotiates.step hgap hi htype hsource hsink he hallowed).imp
        (fun hnext => ⟨hsource', hsink', hnext⟩) fun ⟨hsettled, hends⟩ => ⟨hsettled, ?_⟩
      obtain ⟨hsoon, hsoon'⟩ := PairClock.tick_lt hallowed hends hnegotiates.early
      omega)
    ⟨hsource, hsink, .offers h⟩ hruns htimed
  · have hearly := hends.early
    omega
  · exact hreached

/-- The attached ports, with the capabilities on their way. -/
def onCable : Pair where
  source := Port.negociates
  sink := Port.after .shipped Port.attachAsSink
  toSource := []
  toSink := [⟨0, Port.dataMsg .sourceCap [Board.shipped.srcPdo.getD 0 0] Port.one_object_lt⟩]

/-- An alert, and an iteration of either port every 30 ms. -/
def turns : List PairEvent :=
  .source (.alert ⟨0, 4, 0⟩ 221000) true ::
    [250000, 280000, 310000, 340000, 370000, 400000, 430000, 460000].flatMap fun now =>
      [.source (.iterate (Port.inputAt now Port.rdOnCc1 none)) true,
        .sink (.iterate (Port.inputAt now Port.rpOnCc1 none)) true]

theorem settled_onCable : Machine.Reaches PairClock.tick (step .shipped .shipped)
    (fun c t => t.Settled .shipped 0 onCable.source.log ∧
      max c.source c.sink < 220000 + pdTSinkTransition + pdPowerSupplyTurnOnDelay + 7 * 30000)
    ⟨220000, 220000⟩ onCable turns := by
  have hsupplies : onCable.source.Supplies false := by
    constructor <;> decide +kernel
  have hlistens : onCable.sink.Listens := by
    constructor <;> decide +kernel
  have hcalm : onCable.source.Calm ∧ onCable.sink.Calm := by
    unfold Port.Calm
    decide +kernel
  have hoffers : onCable.Offers .shipped false 0 30000 220000 onCable.source.log
      ⟨220000, 220000⟩ :=
    ⟨⟨hsupplies, by decide +kernel, hcalm.1, .inl (by decide +kernel)⟩, hlistens, hcalm.2,
      by decide +kernel, rfl, ⟨_, rfl, by decide, by decide⟩, List.suffix_rfl,
      Nat.le_refl _, Nat.le_refl _⟩
  have hlinked : Linked onCable.source ∧ Linked onCable.sink := by
    simp only [onCable, Port.negociates]
    exact ⟨Linked.after _ _, Linked.after _ _⟩
  have hruns : ∀ e ∈ turns, e.Runs false 30000 := by
    intro e he
    rcases List.mem_cons.1 he with rfl | hmem
    · exact .sourceAlert ⟨by decide, by decide, by decide, by decide⟩ _ _
    · obtain ⟨now, -, hturn⟩ := List.mem_flatMap.1 hmem
      rcases List.mem_pair.1 hturn with rfl | rfl
      · exact .source rfl (by change Port.rdOnCc1.vnc1 &&& Fusb302.status0Comp = 0; decide)
          (Nat.le_refl _) (Nat.le_add_right _ _)
      · exact .sink rfl (Nat.le_refl _) (Nat.le_add_right _ _)
  have htimed : Machine.Timed PairClock.tick (PairClock.Allows 30000) ⟨220000, 220000⟩
      turns := by
    simp [Machine.Timed, PairClock.Allows, PairClock.tick, PairEvent.ends, Event.ends, turns,
      Port.inputAt]
  exact settled_run .shipped .shipped hoffers hlinked.1 hlinked.2 (by decide) (by decide)
    (by decide) hruns htimed (by decide)

end Pair

end UsbPd
