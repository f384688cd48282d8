import UsbPd.Link.Wire
import UsbPd.System.Still

/-!
# What an iteration sends

Without a queued VDM, the states that wait for an answer or for a timer send nothing, and an
iteration that finds a message and ends in such a state sends what the handler of the message
sends. Success is reported in silence, too.
-/

namespace UsbPd

/-- The kinds of the calls that put a message on the wire. -/
def sendingKinds : List CallKind := [.accept, .request, .caps, .sop]

theorem Call.sent_eq_none {c : Call} (h : c.kind ∉ sendingKinds) : c.sent = none := by
  unfold sent
  split
  · rename_i header data res
    refine absurd ?_ h
    change (if saysAccept header then CallKind.accept else if saysRequest header then .request
      else if saysCaps header then .caps else .sop) ∈ sendingKinds
    split_ifs <;> decide
  · rfl

theorem sentMsgs_of_does {W : List Part} {K : List CallKind} {p q : Port} (h : Does W K p q)
    (hK : ∀ k ∈ sendingKinds, k ∉ K) : sentMsgs q.log = sentMsgs p.log := by
  obtain ⟨new, hnew, hkinds⟩ := h.adds
  have hlog : q.log = new ++ p.log := hnew
  rw [hlog]
  clear hnew hlog
  induction new with
  | nil => rfl
  | cons c new ih =>
      have hsilent : c.sent = none :=
        Call.sent_eq_none fun hsends => hK _ hsends (hkinds c (List.mem_cons_self ..))
      rw [List.cons_append, sentMsgs, hsilent,
        ih fun c' hc' => hkinds c' (List.mem_cons_of_mem c hc')]
      exact List.append_nil _

/-- The states that wait in silence. -/
def silentStates : List PdState :=
  [.snkRequested, .snkTransition, .srcNegociate, .srcAccepted, .srcPowered]

namespace Port

variable {b : Board} {p q : Port}

/-- The port has no VDM to send. -/
def Calm (p : Port) : Prop := p.pd.vdmState ∉ [.ready, .waitRspBusy, .busy]

theorem Calm.of_eq (h : p.Calm) (hsame : q.pd.vdmState = p.pd.vdmState) : q.Calm := by
  unfold Calm
  rwa [hsame]

theorem Calm.of_does (h : p.Calm) {W : List Part} {K : List CallKind} (hdoes : Does W K p q)
    (hW : .vdm ∉ W) : q.Calm :=
  h.of_eq (congrArg Prod.fst (hdoes.keeps .vdm hW))

/-- The messages that the port has sent. -/
def sent (p : Port) : List PdMsg := sentMsgs p.log

theorem Calm.beforeMessage (h : p.Calm) {inp : Input} (hreset : inp.reset = false) :
    p.beforeMessage inp = p := by
  rw [beforeMessage_noReset hreset]
  unfold pdVdmSendStateMachine
  cases hstate : p.pd.vdmState with
  | ready | waitRspBusy | busy => exact absurd (by rw [hstate]; decide) h
  | _ => rfl

/-- A waiting state sends nothing. -/
theorem Calm.runState (h : p.Calm) (htask : p.pd.taskState ∈ silentStates) (b : Board)
    (inp : Input) (thisState : PdState) : ((p.runState b inp).finish thisState inp).Calm ∧
      ((p.runState b inp).finish thisState inp).sent = p.sent := by
  have hwaits : ∀ s ∈ silentStates, Part.vdm ∉ stateWrites s ∧
      ∀ k ∈ sendingKinds, k ∉ stateCalls s := by
    decide
  obtain ⟨hvdm, hkinds⟩ := hwaits _ htask
  have hrun := p.does_runState b inp
  have hfinish := does_finish (p.runState b inp) thisState inp
  refine ⟨(h.of_does hrun hvdm).of_does hfinish (by decide), ?_⟩
  exact (sentMsgs_of_does hfinish (by decide)).trans (sentMsgs_of_does hrun hkinds)

/-- A still iteration of a waiting state is silent. -/
theorem Calm.iterate_still (h : p.Calm) (hawake : p.pd.reqSuspendState = false)
    (htask : p.pd.taskState ∈ silentStates) (b : Board) {inp : Input} (hstill : inp.still) :
    (p.pdRunStateMachine b inp).Calm ∧ (p.pdRunStateMachine b inp).sent = p.sent := by
  have hbefore : p.beforeSwitch b inp = p := by
    rw [beforeSwitch_still b hstill hawake, h.beforeMessage hstill.1]
  rw [pdRunStateMachine, hbefore]
  exact h.runState htask b inp _

/-- An iteration sends what the handler of its message sends. -/
theorem Calm.iterate_message (h : p.Calm) (hawake : p.pd.reqSuspendState = false) {inp : Input}
    {m : PdMsg} (hreset : inp.reset = false) (hmessage : inp.message = some m)
    (hhandled : ((p.record (.received m)).handleRequest b (inp.time .message) m).Calm)
    (htask : ((p.record (.received m)).handleRequest b (inp.time .message) m).pd.taskState ∈
      silentStates) : (p.pdRunStateMachine b inp).Calm ∧ (p.pdRunStateMachine b inp).sent =
        ((p.record (.received m)).handleRequest b (inp.time .message) m).sent := by
  have hbefore := beforeSwitch_message (p := p) b hmessage hawake
  rw [h.beforeMessage hreset] at hbefore
  rw [pdRunStateMachine, hbefore]
  exact hhandled.runState htask b inp _

theorem Calm.alert_fine (h : p.Calm) {irq : Interrupts} (hfine : irq.fine) (now : Nat) :
    (p.tcpcAlert irq now).Calm ∧ (p.tcpcAlert irq now).sent = p.sent := by
  obtain ⟨hdoes, -⟩ := p.does_tcpcAlert_fine hfine now
  exact ⟨h.of_does hdoes (by decide), sentMsgs_of_does hdoes (by decide)⟩

end Port

end UsbPd
