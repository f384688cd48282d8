import UsbPd.Sink.PsRdy
import UsbPd.Sink.Request

/-!
# The collision guard

The READY states start nothing of their own when a packet has come in, which
they learn from an event that nothing sets. What they start therefore depends
on the pending work only.
-/

namespace UsbPd

def Call.isTransmit : Call → Bool
  | .transmit _ _ _ _ => true
  | _ => false

/-- The transmissions of a log. -/
def transmissions (log : List Call) : List Call := log.filter Call.isTransmit

/-- What the port has sent and what it has queued, with the note that the
identity of the partner still has to be asked for. -/
structure Traffic where
  sent : List Call
  vdmState : VdmState
  vdoData : List Word
  vdoCount : Nat
  checkIdentity : Bool
  deriving DecidableEq

namespace Port

def traffic (p : Port) : Traffic where
  sent := transmissions p.log
  vdmState := p.pd.vdmState
  vdoData := p.pd.vdoData
  vdoCount := p.pd.vdoCount
  checkIdentity := p.pd.flags.checkIdentity

/-- The port is in a READY state. -/
def isReady (p : Port) : Bool := p.pd.taskState = .srcReady ∨ p.pd.taskState = .snkReady

/-- After the reply to the message of the iteration, a READY state transmits
nothing and queues no VDM. -/
def YieldsToPacket (b : Board) (p : Port) (e : Event) : Prop :=
  ∀ r ∈ e.received, (p.beforeSwitch b r.1).isReady = true →
    (p.step b e).traffic = (p.beforeSwitch b r.1).traffic

/-- A check of the power role or of the data role is due, which goes first. -/
def roleCheckDue (p : Port) : Bool := p.pd.flags.checkPrRole || p.pd.flags.checkDrRole

/-- The identity of the partner is asked for next. -/
def identityPending (p : Port) : Bool :=
  !p.roleCheckDue && p.pd.dataRole == .dfp && p.pd.flags.checkIdentity

/-- The work of `PD_STATE_SRC_READY`: new capabilities, the missing ones of the
sink, the identity of the sink or a ping. -/
def srcPending (p : Port) : Bool :=
  p.pd.flags.updateSrcCaps ||
    (!p.pd.flags.snkCapRecvd && toInt32 (p.st.snkCapCount + 1) ≤ pdSnkCapRetries) ||
    p.identityPending || (!p.roleCheckDue && p.pd.flags.pingEnabled)

/-- The work of `PD_STATE_SNK_READY`: a power request that is not skipped, or else
the identity of the source. -/
def snkPending (p : Port) : Bool :=
  if p.pd.newPowerRequest then p.selection.request.supplyVoltage ≠ p.pd.prevRequestMv
  else p.identityPending

/-- A READY state has work to do and no VDM in flight keeps it back. -/
def pendingWork (p : Port) : Bool :=
  p.pd.vdmState ≠ .busy ∧
    ((p.pd.taskState = .srcReady ∧ p.srcPending) ∨ (p.pd.taskState = .snkReady ∧ p.snkPending))

/-- An iteration with a message leaves no work to a READY state. -/
def NothingPending (b : Board) (p : Port) (e : Event) : Prop :=
  ∀ r ∈ e.received, (p.beforeSwitch b r.1).pendingWork = false

instance decidableYieldsToPacket (b : Board) (p : Port) (e : Event) :
    Decidable (p.YieldsToPacket b e) :=
  inferInstanceAs (Decidable (∀ r ∈ e.received, _ = true → _ = _))

section

variable (p : Port)

theorem traffic_pdTransmit_ne (q : Port) {type : TransmitType} {header : BitVec 16}
    {data : List Word} (hlog : q.log = (p.pdTransmit type header data).2.log) :
    q.traffic ≠ p.traffic := by
  intro h
  have hsent : transmissions q.log = transmissions p.log := congrArg Traffic.sent h
  rw [hlog] at hsent
  exact List.cons_ne_self _ _ hsent

/-- A change of the state transmits nothing. -/
@[simp] theorem traffic_setState (s : PdState) : (p.setState s).traffic = p.traffic := by
  have hsent : transmissions (p.setState s).log = transmissions p.log := by
    unfold setState enterDisconnected tcpmSetRxEnable
    simp only
    split_ifs <;> rfl
  simp [traffic, hsent]

theorem traffic_checkSourceDetach (inp : Input) :
    (p.checkSourceDetach inp).traffic = p.traffic := by
  unfold checkSourceDetach
  simp only [pdTrySrcEnable, Bool.false_eq_true, if_false]
  split_ifs
  · rw [traffic_setState]
    rfl
  · rfl
  · rw [traffic_setState]
    rfl
  · rfl
  · rfl

/-- The tail of the iteration transmits nothing. -/
theorem traffic_finish (thisState : PdState) (inp : Input) :
    (p.finish thisState inp).traffic = p.traffic := by
  have hchecked : ((p.setLast thisState).checkTimeout (inp.time .tail)).traffic = p.traffic := by
    unfold checkTimeout
    split_ifs
    · rw [traffic_setState]
      rfl
    · rfl
  unfold finish
  simp only [checkSinkDetach_eq]
  split_ifs
  · exact hchecked
  · rw [traffic_checkSourceDetach, hchecked]

/-- The policy checks are quiet unless the identity is asked for. -/
theorem traffic_readyChecks {q : Port} (h : p.readyChecks = some q) :
    (q.traffic = p.traffic ↔ p.identityPending = false) ∧
      (p.roleCheckDue = true ∨ p.identityPending = true) := by
  unfold readyChecks at h
  split_ifs at h with hpr hdr hidentity
  · obtain rfl := Option.some.inj h
    exact ⟨iff_of_true rfl (by simp [identityPending, roleCheckDue, hpr]),
      .inl (by simp [roleCheckDue, hpr])⟩
  · obtain rfl := Option.some.inj h
    exact ⟨iff_of_true rfl (by simp [identityPending, roleCheckDue, hdr]),
      .inl (by simp [roleCheckDue, hdr])⟩
  · obtain rfl := Option.some.inj h
    have hpending : p.identityPending = true := by
      simp [identityPending, roleCheckDue, hpr, hdr, hidentity]
    refine ⟨iff_of_false (fun htraffic => ?_) (by simp [hpending]), .inr hpending⟩
    have hcleared : false = p.pd.flags.checkIdentity := congrArg Traffic.checkIdentity htraffic
    exact absurd (hcleared.trans hidentity.2) (by decide)

theorem readyChecks_eq_none (h : p.readyChecks = none) :
    p.roleCheckDue = false ∧ p.identityPending = false := by
  unfold readyChecks at h
  split_ifs at h with hpr hdr hidentity
  have hrole : p.roleCheckDue = false := by simp [roleCheckDue, hpr, hdr]
  refine ⟨hrole, ?_⟩
  simpa [identityPending, hrole] using hidentity

theorem traffic_srcPing : p.srcPing.traffic = p.traffic ↔ p.pd.flags.pingEnabled = false := by
  unfold srcPing
  by_cases hping : p.pd.flags.pingEnabled = true
  · rw [if_neg (not_not.2 hping)]
    refine iff_of_false ?_ (by simp [hping])
    simp only
    split_ifs
    · exact p.traffic_pdTransmit_ne _ rfl
    · rw [traffic_setState]
      exact p.traffic_pdTransmit_ne _ rfl
  · rw [if_pos hping]
    simpa using hping

/-- What `PD_STATE_SRC_READY` does after its own messages. -/
theorem traffic_checksOrPing :
    (p.readyChecks.getD p.srcPing).traffic = p.traffic ↔
      (p.identityPending || (!p.roleCheckDue && p.pd.flags.pingEnabled)) = false := by
  cases hchecks : p.readyChecks with
  | none =>
      obtain ⟨hrole, hidentity⟩ := p.readyChecks_eq_none hchecks
      simpa [hrole, hidentity] using p.traffic_srcPing
  | some q =>
      obtain ⟨hquiet, hdue⟩ := p.traffic_readyChecks hchecks
      change q.traffic = p.traffic ↔ _
      rw [hquiet]
      rcases hdue with hrole | hidentity
      · simp [hrole]
      · simp [hidentity]

theorem traffic_sendSourceCap_ne (b : Board) (q : Port) (hlog : q.log = (p.sendSourceCap b).2.log) :
    q.traffic ≠ p.traffic := by
  unfold sendSourceCap at hlog
  split_ifs at hlog
  · exact p.traffic_pdTransmit_ne q hlog
  · exact p.traffic_pdTransmit_ne q hlog

theorem traffic_srcReady (b : Board) (htask : p.pd.taskState = .srcReady) :
    (p.srcReady b).traffic = p.traffic ↔ p.pendingWork = false := by
  unfold srcReady
  by_cases hbusy : p.pd.vdmState = .busy
  · rw [if_pos (.inr hbusy)]
    exact iff_of_true rfl (by simp [pendingWork, hbusy])
  have hwork : p.pendingWork = p.srcPending := by
    simp [pendingWork, hbusy, htask]
  rw [if_neg (by simp [evt, hbusy]), hwork]
  unfold srcPending
  by_cases hcaps : p.pd.flags.updateSrcCaps = true
  · rw [if_pos hcaps]
    refine iff_of_false ?_ (by simp [hcaps])
    simp only
    split_ifs
    · exact p.traffic_sendSourceCap_ne b _ (setState_log _ (by decide))
    · exact p.traffic_sendSourceCap_ne b _ rfl
  rw [if_neg hcaps]
  by_cases hsnk : ¬ p.pd.flags.snkCapRecvd = true ∧ toInt32 (p.st.snkCapCount + 1) ≤ pdSnkCapRetries
  · rw [if_pos hsnk]
    refine iff_of_false ?_ (by simp [hsnk])
    simp only [traffic_setState]
    exact traffic_pdTransmit_ne (p.modifySt _) _ rfl
  · rw [if_neg hsnk]
    have hsnk' : (!p.pd.flags.snkCapRecvd && decide (toInt32 (p.st.snkCapCount + 1) ≤
        pdSnkCapRetries)) = false := by
      simpa using hsnk
    simp only [hcaps, hsnk', Bool.false_or]
    split_ifs
    · exact p.traffic_checksOrPing
    · exact traffic_checksOrPing (p.modifySt _)

theorem traffic_sendBuiltRequest (req : PowerRequest) :
    (p.sendBuiltRequest false req).2.traffic = p.traffic ↔
      req.supplyVoltage = p.pd.prevRequestMv := by
  unfold sendBuiltRequest
  by_cases hskip : p.pd.prevRequestMv = req.supplyVoltage
  · rw [if_pos ⟨rfl, hskip⟩]
    exact iff_of_true rfl hskip.symm
  · rw [if_neg (fun h => hskip h.2)]
    refine iff_of_false ?_ (Ne.symm hskip)
    simp only
    split_ifs
    · exact traffic_pdTransmit_ne (p.setRequestedPower _ _) _ rfl
    · rw [traffic_setState]
      exact traffic_pdTransmit_ne (p.setRequestedPower _ _) _ rfl

theorem traffic_snkReady (htask : p.pd.taskState = .snkReady) :
    p.snkReady.traffic = p.traffic ↔ p.pendingWork = false := by
  unfold snkReady
  by_cases hbusy : p.pd.vdmState = .busy
  · rw [if_pos (.inr hbusy)]
    exact iff_of_true rfl (by simp [pendingWork, hbusy])
  have hwork : p.pendingWork = p.snkPending := by
    simp [pendingWork, hbusy, htask]
  rw [if_neg (by simp [evt, hbusy]), hwork]
  unfold snkPending
  by_cases hnew : p.pd.newPowerRequest = true
  · rw [if_pos hnew, if_pos hnew, decide_eq_false_iff_not, not_not]
    have hsent : (p.pdSendRequestMsg false).2.traffic = p.traffic ↔
        p.selection.request.supplyVoltage = p.pd.prevRequestMv := by
      rw [pdSendRequestMsg_eq]
      exact p.clearNewPowerRequest.traffic_sendBuiltRequest p.selection.request
    simp only
    split_ifs
    · rw [traffic_setState]
      exact hsent
    · exact hsent
  · rw [if_neg hnew, if_neg hnew]
    cases hchecks : p.readyChecks with
    | none => exact iff_of_true rfl (p.readyChecks_eq_none hchecks).2
    | some q => exact (p.traffic_readyChecks hchecks).1

/-- The READY states are quiet when nothing is pending. -/
theorem traffic_runState (b : Board) (inp : Input) (hready : p.isReady = true) :
    (p.runState b inp).traffic = p.traffic ↔ p.pendingWork = false := by
  simp only [isReady, decide_eq_true_eq] at hready
  unfold runState
  rcases hready with htask | htask
  · rw [htask]
    exact p.traffic_srcReady b htask
  · rw [htask]
    exact p.traffic_snkReady htask

end

/-- Only a READY state has pending work. -/
theorem isReady_of_pendingWork {p : Port} (h : p.pendingWork = true) : p.isReady = true := by
  simp only [pendingWork, decide_eq_true_eq] at h
  simp only [isReady, decide_eq_true_eq]
  exact h.2.imp And.left And.left

/-- In every run, the iterations that receive a packet start nothing of their own
exactly when nothing is pending in a READY state. -/
theorem yieldsToPacket_iff (b : Board) (es : List Event) :
    AllSteps b (fun p e => p.YieldsToPacket b e) es ↔
      AllSteps b (fun p e => p.NothingPending b e) es := by
  refine Machine.along_congr (fun p e => forall₂_congr fun r hr => ?_) _ _
  obtain ⟨rfl, -⟩ := Event.mem_received.1 hr
  change (_ → (p.pdRunStateMachine b r.1).traffic = _) ↔ _
  unfold pdRunStateMachine
  simp only
  rw [traffic_finish]
  constructor
  · intro hquiet
    by_contra hpending
    have hready := isReady_of_pendingWork (by simpa using hpending)
    exact hpending ((traffic_runState _ b r.1 hready).1 (hquiet hready))
  · intro hnothing hready
    exact (traffic_runState _ b r.1 hready).2 hnothing

/-- A sink that is asked for its capabilities while a power request is pending
answers and sends its Request right after. -/
theorem not_yieldsToPacket_request :
    ¬ ∀ es : List Event, AllSteps .shipped (fun p e => p.YieldsToPacket .shipped e) es := by
  intro h
  have hyields := h (attachAsSink ++
    [iterateAt 200000 rpOnCc1 (some (dataMsg .sourceCap [fiveVolts, nineVolts] (by decide))),
      iterateAt 210000 rpOnCc1 (some (ctrlMsg .accept)),
      iterateAt 220000 rpOnCc1 (some (ctrlMsg .psRdy)),
      .button, .setNewPowerRequest,
      iterateAt 230000 rpOnCc1 (some (ctrlMsg .getSinkCap))])
  revert hyields
  decide +kernel

end Port

end UsbPd
