import UsbPd.Link.Silent
import UsbPd.Policy.RequestFields
import UsbPd.Sink.Progress
import UsbPd.Source.Grant
import UsbPd.Source.Progress

/-!
# The messages of a negotiation

Each step of a negotiation sends one message: the capabilities are answered with a Request for
the selected one, the Request with Accept, and the voltage transition ends with PS_RDY. A
Request for a supply of the table is always accepted.
-/

namespace UsbPd

open Port

variable {b : Board} {p : Port}

/-! Messages on the wire. -/

theorem isCtrl_wire (hid : p.pd.msgId < 8) (type : CtrlMsgType) :
    (wire (p.header type.toNat 0) []).isCtrl type = true := by
  have hcnt : headerCnt (p.header type.toNat 0) = 0 :=
    headerCnt_pdHeader _ _ _ type.toNat_lt hid (by decide) (by decide)
  have htype : headerType (p.header type.toNat 0) = type.toNat :=
    headerType_pdHeader _ _ _ type.toNat_lt hid (by decide)
  unfold PdMsg.isCtrl
  rw [decide_eq_true_eq]
  refine ⟨hcnt, ?_⟩
  rw [show headerType (wire (p.header type.toNat 0) []).head = type.toNat from htype]
  exact type.ofField_toNat

theorem isData_wire (hid : p.pd.msgId < 8) (type : DataMsgType) (w : Word) :
    (wire (p.header type.toNat 1) [w]).isData type = true ∧
      (wire (p.header type.toNat 1) [w]).payload = [w] := by
  have hcnt : headerCnt (p.header type.toNat 1) = 1 :=
    headerCnt_pdHeader _ _ _ type.toNat_lt hid (by decide) (by decide)
  have htype : headerType (p.header type.toNat 1) = type.toNat :=
    headerType_pdHeader _ _ _ type.toNat_lt hid (by decide)
  refine ⟨PdMsg.isData_iff.2 ⟨?_, htype⟩, ?_⟩
  · change headerCnt (p.header type.toNat 1) ≠ 0
    rw [hcnt]
    decide
  · rw [payload_wire, hcnt]
    rfl

/-! The Request. -/

/-- A source accepts the Request for a supply of its table. -/
theorem pdCheckRequestedVoltage_requestObject {i : Nat} (hi : i < b.srcPdo.length) (hseven : i < 7)
    (htype : pdoType (b.srcPdo.getD i 0) ≠ .battery) :
    pdCheckRequestedVoltage b (requestObject i (b.srcPdo.getD i 0)).rdo = .success := by
  have hpos := rdoPos_requestObject hseven (b.srcPdo.getD i 0)
  obtain ⟨-, hop, hmax, -⟩ := requestFields_supply hseven htype
  generalize hpdo : b.srcPdo.getD i 0 = pdo at *
  generalize (requestObject i pdo).rdo = rdo at *
  have hfits : (pdExtractPdoPower pdo).1 / 10 ≤ pdo.toNat % 1024 := by
    unfold pdExtractPdoPower
    simp only [if_neg htype]
    split_ifs
    · exact Nat.zero_le _
    · refine Nat.div_le_of_le_mul ?_
      exact Nat.le_trans (Nat.min_le_left _ _) (Nat.min_le_left _ _)
  have hopField : (rdo >>> 10).toNat % 1024 = (pdExtractPdoPower pdo).1 / 10 := by
    rw [← hop, rdoOperatingField, BitVec.extractLsb'_toNat, BitVec.toNat_ushiftRight]
  have hmaxField : rdo.toNat % 1024 = (pdExtractPdoPower pdo).1 / 10 := by
    rw [← hmax, rdoMaximumField, BitVec.extractLsb'_toNat, Nat.shiftRight_zero]
  unfold pdCheckRequestedVoltage pdBoardCheckRequest
  simp only [hpos, Nat.add_sub_cancel, hpdo, hopField, hmaxField]
  rw [if_neg (by omega : ¬ (i + 1 = 0 ∨ b.srcPdo.length < i + 1)), if_neg (by simp),
    if_neg (Nat.not_lt.2 hfits), if_neg fun hover => absurd hfits (Nat.not_le.2 hover.1)]

/-! The sink. -/

namespace Port

/-- The message of a Request for the PDO at the index `i`. -/
def requestFor (p : Port) (i : Nat) (pdo : Word) : PdMsg :=
  wire (p.header DataMsgType.request.toNat 1) [(requestObject i pdo).rdo]

/-- The selected entry of a table of capabilities. -/
def selected (p : Port) (payload : List Word) : Word :=
  (payload ++ p.st.srcCaps.drop payload.length).getD p.st.sourceCapCurrentIndex 0

/-- The capabilities are answered with a Request for the selected one. -/
theorem handleSourceCap_sent (htask : p.pd.taskState = .snkDiscovery)
    (htx : p.pd.txStatus = .success) (payload : List Word) :
    (p.handleSourceCap payload).sent = p.sent ++
      [p.requestFor p.st.sourceCapCurrentIndex (p.selected payload)] := by
  obtain ⟨flags, hflags⟩ := p.offered_pd payload
  have hoffered : (p.offered payload).pd.txStatus = .success := by
    rw [hflags]
    exact htx
  have hhandled : p.handleSourceCap payload =
      ((p.offered payload).pdSendRequestMsg true).2.pdProcessSourceCapCallback payload.length := by
    unfold handleSourceCap
    rw [if_pos (.inl htask)]
    rfl
  have hsame : (p.offered payload).sent = p.sent ∧
      (p.offered payload).st.sourceCapCurrentIndex = p.st.sourceCapCurrentIndex ∧
      (p.offered payload).st.srcCap p.st.sourceCapCurrentIndex = p.selected payload := by
    unfold offered pdUpdatePdoFlags
    split_ifs <;> exact ⟨List.append_nil _, rfl, rfl⟩
  obtain ⟨hsilent, hindex, hselected⟩ := hsame
  rw [hhandled]
  change ((p.offered payload).pdSendRequestMsg true).2.sent = _
  have hsent : ∀ ma mv rdo,
      (((p.offered payload).clearNewPowerRequest.setRequestedPower ma mv).sendRequest rdo).1 = 1 :=
    fun _ _ _ => if_pos hoffered
  rw [pdSendRequestMsg_eq, hindex, hselected]
  unfold sendBuiltRequest
  simp only [Bool.true_eq_false, false_and, if_false]
  rw [hsent, if_neg (by decide)]
  unfold sent
  rw [setState_log _ (by decide)]
  change (p.offered payload).sent ++ [_] = _
  rw [hsilent]
  simp [requestFor, header, hflags, sent]

/-- The Request goes out. -/
theorem Listens.sent_sourceCap (h : p.Listens) (hcalm : p.Calm) (b : Board) {inp : Input}
    {m : PdMsg} (hreset : inp.reset = false) (hmessage : inp.message = some m)
    (hcaps : m.isData .sourceCap = true) : (p.pdRunStateMachine b inp).Calm ∧
      (p.pdRunStateMachine b inp).sent =
        p.sent ++ [p.requestFor p.st.sourceCapCurrentIndex (p.selected m.payload)] := by
  have hconn : (p.record (.received m)).pdIsConnected = true := by
    unfold pdIsConnected dualRoleIfElse
    rw [show (p.record (.received m)).pd.taskState = .snkDiscovery from h.task,
      show (p.record (.received m)).pd.powerRole = .sink from h.role]
    rfl
  have hhandled : (p.record (.received m)).handleRequest b (inp.time .message) m =
      (p.record (.received m)).handleSourceCap m.payload := by
    rw [handleRequest_sourceCap b _ _ hcaps, if_pos hconn]
  obtain ⟨flags, hpd⟩ := handleSourceCap_pd (p := p.record (.received m)) h.task h.tx m.payload
  have hsent := handleSourceCap_sent (p := p.record (.received m)) h.task h.tx m.payload
  rw [← hhandled] at hpd hsent
  obtain ⟨hstays, hsame⟩ := hcalm.iterate_message (b := b) h.awake hreset hmessage
    (hcalm.of_eq (by rw [hpd]; rfl)) (by simp [hpd, silentStates])
  refine ⟨hstays, hsame.trans (hsent.trans ?_)⟩
  rw [show (p.record (.received m)).sent = p.sent from List.append_nil _]
  rfl

/-- Nothing answers an Accept. -/
theorem Expects.sent_accept {deadline : Nat} {plan : Nat × Nat}
    (h : p.Expects .snkRequested deadline plan) (hcalm : p.Calm) (b : Board) {inp : Input}
    {m : PdMsg} (hreset : inp.reset = false) (hmessage : inp.message = some m)
    (haccept : m.isCtrl .accept = true) :
    (p.pdRunStateMachine b inp).Calm ∧ (p.pdRunStateMachine b inp).sent = p.sent := by
  have hreceived : (p.record (.received m)).Expects .snkRequested deadline plan :=
    ⟨h.role, h.awake, h.task, h.last, h.timer, h.tx, h.calm, h.plan, h.contract⟩
  have hhandled : (p.record (.received m)).handleRequest b (inp.time .message) m =
      (((p.record (.received m)).record .contractAgreed).setFlags { p.pd.flags with
        explicitContract := true }).setState .snkTransition := by
    rw [Earned.handleRequest_accept b _ haccept, if_pos (hreceived.connected (.inl rfl))]
    exact hreceived.handleAccept
  have hsilent : ((p.record (.received m)).handleRequest b (inp.time .message) m).sent =
      p.sent := by
    rw [hhandled]
    unfold sent
    rw [setState_log _ (by decide)]
    exact (List.append_nil _).trans (List.append_nil _)
  obtain ⟨hstays, hsame⟩ := hcalm.iterate_message (b := b) h.awake hreset hmessage
    (hcalm.of_eq (by simp [hhandled])) (by simp [hhandled, silentStates])
  exact ⟨hstays, hsame.trans hsilent⟩

/-! The source. -/

/-- A Request is answered with Accept. -/
theorem Supplies.sent_request {polarity : Bool} (h : p.Supplies polarity) (hcalm : p.Calm)
    (htask : p.pd.taskState = .srcNegociate) {inp : Input} {m : PdMsg}
    (hreset : inp.reset = false) (hmessage : inp.message = some m)
    (hrequest : m.isData .request = true) (hacceptable : m.acceptable b = true) :
    (p.pdRunStateMachine b inp).Calm ∧ (p.pdRunStateMachine b inp).sent =
      p.sent ++ [wire (p.header CtrlMsgType.accept.toNat 0) []] := by
  obtain ⟨hlen, hcheck⟩ := of_decide_eq_true hacceptable
  have hreceived : (p.record (.received m)).Supplies polarity :=
    ⟨h.role, h.awake, h.polarity, h.pullUp, h.vconn, h.tx⟩
  have hconn : (p.record (.received m)).pdIsConnected = true := by
    unfold pdIsConnected dualRoleIfElse
    rw [show (p.record (.received m)).pd.taskState = .srcNegociate from htask, hreceived.role]
    rfl
  have hhandled : (p.record (.received m)).handleRequest b (inp.time .message) m =
      (((((p.record (.received m)).sendControl .accept).2.record .contractAgreed).setFlags
        { p.pd.flags with explicitContract := true }).modifyPd fun pd =>
          { pd with requestedIdx := rdoPos (firstObject m.payload) }).setState .srcAccepted := by
    rw [handleRequest_request b _ _ hrequest, if_pos hconn]
    exact hreceived.handleRequestMsg hlen hcheck
  have hsent : ((p.record (.received m)).handleRequest b (inp.time .message) m).sent =
      p.sent ++ [wire (p.header CtrlMsgType.accept.toNat 0) []] := by
    rw [hhandled]
    unfold sent
    rw [setState_log _ (by decide)]
    simp [sentMsgs, Call.sent, sendControl, pdTransmit, pdCommIsEnabled, header]
  obtain ⟨hstays, hsame⟩ := hcalm.iterate_message (b := b) h.awake hreset hmessage
    (hcalm.of_eq (by simp [hhandled])) (by simp [hhandled, silentStates])
  exact ⟨hstays, hsame.trans hsent⟩

/-- Until the voltage has changed a source that serves a Request is silent. -/
theorem Serves.waiting {idx accepted gap now : Nat} {old : List Call}
    (h : p.Serves idx accepted gap old now) (hearly : p.pd.taskState ≠ .srcTransition) :
    p.pd.taskState ∈ silentStates := by
  cases h with
  | waits htask _ _ _ _ _ =>
      rw [htask]
      decide
  | turns htask _ _ _ _ | settles htask _ _ _ _ _ =>
      rw [htask]
      decide
  | reports htask _ _ => exact absurd htask hearly

/-- The voltage transition ends with PS_RDY. -/
theorem sent_srcTransition (htx : p.pd.txStatus = .success) (inp : Input) (s : PdState) :
    (p.srcTransition.finish s inp).sent =
      p.sent ++ [wire (p.header CtrlMsgType.psRdy.toNat 0) []] := by
  have hsent : (p.sendControl .psRdy).1 = 1 := if_pos htx
  have hfinish : (p.srcTransition.finish s inp).sent = p.srcTransition.sent :=
    sentMsgs_of_does (does_finish _ s inp) (by decide)
  rw [hfinish]
  unfold srcTransition
  simp only
  rw [if_pos (hsent ▸ by decide)]
  unfold sent
  rw [setState_log _ (by decide)]
  rfl

end Port

end UsbPd
