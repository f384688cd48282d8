import UsbPd.Link.Retransmission
import UsbPd.Sink.Progress

/-!
# Messages that make a difference

A message that leaves the data of the port as they are is one that the port ignores. So a
retransmission is harmless where it is ignored, and where it is not its handler stores something
once more.
-/

namespace UsbPd

namespace Port

variable {b : Board} {p q : Port} {m : PdMsg} {inp : Input} {s : PdState}

/-- A state that is entered without any change was at rest. -/
theorem restsIn_of_alike (h : Alike p (q.setState s)) : p.restsIn s = true := by
  have hpd := h.pd
  rw [setState_pd] at hpd
  exact decide_eq_true ⟨congrArg PdProtocol.taskState hpd.symm,
    congrArg PdProtocol.timeout hpd.symm, congrArg PdProtocol.timeoutState hpd.symm⟩

/-- A state is not left without any change. -/
theorem task_of_alike (h : Alike p (q.setState s)) : p.pd.taskState = s :=
  (of_decide_eq_true (restsIn_of_alike h)).1

theorem not_alike_setState {s' : PdState} (htask : p.pd.taskState = s') (hne : s' ≠ s) :
    ¬ Alike p (q.setState s) :=
  fun h => hne (htask.symm.trans (task_of_alike h))

/-- Neither discovery nor READY is one of the states that leave for them. -/
theorem not_alike_dualRole {s' sink source : PdState} (htask : p.pd.taskState = s')
    (hne : s' ≠ sink ∧ s' ≠ source) : ¬ Alike p (q.setState (p.dualRoleIfElse sink source)) := by
  refine not_alike_setState htask ?_
  unfold dualRoleIfElse
  cases p.pd.powerRole with
  | sink => exact hne.1
  | source => exact hne.2

/-! Data messages. -/

theorem offered_knows (p : Port) (payload : List Word) : ∃ flags,
    (p.offered payload).pd = { p.pd with flags := flags } ∧ flags.previousPdConn = true ∧
      (p.setFlags flags).knowsPartner (firstObject payload) = true := by
  unfold offered pdUpdatePdoFlags
  split_ifs with hfixed
  · exact ⟨_, rfl, rfl, decide_eq_true (.inl hfixed)⟩
  · exact ⟨_, rfl, rfl, decide_eq_true (.inr ⟨rfl, rfl, rfl, rfl⟩)⟩

theorem keepsCaps_of_alike {payload : List Word} (htakes : p.takesCaps = true)
    (h : Alike p (p.handleSourceCap payload)) : p.keepsCaps payload = true := by
  have hhandled : p.handleSourceCap payload =
      ((p.offered payload).pdSendRequestMsg true).2.pdProcessSourceCapCallback payload.length :=
    if_pos (of_decide_eq_true htakes)
  rw [hhandled] at h
  obtain ⟨flags, hoffered, hconn, hknows⟩ := p.offered_knows payload
  have hstored : (p.offered payload).st = { p.st with
      srcCapCnt := payload.length
      srcCaps := payload ++ p.st.srcCaps.drop payload.length } := by
    unfold offered pdUpdatePdoFlags
    split_ifs <;> rfl
  generalize p.offered payload = r at h hoffered hstored
  have hstatus : r.pd.txStatus = p.pd.txStatus := by rw [hoffered]
  have hst : { (r.pdSendRequestMsg true).2.st with
      sourceCapMaxIndex := payload.length - 1 } = p.st := h.st
  have hpd : (r.pdSendRequestMsg true).2.pd = p.pd := h.pd
  have htx : r.pd.txStatus ≠ .success := fun htx => by
    rw [pdSendRequestMsg_pd htx] at hpd
    have htask : PdState.snkRequested = p.pd.taskState := congrArg PdProtocol.taskState hpd
    simp [takesCaps, ← htask] at htakes
  obtain ⟨hfailed, hkept, -⟩ := pdSendRequestMsg_fails htx
  rw [hfailed, hoffered] at hpd
  rw [hkept, hstored] at hst
  have hflags : flags = p.pd.flags := congrArg PdProtocol.flags hpd
  have hcnt : payload.length = p.st.srcCapCnt := congrArg Statics.srcCapCnt hst
  have hcaps : payload ++ p.st.srcCaps.drop payload.length = p.st.srcCaps :=
    congrArg Statics.srcCaps hst
  have hmax : payload.length - 1 = p.st.sourceCapMaxIndex := congrArg Statics.sourceCapMaxIndex hst
  have hselected : r.st.srcCap r.st.sourceCapCurrentIndex =
      p.st.srcCap p.st.sourceCapCurrentIndex := by
    unfold Statics.srcCap
    rw [hstored]
    simp only [hcaps]
  rw [hselected] at hpd
  refine decide_eq_true ⟨hstatus ▸ htx, ?_, ?_, ?_, hcaps, hcnt.symm, hmax.symm, ?_, ?_⟩
  · exact (congrArg PdProtocol.newPowerRequest hpd).symm
  · exact hflags ▸ hconn
  · rw [hflags] at hknows
    exact hknows
  · exact (Prod.ext (congrArg PdProtocol.currLimit hpd)
      (congrArg PdProtocol.supplyVoltage hpd)).symm
  · exact (congrArg PdProtocol.prevRequestMv hpd).symm.trans (congrArg PdProtocol.supplyVoltage hpd)

theorem reactsToRequest_of_alike (h : Alike p (p.handleRequestMsg b m.payload)) :
    p.reactsToData b m (some .request) = false := by
  rw [handleRequestMsg_eq] at h
  simp only [reactsToData]
  split_ifs at h ⊢ with hcase
  · by_cases htx : p.pd.txStatus = .success
    · rw [acceptRequest_sent htx] at h
      have hrest := restsIn_of_alike h
      have hpd := h.pd
      rw [setState_pd] at hpd
      have hcontract : p.pd.flags.explicitContract = true :=
        (congrArg (fun pd => pd.flags.explicitContract) hpd).symm
      have hidx : p.pd.requestedIdx = rdoPos (firstObject m.payload) :=
        (congrArg PdProtocol.requestedIdx hpd).symm
      simp [htx, hrest, hcontract, hidx]
    · simp [htx]
  · simp [task_of_alike h]

theorem reactsToData_of_alike (now : Nat) (h : Alike p (p.handleDataRequest b now m)) :
    p.reactsToData b m (DataMsgType.ofField (headerType m.head)) = false := by
  unfold handleDataRequest at h
  cases htype : DataMsgType.ofField (headerType m.head) with
  | none => rfl
  | some type =>
      rw [htype] at h
      cases type with
      | sourceCap =>
          by_cases htakes : p.takesCaps = true
          · simp [reactsToData, keepsCaps_of_alike htakes h]
          · simp [reactsToData, htakes]
      | request => exact reactsToRequest_of_alike h
      | bist =>
          simp only [reactsToData, decide_eq_false_iff_not]
          intro hbist
          simp only [handleBist] at h
          rw [if_pos hbist] at h
          have htask := task_of_alike h
          have hready := hbist.1
          rw [htask] at hready
          revert hready
          unfold readyReturnState dualRoleIfElse
          generalize (p.pdTransmit .bistMode2 0 []).2.pd.powerRole = role
          cases role <;> cases p.pd.powerRole <;> exact PdState.noConfusion
      | sinkCap => rfl
      | vendorDef =>
          simp only [reactsToData, decide_eq_false_iff_not]
          intro hbusy
          have hstate := congrArg PdProtocol.vdmState h.pd
          simp only [handleVdmRequest, hbusy, pdSvdm, pdCustomVdm, ite_self] at hstate
          revert hstate
          split_ifs <;> simp

/-! Control messages. -/

theorem takesPsRdy_of_alike (h : Alike p p.handlePsRdy) : p.takesPsRdy = false := by
  refine decide_eq_false fun htakes => ?_
  unfold handlePsRdy at h
  split_ifs at h with hdisable hswap hdiscovery hstandby hsink
  · exact not_alike_setState hdisable (by decide) h
  · exact not_alike_setState hswap (by decide) h
  · exact not_alike_setState hdiscovery (by decide) h
  · simp [hstandby] at htakes
  · have hstays : p.pd.taskState = .snkReady := by
      have hpd : (p.setState .snkReady).pd = p.pd := h.pd
      rw [setState_pd] at hpd
      exact (congrArg PdProtocol.taskState hpd).symm
    simp [hstays] at htakes
  · simp [hdisable, hswap, hdiscovery, hsink] at htakes

/-- A Reject is taken, and so is a Wait, unless it postpones the Request. -/
theorem awaitsAnswer_of_alike {now : Nat} {wait : Bool} (h : Alike p (p.handleRejectWait now wait))
    (hpostpones : ¬(wait = true ∧ p.takesWait = true)) : p.awaitsAnswer = false := by
  refine decide_eq_false fun hawaits => ?_
  unfold handleRejectWait at h
  split_ifs at h with hswap hsource hsink hrequested hcontract hwait
  · exact not_alike_dualRole hswap (by decide) h
  · exact not_alike_setState hsource (by decide) h
  · exact not_alike_setState hsink (by decide) h
  · exact hpostpones ⟨hwait, decide_eq_true ⟨hrequested, hcontract⟩⟩
  · exact not_alike_setState hrequested (by decide) h
  · exact not_alike_setState hrequested (by decide) h
  · simp [hswap, hsource, hsink, hrequested] at hawaits

/-- An answer that postpones the Request to the same time. -/
theorem waitsOn_of_alike (htakes : p.takesWait = true)
    (h : Alike p (p.postpone (inp.time .message))) : p.waitsOn inp = true := by
  have hpd : (p.postpone (inp.time .message)).pd = p.pd := h.pd
  have htimer : inp.time .message + pdTSinkRequest = p.pd.timeout :=
    congrArg PdProtocol.timeout hpd
  have hstate : PdState.snkReady = p.pd.timeoutState := congrArg PdProtocol.timeoutState hpd
  have hset : p.pd.timeout ≠ 0 := by
    rw [← htimer]
    exact Nat.ne_of_gt (Nat.add_pos_right _ (by decide))
  refine decide_eq_true ⟨htakes, .inr ⟨hstate.symm, hset, ?_⟩⟩
  rw [htimer]

theorem accept_of_alike (h : Alike p p.handleAccept) :
    p.awaitsAnswer = false ∧ p.pd.taskState ≠ .softReset := by
  unfold handleAccept at h
  split_ifs at h with hsoft hswap hsource hsink hrequested
  · exact absurd h (not_alike_dualRole (q := (p.setFlags _).resetMsgId) hsoft (by decide))
  · exact absurd h (not_alike_dualRole hswap (by decide))
  · exact absurd h (not_alike_setState hsource (by decide))
  · exact absurd h (not_alike_setState hsink (by decide))
  · exact absurd h (not_alike_setState hrequested (by decide))
  · exact ⟨decide_eq_false (by simp [hswap, hsource, hsink, hrequested]), hsoft⟩

theorem softReset_of_alike (h : Alike p p.handleSoftReset) :
    p.restsIn (p.dualRoleIfElse .snkDiscovery .srcDiscovery) = true ∧ p.pd.msgId = 0 := by
  have hsent : Alike p.executeSoftReset p.handleSoftReset := .transmitted _ _ _ _
  have hreset : Alike p p.executeSoftReset := ⟨h.pd, h.st, h.chip.trans hsent.chip.symm⟩
  have hpd := hreset.pd
  unfold executeSoftReset at hpd
  simp only at hpd
  rw [setState_pd] at hpd
  exact ⟨restsIn_of_alike hreset, (congrArg PdProtocol.msgId hpd).symm⟩

theorem reactsToCtrl_of_alike (now : Nat) (h : Alike p (p.handleCtrlRequest b now m))
    (hpostpones : ¬(m.isCtrl .wait = true ∧ p.takesWait = true)) (hcnt : headerCnt m.head = 0) :
    p.reactsToCtrl (CtrlMsgType.ofField (headerType m.head)) = false := by
  unfold handleCtrlRequest at h
  cases htype : CtrlMsgType.ofField (headerType m.head) with
  | none => rfl
  | some type =>
      rw [htype] at h
      cases type with
      | getSourceCap =>
          simp only [reactsToCtrl, decide_eq_false_iff_not]
          rintro ⟨htask, htx⟩
          have hoffers : 0 ≤ (p.sendSourceCap b).1 ∧
              (p.sendSourceCap b).2.pd.taskState = .srcDiscovery := by
            rw [sendSourceCap_nonneg, sendSourceCap_pd]
            exact ⟨by simpa [control] using htx, htask⟩
          simp only [handleGetSourceCap] at h
          rw [if_pos hoffers] at h
          exact not_alike_setState htask (by decide) h
      | psRdy => exact takesPsRdy_of_alike h
      | reject => exact awaitsAnswer_of_alike h fun hwait => by cases hwait.1
      | wait =>
          have hwait : m.isCtrl .wait = true := by simp [PdMsg.isCtrl, hcnt, htype]
          exact awaitsAnswer_of_alike h fun htakes => hpostpones ⟨hwait, htakes.2⟩
      | accept =>
          obtain ⟨hawaits, hsoft⟩ := accept_of_alike h
          simp [reactsToCtrl, hawaits, hsoft]
      | softReset =>
          obtain ⟨hrest, hid⟩ := softReset_of_alike h
          simp [reactsToCtrl, hrest, hid]
      | goodCrc | ping | getSinkCap | gotoMin | prSwap | drSwap | vconnSwap => rfl

/-- A message that changes nothing in a connected port is one that the port ignores. -/
theorem ignores_of_alike (h : Alike p (p.handleRequest b (inp.time .message) m)) :
    p.ignores b inp m = true := by
  unfold ignores
  by_cases hpostpones : m.isCtrl .wait = true ∧ p.takesWait = true
  · obtain ⟨hwait, htakes⟩ := hpostpones
    rw [handleRequest_wait_takes b _ hwait htakes] at h
    simp [hwait, waitsOn_of_alike htakes h]
  · have hignores : p.reacts b m = false := by
      unfold reacts
      unfold handleRequest at h
      by_cases hconn : p.pdIsConnected = true
      · rw [if_neg (not_not.2 hconn)] at h
        by_cases hcnt : headerCnt m.head ≠ 0
        · rw [if_pos hcnt] at h ⊢
          simp [reactsToData_of_alike _ h]
        · rw [if_neg hcnt] at h ⊢
          simp [reactsToCtrl_of_alike _ h hpostpones (not_not.1 hcnt)]
      · simp [hconn]
    simp [hignores]

/-! The second delivery. -/

/-- A retransmission that the port ignores changes nothing of the standing, and one that it does
not ignore changes what the port stores. -/
theorem standing_redelivered (b : Board) (es : List Event) (inp₁ inp₂ : Input) (m : PdMsg)
    (hconn : (after b es).pdIsConnected = true) (h₁ : inp₁.message = some m)
    (h₂ : inp₂.message = some m) :
    let p := (after b (es ++ [.iterate inp₁])).beforeMessage inp₂
    (p.ignores b inp₂ m = true →
      (after b (es ++ [.iterate inp₁, .iterate inp₂])).standing =
        (after b (es ++ [.iterate inp₁, .iterate { inp₂ with message := none }])).standing) ∧
    (p.ignores b inp₂ m = false → ¬ Alike p (p.receive b inp₂)) := by
  intro p
  refine ⟨standing_of_ignores b es inp₁ inp₂ m hconn h₁ h₂, fun hreacts hsame => ?_⟩
  have hhandled : p.receive b inp₂ =
      (p.record (.received m)).handleRequest b (inp₂.time .message) m := by
    unfold receive
    rw [h₂]
  rw [hhandled] at hsame
  have hrecorded : Alike (p.record (.received m))
      ((p.record (.received m)).handleRequest b (inp₂.time .message) m) :=
    ⟨hsame.pd, hsame.st, hsame.chip⟩
  have hignores : p.ignores b inp₂ m = true :=
    ignores_of_alike (p := p.record (.received m)) hrecorded
  rw [hignores] at hreacts
  cases hreacts

/-- An iteration at the time `now` that receives `m`. -/
def delivery (now : Nat) (cc : CcReading) (m : PdMsg) : Input where
  reset := false
  message := some m
  cc := cc
  ccTail := cc
  time := fun _ => now

/-- A sink whose Request has been accepted. -/
def acceptedAsSink : List Event :=
  attachAsSink ++
    [iterateAt 200000 rpOnCc1 (some (dataMsg .sourceCap [fiveVolts] one_object_lt)),
      iterateAt 210000 rpOnCc1 (some (ctrlMsg .accept))]

/-- A PS_RDY that comes twice. -/
theorem standing_redelivered_psRdy :
    (after .shipped (acceptedAsSink ++ [.iterate (delivery 220000 rpOnCc1 (ctrlMsg .psRdy)),
        .iterate (delivery 221000 rpOnCc1 (ctrlMsg .psRdy))])).standing =
      (after .shipped (acceptedAsSink ++ [.iterate (delivery 220000 rpOnCc1 (ctrlMsg .psRdy)),
        .iterate { delivery 221000 rpOnCc1 (ctrlMsg .psRdy) with message := none }])).standing :=
  (standing_redelivered .shipped acceptedAsSink _ _ (ctrlMsg .psRdy) (by decide +kernel) rfl
    rfl).1 (by decide +kernel)

/-- A source that has sent its capabilities. -/
def offeredAsSource : List Event :=
  attachAsSource ++
    [iterateAt 200000 rdOnCc1 none, iterateAt 210000 rdOnCc1 none, iterateAt 220000 rdOnCc1 none]

/-- A Request for the first capability. -/
def firstRequest : PdMsg := dataMsg .request [rdoFixed 1 500 500 0] one_object_lt

/-- A Request that comes twice stops the timer of `PD_STATE_SRC_ACCEPTED`. -/
theorem not_standing_redelivered :
    ¬ ∀ (b : Board) (es : List Event) (inp₁ inp₂ : Input) (m : PdMsg),
      (after b es).pdIsConnected = true → inp₁.message = some m → inp₂.message = some m →
        (after b (es ++ [.iterate inp₁, .iterate inp₂])).standing =
          (after b (es ++ [.iterate inp₁, .iterate { inp₂ with message := none }])).standing := by
  intro h
  have hsame := h .shipped offeredAsSource (delivery 230000 rdOnCc1 firstRequest)
    (delivery 231000 rdOnCc1 firstRequest) firstRequest (by decide +kernel) rfl rfl
  have harmed := congrArg Standing.armed hsame
  revert harmed
  decide +kernel

end Port

end UsbPd
