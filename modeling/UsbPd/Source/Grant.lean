import UsbPd.Link.Wire
import UsbPd.Sink.PsRdy
import UsbPd.Source.Transition

/-!
# What a source offers and grants

The Source_Capabilities that a port sends are its own table, as far as the count
field of the header reaches, and `requested_idx` is the position of the Request
that was accepted last.
-/

namespace UsbPd

/-- The part of the table that a header can announce. -/
def Board.advertised (b : Board) : List Word := b.srcPdo.take (b.srcPdo.length % 8)

namespace Port

variable {b : Board} {p q : Port}

/-- All capabilities sent are the advertised ones. -/
def Advertises (p : Port) (b : Board) : Prop :=
  ∀ m ∈ sentMsgs p.log, m.isData .sourceCap = true → m.payload = b.advertised

theorem wire_sourceCap (p : Port) (hid : p.pd.msgId < 8) (b : Board) :
    (wire (p.header DataMsgType.sourceCap.toNat b.srcPdo.length) b.srcPdo).payload =
      b.advertised := by
  have hcnt : headerCnt (p.header DataMsgType.sourceCap.toNat b.srcPdo.length) =
      b.srcPdo.length % 8 := by
    unfold header
    exact headerCnt_pdHeader_mod _ _ _ (DataMsgType.toNat_lt _) hid (by decide)
  rw [payload_wire, hcnt, List.take_append_of_le_length (Nat.mod_le _ _)]
  rfl

namespace Advertises

/-- A new entry that sends no capabilities. -/
theorem entry (h : p.Advertises b) {c : Call} (hlog : q.log = c :: p.log)
    (hc : ∀ m, c.sent = some m → m.isData .sourceCap = true → m.payload = b.advertised) :
    q.Advertises b := by
  intro m hm
  rw [hlog, sentMsgs] at hm
  rcases List.mem_append.1 hm with hold | hnew
  · exact h m hold
  · exact hc m (Option.mem_toList.1 hnew)

theorem of_does {W : List Part} {K : List CallKind} (h : p.Advertises b) (hq : Does W K p q)
    (hK : .caps ∉ K) : q.Advertises b := by
  refine hq.preserves (P := fun log => ∀ m ∈ sentMsgs log, m.isData .sourceCap = true →
    m.payload = b.advertised) (fun c log hc hlog m hm hcaps => ?_) h
  rcases List.mem_append.1 hm with hold | hnew
  · exact hlog m hold hcaps
  · have hkind := (Call.kind_of_sent (Option.mem_toList.1 hnew)).2 hcaps
    exact absurd (hkind ▸ hc) hK

theorem sendSourceCap (h : p.Advertises b) (hid : p.pd.msgId < 8) :
    (p.sendSourceCap b).2.Advertises b := by
  unfold Port.sendSourceCap
  split_ifs
  · exact h.of_does (p.does_sop (by decide) (by decide) 0 _) (by decide)
  · refine h.entry rfl fun m hm _ => ?_
    obtain rfl := Option.some.inj hm
    exact p.wire_sourceCap hid b

theorem handleGetSourceCap (h : p.Advertises b) (hid : p.pd.msgId < 8) :
    (p.handleGetSourceCap b).Advertises b := by
  have hsent := h.sendSourceCap hid
  unfold Port.handleGetSourceCap
  simp only
  split_ifs
  · exact hsent.of_does (does_setState _ _) (by decide)
  · exact hsent

theorem handleRequest (h : p.Advertises b) (hid : p.pd.msgId < 8) (now : Nat) (m : PdMsg) :
    (p.handleRequest b now m).Advertises b := by
  have hdoes := p.does_handleRequest b now m
  by_cases hcaps : CallKind.caps ∈ m.calls
  · have hm : headerCnt m.head = 0 ∧
        CtrlMsgType.ofField (headerType m.head) = some .getSourceCap := by
      unfold PdMsg.calls at hcaps
      split_ifs at hcaps with hcnt
      · cases htype : DataMsgType.ofField (headerType m.head) with
        | none => simp [htype, dataCalls] at hcaps
        | some type => cases type <;> simp [htype, dataCalls] at hcaps
      · refine ⟨not_not.1 hcnt, ?_⟩
        cases htype : CtrlMsgType.ofField (headerType m.head) with
        | none => simp [htype, ctrlCalls] at hcaps
        | some type => cases type <;> first | rfl | simp [htype, ctrlCalls] at hcaps
    unfold Port.handleRequest
    split
    · exact h
    · rw [if_neg (not_not.2 hm.1), handleCtrlRequest, hm.2]
      exact h.handleGetSourceCap hid
  · exact h.of_does hdoes hcaps

theorem srcDiscovery (h : p.Advertises b) (hid : p.pd.msgId < 8) (inp : Input) :
    (p.srcDiscovery b inp).Advertises b := by
  unfold Port.srcDiscovery
  simp only
  generalize hq : (if p.entering = true ∧ p.pd.flags.previousPdConn = true then
      p.setStateTimeout (inp.time .switch + pdTNoResponse)
        (if p.st.hardResetCount < pdHardResetCount then .hardResetSend else .srcDisconnected)
    else p) = q
  have harmed : q.Advertises b ∧ q.pd.msgId = p.pd.msgId := by
    rw [← hq]
    split_ifs <;> exact ⟨h, rfl⟩
  have hsent := harmed.1.sendSourceCap (harmed.2 ▸ hid)
  have hstate : ((q.sendSourceCap b).2.setState .srcNegociate).Advertises b :=
    hsent.of_does (does_setState _ _) (by decide)
  split_ifs
  · exact hstate
  · exact hsent
  · exact harmed.1

theorem srcReady (h : p.Advertises b) (hid : p.pd.msgId < 8) : (p.srcReady b).Advertises b := by
  have hsent := h.sendSourceCap hid
  have hstate : ((p.sendSourceCap b).2.setState .srcNegociate).Advertises b :=
    hsent.of_does (does_setState _ _) (by decide)
  unfold Port.srcReady
  split
  · exact h
  split
  · simp only
    split_ifs
    · exact hstate
    · exact hsent
  split
  · simp only
    generalize hq : (p.modifySt fun st =>
      { st with snkCapCount := toInt32 (st.snkCapCount + 1) }) = q
    have hcounted : q.Advertises b := by
      rw [← hq]
      exact h
    have hasked : (q.sendControl .getSinkCap).2.Advertises b :=
      hcounted.of_does (q.does_sendControl (by decide)) (by decide)
    exact hasked.of_does (does_setState _ _) (by decide)
  · simp only
    generalize hq : (if p.pd.flags.snkCapRecvd = true then p
      else p.modifySt fun st => { st with snkCapCount := toInt32 (st.snkCapCount + 1) }) = q
    have hcounted : q.Advertises b := by
      rw [← hq]
      split_ifs <;> exact h
    cases hchecks : q.readyChecks with
    | none => exact hcounted.of_does q.does_srcPing (by decide)
    | some r => exact hcounted.of_does (q.does_readyChecks hchecks) (by decide)

theorem runState (h : p.Advertises b) (hid : p.pd.msgId < 8) (inp : Input) :
    (p.runState b inp).Advertises b := by
  by_cases hcaps : CallKind.caps ∈ stateCalls p.pd.taskState
  · have htask : p.pd.taskState = .srcDiscovery ∨ p.pd.taskState = .srcReady := by
      revert hcaps
      generalize p.pd.taskState = s
      cases s <;> decide
    rcases htask with htask | htask
    · rw [Port.runState, htask]
      exact h.srcDiscovery hid inp
    · rw [Port.runState, htask]
      exact h.srcReady hid
  · exact h.of_does (p.does_runState b inp) hcaps

theorem receive (h : p.Advertises b) (hid : p.pd.msgId < 8) (inp : Input) :
    (p.receive b inp).Advertises b := by
  unfold Port.receive
  split
  · exact h
  · rename_i m _
    have hreceived : (p.record (.received m)).Advertises b :=
      h.of_does (p.does_record (.received m)) (by simp [Call.kind])
    exact hreceived.handleRequest hid _ m

end Advertises

end Port

namespace Linked

variable {p q : Port}

theorem msgId_lt (h : Linked p) : p.pd.msgId < 8 := h.msgId ▸ nextId_lt p.log

theorem effects {R : Prop} (h : Linked p) (hq : Effects R p q) : Linked q := by
  have heffect : ∀ r s, Effect R r s → Linked r → Linked s := fun _ _ hs => effect hs
  exact Machine.chain_preserves heffect hq h

theorem receive (h : Linked p) (b : Board) (inp : Input) : Linked (p.receive b inp) := by
  unfold Port.receive
  split
  · exact h
  · rename_i m _
    exact (h.received m).effects (R := True) (.handleRequest .refl b _ m fun _ => trivial)

theorem step (h : Linked p) (b : Board) (e : Event) : Linked (p.step b e) :=
  Port.step_preserves (fun _ _ heffect h => effect heffect h) (fun _ m h => h.received m)
    (fun _ irq h => h.alert irq) b p e h

end Linked

namespace Port

variable {b : Board} {p q : Port}

theorem Advertises.step (h : p.Advertises b) (hlink : Linked p) (e : Event) :
    (p.step b e).Advertises b := by
  cases e with
  | iterate inp =>
      have hlink' : Linked (p.beforeMessage inp) :=
        hlink.effects (R := True) (.beforeMessage .refl inp)
      have hheard : ((p.beforeMessage inp).receive b inp).Advertises b :=
        (h.of_does (p.does_beforeMessage inp) (by decide)).receive hlink'.msgId_lt inp
      have hlinked : Linked (p.beforeSwitch b inp) :=
        (hlink'.receive b inp).effects (R := True) (.applySuspend .refl)
      have hbefore : (p.beforeSwitch b inp).Advertises b :=
        hheard.of_does (does_applySuspend _) (by decide)
      exact (hbefore.runState hlinked.msgId_lt inp).of_does (does_finish _ _ inp) (by decide)
  | _ => exact h.of_does (p.does_call b rfl) (by simp [Event.calls])

theorem advertises_setup (b : Board) : setup.Advertises b := by
  have hnone : sentMsgs setup.log = [] := by decide
  intro m hm
  rw [hnone] at hm
  cases hm

/-! The Request that is accepted. -/

/-- The Request is accepted and the Accept goes out. -/
def accepts (b : Board) (p : Port) (m : PdMsg) : Bool :=
  p.pdIsConnected && p.grants b m && p.pd.txStatus == .success

theorem requestedIdx_acceptRequest (p : Port) (rdo : Word) :
    (p.acceptRequest rdo).pd.requestedIdx =
      if p.pd.txStatus = .success then rdoPos rdo else p.pd.requestedIdx := by
  have hsent : (p.sendControl .accept).1 < 0 ↔ p.pd.txStatus ≠ .success := by
    rw [sendControl_neg]
    simp [control]
  unfold acceptRequest
  simp only
  by_cases htx : p.pd.txStatus = .success
  · rw [if_neg fun hneg => hsent.1 hneg htx, if_pos htx]
    simp
  · rw [if_pos (hsent.2 htx), if_neg htx]
    rfl

/-- A message stores the position of a Request that it gets accepted. -/
theorem requestedIdx_handleRequest (b : Board) (p : Port) (now : Nat) (m : PdMsg) :
    (p.handleRequest b now m).pd.requestedIdx =
      if p.accepts b m then rdoPos (firstObject m.payload) else p.pd.requestedIdx := by
  by_cases hrequest : m.isData .request = true
  · rw [handleRequest_request b p now hrequest]
    by_cases hconn : p.pdIsConnected = true
    · rw [if_pos hconn, handleRequestMsg]
      have hgrants : p.grants b m = true ↔ p.pd.powerRole = .source ∧ m.payload.length = 1 ∧
          pdCheckRequestedVoltage b (firstObject m.payload) = .success := by
        simp [grants, PdMsg.acceptable, hrequest]
      by_cases hgrant : p.grants b m = true
      · rw [if_pos (hgrants.1 hgrant), requestedIdx_acceptRequest]
        simp [accepts, hconn, hgrant]
      · rw [if_neg fun h => hgrant (hgrants.2 h)]
        simp [accepts, hgrant]
    · simp [accepts, hconn]
  · have hidx : .requestedIdx ∉ m.writes := by
      unfold PdMsg.writes
      split_ifs with hcnt
      · cases htype : DataMsgType.ofField (headerType m.head) with
        | none => decide
        | some type =>
            cases type with
            | request => exact absurd (by simp [PdMsg.isData, hcnt, htype]) hrequest
            | _ => decide
      · cases CtrlMsgType.ofField (headerType m.head) with
        | none => decide
        | some type => cases type <;> decide
    have hkept : (p.handleRequest b now m).pd.requestedIdx = p.pd.requestedIdx :=
      (p.does_handleRequest b now m).keeps .requestedIdx hidx
    rw [hkept]
    simp [accepts, grants, hrequest]

/-- The position that a step stores. -/
theorem requestedIdx_step (b : Board) (p : Port) (e : Event) :
    (p.step b e).pd.requestedIdx =
      match e.received with
      | some r => if (p.dispatching r.1 r.2).accepts b r.2 then rdoPos (firstObject r.2.payload)
          else p.pd.requestedIdx
      | none => p.pd.requestedIdx := by
  have hkept : ∀ {W K} {q r : Port}, Does W K q r → .requestedIdx ∉ W →
      r.pd.requestedIdx = q.pd.requestedIdx := fun h hW => h.keeps .requestedIdx hW
  cases e with
  | iterate inp =>
      have hbefore := hkept (p.does_beforeMessage inp) (by decide)
      have htail : (p.step b (.iterate inp)).pd.requestedIdx =
          ((p.beforeMessage inp).receive b inp).pd.requestedIdx := by
        have hstate : ∀ s, .requestedIdx ∉ stateWrites s := by
          intro s
          cases s <;> decide
        change (((p.beforeSwitch b inp).runState b inp).finish _ inp).pd.requestedIdx = _
        rw [hkept (does_finish _ _ inp) (by decide), hkept (does_runState _ b inp) (hstate _)]
        exact hkept (does_applySuspend _) (by decide)
      rw [htail, receive, Event.received]
      cases inp.message with
      | none => exact hbefore
      | some m =>
          change ((p.dispatching inp m).handleRequest b _ m).pd.requestedIdx = _
          rw [requestedIdx_handleRequest]
          change (if _ then _ else (p.beforeMessage inp).pd.requestedIdx) = _
          rw [hbefore]
          rfl
  | _ => exact hkept (p.does_call b rfl) (by simp [Event.writes])

end Port

end UsbPd
