import UsbPd.Effects.Basic

/-!
# Effects of received messages

A message negotiates when its handler stores capabilities, sends a Request or
asks for one; all other messages are handled without the effects of a
negotiation.
-/

namespace UsbPd

namespace Port

/-- The states in which `PD_DATA_SOURCE_CAP` is processed. -/
def takesCaps (p : Port) : Bool :=
  p.pd.taskState = .snkDiscovery ∨ p.pd.taskState = .snkTransition ∨ p.pd.taskState = .snkReady

/-- The state in which a Wait postpones the Request. -/
def takesWait (p : Port) : Bool :=
  p.pd.taskState = .snkRequested ∧ p.pd.flags.explicitContract

/-- The message has the effects of a negotiation. -/
def negotiates (p : Port) (m : PdMsg) : Bool :=
  p.pdIsConnected && ((m.isData .sourceCap && p.takesCaps) || (m.isCtrl .wait && p.takesWait))

end Port

namespace Effects

variable {R : Prop} {p q : Port}

/-! Data messages. -/

theorem handleSourceCap (h : Effects R p q) (hR : q.takesCaps = true → R) (payload : List Word) :
    Effects R p (q.handleSourceCap payload) := by
  unfold Port.handleSourceCap
  split
  · rename_i htask
    have hR' := hR (by simpa [Port.takesCaps] using htask)
    have hstart : Effects R p (q.setFlags { q.pd.flags with previousPdConn := true }) :=
      .assign h (by rfl)
    have hsent := (hstart.pdUpdatePdoFlags (firstObject payload)).pdProcessSourceCap hR' payload
    exact .negotiate (hsent.pdSendRequestMsg hR' true) hR' ⟨rfl, rfl, rfl⟩
  · exact h

theorem acceptRequest (h : Effects R p q) (rdo : Word) : Effects R p (q.acceptRequest rdo) := by
  unfold Port.acceptRequest
  simp only
  split_ifs
  · exact .sendControl h _
  · have hagreed : Effects R p ((q.sendControl .accept).2.record .contractAgreed) :=
      .call (.sendControl h _) rfl
    exact .setState (.assign hagreed (by rfl)) _

theorem handleRequestMsg (h : Effects R p q) (b : Board) (payload : List Word) :
    Effects R p (q.handleRequestMsg b payload) := by
  unfold Port.handleRequestMsg
  split_ifs
  · exact .acceptRequest h _
  · exact .setState (.sendControl h _) _

theorem handleBist (h : Effects R p q) (payload : List Word) :
    Effects R p (q.handleBist payload) := by
  unfold Port.handleBist
  split_ifs
  · exact .setState (.transmit h _ _ _ (by intro hsop; cases hsop)) _
  · exact h

theorem handleSinkCap (h : Effects R p q) (payload : List Word) :
    Effects R p (q.handleSinkCap payload) := by
  have hstart : Effects R p (q.setFlags { q.pd.flags with snkCapRecvd := true }) :=
    .assign h (by rfl)
  unfold Port.handleSinkCap
  simp only
  split_ifs
  · exact .setState (hstart.pdUpdatePdoFlags _) _
  · exact hstart.pdUpdatePdoFlags _

theorem handleDataRequest (h : Effects R p q) (b : Board) (now : Nat) (m : PdMsg)
    (hR : DataMsgType.ofField (headerType m.head) = some .sourceCap → q.takesCaps = true → R) :
    Effects R p (q.handleDataRequest b now m) := by
  unfold Port.handleDataRequest
  split
  · rename_i htype
    exact .handleSourceCap h (hR htype) _
  · exact .handleRequestMsg h b _
  · exact .handleBist h _
  · exact .handleSinkCap h _
  · exact .handleVdmRequest h now _
  · exact h

/-! Control messages. -/

theorem handleGetSourceCap (h : Effects R p q) (b : Board) :
    Effects R p (q.handleGetSourceCap b) := by
  unfold Port.handleGetSourceCap
  simp only
  split_ifs
  · exact .setState (.sendSourceCap h b) _
  · exact .sendSourceCap h b

theorem handlePsRdy (h : Effects R p q) : Effects R p q.handlePsRdy := by
  unfold Port.handlePsRdy
  split_ifs
  · exact .setState h _
  · exact .setState (.assign (.resetMsgId h) (by rfl)) _
  · exact .setState h _
  · exact h
  · exact .pdSetInputCurrentLimit (.setState h _) _ _
  · exact h

theorem handleRejectWait (h : Effects R p q) (now : Nat) (wait : Bool)
    (hR : wait = true → q.takesWait = true → R) : Effects R p (q.handleRejectWait now wait) := by
  unfold Port.handleRejectWait
  split_ifs with h₁ h₂ h₃ htask hcontract hwait
  · exact .setState h _
  · exact .setState h _
  · exact .setState h _
  · exact .negotiate h (hR hwait (by simp [Port.takesWait, htask, hcontract])) ⟨rfl, rfl, rfl⟩
  · exact .setState h _
  · exact .setState h _
  · exact h

theorem handleAccept (h : Effects R p q) : Effects R p q.handleAccept := by
  unfold Port.handleAccept
  split_ifs
  · exact .executeSoftReset (.assign h (by rfl))
  · exact .setState (.assign h (by rfl)) _
  · exact .setState (.assign (.call (c := .powerSwapAccepted) h rfl) (by rfl)) _
  · exact .setState (.assign (.call (c := .powerSwapAccepted) h rfl) (by rfl)) _
  · exact .setState (.assign (.call (c := .contractAgreed) h rfl) (by rfl)) _
  · exact h

theorem handleCtrlRequest (h : Effects R p q) (b : Board) (now : Nat) (m : PdMsg)
    (hR : CtrlMsgType.ofField (headerType m.head) = some .wait → q.takesWait = true → R) :
    Effects R p (q.handleCtrlRequest b now m) := by
  unfold Port.handleCtrlRequest
  split
  · exact h
  · exact h
  · exact .handleGetSourceCap h b
  · exact .sendSinkCap h b
  · exact h
  · exact .handlePsRdy h
  · exact .handleRejectWait h now false (by intro hwait; cases hwait)
  · rename_i htype
    exact .handleRejectWait h now true fun _ => hR htype
  · exact .handleAccept h
  · exact .sendControl (.executeSoftReset h) _
  · exact .sendControl h _
  · exact .sendControl h _
  · exact .sendControl h _
  · exact h

theorem handleRequest (h : Effects R p q) (b : Board) (now : Nat) (m : PdMsg)
    (hR : q.negotiates m = true → R) : Effects R p (q.handleRequest b now m) := by
  unfold Port.handleRequest
  split_ifs with hconn hcnt
  · refine .handleDataRequest h b now m fun htype hcaps => hR ?_
    simp [Port.negotiates, PdMsg.isData, hconn, hcnt, htype, hcaps]
  · rw [not_not] at hcnt
    refine .handleCtrlRequest h b now m fun htype hwait => hR ?_
    simp [Port.negotiates, PdMsg.isCtrl, hconn, hcnt, htype, hwait]
  · exact h

end Effects

end UsbPd
