import UsbPd.Conduct.Basic

/-!
# Conduct on received messages

A message carries at most seven objects, so the capabilities it brings fit the
table they are stored in.
-/

namespace UsbPd

theorem PdMsg.length_payload_le (m : PdMsg) : m.payload.length ≤ 7 := by
  have hcnt : headerCnt m.head < 8 := Nat.mod_lt _ (by decide)
  have hlen := m.length_payload
  omega

namespace Actions

variable {b : Board} {p q : Port}

/-! Data messages. -/

theorem handleSourceCap (h : Actions b p q) {payload : List Word} (hlen : payload.length ≤ 7) :
    Actions b p (q.handleSourceCap payload) := by
  unfold Port.handleSourceCap
  split_ifs with hs
  · have hflags : ∀ pdo, ((q.setFlags { q.pd.flags with
        previousPdConn := true }).pdUpdatePdoFlags pdo).pd.taskState = q.pd.taskState := by
      intro pdo
      unfold Port.pdUpdatePdoFlags
      split_ifs <;> rfl
    have hstart := h.setFlags { q.pd.flags with previousPdConn := true }
    have hstored := (hstart.pdUpdatePdoFlags (firstObject payload)).pdProcessSourceCap
      (by rw [hflags]; simpa [PdState.draws] using hs) hlen
    refine (hstored.pdSendRequestMsg ?_ true).tail (.offer _ hlen)
    change (Port.pdUpdatePdoFlags _ _).pd.taskState.enters .snkRequested = true
    rw [hflags]
    simpa [PdState.enters] using hs
  · exact h

theorem acceptRequest (h : Actions b p q) (rdo : Word) : Actions b p (q.acceptRequest rdo) := by
  have hsent : Actions b p (q.sendControl .accept).2 := h.sendControl (by decide)
  unfold Port.acceptRequest
  simp only
  split_ifs
  · exact hsent
  · exact hsent.tail (.conclude (.request _) (Port.data_setState _ rfl))

theorem handleRequestMsg (h : Actions b p q) (payload : List Word) :
    Actions b p (q.handleRequestMsg b payload) := by
  unfold Port.handleRequestMsg
  split_ifs
  · exact h.acceptRequest _
  · exact (h.sendControl (by decide)).setStateAny fun _ => rfl

theorem handleBist (h : Actions b p q) (payload : List Word) :
    Actions b p (q.handleBist payload) := by
  unfold Port.handleBist
  split_ifs
  · exact (h.tail (.signal q (by decide))).setState (Port.enters_dualRoleIfElse _ rfl rfl)
  · exact h

theorem handleSinkCap (h : Actions b p q) (payload : List Word) :
    Actions b p (q.handleSinkCap payload) := by
  have hflags := (h.setFlags { q.pd.flags with snkCapRecvd := true }).pdUpdatePdoFlags
    (firstObject payload)
  unfold Port.handleSinkCap
  simp only
  split_ifs
  · exact hflags.setStateAny fun _ => rfl
  · exact hflags

theorem handleDataRequest (h : Actions b p q) (now : Nat) (m : PdMsg) :
    Actions b p (q.handleDataRequest b now m) := by
  unfold Port.handleDataRequest
  split
  · exact h.handleSourceCap m.length_payload_le
  · exact h.handleRequestMsg _
  · exact h.handleBist _
  · exact h.handleSinkCap _
  · exact h.handleVdmRequest now _
  · exact h

/-! Control messages. -/

theorem handleGetSourceCap (h : Actions b p q) : Actions b p (q.handleGetSourceCap b) := by
  unfold Port.handleGetSourceCap
  simp only
  split_ifs with hs
  · refine h.sendSourceCap.setState ?_
    rw [hs.2]
    rfl
  · exact h.sendSourceCap

/-- The limit that a PS_RDY sets is the planned one. -/
theorem handlePsRdy (h : Actions b p q) : Actions b p q.handlePsRdy := by
  unfold Port.handlePsRdy
  split_ifs with hdisable hstandby hdiscovery
  · exact h.setState (by rw [hdisable]; rfl)
  · exact (Actions.assign h.resetMsgId (r := q.resetMsgId.setPowerRole .sink) rfl).pdUpdateRoles
      |>.setStateAny fun _ => rfl
  · exact h.setState (by rw [hdiscovery]; rfl)
  · exact h
  · have hready : Actions b p (q.setState .snkReady) := h.setStateAny fun _ => rfl
    exact hready.tail (.limit _ (.inr ⟨rfl, rfl⟩) (by rw [Port.setState_pd]; rfl))
  · exact h

theorem handleRejectWait (h : Actions b p q) (now : Nat) (wait : Bool) :
    Actions b p (q.handleRejectWait now wait) := by
  unfold Port.handleRejectWait
  split_ifs with hswap hsource hsink hrequested
  · exact h.setState (q.enters_dualRoleIfElse rfl rfl)
  · exact h.setStateAny fun _ => rfl
  · exact h.setStateAny fun _ => rfl
  · have hagain : Actions b p (q.modifyPd fun pd => { pd with
        newPowerRequest := true, prevRequestMv := 0 }) := h.assign rfl
    exact hagain.arm (by simp only [Port.modifyPd_pd, hrequested]; decide) (by decide)
  · exact h.setStateAny fun _ => rfl
  · exact h.setStateAny fun _ => rfl
  · exact h

theorem handleAccept (h : Actions b p q) : Actions b p q.handleAccept := by
  unfold Port.handleAccept
  split_ifs with hreset hswap hsource hsink hrequested
  · exact (h.setFlags _).executeSoftReset
  · exact h.pdDrSwap.setState (q.pdDrSwap.enters_dualRoleIfElse rfl rfl)
  · exact h.tail (.conclude (hsource ▸ .srcSwap) (Port.data_setState _ rfl))
  · exact h.tail (.conclude (hsink ▸ .snkSwap) (Port.data_setState _ rfl))
  · exact h.tail (.conclude (hrequested ▸ .accept) (Port.data_setState _ rfl))
  · exact h

theorem handleCtrlRequest (h : Actions b p q) (now : Nat) (m : PdMsg) :
    Actions b p (q.handleCtrlRequest b now m) := by
  unfold Port.handleCtrlRequest
  split
  · exact h
  · exact h
  · exact h.handleGetSourceCap
  · exact h.sendSinkCap
  · exact h
  · exact h.handlePsRdy
  · exact h.handleRejectWait now false
  · exact h.handleRejectWait now true
  · exact h.handleAccept
  · exact h.executeSoftReset.sendControl (by decide)
  · exact h.sendControl (by decide)
  · exact h.sendControl (by decide)
  · exact h.sendControl (by decide)
  · exact h

theorem handleRequest (h : Actions b p q) (now : Nat) (m : PdMsg) :
    Actions b p (q.handleRequest b now m) := by
  unfold Port.handleRequest
  split_ifs
  · exact h.handleDataRequest now m
  · exact h.handleCtrlRequest now m
  · exact h

end Actions

end UsbPd
