import UsbPd.Control.Rules
import UsbPd.Sink.Offers

/-!
# Requests

The index of the selected capability belongs to the sketch and is checked
against the number of capabilities when the button is pressed only. A Request
names a PDO that is on offer as long as new capabilities reach beyond the index
and the stored ones are the last that were received.
-/

namespace UsbPd

namespace Selection

/-- The capabilities that the table holds of the last processed message. -/
def stored (s : Selection) : List Word := s.srcCaps.take s.srcCapCnt

/-- The selected entry of the table. -/
def selected (s : Selection) : Word := s.srcCaps.getD s.sourceCapCurrentIndex 0

/-- The request for the selected capability. -/
def request (s : Selection) : PowerRequest := requestObject s.sourceCapCurrentIndex s.selected

/-- Index, bound and table are in step. -/
structure Settled (s : Selection) : Prop where
  index_le : s.sourceCapCurrentIndex ≤ s.sourceCapMaxIndex
  max_eq : s.sourceCapMaxIndex = s.srcCapCnt - 1
  cnt_le : s.srcCapCnt ≤ 7
  length_eq : s.srcCaps.length = 7
  empty : s.srcCapCnt = 0 → s.srcCaps.getD 0 0 = 0 ∧ s.prevRequestMv = 0

/-- A Request that may be sent from `PD_STATE_SNK_READY` is one for the
capabilities `caps`. -/
def Serves (s : Selection) (caps : List Word) : Prop :=
  s.newPowerRequest = true → s.request.supplyVoltage ≠ s.prevRequestMv → s.stored = caps

end Selection

namespace Port

/-- The message puts a connected port into `PD_STATE_SNK_READY`. -/
def readies (p : Port) (m : PdMsg) : Bool :=
  (m.isCtrl .psRdy ∧ p.pd.powerRole = .sink) ∨
    (m.isCtrl .reject ∧ (p.pd.taskState = .snkRequested ∨ p.pd.taskState = .snkSwapInit ∨
      p.pd.taskState = .drSwap)) ∨
    (m.isCtrl .wait ∧ (p.pd.taskState = .snkSwapInit ∨ p.pd.taskState = .drSwap)) ∨
    (m.isCtrl .accept ∧ p.pd.taskState = .drSwap)

/-- The iteration finds the port in `PD_STATE_SNK_READY` after its message. -/
def findsReady (p : Port) (inp : Input) : Bool :=
  (p.applyReset inp.reset).pd.taskState = .snkReady ∨
    ((p.applyReset inp.reset).pdIsConnected ∧ inp.message.any (p.applyReset inp.reset).readies)

/-- The capabilities that the iteration processes. -/
def newCaps (p : Port) (inp : Input) : Option (List Word) :=
  match inp.message with
  | none => none
  | some m => if m.isData .sourceCap ∧ (p.applyReset inp.reset).takesCaps then some m.payload
      else none

/-- New capabilities reach beyond the selected index, and a pending power
request finds the capabilities received last in the table. -/
def asksOffered (p : Port) : Event → Bool
  | .iterate inp => match p.newCaps inp with
    | some payload => p.st.sourceCapCurrentIndex < payload.length
    | none => !(p.findsReady inp && p.pd.newPowerRequest &&
        p.selection.request.supplyVoltage != p.pd.prevRequestMv) ||
        p.selection.stored == latestCaps p.log
  | _ => true

/-! The transmission of a Request. -/

/-- The port with the selected capability requested. -/
def requested (p : Port) : Port :=
  ((p.clearNewPowerRequest.setRequestedPower p.selection.request.currLimit
    p.selection.request.supplyVoltage).sendRequest p.selection.request.rdo).2

/-- A Request goes out unless its voltage need not be requested again. -/
theorem pdSendRequestMsg_requested (p : Port) (hid : p.pd.msgId < 8) (always : Bool) :
    (p.pdSendRequestMsg always).2 = p.clearNewPowerRequest ∧ always = false ∧
      p.selection.request.supplyVoltage = p.pd.prevRequestMv ∨
    KeepsRequests p.requested (p.pdSendRequestMsg always).2 ∧
      (always = true ∨ p.selection.request.supplyVoltage ≠ p.pd.prevRequestMv) := by
  have hrefl : KeepsRequests p.requested p.requested := .refl hid
  rw [pdSendRequestMsg_eq]
  change (p.clearNewPowerRequest.sendBuiltRequest always p.selection.request).2 = _ ∧ _ ∨
    KeepsRequests _ (p.clearNewPowerRequest.sendBuiltRequest always p.selection.request).2 ∧ _
  unfold sendBuiltRequest
  by_cases hskip : always = false ∧
      p.clearNewPowerRequest.pd.prevRequestMv = p.selection.request.supplyVoltage
  · rw [if_pos hskip]
    exact .inl ⟨rfl, hskip.1, hskip.2.symm⟩
  · rw [if_neg hskip]
    refine .inr ⟨?_, ?_⟩
    · simp only
      split_ifs
      · exact hrefl
      · exact hrefl.effects (.setState .refl _)
    · cases always with
      | true => exact .inl rfl
      | false => exact .inr fun hv => hskip ⟨rfl, hv.symm⟩

/-- The Request for an offered capability. -/
theorem requestsOffered_requested {p : Port} (h : Machine.Each NamesOffered p.log)
    (hid : p.pd.msgId < 8) (hoffered : p.st.sourceCapCurrentIndex < (latestCaps p.log).length)
    (hselected : p.selection.selected = (latestCaps p.log).getD p.st.sourceCapCurrentIndex 0) :
    p.requested.RequestsOffered := by
  have hpos : rdoPos p.selection.request.rdo = p.st.sourceCapCurrentIndex + 1 :=
    rdoPos_requestObject (Nat.lt_of_lt_of_le hoffered (length_latestCaps_le p.log)) _
  have hnamed : namedPdo (latestCaps p.log) p.selection.request.rdo = p.selection.selected := by
    rw [namedPdo, hpos, hselected]
    rfl
  have hrequest : ∀ res, (Call.transmit .sop (p.header DataMsgType.request.toNat 1)
      [p.selection.request.rdo] res).request = some p.selection.request.rdo := by
    intro res
    change (if isRequest _ then _ else _) = _
    rw [isRequest_header p hid (by decide) (by decide)]
    rfl
  constructor
  · change NamesOffered (.transmit .sop (p.header DataMsgType.request.toNat 1)
      [p.selection.request.rdo] _) p.log ∧ Machine.Each NamesOffered p.log
    refine ⟨?_, h⟩
    rw [NamesOffered, hrequest]
    simp only [hpos, hnamed]
    exact ⟨by omega, by omega, rfl⟩
  · intro r hr
    change lastRequest (.transmit .sop (p.header DataMsgType.request.toNat 1)
      [p.selection.request.rdo] _ :: p.log) = some r at hr
    rw [lastRequest, hrequest] at hr
    obtain rfl := Option.some.inj hr
    simp only [hnamed]
    rfl

/-- The port is in step with its offers. -/
structure Offers (p : Port) : Prop where
  settled : p.selection.Settled
  requests : p.RequestsOffered
  msgId_lt : p.pd.msgId < 8

namespace Offers

variable {p q : Port}

theorem keeps (h : Offers p) (hq : KeepsRequests p q) : Offers q where
  settled := by
    rw [hq.selection]
    exact h.settled
  requests := hq.requestsOffered h.requests
  msgId_lt := hq.msgId_lt

theorem effects (h : Offers p) (hq : Effects False p q) : Offers q :=
  h.keeps ((KeepsRequests.refl h.msgId_lt).effects hq)

theorem received (h : Offers p) (m : PdMsg) : Offers (p.record (.received m)) where
  settled := h.settled
  requests := ⟨⟨trivial, h.requests.named⟩, h.requests.planned⟩
  msgId_lt := h.msgId_lt

theorem setNewPowerRequest (h : Offers p) :
    Offers (p.modifyPd fun pd => { pd with newPowerRequest := true }) where
  settled := ⟨h.settled.index_le, h.settled.max_eq, h.settled.cnt_le, h.settled.length_eq,
    h.settled.empty⟩
  requests := ⟨h.requests.named, h.requests.planned⟩
  msgId_lt := h.msgId_lt

/-- The button stays within the bound. -/
theorem pressButton (h : Offers p) : Offers p.pressButton where
  settled := by
    refine ⟨?_, h.settled.max_eq, h.settled.cnt_le, h.settled.length_eq, h.settled.empty⟩
    change (if p.st.sourceCapCurrentIndex < p.st.sourceCapMaxIndex then
      p.st.sourceCapCurrentIndex + 1 else 0) ≤ p.st.sourceCapMaxIndex
    split <;> omega
  requests := ⟨h.requests.named, h.requests.planned⟩
  msgId_lt := h.msgId_lt

/-- A Wait postpones the Request. -/
theorem postpone (h : Offers p) : Offers
    (p.modifyPd fun pd => { pd with newPowerRequest := true, prevRequestMv := 0 }) where
  settled := ⟨h.settled.index_le, h.settled.max_eq, h.settled.cnt_le, h.settled.length_eq,
    fun hempty => ⟨(h.settled.empty hempty).1, rfl⟩⟩
  requests := ⟨h.requests.named, h.requests.planned⟩
  msgId_lt := h.msgId_lt

/-- New capabilities beyond the selected index are requested as offered. -/
theorem handleSourceCap (h : Offers p) {payload : List Word} (htakes : p.takesCaps = true)
    (hcaps : latestCaps p.log = payload) (hindex : p.st.sourceCapCurrentIndex < payload.length) :
    Offers (p.handleSourceCap payload) ∧
      (p.handleSourceCap payload).pd.newPowerRequest = false := by
  have hlen : payload.length ≤ 7 := hcaps ▸ length_latestCaps_le p.log
  have hstart : Effects False p (p.setFlags { p.pd.flags with previousPdConn := true }) :=
    .assign .refl (by rfl)
  have hflags := (KeepsRequests.refl h.msgId_lt).effects
    (hstart.pdUpdatePdoFlags (firstObject payload))
  generalize hq : (p.setFlags { p.pd.flags with previousPdConn := true }).pdUpdatePdoFlags
    (firstObject payload) = q at hflags
  have hindex' : q.st.sourceCapCurrentIndex = p.st.sourceCapCurrentIndex :=
    congrArg Selection.sourceCapCurrentIndex hflags.selection
  have htable : q.st.srcCaps.length = 7 := by
    have : q.st.srcCaps = p.st.srcCaps := congrArg Selection.srcCaps hflags.selection
    rw [this]
    exact h.settled.length_eq
  have hcaps' : latestCaps (q.pdProcessSourceCap payload).log = payload :=
    hflags.caps.trans hcaps
  have hrequested : (q.pdProcessSourceCap payload).requested.RequestsOffered := by
    refine requestsOffered_requested ⟨trivial, hflags.named h.requests.named⟩ hflags.msgId_lt ?_ ?_
    · rw [hcaps']
      exact hindex'.symm ▸ hindex
    · rw [hcaps']
      change (payload ++ q.st.srcCaps.drop payload.length).getD q.st.sourceCapCurrentIndex 0 = _
      rw [List.getD_eq_getElem?_getD, List.getElem?_append_left (hindex'.symm ▸ hindex),
        ← List.getD_eq_getElem?_getD]
      rfl
  obtain ⟨-, hnever, -⟩ | ⟨hsent, -⟩ :=
    (q.pdProcessSourceCap payload).pdSendRequestMsg_requested hflags.msgId_lt true
  · cases hnever
  have hoffered := hsent.requestsOffered hrequested
  have hunfold : p.handleSourceCap payload =
      ((q.pdProcessSourceCap payload).pdSendRequestMsg true).2.pdProcessSourceCapCallback
        payload.length := by
    rw [← hq]
    exact if_pos (by simpa [takesCaps] using htakes)
  generalize ((q.pdProcessSourceCap payload).pdSendRequestMsg true).2 = r at hsent hoffered hunfold
  rw [hunfold]
  refine ⟨⟨?_, ⟨hoffered.named, hoffered.planned⟩, hsent.msgId_lt⟩,
    congrArg Selection.newPowerRequest hsent.selection⟩
  change ({ r.selection with sourceCapMaxIndex := payload.length - 1 } : Selection).Settled
  rw [hsent.selection]
  refine ⟨?_, rfl, hlen, ?_, fun hempty => ?_⟩
  · change q.st.sourceCapCurrentIndex ≤ payload.length - 1
    omega
  · change (payload ++ q.st.srcCaps.drop payload.length).length = 7
    rw [List.length_append, List.length_drop, htable]
    omega
  · change payload.length = 0 at hempty
    omega

/-- A pending request is served for the capabilities received last. -/
theorem pdSendRequestMsg (h : Offers p) (hnew : p.pd.newPowerRequest = true)
    (hserves : p.selection.Serves (latestCaps p.log)) : Offers (p.pdSendRequestMsg false).2 := by
  obtain ⟨hskip, -⟩ | ⟨hsent, hnever | hvoltage⟩ :=
    p.pdSendRequestMsg_requested h.msgId_lt false
  · rw [hskip]
    exact ⟨⟨h.settled.index_le, h.settled.max_eq, h.settled.cnt_le, h.settled.length_eq,
      h.settled.empty⟩, ⟨h.requests.named, h.requests.planned⟩, h.msgId_lt⟩
  · cases hnever
  -- before the first capabilities the table is zero, so 0 V would be requested again
  have hsettled := h.settled
  have hcnt : p.selection.srcCapCnt ≠ 0 := by
    intro hzero
    have hindex : p.selection.sourceCapCurrentIndex = 0 := by
      have := hsettled.index_le
      have := hsettled.max_eq
      omega
    have hselected : p.selection.selected = 0 := by
      rw [Selection.selected, hindex]
      exact (hsettled.empty hzero).1
    refine hvoltage ?_
    rw [Selection.request, hselected]
    exact (hsettled.empty hzero).2.symm
  have hstored := hserves hnew hvoltage
  have hlen : (latestCaps p.log).length = p.selection.srcCapCnt := by
    rw [← hstored, Selection.stored, List.length_take, hsettled.length_eq]
    exact Nat.min_eq_left hsettled.cnt_le
  have hindex : p.st.sourceCapCurrentIndex < p.selection.srcCapCnt := by
    have hle : p.st.sourceCapCurrentIndex ≤ p.selection.sourceCapMaxIndex := hsettled.index_le
    have := hsettled.max_eq
    omega
  have hrequested : p.requested.RequestsOffered := by
    refine requestsOffered_requested h.requests.named h.msgId_lt (hlen ▸ hindex) ?_
    rw [← hstored, Selection.stored, List.getD_eq_getElem?_getD, List.getElem?_take_of_lt hindex,
      ← List.getD_eq_getElem?_getD]
    rfl
  refine Offers.keeps (p := p.requested) ⟨?_, hrequested, h.msgId_lt⟩ hsent
  exact ⟨hsettled.index_le, hsettled.max_eq, hsettled.cnt_le, hsettled.length_eq,
    fun hempty => absurd hempty hcnt⟩

theorem snkReady (h : Offers p) (hserves : p.selection.Serves (latestCaps p.log)) :
    Offers p.snkReady := by
  unfold Port.snkReady
  split
  · exact h
  · split
    · rename_i hnew
      have hsent := h.pdSendRequestMsg hnew hserves
      simp only
      split_ifs
      · exact hsent.effects (.setState .refl _)
      · exact hsent
    · cases hchecks : p.readyChecks with
      | none => exact h
      | some q => exact h.effects (.readyChecks .refl hchecks)

/-- The switch and the tail of an iteration. -/
theorem switch (h : Offers p) (b : Board) (inp : Input) (thisState : PdState)
    (hserves : p.pd.taskState = .snkReady → p.selection.Serves (latestCaps p.log)) :
    Offers ((p.applySuspend.runState b inp).finish thisState inp) := by
  refine Offers.effects (p := p.applySuspend.runState b inp) ?_ (.finish .refl _ inp)
  by_cases htask : p.applySuspend.pd.taskState = .snkReady
  · have hsame : p.applySuspend = p := by
      unfold applySuspend at htask ⊢
      split
      · rename_i hsuspend
        rw [if_pos hsuspend] at htask
        simp at htask
      · rfl
    rw [hsame] at htask ⊢
    have hswitch : p.runState b inp = p.snkReady := by
      unfold runState
      rw [htask]
    rw [hswitch]
    exact h.snkReady (hserves htask)
  · exact h.effects (.runState (.applySuspend .refl) b inp fun hready => absurd hready htask)

end Offers

theorem pdIsConnected_of_takesCaps {p : Port} (h : p.takesCaps = true) :
    p.pdIsConnected = true := by
  simp only [takesCaps, decide_eq_true_eq] at h
  unfold pdIsConnected dualRoleIfElse
  rcases h with htask | htask | htask <;> cases p.pd.powerRole <;> simp [htask]

theorem handleRequest_sourceCap (b : Board) (p : Port) (now : Nat) {m : PdMsg}
    (hm : m.isData .sourceCap = true) :
    p.handleRequest b now m = if p.pdIsConnected then p.handleSourceCap m.payload else p := by
  simp only [PdMsg.isData, decide_eq_true_eq] at hm
  unfold handleRequest
  by_cases hconn : p.pdIsConnected = true
  · simp [hconn, hm.1, handleDataRequest, hm.2]
  · simp [hconn]

theorem handleRequest_wait (b : Board) (p : Port) (now : Nat) {m : PdMsg}
    (hm : m.isCtrl .wait = true) :
    p.handleRequest b now m = if p.pdIsConnected then p.handleRejectWait now true else p := by
  simp only [PdMsg.isCtrl, decide_eq_true_eq] at hm
  unfold handleRequest
  by_cases hconn : p.pdIsConnected = true
  · simp [hconn, hm.1, handleCtrlRequest, hm.2]
  · simp [hconn]

theorem readies_of_control {b : Board} {p : Port} {m : PdMsg}
    (h : p.control.readies (m.kind b) = true) : p.readies m = true := by
  simp only [Control.readies, decide_eq_true_eq] at h
  simp only [readies, decide_eq_true_eq]
  rcases h with ⟨hkind, h⟩ | ⟨hkind, h⟩ | ⟨hkind, h⟩ | ⟨hkind, h⟩
  · exact .inl ⟨PdMsg.isCtrl_of_kind hkind, h⟩
  · exact .inr (.inl ⟨PdMsg.isCtrl_of_kind hkind, h⟩)
  · exact .inr (.inr (.inl ⟨PdMsg.isCtrl_of_kind hkind, h⟩))
  · exact .inr (.inr (.inr ⟨PdMsg.isCtrl_of_kind hkind, h⟩))

/-- A port found in `PD_STATE_SNK_READY` after a message was there before it or
the message put it there. -/
theorem ready_of_handleRequest (b : Board) {p : Port} (now : Nat) {m : PdMsg}
    (h : (p.handleRequest b now m).pd.taskState = .snkReady) :
    p.pd.taskState = .snkReady ∨ (p.pdIsConnected = true ∧ p.readies m = true) := by
  have hmem : (p.handleRequest b now m).control ∈ p.control.receive (some (m.kind b)) :=
    p.control_handleRequest_mem b now m
  rcases p.control.receive_reaction hmem with hsame | ⟨kind, hkind, hconn, hreaction⟩
  · exact .inl ((congrArg Control.task hsame).symm.trans h)
  · obtain rfl := Option.some.inj hkind
    rcases hreaction.readies h with hsame | hreadies
    · exact .inl ((congrArg Control.task hsame).symm.trans h)
    · exact .inr ⟨hconn, readies_of_control hreadies⟩

section

variable (p : Port) (inp : Input)

/-- What precedes the message changes the state only. -/
theorem control_beforeMessage_applyReset :
    (p.beforeMessage inp).control = (p.applyReset inp.reset).control := by
  rw [control_beforeMessage, control_applyReset]

theorem takesCaps_beforeMessage :
    (p.beforeMessage inp).takesCaps = (p.applyReset inp.reset).takesCaps := by
  have htask : (p.beforeMessage inp).pd.taskState = (p.applyReset inp.reset).pd.taskState :=
    congrArg Control.task (p.control_beforeMessage_applyReset inp)
  simp only [takesCaps, htask]

theorem readies_beforeMessage (m : PdMsg) :
    (p.beforeMessage inp).readies m = (p.applyReset inp.reset).readies m := by
  have hcontrol := p.control_beforeMessage_applyReset inp
  have htask : (p.beforeMessage inp).pd.taskState = (p.applyReset inp.reset).pd.taskState :=
    congrArg Control.task hcontrol
  have hrole : (p.beforeMessage inp).pd.powerRole = (p.applyReset inp.reset).pd.powerRole :=
    congrArg Control.role hcontrol
  simp only [readies, htask, hrole]

end

namespace Offers

variable {p : Port} {inp : Input}

/-- Without new capabilities a power request is served from the table. -/
theorem serves_of_asksOffered (hC : p.asksOffered (.iterate inp) = true)
    (hcaps : p.newCaps inp = none) (hready : p.findsReady inp = true) {q : Port}
    (hq : KeepsRequests p q) : q.selection.Serves (latestCaps q.log) := by
  rw [hq.selection, hq.caps]
  intro hnew hvoltage
  change p.pd.newPowerRequest = true at hnew
  change p.selection.request.supplyVoltage ≠ p.pd.prevRequestMv at hvoltage
  simpa [asksOffered, hcaps, hready, hnew, hvoltage] using hC

/-- Capabilities are processed or ignored. -/
theorem handleRequest_caps (h : Offers p) (b : Board) (now : Nat) {m : PdMsg}
    (hm : m.isData .sourceCap = true) (hlatest : latestCaps p.log = m.payload)
    (hindex : p.takesCaps = true → p.st.sourceCapCurrentIndex < m.payload.length) :
    Offers (p.handleRequest b now m) ∧ ((p.handleRequest b now m).pd.taskState = .snkReady →
      (p.handleRequest b now m).pd.newPowerRequest = false) := by
  rw [handleRequest_sourceCap b p now hm]
  cases htakes : p.takesCaps with
  | true =>
      rw [if_pos (pdIsConnected_of_takesCaps htakes)]
      obtain ⟨hoffers, hserved⟩ := h.handleSourceCap htakes hlatest (hindex htakes)
      exact ⟨hoffers, fun _ => hserved⟩
  | false =>
      have hignored : (if p.pdIsConnected then p.handleSourceCap m.payload else p) = p := by
        split
        · exact if_neg (by simpa [takesCaps] using htakes)
        · rfl
      rw [hignored]
      refine ⟨h, fun hready => ?_⟩
      rw [takesCaps, hready] at htakes
      cases htakes

/-- A Wait in `PD_STATE_SNK_REQUESTED`. -/
theorem handleRequest_takesWait (h : Offers p) (b : Board) (now : Nat) {m : PdMsg}
    (hm : m.isCtrl .wait = true) (hconn : p.pdIsConnected = true) (htakes : p.takesWait = true) :
    Offers (p.handleRequest b now m) ∧
      (p.handleRequest b now m).pd.taskState = .snkRequested := by
  simp only [takesWait, decide_eq_true_eq] at htakes
  obtain ⟨htask, hcontract⟩ := htakes
  have hwait : p.handleRequest b now m =
      (p.modifyPd fun pd => { pd with newPowerRequest := true, prevRequestMv := 0 }).setStateTimeout
        (now + pdTSinkRequest) .snkReady := by
    rw [handleRequest_wait b p now hm, if_pos hconn]
    simp [handleRejectWait, htask, hcontract]
  rw [hwait]
  exact ⟨h.postpone.effects (.assign .refl (by rfl)), htask⟩

/-- The message of an iteration. -/
theorem receive (h : Offers p) (b : Board) (hC : p.asksOffered (.iterate inp) = true) :
    Offers ((p.beforeMessage inp).receive b inp) ∧
      (((p.beforeMessage inp).receive b inp).pd.taskState = .snkReady →
        ((p.beforeMessage inp).receive b inp).selection.Serves
          (latestCaps ((p.beforeMessage inp).receive b inp).log)) := by
  have hbefore : KeepsRequests p (p.beforeMessage inp) :=
    (KeepsRequests.refl h.msgId_lt).effects (.beforeMessage .refl inp)
  have hcontrol := p.control_beforeMessage_applyReset inp
  have htakes := p.takesCaps_beforeMessage inp
  have hreadies := p.readies_beforeMessage inp
  generalize p.beforeMessage inp = q at *
  have htask : q.pd.taskState = (p.applyReset inp.reset).pd.taskState :=
    congrArg Control.task hcontrol
  have hconn : q.pdIsConnected = (p.applyReset inp.reset).pdIsConnected :=
    congrArg Control.connected hcontrol
  unfold Port.receive
  cases hmessage : inp.message with
  | none =>
      have hcaps : p.newCaps inp = none := by simp [newCaps, hmessage]
      refine ⟨h.keeps hbefore, fun hready => serves_of_asksOffered hC hcaps ?_ hbefore⟩
      simp [findsReady, ← htask, hready]
  | some m =>
      simp only
      have hreceived : Offers (q.record (.received m)) := (h.keeps hbefore).received m
      by_cases hm : m.isData .sourceCap = true
      · have hkept : q.st.sourceCapCurrentIndex = p.st.sourceCapCurrentIndex :=
          congrArg Selection.sourceCapCurrentIndex hbefore.selection
        obtain ⟨hoffers, hserved⟩ := hreceived.handleRequest_caps b (inp.time .message) hm
          (if_pos hm) fun hprocessed => by
            have hprocessed' : (p.applyReset inp.reset).takesCaps = true :=
              htakes.symm.trans hprocessed
            change q.st.sourceCapCurrentIndex < m.payload.length
            simpa [hkept, asksOffered, newCaps, hmessage, hm, hprocessed'] using hC
        exact ⟨hoffers, fun hready hnew => absurd ((hserved hready).symm.trans hnew) (by decide)⟩
      · have hcaps : p.newCaps inp = none := by simp [newCaps, hmessage, hm]
        by_cases hneg : (q.record (.received m)).negotiates m = true
        · have hwait : (q.record (.received m)).pdIsConnected = true ∧ m.isCtrl .wait = true ∧
              (q.record (.received m)).takesWait = true := by
            simpa [negotiates, hm] using hneg
          obtain ⟨hoffers, hrequested⟩ := hreceived.handleRequest_takesWait b (inp.time .message)
            hwait.2.1 hwait.1 hwait.2.2
          refine ⟨hoffers, fun hready => ?_⟩
          rw [hrequested] at hready
          cases hready
        · have hkept : KeepsRequests p (q.record (.received m)) :=
            hbefore.received (by simpa using hm)
          have hhandled := hkept.effects
            (.handleRequest .refl b (inp.time .message) m fun hnegotiates => hneg hnegotiates)
          refine ⟨h.keeps hhandled, fun hready => serves_of_asksOffered hC hcaps ?_ hhandled⟩
          rcases ready_of_handleRequest b _ hready with hready' | ⟨hconn', hreadies'⟩
          · change q.pd.taskState = .snkReady at hready'
            simp [findsReady, ← htask, hready']
          · change q.pdIsConnected = true at hconn'
            change q.readies m = true at hreadies'
            simp [findsReady, ← hconn, hconn', hmessage, ← hreadies, hreadies']

theorem step (h : Offers p) (b : Board) (e : Event) (hC : p.asksOffered e = true) :
    Offers (p.step b e) := by
  cases e with
  | iterate inp =>
      obtain ⟨hreceived, hserves⟩ := h.receive b hC
      exact hreceived.switch b inp _ hserves
  | setNewPowerRequest => exact h.setNewPowerRequest
  | button => exact h.pressButton
  | _ =>
      exact call_preserves (R := False) (fun _ _ heffect h => h.effects (.single heffect))
        (fun _ irq h => h.keeps ((KeepsRequests.refl h.msgId_lt).alert irq)) b p _ rfl h

theorem setup : Offers Port.setup where
  settled := ⟨by decide, by decide, by decide, by decide, by decide⟩
  requests := by
    have hlog : ∀ c ∈ Port.setup.log, c.request = none :=
      fun c hc => Call.request_plain (setup_plain c hc)
    have hnone : lastRequest Port.setup.log = none := by decide
    refine ⟨Machine.each_of_forall fun c hc earlier => namesOffered_of_none (hlog c hc) earlier, ?_⟩
    intro r hr
    rw [hnone] at hr
    cases hr
  msgId_lt := by decide

end Offers

/-- As long as new capabilities reach beyond the selected index and pending power
requests find the last ones in the table, every Request names an offered PDO. -/
theorem requestsOffered_after (b : Board) (es : List Event)
    (h : AllSteps b (fun p e => p.asksOffered e = true) es) : (after b es).RequestsOffered := by
  have hstep : ∀ (p : Port) (e : Event), Offers p → p.asksOffered e = true → Offers (p.step b e) :=
    fun _ e hp hC => hp.step b e hC
  have hoffers : Offers (after b es) := Machine.run_invariant hstep Offers.setup h
  exact hoffers.requests

/-- The capability 9 V at 2 A. -/
def nineVolts : Word := pdoFixed 9000 2000 0

/-- A sink that is offered two capabilities, selects the second with the button
and sees the soft reset accepted that the button asks for. -/
def selectsSecond : List Event :=
  attachAsSink ++
    [iterateAt 200000 rpOnCc1 (some (dataMsg .sourceCap [fiveVolts, nineVolts] (by decide))),
      iterateAt 210000 rpOnCc1 (some (ctrlMsg .accept)),
      iterateAt 220000 rpOnCc1 (some (ctrlMsg .psRdy))] ++
    loop true none 230000
      { reset := false, message := none, cc := rpOnCc1, ccTail := rpOnCc1,
        time := fun _ => 230000 } ++
    [iterateAt 240000 rpOnCc1 (some (ctrlMsg .accept))]

/-- The second capability is still on offer. -/
theorem requestsOffered_after_selectsSecond :
    (after .shipped (selectsSecond ++ [iterateAt 250000 rpOnCc1
      (some (dataMsg .sourceCap [fiveVolts, nineVolts] (by decide)))])).RequestsOffered :=
  requestsOffered_after .shipped _ (by decide +kernel)

/-- The source offers one capability after the second one of two was selected:
the Request asks for the second of one, with the entry left over. -/
theorem not_requestsOffered_selectsSecond :
    ¬ ∀ es : List Event, (after .shipped es).RequestsOffered := by
  intro h
  have hunnamed : ¬ (after .shipped (selectsSecond ++ [iterateAt 250000 rpOnCc1
      (some (dataMsg .sourceCap [fiveVolts] (by decide)))])).RequestsOffered :=
    mt RequestsOffered.named (by decide +kernel)
  exact hunnamed (h _)

end Port

end UsbPd
