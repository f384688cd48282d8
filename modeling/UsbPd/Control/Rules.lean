import UsbPd.Control.Refine

/-!
# Rules for the control machine

What each operation of the control machine does to each field, everything a
received message can do, and the rule by which an invariant of the control
machine becomes a property of every run of the port.
-/

namespace UsbPd

theorem PdMsg.isData_of_kind {b : Board} {m : PdMsg} {type : DataMsgType} {acceptable : Bool}
    (h : m.kind b = .data (some type) acceptable) : m.isData type = true := by
  unfold kind at h
  split at h
  · rename_i hcnt
    injection h with htype
    simp [isData, hcnt, htype]
  · cases h

theorem PdMsg.acceptable_of_kind {b : Board} {m : PdMsg} {type : Option DataMsgType}
    {acceptable : Bool} (h : m.kind b = .data type acceptable) : m.acceptable b = acceptable := by
  unfold kind at h
  split at h
  · injection h
  · cases h

theorem PdMsg.isCtrl_of_kind {b : Board} {m : PdMsg} {type : CtrlMsgType}
    (h : m.kind b = .ctrl (some type)) : m.isCtrl type = true := by
  unfold kind at h
  split at h
  · cases h
  · rename_i hcnt
    injection h with htype
    simpa [isCtrl, htype] using hcnt

theorem PdMsg.kind_of_isCtrl {m : PdMsg} {type : CtrlMsgType} (b : Board)
    (h : m.isCtrl type = true) : m.kind b = .ctrl (some type) := by
  simp only [isCtrl, decide_eq_true_eq] at h
  simp [kind, h.1, h.2]

theorem PdMsg.kind_of_isData {m : PdMsg} {type : DataMsgType} (b : Board)
    (h : m.isData type = true) : m.kind b = .data (some type) (m.acceptable b) := by
  simp only [isData, decide_eq_true_eq] at h
  rw [kind, if_pos h.1, h.2]
  rfl

/-- A message that is not of the data type is not of its kind. -/
theorem kind_ne_data {b : Board} {message : Option PdMsg} {type : DataMsgType} {kind : MsgKind}
    (hkind : message.map (PdMsg.kind b) = some kind)
    (h : message.any (PdMsg.isData · type) = false) (a : Bool) : kind ≠ .data (some type) a := by
  rintro rfl
  obtain ⟨m, rfl, hm⟩ := Option.map_eq_some_iff.1 hkind
  have := PdMsg.isData_of_kind hm
  simp [this] at h

theorem kind_ne_ctrl {b : Board} {message : Option PdMsg} {type : CtrlMsgType} {kind : MsgKind}
    (hkind : message.map (PdMsg.kind b) = some kind)
    (h : message.any (PdMsg.isCtrl · type) = false) : kind ≠ .ctrl (some type) := by
  rintro rfl
  obtain ⟨m, rfl, hm⟩ := Option.map_eq_some_iff.1 hkind
  have := PdMsg.isCtrl_of_kind hm
  simp [this] at h

namespace Port

/-- The Request is accepted, provided that the Accept goes out. -/
def grants (b : Board) (p : Port) (m : PdMsg) : Bool :=
  m.isData .request && p.pd.powerRole == .source && m.acceptable b

/-- The message changes the state of a port that resets. -/
def interruptsReset (b : Board) (p : Port) (m : PdMsg) : Bool :=
  m.isCtrl .softReset || (m.isCtrl .psRdy && p.pd.powerRole == .sink) ||
    (m.isData .request && !(p.grants b m && p.pd.txStatus != .success))

theorem kind_of_interruptsReset {b : Board} {p : Port} {m : PdMsg}
    (h : p.interruptsReset b m = true) :
    m.kind b = .ctrl (some .softReset) ∨
      (m.kind b = .ctrl (some .psRdy) ∧ p.control.role = .sink) ∨
      ∃ a, m.kind b = .data (some .request) a ∧
        (p.control.role = .source → a = true → p.control.txOk = true) := by
  simp only [interruptsReset, Bool.or_eq_true, Bool.and_eq_true, beq_iff_eq] at h
  rcases h with (hsoft | ⟨hpsrdy, hrole⟩) | ⟨hrequest, hgrant⟩
  · exact .inl (PdMsg.kind_of_isCtrl b hsoft)
  · exact .inr (.inl ⟨PdMsg.kind_of_isCtrl b hpsrdy, hrole⟩)
  · refine .inr (.inr ⟨_, PdMsg.kind_of_isData b hrequest, fun hrole hacc => ?_⟩)
    change p.pd.powerRole = .source at hrole
    change (p.pd.txStatus == .success) = true
    simpa [grants, hrequest, hrole, hacc] using hgrant

end Port

namespace Control

variable (v : Control)

/-! State changes. -/

/-- A change to `next` goes through the entry into a disconnected state. -/
def disconnects (next : PdState) : Bool :=
  v.task ≠ next ∧ ¬ ((v.task = .snkDisconnected ∧ next = .srcDisconnected) ∨
    (v.task = .srcDisconnected ∧ next = .snkDisconnected)) ∧
    (next = .srcDisconnected ∨ next = .snkDisconnected)

/-- The log after a state change. -/
def historyAfter (next : PdState) : History :=
  if v.disconnects next then
    { v.history with receiving := false, vbus := v.history.vbus && v.role != .source }
  else v.history

theorem enterDisconnected_eq : v.enterDisconnected = { v with history :=
    { v.history with receiving := false, vbus := v.history.vbus && v.role != .source } } := by
  unfold enterDisconnected
  cases hrole : v.role with
  | sink => simp [note, History.note, hrole]
  | source => simp [note, History.note, hrole]

theorem setState_eq (next : PdState) : v.setState next =
    { v with task := next, armed := false, timeoutState := .disabled,
             history := v.historyAfter next } := by
  unfold historyAfter setState
  by_cases hsame : v.task = next
  · simp [disconnects, hsame, goto]
  by_cases htoggle : (v.task = .snkDisconnected ∧ next = .srcDisconnected) ∨
      (v.task = .srcDisconnected ∧ next = .snkDisconnected)
  · simp [disconnects, hsame, htoggle, goto]
  by_cases hdis : next = .srcDisconnected ∨ next = .snkDisconnected
  · simp [disconnects, hsame, htoggle, hdis, goto, enterDisconnected_eq]
  · simp [disconnects, hsame, htoggle, hdis, goto]

variable (next : PdState)

@[simp] theorem setState_task : (v.setState next).task = next := by
  rw [setState_eq]

@[simp] theorem setState_last : (v.setState next).last = v.last := by
  rw [setState_eq]

@[simp] theorem setState_role : (v.setState next).role = v.role := by
  rw [setState_eq]

@[simp] theorem setState_armed : (v.setState next).armed = false := by
  rw [setState_eq]

@[simp] theorem setState_timeoutState : (v.setState next).timeoutState = .disabled := by
  rw [setState_eq]

@[simp] theorem setState_explicit : (v.setState next).explicit = v.explicit := by
  rw [setState_eq]

@[simp] theorem setState_pullingUp : (v.setState next).pullingUp = v.pullingUp := by
  rw [setState_eq]

@[simp] theorem setState_vconn : (v.setState next).vconn = v.vconn := by
  rw [setState_eq]

@[simp] theorem setState_txOk : (v.setState next).txOk = v.txOk := by
  rw [setState_eq]

@[simp] theorem setState_fewResets : (v.setState next).fewResets = v.fewResets := by
  rw [setState_eq]

@[simp] theorem setState_suspending : (v.setState next).suspending = v.suspending := by
  rw [setState_eq]

theorem setState_receiving :
    (v.setState next).history.receiving = (v.history.receiving && !v.disconnects next) := by
  rw [setState_eq]
  unfold historyAfter
  cases h : v.disconnects next <;> simp

theorem setState_vbus : (v.setState next).history.vbus =
    (v.history.vbus && (!v.disconnects next || v.role != .source)) := by
  rw [setState_eq]
  unfold historyAfter
  cases h : v.disconnects next <;> simp

@[simp] theorem setState_hardResetPending :
    (v.setState next).history.hardResetPending = v.history.hardResetPending := by
  rw [setState_eq]
  unfold historyAfter
  split <;> rfl

@[simp] theorem setState_contract :
    (v.setState next).history.contract = v.history.contract := by
  rw [setState_eq]
  unfold historyAfter
  split <;> rfl

/-! The other updates only assign. -/

attribute [simp] note History.note arm goto setRole setPull setExplicit setFew setSent setTx setLast
  clearSuspending

/-! A reset only assigns the state. -/

section

variable (reset : Bool)

@[simp] theorem applyReset_last : (v.applyReset reset).last = v.last := by
  cases reset <;> rfl

@[simp] theorem applyReset_role : (v.applyReset reset).role = v.role := by
  cases reset <;> rfl

@[simp] theorem applyReset_txOk : (v.applyReset reset).txOk = v.txOk := by
  cases reset <;> rfl

@[simp] theorem applyReset_fewResets : (v.applyReset reset).fewResets = v.fewResets := by
  cases reset <;> rfl

@[simp] theorem applyReset_suspending : (v.applyReset reset).suspending = v.suspending := by
  cases reset <;> rfl

end

/-! A hard reset. -/

/-- The two states of a swap in which a sink already presents Rp and VBUS. -/
def completingSwap : Bool := v.task = .snkSwapStandby ∨ v.task = .snkSwapComplete

theorem executeHardReset_eq : v.executeHardReset =
    { v with
      task := v.role.ifElse .snkHardResetRecover .srcHardResetRecover
      last := .hardResetExecute
      armed := false
      timeoutState := .disabled
      pullingUp := v.pullingUp && !v.completingSwap
      history :=
        { v.history with
          hardResetPending := false
          contract := false
          vbus := v.history.vbus && v.role != .source && !v.completingSwap } } := by
  have hstay : ∀ w : Control, w.historyAfter .snkHardResetRecover = w.history ∧
      w.historyAfter .srcHardResetRecover = w.history := by
    intro w
    simp [historyAfter, disconnects]
  unfold executeHardReset completingSwap
  by_cases hswap : v.task = .snkSwapStandby ∨ v.task = .snkSwapComplete
  · cases hrole : v.role <;> simp [setState_eq, hstay, hswap, hrole]
  · cases hrole : v.role <;> simp [setState_eq, hstay, hswap, hrole]

theorem executeHardReset_task : v.executeHardReset.task = .snkHardResetRecover ∨
    v.executeHardReset.task = .srcHardResetRecover := by
  rw [executeHardReset_eq]
  cases v.role with
  | sink => exact .inl rfl
  | source => exact .inr rfl

/-! What a received message can do. -/

/-- The reactions of a connected port to a message. -/
inductive Reaction (v : Control) (kind : MsgKind) : Control → Prop
  | ignored : Reaction v kind v
  | requested {acceptable : Bool} (hkind : kind = .data (some .sourceCap) acceptable)
      (htask : v.task = .snkDiscovery ∨ v.task = .snkTransition ∨ v.task = .snkReady)
      (htx : v.txOk = true) : Reaction v kind (v.setState .snkRequested)
  | granted (hkind : kind = .data (some .request) true) (hrole : v.role = .source)
      (htx : v.txOk = true) :
      Reaction v kind (((v.note .contractAgreed).setExplicit true).setState .srcAccepted)
  | denied {acceptable : Bool} (hkind : kind = .data (some .request) acceptable)
      (hdeny : ¬ (v.role = .source ∧ acceptable = true)) : Reaction v kind (v.setState .srcReady)
  | tested (htask : v.task = v.readyReturnState) :
      Reaction v kind (v.setState (v.roleIfElse .snkDisconnected .srcDisconnected))
  | sinkCaps (htask : v.task = .srcGetSinkCap) : Reaction v kind (v.setState .srcReady)
  | capsSent (htask : v.task = .srcDiscovery) (htx : v.txOk = true) :
      Reaction v kind (v.setState .srcNegociate)
  | sourceOff (hkind : kind = .ctrl (some .psRdy)) (htask : v.task = .snkSwapSrcDisable) :
      Reaction v kind (v.setState .snkSwapStandby)
  | sourceOn (hkind : kind = .ctrl (some .psRdy)) (htask : v.task = .srcSwapStandby) :
      Reaction v kind ((v.setRole .sink).setState .snkDiscovery)
  | early (hkind : kind = .ctrl (some .psRdy)) (htask : v.task = .snkDiscovery) :
      Reaction v kind (v.setState .hardResetSend)
  | powered (hkind : kind = .ctrl (some .psRdy)) (hrole : v.role = .sink)
      (htask : v.task ≠ .snkSwapSrcDisable ∧ v.task ≠ .srcSwapStandby ∧ v.task ≠ .snkDiscovery ∧
        v.task ≠ .snkSwapStandby) : Reaction v kind (v.setState .snkReady)
  | dataSwapOver (htask : v.task = .drSwap)
      (hkind : kind = .ctrl (some .accept) ∨ kind = .ctrl (some .reject) ∨
        kind = .ctrl (some .wait)) : Reaction v kind (v.setState v.readyReturnState)
  | srcSwapRefused (htask : v.task = .srcSwapInit) : Reaction v kind (v.setState .srcReady)
  | snkSwapRefused (htask : v.task = .snkSwapInit)
      (hkind : kind = .ctrl (some .reject) ∨ kind = .ctrl (some .wait)) :
      Reaction v kind (v.setState .snkReady)
  | retryLater (htask : v.task = .snkRequested) (hcontract : v.explicit = true)
      (hkind : kind = .ctrl (some .wait)) : Reaction v kind (v.arm .snkReady)
  | keptContract (htask : v.task = .snkRequested) (hcontract : v.explicit = true)
      (hkind : kind = .ctrl (some .reject)) : Reaction v kind (v.setState .snkReady)
  | noContract (htask : v.task = .snkRequested) (hcontract : v.explicit = false) :
      Reaction v kind (v.setState .snkDiscovery)
  | softAccepted (hkind : kind = .ctrl (some .accept)) (htask : v.task = .softReset) :
      Reaction v kind v.executeSoftReset
  | srcSwapAccepted (htask : v.task = .srcSwapInit) :
      Reaction v kind
        (((v.note .powerSwapAccepted).setExplicit false).setState .srcSwapSnkDisable)
  | snkSwapAccepted (htask : v.task = .snkSwapInit) :
      Reaction v kind
        (((v.note .powerSwapAccepted).setExplicit false).setState .snkSwapSnkDisable)
  | requestAccepted (htask : v.task = .snkRequested) :
      Reaction v kind (((v.note .contractAgreed).setExplicit true).setState .snkTransition)
  | softReset (hkind : kind = .ctrl (some .softReset)) : Reaction v kind v.executeSoftReset

theorem handleData_reaction (acceptable : Bool) (type : Option DataMsgType) {w : Control}
    (hw : w ∈ v.handleData acceptable type) : Reaction v (.data type acceptable) w := by
  cases type with
  | none =>
      obtain rfl := List.mem_singleton.1 hw
      exact .ignored
  | some type =>
      cases type with
      | sourceCap =>
          simp only [handleData] at hw
          split_ifs at hw with h
          · obtain rfl := List.mem_singleton.1 hw
            exact .requested rfl h.1 h.2
          · obtain rfl := List.mem_singleton.1 hw
            exact .ignored
      | request =>
          simp only [handleData] at hw
          split_ifs at hw with h htx
          · obtain rfl := List.mem_singleton.1 hw
            obtain ⟨hrole, rfl⟩ := h
            exact .granted rfl hrole htx
          · obtain rfl := List.mem_singleton.1 hw
            exact .ignored
          · obtain rfl := List.mem_singleton.1 hw
            exact .denied rfl h
      | bist =>
          simp only [handleData] at hw
          split_ifs at hw with h
          · rcases List.mem_cons.1 hw with rfl | hw
            · exact .ignored
            · obtain rfl := List.mem_singleton.1 hw
              exact .tested h
          · obtain rfl := List.mem_singleton.1 hw
            exact .ignored
      | sinkCap =>
          simp only [handleData] at hw
          split_ifs at hw with h
          · obtain rfl := List.mem_singleton.1 hw
            exact .sinkCaps h
          · obtain rfl := List.mem_singleton.1 hw
            exact .ignored
      | vendorDef =>
          obtain rfl := List.mem_singleton.1 hw
          exact .ignored

theorem handlePsRdy_reaction : Reaction v (.ctrl (some .psRdy)) v.handlePsRdy := by
  unfold handlePsRdy
  split_ifs with h₁ h₂ h₃ h₄ h₅
  · exact .sourceOff rfl h₁
  · exact .sourceOn rfl h₂
  · exact .early rfl h₃
  · exact .ignored
  · exact .powered rfl h₅ ⟨h₁, h₂, h₃, h₄⟩
  · exact .ignored

theorem handleRejectWait_reaction {wait : Bool} {type : CtrlMsgType}
    (htype : (type = .reject ∧ wait = false) ∨ (type = .wait ∧ wait = true)) :
    Reaction v (.ctrl (some type)) (v.handleRejectWait wait) := by
  have hrefused : MsgKind.ctrl (some type) = .ctrl (some .reject) ∨
      MsgKind.ctrl (some type) = .ctrl (some .wait) :=
    htype.imp (fun h => by rw [h.1]) (fun h => by rw [h.1])
  unfold handleRejectWait
  split_ifs with h₁ h₂ h₃ h₄ h₅ h₆
  · exact .dataSwapOver h₁ (.inr hrefused)
  · exact .srcSwapRefused h₂
  · exact .snkSwapRefused h₃ hrefused
  · refine .retryLater h₄ h₅ (hrefused.resolve_left fun hreject => ?_)
    obtain ⟨-, hw⟩ | ⟨rfl, -⟩ := htype
    · exact absurd (hw.symm.trans h₆) (by decide)
    · cases hreject
  · refine .keptContract h₄ h₅ (hrefused.resolve_right fun hwait => ?_)
    obtain ⟨rfl, -⟩ | ⟨-, hw⟩ := htype
    · cases hwait
    · exact h₆ hw
  · exact .noContract h₄ (by simpa using h₅)
  · exact .ignored

theorem handleAccept_reaction : Reaction v (.ctrl (some .accept)) v.handleAccept := by
  unfold handleAccept
  split_ifs with h₁ h₂ h₃ h₄ h₅
  · exact .softAccepted rfl h₁
  · exact .dataSwapOver h₂ (.inl rfl)
  · exact .srcSwapAccepted h₃
  · exact .snkSwapAccepted h₄
  · exact .requestAccepted h₅
  · exact .ignored

theorem handleCtrl_reaction (type : Option CtrlMsgType) :
    Reaction v (.ctrl type) (v.handleCtrl type) := by
  cases type with
  | none => exact .ignored
  | some type =>
      cases type with
      | getSourceCap =>
          simp only [handleCtrl]
          split_ifs with h
          · exact .capsSent h.2 h.1
          · exact .ignored
      | psRdy => exact v.handlePsRdy_reaction
      | reject => exact v.handleRejectWait_reaction (.inl ⟨rfl, rfl⟩)
      | wait => exact v.handleRejectWait_reaction (.inr ⟨rfl, rfl⟩)
      | accept => exact v.handleAccept_reaction
      | softReset => exact .softReset rfl
      | _ => exact .ignored

/-- A message is ignored unless the port is connected. -/
theorem receive_reaction {kind : Option MsgKind} {w : Control} (hw : w ∈ v.receive kind) :
    w = v ∨ ∃ k, kind = some k ∧ v.connected = true ∧ Reaction v k w := by
  cases kind with
  | none => exact .inl (List.mem_singleton.1 hw)
  | some k =>
      simp only [receive, handle] at hw
      by_cases hconn : v.connected = true
      · rw [if_neg (not_not.2 hconn)] at hw
        refine .inr ⟨k, rfl, hconn, ?_⟩
        cases k with
        | data type acceptable => exact v.handleData_reaction acceptable type hw
        | ctrl type =>
            obtain rfl := List.mem_singleton.1 hw
            exact v.handleCtrl_reaction type
      · rw [if_pos hconn] at hw
        exact .inl (List.mem_singleton.1 hw)

/-- The states that a message can lead to. -/
def messageStates : List PdState :=
  [.snkDisconnected, .snkDiscovery, .snkRequested, .snkTransition, .snkReady, .snkSwapSnkDisable,
    .snkSwapStandby, .srcDisconnected, .srcDiscovery, .srcNegociate, .srcAccepted, .srcReady,
    .srcSwapSnkDisable, .hardResetSend]

theorem Reaction.task {v w : Control} {kind : MsgKind} (h : Reaction v kind w) :
    w = v ∨ w.task ∈ messageStates := by
  cases h with
  | ignored => exact .inl rfl
  | tested | softAccepted | softReset =>
      right
      simp only [executeSoftReset, roleIfElse, setState_task]
      cases v.role <;> decide
  | dataSwapOver =>
      right
      simp only [readyReturnState, roleIfElse, setState_task]
      cases v.role <;> decide
  | retryLater htask => exact .inr (by simp [htask, messageStates])
  | _ => exact .inr (by simp [messageStates])

/-- The messages that put a connected port into `PD_STATE_SNK_READY`. -/
def readies (kind : MsgKind) : Bool :=
  (kind = .ctrl (some .psRdy) ∧ v.role = .sink) ∨
    (kind = .ctrl (some .reject) ∧
      (v.task = .snkRequested ∨ v.task = .snkSwapInit ∨ v.task = .drSwap)) ∨
    (kind = .ctrl (some .wait) ∧ (v.task = .snkSwapInit ∨ v.task = .drSwap)) ∨
    (kind = .ctrl (some .accept) ∧ v.task = .drSwap)

theorem Reaction.readies {v w : Control} {kind : MsgKind} (h : Reaction v kind w)
    (hw : w.task = .snkReady) : w = v ∨ v.readies kind = true := by
  unfold Control.readies
  cases h with
  | ignored => exact .inl rfl
  | powered hkind hrole => exact .inr (by simp [hkind, hrole])
  | dataSwapOver htask hkind =>
      right
      rcases hkind with rfl | rfl | rfl <;> simp [htask]
  | snkSwapRefused htask hkind =>
      right
      rcases hkind with rfl | rfl <;> simp [htask]
  | keptContract htask hcontract hkind => exact .inr (by simp [hkind, htask])
  | retryLater htask =>
      change v.task = .snkReady at hw
      rw [htask] at hw
      cases hw
  | tested | softAccepted | softReset =>
      simp only [executeSoftReset, roleIfElse, setState_task] at hw
      cases hrole : v.role <;> simp [hrole] at hw
  | _ => simp at hw

/-- A port found in any other state after the message was in it before. -/
theorem eq_of_receive {kind : Option MsgKind} {w : Control} (hw : w ∈ v.receive kind)
    {s : PdState} (htask : w.task = s) (hs : s ∉ messageStates) : w = v := by
  rcases v.receive_reaction hw with rfl | ⟨k, -, -, hreaction⟩
  · rfl
  · refine hreaction.task.resolve_right fun hmem => hs ?_
    rwa [htask] at hmem

/-- The states of a reset. -/
def resetStates : List PdState := [.softReset, .hardResetSend, .hardResetExecute]

theorem connected_of_resetting {s : PdState} (htask : v.task = s) (hs : s ∈ resetStates) :
    v.connected = true := by
  unfold connected roleIfElse
  simp only [resetStates, List.mem_cons, List.not_mem_nil, or_false] at hs
  rcases hs with rfl | rfl | rfl <;> cases v.role <;> simp [htask]

/-- The messages that end a reset. -/
theorem task_ne_of_interrupts {kind : MsgKind} {w : Control} (hw : w ∈ v.receive (some kind))
    {s : PdState} (htask : v.task = s) (hs : s ∈ resetStates)
    (hkind : kind = .ctrl (some .softReset) ∨ (kind = .ctrl (some .psRdy) ∧ v.role = .sink) ∨
      ∃ a, kind = .data (some .request) a ∧ (v.role = .source → a = true → v.txOk = true)) :
    w.task ≠ s := by
  have hconn := v.connected_of_resetting htask hs
  simp only [resetStates, List.mem_cons, List.not_mem_nil, or_false] at hs
  simp only [receive, handle, hconn, not_true, if_false] at hw
  rcases hkind with rfl | ⟨rfl, hrole⟩ | ⟨a, rfl, hgrant⟩
  · obtain rfl := List.mem_singleton.1 hw
    simp only [handleCtrl, executeSoftReset, roleIfElse, setState_task]
    rcases hs with rfl | rfl | rfl <;> cases v.role <;> simp
  · obtain rfl := List.mem_singleton.1 hw
    rcases hs with rfl | rfl | rfl <;> simp [handleCtrl, handlePsRdy, htask, hrole]
  · simp only [handleData] at hw
    split_ifs at hw with hacc htx
    · obtain rfl := List.mem_singleton.1 hw
      rcases hs with rfl | rfl | rfl <;> simp
    · exact absurd (hgrant hacc.1 hacc.2) htx
    · obtain rfl := List.mem_singleton.1 hw
      rcases hs with rfl | rfl | rfl <;> simp

/-! What the switch can do. -/

/-- The states that the timer of a state can lead to. -/
def timers (r : PowerRole) : PdState → List PdState
  | .drSwap => [r.ifElse .snkReady .srcReady]
  | .hardResetSend => r.ifElse [] [.hardResetExecute]
  | .snkDiscovery => [.hardResetSend, .snkDisconnected, .softReset]
  | .snkHardResetRecover => [.hardResetSend, .snkDiscovery]
  | .snkRequested => [.hardResetSend, .snkReady]
  | .snkSwapInit => [.snkReady]
  | .snkSwapSrcDisable => [.hardResetSend]
  | .snkSwapStandby => [.snkSwapComplete]
  | .snkTransition => [.hardResetSend]
  | .softReset => [.hardResetSend]
  | .srcAccepted => [.srcPowered]
  | .srcDiscovery => [.hardResetSend, .srcDisconnected]
  | .srcGetSinkCap => [.srcReady]
  | .srcNegociate => [.hardResetSend]
  | .srcPowered => [.srcTransition]
  | .srcStartup => [.srcDiscovery]
  | .srcSwapInit => [.srcReady]
  | .srcSwapSnkDisable => [.srcSwapSrcDisable]
  | .srcSwapSrcDisable => [.srcSwapStandby]
  | .srcSwapStandby => r.ifElse [.snkDisconnected] []
  | _ => []

/-- The states that the switch changes to without touching anything else. -/
def moves : PdState → List PdState
  | .snkDisconnectedDebounce => [.snkDisconnected]
  | .snkHardResetRecover => [.snkDiscovery]
  | .snkReady => [.snkRequested, .softReset]
  | .snkSwapInit => [.softReset]
  | .snkSwapSnkDisable => [.snkSwapSrcDisable]
  | .srcDisconnectedDebounce => [.srcDisconnected]
  | .srcTransition => [.srcReady, .srcDisconnected]
  | .srcReady => [.srcGetSinkCap, .srcNegociate, .softReset]
  | .srcSwapInit => [.softReset]
  | .drSwap => [.softReset]
  | .softReset => [.hardResetSend]
  | _ => []

/-- The states that wait for the partner or for the supply. -/
def waitingStates : List PdState :=
  [.snkRequested, .snkTransition, .snkHardResetRecover, .snkSwapInit, .snkSwapSrcDisable,
    .snkSwapStandby, .srcStartup, .srcNegociate, .srcAccepted, .srcPowered, .srcGetSinkCap,
    .srcSwapInit, .srcSwapSnkDisable, .srcSwapSrcDisable, .srcSwapStandby, .drSwap, .softReset]

/-- The port waits under a deadline: a waiting state, or the wait for
capabilities while a hard reset is still an option. -/
def waits : Bool := v.task ∈ waitingStates ∨ (v.task = .snkDiscovery ∧ v.fewResets)

/-- The states of a swap that touch the supply when they arm their timer. -/
def supplyStates : List PdState := [.snkSwapStandby, .srcSwapSrcDisable, .srcSwapStandby]

/-- The outcomes of the switch. -/
inductive Outcome (v : Control) : Control → Prop
  | stays (h : v.entering = true → v.waits = false) : Outcome v v
  | arms {s : PdState} (hentry : v.entering = true) (hs : s ∈ timers v.role v.task)
      (hplain : v.task ∉ supplyStates) : Outcome v (v.arm s)
  | moves {s : PdState} (hs : s ∈ moves v.task) : Outcome v (v.setState s)
  | resumes (htask : v.task = .suspended) :
      Outcome v (v.clearSuspending.setState .snkDisconnected)
  | seesSource (htask : v.task = .snkDisconnected) :
      Outcome v ((v.setFew true).setState .snkDisconnectedDebounce)
  | togglesToSource (htask : v.task = .snkDisconnected) :
      Outcome v (((v.setRole .source).setState .srcDisconnected).setPull true)
  | attachesSource (htask : v.task = .snkDisconnectedDebounce)
      (hterm : v.pullingUp = false ∨ v.vconn = true) : Outcome v v.attachSource
  | requests (htask : v.task = .snkRequested) :
      Outcome v ((v.setFew true).arm .hardResetSend)
  | drivesVbus (htask : v.task = .snkSwapStandby) :
      Outcome v (((v.setPull true).note (.vbus true)).arm .snkSwapComplete)
  | becomesSource (htask : v.task = .snkSwapComplete) :
      Outcome v ((v.setRole .source).setState .srcDiscovery)
  | staysSink (htask : v.task = .snkSwapComplete) :
      Outcome v (((v.setPull false).note (.vbus false)).setState .snkDisconnected)
  | seesSink (htask : v.task = .srcDisconnected) (hup : v.pullingUp = true) :
      Outcome v (v.setState .srcDisconnectedDebounce)
  | togglesToSink (htask : v.task = .srcDisconnected) :
      Outcome v (((v.setRole .sink).setState .snkDisconnected).setPull false)
  | attachesSink (htask : v.task = .srcDisconnectedDebounce) (hup : v.pullingUp = true) :
      Outcome v v.attachSink
  | recovers (htask : v.task = .srcHardResetRecover) :
      Outcome v ((v.note (.vbus true)).setState .srcStartup)
  | sendsCaps (htask : v.task = .srcDiscovery) :
      Outcome v ((v.setState .srcNegociate).setFew true)
  | cutsVbus (htask : v.task = .srcSwapSrcDisable) :
      Outcome v ((v.note (.vbus false)).arm .srcSwapStandby)
  | becomesSink (htask : v.task = .srcSwapStandby) :
      Outcome v (((v.setPull false).setRole .sink).arm .snkDisconnected)
  | staysSource (htask : v.task = .srcSwapStandby) (hentry : v.entering = true)
      (htx : v.txOk = false) : Outcome v (v.setState .srcDisconnected)
  | sentReset {few sent : Bool} (htask : v.task = .hardResetSend) :
      Outcome v ((v.setFew few).setSent sent)
  | failsReset {few sent : Bool} (htask : v.task = .hardResetSend) :
      Outcome v (((v.setFew few).setSent sent).note (.transmit .hardReset 0 [] 0))
  | sendsReset {few sent : Bool} (htask : v.task = .hardResetSend) (hrole : v.role = .source) :
      Outcome v ((((v.setFew few).setSent sent).note
        (.transmit .hardReset 0 [] 0)).arm .hardResetExecute)
  | sendsResetAtOnce {few sent : Bool} (htask : v.task = .hardResetSend) :
      Outcome v ((((v.setFew few).setSent sent).note
        (.transmit .hardReset 0 [] 0)).setState .hardResetExecute)
  | executesReset (htask : v.task = .hardResetExecute) :
      Outcome v (if v.last = .snkSwapStandby then v.setPull false else v).executeHardReset

theorem armOnEntry_outcome {s : PdState} (hs : s ∈ timers v.role v.task)
    (hplain : v.task ∉ supplyStates) : Outcome v (v.armOnEntry s) := by
  unfold armOnEntry
  split_ifs with hentry
  · exact .arms hentry hs hplain
  · exact .stays (fun h => absurd h hentry)

theorem sendOnEntry_outcome {s : PdState} (hs : s ∈ timers v.role v.task)
    (hplain : v.task ∉ supplyStates) (hsoft : .softReset ∈ moves v.task) :
    Outcome v (v.sendOnEntry s) := by
  unfold sendOnEntry
  split_ifs with hentry htx
  · exact .arms hentry hs hplain
  · exact .moves hsoft
  · exact .stays (fun h => absurd h hentry)

theorem hardResetSend_outcome (htask : v.task = .hardResetSend) (few : Bool) :
    Outcome v (v.hardResetSend few) := by
  unfold hardResetSend sendHardReset
  simp only
  split_ifs with hsent htx hrole
  · exact .sentReset htask
  · exact @Outcome.sendsReset v few true htask hrole
  · exact @Outcome.sendsResetAtOnce v few true htask
  · exact .failsReset htask

theorem runState_outcome : Machine.Ensures v.runState (Outcome v) := by
  have hstays : v.waits = false → Outcome v v := fun h => .stays (fun _ => h)
  cases htask : v.task with
  | disabled =>
      have hidle := hstays (by simp [waits, waitingStates, htask])
      simpa [runState, htask] using hidle
  | suspended => simpa [runState, htask] using Outcome.resumes htask
  | snkDisconnected =>
      have hidle := hstays (by simp [waits, waitingStates, htask])
      simp only [runState, htask, Machine.ensures_cons, Machine.ensures_nil, and_true]
      exact ⟨hidle, .seesSource htask, .togglesToSource htask⟩
  | snkDisconnectedDebounce =>
      have hidle := hstays (by simp [waits, waitingStates, htask])
      have hmove : Outcome v (v.setState .snkDisconnected) := .moves (by simp [moves, htask])
      simp only [runState, htask, Machine.ensures_append, Machine.ensures_cons,
        Machine.ensures_ite, Machine.ensures_nil, and_true, implies_true]
      refine ⟨⟨hidle, hmove⟩, fun hterm => .attachesSource htask ?_⟩
      simpa using hterm
  | snkHardResetRecover =>
      have hmove : Outcome v (v.setState .snkDiscovery) := .moves (by simp [moves, htask])
      simp only [runState, htask, Machine.ensures_cons, Machine.ensures_nil, and_true,
        setState_armOnEntry]
      refine ⟨v.armOnEntry_outcome ?_ (by simp [supplyStates, htask]), hmove⟩
      split <;> simp [timers, htask]
  | snkDiscovery =>
      have htimer : ∀ {s}, s ∈ timers v.role .snkDiscovery → v.entering = true →
          Outcome v (v.arm s) :=
        fun hs h => .arms h (by rw [htask]; exact hs) (by simp [supplyStates, htask])
      simp only [runState, htask, Machine.ensures_append, Machine.ensures_cons,
        Machine.ensures_ite, Machine.ensures_nil, and_true]
      refine ⟨fun hentry => ⟨htimer (by simp [timers]) hentry,
        fun _ => htimer (by simp [timers]) hentry,
        fun hmany => ⟨hstays (by simp [waits, waitingStates, htask, hmany]),
          htimer (by simp [timers]) hentry⟩⟩, fun hentry => .stays (fun h => absurd h hentry)⟩
  | snkRequested =>
      simp only [runState, htask, Machine.ensures_cons, Machine.ensures_nil, and_true]
      split_ifs with hentry
      · exact .requests htask
      · exact .stays (fun h => absurd h hentry)
  | snkReady =>
      have hidle := hstays (by simp [waits, waitingStates, htask])
      have hrequest : Outcome v (v.setState .snkRequested) := .moves (by simp [moves, htask])
      have hsoft : Outcome v (v.setState .softReset) := .moves (by simp [moves, htask])
      simp only [runState, htask, Machine.ensures_append, Machine.ensures_cons,
        Machine.ensures_ite, Machine.ensures_nil, and_true]
      exact ⟨hidle, fun _ => hrequest, fun _ => hsoft⟩
  | snkSwapSnkDisable =>
      have hmove : Outcome v (v.setState .snkSwapSrcDisable) := .moves (by simp [moves, htask])
      simpa [runState, htask] using hmove
  | snkSwapStandby =>
      simp only [runState, htask, Machine.ensures_cons, Machine.ensures_nil, and_true]
      split_ifs with hentry
      · exact .drivesVbus htask
      · exact .stays (fun h => absurd h hentry)
  | snkSwapComplete =>
      simp only [runState, htask, Machine.ensures_cons, Machine.ensures_nil, and_true]
      split_ifs
      · exact .becomesSource htask
      · exact .staysSink htask
  | srcDisconnected =>
      have hidle := hstays (by simp [waits, waitingStates, htask])
      simp only [runState, htask, Machine.ensures_append, Machine.ensures_cons,
        Machine.ensures_ite, Machine.ensures_nil, and_true, implies_true]
      exact ⟨⟨hidle, .togglesToSink htask⟩, fun hup => .seesSink htask hup⟩
  | srcDisconnectedDebounce =>
      have hidle := hstays (by simp [waits, waitingStates, htask])
      have hmove : Outcome v (v.setState .srcDisconnected) := .moves (by simp [moves, htask])
      simp only [runState, htask, Machine.ensures_append, Machine.ensures_cons,
        Machine.ensures_ite, Machine.ensures_nil, and_true, implies_true]
      exact ⟨⟨hidle, hmove⟩, fun hup => .attachesSink htask hup⟩
  | srcHardResetRecover =>
      have hidle : Outcome v v := .stays (by simp [waits, waitingStates, htask])
      simp only [runState, htask, Machine.ensures_cons, Machine.ensures_nil, and_true]
      exact ⟨hidle, .recovers htask⟩
  | srcDiscovery =>
      have hidle := hstays (by simp [waits, waitingStates, htask])
      simp only [runState, htask, Machine.ensures_append, Machine.ensures_cons,
        Machine.ensures_ite, Machine.ensures_nil, and_true, implies_true]
      refine ⟨⟨hidle, v.armOnEntry_outcome ?_ (by simp [supplyStates, htask])⟩,
        fun _ => .sendsCaps htask⟩
      split <;> simp [timers, htask]
  | srcTransition =>
      have hready : Outcome v (v.setState .srcReady) := .moves (by simp [moves, htask])
      have hlost : Outcome v (v.setState .srcDisconnected) := .moves (by simp [moves, htask])
      simp only [runState, htask, Machine.ensures_cons, Machine.ensures_nil, and_true]
      split_ifs
      · exact hready
      · exact hlost
  | srcReady =>
      have hidle := hstays (by simp [waits, waitingStates, htask])
      have hcap : Outcome v (v.setState .srcGetSinkCap) := .moves (by simp [moves, htask])
      have hcaps : Outcome v (v.setState .srcNegociate) := .moves (by simp [moves, htask])
      have hsoft : Outcome v (v.setState .softReset) := .moves (by simp [moves, htask])
      simp only [runState, htask, Machine.ensures_append, Machine.ensures_cons,
        Machine.ensures_ite, Machine.ensures_nil, and_true]
      exact ⟨⟨hidle, hcap⟩, fun _ => hcaps, fun _ => hsoft⟩
  | srcSwapSrcDisable =>
      simp only [runState, htask, Machine.ensures_cons, Machine.ensures_nil, and_true]
      split_ifs with hentry
      · exact .cutsVbus htask
      · exact .stays (fun h => absurd h hentry)
  | srcSwapStandby =>
      simp only [runState, htask, Machine.ensures_cons, Machine.ensures_nil, and_true]
      split_ifs with hentry htx
      · exact .becomesSink htask
      · exact .staysSource htask hentry (by simpa using htx)
      · exact .stays (fun h => absurd h hentry)
  | softReset =>
      have htimer : v.entering = true → Outcome v (v.arm .hardResetSend) :=
        fun h => .arms h (by simp [timers, htask]) (by simp [supplyStates, htask])
      have hsend : Outcome v (v.setState .hardResetSend) := .moves (by simp [moves, htask])
      simp only [runState, htask, Machine.ensures_cons, Machine.ensures_nil, and_true]
      split_ifs with hentry
      · exact htimer hentry
      · exact hsend
      · exact .stays (fun h => absurd h hentry)
  | hardResetSend =>
      simp only [runState, htask, Machine.ensures_cons, Machine.ensures_nil, and_true]
      exact ⟨v.hardResetSend_outcome htask true, v.hardResetSend_outcome htask false⟩
  | hardResetExecute =>
      simp only [runState, htask, Machine.ensures_cons, Machine.ensures_nil, and_true]
      exact .executesReset htask
  | drSwap =>
      have := v.sendOnEntry_outcome (s := v.readyReturnState)
        (by simp [timers, htask, readyReturnState, roleIfElse]) (by simp [supplyStates, htask])
        (by simp [moves, htask])
      simpa [runState, htask] using this
  | snkSwapInit =>
      have := v.sendOnEntry_outcome (s := .snkReady)
        (by simp [timers, htask]) (by simp [supplyStates, htask]) (by simp [moves, htask])
      simpa [runState, htask] using this
  | srcSwapInit =>
      have := v.sendOnEntry_outcome (s := .srcReady)
        (by simp [timers, htask]) (by simp [supplyStates, htask]) (by simp [moves, htask])
      simpa [runState, htask] using this
  | snkTransition | snkSwapSrcDisable | srcStartup | srcNegociate | srcAccepted | srcPowered
  | srcGetSinkCap | srcSwapSnkDisable =>
      simp only [runState, htask, Machine.ensures_cons, Machine.ensures_nil, and_true]
      exact v.armOnEntry_outcome (by simp [timers, htask]) (by simp [supplyStates, htask])

/-! The tail of an iteration. -/

/-- The timer may fire, then a source that neither toggles nor swaps may lose
its sink. -/
theorem finish_ensures {Q : Control → Prop} {thisState : PdState}
    (hnone : Q (v.setLast thisState))
    (htimer : v.armed = true → Q ((v.setLast thisState).setState v.timeoutState))
    (hdetach : ∀ w : Control, Q w → w.connected = true → w.powerSwapping = false →
      w.role = .source → Q ((w.note .detach).setState .srcDisconnected)) :
    Machine.Ensures (v.finish thisState) Q := by
  refine Machine.Ensures.flatMap (P := Q) ?_ ?_
  · unfold checkTimeout
    rw [Machine.ensures_ite]
    refine ⟨fun harmed => ?_, fun _ => by simpa using hnone⟩
    simp only [Machine.ensures_cons, Machine.ensures_nil, and_true]
    exact ⟨hnone, htimer harmed⟩
  · intro w hw
    unfold checkDetach
    rw [Machine.ensures_ite]
    refine ⟨fun h => ?_, fun _ => by simpa using hw⟩
    simp only [Machine.ensures_cons, Machine.ensures_nil, and_true]
    exact ⟨hw, hdetach w hw h.1 (by simpa using h.2.1) h.2.2⟩

/-! Suspension: nothing asks for it, so it never happens. -/

theorem Reaction.suspending {v w : Control} {kind : MsgKind} (h : Reaction v kind w) :
    w.suspending = v.suspending := by
  cases h <;> simp [executeSoftReset]

theorem receive_suspending {kind : Option MsgKind} {w : Control} (hw : w ∈ v.receive kind) :
    w.suspending = v.suspending := by
  rcases v.receive_reaction hw with rfl | ⟨k, -, -, hreaction⟩
  · rfl
  · exact hreaction.suspending

theorem Outcome.suspending {v w : Control} (h : Outcome v w) (hv : v.suspending = false) :
    w.suspending = false := by
  cases h with
  | executesReset =>
      rw [executeHardReset_eq]
      split <;> exact hv
  | _ => simp [hv, attachSource, attachSink]

theorem runSwitch_suspending (h : v.suspending = false) :
    Machine.Ensures v.runSwitch fun w => w.suspending = false := by
  refine Machine.Ensures.flatMap (v.runState_outcome) ?_
  intro w hw
  have hw' := hw.suspending h
  exact w.finish_ensures hw' (fun _ => by simpa using hw') (fun u hu _ _ _ => by simpa using hu)

/-- The iteration of a port that is not asked to suspend. -/
theorem iterate_ensures {reset : Bool} {kind : Option MsgKind} {Q : Control → Prop}
    (h : v.suspending = false)
    (hQ : ∀ w ∈ (v.applyReset reset).receive kind, Machine.Ensures w.runSwitch Q) :
    Machine.Ensures (v.iterate reset kind) Q := by
  refine Machine.Ensures.flatMap (P := fun w => w ∈ (v.applyReset reset).receive kind)
    (fun w hw => hw) ?_
  intro w hw
  have hsuspending : w.suspending = false := by
    rw [receive_suspending _ hw]
    cases reset <;> exact h
  rw [applySuspend, hsuspending]
  exact hQ w hw

/-! Alerts. -/

theorem completeTransmissions_eq (irq : Interrupts) :
    ∃ ok, v.completeTransmissions irq = v.setTx ok := by
  unfold completeTransmissions
  cases irq.collision <;> cases irq.txSuccess <;> cases irq.retryFail <;> cases irq.hardSent
  all_goals first
    | exact ⟨true, rfl⟩
    | exact ⟨false, rfl⟩
    | exact ⟨v.txOk, rfl⟩

/-- The states that a call from outside can lead to. -/
def callStates : List PdState :=
  [.softReset, .snkHardResetRecover, .srcHardResetRecover, .srcSwapInit, .snkSwapInit, .drSwap]

theorem task_of_call {v w : Control} {b : Board} {e : Event} (he : ∀ inp, e ≠ .iterate inp)
    (hw : w ∈ v.step b e) : w.task = v.task ∨ w.task ∈ callStates := by
  cases e with
  | iterate inp => exact absurd rfl (he inp)
  | alert irq now =>
      obtain ⟨ok, hok⟩ := v.completeTransmissions_eq irq
      obtain rfl := List.mem_singleton.1 hw
      unfold alert
      rw [hok]
      simp only
      split_ifs
      · right
        rcases (v.setTx ok).executeHardReset_task with htask | htask <;> rw [htask] <;> decide
      · exact .inl rfl
  | softReset | requestPowerSwap | requestDataSwap =>
      obtain rfl := List.mem_singleton.1 hw
      simp only [softResetCall, requestPowerSwap, requestDataSwap]
      split_ifs <;> simp [callStates]
  | _ =>
      obtain rfl := List.mem_singleton.1 hw
      exact .inl rfl

end Control

/-! Invariants of runs. -/

/-- `Inv` holds at the start and is kept by every step that satisfies `C`. -/
structure ControlInvariant (b : Board) (C : Port → Event → Prop) (Inv : Control → Prop) :
    Prop where
  start : Inv .start
  iterate : ∀ (p : Port) (inp : Input), C p (.iterate inp) → Inv p.control →
    ∀ w ∈ (p.control.applyReset inp.reset).receive (inp.message.map (PdMsg.kind b)),
      Machine.Ensures w.runSwitch Inv
  complete : ∀ (p : Port) (irq : Interrupts) (now : Nat) (ok : Bool),
    C p (.alert irq now) → Inv p.control → Inv (p.control.setTx ok)
  hardReset : ∀ (p : Port) (irq : Interrupts) (now : Nat) (ok : Bool),
    C p (.alert irq now) → irq.hardReset = true → Inv p.control →
      Inv (p.control.setTx ok).executeHardReset
  softReset : ∀ p : Port, C p .softReset → Inv p.control → Inv p.control.softResetCall
  powerSwap : ∀ p : Port, C p .requestPowerSwap → Inv p.control → Inv p.control.requestPowerSwap
  dataSwap : ∀ p : Port, C p .requestDataSwap → Inv p.control → Inv p.control.requestDataSwap

namespace ControlInvariant

variable {b : Board} {C : Port → Event → Prop} {Inv : Control → Prop}

theorem step (h : ControlInvariant b C Inv) (p : Port) (e : Event)
    (hsuspending : p.control.suspending = false) (hInv : Inv p.control) (hC : C p e) :
    Machine.Ensures (p.control.step b e) fun w => w.suspending = false ∧ Inv w := by
  cases e with
  | iterate inp =>
      refine Control.iterate_ensures _ hsuspending fun w hw => ?_
      refine Machine.Ensures.and (w.runSwitch_suspending ?_) (h.iterate p inp hC hInv w hw)
      rw [Control.receive_suspending _ hw]
      cases inp.reset <;> exact hsuspending
  | alert irq now =>
      obtain ⟨ok, hok⟩ := p.control.completeTransmissions_eq irq
      simp only [Control.step, Control.alert, hok, Machine.ensures_cons, Machine.ensures_nil,
        and_true]
      split_ifs with hirq
      · refine ⟨?_, h.hardReset p irq now ok hC hirq hInv⟩
        rw [Control.executeHardReset_eq]
        exact hsuspending
      · exact ⟨hsuspending, h.complete p irq now ok hC hInv⟩
  | softReset =>
      have hnew : p.control.softResetCall.suspending = false := by
        unfold Control.softResetCall
        split <;> simpa using hsuspending
      simpa [Control.step] using ⟨hnew, h.softReset p hC hInv⟩
  | requestPowerSwap =>
      have hnew : p.control.requestPowerSwap.suspending = false := by
        unfold Control.requestPowerSwap
        split_ifs <;> simpa using hsuspending
      simpa [Control.step] using ⟨hnew, h.powerSwap p hC hInv⟩
  | requestDataSwap =>
      have hnew : p.control.requestDataSwap.suspending = false := by
        unfold Control.requestDataSwap
        split <;> simpa using hsuspending
      simpa [Control.step] using ⟨hnew, h.dataSwap p hC hInv⟩
  | _ => simpa [Control.step] using ⟨hsuspending, hInv⟩

/-- A step of the port keeps what the control machine keeps. -/
theorem port_step (h : ControlInvariant b C Inv) {p : Port} {e : Event}
    (hsuspending : p.control.suspending = false) (hInv : Inv p.control) (hC : C p e) :
    (p.step b e).control.suspending = false ∧ Inv (p.step b e).control :=
  h.step p e hsuspending hInv hC _ (p.control_step_mem b e)

/-- What the control machine keeps under `C`, the port keeps in every run whose
steps satisfy `C`. -/
theorem after (h : ControlInvariant b C Inv) {es : List Event} (hes : Port.AllSteps b C es) :
    Inv (Port.after b es).control := by
  have hstep : ∀ (v : Control) (e : Event), (v.suspending = false ∧ Inv v) →
      (∃ p : Port, p.control = v ∧ C p e) →
      Machine.Ensures (v.step b e) fun w => w.suspending = false ∧ Inv w := by
    rintro v e ⟨hsuspending, hInv⟩ ⟨p, rfl, hC⟩
    exact h.step p e hsuspending hInv hC
  have hsetup : Port.setup.control.suspending = false ∧ Inv Port.setup.control := by
    rw [Port.control_setup]
    exact ⟨rfl, h.start⟩
  exact ((Port.control_refines b).invariant (fun p e hC => ⟨p, rfl, hC⟩) hstep hsetup hes).2

/-- An invariant under no condition holds in every state reached. -/
theorem always (h : ControlInvariant b (fun _ _ => True) Inv) (es : List Event) :
    Inv (Port.after b es).control :=
  h.after (Machine.along_of_forall (fun _ _ => trivial) _ es)

end ControlInvariant

/-! Nothing suspends a port that `setup` started. -/

theorem Control.awake_invariant (b : Board) :
    ControlInvariant b (fun _ _ => True) fun v => v.suspending = false where
  start := rfl
  iterate := by
    intro p inp _ h w hw
    refine w.runSwitch_suspending ?_
    rw [receive_suspending _ hw, applyReset_suspending]
    exact h
  complete := fun _ _ _ _ _ h => h
  hardReset := by
    intro p irq now ok _ _ h
    rw [executeHardReset_eq]
    exact h
  softReset := by
    intro p _ h
    unfold softResetCall
    split
    · rwa [setState_suspending]
    · exact h
  powerSwap := by
    intro p _ h
    unfold requestPowerSwap
    split_ifs
    · rwa [setState_suspending]
    · rwa [setState_suspending]
    · exact h
  dataSwap := by
    intro p _ h
    unfold requestDataSwap
    split
    · rwa [setState_suspending]
    · exact h

namespace Port

theorem awake_after (b : Board) (es : List Event) : (after b es).control.suspending = false :=
  (Control.awake_invariant b).always es

theorem applySuspend_eq {p : Port} (h : p.control.suspending = false) : p.applySuspend = p := by
  have hawake : p.pd.reqSuspendState = false := h
  simp [applySuspend, hawake]

/-- The switch finds the port as the message leaves it. -/
theorem beforeSwitch_eq {p : Port} (h : p.control.suspending = false) (b : Board) (inp : Input) :
    p.beforeSwitch b inp = (p.beforeMessage inp).receive b inp := by
  refine applySuspend_eq ?_
  rw [Control.receive_suspending _ ((p.beforeMessage inp).control_receive_mem b inp),
    control_beforeMessage, Control.applyReset_suspending]
  exact h

end Port

end UsbPd
