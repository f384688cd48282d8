import UsbPd.Control.Rules
import UsbPd.Frame.Step

/-!
# Disconnects

The flags that describe the partner are to be cleared on a disconnect. No state
change clears them, so after a disconnect they are what they were before.
-/

namespace UsbPd

/-- A flag of `PD_FLAGS_RESET_ON_DISCONNECT_MASK` is set. -/
def PdFlags.describesPartner (f : PdFlags) : Bool :=
  f.partnerDrPower || f.partnerDrData || f.checkIdentity || f.snkCapRecvd || f.explicitContract ||
    f.previousPdConn || f.checkPrRole || f.checkDrRole || f.partnerExtpower || f.trySrc ||
    f.partnerUsbComm || f.updateSrcCaps || f.tsDtsPartner

/-- The parts of a port that hold these flags. -/
def partnerParts : List Part :=
  [.partner, .identity, .snkCapRecvd, .contract, .previousPdConn, .roleChecks, .trySrc,
    .updateSrcCaps, .tsDtsPartner]

/-- The states without a partner. -/
def detachedStates : List PdState :=
  [.disabled, .snkDisconnected, .snkDisconnectedDebounce, .srcDisconnected,
    .srcDisconnectedDebounce]

/-- The states that a disconnect leads to. -/
def disconnectedStates : List PdState := [.snkDisconnected, .srcDisconnected]

namespace Port

/-- The phases of an event, each with the port before and after it; a phase
changes the state at most once. -/
def phases (b : Board) (p : Port) : Event → List (Port × Port)
  | .iterate inp =>
    let received := (p.beforeMessage inp).receive b inp
    let entered := received.applySuspend
    let switched := entered.runState b inp
    let timed := (switched.setLast entered.pd.taskState).checkTimeout (inp.time .tail)
    [(p, p.beforeMessage inp), (p.beforeMessage inp, received), (received, entered),
      (entered, switched), (switched, timed), (timed, p.step b (.iterate inp))]
  | e => [(p, p.step b e)]

/-- A connected port becomes disconnected. -/
def Disconnects (p q : Port) : Prop :=
  p.pd.taskState ∉ detachedStates ∧ q.pd.taskState ∈ disconnectedStates

/-- After a disconnect no flag describes the old partner. -/
def ForgetsPartner (b : Board) (p : Port) (e : Event) : Prop :=
  ∀ t ∈ p.phases b e, t.1.Disconnects t.2 → t.2.pd.flags.describesPartner = false

/-- Before a disconnect no flag describes the partner. -/
def NothingToForget (b : Board) (p : Port) (e : Event) : Prop :=
  ∀ t ∈ p.phases b e, t.1.Disconnects t.2 → t.1.pd.flags.describesPartner = false

instance decidableDisconnects (p q : Port) : Decidable (p.Disconnects q) :=
  inferInstanceAs (Decidable (_ ∧ _))

instance decidableForgetsPartner (b : Board) (p : Port) (e : Event) :
    Decidable (p.ForgetsPartner b e) :=
  inferInstanceAs (Decidable (∀ t ∈ p.phases b e, t.1.Disconnects t.2 → _ = _))

theorem describesPartner_of_does {W : List Part} {K : List CallKind} {p q : Port}
    (h : Does W K p q) (hW : ∀ x ∈ partnerParts, x ∉ W) :
    q.pd.flags.describesPartner = p.pd.flags.describesPartner := by
  have hkeeps : ∀ x ∈ partnerParts, q.part x = p.part x := fun x hx => h.keeps x (hW x hx)
  obtain ⟨hdrPower, hrest⟩ := Prod.mk.inj (hkeeps .partner (by decide))
  obtain ⟨hdrData, hrest⟩ := Prod.mk.inj hrest
  obtain ⟨hextpower, hcomm⟩ := Prod.mk.inj hrest
  obtain ⟨hpr, hdr⟩ := Prod.mk.inj (hkeeps .roleChecks (by decide))
  have hidentity : q.pd.flags.checkIdentity = p.pd.flags.checkIdentity :=
    hkeeps .identity (by decide)
  have hsnk : q.pd.flags.snkCapRecvd = p.pd.flags.snkCapRecvd := hkeeps .snkCapRecvd (by decide)
  have hcontract : q.pd.flags.explicitContract = p.pd.flags.explicitContract :=
    hkeeps .contract (by decide)
  have hprevious : q.pd.flags.previousPdConn = p.pd.flags.previousPdConn :=
    hkeeps .previousPdConn (by decide)
  have htry : q.pd.flags.trySrc = p.pd.flags.trySrc := hkeeps .trySrc (by decide)
  have hupdate : q.pd.flags.updateSrcCaps = p.pd.flags.updateSrcCaps :=
    hkeeps .updateSrcCaps (by decide)
  have hdts : q.pd.flags.tsDtsPartner = p.pd.flags.tsDtsPartner := hkeeps .tsDtsPartner (by decide)
  unfold PdFlags.describesPartner
  rw [hdrPower, hdrData, hextpower, hcomm, hpr, hdr, hidentity, hsnk, hcontract, hprevious, htry,
    hupdate, hdts]

end Port

/-! Which messages and which states disconnect. -/

namespace Control

variable {v w : Control}

theorem roleIfElse_notMem {a c : PdState} (ha : a ∉ disconnectedStates)
    (hc : c ∉ disconnectedStates) : v.roleIfElse a c ∉ disconnectedStates := by
  unfold roleIfElse
  cases v.role
  · exact ha
  · exact hc

/-- No control message disconnects. -/
theorem handleCtrl_disconnects (type : Option CtrlMsgType)
    (h : (v.handleCtrl type).task ∈ disconnectedStates) : v.task ∈ disconnectedStates := by
  by_contra hv
  revert h
  have hset : ∀ (u : Control) {s : PdState}, s ∉ disconnectedStates →
      (u.setState s).task ∉ disconnectedStates := by
    intro u s hs
    rwa [setState_task]
  have hsoft : v.executeSoftReset.task ∉ disconnectedStates :=
    hset v (roleIfElse_notMem (by decide) (by decide))
  have hready : ∀ u : Control, (u.setState v.readyReturnState).task ∉ disconnectedStates :=
    fun u => hset u (roleIfElse_notMem (by decide) (by decide))
  have hreject : ∀ wait, (v.handleRejectWait wait).task ∉ disconnectedStates := by
    intro wait
    unfold handleRejectWait
    split_ifs <;> first | exact hready v | exact hset v (by decide) | exact hv
  cases type with
  | none => exact hv
  | some type =>
      cases type with
      | getSourceCap =>
          unfold handleCtrl
          split_ifs
          · exact hset v (by decide)
          · exact hv
      | psRdy =>
          unfold handleCtrl handlePsRdy
          split_ifs <;> first | exact hset _ (by decide) | exact hv
      | reject => exact hreject false
      | wait => exact hreject true
      | accept =>
          unfold handleCtrl handleAccept
          split_ifs <;> first | exact hsoft | exact hready v | exact hset _ (by decide) | exact hv
      | softReset => exact hsoft
      | _ => exact hv

/-- Of the data messages, BIST does. -/
theorem handle_disconnects {kind : MsgKind} (hw : w ∈ v.handle kind)
    (hv : v.task ∉ disconnectedStates) (h : w.task ∈ disconnectedStates) :
    ∃ acceptable, kind = .data (some .bist) acceptable := by
  unfold handle at hw
  by_cases hconn : v.connected = true
  swap
  · rw [if_pos hconn, List.mem_singleton] at hw
    rw [hw] at h
    exact absurd h hv
  rw [if_neg (not_not.2 hconn)] at hw
  cases kind with
  | ctrl type =>
      rw [List.mem_singleton.1 hw] at h
      exact absurd (handleCtrl_disconnects type h) hv
  | data type acceptable =>
      have hstays : w ∈ [v] → False := by
        intro hmem
        rw [List.mem_singleton.1 hmem] at h
        exact hv h
      have hgoes : ∀ (u : Control) {s : PdState}, s ∉ disconnectedStates →
          w ∈ [u.setState s] → False := by
        intro u s hs hmem
        rw [List.mem_singleton.1 hmem, setState_task] at h
        exact hs h
      cases type with
      | none => exact (hstays hw).elim
      | some type =>
          cases type with
          | bist => exact ⟨acceptable, rfl⟩
          | sourceCap =>
              simp only [handleData] at hw
              split_ifs at hw
              · exact (hgoes _ (by decide) hw).elim
              · exact (hstays hw).elim
          | request =>
              simp only [handleData] at hw
              split_ifs at hw
              · exact (hgoes _ (by decide) hw).elim
              · exact (hstays hw).elim
              · exact (hgoes _ (by decide) hw).elim
          | sinkCap =>
              simp only [handleData] at hw
              split_ifs at hw
              · exact (hgoes _ (by decide) hw).elim
              · exact (hstays hw).elim
          | vendorDef => exact (hstays hw).elim

/-- The connected states whose case of the switch disconnects. -/
def disconnectingStates : List PdState :=
  [.suspended, .srcTransition, .srcSwapStandby, .snkSwapComplete]

theorem moves_disconnects : ∀ s, s ∉ detachedStates → ∀ t ∈ moves s,
    t ∈ disconnectedStates → s ∈ disconnectingStates := by
  intro s
  cases s <;> decide

theorem Outcome.disconnects (h : Outcome v w) (hv : v.task ∉ detachedStates)
    (hw : w.task ∈ disconnectedStates) : v.task ∈ disconnectingStates := by
  have hkept : v.task ∉ disconnectedStates := fun hmem => hv (by
    rcases List.mem_cons.1 hmem with htask | hmem
    · simp [htask, detachedStates]
    · simp [List.mem_singleton.1 hmem, detachedStates])
  have hset : ∀ (u : Control) {s : PdState}, s ∉ disconnectedStates →
      (u.setState s).task ∈ disconnectedStates → v.task ∈ disconnectingStates := by
    intro u s hs hmem
    rw [setState_task] at hmem
    exact absurd hmem hs
  cases h with
  | moves hs => exact moves_disconnects _ hv _ hs (by simpa using hw)
  | resumes htask => simp [htask, disconnectingStates]
  | togglesToSource htask => simp [htask, detachedStates] at hv
  | togglesToSink htask => simp [htask, detachedStates] at hv
  | seesSource htask => simp [htask, detachedStates] at hv
  | attachesSource htask => simp [htask, detachedStates] at hv
  | seesSink htask => simp [htask, detachedStates] at hv
  | attachesSink htask => simp [htask, detachedStates] at hv
  | becomesSource htask => simp [htask, disconnectingStates]
  | staysSink htask => simp [htask, disconnectingStates]
  | staysSource htask => simp [htask, disconnectingStates]
  | recovers => exact hset _ (by decide) hw
  | sendsCaps => exact absurd hw (by simp [setFew, disconnectedStates])
  | sendsResetAtOnce => exact hset _ (by decide) hw
  | executesReset =>
      rw [executeHardReset_eq] at hw
      split at hw <;> cases hrole : v.role <;> simp [hrole, disconnectedStates] at hw
  | _ => exact absurd hw hkept

end Control

/-! The phases keep the flags when they disconnect. -/

theorem PdMsg.writes_bist {m : PdMsg} (h : m.isData .bist = true) :
    m.writes = dataWrites (some .bist) := by
  simp only [isData, decide_eq_true_eq] at h
  rw [writes, if_pos h.1, h.2]

theorem notMem_disconnectedStates {s : PdState} (h : s ∉ detachedStates) :
    s ∉ disconnectedStates := by
  revert h
  cases s <;> decide

namespace Port

variable (b : Board) (p : Port)

theorem describesPartner_handleRequest (now : Nat) (m : PdMsg)
    (h : p.Disconnects (p.handleRequest b now m)) :
    (p.handleRequest b now m).pd.flags.describesPartner = p.pd.flags.describesPartner := by
  obtain ⟨a, hkind⟩ := Control.handle_disconnects (p.control_handleRequest_mem b now m)
    (notMem_disconnectedStates h.1) h.2
  have hdoes := p.does_handleRequest b now m
  rw [PdMsg.writes_bist (PdMsg.isData_of_kind hkind)] at hdoes
  exact describesPartner_of_does hdoes (by decide)

theorem describesPartner_receive (inp : Input) (h : p.Disconnects (p.receive b inp)) :
    (p.receive b inp).pd.flags.describesPartner = p.pd.flags.describesPartner := by
  unfold receive at h ⊢
  cases hm : inp.message with
  | none => rfl
  | some m =>
      rw [hm] at h
      exact (p.record (.received m)).describesPartner_handleRequest b (inp.time .message) m h

theorem describesPartner_runState (inp : Input) (h : p.Disconnects (p.runState b inp)) :
    (p.runState b inp).pd.flags.describesPartner = p.pd.flags.describesPartner := by
  have hstate : p.pd.taskState ∈ Control.disconnectingStates :=
    (p.control.runState_outcome _ (control_runState_mem b p inp)).disconnects h.1 h.2
  refine describesPartner_of_does (p.does_runState b inp) ?_
  generalize p.pd.taskState = s at hstate
  revert s
  decide

theorem describesPartner_call {e : Event} (he : e.iterates = false) :
    (p.step b e).pd.flags.describesPartner = p.pd.flags.describesPartner := by
  refine describesPartner_of_does (p.does_call b he) ?_
  cases e <;> simp [partnerParts, Event.writes]

/-- A phase that disconnects leaves the flags as they are. -/
theorem describesPartner_phase {e : Event} {t : Port × Port} (ht : t ∈ p.phases b e)
    (h : t.1.Disconnects t.2) :
    t.2.pd.flags.describesPartner = t.1.pd.flags.describesPartner := by
  cases e with
  | iterate inp =>
      simp only [phases, List.mem_cons, List.not_mem_nil, or_false] at ht
      rcases ht with rfl | rfl | rfl | rfl | rfl | rfl
      · exact describesPartner_of_does (p.does_beforeMessage inp) (by decide)
      · exact describesPartner_receive b _ inp h
      · exact describesPartner_of_does (does_applySuspend _) (by decide)
      · exact describesPartner_runState b _ inp h
      · exact describesPartner_of_does ((does_setLast _ _).trans (does_checkTimeout _ _))
          (by decide)
      · change (p.pdRunStateMachine b inp).pd.flags.describesPartner = _
        unfold pdRunStateMachine finish
        simp only [checkSinkDetach_eq]
        split_ifs
        · rfl
        · exact describesPartner_of_does (does_checkSourceDetach _ inp) (by decide)
  | _ =>
      simp only [phases, List.mem_singleton] at ht
      subst ht
      exact p.describesPartner_call b rfl

/-- In every run, the disconnects forget the partner exactly when there was
nothing to forget. -/
theorem forgetsPartner_iff (es : List Event) :
    AllSteps b (fun p e => p.ForgetsPartner b e) es ↔
      AllSteps b (fun p e => p.NothingToForget b e) es := by
  refine Machine.along_congr (fun p e => ?_) _ _
  refine forall₂_congr fun t ht => imp_congr_right fun hdisc => ?_
  rw [p.describesPartner_phase b ht hdisc]

/-- A source whose sink is taken off keeps the contract, among other flags. -/
theorem not_forgetsPartner_detach :
    ¬ ∀ es : List Event, AllSteps .shipped (fun p e => p.ForgetsPartner .shipped e) es := by
  intro h
  have hforgets := h (attachAsSource ++
    [iterateAt 200000 rdOnCc1 none, iterateAt 210000 rdOnCc1 none, iterateAt 220000 rdOnCc1 none,
      iterateAt 230000 rdOnCc1 (some (dataMsg .request [rdoFixed 1 500 500 0] (by decide))),
      iterateAt 240000 openCc none])
  revert hforgets
  decide +kernel

end Port

end UsbPd
