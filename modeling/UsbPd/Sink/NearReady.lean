import UsbPd.Link.Wire
import UsbPd.Sink.Limit

/-!
# Near `PD_STATE_SNK_READY`

A sink is near `PD_STATE_SNK_READY` when it is there or comes back to it without
asking for power again: a swap may be refused, and the timer may lead back. It gets
near by an answer to its Request only, and it sends no Request while it stays near.
-/

namespace UsbPd

namespace Control

/-- The port is in `PD_STATE_SNK_READY`, waits for the answer to a swap that it has
asked for as a sink, or has a timer that leads to `PD_STATE_SNK_READY`. -/
def NearReady (v : Control) : Prop :=
  v.task = .snkReady ∨ v.task = .snkSwapInit ∨ (v.task = .drSwap ∧ v.role = .sink) ∨
    v.timeoutState = .snkReady

instance decidableNearReady (v : Control) : Decidable v.NearReady :=
  inferInstanceAs (Decidable (_ ∨ _))

variable {v w : Control}

theorem NearReady.of_setState {s : PdState} (h : (v.setState s).NearReady) :
    s = .snkReady ∨ s = .snkSwapInit ∨ (s = .drSwap ∧ v.role = .sink) := by
  simpa [NearReady] using h

theorem not_nearReady_setState {s : PdState} (hs : s ∉ [.snkReady, .snkSwapInit, .drSwap]) :
    ¬ (v.setState s).NearReady := by
  intro h
  rcases h.of_setState with rfl | rfl | ⟨rfl, -⟩ <;> simp at hs

theorem NearReady.congr (h : w.NearReady) (htask : w.task = v.task) (hrole : w.role = v.role)
    (htimer : w.timeoutState = v.timeoutState) : v.NearReady := by
  unfold NearReady at h ⊢
  rwa [htask, hrole, htimer] at h

theorem NearReady.of_applyReset {reset : Bool} (h : (v.applyReset reset).NearReady) :
    v.NearReady := by
  cases reset with
  | false => exact h
  | true =>
      rcases h with htask | htask | ⟨htask, -⟩ | htimer
      · cases htask
      · cases htask
      · cases htask
      · exact .inr (.inr (.inr htimer))

/-- A message brings a port near that was near, that takes power, or whose Request
is refused or postponed under a contract. -/
theorem nearReady_of_reaction {kind : MsgKind} (h : Reaction v kind w) (hw : w.NearReady) :
    v.NearReady ∨
      (kind = .ctrl (some .psRdy) ∧ v.role = .sink ∧ v.task ≠ .snkSwapSrcDisable ∧
        v.task ≠ .srcSwapStandby ∧ v.task ≠ .snkDiscovery ∧ v.task ≠ .snkSwapStandby) ∨
      ((kind = .ctrl (some .reject) ∨ kind = .ctrl (some .wait)) ∧ v.task = .snkRequested ∧
        v.explicit = true) := by
  cases h with
  | ignored => exact .inl hw
  | powered hkind hrole htask => exact .inr (.inl ⟨hkind, hrole, htask⟩)
  | retryLater htask hcontract hkind => exact .inr (.inr ⟨.inr hkind, htask, hcontract⟩)
  | keptContract htask hcontract hkind => exact .inr (.inr ⟨.inl hkind, htask, hcontract⟩)
  | snkSwapRefused htask => exact .inl (.inr (.inl htask))
  | dataSwapOver htask =>
      cases hrole : v.role with
      | sink => exact .inl (.inr (.inr (.inl ⟨htask, hrole⟩)))
      | source =>
          refine absurd hw (not_nearReady_setState ?_)
          rw [readyReturnState, roleIfElse, hrole]
          decide
  | tested | softAccepted | softReset =>
      refine absurd hw (not_nearReady_setState ?_)
      unfold roleIfElse
      cases v.role <;> decide
  | _ => exact absurd hw (not_nearReady_setState (by decide))

theorem timers_nearReady : ∀ r s, .snkReady ∈ timers r s → s ≠ .snkRequested →
    s = .snkSwapInit ∨ (s = .drSwap ∧ r = .sink) := by
  intro r s
  cases r <;> cases s <;> decide

theorem moves_nearReady : ∀ s, ∀ t ∈ moves s, t ∉ [PdState.snkReady, .snkSwapInit, .drSwap] := by
  intro s
  cases s <;> decide

/-- The switch brings no port near. -/
theorem nearReady_of_outcome (h : Outcome v w) (htask : v.task ≠ .snkRequested)
    (hw : w.NearReady) : v.NearReady := by
  have harm : ∀ {s : PdState}, s ≠ .snkReady → (v.arm s).NearReady → v.NearReady := by
    rintro s hs (h | h | h | h)
    · exact .inl h
    · exact .inr (.inl h)
    · exact .inr (.inr (.inl h))
    · exact absurd h hs
  cases h with
  | stays => exact hw
  | @arms s _ hs =>
      by_cases hready : s = .snkReady
      · rcases timers_nearReady _ _ (hready ▸ hs) htask with hswap | hswap
        · exact .inr (.inl hswap)
        · exact .inr (.inr (.inl hswap))
      · exact harm hready hw
  | moves hs => exact absurd hw (not_nearReady_setState (moves_nearReady _ _ hs))
  | requests h => exact absurd h htask
  | sentReset | failsReset => exact hw.congr rfl rfl rfl
  | executesReset =>
      rw [executeHardReset_eq] at hw
      split at hw <;> cases hrole : v.role <;> simp [NearReady, hrole, setPull] at hw
  | drivesVbus h | cutsVbus h | becomesSink h | sendsReset h =>
      rcases hw with hw | hw | ⟨hw, -⟩ | hw
      · simp [h] at hw
      · simp [h] at hw
      · simp [h] at hw
      · cases hw
  | togglesToSource | togglesToSink | sendsCaps | attachesSource | attachesSink =>
      simp [NearReady, setPull, setFew, attachSource, attachSink] at hw
  | _ => exact absurd hw (not_nearReady_setState (by decide))

/-- The tail brings no port near. -/
theorem nearReady_finish (hrests : v.Rests) (thisState : PdState) :
    Machine.Ensures (v.finish thisState) fun w => w.NearReady → v.NearReady := by
  refine v.finish_ensures (fun hw => hw.congr rfl rfl rfl) (fun _ hw => ?_) fun w _ _ _ _ hw => ?_
  · have htimer := hrests.timeoutState
    rcases hw.of_setState with hs | hs | ⟨hs, -⟩
    · exact .inr (.inr (.inr hs))
    · simp [hs, untimedStates] at htimer
    · simp [hs, untimedStates] at htimer
  · exact absurd hw (not_nearReady_setState (by decide))

/-- No call from outside brings a port near. -/
theorem nearReady_of_call {b : Board} {e : Event} (he : e.iterates = false) (hw : w ∈ v.step b e)
    (hnear : w.NearReady) : v.NearReady := by
  cases e with
  | iterate => cases he
  | alert irq now =>
      obtain ⟨ok, hok⟩ := v.completeTransmissions_eq irq
      obtain rfl := List.mem_singleton.1 hw
      unfold alert at hnear
      rw [hok] at hnear
      simp only at hnear
      split_ifs at hnear
      · rw [executeHardReset_eq] at hnear
        cases hrole : v.role <;> simp [NearReady, setTx, hrole] at hnear
      · exact hnear.congr rfl rfl rfl
  | softReset =>
      obtain rfl := List.mem_singleton.1 hw
      unfold softResetCall at hnear
      split_ifs at hnear
      · exact absurd hnear (not_nearReady_setState (by decide))
      · exact hnear
  | requestPowerSwap =>
      obtain rfl := List.mem_singleton.1 hw
      unfold requestPowerSwap at hnear
      split_ifs at hnear with hsource hsink
      · exact absurd hnear (not_nearReady_setState (by decide))
      · exact .inl hsink
      · exact hnear
  | requestDataSwap =>
      obtain rfl := List.mem_singleton.1 hw
      unfold requestDataSwap at hnear
      split_ifs at hnear with hready
      · rcases hnear.of_setState with hs | hs | ⟨-, hrole⟩
        · cases hs
        · cases hs
        · rw [readyReturnState, roleIfElse, hrole] at hready
          exact .inl hready
      · exact hnear
  | _ =>
      obtain rfl := List.mem_singleton.1 hw
      exact hnear

end Control

/-! Requests among the calls. -/

/-- From `p` to `q` no Request is sent. -/
def AsksNothing (p q : Port) : Prop := ∃ new, q.log = new ++ p.log ∧ ∀ c ∈ new, c.kind ≠ .request

namespace AsksNothing

variable {p q r : Port}

theorem refl (p : Port) : AsksNothing p p := ⟨[], rfl, by simp⟩

theorem trans (h : AsksNothing p q) (h' : AsksNothing q r) : AsksNothing p r := by
  obtain ⟨new, hnew, hkind⟩ := h
  obtain ⟨new', hnew', hkind'⟩ := h'
  refine ⟨new' ++ new, by rw [hnew', hnew, List.append_assoc], fun c hc => ?_⟩
  rcases List.mem_append.1 hc with hc | hc
  · exact hkind' c hc
  · exact hkind c hc

theorem of_does {W : List Part} {K : List CallKind} (h : Does W K p q) (hK : .request ∉ K) :
    AsksNothing p q := by
  obtain ⟨new, hnew, hkind⟩ := h.adds
  exact ⟨new, hnew, fun c hc heq => hK (heq ▸ hkind c hc)⟩

/-- None of the messages that are added is a Request. -/
theorem newMsgs (h : AsksNothing p q) : ∀ m ∈ Port.newMsgs p q, m.isData .request = false := by
  obtain ⟨new, hnew, hkind⟩ := h
  intro m hm
  rw [Port.newMsgs, hnew, sentMsgs_append, List.drop_left] at hm
  obtain ⟨c, hc, hsent⟩ := exists_of_mem_sentMsgs hm
  exact eq_false_of_ne_true fun hrequest => hkind c hc ((Call.kind_of_sent hsent).1 hrequest)

end AsksNothing

namespace Port

variable {p : Port}

/-- The message answers a Request, as the port takes it: a PS_RDY that makes it take
power, or a Reject or a Wait under a contract. -/
def heedsAnswer (p : Port) (m : PdMsg) : Bool :=
  (m.isCtrl .psRdy && p.takesPower) || ((m.isCtrl .reject || m.isCtrl .wait) && p.takesWait)

/-- New capabilities are requested from in `PD_STATE_SNK_READY`, and the Request
fails. -/
def failsInReady (p : Port) (m : PdMsg) : Bool :=
  m.isData .sourceCap && p.pd.taskState == .snkReady && p.pd.txStatus != .success

/-- New capabilities that are requested from take the port away. -/
theorem not_nearReady_handleSourceCap (hrests : p.control.Rests) (htakes : p.takesCaps = true)
    (htx : p.pd.taskState = .snkReady → p.pd.txStatus = .success) (payload : List Word) :
    ¬ (p.handleSourceCap payload).control.NearReady := by
  intro hnear
  have hmem := p.control_handleSourceCap_mem payload true
  simp only [takesCaps, decide_eq_true_eq] at htakes
  simp only [Control.handleData] at hmem
  split_ifs at hmem with hsent
  · rw [List.mem_singleton.1 hmem] at hnear
    exact Control.not_nearReady_setState (by decide) hnear
  · rw [List.mem_singleton.1 hmem] at hnear
    have hfailed : p.pd.txStatus ≠ .success := fun h => hsent ⟨htakes, by simp [control, h]⟩
    have htask : p.pd.taskState = .snkDiscovery ∨ p.pd.taskState = .snkTransition := by
      rcases htakes with h | h | h
      · exact .inl h
      · exact .inr h
      · exact absurd (htx h) hfailed
    have hfits := hrests.fits
    change p.pd.timeoutState = _ ∨ p.pd.taskState = _ ∨
      ∃ r, p.pd.timeoutState ∈ Control.timers r p.pd.taskState at hfits
    change p.pd.taskState = _ ∨ p.pd.taskState = _ ∨ (p.pd.taskState = _ ∧ _) ∨
      p.pd.timeoutState = _ at hnear
    rcases htask with htask | htask
    · simp only [htask, reduceCtorEq, false_and, false_or] at hnear
      simp [htask, hnear, Control.timers] at hfits
    · simp only [htask, reduceCtorEq, false_and, false_or] at hnear
      simp [htask, hnear, Control.timers] at hfits

theorem isData_of_calls {m : PdMsg} (h : CallKind.request ∈ m.calls) :
    m.isData .sourceCap = true := by
  unfold PdMsg.calls at h
  split_ifs at h with hcnt
  · cases htype : DataMsgType.ofField (headerType m.head) with
    | none => simp [htype, dataCalls] at h
    | some type =>
        cases type with
        | sourceCap => simp [PdMsg.isData, hcnt, htype]
        | _ => simp [htype, dataCalls] at h
  · cases htype : CtrlMsgType.ofField (headerType m.head) with
    | none => simp [htype, ctrlCalls] at h
    | some type => cases type <;> simp [htype, ctrlCalls] at h

/-- The message of an iteration after which the port is near. -/
theorem nearReady_handleRequest (b : Board) (now : Nat) {m : PdMsg} (hrests : p.control.Rests)
    (hfails : p.failsInReady m = false) (h : (p.handleRequest b now m).control.NearReady) :
    (p.control.NearReady ∨ p.heedsAnswer m = true) ∧ AsksNothing p (p.handleRequest b now m) := by
  constructor
  · have hmem : (p.handleRequest b now m).control ∈ p.control.receive (some (m.kind b)) :=
      p.control_handleRequest_mem b now m
    rcases p.control.receive_reaction hmem with heq | ⟨k, hk, hconn, hreaction⟩
    · exact .inl (heq ▸ h)
    obtain rfl := Option.some.inj hk
    change p.pdIsConnected = true at hconn
    rcases Control.nearReady_of_reaction hreaction h with hnear | ⟨hkind, hpower⟩ | ⟨hkind, hwait⟩
    · exact .inl hnear
    · have htakes : p.takesPower = true := decide_eq_true ⟨hconn, hpower⟩
      exact .inr (by simp [heedsAnswer, PdMsg.isCtrl_of_kind hkind, htakes])
    · have htakes : p.takesWait = true := decide_eq_true hwait
      refine .inr ?_
      rcases hkind with hkind | hkind <;> simp [heedsAnswer, PdMsg.isCtrl_of_kind hkind, htakes]
  · by_cases hrequest : CallKind.request ∈ m.calls
    · have hm := isData_of_calls hrequest
      rw [handleRequest_sourceCap b p now hm] at h ⊢
      by_cases htakes : p.takesCaps = true
      · rw [if_pos (pdIsConnected_of_takesCaps htakes)] at h
        refine absurd h (not_nearReady_handleSourceCap hrests htakes (fun htask => ?_) _)
        simpa [failsInReady, hm, htask] using hfails
      · have hsame : p.handleSourceCap m.payload = p :=
          if_neg (by simpa [takesCaps] using htakes)
        rw [hsame, ite_self]
        exact .refl p
    · exact .of_does (p.does_handleRequest b now m) hrequest

/-- A Request is skipped, fails, or takes the port away. -/
theorem pdSendRequestMsg_leaves (p : Port) (always : Bool) :
    p.pdSendRequestMsg always = (0, p.clearNewPowerRequest) ∨ (p.pdSendRequestMsg always).1 ≠ 0 ∨
      ¬ (p.pdSendRequestMsg always).2.control.NearReady := by
  rw [pdSendRequestMsg_eq, sendBuiltRequest]
  simp only
  split_ifs with hskip hneg
  · exact .inl rfl
  · exact .inr (.inl (Int.ne_of_lt hneg))
  · refine .inr (.inr ?_)
    rw [control_setState]
    exact Control.not_nearReady_setState (by decide)

/-- The switch in `PD_STATE_SNK_READY`: a Request takes the port away. -/
theorem asksNothing_snkReady (h : p.snkReady.control.NearReady) : AsksNothing p p.snkReady := by
  by_cases hbusy : evt.rx = true ∨ p.pd.vdmState = .busy
  · have hswitch : p.snkReady = p := if_pos hbusy
    rw [hswitch]
    exact .refl p
  by_cases hnew : p.pd.newPowerRequest = true
  · have hswitch : p.snkReady = if (p.pdSendRequestMsg false).1 ≠ 0 then
        (p.pdSendRequestMsg false).2.setState .softReset else (p.pdSendRequestMsg false).2 := by
      rw [snkReady, if_neg hbusy, if_pos hnew]
    rw [hswitch] at h ⊢
    rcases p.pdSendRequestMsg_leaves false with hskip | hfail | haway
    · rw [hskip]
      exact .of_does p.does_clearNewPowerRequest (by decide)
    · rw [if_pos hfail, control_setState] at h
      exact absurd h (Control.not_nearReady_setState (by decide))
    · split_ifs at h
      · rw [control_setState] at h
        exact absurd h (Control.not_nearReady_setState (by decide))
      · exact absurd h haway
  · have hswitch : p.snkReady = p.readyChecks.getD p := by
      rw [snkReady, if_neg hbusy, if_neg hnew]
    rw [hswitch]
    cases hchecks : p.readyChecks with
    | none => exact .refl p
    | some q => exact .of_does (p.does_readyChecks hchecks) (by decide)

theorem nearReady_runState (b : Board) (inp : Input) (h : (p.runState b inp).control.NearReady) :
    p.control.NearReady ∧ AsksNothing p (p.runState b inp) := by
  constructor
  · by_cases htask : p.pd.taskState = .snkRequested
    · have hswitch : p.runState b inp = p.snkRequested inp := by rw [runState, htask]
      rw [hswitch, snkRequested] at h
      split_ifs at h
      · simp [Control.NearReady, control, htask] at h
      · exact h
    · exact Control.nearReady_of_outcome
        (p.control.runState_outcome _ (p.control_runState_mem b inp)) htask h
  · by_cases htask : p.pd.taskState = .snkReady
    · have hswitch : p.runState b inp = p.snkReady := by rw [runState, htask]
      rw [hswitch] at h ⊢
      exact asksNothing_snkReady h
    · refine .of_does (p.does_runState b inp) ?_
      revert htask
      generalize p.pd.taskState = s
      cases s <;> decide

theorem nearReady_receive (b : Board) (inp : Input) (hrests : p.control.Rests)
    (hfails : ∀ m, inp.message = some m → (p.dispatching inp m).failsInReady m = false)
    (h : ((p.beforeMessage inp).receive b inp).control.NearReady) :
    (p.control.NearReady ∨
      ∃ m, inp.message = some m ∧ (p.dispatching inp m).heedsAnswer m = true) ∧
      AsksNothing p ((p.beforeMessage inp).receive b inp) := by
  have hquiet : AsksNothing p (p.beforeMessage inp) :=
    .of_does (p.does_beforeMessage inp) (by decide)
  have hbefore : (p.beforeMessage inp).control.Rests := by
    rw [control_beforeMessage]
    exact hrests.applyReset inp.reset
  have hnear : (p.beforeMessage inp).control.NearReady → p.control.NearReady := by
    rw [control_beforeMessage]
    exact Control.NearReady.of_applyReset
  cases hm : inp.message with
  | none =>
      have hsame : (p.beforeMessage inp).receive b inp = p.beforeMessage inp := by
        rw [receive, hm]
      rw [hsame] at h ⊢
      exact ⟨.inl (hnear h), hquiet⟩
  | some m =>
      have hhandled : (p.beforeMessage inp).receive b inp =
          (p.dispatching inp m).handleRequest b (inp.time .message) m := by
        rw [receive, hm]
        rfl
      rw [hhandled] at h ⊢
      obtain ⟨hcases, hasks⟩ := nearReady_handleRequest (p := p.dispatching inp m) b _ hbefore
        (hfails m hm) h
      have hreceived : AsksNothing (p.beforeMessage inp) (p.dispatching inp m) :=
        .of_does (does_record _ (.received m)) (by simp [Call.kind])
      refine ⟨hcases.imp hnear fun hheeds => ⟨m, rfl, hheeds⟩, ?_⟩
      exact (hquiet.trans hreceived).trans hasks

/-- The step after which the port is near: it was near, or it heeds an answer. It sends
no Request. -/
theorem nearReady_step (b : Board) (e : Event) (hrests : p.control.Rests)
    (hfails : ∀ r ∈ e.received, (p.dispatching r.1 r.2).failsInReady r.2 = false)
    (h : (p.step b e).control.NearReady) :
    (p.control.NearReady ∨ ∃ r ∈ e.received, (p.dispatching r.1 r.2).heedsAnswer r.2 = true) ∧
      AsksNothing p (p.step b e) := by
  cases e with
  | iterate inp =>
      have hswitched := rests_runState (rests_beforeSwitch hrests b inp) b inp
      have hnear := Control.nearReady_finish hswitched _ _ (control_finish_mem _ _ inp) h
      obtain ⟨hbefore, hswitch⟩ := nearReady_runState b inp hnear
      have htail := AsksNothing.of_does
        (does_finish ((p.beforeSwitch b inp).runState b inp) (p.beforeSwitch b inp).pd.taskState inp)
        (by decide)
      have hsuspend : AsksNothing ((p.beforeMessage inp).receive b inp) (p.beforeSwitch b inp) :=
        .of_does (does_applySuspend _) (by decide)
      have hheard : ((p.beforeMessage inp).receive b inp).control.NearReady := by
        rw [beforeSwitch, control_applySuspend] at hbefore
        unfold Control.applySuspend at hbefore
        split_ifs at hbefore
        · exact absurd hbefore (Control.not_nearReady_setState (by decide))
        · exact hbefore
      have hmessage : ∀ m, inp.message = some m → (p.dispatching inp m).failsInReady m = false :=
        fun m hm => hfails (inp, m) (by simp [Event.received, hm])
      obtain ⟨hcases, hreceive⟩ := nearReady_receive b inp hrests hmessage hheard
      refine ⟨hcases.imp id ?_, ((hreceive.trans hsuspend).trans hswitch).trans htail⟩
      rintro ⟨m, hm, hheeds⟩
      exact ⟨(inp, m), by simp [Event.received, hm], hheeds⟩
  | alert irq now =>
      have hdoes := p.does_call b (e := .alert irq now) rfl
      exact ⟨.inl (Control.nearReady_of_call rfl (p.control_step_mem b _) h),
        .of_does hdoes (by simp [Event.calls])⟩
  | _ =>
      exact ⟨.inl (Control.nearReady_of_call rfl (p.control_step_mem b _) h),
        .of_does (p.does_call b rfl) (by simp [Event.calls])⟩

end Port

end UsbPd
