import UsbPd.Control.Receiver
import UsbPd.Frame.Step

/-!
# The roles in a GoodCRC

The chip answers every message with a GoodCRC of its own, which carries the roles
of SWITCHES1. They fall behind the roles of the protocol in two places: at a
toggle between the disconnected states, which an attach repairs, and in
`PD_STATE_SRC_SWAP_STANDBY`, which the PS_RDY of the new source repairs.
-/

namespace UsbPd

namespace Port

/-- The roles in the headers that the port sends. -/
def roles (p : Port) : Bool × Bool := (p.pd.powerRole == .source, p.pd.dataRole == .dfp)

/-- The chip answers in the roles of the protocol. -/
def InRole (p : Port) : Prop := p.chip.roleBits = p.roles

instance decidableInRole (p : Port) : Decidable p.InRole :=
  inferInstanceAs (Decidable (_ = _))

/-- A connected port answers in its roles, except while it hands over the supply. -/
def AnswersInRole (p : Port) : Prop :=
  p.pdIsConnected = true → p.pd.taskState ≠ .srcSwapStandby → p.InRole

instance decidableAnswersInRole (p : Port) : Decidable p.AnswersInRole :=
  inferInstanceAs (Decidable (_ = true → _ ≠ _ → _))

/-- The step takes roles that the chip does not know yet into a connected state: a
reset, a hard reset, or one of the ways out of `PD_STATE_SRC_SWAP_STANDBY` apart
from PS_RDY and the timeout. -/
def carriesStaleRoles (p : Port) : Event → Bool
  | .iterate inp => ¬ p.InRole ∧ (inp.reset ∨ (p.pd.taskState = .srcSwapStandby ∧
      inp.message.any fun m => m.isCtrl .softReset || m.isData .request))
  | .alert irq _ => ¬ p.InRole ∧ irq.hardReset
  | .softReset => ¬ p.InRole ∧ p.pd.taskState = .srcSwapStandby
  | _ => false

end Port

namespace Control

/-- The states in which no GoodCRC of the port is due, or in which it may carry the
old roles. -/
inductive Unheard (v : Control) : Prop
  | detached (htask : v.task ∈ offStates v.role) (harmed : v.armed = false)
  | handingOver (htask : v.task = .srcSwapStandby) (hlast : v.last = .srcSwapStandby)
      (hrole : v.role = .sink) (htimer : v.armed = true → v.timeoutState = .snkDisconnected)

namespace Unheard

variable {v w : Control}

theorem congr (h : Unheard v) (htask : w.task = v.task) (hlast : w.last = v.last)
    (hrole : w.role = v.role) (harmed : w.armed = v.armed)
    (htimer : w.timeoutState = v.timeoutState) : Unheard w := by
  cases h with
  | detached htask' harmed' =>
      exact .detached (by rw [htask, hrole]; exact htask') (harmed.trans harmed')
  | handingOver htask' hlast' hrole' htimer' =>
      exact .handingOver (htask.trans htask') (hlast.trans hlast') (hrole.trans hrole')
        (by rw [harmed, htimer]; exact htimer')

/-- A change to a disconnected state of the role. -/
theorem setState {s : PdState} (hs : s ∈ offStates v.role) : Unheard (v.setState s) :=
  .detached (by simpa using hs) (by simp)

theorem not_connected (hconn : v.connected = true) (h : Unheard v) :
    v.task = .srcSwapStandby := by
  cases h with
  | detached htask =>
      rw [connected_eq] at hconn
      simp [htask] at hconn
  | handingOver htask => exact htask

/-- In the handover a message has no effect, apart from PS_RDY and those that are
answered in every state. -/
theorem of_reaction (h : Unheard v) (hconn : v.connected = true) {kind : MsgKind}
    (hw : Reaction v kind w) (hsoft : kind ≠ .ctrl (some .softReset))
    (hrequest : ∀ a, kind ≠ .data (some .request) a) (hpsRdy : kind ≠ .ctrl (some .psRdy)) :
    w = v := by
  cases h with
  | detached hoff =>
      rw [connected_eq] at hconn
      simp [hoff] at hconn
  | handingOver htask _ hrole =>
      cases hw with
      | ignored => rfl
      | granted hkind => exact absurd hkind (hrequest _)
      | denied hkind => exact absurd hkind (hrequest _)
      | tested hready =>
          simp [readyReturnState, roleIfElse, hrole, htask, PowerRole.ifElse] at hready
      | requested _ hcaps => simp [htask] at hcaps
      | sourceOff hkind | sourceOn hkind | early hkind | powered hkind => exact absurd hkind hpsRdy
      | softReset hkind => exact absurd hkind hsoft
      | softAccepted _ hs => simp [htask] at hs
      | _ hs => simp [htask] at hs

/-- The switch takes the roles along only into a state where they are not heard. -/
theorem of_role_ne (hw : Outcome v w) (hrole : w.role ≠ v.role)
    (htask : v.task ≠ .snkSwapComplete) : Unheard (w.setLast v.task) := by
  cases hw with
  | togglesToSource => exact .detached (by simp [offStates, PowerRole.ifElse]) (by simp)
  | togglesToSink => exact .detached (by simp [offStates, PowerRole.ifElse]) (by simp)
  | becomesSink h => exact .handingOver h h rfl (fun _ => rfl)
  | becomesSource h => exact absurd h htask
  | executesReset =>
      refine absurd ?_ hrole
      rw [executeHardReset_eq]
      split <;> rfl
  | _ => exact absurd (by simp [attachSink, attachSource]) hrole

/-- The disconnected states that do not debounce. -/
theorem of_outcome (h : Unheard v) (hw : Outcome v w)
    (hplain : v.task ∉ debounceStates) : Unheard (w.setLast v.task) := by
  cases h with
  | detached htask harmed =>
      have hoff : v.task = .snkDisconnected ∧ v.role = .sink ∨
          v.task = .srcDisconnected ∧ v.role = .source := by
        revert htask hplain
        unfold offStates debounceStates
        cases v.role <;> simp [PowerRole.ifElse] <;> tauto
      have hstays : Unheard (v.setLast v.task) := .detached htask harmed
      rcases hoff with ⟨hs, hrole⟩ | ⟨hs, hrole⟩
      · cases hw with
        | stays => exact hstays
        | arms _ hin => simp [timers, hs] at hin
        | moves hin => simp [Control.moves, hs] at hin
        | seesSource => exact .detached (by simp [offStates, hrole, PowerRole.ifElse]) (by simp)
        | togglesToSource => exact .detached (by simp [offStates, PowerRole.ifElse]) (by simp)
        | _ => simp_all
      · cases hw with
        | stays => exact hstays
        | arms _ hin => simp [timers, hs] at hin
        | moves hin => simp [Control.moves, hs] at hin
        | seesSink => exact .detached (by simp [offStates, hrole, PowerRole.ifElse]) (by simp)
        | togglesToSink => exact .detached (by simp [offStates, PowerRole.ifElse]) (by simp)
        | _ => simp_all
  | handingOver htask hlast hrole htimer =>
      cases hw with
      | stays => exact .handingOver htask htask hrole htimer
      | arms _ _ hplain => simp [supplyStates, htask] at hplain
      | moves hin => simp [Control.moves, htask] at hin
      | becomesSink => exact .handingOver htask htask rfl (fun _ => rfl)
      | staysSource _ hentry => simp [entering, hlast, htask] at hentry
      | _ => simp_all

/-- The timer of the handover leads to `PD_STATE_SNK_DISCONNECTED`. -/
theorem finish {thisState : PdState} (h : Unheard (v.setLast thisState)) :
    Machine.Ensures (v.finish thisState) Unheard := by
  refine v.finish_ensures h (fun harmed => ?_) fun u hu hconn hswap _ => ?_
  · cases h with
    | detached _ hidle => exact absurd (hidle.symm.trans harmed) (by decide)
    | handingOver _ _ hrole htimer =>
        change v.role = .sink at hrole
        have hnext : v.timeoutState = .snkDisconnected := htimer harmed
        exact setState (by simp [hnext, offStates, hrole, PowerRole.ifElse])
  · have hstandby := not_connected hconn hu
    simp [powerSwapping, hstandby] at hswap

end Unheard

end Control

namespace Port

variable {b : Board} {p q : Port}

namespace InRole

/-- Whatever writes neither the roles nor their bits. -/
theorem of_does {W : List Part} {K : List CallKind} (h : p.InRole) (hdoes : Does W K p q)
    (hW : Part.role ∉ W ∧ Part.dataRole ∉ W ∧ Part.roleBits ∉ W) : q.InRole := by
  have hrole : q.pd.powerRole = p.pd.powerRole := hdoes.keeps .role hW.1
  have hdata : q.pd.dataRole = p.pd.dataRole := hdoes.keeps .dataRole hW.2.1
  have hbits : q.chip.roleBits = p.chip.roleBits := hdoes.keeps .roleBits hW.2.2
  unfold InRole roles
  rw [hbits, hrole, hdata]
  exact h

theorem record (h : p.InRole) (c : Call) : (p.record c).InRole := h

theorem setFlags (h : p.InRole) (flags : PdFlags) : (p.setFlags flags).InRole := h

theorem modifySt (h : p.InRole) (g : Statics → Statics) : (p.modifySt g).InRole := h

theorem pdUpdateRoles (p : Port) : p.pdUpdateRoles.InRole :=
  p.chip.roleBits_setMsgHeader _ _

theorem pdSetDataRole (p : Port) (role : DataRole) : (p.pdSetDataRole role).InRole :=
  pdUpdateRoles _

theorem setState (h : p.InRole) (s : PdState) : (p.setState s).InRole :=
  h.of_does (p.does_setState s) (by decide)

theorem sendControl (h : p.InRole) (type : CtrlMsgType) : (p.sendControl type).2.InRole :=
  (p.chip.roleBits_transmit .sop).trans h

theorem tcpmSetRxEnable (h : p.InRole) (enable : Bool) : (p.tcpmSetRxEnable enable).InRole :=
  h.of_does (p.does_tcpmSetRxEnable enable) (by decide)

theorem tcpmSetCc (h : p.InRole) (pull : CcPull) : (p.tcpmSetCc pull).InRole :=
  h.of_does (p.does_tcpmSetCc pull) (by decide)

/-! Messages: the two that change a role also tell the chip. -/

theorem pdDrSwap (p : Port) : p.pdDrSwap.InRole := pdSetDataRole p _

/-- The PS_RDY of the new source. -/
theorem takesOver (p : Port) (htask : p.pd.taskState = .srcSwapStandby) : p.handlePsRdy.InRole := by
  unfold Port.handlePsRdy
  rw [if_neg (by simp [htask]), if_pos htask]
  exact (pdUpdateRoles _).setState _

theorem handlePsRdy (h : p.InRole) : p.handlePsRdy.InRole := by
  by_cases htask : p.pd.taskState = .srcSwapStandby
  · exact takesOver p htask
  · unfold Port.handlePsRdy
    rw [if_neg htask]
    split_ifs
    · exact h.setState _
    · exact h.setState _
    · exact h
    · exact (h.setState _).record _
    · exact h

theorem handleAccept (h : p.InRole) : p.handleAccept.InRole := by
  unfold Port.handleAccept
  split_ifs
  · exact h.of_does ((p.does_setVbusNeverLow false).trans (does_executeSoftReset _)) (by decide)
  · exact (pdDrSwap p).setState _
  · exact ((h.record _).setFlags _).setState _
  · exact ((h.record _).setFlags _).setState _
  · exact ((h.record _).setFlags _).setState _
  · exact h

theorem handleRequest (h : p.InRole) (b : Board) (now : Nat) (m : PdMsg) :
    (p.handleRequest b now m).InRole := by
  have hdata : (p.handleDataRequest b now m).InRole := by
    refine h.of_does (p.does_handleDataRequest b now m) ?_
    cases DataMsgType.ofField (headerType m.head) with
    | none => decide
    | some type => cases type <;> decide
  have hctrl : (p.handleCtrlRequest b now m).InRole := by
    have hdoes := p.does_handleCtrlRequest b now m
    unfold handleCtrlRequest at hdoes ⊢
    cases htype : CtrlMsgType.ofField (headerType m.head) with
    | none => exact h
    | some type =>
        rw [htype] at hdoes
        cases type with
        | psRdy => exact h.handlePsRdy
        | accept => exact h.handleAccept
        | _ => exact h.of_does hdoes (by decide)
  unfold Port.handleRequest
  split_ifs
  · exact hdata
  · exact hctrl
  · exact h

/-! The attach and the end of a swap tell the chip. -/

theorem attachSource (p : Port) (newCcState : CcState) : (p.attachSource newCcState).InRole := by
  unfold Port.attachSource
  simp only [pdCommIsEnabled, if_true]
  generalize hq : (((p.modifyPd fun pd => { pd with
    polarity := getSnkPolarity p.st.cc1 p.st.cc2 }).tcpmSetPolarity
      (p.modifyPd fun pd => { pd with
        polarity := getSnkPolarity p.st.cc1 p.st.cc2 }).pd.polarity).resetMsgId.pdSetDataRole
          .ufp) = q
  have hset : q.InRole := by
    rw [← hq]
    exact pdSetDataRole _ _
  have henabled : ∀ f, ((q.modifySt f).tcpmSetRxEnable true).InRole :=
    fun f => (hset.modifySt f).tcpmSetRxEnable true
  split_ifs
  · exact ((((henabled _).setFlags _).setFlags _).sendControl _).setState _
  · exact (((henabled _).setFlags _).sendControl _).setState _
  · exact henabled _

theorem attachSink (p : Port) (newCcState : CcState) : (p.attachSink newCcState).InRole := by
  unfold Port.attachSink
  simp only [pdSetPowerSupplyReady_fst, ne_eq, not_true_eq_false, if_false, pdCommIsEnabled,
    if_true]
  generalize hq : (((p.modifyPd fun pd => { pd with
    polarity := decide (¬ p.st.cc1 = .rd) }).tcpmSetPolarity (p.modifyPd fun pd => { pd with
      polarity := decide (¬ p.st.cc1 = .rd) }).pd.polarity).pdSetDataRole .dfp) = q
  have hset : q.InRole := by
    rw [← hq]
    exact pdSetDataRole _ _
  split_ifs
  · exact (((((hset.setFlags _).record _).tcpmSetRxEnable true).setFlags _).modifySt _).setState _
  · exact ((((hset.record _).tcpmSetRxEnable true).setFlags _).modifySt _).setState _

theorem snkSwapComplete (h : p.InRole) : p.snkSwapComplete.InRole := by
  have hsent := h.sendControl .psRdy
  unfold Port.snkSwapComplete
  simp only
  split_ifs
  · exact ((hsent.tcpmSetCc _).record _).setState _
  · exact (pdUpdateRoles _).setState _

end InRole

theorem does_setDebounce (p : Port) (time : Nat) (state : CcState) :
    Does [.debounce] [] p (p.modifyPd fun pd => { pd with ccDebounce := time, ccState := state }) :=
  .assign (by rintro ⟨⟩ hx <;> first | rfl | simp at hx) rfl

/-- The end of a debounce attaches, or nothing but the state may change. -/
theorem snkDebounce_inRole (inp : Input) : (p.snkDisconnectedDebounce inp).InRole ∨
    (Does [.chip, .cc, .task, .timer, .debounce] [.noCurrent, .vbus, .rxEnable] p
        (p.snkDisconnectedDebounce inp) ∧
      ((p.snkDisconnectedDebounce inp).control = p.control ∨
        (p.snkDisconnectedDebounce inp).control = p.control.setState .snkDisconnected)) := by
  have hmeasured := p.does_tcpmGetCc inp.cc
  have hcontrol := p.control_tcpmGetCc inp.cc
  unfold snkDisconnectedDebounce
  simp only [pdTrySrcEnable, Bool.false_eq_true, false_and, if_false]
  generalize p.tcpmGetCc inp.cc = q at *
  split
  · exact .inr ⟨(hmeasured.trans (q.does_setState _)).mono (by decide),
      .inr (by rw [control_setState, hcontrol])⟩
  · split_ifs
    · exact .inr ⟨(hmeasured.trans (q.does_setDebounce _ _)).mono (by decide), .inl hcontrol⟩
    · exact .inr ⟨hmeasured.mono (by decide), .inl hcontrol⟩
    · exact .inl (.attachSource q _)

theorem srcDebounce_inRole (inp : Input) : (p.srcDisconnectedDebounce inp).InRole ∨
    (Does [.chip, .cc, .task, .timer, .debounce] [.noCurrent, .vbus, .rxEnable] p
        (p.srcDisconnectedDebounce inp) ∧
      ((p.srcDisconnectedDebounce inp).control = p.control ∨
        (p.srcDisconnectedDebounce inp).control = p.control.setState .srcDisconnected)) := by
  have hmeasured := p.does_tcpmGetCc inp.cc
  have hcontrol := p.control_tcpmGetCc inp.cc
  unfold srcDisconnectedDebounce
  simp only
  generalize p.tcpmGetCc inp.cc = q at *
  split
  · exact .inr ⟨(hmeasured.trans (q.does_setState _)).mono (by decide),
      .inr (by rw [control_setState, hcontrol])⟩
  · split_ifs
    · exact .inr ⟨(hmeasured.trans (q.does_setDebounce _ _)).mono (by decide), .inl hcontrol⟩
    · exact .inr ⟨hmeasured.mono (by decide), .inl hcontrol⟩
    · exact .inl (.attachSink q _)
    · exact .inr ⟨hmeasured.mono (by decide), .inl hcontrol⟩

/-- The states other than the disconnected ones that write a role. -/
theorem stateWrites_roles : ∀ s, s ∉ [PdState.snkDisconnectedDebounce, .srcDisconnectedDebounce,
    .snkSwapComplete] → Part.dataRole ∉ stateWrites s ∧ Part.roleBits ∉ stateWrites s := by
  intro s
  cases s <;> decide

/-- The switch leaves the roles in step, or it reaches a state where they are not
heard. -/
theorem InRole.runState (h : p.InRole) (b : Board) (inp : Input) : (p.runState b inp).InRole ∨
    ((p.runState b inp).control.setLast p.pd.taskState).Unheard := by
  have houtcome := p.control.runState_outcome _ (p.control_runState_mem b inp)
  have hdoes := p.does_runState b inp
  by_cases hwrites : p.pd.taskState ∈
      [PdState.snkDisconnectedDebounce, .srcDisconnectedDebounce, .snkSwapComplete]
  · left
    simp only [List.mem_cons, List.not_mem_nil, or_false] at hwrites
    unfold Port.runState
    rcases hwrites with htask | htask | htask
    · rw [htask]
      exact p.snkDebounce_inRole inp |>.elim id fun hkept => h.of_does hkept.1 (by decide)
    · rw [htask]
      exact p.srcDebounce_inRole inp |>.elim id fun hkept => h.of_does hkept.1 (by decide)
    · rw [htask]
      exact h.snkSwapComplete
  · obtain ⟨hdata, hbits⟩ := stateWrites_roles _ hwrites
    by_cases hrole : (p.runState b inp).pd.powerRole = p.pd.powerRole
    · left
      have hdata' : (p.runState b inp).pd.dataRole = p.pd.dataRole := hdoes.keeps .dataRole hdata
      have hbits' : (p.runState b inp).chip.roleBits = p.chip.roleBits :=
        hdoes.keeps .roleBits hbits
      unfold InRole roles
      rw [hbits', hdata', hrole]
      exact h
    · exact .inr (.of_role_ne houtcome hrole fun htask => hwrites (by simp [show
        p.pd.taskState = .snkSwapComplete from htask]))

/-- The debounce states of a role lead back to its disconnected state. -/
theorem offStates_back : ∀ role : PowerRole,
    (.snkDisconnectedDebounce ∈ Control.offStates role →
        .snkDisconnected ∈ Control.offStates role) ∧
      (.srcDisconnectedDebounce ∈ Control.offStates role →
        .srcDisconnected ∈ Control.offStates role) := by
  intro role
  cases role <;> decide

/-- A debounce of an unattached port attaches in step, or it leaves the port where
nothing is heard. -/
theorem unheard_debounced {kept : Prop} {q : Port} {s : PdState} (harmed : p.control.armed = false)
    (hoff : p.pd.taskState ∈ Control.offStates p.pd.powerRole)
    (hs : s ∈ Control.offStates p.pd.powerRole)
    (h : q.InRole ∨ (kept ∧ (q.control = p.control ∨ q.control = p.control.setState s))) :
    q.InRole ∨ (q.control.setLast p.pd.taskState).Unheard := by
  rcases h with hsync | ⟨-, hsame | hback⟩
  · exact .inl hsync
  · rw [hsame]
    exact .inr (.detached hoff harmed)
  · rw [hback]
    exact .inr (.detached (by simpa using hs) (by simp))

theorem unheard_runState (h : p.control.Unheard) (b : Board) (inp : Input) :
    (p.runState b inp).InRole ∨ ((p.runState b inp).control.setLast p.pd.taskState).Unheard := by
  have houtcome := p.control.runState_outcome _ (p.control_runState_mem b inp)
  have hdetached : p.pd.taskState ∈ Control.debounceStates →
      p.pd.taskState ∈ Control.offStates p.pd.powerRole ∧ p.control.armed = false := by
    intro htask
    cases h with
    | detached hoff harmed => exact ⟨hoff, harmed⟩
    | handingOver hstandby =>
        rw [show p.pd.taskState = .srcSwapStandby from hstandby] at htask
        exact absurd htask (by decide)
  by_cases hdebounce : p.pd.taskState ∈ Control.debounceStates
  · obtain ⟨hoff, harmed⟩ := hdetached hdebounce
    simp only [Control.debounceStates, List.mem_cons, List.not_mem_nil, or_false] at hdebounce
    rcases hdebounce with htask | htask | htask
    · have hrun : p.runState b inp = p := by
        unfold Port.runState
        rw [htask]
      rw [hrun]
      exact .inr (.detached hoff harmed)
    · have hback := (offStates_back p.pd.powerRole).1 (by rwa [htask] at hoff)
      have hrun : p.runState b inp = p.snkDisconnectedDebounce inp := by
        unfold Port.runState
        rw [htask]
      rw [hrun]
      exact unheard_debounced harmed hoff hback (p.snkDebounce_inRole inp)
    · have hback := (offStates_back p.pd.powerRole).2 (by rwa [htask] at hoff)
      have hrun : p.runState b inp = p.srcDisconnectedDebounce inp := by
        unfold Port.runState
        rw [htask]
      rw [hrun]
      exact unheard_debounced harmed hoff hback (p.srcDebounce_inRole inp)
  · exact .inr (h.of_outcome houtcome hdebounce)

/-- The iteration from the switch on. -/
theorem inRole_runSwitch (h : p.InRole ∨ p.control.Unheard) (b : Board) (inp : Input) :
    ((p.runState b inp).finish p.pd.taskState inp).InRole ∨
      ((p.runState b inp).finish p.pd.taskState inp).control.Unheard := by
  have hrun := h.elim (fun h => h.runState b inp) (fun h => unheard_runState h b inp)
  rcases hrun with hsync | hunheard
  · exact .inl (hsync.of_does (does_finish _ _ inp) (by decide))
  · exact .inr (hunheard.finish _ ((p.runState b inp).control_finish_mem p.pd.taskState inp))

/-- In the handover only PS_RDY takes effect. -/
theorem inRole_receive (h : p.InRole ∨ p.control.Unheard) (b : Board) (inp : Input)
    (hstale : ¬ p.InRole → p.pd.taskState = .srcSwapStandby →
      inp.message.any (fun m => m.isCtrl .softReset || m.isData .request) = false) :
    (p.receive b inp).InRole ∨ (p.receive b inp).control.Unheard := by
  by_cases hsync : p.InRole
  · left
    unfold receive
    cases inp.message with
    | none => exact hsync
    | some m => exact (hsync.record (.received m)).handleRequest b _ m
  · have hunheard := h.resolve_left hsync
    rcases Control.receive_reaction _ (p.control_receive_mem b inp) with
      hsame | ⟨kind, hkind, hconn, hw⟩
    · exact .inr (by rw [hsame]; exact hunheard)
    · have htask := Control.Unheard.not_connected hconn hunheard
      have hquiet := hstale hsync htask
      obtain ⟨m, hm, rfl⟩ := Option.map_eq_some_iff.1 hkind
      rw [hm] at hquiet
      simp only [Option.any_some, Bool.or_eq_false_iff] at hquiet
      by_cases hready : m.isCtrl .psRdy = true
      · left
        have hhandled : p.receive b inp = (p.record (.received m)).handlePsRdy := by
          obtain ⟨hcnt, htype⟩ : headerCnt m.head = 0 ∧
              CtrlMsgType.ofField (headerType m.head) = some .psRdy := by
            simpa [PdMsg.isCtrl] using hready
          have hconn' : (p.record (.received m)).pdIsConnected = true := hconn
          unfold receive handleRequest
          simp [hm, hcnt, htype, hconn', handleCtrlRequest]
        rw [hhandled]
        exact InRole.takesOver _ htask
      · right
        rw [hunheard.of_reaction hconn hw
          (fun h => by simp [PdMsg.isCtrl_of_kind h] at hquiet)
          (fun a h => by simp [PdMsg.isData_of_kind h] at hquiet)
          (fun h => hready (PdMsg.isCtrl_of_kind h))]
        exact hunheard

theorem inRole_iterate (h : p.InRole ∨ p.control.Unheard) (hawake : p.control.suspending = false)
    (b : Board) (inp : Input) (hstale : p.carriesStaleRoles (.iterate inp) = false) :
    (p.step b (.iterate inp)).InRole ∨ (p.step b (.iterate inp)).control.Unheard := by
  have hclean : ¬ p.InRole → inp.reset = false ∧ (p.pd.taskState = .srcSwapStandby →
      inp.message.any (fun m => m.isCtrl .softReset || m.isData .request) = false) := by
    intro hsync
    simpa [carriesStaleRoles, hsync] using hstale
  have hkept : p.InRole → (p.beforeMessage inp).InRole := fun hsync =>
    hsync.of_does (p.does_beforeMessage inp) (by decide)
  have hcontrol := p.control_beforeMessage inp
  have hsame : ¬ p.InRole → (p.beforeMessage inp).control = p.control := by
    intro hsync
    rw [hcontrol, (hclean hsync).1]
    rfl
  have hbefore : (p.beforeMessage inp).InRole ∨ (p.beforeMessage inp).control.Unheard := by
    by_cases hsync : p.InRole
    · exact .inl (hkept hsync)
    · exact .inr (by rw [hsame hsync]; exact h.resolve_left hsync)
  have hreceived := inRole_receive hbefore b inp fun hsync htask => by
    have hstale' := mt hkept hsync
    refine (hclean hstale').2 ?_
    exact (congrArg Control.task (hsame hstale')).symm.trans htask
  have hentered : p.beforeSwitch b inp = (p.beforeMessage inp).receive b inp :=
    beforeSwitch_eq hawake b inp
  change ((p.beforeSwitch b inp).runState b inp |>.finish _ inp).InRole ∨ _
  rw [← hentered] at hreceived
  exact inRole_runSwitch hreceived b inp

/-- A call from outside. -/
theorem inRole_call (h : p.InRole ∨ p.control.Unheard) (b : Board) {e : Event}
    (he : e.iterates = false) (hstale : p.carriesStaleRoles e = false) :
    (p.step b e).InRole ∨ (p.step b e).control.Unheard := by
  by_cases hsync : p.InRole
  · left
    refine hsync.of_does (p.does_call b he) ?_
    cases e <;> simp [Event.writes]
  · right
    have hunheard := h.resolve_left hsync
    have htasks : p.pd.taskState ∉ [PdState.snkReady, .srcReady] := by
      cases hunheard with
      | detached hoff =>
          change p.pd.taskState ∈ Control.offStates p.pd.powerRole at hoff
          intro hready
          revert hoff
          simp only [List.mem_cons, List.not_mem_nil, or_false] at hready
          rcases hready with hready | hready <;> rw [hready] <;> cases p.pd.powerRole <;> decide
      | handingOver htask =>
          rw [show p.pd.taskState = .srcSwapStandby from htask]
          decide
    cases e with
    | iterate => cases he
    | alert irq now =>
        have hreset : irq.hardReset = false := by simpa [carriesStaleRoles, hsync] using hstale
        have hcontrol := p.control_tcpcAlert irq now
        obtain ⟨ok, hok⟩ := p.control.completeTransmissions_eq irq
        change (p.tcpcAlert irq now).control.Unheard
        rw [hcontrol, Control.alert, hok]
        simp only [hreset, Bool.false_eq_true, if_false]
        exact hunheard.congr rfl rfl rfl rfl rfl
    | softReset =>
        have htask : p.pd.taskState ≠ .srcSwapStandby := by
          simpa [carriesStaleRoles, hsync] using hstale
        have hconn : p.pdIsConnected = false := by
          rw [← control_connected]
          by_contra hconn
          exact htask (hunheard.not_connected (by simpa using hconn))
        change p.pdSoftReset.control.Unheard
        simpa [pdSoftReset, hconn] using hunheard
    | requestPowerSwap =>
        simp only [List.mem_cons, List.not_mem_nil, or_false, not_or] at htasks
        change p.pdRequestPowerSwap.control.Unheard
        simpa [pdRequestPowerSwap, htasks.1, htasks.2] using hunheard
    | requestDataSwap =>
        have hready : p.pd.taskState ≠ p.readyReturnState := by
          intro hready
          refine htasks ?_
          rw [hready]
          unfold readyReturnState dualRoleIfElse
          cases p.pd.powerRole <;> decide
        change p.pdRequestDataSwap.control.Unheard
        simpa [pdRequestDataSwap, hready] using hunheard
    | sendVdm vid cmd data =>
        change (p.pdSendVdm vid cmd data).control.Unheard
        rw [control_pdSendVdm]
        exact hunheard
    | _ => exact hunheard.congr rfl rfl rfl rfl rfl

/-- As long as no step carries stale roles into a connected state, the chip answers
in the roles of the protocol. -/
theorem answersInRole_after (b : Board) (es : List Event)
    (h : AllSteps b (fun p e => p.carriesStaleRoles e = false) es) :
    (after b es).AnswersInRole := by
  have hstep : ∀ (p : Port) (e : Event), p.Shaped ∧ (p.InRole ∨ p.control.Unheard) →
      p.carriesStaleRoles e = false →
        (p.step b e).Shaped ∧ ((p.step b e).InRole ∨ (p.step b e).control.Unheard) := by
    rintro p e ⟨hshaped, hp⟩ hstale
    refine ⟨hshaped.step b e, ?_⟩
    cases hiterates : e.iterates with
    | true =>
        cases e with
        | iterate inp => exact inRole_iterate hp hshaped.awake b inp hstale
        | _ => cases hiterates
    | false => exact inRole_call hp b hiterates hstale
  have hsetup : setup.Shaped ∧ (setup.InRole ∨ setup.control.Unheard) :=
    ⟨shaped_setup, .inl (by decide)⟩
  intro hconn htask
  refine (Machine.run_invariant hstep hsetup h).2.resolve_right fun hunheard => ?_
  exact htask (hunheard.not_connected (by rw [control_connected]; exact hconn))

/-- A source with a contract. -/
def readyAsSource : List Event :=
  attachAsSource ++
    [iterateAt 200000 rdOnCc1 none, iterateAt 210000 rdOnCc1 none, iterateAt 220000 rdOnCc1 none,
      iterateAt 230000 rdOnCc1 (some (dataMsg .request [rdoFixed 1 500 500 0] one_object_lt)),
      iterateAt 265000 rdOnCc1 none, iterateAt 266000 rdOnCc1 none, iterateAt 276000 rdOnCc1 none,
      iterateAt 277000 rdOnCc1 none]

/-- It swaps power roles and has told the new source to take over. -/
def handsOver : List Event :=
  readyAsSource ++
    [.requestPowerSwap, iterateAt 300000 rdOnCc1 none,
      iterateAt 310000 rdOnCc1 (some (ctrlMsg .accept)), iterateAt 345000 rdOnCc1 none,
      iterateAt 346000 rdOnCc1 none, iterateAt 366000 rdOnCc1 none, iterateAt 367000 rdOnCc1 none]

/-- The new source takes over. -/
theorem answersInRole_after_handover :
    (after .shipped (handsOver ++
      [iterateAt 400000 rdOnCc1 (some (ctrlMsg .psRdy))])).AnswersInRole :=
  answersInRole_after .shipped _ (by decide +kernel)

/-- A Soft_Reset ends the handover: the sink answers as a source. -/
theorem not_answersInRole_softReset :
    ¬ ∀ (b : Board) (es : List Event), (after b es).AnswersInRole := by
  intro h
  have hsync := h .shipped (handsOver ++ [iterateAt 400000 rdOnCc1 (some (ctrlMsg .softReset))])
  revert hsync
  decide +kernel

end Port

end UsbPd
