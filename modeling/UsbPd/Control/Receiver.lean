import UsbPd.Control.Role

/-!
# The receiver

Reception is enabled at an attach and disabled on the way into a disconnected
state, so it follows the connection, unless the state is assigned past
`set_state` or a disconnected port is taken to a connected state.
-/

namespace UsbPd

namespace Control

/-- The states of an unattached source. -/
def openStates : List PdState :=
  [.srcDisconnected, .srcDisconnectedDebounce, .srcStartup, .srcDiscovery]

/-- The table of the receiver: a sink is not in the states of an attach as
source either. -/
def receiverTable : RoleTable where
  allows := fun s r =>
    r.ifElse (s ∉ poweredStates ∧ s ∉ openStates) (s ∉ sinkStates ∧ s ≠ .suspended)
  entries_allowed := by
    intro r
    cases r <;> decide
  changes_allowed := by
    intro r s
    cases r <;> cases s <;> decide
  swap_allowed := rfl

/-- The states that only an unattached port changes to. -/
def debounceStates : List PdState := [.disabled, .snkDisconnectedDebounce, .srcDisconnectedDebounce]

/-- The receiver is enabled exactly while the port is connected, and timers run
only then. -/
structure Receiving (v : Control) : Prop where
  within : Within receiverTable v
  receiving : v.history.receiving = v.connected
  idle : v.connected = false → v.armed = false
  timer : v.armed = true → v.timeoutState ∉ debounceStates

/-- The states in which a role does not count as connected. -/
def offStates (r : PowerRole) : List PdState :=
  .disabled :: r.ifElse [.snkDisconnected, .snkDisconnectedDebounce]
    [.srcDisconnected, .srcDisconnectedDebounce]

theorem connected_eq (v : Control) : v.connected = decide (v.task ∉ offStates v.role) := by
  unfold connected offStates roleIfElse
  by_cases h : v.task = .disabled
  · simp [h]
  · cases v.role <;> simp [h]

namespace Receiving

variable {v w : Control}

/-- A connected port that changes to a disconnected state disables reception. -/
theorem disconnects_of_connected (hwithin : Within receiverTable v) (hconn : v.connected = true)
    {s : PdState} (hs : receiverTable.allows s v.role = true) (hplain : s ∉ debounceStates) :
    v.disconnects s = decide (s ∈ offStates v.role) := by
  simp only [debounceStates, List.mem_cons, List.not_mem_nil, or_false, not_or] at hplain
  rw [connected_eq, decide_eq_true_eq] at hconn
  have htask := hwithin.task
  cases hrole : v.role with
  | sink =>
      rw [hrole] at hconn hs htask
      have hsrc : v.task ≠ .srcDisconnected := by
        intro h
        rw [h] at htask
        cases htask
      have hs' : s ≠ .srcDisconnected := by
        rintro rfl
        cases hs
      simp only [offStates, PowerRole.sink_ifElse, List.mem_cons, List.not_mem_nil, or_false,
        not_or] at hconn
      by_cases hoff : s = .snkDisconnected
      · simp [disconnects, offStates, hoff, hconn, hsrc]
      · simp [disconnects, offStates, hoff, hs', hplain]
  | source =>
      rw [hrole] at hconn hs htask
      have hsnk : v.task ≠ .snkDisconnected := by
        intro h
        rw [h] at htask
        cases htask
      have hs' : s ≠ .snkDisconnected := by
        rintro rfl
        cases hs
      simp only [offStates, PowerRole.source_ifElse, List.mem_cons, List.not_mem_nil, or_false,
        not_or] at hconn
      by_cases hoff : s = .srcDisconnected
      · simp [disconnects, offStates, hoff, hconn, hsnk]
      · simp [disconnects, offStates, hoff, hs', hplain]

/-- A state that counts as connected for either role. -/
theorem not_off {s : PdState} {r : PowerRole} (hs : s ∉ offStates .sink ++ offStates .source) :
    s ∉ offStates r := by
  rw [List.mem_append, not_or] at hs
  cases r with
  | sink => exact hs.1
  | source => exact hs.2

theorem connected_of_task {s : PdState} (htask : v.task = s)
    (hs : s ∉ offStates .sink ++ offStates .source) : v.connected = true := by
  rw [connected_eq, htask]
  simpa using not_off hs

/-- A state change of a connected port. -/
theorem setState (h : Receiving v) (hconn : v.connected = true) {s : PdState}
    (hs : Within receiverTable (v.setState s)) (hplain : s ∉ debounceStates) :
    Receiving (v.setState s) := by
  have hallowed : receiverTable.allows s v.role = true := by
    simpa using hs.task
  refine ⟨hs, ?_, by simp, by simp⟩
  rw [setState_receiving, h.receiving, hconn,
    disconnects_of_connected h.within hconn hallowed hplain, connected_eq, setState_task,
    setState_role, Bool.true_and, decide_not]

/-- A change between the states of an unattached port. -/
theorem setState_off (hreceiving : v.history.receiving = false) {s : PdState}
    (hs : Within receiverTable (v.setState s)) (hoff : s ∈ offStates v.role) :
    Receiving (v.setState s) := by
  refine ⟨hs, ?_, by simp, by simp⟩
  rw [setState_receiving, hreceiving, connected_eq, setState_task, setState_role]
  simp [hoff]

/-- A change to a connected state with the receiver on. -/
theorem setState_on (hreceiving : v.history.receiving = true) {s : PdState}
    (hs : Within receiverTable (v.setState s)) (hon : s ∉ offStates v.role)
    (hstay : v.disconnects s = false) : Receiving (v.setState s) := by
  refine ⟨hs, ?_, by simp, by simp⟩
  rw [setState_receiving, hreceiving, hstay, connected_eq, setState_task, setState_role]
  simp [hon]

theorem arm (h : Receiving v) (hconn : v.connected = true) {s : PdState}
    (hs : Within receiverTable (v.arm s)) (hplain : s ∉ debounceStates) :
    Receiving (v.arm s) := by
  refine ⟨hs, h.receiving, fun hoff => ?_, fun _ => hplain⟩
  change v.connected = false at hoff
  rw [hconn] at hoff
  cases hoff

theorem start : Receiving Control.start := by
  refine ⟨.start, rfl, fun _ => rfl, ?_⟩
  intro h
  cases h

/-- Changes outside the fields of the invariant. -/
theorem congr (h : Receiving v) (htask : w.task = v.task) (hrole : w.role = v.role)
    (harmed : w.armed = v.armed) (htimer : w.timeoutState = v.timeoutState)
    (hreceiving : w.history.receiving = v.history.receiving) : Receiving w := by
  have hconn : w.connected = v.connected := by
    rw [connected_eq, connected_eq, htask, hrole]
  refine ⟨⟨?_, ?_⟩, ?_, ?_, ?_⟩
  · rw [htask, hrole]
    exact h.within.task
  · rw [htimer, hrole]
    exact h.within.timeoutState
  · rw [hreceiving, hconn]
    exact h.receiving
  · rw [hconn, harmed]
    exact h.idle
  · rw [harmed, htimer]
    exact h.timer

theorem applyReset (h : Receiving v) {reset : Bool} (hreset : reset = true → v.connected = true) :
    Receiving (v.applyReset reset) := by
  cases reset with
  | false => exact h
  | true =>
      have hon : v.history.receiving = true := by
        rw [h.receiving, hreset rfl]
      have hconn : (v.applyReset true).connected = true := by
        rw [connected_eq]
        change decide (PdState.softReset ∉ offStates v.role) = true
        cases v.role <;> decide
      refine ⟨h.within.applyReset true, ?_, fun hoff => ?_, h.timer⟩
      · rw [hconn]
        exact hon
      · rw [hconn] at hoff
        cases hoff

theorem executeHardReset (h : Receiving v) (hconn : v.connected = true) :
    Receiving v.executeHardReset := by
  have hon : v.history.receiving = true := by
    rw [h.receiving, hconn]
  refine ⟨.executeHardReset, ?_, ?_, ?_⟩
  · rw [connected_eq, executeHardReset_eq]
    cases hrole : v.role <;> simp [offStates, hon]
  · rw [executeHardReset_eq]
    simp
  · rw [executeHardReset_eq]
    simp

theorem executeSoftReset (h : Receiving v) (hconn : v.connected = true) :
    Receiving v.executeSoftReset := by
  refine setState h hconn .executeSoftReset ?_
  unfold roleIfElse
  cases v.role <;> decide

theorem reaction (h : Receiving v) (hconn : v.connected = true) {kind : MsgKind}
    (hw : Reaction v kind w) : Receiving w := by
  have hwithin := h.within.reaction hw fun _ _ _ => rfl
  cases hw with
  | ignored => exact h
  | granted =>
      exact setState (v := (v.note .contractAgreed).setExplicit true)
        (h.congr rfl rfl rfl rfl rfl) hconn hwithin (by decide)
  | tested =>
      refine setState h hconn hwithin ?_
      unfold roleIfElse
      cases v.role <;> decide
  | sourceOn =>
      exact setState_on (v := v.setRole .sink) (h.receiving.trans hconn) hwithin
        (not_off (by decide)) (by simp [disconnects])
  | dataSwapOver =>
      refine setState h hconn hwithin ?_
      unfold readyReturnState roleIfElse
      cases v.role <;> decide
  | retryLater => exact arm h hconn hwithin (by decide)
  | softAccepted => exact executeSoftReset h hconn
  | srcSwapAccepted =>
      exact setState (v := (v.note .powerSwapAccepted).setExplicit false)
        (h.congr rfl rfl rfl rfl rfl) hconn hwithin (by decide)
  | snkSwapAccepted =>
      exact setState (v := (v.note .powerSwapAccepted).setExplicit false)
        (h.congr rfl rfl rfl rfl rfl) hconn hwithin (by decide)
  | requestAccepted =>
      exact setState (v := (v.note .contractAgreed).setExplicit true)
        (h.congr rfl rfl rfl rfl rfl) hconn hwithin (by decide)
  | softReset => exact executeSoftReset h hconn
  | _ => exact setState h hconn hwithin (by decide)

theorem timers_connected : ∀ r s, ∀ t ∈ timers r s, s ∉ offStates r ∧ t ∉ debounceStates := by
  intro r s
  cases r <;> cases s <;> decide

theorem moves_off : ∀ r s, s ∈ offStates r → ∀ t ∈ moves s, receiverTable.allows t r = true →
    t ∈ offStates r := by
  intro r s
  cases r <;> cases s <;> decide

theorem moves_on : ∀ s, ∀ t ∈ moves s, t ∉ debounceStates := by
  intro s
  cases s <;> decide

/-- An unattached port listens to nothing. -/
theorem receiving_off (h : Receiving v) (hoff : v.task ∈ offStates v.role) :
    v.history.receiving = false := by
  rw [h.receiving, connected_eq]
  simp [hoff]

/-- The disconnected states tell the role of the port. -/
theorem role_of_detached : ∀ s r, receiverTable.allows s r = true →
    (s = .snkDisconnected ∨ s = .snkDisconnectedDebounce → r = .sink) ∧
      (s = .srcDisconnected ∨ s = .srcDisconnectedDebounce → r = .source) := by
  intro s r
  cases s <;> cases r <;> decide

theorem outcome (h : Receiving v) (hw : Outcome v w)
    (hstays : v.task = .srcSwapStandby → v.entering = true → v.txOk = false → v.role = .source) :
    Receiving w := by
  have hwithin : Within receiverTable w := by
    refine h.within.outcome hw fun htask hentry htx hrole => ?_
    rw [hstays htask hentry htx] at hrole
    cases hrole
  obtain ⟨hrole, hrole'⟩ := role_of_detached _ _ h.within.task
  cases hw with
  | stays => exact h
  | arms _ hs =>
      obtain ⟨hon, hplain⟩ := timers_connected _ _ _ hs
      refine arm h ?_ hwithin hplain
      rw [connected_eq]
      simpa using hon
  | @moves s hs =>
      cases hconn : v.connected with
      | true => exact setState h hconn hwithin (moves_on _ _ hs)
      | false =>
          have hoff : v.task ∈ offStates v.role := by
            rw [connected_eq] at hconn
            simpa using hconn
          have hallowed : receiverTable.allows s v.role = true := by
            simpa using hwithin.task
          exact setState_off (h.receiving_off hoff) hwithin (moves_off _ _ hoff _ hs hallowed)
  | resumes htask =>
      exact setState (v := v.clearSuspending) (h.congr rfl rfl rfl rfl rfl)
        (connected_of_task htask (by decide)) hwithin (by decide)
  | seesSource htask =>
      have hsink := hrole (.inl htask)
      refine setState_off (v := v.setFew true) (h.receiving_off ?_) hwithin ?_
      · simp [htask, hsink, offStates]
      · simp [hsink, offStates]
  | togglesToSource htask =>
      have hsink := hrole (.inl htask)
      have hoff := h.receiving_off (by simp [htask, hsink, offStates])
      have := setState_off (v := v.setRole .source) (s := .srcDisconnected) hoff
        ⟨hwithin.task, hwithin.timeoutState⟩ (by simp [offStates])
      exact this.congr rfl rfl rfl rfl rfl
  | attachesSource =>
      exact setState_on (v := v.note (.rxEnable true)) rfl hwithin (not_off (by decide))
        (by simp [disconnects])
  | requests htask =>
      exact arm (v := v.setFew true) (h.congr rfl rfl rfl rfl rfl)
        (connected_of_task htask (by decide)) hwithin (by decide)
  | drivesVbus htask =>
      exact arm (v := (v.setPull true).note (.vbus true)) (h.congr rfl rfl rfl rfl rfl)
        (connected_of_task htask (by decide)) hwithin (by decide)
  | becomesSource htask =>
      have hon := h.receiving.trans (connected_of_task htask (by decide))
      exact setState_on (v := v.setRole .source) hon hwithin (not_off (by decide))
        (by simp [disconnects])
  | staysSink htask =>
      exact setState (v := (v.setPull false).note (.vbus false)) (h.congr rfl rfl rfl rfl rfl)
        (connected_of_task htask (by decide)) hwithin (by decide)
  | seesSink htask =>
      have hsource := hrole' (.inl htask)
      refine setState_off (h.receiving_off ?_) hwithin ?_
      · simp [htask, hsource, offStates]
      · simp [hsource, offStates]
  | togglesToSink htask =>
      have hsource := hrole' (.inl htask)
      have hoff := h.receiving_off (by simp [htask, hsource, offStates])
      have := setState_off (v := v.setRole .sink) (s := .snkDisconnected) hoff
        ⟨hwithin.task, hwithin.timeoutState⟩ (by simp [offStates])
      exact this.congr rfl rfl rfl rfl rfl
  | attachesSink =>
      exact setState_on (v := ((v.note (.vbus true)).note (.rxEnable true)).setFew true) rfl hwithin
        (not_off (by decide)) (by simp [disconnects])
  | recovers htask =>
      exact setState (v := v.note (.vbus true)) (h.congr rfl rfl rfl rfl rfl)
        (connected_of_task htask (by decide)) hwithin (by decide)
  | sendsCaps htask =>
      have := setState h (connected_of_task htask (by decide)) (s := .srcNegociate)
        ⟨hwithin.task, hwithin.timeoutState⟩ (by decide)
      exact this.congr rfl rfl rfl rfl rfl
  | cutsVbus htask =>
      exact arm (v := v.note (.vbus false)) (h.congr rfl rfl rfl rfl rfl)
        (connected_of_task htask (by decide)) hwithin (by decide)
  | becomesSink htask =>
      have hconn : (((v.setPull false).setRole .sink).arm .snkDisconnected).connected = true :=
        connected_of_task htask (by decide)
      refine ⟨hwithin, ?_, fun hoff => ?_, by simp [debounceStates]⟩
      · rw [hconn]
        exact h.receiving.trans (connected_of_task htask (by decide))
      · rw [hconn] at hoff
        cases hoff
  | staysSource htask =>
      exact setState h (connected_of_task htask (by decide)) hwithin (by decide)
  | sentReset => exact h.congr rfl rfl rfl rfl rfl
  | failsReset => exact h.congr rfl rfl rfl rfl rfl
  | @sendsReset few sent htask =>
      exact arm (v := ((v.setFew few).setSent sent).note (.transmit .hardReset 0 [] 0))
        (h.congr rfl rfl rfl rfl rfl) (connected_of_task htask (by decide)) hwithin (by decide)
  | @sendsResetAtOnce few sent htask =>
      exact setState (v := ((v.setFew few).setSent sent).note (.transmit .hardReset 0 [] 0))
        (h.congr rfl rfl rfl rfl rfl) (connected_of_task htask (by decide)) hwithin (by decide)
  | executesReset htask =>
      split
      · exact executeHardReset (v := v.setPull false) (h.congr rfl rfl rfl rfl rfl)
          (connected_of_task htask (by decide))
      · exact executeHardReset h (connected_of_task htask (by decide))

theorem finish (h : Receiving v) (thisState : PdState) :
    Machine.Ensures (v.finish thisState) Receiving := by
  refine v.finish_ensures (h.congr rfl rfl rfl rfl rfl) (fun harmed => ?_) ?_
  · have hconn : v.connected = true := by
      cases hc : v.connected with
      | true => rfl
      | false =>
          rw [h.idle hc] at harmed
          cases harmed
    exact setState (v := v.setLast thisState) (h.congr rfl rfl rfl rfl rfl) hconn
      (.setState h.within.timeoutState) (h.timer harmed)
  · intro w hw hconn _ hrole
    exact setState (v := w.note .detach) (hw.congr rfl rfl rfl rfl rfl) hconn
      (.entered (by simp [entries, hrole])) (by decide)

theorem runSwitch (h : Receiving v)
    (hstays : v.task = .srcSwapStandby → v.entering = true → v.txOk = false → v.role = .source) :
    Machine.Ensures v.runSwitch Receiving :=
  Machine.Ensures.flatMap v.runState_outcome fun _ hw => (h.outcome hw hstays).finish v.task

theorem softResetCall (h : Receiving v) : Receiving v.softResetCall := by
  unfold Control.softResetCall
  split
  · rename_i hconn
    exact setState h hconn (.entered (by simp [entries])) (by decide)
  · exact h

theorem requestPowerSwap (h : Receiving v) : Receiving v.requestPowerSwap := by
  have hwithin := h.within.requestPowerSwap
  unfold Control.requestPowerSwap at hwithin ⊢
  split_ifs at hwithin ⊢ with hsrc hsnk
  · exact setState h (connected_of_task hsrc (by decide)) hwithin (by decide)
  · exact setState h (connected_of_task hsnk (by decide)) hwithin (by decide)
  · exact h

theorem requestDataSwap (h : Receiving v) : Receiving v.requestDataSwap := by
  unfold Control.requestDataSwap
  split
  · rename_i hready
    refine setState h (connected_of_task hready ?_) (.entered (by simp [entries])) (by decide)
    unfold readyReturnState roleIfElse
    cases v.role <;> decide
  · exact h

end Receiving

/-- The messages that end the standby. -/
theorem standby_left {v w : Control} {kind : MsgKind} (hw : w ∈ v.receive (some kind))
    (htask : v.task = .srcSwapStandby) (hrole : v.role = .sink)
    (hkind : kind = .ctrl (some .psRdy) ∨ kind = .ctrl (some .softReset) ∨
      ∃ a, kind = .data (some .request) a) : w.task ≠ .srcSwapStandby := by
  have hconn : v.connected = true := Receiving.connected_of_task htask (by decide)
  simp only [receive, handle, hconn, not_true, if_false] at hw
  rcases hkind with rfl | rfl | ⟨a, rfl⟩
  · simp only [List.mem_singleton] at hw
    rw [hw]
    simp [handleCtrl, handlePsRdy, htask]
  · simp only [List.mem_singleton] at hw
    rw [hw]
    simp [handleCtrl, executeSoftReset, roleIfElse, hrole]
  · simp only [handleData, hrole, reduceCtorEq, false_and, if_false, List.mem_singleton] at hw
    rw [hw]
    simp

end Control

/-! Every run. -/

namespace Port

/-- A message that takes a sink out of `PD_STATE_SRC_SWAP_STANDBY`. -/
def endsStandby (m : PdMsg) : Bool :=
  m.isCtrl .psRdy || m.isCtrl .softReset || m.isData .request

theorem kind_of_endsStandby (b : Board) {m : PdMsg} (h : endsStandby m = true) :
    m.kind b = .ctrl (some .psRdy) ∨ m.kind b = .ctrl (some .softReset) ∨
      ∃ a, m.kind b = .data (some .request) a := by
  simp only [endsStandby, Bool.or_eq_true] at h
  rcases h with (h | h) | h
  · exact .inl (PdMsg.kind_of_isCtrl b h)
  · exact .inr (.inl (PdMsg.kind_of_isCtrl b h))
  · exact .inr (.inr ⟨_, PdMsg.kind_of_isData b h⟩)

/-- The event connects a port whose receiver is off: a reset of an unattached
port, from inside or outside, or a swap that fails for a port that entered the
standby of a source as a sink. -/
def connectsDeaf (p : Port) : Event → Bool
  | .iterate inp => (inp.reset && !p.pdIsConnected) ||
      (p.pd.taskState == .srcSwapStandby && p.entering && p.pd.powerRole == .sink &&
        p.pd.txStatus != .success && !inp.reset && !inp.message.any endsStandby)
  | .alert irq _ => irq.hardReset && !p.pdIsConnected
  | _ => false

/-- `pd_is_connected` holds exactly while reception is enabled. -/
def ReceiverFollows (p : Port) : Prop :=
  p.pdIsConnected = true ↔ (History.ofLog p.log).receiving = true

end Port

theorem Control.receiving_invariant (b : Board) :
    ControlInvariant b (fun p e => p.connectsDeaf e = false) Receiving where
  start := .start
  iterate := by
    intro p inp hC h w hw
    simp only [Port.connectsDeaf, Bool.or_eq_false_iff] at hC
    obtain ⟨hreset, hstandby⟩ := hC
    have hmid : Receiving (p.control.applyReset inp.reset) := by
      refine h.applyReset fun hr => ?_
      change p.pdIsConnected = true
      simpa [hr] using hreset
    have hreceived : Receiving w := by
      rcases receive_reaction _ hw with rfl | ⟨kind, -, hconn, hreaction⟩
      · exact hmid
      · exact hmid.reaction hconn hreaction
    refine hreceived.runSwitch fun htask hentry htx => ?_
    obtain rfl := eq_of_receive _ hw htask (by decide)
    cases hr : inp.reset with
    | true =>
        rw [hr] at htask
        cases htask
    | false =>
        rw [hr] at htask hentry htx hw
        change p.pd.taskState = .srcSwapStandby at htask
        change p.entering = true at hentry
        change (p.pd.txStatus == .success) = false at htx
        cases hrole : p.pd.powerRole with
        | source => exact hrole
        | sink =>
            have hends : inp.message.any Port.endsStandby = true := by
              simpa [hr, htask, hentry, hrole, bne, htx] using hstandby
            obtain ⟨m, hm, hm'⟩ := (Option.any_eq_true _ _).1 hends
            rw [hm] at hw
            refine absurd htask (standby_left hw htask hrole ?_)
            exact Port.kind_of_endsStandby b hm'
  complete := fun p irq now ok _ h => h.congr rfl rfl rfl rfl rfl
  hardReset := by
    intro p irq now ok hC hirq h
    refine Receiving.executeHardReset (h.congr rfl rfl rfl rfl rfl) ?_
    change p.pdIsConnected = true
    simpa [Port.connectsDeaf, hirq] using hC
  softReset := fun p _ h => h.softResetCall
  powerSwap := fun p _ h => h.requestPowerSwap
  dataSwap := fun p _ h => h.requestDataSwap

/-- As long as no event connects a port whose receiver is off, the receiver is
enabled exactly while the port is connected. -/
theorem Port.receiverFollows_after (b : Board) (es : List Event)
    (h : AllSteps b (fun p e => p.connectsDeaf e = false) es) : (after b es).ReceiverFollows := by
  have hreceiving := ((Control.receiving_invariant b).after h).receiving
  change (History.ofLog (after b es).log).receiving = (after b es).pdIsConnected at hreceiving
  rw [ReceiverFollows, hreceiving]

/-- A sink with a contract whose button is pressed. -/
theorem Port.receiverFollows_after_reset :
    (after .shipped (readyAsSink ++ loop true none 0
      { reset := false, message := none, cc := rpOnCc1, ccTail := rpOnCc1,
        time := fun _ => 230000 })).ReceiverFollows :=
  receiverFollows_after .shipped _ (by decide +kernel)

/-- A press of the button before any attach connects the port with its receiver
off. -/
theorem Port.not_receiverFollows_button :
    ¬ ∀ es : List Event, (after .shipped es).ReceiverFollows := by
  intro h
  have hfollows := h (loop true none 0
    { reset := false, message := none, cc := openCc, ccTail := openCc, time := fun _ => 1000 })
  revert hfollows
  unfold ReceiverFollows
  decide

end UsbPd
