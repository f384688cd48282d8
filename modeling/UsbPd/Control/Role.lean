import UsbPd.Control.Rules

/-!
# Roles and states

Which states go with which power role. A table that is closed under the state
changes of the machine holds in every run, apart from the two changes that do
not look at the role: a denied Request and a failed swap.
-/

namespace UsbPd

namespace Control

/-- The state changes that a state allows under a role: its timer, the switch,
the messages and the calls of the public interface. -/
def changes (r : PowerRole) (s : PdState) : List PdState :=
  timers r s ++ moves s ++
    match s with
    | .suspended => [.snkDisconnected]
    | .snkDisconnected => [.snkDisconnectedDebounce]
    | .snkDisconnectedDebounce => [.snkDiscovery]
    | .snkDiscovery => [.snkRequested]
    | .snkRequested => [.snkReady, .snkDiscovery, .snkTransition]
    | .snkTransition => [.snkRequested]
    | .snkReady => [.snkRequested, .snkSwapInit]
    | .snkSwapInit => [.snkReady, .snkSwapSnkDisable]
    | .snkSwapSrcDisable => [.snkSwapStandby]
    | .snkSwapComplete => [.snkDisconnected]
    | .srcDisconnected => [.srcDisconnectedDebounce]
    | .srcDisconnectedDebounce => [.srcStartup]
    | .srcHardResetRecover => [.srcStartup]
    | .srcDiscovery => [.srcNegociate]
    | .srcReady => [.srcSwapInit]
    | .srcGetSinkCap => [.srcReady]
    | .srcSwapInit => [.srcReady, .srcSwapSnkDisable]
    | _ => []

/-- The states that a role can enter whatever the state is. -/
def entries (r : PowerRole) : List PdState :=
  [.disabled, .softReset, .hardResetSend, .hardResetExecute, .drSwap] ++
    r.ifElse [.snkDisconnected, .snkDiscovery, .snkReady, .snkHardResetRecover]
      [.srcDisconnected, .srcDiscovery, .srcReady, .srcHardResetRecover, .srcAccepted]

/-- A table of states and roles that no state change leaves. -/
structure RoleTable where
  allows : PdState → PowerRole → Bool
  entries_allowed : ∀ r, ∀ s ∈ entries r, allows s r = true
  changes_allowed : ∀ r s, allows s r = true → ∀ t ∈ changes r s, allows t r = true
  /-- the end of a swap, where a source has become a sink -/
  swap_allowed : allows .srcSwapStandby .sink = true

/-- The state and the state the timer leads to go with the role. -/
structure Within (T : RoleTable) (v : Control) : Prop where
  task : T.allows v.task v.role = true
  timeoutState : T.allows v.timeoutState v.role = true

namespace Within

variable {T : RoleTable} {v : Control}

theorem setState {s : PdState} (h : T.allows s v.role = true) : Within T (v.setState s) where
  task := by simpa using h
  timeoutState := by simpa using T.entries_allowed v.role .disabled (by simp [entries])

theorem arm (h : Within T v) {s : PdState} (hs : T.allows s v.role = true) :
    Within T (v.arm s) where
  task := h.task
  timeoutState := hs

theorem changed (h : Within T v) {s : PdState} (hs : s ∈ changes v.role v.task) :
    Within T (v.setState s) :=
  setState (T.changes_allowed _ _ h.task s hs)

theorem entered {s : PdState} (hs : s ∈ entries v.role) : Within T (v.setState s) :=
  setState (T.entries_allowed _ s hs)

theorem start : Within T Control.start where
  task := T.entries_allowed .sink .snkDisconnected (by simp [entries])
  timeoutState := T.entries_allowed .sink .disabled (by simp [entries])

theorem applyReset (h : Within T v) (reset : Bool) : Within T (v.applyReset reset) := by
  cases reset with
  | false => exact h
  | true =>
      refine ⟨T.entries_allowed _ .softReset ?_, h.timeoutState⟩
      simp [entries]

theorem executeHardReset : Within T v.executeHardReset := by
  rw [executeHardReset_eq]
  cases hrole : v.role with
  | sink =>
      exact ⟨T.entries_allowed _ _ (by simp [entries]), T.entries_allowed _ _ (by simp [entries])⟩
  | source =>
      exact ⟨T.entries_allowed _ _ (by simp [entries]), T.entries_allowed _ _ (by simp [entries])⟩

theorem executeSoftReset : Within T v.executeSoftReset := by
  unfold Control.executeSoftReset roleIfElse
  cases hrole : v.role <;> exact entered (by simp [entries, hrole])

theorem ready : Within T (v.setState v.readyReturnState) := by
  unfold readyReturnState roleIfElse
  cases hrole : v.role <;> exact entered (by simp [entries, hrole])

/-- A message keeps the table, unless it is a Request denied by a sink. -/
theorem reaction (h : Within T v) {kind : MsgKind} {w : Control} (hw : Reaction v kind w)
    (hdenied : ∀ a, kind = .data (some .request) a → v.role = .sink →
      T.allows .srcReady .sink = true) : Within T w := by
  cases hw with
  | ignored => exact h
  | requested hkind htask =>
      rcases htask with htask | htask | htask <;> exact h.changed (by simp [changes, htask])
  | granted hkind hrole => exact entered (by simp [entries, hrole])
  | denied hkind =>
      cases hrole : v.role with
      | sink => exact setState (by rw [hrole]; exact hdenied _ hkind hrole)
      | source => exact entered (by simp [entries, hrole])
  | tested =>
      unfold roleIfElse
      cases hrole : v.role <;> exact entered (by simp [entries, hrole])
  | sinkCaps htask => exact h.changed (by simp [changes, htask])
  | capsSent htask => exact h.changed (by simp [changes, htask])
  | sourceOff hkind htask => exact h.changed (by simp [changes, htask])
  | sourceOn => exact entered (by simp [entries])
  | early => exact entered (by simp [entries])
  | powered hkind hrole => exact entered (by simp [entries, hrole])
  | dataSwapOver => exact ready
  | srcSwapRefused htask => exact h.changed (by simp [changes, htask])
  | snkSwapRefused htask => exact h.changed (by simp [changes, htask])
  | retryLater htask => exact h.arm (T.changes_allowed _ _ h.task _ (by simp [changes, htask]))
  | keptContract htask => exact h.changed (by simp [changes, htask])
  | noContract htask => exact h.changed (by simp [changes, htask])
  | softAccepted => exact executeSoftReset
  | srcSwapAccepted htask =>
      exact changed (v := (v.note .powerSwapAccepted).setExplicit false) ⟨h.task, h.timeoutState⟩
        (by simp [changes, htask])
  | snkSwapAccepted htask =>
      exact changed (v := (v.note .powerSwapAccepted).setExplicit false) ⟨h.task, h.timeoutState⟩
        (by simp [changes, htask])
  | requestAccepted htask =>
      exact changed (v := (v.note .contractAgreed).setExplicit true) ⟨h.task, h.timeoutState⟩
        (by simp [changes, htask])
  | softReset => exact executeSoftReset

theorem note (h : Within T v) (c : Call) : Within T (v.note c) := ⟨h.task, h.timeoutState⟩

/-- The switch keeps the table, unless a sink fails to end a swap. -/
theorem outcome (h : Within T v) {w : Control} (hw : Outcome v w)
    (hstays : v.task = .srcSwapStandby → v.entering = true → v.txOk = false → v.role = .sink →
      T.allows .srcDisconnected .sink = true) : Within T w := by
  cases hw with
  | stays => exact h
  | arms hentry hs => exact h.arm (T.changes_allowed _ _ h.task _ (by simp [changes, hs]))
  | moves hs => exact h.changed (by simp [changes, hs])
  | resumes htask =>
      exact changed (v := v.clearSuspending) ⟨h.task, h.timeoutState⟩ (by simp [changes, htask])
  | seesSource htask =>
      exact changed (v := v.setFew true) ⟨h.task, h.timeoutState⟩ (by simp [changes, htask])
  | togglesToSource =>
      have := entered (T := T) (v := v.setRole .source) (s := .srcDisconnected) (by simp [entries])
      exact ⟨this.task, this.timeoutState⟩
  | attachesSource htask =>
      exact (h.note (.rxEnable true)).changed (by simp [changes, htask])
  | requests htask =>
      exact ⟨h.task, T.entries_allowed _ .hardResetSend (by simp [entries])⟩
  | drivesVbus htask =>
      exact ⟨h.task,
        T.changes_allowed _ _ h.task .snkSwapComplete (by simp [changes, timers, htask])⟩
  | becomesSource => exact entered (by simp [entries])
  | staysSink htask =>
      exact changed (v := (v.setPull false).note (.vbus false)) ⟨h.task, h.timeoutState⟩
        (by simp [changes, htask])
  | seesSink htask => exact h.changed (by simp [changes, htask])
  | togglesToSink =>
      have := entered (T := T) (v := v.setRole .sink) (s := .snkDisconnected) (by simp [entries])
      exact ⟨this.task, this.timeoutState⟩
  | attachesSink htask =>
      exact changed (v := ((v.note (.vbus true)).note (.rxEnable true)).setFew true)
        ⟨h.task, h.timeoutState⟩ (by simp [changes, htask])
  | recovers htask => exact (h.note (.vbus true)).changed (by simp [changes, htask])
  | sendsCaps htask =>
      have := h.changed (s := .srcNegociate) (by simp [changes, htask])
      exact ⟨this.task, this.timeoutState⟩
  | cutsVbus htask =>
      exact ⟨h.task,
        T.changes_allowed _ _ h.task .srcSwapStandby (by simp [changes, timers, htask])⟩
  | becomesSink htask =>
      refine ⟨?_, T.entries_allowed .sink .snkDisconnected (by simp [entries])⟩
      simpa [htask] using T.swap_allowed
  | staysSource htask hentry htx =>
      cases hrole : v.role with
      | sink => exact setState (by rw [hrole]; exact hstays htask hentry htx hrole)
      | source => exact entered (by simp [entries, hrole])
  | sentReset => exact ⟨h.task, h.timeoutState⟩
  | failsReset => exact ⟨h.task, h.timeoutState⟩
  | sendsReset =>
      exact ⟨h.task, T.entries_allowed _ .hardResetExecute (by simp [entries])⟩
  | sendsResetAtOnce => exact entered (by simp [entries])
  | executesReset => exact executeHardReset

theorem finish (h : Within T v) (thisState : PdState) :
    Machine.Ensures (v.finish thisState) (Within T) := by
  refine v.finish_ensures ⟨h.task, h.timeoutState⟩ (fun _ => setState h.timeoutState) ?_
  intro w hw _ _ hrole
  exact entered (by simp [entries, hrole])

theorem softResetCall (h : Within T v) : Within T v.softResetCall := by
  unfold Control.softResetCall
  split
  · exact entered (by simp [entries])
  · exact h

theorem requestPowerSwap (h : Within T v) : Within T v.requestPowerSwap := by
  unfold Control.requestPowerSwap
  split_ifs with hsrc hsnk
  · exact h.changed (by simp [changes, hsrc])
  · exact h.changed (by simp [changes, hsnk])
  · exact h

theorem requestDataSwap (h : Within T v) : Within T v.requestDataSwap := by
  unfold Control.requestDataSwap
  split
  · exact entered (by simp [entries])
  · exact h

end Within

/-! The table of the roles: `SRC_*` states up to the standby of a swap belong to
a source, `SNK_*` states to a sink. -/

/-- The `SRC_*` states in which the port has to be a source. -/
def sourceStates : List PdState :=
  [.srcDisconnected, .srcDisconnectedDebounce, .srcHardResetRecover, .srcStartup, .srcDiscovery,
    .srcNegociate, .srcAccepted, .srcPowered, .srcTransition, .srcReady, .srcGetSinkCap,
    .srcSwapInit, .srcSwapSnkDisable, .srcSwapSrcDisable]

/-- The `SNK_*` states. -/
def sinkStates : List PdState :=
  [.snkDisconnected, .snkDisconnectedDebounce, .snkHardResetRecover, .snkDiscovery,
    .snkRequested, .snkTransition, .snkReady, .snkSwapInit, .snkSwapSnkDisable,
    .snkSwapSrcDisable, .snkSwapStandby, .snkSwapComplete]

/-- A state suits a role; the suspended state goes on as a sink. -/
def suits (s : PdState) : PowerRole → Bool
  | .source => s ∉ sinkStates ∧ s ≠ .suspended
  | .sink => s ∉ sourceStates

/-- The table of the roles. -/
def roleTable : RoleTable where
  allows := suits
  entries_allowed := by
    intro r
    cases r <;> decide
  changes_allowed := by
    intro r s
    cases r <;> cases s <;> decide
  swap_allowed := rfl

/-- The four states that are entered by a source alone and left by it. -/
def poweredStates : List PdState :=
  [.srcHardResetRecover, .srcAccepted, .srcPowered, .srcTransition]

/-- What is left of the table when Requests reach a sink. -/
def shapeTable : RoleTable where
  allows := fun s r => r.ifElse (s ∉ poweredStates) (s ∉ sinkStates ∧ s ≠ .suspended)
  entries_allowed := by
    intro r
    cases r <;> decide
  changes_allowed := by
    intro r s
    cases r <;> cases s <;> decide
  swap_allowed := rfl

/-- A sink stands in `PD_STATE_SRC_SWAP_STANDBY` only after the switch has made
it a sink there, and only the timer of a source leads there. -/
structure SwapStandby (v : Control) : Prop where
  task : v.task = .srcSwapStandby → v.role = .sink → v.last = .srcSwapStandby
  timer : v.timeoutState = .srcSwapStandby → v.role = .source

namespace SwapStandby

variable {v : Control}

theorem setState {s : PdState} (hs : s ≠ .srcSwapStandby) : SwapStandby (v.setState s) where
  task := by
    intro h
    rw [setState_task] at h
    exact absurd h hs
  timer := by simp

theorem executeSoftReset : SwapStandby v.executeSoftReset := by
  unfold Control.executeSoftReset roleIfElse
  cases v.role <;> exact setState (by decide)

theorem executeHardReset : SwapStandby v.executeHardReset := by
  rw [executeHardReset_eq]
  cases hrole : v.role <;> exact ⟨by simp, by simp⟩

theorem ready : SwapStandby (v.setState v.readyReturnState) := by
  unfold readyReturnState roleIfElse
  cases v.role <;> exact setState (by decide)

theorem applyReset (h : SwapStandby v) (reset : Bool) : SwapStandby (v.applyReset reset) := by
  cases reset with
  | false => exact h
  | true => exact ⟨by simp [Control.applyReset], h.timer⟩

theorem reaction (h : SwapStandby v) {kind : MsgKind} {w : Control} (hw : Reaction v kind w) :
    SwapStandby w := by
  cases hw with
  | ignored => exact h
  | tested =>
      unfold roleIfElse
      cases v.role <;> exact setState (by decide)
  | dataSwapOver => exact ready
  | retryLater htask => exact ⟨by simp [htask], by simp⟩
  | softAccepted => exact executeSoftReset
  | softReset => exact executeSoftReset
  | _ => exact setState (by decide)

/-- Only the supply switched off by a source leads to the standby of a swap. -/
theorem timers_standby : ∀ r s, .srcSwapStandby ∈ timers r s → s = .srcSwapSrcDisable := by
  intro r s
  cases r <;> cases s <;> decide

theorem moves_standby : ∀ s, .srcSwapStandby ∉ moves s := by
  intro s
  cases s <;> decide

/-- After the switch a sink in the standby was there before. -/
theorem outcome (h : SwapStandby v) (hrole : v.task = .srcSwapSrcDisable → v.role = .source)
    {w : Control} (hw : Outcome v w) :
    (w.task = .srcSwapStandby → w.role = .sink → v.task = .srcSwapStandby) ∧
      (w.timeoutState = .srcSwapStandby → w.role = .source) := by
  have hset : ∀ (u : Control) {s : PdState}, s ≠ .srcSwapStandby →
      ((u.setState s).task = .srcSwapStandby → (u.setState s).role = .sink →
        v.task = .srcSwapStandby) ∧
      ((u.setState s).timeoutState = .srcSwapStandby → (u.setState s).role = .source) := by
    intro u s hs
    simp [hs]
  cases hw with
  | stays => exact ⟨fun htask _ => htask, h.timer⟩
  | arms hentry hs =>
      refine ⟨fun htask _ => htask, ?_⟩
      rintro rfl
      exact hrole (timers_standby _ _ hs)
  | @moves s hs =>
      refine hset v ?_
      rintro rfl
      exact moves_standby _ hs
  | requests htask => exact ⟨by simp [htask], by simp⟩
  | drivesVbus htask => exact ⟨by simp [htask], by simp⟩
  | cutsVbus htask => exact ⟨by simp [htask], fun _ => hrole htask⟩
  | becomesSink htask => exact ⟨fun _ _ => htask, by simp⟩
  | sentReset htask => exact ⟨by simp [htask], h.timer⟩
  | failsReset htask => exact ⟨by simp [htask], h.timer⟩
  | sendsReset htask => exact ⟨by simp [htask], by simp⟩
  | executesReset =>
      rw [executeHardReset_eq]
      refine ⟨fun htask => ?_, by simp⟩
      split at htask <;> cases hr : v.role <;> simp [hr] at htask
  | attachesSource => exact hset _ (by decide)
  | attachesSink => exact hset _ (by decide)
  | togglesToSource =>
      exact ⟨by simp, by simp⟩
  | togglesToSink =>
      exact ⟨by simp, by simp⟩
  | sendsCaps => exact ⟨by simp, by simp⟩
  | _ => exact hset _ (by decide)

theorem finish (thisState : PdState)
    (htask : v.task = .srcSwapStandby → v.role = .sink → thisState = .srcSwapStandby)
    (htimer : v.timeoutState = .srcSwapStandby → v.role = .source) :
    Machine.Ensures (v.finish thisState) SwapStandby := by
  refine v.finish_ensures ⟨htask, htimer⟩ (fun _ => ⟨?_, by simp⟩) ?_
  · intro hstate hrole
    simp only [setState_task] at hstate
    rw [setState_role] at hrole
    have hsource := htimer hstate
    change v.role = .sink at hrole
    rw [hsource] at hrole
    cases hrole
  · intro w _ _ _ _
    exact setState (by decide)

theorem softResetCall (h : SwapStandby v) : SwapStandby v.softResetCall := by
  unfold Control.softResetCall
  split
  · exact setState (by decide)
  · exact h

theorem requestPowerSwap (h : SwapStandby v) : SwapStandby v.requestPowerSwap := by
  unfold Control.requestPowerSwap
  split_ifs
  · exact setState (by decide)
  · exact setState (by decide)
  · exact h

theorem requestDataSwap (h : SwapStandby v) : SwapStandby v.requestDataSwap := by
  unfold Control.requestDataSwap
  split
  · exact setState (by decide)
  · exact h

end SwapStandby

end Control

/-! Every run. -/

/-- The iteration hands a Request to a connected sink. -/
def Port.requestAsSink (p : Port) : Event → Bool
  | .iterate inp => (p.applyReset inp.reset).pdIsConnected && p.pd.powerRole == .sink &&
      inp.message.any (PdMsg.isData · .request)
  | _ => false

/-- Roles and states are consistent. -/
structure Port.RoleConsistent (p : Port) : Prop where
  source : p.pd.taskState ∈ Control.sourceStates → p.pd.powerRole = .source
  sink : p.pd.taskState ∈ Control.sinkStates → p.pd.powerRole = .sink

namespace Control

theorem suits_source {s : PdState} {r : PowerRole} (h : suits s r = true)
    (hs : s ∈ sourceStates) : r = .source := by
  cases r with
  | source => rfl
  | sink => simp [suits, hs] at h

theorem suits_sink {s : PdState} {r : PowerRole} (h : suits s r = true)
    (hs : s ∈ sinkStates) : r = .sink := by
  cases r with
  | source => simp [suits, hs] at h
  | sink => rfl

theorem roles_runSwitch {v : Control} (h : Within roleTable v) (hstandby : SwapStandby v) :
    Machine.Ensures v.runSwitch fun w => Within roleTable w ∧ SwapStandby w := by
  refine Machine.Ensures.flatMap v.runState_outcome fun w hw => ?_
  have hwithin : Within roleTable w := by
    refine h.outcome hw fun htask hentry _ hrole => ?_
    have hlast := hstandby.task htask hrole
    simp [entering, hlast, htask] at hentry
  have hsource : v.task = .srcSwapSrcDisable → v.role = .source := by
    intro htask
    exact suits_source h.task (by simp [htask, sourceStates])
  obtain ⟨htask, htimer⟩ := hstandby.outcome hsource hw
  exact (hwithin.finish v.task).and (SwapStandby.finish v.task htask htimer)

end Control

theorem Control.roles_invariant (b : Board) :
    ControlInvariant b (fun p e => p.requestAsSink e = false)
      (fun v => Within roleTable v ∧ SwapStandby v) where
  start := ⟨.start, by simp [start], by simp [start]⟩
  iterate := by
    rintro p inp hC ⟨hwithin, hstandby⟩ w hw
    have hreset := hwithin.applyReset inp.reset
    have hsreset := hstandby.applyReset inp.reset
    rcases receive_reaction _ hw with rfl | ⟨kind, hkind, hconn, hreaction⟩
    · exact roles_runSwitch hreset hsreset
    · refine roles_runSwitch (hreset.reaction hreaction ?_) (hsreset.reaction hreaction)
      rintro a rfl hrole
      obtain ⟨m, hm, hmkind⟩ := Option.map_eq_some_iff.1 hkind
      have hrequest := PdMsg.isData_of_kind hmkind
      have hsink : p.pd.powerRole = .sink := by
        cases hr : inp.reset <;> simpa [applyReset, hr] using hrole
      rw [← Port.control_applyReset, Port.control_connected] at hconn
      simp [Port.requestAsSink, hm, hrequest, hsink, hconn] at hC
  complete := fun p irq now ok _ h => ⟨⟨h.1.task, h.1.timeoutState⟩, h.2.task, h.2.timer⟩
  hardReset := fun p irq now ok _ _ _ => ⟨.executeHardReset, .executeHardReset⟩
  softReset := fun p _ h => ⟨h.1.softResetCall, h.2.softResetCall⟩
  powerSwap := fun p _ h => ⟨h.1.requestPowerSwap, h.2.requestPowerSwap⟩
  dataSwap := fun p _ h => ⟨h.1.requestDataSwap, h.2.requestDataSwap⟩

/-- Whatever happens, a source is in no state of a sink and a sink in no state
of a source that delivers power. -/
theorem Control.shape_invariant (b : Board) :
    ControlInvariant b (fun _ _ => True) (Within shapeTable) where
  start := .start
  iterate := by
    intro p inp _ hwithin w hw
    have hreset := hwithin.applyReset inp.reset
    have hmid : Within shapeTable w := by
      rcases receive_reaction _ hw with rfl | ⟨kind, -, -, hreaction⟩
      · exact hreset
      · exact hreset.reaction hreaction fun _ _ _ => rfl
    exact Machine.Ensures.flatMap w.runState_outcome fun u hu =>
      (hmid.outcome hu fun _ _ _ _ => rfl).finish w.task
  complete := fun p irq now ok _ h => ⟨h.task, h.timeoutState⟩
  hardReset := fun p irq now ok _ _ _ => .executeHardReset
  softReset := fun p _ h => h.softResetCall
  powerSwap := fun p _ h => h.requestPowerSwap
  dataSwap := fun p _ h => h.requestDataSwap

/-- The port never suspends and its state suits its role as far as every run
ensures. -/
structure Port.Shaped (p : Port) : Prop where
  awake : p.pd.reqSuspendState = false
  within : Control.Within Control.shapeTable p.control

theorem Port.shaped_setup : Port.setup.Shaped := by
  refine ⟨rfl, ?_⟩
  rw [control_setup]
  exact .start

theorem Port.Shaped.step {p : Port} (h : p.Shaped) (b : Board) (e : Event) :
    (p.step b e).Shaped := by
  obtain ⟨hawake, hwithin⟩ :=
    (Control.shape_invariant b).port_step (e := e) h.awake h.within trivial
  exact ⟨hawake, hwithin⟩

theorem Port.Shaped.sink {p : Port} (h : p.Shaped) (htask : p.pd.taskState ∈ Control.sinkStates) :
    p.pd.powerRole = .sink := by
  have hallowed := h.within.task
  cases hrole : p.pd.powerRole with
  | sink => rfl
  | source => simp [Control.shapeTable, Port.control, hrole, htask, PowerRole.ifElse] at hallowed

/-- The message keeps the shape. -/
theorem Port.Shaped.receive {p : Port} (h : p.Shaped) (b : Board) (inp : Input) :
    ((p.beforeMessage inp).receive b inp).Shaped := by
  have hmem := (p.beforeMessage inp).control_receive_mem b inp
  rw [control_beforeMessage] at hmem
  constructor
  · have hsuspending := Control.receive_suspending _ hmem
    rw [Control.applyReset_suspending] at hsuspending
    exact hsuspending.trans h.awake
  · have hreset := h.within.applyReset inp.reset
    rcases Control.receive_reaction _ hmem with heq | ⟨_, -, -, hreaction⟩
    · rw [heq]
      exact hreset
    · exact hreset.reaction hreaction fun _ _ _ => rfl

/-- Nothing suspends the port between the message and the switch. -/
theorem Port.Shaped.beforeSwitch_eq {p : Port} (h : p.Shaped) (b : Board) (inp : Input) :
    p.beforeSwitch b inp = (p.beforeMessage inp).receive b inp :=
  if_neg (by simp [(h.receive b inp).awake])

/-- Conditions that agree on the steps of shaped ports agree on all runs. -/
theorem Port.allSteps_congr {b : Board} {C D : Port → Event → Prop}
    (h : ∀ p e, p.Shaped → (C p e ↔ D p e)) (es : List Event) :
    AllSteps b C es ↔ AllSteps b D es :=
  Machine.along_congr_of_invariant (fun _ e hp => hp.step b e) h shaped_setup es

/-- As long as no Request reaches a connected sink, roles and states stay
consistent. -/
theorem Port.roleConsistent_after (b : Board) (es : List Event)
    (h : AllSteps b (fun p e => p.requestAsSink e = false) es) :
    (after b es).RoleConsistent := by
  have hwithin := ((Control.roles_invariant b).after h).1
  exact ⟨Control.suits_source hwithin.task, Control.suits_sink hwithin.task⟩

/-- A sink that hears a PS_RDY and a soft reset. -/
theorem Port.roleConsistent_after_softReset :
    (after .shipped (attachAsSink ++ [iterateAt 200000 rpOnCc1 (some (ctrlMsg .psRdy)),
      .softReset])).RoleConsistent :=
  roleConsistent_after .shipped _ (by decide)

/-- A sink that receives a Request goes through `PD_STATE_SRC_READY`. -/
theorem Port.not_roleConsistent_request :
    ¬ ∀ es : List Event, (after .shipped es).RoleConsistent := by
  intro h
  have hsource := (h (attachAsSink ++
    [iterateAt 200000 rpOnCc1 (some (dataMsg .request [0] (by decide)))])).source
  revert hsource
  decide

end UsbPd
