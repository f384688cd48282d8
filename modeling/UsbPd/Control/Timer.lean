import UsbPd.Control.Rules

/-!
# Waiting states have a deadline

A waiting state arms its timer on entry, which it recognises by the state that
ran last, while every state change stops the timer. A waiting state therefore
keeps its deadline as long as nothing leads back to it between two iterations.
-/

namespace UsbPd

namespace Port

/-- The port waits for a message or for the supply. -/
def waits (p : Port) : Prop :=
  p.pd.taskState ∈ Control.waitingStates ∨
    (p.pd.taskState = .snkDiscovery ∧ p.st.hardResetCount < pdHardResetCount)

/-- A port that waits in the state that ran last has its timer running. -/
def DeadlineKept (p : Port) : Prop :=
  p.pd.taskState = p.pd.lastState → p.waits → p.pd.timeout ≠ 0

/-- The message restarts the negotiation from the state that ran last: the
capabilities of a source, a Request, or one of the two messages of a soft reset. -/
def restartsWait (b : Board) (p : Port) (reset : Bool) (m : PdMsg) : Bool :=
  match p.pd.lastState with
  | .snkRequested => m.isData .sourceCap && !reset && p.pd.txStatus == .success &&
      (p.pd.taskState == .snkDiscovery || p.pd.taskState == .snkTransition ||
        p.pd.taskState == .snkReady)
  | .srcAccepted => p.grants b m && p.pd.txStatus == .success && (reset || p.pdIsConnected)
  | .snkDiscovery => p.pd.powerRole == .sink && fewHardResets p.st.hardResetCount &&
      (reset || p.pdIsConnected) &&
      (m.isCtrl .softReset || (m.isCtrl .accept && (reset || p.pd.taskState == .softReset)))
  | _ => false

/-- The event leads back to the waiting state that ran last. A reset does so
unless a message of the same iteration ends the soft reset. -/
def losesDeadline (b : Board) (p : Port) : Event → Bool
  | .iterate inp => inp.message.any (p.restartsWait b inp.reset) ||
      (inp.reset && p.pd.lastState == .softReset && p.pd.taskState != .softReset &&
        !inp.message.any fun m => m.isCtrl .accept || p.interruptsReset b m)
  | .softReset => p.pdIsConnected && p.pd.lastState == .softReset
  | .requestPowerSwap => (p.pd.taskState == .srcReady && p.pd.lastState == .srcSwapInit) ||
      (p.pd.taskState == .snkReady && p.pd.lastState == .snkSwapInit)
  | .requestDataSwap => p.pd.taskState == p.readyReturnState && p.pd.lastState == .drSwap
  | _ => false

end Port

namespace Control

/-- The states that no event leads to right after the given state ran. -/
def unreachedAfter : PdState → List PdState
  | .snkSwapStandby => [.snkSwapSrcDisable]
  | .snkDiscovery => [.srcSwapStandby, .snkRequested]
  | .snkTransition => [.snkRequested]
  | .srcSwapSnkDisable => [.srcSwapInit, .srcReady]
  | .srcNegociate => [.srcDiscovery]
  | _ => []

/-- What holds when the switch is entered: a waiting state that ran last has its
timer, which leads where that state arms it to; other timers are left over in
waiting states only, which arm them again. -/
structure Deadline (v : Control) : Prop where
  kept : v.task = v.last → v.waits = true → v.armed = true
  timer : v.task = v.last → v.armed = true → v.timeoutState ∈ timers v.role v.task
  fresh : v.task ≠ v.last → v.armed = true → v.task ∈ waitingStates

/-- What holds between two events: the timer runs only in the state that ran
last. -/
structure Timed (v : Control) : Prop extends Deadline v where
  unarmed : v.task ≠ v.last → v.armed = false
  order : v.task ∉ unreachedAfter v.last

/-- What holds after the switch over the state `t`. -/
structure Switched (t : PdState) (v : Control) : Prop where
  kept : v.task = t → v.waits = true → v.armed = true
  timer : v.task = t → v.armed = true → v.timeoutState ∈ timers v.role t
  unarmed : v.task ≠ t → v.armed = false
  order : v.task ∉ unreachedAfter t

theorem waits_of_mem {v : Control} (h : v.task ∈ waitingStates) : v.waits = true := by
  simp [waits, h]

/-- A state that never waits. -/
theorem waits_eq_false {v : Control} {s : PdState} (htask : v.task = s)
    (hs : s ∉ .snkDiscovery :: waitingStates) : v.waits = false := by
  rw [List.mem_cons, not_or] at hs
  simp [waits, htask, hs]

theorem timers_order : ∀ r t, ∀ s ∈ timers r t, s ≠ t ∧ s ∉ unreachedAfter t := by
  intro r t
  cases r <;> cases t <;> decide

theorem moves_order : ∀ t, ∀ s ∈ moves t, s ≠ t ∧ s ∉ unreachedAfter t := by
  intro t
  cases t <;> decide

/-- Neither the state itself nor the entry into a disconnected state is ruled
out. -/
theorem order_of_exit : ∀ t : PdState, t ∉ unreachedAfter t ∧
    .srcDisconnected ∉ unreachedAfter t := by
  intro t
  cases t <;> decide

namespace Deadline

variable {v w : Control}

/-- A state change stops the timer, which is fine away from the state that ran
last and in a state that does not wait. -/
theorem setState {s : PdState} (h : s = v.last → (v.setState s).waits = false) :
    Deadline (v.setState s) := by
  refine ⟨fun hlast hwaits => ?_, ?_, ?_⟩
  · rw [setState_task, setState_last] at hlast
    rw [h hlast] at hwaits
    cases hwaits
  · simp
  · simp

theorem setState_plain {s : PdState} (hs : s ∉ .snkDiscovery :: waitingStates) :
    Deadline (v.setState s) :=
  setState fun _ => waits_eq_false (v.setState_task s) hs

theorem executeSoftReset
    (h : v.role = .sink → v.last = .snkDiscovery → v.fewResets = false) :
    Deadline v.executeSoftReset := by
  unfold Control.executeSoftReset roleIfElse
  cases hrole : v.role with
  | source => exact setState_plain (by decide)
  | sink =>
      refine setState fun hlast => ?_
      simp [waits, waitingStates, h hrole hlast.symm]

/-- A message keeps the deadline unless it leads back to a waiting state. -/
theorem reaction (horder : v.task ∉ unreachedAfter v.last) {kind : MsgKind}
    (hw : Reaction v kind w) (hsame : w = v → Deadline v)
    (hcaps : ∀ a, kind = .data (some .sourceCap) a → (v.task = .snkDiscovery ∨
      v.task = .snkTransition ∨ v.task = .snkReady) → v.txOk = true → v.last ≠ .snkRequested)
    (hgrant : kind = .data (some .request) true → v.role = .source → v.txOk = true →
      v.last ≠ .srcAccepted)
    (hsoft : kind = .ctrl (some .softReset) ∨
      (kind = .ctrl (some .accept) ∧ v.task = .softReset) →
      v.role = .sink → v.last = .snkDiscovery → v.fewResets = false) : Deadline w := by
  -- the states that nothing led to after the last one are not the one to be left now
  have hne : ∀ {s t : PdState}, v.task = s → s ∈ unreachedAfter t → t ≠ v.last := by
    rintro s t htask hs rfl
    rw [htask] at horder
    exact horder hs
  cases hw with
  | ignored => exact hsame rfl
  | requested hkind htask htx => exact setState fun h => absurd h.symm (hcaps _ hkind htask htx)
  | granted hkind hrole htx =>
      exact setState (v := (v.note .contractAgreed).setExplicit true)
        fun h => absurd h.symm (hgrant hkind hrole htx)
  | denied => exact setState_plain (by decide)
  | tested =>
      refine setState_plain ?_
      unfold roleIfElse
      cases v.role <;> decide
  | sinkCaps => exact setState_plain (by decide)
  | capsSent htask => exact setState fun h => absurd h (hne htask (by decide))
  | sourceOff _ htask => exact setState fun h => absurd h (hne htask (by decide))
  | sourceOn _ htask =>
      exact setState (v := v.setRole .sink) fun h => absurd h (hne htask (by decide))
  | early => exact setState_plain (by decide)
  | powered => exact setState_plain (by decide)
  | dataSwapOver =>
      refine setState_plain ?_
      unfold readyReturnState roleIfElse
      cases v.role <;> decide
  | srcSwapRefused => exact setState_plain (by decide)
  | snkSwapRefused => exact setState_plain (by decide)
  | retryLater htask => constructor <;> simp [htask, timers, waitingStates]
  | keptContract => exact setState_plain (by decide)
  | noContract htask => exact setState fun h => absurd h (hne htask (by decide))
  | softAccepted hkind htask => exact executeSoftReset (hsoft (.inr ⟨hkind, htask⟩))
  | srcSwapAccepted htask =>
      exact setState (v := (v.note .powerSwapAccepted).setExplicit false)
        fun h => absurd h (hne htask (by decide))
  | snkSwapAccepted => exact setState_plain (by decide)
  | requestAccepted htask =>
      exact setState (v := (v.note .contractAgreed).setExplicit true)
        fun h => absurd h (hne htask (by decide))
  | softReset hkind => exact executeSoftReset (hsoft (.inl hkind))

end Deadline

namespace Switched

variable {v w : Control} {t : PdState}

/-- The switch that leaves the state. -/
theorem left (htask : v.task ≠ t) (harmed : v.armed = false) (horder : v.task ∉ unreachedAfter t) :
    Switched t v := by
  refine ⟨fun h => absurd h htask, fun h => absurd h htask, fun _ => harmed, horder⟩

theorem setState {s : PdState} (hs : s ≠ t ∧ s ∉ unreachedAfter t) :
    Switched t (v.setState s) := by
  refine left ?_ (by simp) ?_
  · simpa using hs.1
  · simpa using hs.2

theorem arm {s : PdState} (htask : v.task = t) (hs : s ∈ timers v.role t) :
    Switched t (v.arm s) := by
  refine ⟨fun _ _ => rfl, fun _ _ => hs, fun h => absurd htask h, ?_⟩
  change v.task ∉ unreachedAfter t
  rw [htask]
  exact (order_of_exit t).1

/-- The switch that stays in the state. -/
theorem stays (h : Deadline v) (hidle : v.task ≠ v.last → v.waits = false) :
    Switched v.task v := by
  refine ⟨fun _ hwaits => ?_, fun _ harmed => ?_, fun h => absurd rfl h, (order_of_exit _).1⟩
  · rcases eq_or_ne v.task v.last with hlast | hlast
    · exact h.kept hlast hwaits
    · rw [hidle hlast] at hwaits
      cases hwaits
  · rcases eq_or_ne v.task v.last with hlast | hlast
    · exact h.timer hlast harmed
    · have hwaits := waits_of_mem (h.fresh hlast harmed)
      rw [hidle hlast] at hwaits
      cases hwaits

/-- The switch that stays in `PD_STATE_HARD_RESET_SEND`. -/
theorem resetting (h : Deadline v) (htask : v.task = .hardResetSend) (few sent : Bool) :
    Switched v.task ((v.setFew few).setSent sent) := by
  have hidle : ∀ w : Control, w.task = v.task → w.waits = false := by
    intro w hw
    exact waits_eq_false (hw.trans htask) (by decide)
  have hstays := stays h fun _ => hidle v rfl
  refine ⟨fun _ hwaits => ?_, hstays.timer, hstays.unarmed, hstays.order⟩
  exact absurd ((hidle ((v.setFew few).setSent sent) rfl).symm.trans hwaits) (by decide)

theorem executeHardReset : Switched .hardResetExecute v.executeHardReset := by
  rw [executeHardReset_eq]
  cases v.role <;> refine left ?_ rfl ?_ <;> simp [unreachedAfter]

theorem outcome (h : Deadline v) (hw : Outcome v w) : Switched v.task w := by
  cases hw with
  | stays hidle =>
      refine stays h fun hlast => hidle ?_
      simpa [entering] using hlast.symm
  | arms _ hs => exact arm rfl hs
  | moves hs => exact setState (moves_order _ _ hs)
  | resumes htask => exact htask ▸ setState (v := v.clearSuspending) (by decide)
  | seesSource htask => exact htask ▸ setState (v := v.setFew true) (by decide)
  | togglesToSource htask =>
      rw [htask]
      exact left (by simp) (by simp) (by simp [unreachedAfter])
  | attachesSource htask => exact htask ▸ setState (v := v.note (.rxEnable true)) (by decide)
  | requests htask =>
      exact arm (v := v.setFew true) rfl (by simp [timers, htask])
  | drivesVbus htask =>
      exact arm (v := (v.setPull true).note (.vbus true)) rfl (by simp [timers, htask])
  | becomesSource htask => exact htask ▸ setState (v := v.setRole .source) (by decide)
  | staysSink htask =>
      exact htask ▸ setState (v := (v.setPull false).note (.vbus false)) (by decide)
  | seesSink htask => exact htask ▸ setState (by decide)
  | togglesToSink htask =>
      rw [htask]
      exact left (by simp) (by simp) (by simp [unreachedAfter])
  | attachesSink htask =>
      exact htask ▸ setState (v := ((v.note (.vbus true)).note (.rxEnable true)).setFew true)
        (by decide)
  | recovers htask => exact htask ▸ setState (v := v.note (.vbus true)) (by decide)
  | sendsCaps htask =>
      rw [htask]
      exact left (by simp) (by simp) (by simp [unreachedAfter])
  | cutsVbus htask => exact arm (v := v.note (.vbus false)) rfl (by simp [timers, htask])
  | becomesSink htask =>
      exact arm (v := (v.setPull false).setRole .sink) rfl (by simp [timers, htask])
  | staysSource htask => exact htask ▸ setState (by decide)
  | sentReset htask => exact resetting h htask _ _
  | @failsReset few sent htask =>
      have hstays := resetting h htask few sent
      exact ⟨hstays.kept, hstays.timer, hstays.unarmed, hstays.order⟩
  | @sendsReset few sent htask hrole =>
      exact arm (v := ((v.setFew few).setSent sent).note (.transmit .hardReset 0 [] 0)) rfl
        (by simp [timers, htask, hrole])
  | @sendsResetAtOnce few sent htask =>
      exact htask ▸ setState
        (v := ((v.setFew few).setSent sent).note (.transmit .hardReset 0 [] 0)) (by decide)
  | executesReset htask =>
      rw [htask]
      split <;> exact executeHardReset

end Switched

namespace Timed

variable {v w : Control}

theorem start : Timed Control.start := by
  refine ⟨⟨?_, ?_, ?_⟩, ?_, ?_⟩ <;> decide

/-- A state change to a state that an event may lead to. -/
theorem setState {s : PdState} (hs : s ∉ unreachedAfter v.last)
    (hwaits : s = v.last → (v.setState s).waits = false) : Timed (v.setState s) :=
  ⟨.setState hwaits, fun _ => v.setState_armed s, by simpa using hs⟩

theorem finish {t : PdState} (h : Switched t v) : Machine.Ensures (v.finish t) Timed := by
  refine v.finish_ensures ?_ (fun harmed => ?_) ?_
  · refine ⟨⟨h.kept, fun htask harmed => ?_, fun htask harmed => ?_⟩, h.unarmed, h.order⟩
    · exact htask ▸ h.timer htask harmed
    · rw [show (v.setLast t).armed = false from h.unarmed htask] at harmed
      cases harmed
  · have htask : v.task = t := by
      by_contra htask
      rw [h.unarmed htask] at harmed
      cases harmed
    obtain ⟨hne, horder⟩ := timers_order _ _ _ (h.timer htask harmed)
    exact setState (v := v.setLast t) horder fun hlast => absurd hlast hne
  · intro w _ _ _ _
    exact setState (v := w.note .detach) (order_of_exit _).2
      fun _ => waits_eq_false (setState_task _ _) (by decide)

theorem runSwitch (h : Deadline v) : Machine.Ensures v.runSwitch Timed :=
  Machine.Ensures.flatMap v.runState_outcome fun _ hw => finish (.outcome h hw)

/-- A reset of a port that is not in the soft reset of the last iteration. -/
theorem deadline_applyReset (h : Timed v) {reset : Bool}
    (hreset : reset = true → v.task ≠ .softReset → v.last ≠ .softReset) :
    Deadline (v.applyReset reset) := by
  cases reset with
  | false => exact h.toDeadline
  | true =>
      rcases eq_or_ne v.task .softReset with htask | htask
      · have hsame : v.applyReset true = v := by
          simp [Control.applyReset, ← htask]
        rw [hsame]
        exact h.toDeadline
      · have hlast := hreset rfl htask
        refine ⟨fun hsame => absurd hsame.symm hlast, fun hsame => absurd hsame.symm hlast,
          fun _ _ => ?_⟩
        simp [Control.applyReset, waitingStates]

theorem order_applyReset (h : Timed v) (reset : Bool) :
    (v.applyReset reset).task ∉ unreachedAfter (v.applyReset reset).last := by
  cases reset with
  | false => exact h.order
  | true =>
      change PdState.softReset ∉ unreachedAfter v.last
      cases v.last <;> decide

theorem executeHardReset : Timed v.executeHardReset := by
  rw [executeHardReset_eq]
  cases v.role <;> refine ⟨⟨?_, ?_, ?_⟩, ?_, ?_⟩ <;> simp [unreachedAfter]

theorem softResetCall (h : Timed v) (hlast : v.connected = true → v.last ≠ .softReset) :
    Timed v.softResetCall := by
  unfold Control.softResetCall
  split
  · rename_i hconn
    refine setState ?_ fun h => absurd h.symm (hlast hconn)
    cases v.last <;> decide
  · exact h

theorem requestPowerSwap (h : Timed v) (hsrc : v.task = .srcReady → v.last ≠ .srcSwapInit)
    (hsnk : v.task = .snkReady → v.last ≠ .snkSwapInit) : Timed v.requestPowerSwap := by
  unfold Control.requestPowerSwap
  split_ifs with htask htask'
  · refine setState ?_ fun hl => absurd hl.symm (hsrc htask)
    have horder := h.order
    rw [htask] at horder
    revert horder
    cases v.last <;> decide
  · refine setState ?_ fun hl => absurd hl.symm (hsnk htask')
    cases v.last <;> decide
  · exact h

theorem requestDataSwap (h : Timed v) (hlast : v.task = v.readyReturnState → v.last ≠ .drSwap) :
    Timed v.requestDataSwap := by
  unfold Control.requestDataSwap
  split
  · rename_i hready
    refine setState ?_ fun hl => absurd hl.symm (hlast hready)
    cases v.last <;> decide
  · exact h

end Timed

/-- An Accept ends a soft reset. -/
theorem softReset_left {v w : Control} (hw : w ∈ v.receive (some (.ctrl (some .accept))))
    (htask : v.task = .softReset) : w.task ≠ .softReset := by
  have hconn : v.connected = true := v.connected_of_resetting htask (by decide)
  simp only [receive, handle, hconn, not_true, if_false] at hw
  obtain rfl := List.mem_singleton.1 hw
  simp only [handleCtrl, handleAccept, htask, if_true, executeSoftReset, roleIfElse, setState_task]
  cases v.role <;> simp

end Control

namespace Port

variable {b : Board} {p : Port} {m : PdMsg}

variable {reset : Bool} (h : p.restartsWait b reset m = false)

include h

theorem caps_of_restartsWait {a : Bool} (hkind : m.kind b = .data (some .sourceCap) a)
    (hreset : reset = false) (htask : p.pd.taskState = .snkDiscovery ∨
      p.pd.taskState = .snkTransition ∨ p.pd.taskState = .snkReady)
    (htx : p.pd.txStatus = .success) : p.pd.lastState ≠ .snkRequested := by
  intro hlast
  have hcaps := PdMsg.isData_of_kind hkind
  rcases htask with htask | htask | htask <;>
    simp [restartsWait, hlast, hcaps, hreset, htx, htask] at h

theorem grant_of_restartsWait (hkind : m.kind b = .data (some .request) true)
    (hconn : (reset || p.pdIsConnected) = true) (hrole : p.pd.powerRole = .source)
    (htx : p.pd.txStatus = .success) : p.pd.lastState ≠ .srcAccepted := by
  intro hlast
  have hrequest := PdMsg.isData_of_kind hkind
  have hacc := PdMsg.acceptable_of_kind hkind
  simp [restartsWait, hlast, grants, hrequest, hacc, hrole, htx, hconn] at h

theorem soft_of_restartsWait (hconn : (reset || p.pdIsConnected) = true)
    (hkind : m.kind b = .ctrl (some .softReset) ∨ (m.kind b = .ctrl (some .accept) ∧
      (reset || p.pd.taskState == .softReset) = true))
    (hrole : p.pd.powerRole = .sink) (hlast : p.pd.lastState = .snkDiscovery) :
    fewHardResets p.st.hardResetCount = false := by
  rcases hkind with hkind | ⟨hkind, htask⟩
  · simpa [restartsWait, hlast, hrole, hconn, PdMsg.isCtrl_of_kind hkind] using h
  · simpa [restartsWait, hlast, hrole, hconn, htask, PdMsg.isCtrl_of_kind hkind] using h

end Port

/-- A reset that loses no deadline leaves one behind when no message of its iteration
has an effect. -/
theorem Control.Timed.deadline_unanswered {b : Board} {p : Port} (h : p.control.Timed) {inp : Input}
    (hreset : (inp.reset && p.pd.lastState == .softReset && p.pd.taskState != .softReset &&
      !inp.message.any fun m => m.isCtrl .accept || p.interruptsReset b m) = false)
    (hreceive : p.control.applyReset inp.reset ∈
      (p.control.applyReset inp.reset).receive (inp.message.map (PdMsg.kind b))) :
    Control.Deadline (p.control.applyReset inp.reset) := by
  refine h.deadline_applyReset fun hr htask hlast => ?_
  change p.pd.taskState ≠ .softReset at htask
  change p.pd.lastState = .softReset at hlast
  have hends : (inp.message.any fun m => m.isCtrl .accept || p.interruptsReset b m) = true := by
    simpa [hr, htask, hlast, bne] using hreset
  obtain ⟨m, hm, hm'⟩ := (Option.any_eq_true _ _).1 hends
  rw [hm, hr, Option.map_some] at hreceive
  rcases Bool.or_eq_true _ _ ▸ hm' with haccept | hinterrupts
  · rw [PdMsg.kind_of_isCtrl b haccept] at hreceive
    exact Control.softReset_left hreceive rfl rfl
  · refine (p.control.applyReset true).task_ne_of_interrupts (s := .softReset) hreceive rfl
      (by decide) ?_ rfl
    simpa using Port.kind_of_interruptsReset hinterrupts

theorem Control.timed_invariant (b : Board) :
    ControlInvariant b (fun p e => p.losesDeadline b e = false) Timed where
  start := .start
  iterate := by
    intro p inp hC h w hw
    simp only [Port.losesDeadline, Bool.or_eq_false_iff] at hC
    obtain ⟨hmessage, hreset⟩ := hC
    refine Timed.runSwitch ?_
    have hsame : w = p.control.applyReset inp.reset → Deadline w := by
      rintro rfl
      exact h.deadline_unanswered hreset hw
    rcases receive_reaction _ hw with hw' | ⟨kind, hkind, hconn, hreaction⟩
    · exact hsame hw'
    obtain ⟨m, hm, rfl⟩ := Option.map_eq_some_iff.1 hkind
    rw [hm, Option.any_some] at hmessage
    have hconn' : (inp.reset || p.pdIsConnected) = true := by
      cases hr : inp.reset with
      | true => rfl
      | false =>
          rw [hr] at hconn
          exact hconn
    refine Deadline.reaction (h.order_applyReset _) hreaction (fun hw' => hw' ▸ hsame hw')
      (fun a hk htask htx => ?_) (fun hk hrole htx => ?_) (fun hk hrole hlast => ?_)
    · rw [applyReset_last]
      rw [applyReset_txOk] at htx
      cases hr : inp.reset with
      | true =>
          rw [hr] at htask
          rcases htask with htask | htask | htask <;> cases htask
      | false =>
          rw [hr] at htask
          exact Port.caps_of_restartsWait hmessage hk hr htask (beq_iff_eq.1 htx)
    · rw [applyReset_last]
      rw [applyReset_role] at hrole
      rw [applyReset_txOk] at htx
      exact Port.grant_of_restartsWait hmessage hk hconn' hrole (beq_iff_eq.1 htx)
    · rw [applyReset_fewResets]
      rw [applyReset_role] at hrole
      rw [applyReset_last] at hlast
      refine Port.soft_of_restartsWait hmessage hconn' (hk.imp id fun hk => ⟨hk.1, ?_⟩) hrole hlast
      cases hr : inp.reset with
      | true => rfl
      | false =>
          rw [hr] at hk
          exact beq_iff_eq.2 hk.2
  complete := fun p irq now ok _ h => ⟨⟨h.kept, h.timer, h.fresh⟩, h.unarmed, h.order⟩
  hardReset := fun p irq now ok _ _ _ => .executeHardReset
  softReset := by
    intro p hC h
    refine h.softResetCall fun hconn hlast => ?_
    change p.pdIsConnected = true at hconn
    change p.pd.lastState = .softReset at hlast
    simp [Port.losesDeadline, hconn, hlast] at hC
  powerSwap := by
    intro p hC h
    simp only [Port.losesDeadline, Bool.or_eq_false_iff, Bool.and_eq_false_imp, beq_iff_eq] at hC
    refine h.requestPowerSwap (fun htask hlast => ?_) (fun htask hlast => ?_)
    · have := hC.1 htask
      simp at this
      exact this hlast
    · have := hC.2 htask
      simp at this
      exact this hlast
  dataSwap := by
    intro p hC h
    refine h.requestDataSwap fun htask hlast => ?_
    change p.pd.taskState = p.readyReturnState at htask
    change p.pd.lastState = .drSwap at hlast
    simp [Port.losesDeadline, ← htask, hlast] at hC

/-- As long as no event leads back to the waiting state that ran last, no port
waits there without a running timer. -/
theorem Port.deadlineKept_after (b : Board) (es : List Event)
    (h : AllSteps b (fun p e => p.losesDeadline b e = false) es) :
    (after b es).DeadlineKept := by
  intro htask hwaits htimeout
  have hwaits' : (after b es).control.waits = true := by
    rcases hwaits with hwaits | ⟨hdiscovery, hfew⟩
    · exact Control.waits_of_mem hwaits
    · have hfew' : (after b es).control.fewResets = true := decide_eq_true hfew
      simp [Control.waits, hdiscovery, hfew']
  have harmed := ((Control.timed_invariant b).after h).kept htask hwaits'
  simp [control, htimeout] at harmed

/-- A sink that requested a capability waits for the answer. -/
theorem Port.deadlineKept_after_request :
    (after .shipped (attachAsSink ++ [iterateAt 200000 rpOnCc1
      (some (dataMsg .sourceCap [fiveVolts] (by decide)))])).DeadlineKept :=
  deadlineKept_after .shipped _ (by decide +kernel)

/-- A Soft_Reset in `PD_STATE_SNK_DISCOVERY` stops the timer of that state. -/
theorem Port.not_deadlineKept_softReset :
    ¬ ∀ (es : List Event) (inp : Input), (after .shipped (es ++ [.iterate inp])).DeadlineKept := by
  intro h
  have hkept := h (attachAsSink ++ [iterateAt 200000 rpOnCc1 none])
    { reset := false, message := some (ctrlMsg .softReset), cc := rpOnCc1, ccTail := rpOnCc1,
      time := fun _ => 210000 }
  revert hkept
  unfold DeadlineKept waits
  decide +kernel

end UsbPd
