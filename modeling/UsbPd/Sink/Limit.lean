import UsbPd.Control.Role
import UsbPd.Link.Disconnect
import UsbPd.Sink.Record

/-!
# The input current limit

`pd_process_source_cap` applies the power of the selected capability before
anything is requested, and PS_RDY applies the power that was requested last. In
both places the call that would keep a ceiling of `PD_MIN_MA` is commented out.
-/

namespace UsbPd

/-- `PD_MIN_MA`. -/
def pdMinMa : Nat := 500

/-- The limit that was applied last. -/
def lastLimit (log : List Call) : Nat × Nat := (currentLimits log).headD (0, 0)

/-- A hard reset, a detach or a power swap. -/
def Call.voids : Call → Bool
  | .executeHardReset | .detach | .powerSwapAccepted => true
  | _ => false

/-- How many of them there were. -/
def voidings (log : List Call) : Nat := log.countP Call.voids

namespace Port

/-- A PS_RDY makes the port take the power that it asked for last. -/
def takesPower (p : Port) : Bool :=
  p.pdIsConnected ∧ p.pd.powerRole = .sink ∧ p.pd.taskState ≠ .snkSwapSrcDisable ∧
    p.pd.taskState ≠ .srcSwapStandby ∧ p.pd.taskState ≠ .snkDiscovery ∧
    p.pd.taskState ≠ .snkSwapStandby

/-- The power of the selected capability among new ones. -/
def capsPower (p : Port) (payload : List Word) : Nat × Nat :=
  pdExtractPdoPower ((payload ++ p.st.srcCaps.drop payload.length).getD
    p.st.sourceCapCurrentIndex 0)

end Port

/-- What an observer of the supply remembers. -/
structure Supply where
  asked : Asked
  /-- the power of the Request that was accepted last -/
  accepted : Option (Nat × Nat)
  /-- the power of the accepted Request that a PS_RDY has confirmed -/
  confirmed : Option (Nat × Nat)

namespace Supply

/-- Before any Request. -/
def none : Supply where
  asked := .none
  accepted := .none
  confirmed := .none

/-- The memory after an answer of the source. -/
def hear (p : Port) (r : Input × PdMsg) (s : Supply) : Supply :=
  if r.2.isCtrl .accept ∧ (p.dispatching r.1 r.2).pd.taskState = .snkRequested then
    { s with accepted := some (s.asked.request.currLimit, s.asked.request.supplyVoltage) }
  else if r.2.isCtrl .psRdy ∧ (p.dispatching r.1 r.2).takesPower then
    { s with confirmed := s.accepted }
  else s

/-- A PS_RDY that makes the port take power confirms the accepted Request. -/
theorem hear_psRdy {p : Port} {r : Input × PdMsg} (s : Supply) (hm : r.2.isCtrl .psRdy = true)
    (htakes : (p.dispatching r.1 r.2).takesPower = true) :
    (s.hear p r).confirmed = s.accepted := by
  have haccept : r.2.isCtrl .accept = false := by
    simp only [PdMsg.isCtrl, decide_eq_true_eq] at hm
    simp [PdMsg.isCtrl, hm.2]
  unfold hear
  rw [if_neg (by simp [haccept]), if_pos ⟨hm, htakes⟩]

theorem hear_quiet {p : Port} {r : Input × PdMsg} (s : Supply)
    (h : ¬ (r.2.isCtrl .psRdy = true ∧ (p.dispatching r.1 r.2).takesPower = true)) :
    (s.hear p r).confirmed = s.confirmed := by
  unfold hear
  split_ifs
  · rfl
  · rfl

/-- The memory after the message of a step. -/
def heard (p : Port) (e : Event) (s : Supply) : Supply :=
  match e.received with
  | some r => s.hear p r
  | .none => s

/-- The memory after a step. -/
def note (b : Board) (p : Port) (e : Event) (s : Supply) : Supply :=
  let t := { s.heard p e with asked := s.asked.note b p e }
  if voidings (p.step b e).log = voidings p.log then t
  else { t with accepted := .none, confirmed := .none }

end Supply

/-- The limit applied last is small, or it is that of a Request which the source
has accepted and confirmed with PS_RDY, with no hard reset, detach or power swap
since. -/
def LimitEarned (s : Port × Supply) : Prop :=
  (lastLimit s.1.log).1 ≤ pdMinMa ∨ s.2.confirmed = some (lastLimit s.1.log)

instance decidableLimitEarned (s : Port × Supply) : Decidable (LimitEarned s) :=
  inferInstanceAs (Decidable (_ ∨ _))

/-- New capabilities select little power or the confirmed one, a PS_RDY finds little
power or the accepted one in the record, and an Accept finds a small limit in
`PD_STATE_SRC_SWAP_INIT`. -/
structure LimitsFit (s : Port × Supply) (e : Event) : Prop where
  caps : ∀ r ∈ e.received, r.2.isData .sourceCap = true →
    (s.1.dispatching r.1 r.2).takesCaps = true →
      ((s.1.dispatching r.1 r.2).capsPower r.2.payload).1 ≤ pdMinMa ∨
        s.2.confirmed = some ((s.1.dispatching r.1 r.2).capsPower r.2.payload)
  psRdy : ∀ r ∈ e.received, r.2.isCtrl .psRdy = true →
    (s.1.dispatching r.1 r.2).takesPower = true →
      s.1.pd.currLimit ≤ pdMinMa ∨ s.2.accepted = some (s.1.pd.currLimit, s.1.pd.supplyVoltage)
  swap : ∀ r ∈ e.received, r.2.isCtrl .accept = true →
    (s.1.dispatching r.1 r.2).pd.taskState = .srcSwapInit → (lastLimit s.1.log).1 ≤ pdMinMa

instance decidableLimitsFit (s : Port × Supply) (e : Event) : Decidable (LimitsFit s e) :=
  have : Decidable (∀ r ∈ e.received, r.2.isData .sourceCap = true →
      (s.1.dispatching r.1 r.2).takesCaps = true →
        ((s.1.dispatching r.1 r.2).capsPower r.2.payload).1 ≤ pdMinMa ∨
          s.2.confirmed = some ((s.1.dispatching r.1 r.2).capsPower r.2.payload)) := inferInstance
  have : Decidable (∀ r ∈ e.received, r.2.isCtrl .psRdy = true →
      (s.1.dispatching r.1 r.2).takesPower = true → s.1.pd.currLimit ≤ pdMinMa ∨
        s.2.accepted = some (s.1.pd.currLimit, s.1.pd.supplyVoltage)) := inferInstance
  have : Decidable (∀ r ∈ e.received, r.2.isCtrl .accept = true →
      (s.1.dispatching r.1 r.2).pd.taskState = .srcSwapInit →
        (lastLimit s.1.log).1 ≤ pdMinMa) := inferInstance
  decidable_of_iff (_ ∧ _ ∧ _)
    ⟨fun ⟨hcaps, hpsRdy, hswap⟩ => ⟨hcaps, hpsRdy, hswap⟩, fun h => ⟨h.caps, h.psRdy, h.swap⟩⟩

/-! The limit in the log. -/

theorem currentLimits_cons {c : Call} (h : c.kind ≠ .current ∧ c.kind ≠ .noCurrent)
    (log : List Call) : currentLimits (c :: log) = currentLimits log := by
  cases c with
  | inputCurrentLimit ma mv =>
      simp only [Call.kind] at h
      split at h <;> simp at h
  | _ => rfl

theorem lastLimit_noCurrent {c : Call} (h : c.kind = .noCurrent) (log : List Call) :
    lastLimit (c :: log) = (0, 0) := by
  cases c with
  | inputCurrentLimit ma mv =>
      simp only [Call.kind] at h
      split at h
      · rename_i hzero
        rw [hzero.1, hzero.2]
        rfl
      · cases h
  | transmit type header data res =>
      cases type with
      | sop =>
          simp only [Call.kind] at h
          split_ifs at h
      | _ => cases h
  | _ => cases h

/-- The calls that take a confirmed Request back. -/
def voidKinds : List CallKind := [.executeHardReset, .detach, .powerSwapAccepted]

theorem Call.voids_kind (c : Call) : c.voids = true → c.kind ∈ voidKinds := by
  cases c with
  | executeHardReset | detach | powerSwapAccepted => exact fun _ => by decide
  | _ => exact fun h => by cases h

namespace Port

variable {p q : Port} {W : List Part} {K : List CallKind}

theorem lastLimit_eq_of_does (h : Does W K p q) (hK : .current ∉ K ∧ .noCurrent ∉ K) :
    lastLimit q.log = lastLimit p.log := by
  refine h.read_eq fun c log hc => ?_
  rw [lastLimit, currentLimits_cons ⟨fun heq => hK.1 (heq ▸ hc), fun heq => hK.2 (heq ▸ hc)⟩]
  rfl

/-- Without a limit of its own a computation keeps the limit or clears it. -/
theorem lastLimit_of_does (h : Does W K p q) (hK : .current ∉ K) :
    lastLimit q.log = lastLimit p.log ∨ lastLimit q.log = (0, 0) := by
  refine h.preserves (P := fun log => lastLimit log = lastLimit p.log ∨ lastLimit log = (0, 0))
    (fun c log hc hlog => ?_) (.inl rfl)
  by_cases hclear : c.kind = .noCurrent
  · exact .inr (lastLimit_noCurrent hclear log)
  · have hkind : c.kind ≠ .current := fun heq => hK (heq ▸ hc)
    rw [lastLimit, currentLimits_cons ⟨hkind, hclear⟩]
    exact hlog

theorem voidings_of_does (h : Does W K p q) (hK : ∀ k ∈ voidKinds, k ∉ K) :
    voidings q.log = voidings p.log := by
  refine h.read_eq fun c log hc => ?_
  refine List.countP_cons_of_neg fun hvoids => ?_
  exact hK _ (c.voids_kind hvoids) hc

end Port

/-! The control states in which the limit is small. -/

namespace Control

/-- States that a port with a larger limit does not enter without clearing it. -/
def lowStates : List PdState :=
  [.snkDisconnected, .snkDisconnectedDebounce, .srcDisconnected, .srcDisconnectedDebounce,
    .snkSwapSrcDisable, .snkSwapStandby, .snkSwapComplete]

/-- A source, a disconnected port, or a sink that is becoming a source. -/
def Low (v : Control) : Prop :=
  v.role = .source ∨ v.task ∈ lowStates ∨ v.timeoutState = .snkSwapComplete

variable {v w : Control}

theorem Low.of_setState {s : PdState} (h : (v.setState s).Low) (hs : s ∉ lowStates) :
    v.role = .source := by
  rcases h with hrole | htask | htimer
  · simpa using hrole
  · rw [setState_task] at htask
    exact absurd htask hs
  · simp at htimer

/-- A message makes the limit small in the test mode only. -/
theorem low_of_reaction {kind : MsgKind} (h : Reaction v kind w) (hw : w.Low) :
    v.Low ∨ (v.task = v.readyReturnState ∧
      w = v.setState (v.roleIfElse .snkDisconnected .srcDisconnected)) := by
  have hset : ∀ s, s ∉ lowStates → (v.setState s).Low → v.Low :=
    fun s hs hlow => .inl (hlow.of_setState hs)
  cases h with
  | ignored => exact .inl hw
  | tested htask => exact .inr ⟨htask, rfl⟩
  | sourceOff _ htask => exact .inl (.inr (.inl (by simp [htask, lowStates])))
  | granted _ hrole => exact .inl (.inl hrole)
  | retryLater htask =>
      rcases hw with hrole | hlow | htimer
      · exact .inl (.inl hrole)
      · exact .inl (.inr (.inl hlow))
      · cases htimer
  | sourceOn => exact absurd (hw.of_setState (by decide)) (by simp [setRole])
  | softAccepted | softReset | dataSwapOver =>
      simp only [executeSoftReset, readyReturnState, roleIfElse] at hw
      cases hrole : v.role with
      | source => exact .inl (.inl hrole)
      | sink =>
          rw [hrole] at hw
          exact .inl (hset _ (by decide) hw)
  | srcSwapAccepted | snkSwapAccepted | requestAccepted =>
      exact .inl (.inl (hw.of_setState (by decide)))
  | _ => exact .inl (hset _ (by decide) hw)

/-- The states whose case of the switch enters a state of `lowStates` from outside. -/
def loweringStates : List PdState :=
  [.suspended, .srcTransition, .srcSwapStandby, .snkSwapSnkDisable, .hardResetExecute]

theorem timers_low : ∀ r s, .snkSwapComplete ∈ timers r s → s ∈ lowStates := by
  intro r s
  cases r <;> cases s <;> decide

theorem moves_low : ∀ s, ∀ t ∈ moves s, t ∈ lowStates → s ∈ lowStates ∨ s ∈ loweringStates := by
  intro s
  cases s <;> decide

theorem low_of_outcome (h : Outcome v w) (hw : w.Low) : v.Low ∨ v.task ∈ loweringStates := by
  have hlow : v.task ∈ lowStates → v.Low ∨ v.task ∈ loweringStates := fun h => .inl (.inr (.inl h))
  have hset : ∀ (u : Control) {s : PdState}, u.role = v.role → s ∉ lowStates →
      (u.setState s).Low → v.Low ∨ v.task ∈ loweringStates :=
    fun u s hrole hs hw => .inl (.inl (hrole ▸ hw.of_setState hs))
  have harm : ∀ {s : PdState}, s ≠ .snkSwapComplete → (v.arm s).Low →
      v.Low ∨ v.task ∈ loweringStates := by
    rintro s hs (hrole | htask | htimer)
    · exact .inl (.inl hrole)
    · exact hlow htask
    · exact absurd htimer hs
  cases h with
  | stays => exact .inl hw
  | @arms s _ hs =>
      by_cases hcomplete : s = .snkSwapComplete
      · exact hlow (timers_low _ _ (hcomplete ▸ hs))
      · exact harm hcomplete hw
  | @moves s hs =>
      by_cases hmem : s ∈ lowStates
      · rcases moves_low _ s hs hmem with htask | htask
        · exact hlow htask
        · exact .inr htask
      · exact hset v rfl hmem hw
  | resumes htask | staysSource htask | becomesSink htask | executesReset htask =>
      exact .inr (by simp [htask, loweringStates])
  | requests => exact harm (by decide) hw
  | attachesSource htask | seesSource htask | togglesToSource htask | drivesVbus htask
  | becomesSource htask | staysSink htask | seesSink htask | togglesToSink htask
  | attachesSink htask => exact hlow (by simp [htask, lowStates])
  | recovers => exact hset (v.note (.vbus true)) rfl (by decide) hw
  | sendsCaps =>
      rcases hw with hrole | htask | htimer
      · exact .inl (.inl (by simpa [setFew] using hrole))
      · simp [setFew, lowStates] at htask
      · simp [setFew] at htimer
  | cutsVbus =>
      rcases hw with hrole | htask | htimer
      · exact .inl (.inl hrole)
      · exact hlow htask
      · cases htimer
  | sentReset | failsReset => exact .inl hw
  | sendsReset _ hrole => exact .inl (.inl hrole)
  | @sendsResetAtOnce few sent =>
      exact hset (((v.setFew few).setSent sent).note _) rfl (by decide) hw

end Control

namespace Port

variable {p q : Port} {W : List Part} {K : List CallKind}

theorem lastLimit_enterDisconnected (p : Port) : lastLimit p.enterDisconnected.log = (0, 0) := by
  have hcleared : lastLimit (p.pdSetInputCurrentLimit 0 0).log = (0, 0) := rfl
  have hdoes : Does [.chip] [.vbus, .rxEnable] (p.pdSetInputCurrentLimit 0 0)
      p.enterDisconnected := by
    unfold enterDisconnected
    simp only
    split_ifs
    · exact ((does_pdPowerSupplyReset _).trans (does_tcpmSetRxEnable _ false)).mono (by decide)
    · exact (does_tcpmSetRxEnable _ false).mono (by decide)
  rcases lastLimit_of_does hdoes (by decide) with heq | heq
  · exact heq.trans hcleared
  · exact heq

/-- Entering a disconnected state clears the limit. -/
theorem lastLimit_setState_disconnected {s : PdState}
    (htask : p.pd.taskState ≠ .snkDisconnected ∧ p.pd.taskState ≠ .srcDisconnected)
    (hs : s = .snkDisconnected ∨ s = .srcDisconnected) : lastLimit (p.setState s).log = (0, 0) := by
  unfold setState
  simp only
  rw [if_neg (by rcases hs with rfl | rfl <;> simp [htask]),
    if_neg (by simp [htask]), if_pos hs.symm]
  exact lastLimit_enterDisconnected _

/-- New capabilities apply the power of the selected one, and the Request keeps it. -/
theorem lastLimit_handleSourceCap (p : Port) (htakes : p.takesCaps = true) (payload : List Word) :
    lastLimit (p.handleSourceCap payload).log = p.capsPower payload := by
  have hindex : ((p.setFlags { p.pd.flags with previousPdConn := true }).pdUpdatePdoFlags
      (firstObject payload)).st = p.st := by
    unfold pdUpdatePdoFlags
    split_ifs <;> rfl
  have hoffered : lastLimit (p.offered payload).log = p.capsPower payload := by
    unfold offered
    generalize (p.setFlags { p.pd.flags with previousPdConn := true }).pdUpdatePdoFlags
      (firstObject payload) = q at hindex
    rw [capsPower, ← hindex]
    rfl
  exact (lastLimit_eq_of_does (does_requestOffered htakes payload) (by decide)).trans hoffered

/-- The limit of the port `p` is small or is the confirmed one, and nothing has taken
the Request back since there were `n` calls that do. -/
structure Earned (confirmed : Option (Nat × Nat)) (n : Nat) (p : Port) : Prop where
  kept : (lastLimit p.log).1 ≤ pdMinMa ∨
    (voidings p.log = n ∧ confirmed = some (lastLimit p.log))
  low : p.control.Low → (lastLimit p.log).1 ≤ pdMinMa

namespace Earned

variable {confirmed : Option (Nat × Nat)} {n : Nat}

theorem of_small (h : (lastLimit p.log).1 ≤ pdMinMa) : Earned confirmed n p where
  kept := .inl h
  low := fun _ => h

/-- A small limit stays small without a limit of its own. -/
theorem small_of_does (h : Does W K p q) (hK : .current ∉ K)
    (hp : (lastLimit p.log).1 ≤ pdMinMa) : (lastLimit q.log).1 ≤ pdMinMa := by
  rcases lastLimit_of_does h hK with heq | heq
  · rw [heq]
    exact hp
  · rw [heq]
    exact Nat.zero_le _

theorem of_does (h : p.Earned confirmed n) (hdoes : Does W K p q) (hK : .current ∉ K)
    (hvoid : ∀ k ∈ voidKinds, k ∉ K)
    (hlow : q.control.Low → p.control.Low ∨ (lastLimit q.log).1 ≤ pdMinMa) :
    q.Earned confirmed n where
  kept := by
    rcases h.kept with hsmall | ⟨hn, hconfirmed⟩
    · exact .inl (small_of_does hdoes hK hsmall)
    · rcases lastLimit_of_does hdoes hK with heq | heq
      · refine .inr ⟨(voidings_of_does hdoes hvoid).trans hn, ?_⟩
        rw [heq]
        exact hconfirmed
      · exact .inl (by simp [heq])
  low := by
    intro hq
    rcases hlow hq with hp | hsmall
    · exact small_of_does hdoes hK (h.low hp)
    · exact hsmall

theorem setState (h : p.Earned confirmed n) {s : PdState}
    (hs : s ∈ Control.lowStates →
      (s = .snkDisconnected ∨ s = .srcDisconnected) ∨ (lastLimit p.log).1 ≤ pdMinMa) :
    (p.setState s).Earned confirmed n := by
  have hdoes := p.does_setState s
  refine h.of_does hdoes (by decide) (by decide) fun hlow => ?_
  rw [control_setState] at hlow
  by_cases hmem : s ∈ Control.lowStates
  · rcases hs hmem with hdisc | hsmall
    · by_cases htask : p.pd.taskState ≠ .snkDisconnected ∧ p.pd.taskState ≠ .srcDisconnected
      · right
        rw [lastLimit_setState_disconnected htask hdisc]
        exact Nat.zero_le _
      · refine .inl (.inr (.inl ?_))
        rw [not_and_or, not_not, not_not] at htask
        rcases htask with htask | htask <;> simp [htask, Control.lowStates]
    · exact .inr (small_of_does hdoes (by decide) hsmall)
  · exact .inl (.inl (hlow.of_setState hmem))

/-- The tail: the timer may fire, and a source may lose its sink. -/
theorem finish (h : p.Earned confirmed n) (hrests : p.control.Rests) (thisState : PdState)
    (inp : Input) : (p.finish thisState inp).Earned confirmed n := by
  have hlast : (p.setLast thisState).Earned confirmed n := ⟨h.kept, h.low⟩
  have htimed : ((p.setLast thisState).checkTimeout (inp.time .tail)).Earned confirmed n := by
    unfold checkTimeout
    split_ifs
    · refine hlast.setState fun hmem => ?_
      have huntimed : p.pd.timeoutState ∉ Control.untimedStates := hrests.timeoutState
      by_cases hcomplete : p.pd.timeoutState = .snkSwapComplete
      · exact .inr (h.low (.inr (.inr hcomplete)))
      · left
        change p.pd.timeoutState ∈ _ at hmem
        change p.pd.timeoutState = _ ∨ p.pd.timeoutState = _
        generalize p.pd.timeoutState = s at *
        revert hmem huntimed hcomplete
        cases s <;> decide
    · exact hlast
  unfold Port.finish
  simp only [checkSinkDetach_eq]
  split_ifs with hconn
  · exact htimed
  · generalize (p.setLast thisState).checkTimeout (inp.time .tail) = q at htimed
    by_cases hrole : q.pd.powerRole = .source
    · exact of_small (small_of_does (does_checkSourceDetach q inp) (by decide)
        (htimed.low (.inl hrole)))
    · unfold checkSourceDetach
      rw [if_neg hrole]
      exact htimed

/-- A hard reset leaves a small limit. -/
theorem small_pdExecuteHardReset (h : p.pd.powerRole = .source → (lastLimit p.log).1 ≤ pdMinMa)
    (now : Nat) : (lastLimit (p.pdExecuteHardReset now).log).1 ≤ pdMinMa := by
  cases hrole : p.pd.powerRole with
  | source => exact small_of_does (p.does_pdExecuteHardReset now) (by decide) (h hrole)
  | sink =>
      have hcleared : ∀ r : Port, (lastLimit
          ((r.pdSetInputCurrentLimit 0 0).setState .snkHardResetRecover).log).1 ≤ pdMinMa := by
        intro r
        rw [setState_log _ (by decide)]
        exact Nat.zero_le _
      unfold pdExecuteHardReset
      simp only
      split_ifs with hswap hsink hsink
      · exact hcleared _
      · exact absurd hrole hsink
      · exact hcleared _
      · exact absurd hrole hsink

/-- The switch. -/
theorem runState (h : p.Earned confirmed n ∨ p.pd.taskState = .snkSwapSnkDisable)
    (hpowered : p.pd.taskState = .srcTransition → p.pd.powerRole = .source) (b : Board)
    (inp : Input) : (p.runState b inp).Earned confirmed n := by
  have hdoes := p.does_runState b inp
  have hcurrent : ∀ s : PdState, .current ∉ stateCalls s := by
    intro s
    cases s <;> decide
  by_cases hswap : p.pd.taskState = .snkSwapSnkDisable
  · refine of_small ?_
    rw [Port.runState, hswap]
    simp only [snkSwapSnkDisable]
    rw [setState_log _ (by decide)]
    exact Nat.zero_le _
  have hp : p.Earned confirmed n := h.resolve_right hswap
  by_cases hexecute : p.pd.taskState = .hardResetExecute
  · refine of_small ?_
    rw [Port.runState, hexecute]
    refine small_pdExecuteHardReset (fun hrole => ?_) _
    split_ifs at hrole ⊢ <;> exact hp.low (.inl hrole)
  have hvoid : ∀ k ∈ voidKinds, k ∉ stateCalls p.pd.taskState := by
    revert hexecute
    cases p.pd.taskState <;> decide
  refine hp.of_does hdoes (hcurrent _) hvoid fun hlow => ?_
  rcases Control.low_of_outcome (p.control.runState_outcome _ (p.control_runState_mem b inp)) hlow
    with hbefore | hlowering
  · exact .inl hbefore
  · have hcases : p.pd.taskState = .suspended ∨ p.pd.taskState = .srcTransition ∨
        p.pd.taskState = .srcSwapStandby := by
      simpa [Control.loweringStates, hswap, hexecute] using hlowering
    rcases hcases with htask | htask | htask
    · right
      rw [Port.runState, htask]
      simp only [suspended]
      rw [if_neg (by simp [tcpmInit]), lastLimit_setState_disconnected (by simp [htask]) (.inl rfl)]
      exact Nat.zero_le _
    · exact .inl (.inl (hpowered htask))
    · rw [Port.runState, htask] at hlow ⊢
      simp only [srcSwapStandby] at hlow ⊢
      split_ifs at hlow ⊢
      · right
        rw [lastLimit_setState_disconnected (by simp [htask]) (.inr rfl)]
        exact Nat.zero_le _
      · -- the port has become a sink
        simp [Control.Low, htask, Control.lowStates] at hlow
        change PdState.snkDisconnected = .snkSwapComplete at hlow
        cases hlow
      · exact .inl hlow

/-! The message. -/

/-- A PS_RDY that takes no power applies no limit. -/
theorem does_handlePsRdy_quiet (h : p.takesPower = false) (hconn : p.pdIsConnected = true) :
    Does (ctrlWrites (some .psRdy)) [.msgIdReset] p p.handlePsRdy := by
  simp only [takesPower, hconn, true_and, decide_eq_false_iff_not, not_and_or, not_not] at h
  unfold handlePsRdy
  split_ifs with h₁ h₂ h₃ h₄ h₅
  · exact (p.does_setState_of_ne (by decide)).mono (by decide)
  · have hsink := (p.does_resetMsgId.trans (does_setPowerRole _ .sink)).trans
      (does_pdUpdateRoles _)
    exact (hsink.trans (does_setState_of_ne _ (by decide))).mono (by decide)
  · exact (p.does_setState_of_ne (by decide)).mono (by decide)
  · exact p.does_nothing _ _
  · simp [h₁, h₂, h₃, h₄, h₅] at h
  · exact p.does_nothing _ _

/-- An Accept outside the two swap states takes no Request back. -/
theorem does_handleAccept_quiet
    (h : p.pd.taskState ≠ .srcSwapInit ∧ p.pd.taskState ≠ .snkSwapInit) :
    Does (ctrlWrites (some .accept)) [.msgIdReset, .contractAgreed] p p.handleAccept := by
  unfold handleAccept
  rw [if_neg h.1, if_neg h.2]
  split_ifs
  · exact ((p.does_setVbusNeverLow false).trans (does_executeSoftReset _)).mono (by decide)
  · exact (p.does_pdDrSwap.trans (does_setState_of_ne _ (readyReturnState_ne _))).mono (by decide)
  · exact (((p.does_record .contractAgreed).trans (does_setContract _ true)).trans
      (does_setState_of_ne _ (by decide))).mono (by decide)
  · exact p.does_nothing _ _

/-- The messages that touch neither the limit nor a confirmed Request. -/
theorem does_handleRequest_quiet (b : Board) (now : Nat) (m : PdMsg)
    (hcaps : ¬ (m.isData .sourceCap = true ∧ p.takesCaps = true))
    (hpsRdy : ¬ (m.isCtrl .psRdy = true ∧ p.takesPower = true))
    (haccept : ¬ (m.isCtrl .accept = true ∧
      (p.pd.taskState = .srcSwapInit ∨ p.pd.taskState = .snkSwapInit))) :
    ∃ W K, Does W K p (p.handleRequest b now m) ∧ .current ∉ K ∧ ∀ k ∈ voidKinds, k ∉ K := by
  by_cases hconn : p.pdIsConnected = true
  swap
  · exact ⟨[], [], by rw [Port.handleRequest, if_pos hconn]; exact .refl, by decide, by decide⟩
  unfold Port.handleRequest
  rw [if_neg (not_not.2 hconn)]
  by_cases hcnt : headerCnt m.head ≠ 0
  · rw [if_pos hcnt]
    have hdoes := p.does_handleDataRequest b now m
    cases htype : DataMsgType.ofField (headerType m.head) with
    | none => exact ⟨_, _, hdoes, by simp [htype, dataCalls], by simp [htype, dataCalls]⟩
    | some type =>
        rw [htype] at hdoes
        cases type with
        | sourceCap =>
            have htakes : p.takesCaps = false := by
              simpa [PdMsg.isData, hcnt, htype] using hcaps
            refine ⟨[], [], ?_, by decide, by decide⟩
            simp only [handleDataRequest, htype, handleSourceCap]
            rw [if_neg (by simpa [takesCaps] using htakes)]
            exact .refl
        | _ => exact ⟨_, _, hdoes, by decide, by decide⟩
  · rw [if_neg hcnt]
    rw [not_not] at hcnt
    have hdoes := p.does_handleCtrlRequest b now m
    cases htype : CtrlMsgType.ofField (headerType m.head) with
    | none => exact ⟨_, _, hdoes, by simp [htype, ctrlCalls], by simp [htype, ctrlCalls]⟩
    | some type =>
        rw [htype] at hdoes
        cases type with
        | psRdy =>
            have htakes : p.takesPower = false := by
              simpa [PdMsg.isCtrl, hcnt, htype] using hpsRdy
            simp only [handleCtrlRequest, htype]
            exact ⟨_, _, does_handlePsRdy_quiet htakes hconn, by decide, by decide⟩
        | accept =>
            have htask : p.pd.taskState ≠ .srcSwapInit ∧ p.pd.taskState ≠ .snkSwapInit := by
              simpa [PdMsg.isCtrl, hcnt, htype] using haccept
            simp only [handleCtrlRequest, htype]
            exact ⟨_, _, does_handleAccept_quiet htask, by decide, by decide⟩
        | _ => exact ⟨_, _, hdoes, by decide, by decide⟩

theorem handleRequest_accept (b : Board) (now : Nat) {m : PdMsg}
    (hm : m.isCtrl .accept = true) :
    p.handleRequest b now m = if p.pdIsConnected then p.handleAccept else p := by
  simp only [PdMsg.isCtrl, decide_eq_true_eq] at hm
  unfold Port.handleRequest
  by_cases hconn : p.pdIsConnected = true
  · simp [hconn, hm.1, handleCtrlRequest, hm.2]
  · simp [hconn]

/-- A swap that the port has asked for is accepted. -/
theorem handled_swapAccepted (b : Board) (now : Nat) {m : PdMsg} (hm : m.isCtrl .accept = true)
    (hsource : p.pd.taskState = .srcSwapInit → (lastLimit p.log).1 ≤ pdMinMa)
    (htask : p.pd.taskState = .srcSwapInit ∨ p.pd.taskState = .snkSwapInit) :
    (p.handleRequest b now m).Earned confirmed n ∨
      (p.handleRequest b now m).pd.taskState = .snkSwapSnkDisable := by
  have hconn : p.pdIsConnected = true := by
    unfold pdIsConnected dualRoleIfElse
    rcases htask with h | h <;> cases p.pd.powerRole <;> simp [h]
  rw [handleRequest_accept b now hm, if_pos hconn]
  rcases htask with h | h
  · exact .inl (of_small (small_of_does p.does_handleAccept (by decide) (hsource h)))
  · right
    unfold Port.handleAccept
    simp [h]

theorem handled_quiet (h : p.Earned confirmed n) (b : Board) (now : Nat) (m : PdMsg)
    (hcaps : ¬ (m.isData .sourceCap = true ∧ p.takesCaps = true))
    (hpsRdy : ¬ (m.isCtrl .psRdy = true ∧ p.takesPower = true))
    (haccept : ¬ (m.isCtrl .accept = true ∧
      (p.pd.taskState = .srcSwapInit ∨ p.pd.taskState = .snkSwapInit))) :
    (p.handleRequest b now m).Earned confirmed n := by
  by_cases hbist : m.isData .bist = true
  · -- the test mode disconnects
    simp only [PdMsg.isData, decide_eq_true_eq] at hbist
    unfold Port.handleRequest
    split
    · exact h
    · rw [if_pos hbist.1, handleDataRequest, hbist.2]
      simp only [handleBist]
      split_ifs
      · have hsent : (p.pdTransmit .bistMode2 0 []).2.Earned confirmed n :=
          h.of_does (p.does_pdTransmit .bistMode2 0 []) (by simp [Call.kind])
            (by simp [Call.kind, voidKinds]) fun hlow => .inl hlow
        refine hsent.setState fun _ => .inl ?_
        unfold dualRoleIfElse
        rw [pdTransmit_pd]
        cases p.pd.powerRole <;> simp
      · exact h
  obtain ⟨W, K, hdoes, hcurrent, hvoid⟩ := does_handleRequest_quiet b now m hcaps hpsRdy haccept
  refine h.of_does hdoes hcurrent hvoid fun hlow => ?_
  have hmem : (p.handleRequest b now m).control ∈ p.control.receive (some (m.kind b)) :=
    p.control_handleRequest_mem b now m
  rcases Control.receive_reaction _ hmem with heq | ⟨k, hk, -, hreaction⟩
  · exact .inl (heq ▸ hlow)
  rcases Control.low_of_reaction hreaction hlow with hbefore | ⟨htask, hw⟩
  · exact .inl hbefore
  · exfalso
    refine hbist ?_
    have hready : p.control.task ∉ disconnectedStates := by
      rw [htask]
      exact Control.roleIfElse_notMem (by decide) (by decide)
    have hdisc : (p.handleRequest b now m).control.task ∈ disconnectedStates := by
      rw [hw, Control.setState_task]
      unfold Control.roleIfElse
      cases p.control.role <;> decide
    obtain ⟨a, hkind⟩ :=
      Control.handle_disconnects (p.control_handleRequest_mem b now m) hready hdisc
    exact PdMsg.isData_of_kind hkind

/-- The states in which capabilities are processed are not low for a sink. -/
theorem not_low_of_takesCaps (hshaped : p.Shaped) (hrests : p.control.Rests)
    (htakes : p.takesCaps = true) : ¬ p.control.Low := by
  simp only [takesCaps, decide_eq_true_eq] at htakes
  have hrole : p.pd.powerRole = .sink :=
    hshaped.sink (by rcases htakes with h | h | h <;> simp [h, Control.sinkStates])
  rintro (hsource | hmem | htimer)
  · change p.pd.powerRole = .source at hsource
    rw [hrole] at hsource
    cases hsource
  · change p.pd.taskState ∈ _ at hmem
    rcases htakes with h | h | h <;> simp [h, Control.lowStates] at hmem
  · have hfits := hrests.fits
    rw [htimer] at hfits
    change _ ∨ p.pd.taskState = _ ∨ ∃ r, _ ∈ Control.timers r p.pd.taskState at hfits
    rcases htakes with h | h | h <;> simp [h, Control.timers] at hfits

/-- New capabilities: the limit is the power of the selected one. -/
theorem handleSourceCap (hshaped : p.Shaped) (hrests : p.control.Rests)
    (htakes : p.takesCaps = true) {payload : List Word} (hn : voidings p.log = n)
    (hfit : (p.capsPower payload).1 ≤ pdMinMa ∨ confirmed = some (p.capsPower payload)) :
    (p.handleSourceCap payload).Earned confirmed n := by
  have hlimit := p.lastLimit_handleSourceCap htakes payload
  have hvoid : voidings (p.handleSourceCap payload).log = n :=
    (voidings_of_does (p.does_handleSourceCap payload) (by decide)).trans hn
  constructor
  · rw [hlimit, hvoid]
    exact hfit.imp_right fun h => ⟨rfl, h⟩
  · intro hlow
    exfalso
    refine not_low_of_takesCaps hshaped hrests htakes ?_
    have hmem := p.control_handleSourceCap_mem payload true
    simp only [Control.handleData] at hmem
    split_ifs at hmem
    · rw [List.mem_singleton.1 hmem] at hlow
      exact .inl (hlow.of_setState (by decide))
    · rw [List.mem_singleton.1 hmem] at hlow
      exact hlow

/-- PS_RDY: the limit is the power that was requested last. -/
theorem handlePsRdy (htakes : p.takesPower = true) (hn : voidings p.log = n)
    (hfit : p.pd.currLimit ≤ pdMinMa ∨
      confirmed = some (p.pd.currLimit, p.pd.supplyVoltage)) :
    p.handlePsRdy.Earned confirmed n := by
  simp only [takesPower, decide_eq_true_eq] at htakes
  obtain ⟨-, hrole, hdisable, hstandby, hdiscovery, hswap⟩ := htakes
  have hready : p.handlePsRdy = (p.setState .snkReady).pdSetInputCurrentLimit
      p.pd.currLimit p.pd.supplyVoltage := by
    unfold Port.handlePsRdy
    rw [if_neg hdisable, if_neg hstandby, if_neg hdiscovery, if_neg hswap, if_pos hrole]
    simp
  rw [hready]
  constructor
  · refine hfit.imp id fun h => ⟨?_, h⟩
    change voidings (.inputCurrentLimit _ _ :: (p.setState .snkReady).log) = n
    rw [setState_log _ (by decide), ← hn]
    rfl
  · intro hlow
    rw [control_pdSetInputCurrentLimit, control_setState] at hlow
    have hsource : p.pd.powerRole = .source := hlow.of_setState (by decide)
    rw [hrole] at hsource
    cases hsource

theorem beforeMessage (h : p.Earned confirmed n) (inp : Input) :
    (p.beforeMessage inp).Earned confirmed n := by
  refine h.of_does (p.does_beforeMessage inp) (by decide) (by decide) fun hlow => .inl ?_
  rw [control_beforeMessage] at hlow
  cases hr : inp.reset with
  | false =>
      rw [hr] at hlow
      exact hlow
  | true =>
      rw [hr] at hlow
      rcases hlow with hrole | hmem | htimer
      · exact .inl hrole
      · simp [Control.applyReset, Control.lowStates] at hmem
      · exact .inr (.inr htimer)

end Earned

/-- The port as the observer sees it before a step. -/
structure Supplied (s : Port × Supply) : Prop where
  shaped : s.1.Shaped
  rests : s.1.control.Rests
  earned : s.1.Earned s.2.confirmed (voidings s.1.log)

namespace Supplied

variable {s : Port × Supply}

theorem dispatching (h : Supplied s) (inp : Input) (m : PdMsg) :
    (s.1.dispatching inp m).Earned s.2.confirmed (voidings s.1.log) ∧
      voidings (s.1.dispatching inp m).log = voidings s.1.log := by
  have hbefore := h.earned.beforeMessage inp
  have hdoes : Does [] [.received] (s.1.beforeMessage inp) (s.1.dispatching inp m) :=
    does_record _ (.received m)
  refine ⟨hbefore.of_does hdoes (by decide) (by decide) fun hlow => .inl hlow, ?_⟩
  exact (voidings_of_does hdoes (by decide)).trans
    (voidings_of_does (s.1.does_beforeMessage inp) (by decide))

/-- The message of an iteration. -/
theorem handled (h : Supplied s) (b : Board) {inp : Input} {m : PdMsg}
    (hm : inp.message = some m) (hfit : LimitsFit s (.iterate inp)) :
    ((s.1.dispatching inp m).handleRequest b (inp.time .message) m).Earned
        (s.2.hear s.1 (inp, m)).confirmed (voidings s.1.log) ∨
      ((s.1.dispatching inp m).handleRequest b (inp.time .message) m).pd.taskState =
        .snkSwapSnkDisable := by
  obtain ⟨hearned, hn⟩ := h.dispatching inp m
  have hmem : (inp, m) ∈ (Event.iterate inp).received := Event.mem_received.2 ⟨rfl, hm⟩
  have hrests : (s.1.dispatching inp m).control.Rests := by
    rw [control_dispatching]
    exact h.rests.applyReset inp.reset
  by_cases hcaps : m.isData .sourceCap = true ∧ (s.1.dispatching inp m).takesCaps = true
  · left
    have hdata : m.isCtrl .psRdy = false := by
      have hcnt := hcaps.1
      simp only [PdMsg.isData, decide_eq_true_eq] at hcnt
      simp [PdMsg.isCtrl, hcnt.1]
    have hconfirmed : (s.2.hear s.1 (inp, m)).confirmed = s.2.confirmed :=
      s.2.hear_quiet (by simp [hdata])
    rw [hconfirmed, handleRequest_sourceCap _ _ _ hcaps.1,
      if_pos (pdIsConnected_of_takesCaps hcaps.2)]
    have hpower := hfit.caps (inp, m) hmem hcaps.1 hcaps.2
    have hshaped := h.shaped.dispatching inp m
    change ((s.1.dispatching inp m).capsPower m.payload).1 ≤ pdMinMa ∨
      s.2.confirmed = some ((s.1.dispatching inp m).capsPower m.payload) at hpower
    generalize s.1.dispatching inp m = d at *
    exact .handleSourceCap hshaped hrests hcaps.2 hn hpower
  by_cases hpsRdy : m.isCtrl .psRdy = true ∧ (s.1.dispatching inp m).takesPower = true
  · left
    have hconn : (s.1.dispatching inp m).pdIsConnected = true := by
      have htakes := hpsRdy.2
      simp only [takesPower, decide_eq_true_eq] at htakes
      exact htakes.1
    have hrecord := contractRecord_dispatching s.1 inp m
    have hcurr : (s.1.dispatching inp m).pd.currLimit = s.1.pd.currLimit :=
      congrArg ContractRecord.currLimit hrecord
    have hvolt : (s.1.dispatching inp m).pd.supplyVoltage = s.1.pd.supplyVoltage :=
      congrArg ContractRecord.supplyVoltage hrecord
    have hconfirmed : (s.2.hear s.1 (inp, m)).confirmed = s.2.accepted :=
      s.2.hear_psRdy hpsRdy.1 hpsRdy.2
    rw [hconfirmed, handleRequest_psRdy _ _ _ hpsRdy.1, if_pos hconn]
    refine .handlePsRdy hpsRdy.2 hn ?_
    rw [hcurr, hvolt]
    exact hfit.psRdy _ hmem hpsRdy.1 hpsRdy.2
  have hconfirmed : (s.2.hear s.1 (inp, m)).confirmed = s.2.confirmed := s.2.hear_quiet hpsRdy
  rw [hconfirmed]
  by_cases haccept : m.isCtrl .accept = true ∧
      ((s.1.dispatching inp m).pd.taskState = .srcSwapInit ∨
        (s.1.dispatching inp m).pd.taskState = .snkSwapInit)
  · refine Earned.handled_swapAccepted b _ haccept.1 (fun htask => ?_) haccept.2
    have hdoes := (s.1.does_beforeMessage inp).trans (does_record _ (.received m))
    exact Earned.small_of_does hdoes (by simp [Call.kind]) (hfit.swap (inp, m) hmem haccept.1 htask)
  · exact .inl (hearned.handled_quiet b _ m hcaps hpsRdy haccept)

/-- An iteration. -/
theorem iterate (h : Supplied s) (b : Board) {inp : Input} (hfit : LimitsFit s (.iterate inp)) :
    (s.1.step b (.iterate inp)).Earned (s.2.heard s.1 (.iterate inp)).confirmed
      (voidings s.1.log) := by
  have hshaped := h.shaped.receive b inp
  have hrests := rests_beforeSwitch h.rests b inp
  have hreceived : ((s.1.beforeMessage inp).receive b inp).Earned
        (s.2.heard s.1 (.iterate inp)).confirmed (voidings s.1.log) ∨
      ((s.1.beforeMessage inp).receive b inp).pd.taskState = .snkSwapSnkDisable := by
    unfold Port.receive
    cases hm : inp.message with
    | none =>
        have hheard : s.2.heard s.1 (.iterate inp) = s.2 := by
          simp [Supply.heard, Event.received, hm]
        rw [hheard]
        exact .inl (h.earned.beforeMessage inp)
    | some m =>
        have hheard : s.2.heard s.1 (.iterate inp) = s.2.hear s.1 (inp, m) := by
          simp [Supply.heard, Event.received, hm]
        rw [hheard]
        exact h.handled b hm hfit
  change (((s.1.beforeSwitch b inp).runState b inp).finish _ inp).Earned _ _
  rw [h.shaped.beforeSwitch_eq] at hrests ⊢
  generalize (s.1.beforeMessage inp).receive b inp = q at *
  have hpowered : q.pd.taskState = .srcTransition → q.pd.powerRole = .source := by
    intro htask
    have hallowed := hshaped.within.task
    cases hrole : q.pd.powerRole with
    | source => rfl
    | sink =>
        simp [Control.shapeTable, Port.control, hrole, htask, Control.poweredStates] at hallowed
  exact (Earned.runState hreceived hpowered b inp).finish (rests_runState hrests b inp) _ inp

/-- The interrupt handler. -/
theorem alert (h : Supplied s) (irq : Interrupts) (now : Nat) :
    (s.1.tcpcAlert irq now).Earned s.2.confirmed (voidings s.1.log) := by
  have hdoes := (s.1.does_record (.alert irq)).trans (does_completeTransmissions _ irq)
  have hreported : ((s.1.record (.alert irq)).completeTransmissions irq).Earned s.2.confirmed
      (voidings s.1.log) := by
    refine h.earned.of_does hdoes (by simp [Call.kind]) (by simp [Call.kind, voidKinds])
      fun hlow => .inl ?_
    obtain ⟨ok, hok⟩ := s.1.control.completeTransmissions_eq irq
    rw [control_completeTransmissions] at hlow
    change (s.1.control.completeTransmissions irq).Low at hlow
    rw [hok] at hlow
    exact hlow
  unfold tcpcAlert
  simp only
  generalize (s.1.record (.alert irq)).completeTransmissions irq = q at hreported
  generalize hr : (if irq.hardReset = true then (q.modifyChip Fusb302.pdReset).pdExecuteHardReset now
    else q) = r
  have hreset : r.Earned s.2.confirmed (voidings s.1.log) := by
    rw [← hr]
    split
    · have hsmall := Earned.small_pdExecuteHardReset (fun hrole => hreported.low (.inl hrole)) now
      exact .of_small hsmall
    · exact hreported
  split
  · exact ⟨hreset.kept, hreset.low⟩
  · exact hreset

/-- A call from outside. -/
theorem call (h : Supplied s) (b : Board) {e : Event} (he : e.iterates = false) :
    (s.1.step b e).Earned s.2.confirmed (voidings s.1.log) := by
  have hset : ∀ state, state ∉ Control.lowStates → (s.1.setState state).Earned s.2.confirmed
      (voidings s.1.log) :=
    fun state hstate => h.earned.setState fun hmem => absurd hmem hstate
  cases e with
  | iterate => cases he
  | alert irq now => exact h.alert irq now
  | softReset =>
      change s.1.pdSoftReset.Earned _ _
      unfold pdSoftReset
      split_ifs
      · exact hset _ (by decide)
      · exact h.earned
  | requestPowerSwap =>
      change s.1.pdRequestPowerSwap.Earned _ _
      unfold pdRequestPowerSwap
      split_ifs
      · exact hset _ (by decide)
      · exact hset _ (by decide)
      · exact h.earned
  | requestDataSwap =>
      change s.1.pdRequestDataSwap.Earned _ _
      unfold pdRequestDataSwap
      split_ifs
      · exact hset _ (by decide)
      · exact h.earned
  | sendVdm vid cmd data =>
      refine h.earned.of_does (s.1.does_pdSendVdm vid cmd data) (by decide) (by decide)
        fun hlow => .inl ?_
      rwa [← control_pdSendVdm s.1 vid cmd data]
  | _ => exact ⟨h.earned.kept, h.earned.low⟩

/-- A step that fits keeps the port supplied. -/
theorem step (h : Supplied s) (b : Board) {e : Event} (hfit : LimitsFit s e) :
    Supplied (Machine.observed (Port.step b) (Supply.note b) s e) := by
  have hearned : (s.1.step b e).Earned (s.2.heard s.1 e).confirmed (voidings s.1.log) := by
    cases e with
    | iterate inp => exact h.iterate b hfit
    | _ => exact h.call b rfl
  refine ⟨h.shaped.step b e, ?_, ?_⟩
  · exact ((Control.rests_invariant b).port_step (e := e) h.shaped.awake h.rests trivial).2
  · change (s.1.step b e).Earned (s.2.note b s.1 e).confirmed (voidings (s.1.step b e).log)
    unfold Supply.note
    simp only
    split_ifs with hvoid
    · rw [hvoid]
      exact hearned
    · exact .of_small (hearned.kept.resolve_right fun hkept => hvoid hkept.1)

end Supplied

theorem supplied_setup : Supplied (setup, Supply.none) where
  shaped := shaped_setup
  rests := by
    rw [control_setup]
    exact .start
  earned := .of_small (by decide)

/-- In every run whose steps fit, the limit is earned in every state reached. -/
theorem limitEarned_run (b : Board) (es : List Event)
    (h : Machine.Along (Machine.observed (step b) (Supply.note b)) LimitsFit
      (setup, Supply.none) es) :
    LimitEarned
      (Machine.run (Machine.observed (step b) (Supply.note b)) (setup, Supply.none) es) := by
  have hsupplied : Supplied
      (Machine.run (Machine.observed (step b) (Supply.note b)) (setup, Supply.none) es) :=
    Machine.run_invariant (fun _ _ hs hfit => hs.step b hfit) supplied_setup h
  exact hsupplied.earned.kept.imp_right fun hkept => hkept.2

/-- A sink with 5 V at 500 mA selected asks for 9 V at 2 A and gets it. -/
def acceptedNineVolts : List Event :=
  attachAsSink ++
    [iterateAt 200000 rpOnCc1
        (some (dataMsg .sourceCap [pdoFixed 5000 500 0, nineVolts] (by decide))),
      iterateAt 210000 rpOnCc1 (some (ctrlMsg .accept)),
      iterateAt 220000 rpOnCc1 (some (ctrlMsg .psRdy)),
      .button, .setNewPowerRequest, iterateAt 230000 rpOnCc1 none,
      iterateAt 240000 rpOnCc1 (some (ctrlMsg .accept)),
      iterateAt 250000 rpOnCc1 (some (ctrlMsg .psRdy))]

/-- The limit of 2 A is earned. -/
theorem limitEarned_run_accepted :
    lastLimit (after .shipped acceptedNineVolts).log = (2000, 9000) ∧
      LimitEarned (Machine.run (Machine.observed (step .shipped) (Supply.note .shipped))
        (setup, Supply.none) acceptedNineVolts) :=
  ⟨by decide +kernel, limitEarned_run .shipped acceptedNineVolts (by decide +kernel)⟩

/-- Capabilities for 3 A raise the limit at once. -/
theorem not_limitEarned_caps :
    ¬ ∀ es : List Event, LimitEarned
      (Machine.run (Machine.observed (step .shipped) (Supply.note .shipped)) (setup, Supply.none)
        es) := by
  intro h
  have hearned := h (attachAsSink ++
    [iterateAt 200000 rpOnCc1 (some (dataMsg .sourceCap [fiveVolts] (by decide)))])
  revert hearned
  decide +kernel

end Port

end UsbPd
