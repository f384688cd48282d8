import UsbPd.Control.Role

/-!
# Terminations and VBUS

A source presents Rp and may drive VBUS, a sink presents Rd and does not. The
two states in which a sink takes over the supply are the exception, and the
events that leave them on an unprepared path have to be excluded.
-/

namespace UsbPd

namespace Control

/-- The terminations agree with the role outside the two completing states, and
what the completing states and the standby of a source prepare is in place. -/
structure Terminations (v : Control) : Prop where
  pull : v.completingSwap = false → v.pullingUp = (v.role == .source)
  vbus : v.completingSwap = false → v.history.vbus = true → v.role = .source
  supplied : v.task = .snkSwapComplete → v.pullingUp = true
  completing : v.completingSwap = true → v.armed = true → v.timeoutState = .snkSwapComplete
  timer : v.timeoutState = .snkSwapComplete → v.task = .snkSwapStandby ∧ v.pullingUp = true
  standby : v.task = .srcSwapStandby ∨ v.timeoutState = .srcSwapStandby ∨
    v.task = .srcDisconnected → v.history.vbus = false

/-- A completing port is a sink. -/
theorem Within.completing_sink {v : Control} (h : Within shapeTable v)
    (hswap : v.completingSwap = true) : v.role = .sink := by
  cases hrole : v.role with
  | sink => rfl
  | source =>
      have hshape := h.task
      rw [hrole] at hshape
      simp only [completingSwap, decide_eq_true_eq] at hswap
      rcases hswap with htask | htask <;> rw [htask] at hshape <;> cases hshape

namespace Terminations

variable {v w : Control}

theorem congr (h : Terminations v) (htask : w.task = v.task) (hrole : w.role = v.role)
    (harmed : w.armed = v.armed) (htimer : w.timeoutState = v.timeoutState)
    (hpull : w.pullingUp = v.pullingUp) (hvbus : w.history.vbus = v.history.vbus) :
    Terminations w := by
  have hswap : w.completingSwap = v.completingSwap := by
    simp [completingSwap, htask]
  constructor
  · rw [hswap, hpull, hrole]
    exact h.pull
  · rw [hswap, hvbus, hrole]
    exact h.vbus
  · rw [htask, hpull]
    exact h.supplied
  · rw [hswap, harmed, htimer]
    exact h.completing
  · rw [htimer, htask, hpull]
    exact h.timer
  · rw [htask, htimer, hvbus]
    exact h.standby

/-- The states with an obligation of their own. -/
def preparedStates : List PdState :=
  [.snkSwapStandby, .snkSwapComplete, .srcSwapStandby, .srcDisconnected]

/-- A change to a state without obligations needs agreement before it. -/
theorem setState {s : PdState} (hs : s ∉ preparedStates)
    (hpull : v.pullingUp = (v.role == .source))
    (hvbus : v.history.vbus = true → v.role = .source) : Terminations (v.setState s) := by
  simp only [preparedStates, List.mem_cons, List.not_mem_nil, or_false, not_or] at hs
  constructor
  · simp [hpull]
  · intro _ h
    rw [setState_vbus, Bool.and_eq_true] at h
    simpa using hvbus h.1
  · simp [hs]
  · simp
  · simp
  · simp [hs]

theorem vbus_off (h : Terminations v) (hswap : v.completingSwap = false)
    (hrole : v.role = .sink) : v.history.vbus = false := by
  cases hv : v.history.vbus with
  | false => rfl
  | true =>
      have := h.vbus hswap hv
      rw [hrole] at this
      cases this

/-- Every way into `PD_STATE_SRC_DISCONNECTED` finds or leaves VBUS off. -/
theorem setState_srcDisconnected (hwithin : Within shapeTable v) (h : Terminations v)
    (hswap : v.completingSwap = false) : Terminations (v.setState .srcDisconnected) := by
  have hoff : (v.setState .srcDisconnected).history.vbus = false := by
    rw [setState_vbus]
    cases hrole : v.role with
    | sink =>
        rw [h.vbus_off hswap hrole]
        rfl
    | source =>
        by_cases hsame : v.task = .srcDisconnected
        · rw [h.standby (.inr (.inr hsame))]
          rfl
        · have hsnk : v.task ≠ .snkDisconnected := by
            intro htask
            have hshape := hwithin.task
            rw [hrole, htask] at hshape
            cases hshape
          simp [disconnects, hsame, hsnk]
  constructor
  · simp [h.pull hswap]
  · intro _ hon
    rw [hoff] at hon
    cases hon
  · simp
  · simp
  · simp
  · intro _
    exact hoff

theorem setState_snkSwapStandby : Terminations (v.setState .snkSwapStandby) := by
  constructor <;> simp [completingSwap]

/-- A change of state outside the completing states. -/
theorem changed (h : Terminations v) (hwithin : Within shapeTable v)
    (hswap : v.completingSwap = false) {s : PdState}
    (hs : s ∉ [PdState.snkSwapStandby, .snkSwapComplete, .srcSwapStandby]) :
    Terminations (v.setState s) := by
  by_cases hdis : s = .srcDisconnected
  · rw [hdis]
    exact setState_srcDisconnected hwithin h hswap
  · refine setState ?_ (h.pull hswap) (h.vbus hswap)
    simp only [List.mem_cons, List.not_mem_nil, or_false, not_or] at hs
    simp [preparedStates, hs, hdis]

theorem start : Terminations Control.start := by
  constructor <;> simp [Control.start, completingSwap]

theorem applyReset (h : Terminations v) {reset : Bool}
    (hreset : reset = true → v.completingSwap = false) : Terminations (v.applyReset reset) := by
  cases reset with
  | false => exact h
  | true =>
      have hswap := hreset rfl
      have htimer : v.timeoutState ≠ .snkSwapComplete := by
        intro ht
        have htask := (h.timer ht).1
        simp [completingSwap, htask] at hswap
      constructor
      · intro _
        exact h.pull hswap
      · intro _
        exact h.vbus hswap
      · simp [Control.applyReset]
      · simp [Control.applyReset, completingSwap]
      · intro ht
        exact absurd ht htimer
      · intro hstandby
        refine h.standby ?_
        simp only [Control.applyReset, if_true] at hstandby
        rcases hstandby with h₁ | h₁ | h₁
        · cases h₁
        · exact .inr (.inl h₁)
        · cases h₁

theorem executeHardReset (hpull : v.completingSwap = false → v.pullingUp = (v.role == .source))
    (hvbus : v.completingSwap = false → v.history.vbus = true → v.role = .source)
    (hsink : v.completingSwap = true → v.role = .sink) : Terminations v.executeHardReset := by
  rw [executeHardReset_eq]
  have hplain : ∀ r : PowerRole,
      r.ifElse PdState.snkHardResetRecover .srcHardResetRecover ∉
        [PdState.snkSwapStandby, .snkSwapComplete, .srcSwapStandby, .srcDisconnected] := by
    intro r
    cases r <;> decide
  have hrecover := hplain v.role
  simp only [List.mem_cons, List.not_mem_nil, or_false, not_or] at hrecover
  constructor
  · intro _
    cases hswap : v.completingSwap with
    | false => simp [hpull hswap]
    | true => simp [hsink hswap]
  · intro _ hon
    simp only [Bool.and_eq_true, Bool.not_eq_true'] at hon
    exact hvbus hon.2 hon.1.1
  · simp [hrecover]
  · simp
  · simp
  · simp [hrecover]

/-- A message outside the completing states. -/
theorem reaction_plain (h : Terminations v) (hwithin : Within shapeTable v)
    (hswap : v.completingSwap = false) {kind : MsgKind} (hw : Reaction v kind w)
    (hsource : v.task = .srcSwapStandby → kind = .ctrl (some .psRdy) → v.role = .sink) :
    Terminations w := by
  cases hw with
  | ignored => exact h
  | tested =>
      unfold roleIfElse
      cases v.role <;> exact h.changed hwithin hswap (by decide)
  | dataSwapOver =>
      unfold readyReturnState roleIfElse
      cases v.role <;> exact h.changed hwithin hswap (by decide)
  | softAccepted =>
      unfold executeSoftReset roleIfElse
      cases v.role <;> exact h.changed hwithin hswap (by decide)
  | softReset =>
      unfold executeSoftReset roleIfElse
      cases v.role <;> exact h.changed hwithin hswap (by decide)
  | granted =>
      exact setState (v := (v.note .contractAgreed).setExplicit true) (by decide)
        (h.pull hswap) (h.vbus hswap)
  | srcSwapAccepted =>
      exact setState (v := (v.note .powerSwapAccepted).setExplicit false) (by decide)
        (h.pull hswap) (h.vbus hswap)
  | snkSwapAccepted =>
      exact setState (v := (v.note .powerSwapAccepted).setExplicit false) (by decide)
        (h.pull hswap) (h.vbus hswap)
  | requestAccepted =>
      exact setState (v := (v.note .contractAgreed).setExplicit true) (by decide)
        (h.pull hswap) (h.vbus hswap)
  | sourceOn hkind htask =>
      have hrole := hsource htask hkind
      refine setState (v := v.setRole .sink) (by decide) ?_ ?_
      · simpa [hrole] using h.pull hswap
      · intro hon
        have := h.vbus hswap hon
        rw [hrole] at this
        cases this
  | retryLater htask =>
      constructor
      · exact h.pull
      · exact h.vbus
      · exact h.supplied
      · simp [completingSwap, htask]
      · simp
      · simp [htask]
  | sourceOff => exact setState_snkSwapStandby
  | _ => exact h.changed hwithin hswap (by decide)

/-- In a completing state every message that is not excluded is ignored. -/
theorem reaction_completing (hwithin : Within shapeTable v) (hswap : v.completingSwap = true)
    {kind : MsgKind} (hw : Reaction v kind w)
    (hdenied : ∀ a, kind ≠ .data (some .request) a) (hsoft : kind ≠ .ctrl (some .softReset))
    (hpowered : v.task = .snkSwapComplete → kind ≠ .ctrl (some .psRdy)) : w = v := by
  have hsink := hwithin.completing_sink hswap
  have hready : v.readyReturnState = .snkReady := by
    simp [readyReturnState, roleIfElse, hsink]
  have htask : v.task = .snkSwapStandby ∨ v.task = .snkSwapComplete := by
    simpa [completingSwap] using hswap
  cases hw with
  | ignored => rfl
  | denied hkind => exact absurd hkind (hdenied _)
  | granted hkind => exact absurd hkind (hdenied _)
  | softReset hkind => exact absurd hkind hsoft
  | powered hkind _ hne =>
      rcases htask with htask | htask
      · exact absurd htask hne.2.2.2
      · exact absurd hkind (hpowered htask)
  | tested hready' =>
      rw [hready] at hready'
      rcases htask with htask | htask <;> rw [htask] at hready' <;> cases hready'
  | _ => rcases htask with htask | htask <;> simp_all

theorem arm (h : Terminations v) (hswap : v.completingSwap = false) {s : PdState}
    (hcomplete : s ≠ .snkSwapComplete) (hstandby : s = .srcSwapStandby → v.history.vbus = false) :
    Terminations (v.arm s) := by
  constructor
  · exact h.pull
  · exact h.vbus
  · exact h.supplied
  · intro hs
    change v.completingSwap = true at hs
    rw [hswap] at hs
    cases hs
  · intro hs
    exact absurd hs hcomplete
  · rintro (htask | hs | htask)
    · exact h.standby (.inl htask)
    · exact hstandby hs
    · exact h.standby (.inr (.inr htask))

theorem timers_plain : ∀ r s, s ∉ supplyStates →
    .snkSwapComplete ∉ timers r s ∧ .srcSwapStandby ∉ timers r s := by
  intro r s
  cases r <;> cases s <;> decide

theorem moves_plain : ∀ s, ∀ t ∈ moves s,
    t ∉ [PdState.snkSwapStandby, .snkSwapComplete, .srcSwapStandby] := by
  intro s
  cases s <;> decide

/-- The switch outside the completing states. -/
theorem outcome_plain (h : Terminations v) (hwithin : Within shapeTable v)
    (hswap : v.completingSwap = false) (hlast : v.last = .snkSwapStandby → v.role = .sink)
    (hw : Outcome v w) : Terminations w := by
  have hcompleting : v.task ≠ .snkSwapStandby ∧ v.task ≠ .snkSwapComplete := by
    simpa [completingSwap] using hswap
  cases hw with
  | stays => exact h
  | @arms s _ hs hplain =>
      obtain ⟨hcomplete, hstandby⟩ := timers_plain v.role v.task hplain
      refine h.arm hswap ?_ ?_
      · rintro rfl
        exact hcomplete hs
      · rintro rfl
        exact absurd hs hstandby
  | moves hs => exact h.changed hwithin hswap (moves_plain v.task _ hs)
  | resumes =>
      exact setState (v := v.clearSuspending) (by decide) (h.pull hswap) (h.vbus hswap)
  | seesSource =>
      exact setState (v := v.setFew true) (by decide) (h.pull hswap) (h.vbus hswap)
  | togglesToSource htask =>
      have hrole : v.role = .sink := by
        cases hrole : v.role with
        | sink => rfl
        | source =>
            have hshape := hwithin.task
            rw [hrole, htask] at hshape
            cases hshape
      have hoff : v.history.vbus = false := h.vbus_off hswap hrole
      constructor <;> simp [setState_vbus, hoff, completingSwap]
  | attachesSource =>
      exact setState (v := v.note (.rxEnable true)) (by decide) (h.pull hswap) (h.vbus hswap)
  | requests =>
      exact arm (v := v.setFew true) (h.congr rfl rfl rfl rfl rfl rfl) hswap (by decide)
        (fun hs => by cases hs)
  | drivesVbus htask => exact absurd htask hcompleting.1
  | becomesSource htask => exact absurd htask hcompleting.2
  | staysSink htask => exact absurd htask hcompleting.2
  | seesSink => exact setState (by decide) (h.pull hswap) (h.vbus hswap)
  | togglesToSink htask =>
      have hoff := h.standby (.inr (.inr htask))
      constructor <;> simp [setState_vbus, hoff, completingSwap]
  | attachesSink _ hup =>
      have hrole : v.role = .source := by
        simpa [hup] using h.pull hswap
      exact setState (v := ((v.note (.vbus true)).note (.rxEnable true)).setFew true) (by decide)
        (h.pull hswap) (fun _ => hrole)
  | recovers htask =>
      have hrole : v.role = .source := by
        cases hrole : v.role with
        | source => rfl
        | sink =>
            have hshape := hwithin.task
            rw [hrole, htask] at hshape
            cases hshape
      exact setState (v := v.note (.vbus true)) (by decide) (h.pull hswap) (fun _ => hrole)
  | sendsCaps =>
      exact (setState (s := .srcNegociate) (by decide) (h.pull hswap) (h.vbus hswap)).congr
        rfl rfl rfl rfl rfl rfl
  | cutsVbus htask =>
      constructor <;> simp [completingSwap, htask]
      simpa using h.pull hswap
  | becomesSink htask =>
      have hoff := h.standby (.inl htask)
      constructor <;> simp [completingSwap, htask, hoff]
  | staysSource => exact setState_srcDisconnected hwithin h hswap
  | sentReset => exact h.congr rfl rfl rfl rfl rfl rfl
  | failsReset => exact h.congr rfl rfl rfl rfl rfl rfl
  | @sendsReset few sent =>
      exact arm (v := ((v.setFew few).setSent sent).note (.transmit .hardReset 0 [] 0))
        (h.congr rfl rfl rfl rfl rfl rfl) hswap (by decide) (fun hs => by cases hs)
  | @sendsResetAtOnce few sent =>
      exact setState (v := ((v.setFew few).setSent sent).note (.transmit .hardReset 0 [] 0))
        (by decide) (h.pull hswap) (h.vbus hswap)
  | executesReset =>
      by_cases hstandby : v.last = .snkSwapStandby
      · have hrole := hlast hstandby
        rw [if_pos hstandby]
        refine executeHardReset (v := v.setPull false) (fun _ => ?_) h.vbus
          (fun _ => hrole)
        simp [hrole]
      · rw [if_neg hstandby]
        exact executeHardReset h.pull h.vbus hwithin.completing_sink

/-- The switch in a completing state. -/
theorem outcome_completing (h : Terminations v) (hwithin : Within shapeTable v)
    (hswap : v.completingSwap = true) (hw : Outcome v w) : Terminations w := by
  have hsink := hwithin.completing_sink hswap
  have htask : v.task = .snkSwapStandby ∨ v.task = .snkSwapComplete := by
    simpa [completingSwap] using hswap
  cases hw with
  | stays => exact h
  | arms _ hs hplain =>
      rcases htask with htask | htask
      · simp [supplyStates, htask] at hplain
      · simp [timers, htask] at hs
  | moves hs => rcases htask with htask | htask <;> simp [moves, htask] at hs
  | drivesVbus htask =>
      constructor <;> simp [completingSwap, htask]
  | becomesSource htask =>
      exact setState (v := v.setRole .source) (by decide) (h.supplied htask) (fun _ => rfl)
  | staysSink =>
      refine setState (v := (v.setPull false).note (.vbus false)) (by decide) ?_ (by simp)
      simp [hsink]
  | _ => rcases htask with htask | htask <;> simp_all

theorem setState_timeoutState (h : Terminations v) (hwithin : Within shapeTable v)
    (harmed : v.armed = true) : Terminations (v.setState v.timeoutState) := by
  cases hswap : v.completingSwap with
  | true =>
      have htimer := h.completing hswap harmed
      have hpull := (h.timer htimer).2
      rw [htimer]
      constructor <;> simp [completingSwap, hpull]
  | false =>
      by_cases hstandby : v.timeoutState = .srcSwapStandby
      · have hoff := h.standby (.inr (.inl hstandby))
        rw [hstandby]
        constructor <;> simp [completingSwap, setState_vbus, hoff]
        exact h.pull hswap
      by_cases hnext : v.timeoutState = .snkSwapStandby
      · rw [hnext]
        exact setState_snkSwapStandby
      · refine h.changed hwithin hswap ?_
        have hcomplete : v.timeoutState ≠ .snkSwapComplete := by
          intro ht
          have htask := (h.timer ht).1
          simp [completingSwap, htask] at hswap
        simp [hstandby, hnext, hcomplete]

end Terminations

/-- The invariant of the runs that leave the completing states on a prepared
path. -/
structure SwapSafe (v : Control) : Prop where
  within : Within shapeTable v
  terminations : Terminations v
  last : v.last = .snkSwapStandby → v.role = .sink

namespace SwapSafe

variable {v : Control}

/-- The switch leaves the role alone in `PD_STATE_SNK_SWAP_STANDBY`. -/
theorem outcome_role {w : Control} (hw : Outcome v w) (htask : v.task = .snkSwapStandby) :
    w.role = v.role := by
  cases hw with
  | stays => rfl
  | arms => rfl
  | moves => simp
  | _ => simp_all

theorem finish (hwithin : Within shapeTable v) (hterm : Terminations v) (thisState : PdState)
    (hlast : thisState = .snkSwapStandby → v.role = .sink) :
    Machine.Ensures (v.finish thisState) SwapSafe := by
  have hterm' : Terminations (v.setLast thisState) := hterm.congr rfl rfl rfl rfl rfl rfl
  have hwithin' : Within shapeTable (v.setLast thisState) := ⟨hwithin.task, hwithin.timeoutState⟩
  refine v.finish_ensures ⟨hwithin', hterm', hlast⟩ (fun harmed => ⟨?_, ?_, ?_⟩) ?_
  · exact .setState hwithin.timeoutState
  · exact hterm'.setState_timeoutState hwithin' harmed
  · simpa using hlast
  · intro w hw _ hswapping hrole
    have hplain : w.completingSwap = false := by
      simp only [powerSwapping, decide_eq_false_iff_not, not_or] at hswapping
      simp [completingSwap, hswapping]
    refine ⟨.entered (by simp [entries, hrole]), ?_, by simpa using hw.last⟩
    exact .setState_srcDisconnected (v := w.note .detach) (hw.within.note .detach)
      (hw.terminations.congr rfl rfl rfl rfl rfl rfl) hplain

theorem runSwitch (h : SwapSafe v) : Machine.Ensures v.runSwitch SwapSafe := by
  refine Machine.Ensures.flatMap v.runState_outcome fun w hw => ?_
  refine finish (h.within.outcome hw fun _ _ _ _ => rfl) ?_ v.task fun htask => ?_
  · cases hswap : v.completingSwap with
    | true => exact h.terminations.outcome_completing h.within hswap hw
    | false => exact h.terminations.outcome_plain h.within hswap h.last hw
  · rw [outcome_role hw htask]
    exact h.within.completing_sink (by simp [completingSwap, htask])

theorem applyReset (h : SwapSafe v) {reset : Bool}
    (hreset : reset = true → v.completingSwap = false) : SwapSafe (v.applyReset reset) := by
  refine ⟨h.within.applyReset reset, h.terminations.applyReset hreset, ?_⟩
  cases reset <;> exact h.last

theorem reaction_role {w : Control} {kind : MsgKind} (hw : Reaction v kind w) :
    w.last = v.last ∧ (w.role = v.role ∨ w.role = .sink) := by
  cases hw <;> simp [executeSoftReset]

theorem reaction (h : SwapSafe v) {w : Control} {kind : MsgKind} (hw : Reaction v kind w)
    (hdenied : v.completingSwap = true → ∀ a, kind ≠ .data (some .request) a)
    (hsoft : v.completingSwap = true → kind ≠ .ctrl (some .softReset))
    (hpowered : v.task = .snkSwapComplete → kind ≠ .ctrl (some .psRdy))
    (hsource : v.task = .srcSwapStandby → kind = .ctrl (some .psRdy) → v.role = .sink) :
    SwapSafe w := by
  refine ⟨h.within.reaction hw fun _ _ _ => rfl, ?_, ?_⟩
  · cases hswap : v.completingSwap with
    | true =>
        rw [Terminations.reaction_completing h.within hswap hw (hdenied hswap) (hsoft hswap)
          hpowered]
        exact h.terminations
    | false => exact h.terminations.reaction_plain h.within hswap hw hsource
  · obtain ⟨hlast, hrole⟩ := reaction_role hw
    intro hstandby
    rw [hlast] at hstandby
    rcases hrole with hrole | hrole
    · rw [hrole]
      exact h.last hstandby
    · exact hrole

theorem executeHardReset (h : SwapSafe v) : SwapSafe v.executeHardReset := by
  refine ⟨.executeHardReset, ?_, ?_⟩
  · exact .executeHardReset h.terminations.pull h.terminations.vbus h.within.completing_sink
  · rw [executeHardReset_eq]
    simp

theorem setTx (h : SwapSafe v) (ok : Bool) : SwapSafe (v.setTx ok) :=
  ⟨⟨h.within.task, h.within.timeoutState⟩, h.terminations.congr rfl rfl rfl rfl rfl rfl, h.last⟩

theorem softResetCall (h : SwapSafe v) (hswap : v.completingSwap = false) :
    SwapSafe v.softResetCall := by
  unfold Control.softResetCall
  split
  · refine ⟨.entered (by simp [entries]), ?_, by simpa using h.last⟩
    exact h.terminations.changed h.within hswap (by decide)
  · exact h

theorem requestPowerSwap (h : SwapSafe v) : SwapSafe v.requestPowerSwap := by
  refine ⟨h.within.requestPowerSwap, ?_, ?_⟩
  · unfold Control.requestPowerSwap
    split_ifs with hsrc hsnk
    · exact h.terminations.changed h.within (by simp [completingSwap, hsrc]) (by decide)
    · exact h.terminations.changed h.within (by simp [completingSwap, hsnk]) (by decide)
    · exact h.terminations
  · unfold Control.requestPowerSwap
    split_ifs <;> simpa using h.last

theorem requestDataSwap (h : SwapSafe v) : SwapSafe v.requestDataSwap := by
  refine ⟨h.within.requestDataSwap, ?_, ?_⟩
  · unfold Control.requestDataSwap
    split
    · rename_i hready
      have hplain : v.completingSwap = false := by
        unfold readyReturnState roleIfElse at hready
        cases hrole : v.role <;> simp [completingSwap, hready, hrole]
      exact h.terminations.changed h.within hplain (by decide)
    · exact h.terminations
  · unfold Control.requestDataSwap
    split <;> simpa using h.last

end SwapSafe

end Control

/-! Every run. -/

namespace Port

/-- The two states of a swap in which a sink already presents Rp and VBUS. -/
def completingSwap (p : Port) : Bool :=
  p.pd.taskState = .snkSwapStandby ∨ p.pd.taskState = .snkSwapComplete

/-- The event leaves a swap half-way: a soft reset, a Request or an early PS_RDY
in the completing states, or a PS_RDY for a source that still drives the line. -/
def leavesSwap (p : Port) : Event → Bool
  | .iterate inp =>
    (p.completingSwap && (inp.reset || inp.message.any (PdMsg.isData · .request) ||
      inp.message.any (PdMsg.isCtrl · .softReset))) ||
    (p.pd.taskState == .snkSwapComplete && inp.message.any (PdMsg.isCtrl · .psRdy)) ||
    (p.pd.taskState == .srcSwapStandby && p.pd.powerRole == .source && !inp.reset &&
      inp.message.any (PdMsg.isCtrl · .psRdy))
  | .softReset => p.completingSwap
  | _ => false

end Port

theorem Control.swapSafe_invariant (b : Board) :
    ControlInvariant b (fun p e => p.leavesSwap e = false) SwapSafe where
  start := ⟨.start, .start, by simp [start]⟩
  iterate := by
    intro p inp hC h w hw
    simp only [Port.leavesSwap, Bool.or_eq_false_iff] at hC
    obtain ⟨⟨hcompleting, hcomplete⟩, hstandby⟩ := hC
    have hreset : inp.reset = true → p.control.completingSwap = false := by
      intro hr
      change p.completingSwap = false
      simpa [hr] using hcompleting
    have hmid := h.applyReset hreset
    rcases receive_reaction _ hw with rfl | ⟨kind, hkind, -, hreaction⟩
    · exact hmid.runSwitch
    · cases hr : inp.reset with
      | true =>
          rw [hr] at hreaction hmid
          exact (hmid.reaction hreaction (by simp [applyReset, completingSwap])
            (by simp [applyReset, completingSwap]) (by simp [applyReset])
            (by simp [applyReset])).runSwitch
      | false =>
          rw [hr] at hreaction hmid
          have hmessages : p.completingSwap = true →
              inp.message.any (PdMsg.isData · .request) = false ∧
                inp.message.any (PdMsg.isCtrl · .softReset) = false := by
            intro hswap
            simpa only [hswap, hr, Bool.true_and, Bool.or_eq_false_iff, true_and] using hcompleting
          refine (hmid.reaction hreaction (fun hswap => ?_) (fun hswap => ?_) (fun htask => ?_)
            (fun htask hpsrdy => ?_)).runSwitch
          · exact kind_ne_data hkind (hmessages hswap).1
          · exact kind_ne_ctrl hkind (hmessages hswap).2
          · change p.pd.taskState = .snkSwapComplete at htask
            refine kind_ne_ctrl hkind ?_
            simpa [htask] using hcomplete
          · change p.pd.taskState = .srcSwapStandby at htask
            change p.pd.powerRole = .sink
            cases hrole : p.pd.powerRole with
            | sink => rfl
            | source =>
                refine absurd hpsrdy (kind_ne_ctrl hkind ?_)
                simpa [htask, hrole, hr] using hstandby
  complete := fun p irq now ok _ h => h.setTx ok
  hardReset := fun p irq now ok _ _ h => (h.setTx ok).executeHardReset
  softReset := fun p hC h => h.softResetCall hC
  powerSwap := fun p _ h => h.requestPowerSwap
  dataSwap := fun p _ h => h.requestDataSwap

end UsbPd
