import UsbPd.Control.Rules

/-!
# PS_RDY

The last branch of `PD_CTRL_PS_RDY` takes every sink that the branches before it
leave over into `PD_STATE_SNK_READY` and applies the requested power, whether
the request was accepted or not.
-/

namespace UsbPd

/-- The message that an event hands to the port, with the rest of its input. -/
def Event.received : Event → Option (Input × PdMsg)
  | .iterate inp => inp.message.map fun m => (inp, m)
  | _ => none

theorem Event.mem_received {e : Event} {r : Input × PdMsg} :
    r ∈ e.received ↔ e = .iterate r.1 ∧ r.1.message = some r.2 := by
  obtain ⟨inp, m⟩ := r
  cases e with
  | iterate inp' =>
      constructor
      · intro h
        obtain ⟨m', hm', heq⟩ := Option.map_eq_some_iff.1 h
        cases heq
        exact ⟨rfl, hm'⟩
      · rintro ⟨heq, hm⟩
        cases heq
        exact Option.map_eq_some_iff.2 ⟨m, hm, rfl⟩
  | _ => simp [received]

/-- The input current limits that were applied. -/
def currentLimits (log : List Call) : List (Nat × Nat) :=
  log.filterMap fun c => match c with
    | .inputCurrentLimit ma mv => some (ma, mv)
    | _ => none

namespace Port

/-- Power is taken after an accepted request only: from any other state the port
`p` neither enters `PD_STATE_SNK_READY` nor applies a current limit on the way
to `q`. -/
def TakesAcceptedPower (p q : Port) : Prop :=
  p.pd.taskState ≠ .snkTransition → p.pd.taskState ≠ .snkReady →
    q.pd.taskState ≠ .snkReady ∧ currentLimits q.log = currentLimits p.log

/-- The port as it hands a message of the iteration to `handle_request`. -/
def dispatching (p : Port) (inp : Input) (m : PdMsg) : Port :=
  (p.beforeMessage inp).record (.received m)

/-- A PS_RDY that a sink receives in this step makes it take accepted power
only. -/
def RespectsAccept (b : Board) (p : Port) (e : Event) : Prop :=
  ∀ r ∈ e.received, r.2.isCtrl .psRdy = true → p.pd.powerRole = .sink →
    (p.dispatching r.1 r.2).TakesAcceptedPower
      ((p.dispatching r.1 r.2).handleRequest b (r.1.time .message) r.2)

/-- The states of a sink in which a PS_RDY is expected or does no harm. -/
def psRdyStates : List PdState :=
  [.snkTransition, .snkReady, .snkDiscovery, .snkSwapSrcDisable, .snkSwapStandby, .srcSwapStandby]

/-- A PS_RDY that a sink receives in this step finds an unconnected port or one
of these states; a reset puts the port into `PD_STATE_SOFT_RESET` first. -/
def ExpectsPsRdy (p : Port) (e : Event) : Prop :=
  ∀ r ∈ e.received, r.2.isCtrl .psRdy = true → p.pd.powerRole = .sink →
    r.1.reset = false ∧ (p.pdIsConnected = true → p.pd.taskState ∈ psRdyStates)

instance decidableRespectsAccept (b : Board) (p : Port) (e : Event) :
    Decidable (p.RespectsAccept b e) :=
  inferInstanceAs (Decidable (∀ r ∈ e.received, r.2.isCtrl .psRdy = true →
    p.pd.powerRole = .sink → _ ≠ _ → _ ≠ _ → _ ≠ _ ∧ _ = _))

theorem handleRequest_psRdy (b : Board) (p : Port) (now : Nat) {m : PdMsg}
    (hm : m.isCtrl .psRdy = true) :
    p.handleRequest b now m = if p.pdIsConnected then p.handlePsRdy else p := by
  simp only [PdMsg.isCtrl, decide_eq_true_eq] at hm
  unfold handleRequest
  by_cases hconn : p.pdIsConnected = true
  · simp [hconn, hm.1, handleCtrlRequest, hm.2]
  · simp [hconn]

/-- A port that does not go to `PD_STATE_SNK_READY` and logs no limit takes no
power. -/
theorem takesAcceptedPower_of_ne {p q : Port} (htask : q.pd.taskState ≠ .snkReady)
    (hlog : currentLimits q.log = currentLimits p.log) : p.TakesAcceptedPower q :=
  fun _ _ => ⟨htask, hlog⟩

/-- What a PS_RDY does to a connected sink. -/
theorem takesAcceptedPower_handlePsRdy (p : Port) (hrole : p.pd.powerRole = .sink) :
    p.TakesAcceptedPower p.handlePsRdy ↔ p.pd.taskState ∈ psRdyStates := by
  unfold handlePsRdy
  split_ifs with h₁ h₂ h₃ h₄
  · refine iff_of_true (takesAcceptedPower_of_ne (by simp) ?_) (by simp [psRdyStates, h₁])
    rw [setState_log _ (by decide)]
  · refine iff_of_true (takesAcceptedPower_of_ne (by simp) ?_) (by simp [psRdyStates, h₂])
    rw [setState_log _ (by decide)]
    rfl
  · refine iff_of_true (takesAcceptedPower_of_ne (by simp) ?_) (by simp [psRdyStates, h₃])
    rw [setState_log _ (by decide)]
  · exact iff_of_true (takesAcceptedPower_of_ne (by simp [h₄]) rfl) (by simp [psRdyStates, h₄])
  · -- the branch for all other states accepts the power
    constructor
    · intro htakes
      by_contra hunexpected
      simp only [psRdyStates, List.mem_cons, List.not_mem_nil, or_false, not_or] at hunexpected
      exact (htakes hunexpected.1 hunexpected.2.1).1 (by simp)
    · intro hexpected htransition hready
      simp [psRdyStates, h₁, h₂, h₃, h₄, htransition, hready] at hexpected

theorem control_dispatching (p : Port) (inp : Input) (m : PdMsg) :
    (p.dispatching inp m).control = p.control.applyReset inp.reset := by
  rw [dispatching, control_record, control_beforeMessage]
  rfl

/-- In every run, the sink takes accepted power only exactly when every PS_RDY
finds a state that expects it. -/
theorem respectsAccept_iff (b : Board) (es : List Event) :
    AllSteps b (fun p e => p.RespectsAccept b e) es ↔
      AllSteps b (fun p e => p.ExpectsPsRdy e) es := by
  refine Machine.along_congr (fun p e => ?_) _ _
  refine forall₂_congr fun r _ => forall₂_congr fun hm hrole => ?_
  obtain ⟨inp, m⟩ := r
  have hcontrol := p.control_dispatching inp m
  rw [handleRequest_psRdy b _ _ hm]
  generalize p.dispatching inp m = q at hcontrol
  have hrole' : q.pd.powerRole = .sink := by
    have := congrArg Control.role hcontrol
    rw [Control.applyReset_role] at this
    exact this.trans hrole
  cases hr : inp.reset with
  | true =>
      rw [hr] at hcontrol
      have htask : q.pd.taskState = .softReset := congrArg Control.task hcontrol
      have hconn : q.pdIsConnected = true := q.control.connected_of_resetting htask (by decide)
      rw [if_pos hconn, q.takesAcceptedPower_handlePsRdy hrole', htask]
      simp [psRdyStates]
  | false =>
      rw [hr] at hcontrol
      have htask : q.pd.taskState = p.pd.taskState := congrArg Control.task hcontrol
      have hconn : q.pdIsConnected = p.pdIsConnected := congrArg Control.connected hcontrol
      rw [hconn, ← htask]
      cases p.pdIsConnected with
      | true =>
          rw [if_pos rfl, q.takesAcceptedPower_handlePsRdy hrole']
          simp
      | false =>
          refine iff_of_true (fun _ hready => ⟨?_, rfl⟩) (by simp)
          simpa using hready

/-- A PS_RDY before the Accept makes the sink take the power it asked for. -/
theorem not_respectsAccept_requested :
    ¬ ∀ es : List Event, AllSteps .shipped (fun p e => p.RespectsAccept .shipped e) es := by
  intro h
  have hrespects := h (attachAsSink ++
    [iterateAt 200000 rpOnCc1 (some (dataMsg .sourceCap [fiveVolts] (by decide))),
      iterateAt 210000 rpOnCc1 (some (ctrlMsg .psRdy))])
  revert hrespects
  decide +kernel

end Port

end UsbPd
