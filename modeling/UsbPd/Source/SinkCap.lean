import UsbPd.Link.GoodCrc
import UsbPd.Machine.Observer

/-!
# Asking for the capabilities of the sink

`snk_cap_count` goes up in every iteration of `PD_STATE_SRC_READY` that has not heard the
capabilities of the sink, also when it asks no more. The count is an `int`: after
2147483647 it wraps to a negative number, and the source asks again.
-/

namespace UsbPd

/-- The header of a Get_Sink_Cap, or of a data message with its type. -/
def saysGetSinkCap (header : BitVec 16) : Bool :=
  headerType header = CtrlMsgType.getSinkCap.toNat

def Call.asksSinkCap : Call → Bool
  | .transmit .sop header _ _ => saysGetSinkCap header
  | _ => false

/-- What an observer remembers of the Get_Sink_Cap messages. -/
structure CapQueries where
  /-- sent from `PD_STATE_SRC_READY` since `PD_STATE_SRC_STARTUP` was last entered -/
  sent : Nat
  /-- a swap to source completed since -/
  swapped : Bool
  /-- sent since that swap -/
  sentSwapped : Nat
  deriving DecidableEq

namespace Port

/-- The Get_Sink_Cap messages that were sent. -/
def sinkCapQueries (p : Port) : Nat := p.log.countP Call.asksSinkCap

/-- The observer's memory after the switch of an iteration. -/
def noteSwitch (b : Board) (q : Port) (inp : Input) (m : CapQueries) : CapQueries :=
  match q.pd.taskState with
  | .srcStartup => if q.entering then ⟨0, false, 0⟩ else m
  | .snkSwapComplete =>
    if (q.runState b inp).pd.taskState = .srcDiscovery then { m with swapped := true } else m
  | .srcReady =>
    let new := (q.runState b inp).sinkCapQueries - q.sinkCapQueries
    { m with
      sent := m.sent + new
      sentSwapped := if m.swapped then m.sentSwapped + new else m.sentSwapped }
  | _ => m

def noteCapQueries (b : Board) (p : Port) (e : Event) (m : CapQueries) : CapQueries :=
  match e with
  | .iterate inp => (p.beforeSwitch b inp).noteSwitch b inp m
  | _ => m

/-- The observer before the first event. -/
def noQueries : CapQueries := ⟨0, false, 0⟩

/-- At most `PD_SNK_CAP_RETRIES` messages, and none after a swap. -/
def QueriesBounded (s : Port × CapQueries) : Prop :=
  (s.2.sent : Int) ≤ pdSnkCapRetries ∧ s.2.sentSwapped = 0

/-- The bounds hold in every state that the run reaches. -/
def SinkCapsBounded (b : Board) (es : List Event) : Prop :=
  Machine.Along (Machine.observed (step b) (noteCapQueries b))
    (fun s e => QueriesBounded (Machine.observed (step b) (noteCapQueries b) s e))
    (setup, noQueries) es

/-- `PD_STATE_SRC_READY` counts: it is not waiting for a VDM, has no capabilities to send
and has not heard those of the sink. -/
def countsQuery (p : Port) : Bool :=
  p.pd.vdmState ≠ .busy ∧ ¬p.pd.flags.updateSrcCaps ∧ ¬p.pd.flags.snkCapRecvd

/-- The switch counts although the count is at the maximum of an `int`. -/
def wrapsQueryCount (q : Port) : Bool :=
  q.pd.taskState = .srcReady ∧ q.countsQuery ∧ q.st.snkCapCount = 2 ^ 31 - 1

/-- An iteration does. -/
def stepWrapsQueryCount (b : Board) (p : Port) : Event → Bool
  | .iterate inp => (p.beforeSwitch b inp).wrapsQueryCount
  | _ => false

/-! What `PD_STATE_SRC_READY` sends. -/

variable (p : Port)

theorem sinkCapQueries_pdTransmit {type : Nat} (htype : type < 16) (cnt : Nat)
    (data : List Word) :
    (p.pdTransmit .sop (p.header type cnt) data).2.sinkCapQueries =
      p.sinkCapQueries + if type = CtrlMsgType.getSinkCap.toNat then 1 else 0 := by
  have hasks : (Call.transmit .sop (p.header type cnt) data
      (if p.pd.txStatus = .success then 1 else -1)).asksSinkCap =
      decide (type = CtrlMsgType.getSinkCap.toNat) := by
    rw [Call.asksSinkCap, saysGetSinkCap, headerType_header p htype]
  have hlog : (p.pdTransmit .sop (p.header type cnt) data).2.log =
      .transmit .sop (p.header type cnt) data (if p.pd.txStatus = .success then 1 else -1) ::
        p.log := rfl
  rw [sinkCapQueries, hlog, List.countP_cons, hasks]
  simp only [decide_eq_true_eq]
  rfl

theorem sinkCapQueries_setState {s : PdState} (hs : s ≠ .srcDisconnected ∧ s ≠ .snkDisconnected) :
    (p.setState s).sinkCapQueries = p.sinkCapQueries := by
  rw [sinkCapQueries, setState_log p hs]
  rfl

theorem sinkCapQueries_sendSourceCap (b : Board) :
    (p.sendSourceCap b).2.sinkCapQueries = p.sinkCapQueries := by
  unfold sendSourceCap
  split
  · exact p.sinkCapQueries_pdTransmit (by decide) _ _
  · exact p.sinkCapQueries_pdTransmit (by decide) _ _

theorem sinkCapQueries_srcPing : p.srcPing.sinkCapQueries = p.sinkCapQueries := by
  have hping : (p.sendControl .ping).2.sinkCapQueries = p.sinkCapQueries :=
    p.sinkCapQueries_pdTransmit (by decide) _ _
  unfold srcPing
  simp only
  split_ifs
  · exact hping
  · exact (sinkCapQueries_setState _ (by decide)).trans hping
  · rfl

theorem sinkCapQueries_readyChecks {q : Port} (h : p.readyChecks = some q) :
    q.sinkCapQueries = p.sinkCapQueries := by
  unfold readyChecks at h
  split_ifs at h
  all_goals
    obtain rfl := Option.some.inj h
    rfl

/-- The policy checks and the ping. -/
theorem queries_readyChecks_srcPing :
    (p.readyChecks.getD p.srcPing).st.snkCapCount = p.st.snkCapCount ∧
      (p.readyChecks.getD p.srcPing).sinkCapQueries = p.sinkCapQueries := by
  cases hchecks : p.readyChecks with
  | none => exact ⟨p.does_srcPing.keeps .snkCapCount (by decide), p.sinkCapQueries_srcPing⟩
  | some q =>
      exact ⟨(p.does_readyChecks hchecks).keeps .snkCapCount (by decide),
        p.sinkCapQueries_readyChecks hchecks⟩

/-- `PD_STATE_SRC_READY` asks while the new count is at most `PD_SNK_CAP_RETRIES`. -/
theorem srcReady_counts (b : Board) (h : p.countsQuery = true) :
    (p.srcReady b).st.snkCapCount = toInt32 (p.st.snkCapCount + 1) ∧
      (p.srcReady b).sinkCapQueries = p.sinkCapQueries +
        if toInt32 (p.st.snkCapCount + 1) ≤ pdSnkCapRetries then 1 else 0 := by
  obtain ⟨hvdm, hupdate, hunheard⟩ : p.pd.vdmState ≠ .busy ∧
      p.pd.flags.updateSrcCaps = false ∧ p.pd.flags.snkCapRecvd = false := by
    simpa [countsQuery] using h
  generalize hr : (p.modifySt fun st => { st with snkCapCount := toInt32 (st.snkCapCount + 1) }) = r
  have hcount : r.st.snkCapCount = toInt32 (p.st.snkCapCount + 1) ∧
      r.sinkCapQueries = p.sinkCapQueries := by
    rw [← hr]
    exact ⟨rfl, rfl⟩
  unfold srcReady
  simp only [evt, hvdm, hupdate, hunheard, hr, Bool.false_eq_true, or_self, not_false_iff, true_and,
    if_false]
  split
  · have hasked : (r.sendControl .getSinkCap).2.sinkCapQueries = r.sinkCapQueries + 1 :=
      r.sinkCapQueries_pdTransmit (by decide) _ _
    have hst : ((r.sendControl .getSinkCap).2.setState .srcGetSinkCap).st = r.st := by
      simp [sendControl]
    rw [sinkCapQueries_setState _ (by decide), hasked, hcount.2, hst]
    exact ⟨hcount.1, rfl⟩
  · rw [r.queries_readyChecks_srcPing.1, r.queries_readyChecks_srcPing.2]
    exact hcount

theorem srcReady_counts_not (b : Board) (h : p.countsQuery = false) :
    (p.srcReady b).st.snkCapCount = p.st.snkCapCount ∧
      (p.srcReady b).sinkCapQueries = p.sinkCapQueries := by
  have hcaps := p.does_sendSourceCap b
  unfold srcReady
  split
  · exact ⟨rfl, rfl⟩
  split
  · simp only
    split
    · have hkeeps := (hcaps.trans (does_setState_of_ne (s := .srcNegociate) _ (by decide))).keeps
        .snkCapCount (by decide)
      refine ⟨hkeeps, (sinkCapQueries_setState (s := .srcNegociate) _ (by decide)).trans ?_⟩
      exact p.sinkCapQueries_sendSourceCap b
    · exact ⟨hcaps.keeps .snkCapCount (by decide), p.sinkCapQueries_sendSourceCap b⟩
  · rename_i hbusy hupdate
    have hheard : p.pd.flags.snkCapRecvd = true := by
      simp only [evt, Bool.false_eq_true, false_or] at hbusy
      simpa [countsQuery, hbusy, hupdate] using h
    simp only [hheard, not_true, false_and, if_false, if_true]
    exact p.queries_readyChecks_srcPing

/-! What the switch does to the count. -/

theorem snkSwapComplete_count :
    (p.snkSwapComplete.pd.taskState = .srcDiscovery ∧
        p.snkSwapComplete.st.snkCapCount = pdSnkCapRetries + 1) ∨
      (p.snkSwapComplete.pd.taskState ≠ .srcDiscovery ∧
        p.snkSwapComplete.st.snkCapCount = p.st.snkCapCount) := by
  unfold snkSwapComplete
  simp only
  split_ifs
  · right
    simp [sendControl]
  · left
    simp [sendControl]

theorem srcStartup_count (inp : Input) :
    (p.srcStartup inp).st.snkCapCount = if p.entering then 0 else p.st.snkCapCount := by
  unfold srcStartup
  split <;> simp

/-- The other states leave it alone. -/
theorem runState_count (b : Board) (inp : Input)
    (h : p.pd.taskState ≠ .srcStartup ∧ p.pd.taskState ≠ .snkSwapComplete ∧
      p.pd.taskState ≠ .srcReady) :
    (p.runState b inp).st.snkCapCount = p.st.snkCapCount := by
  refine (p.does_runState b inp).keeps .snkCapCount ?_
  obtain ⟨hstartup, hswap, hready⟩ := h
  generalize p.pd.taskState = s at *
  cases s <;> first | contradiction | decide

end Port

theorem toInt32_succ_of_lt {c : Int} (h : 0 ≤ c) (hlt : c < 2 ^ 31 - 1) :
    toInt32 (c + 1) = c + 1 :=
  Int.bmod_eq_of_le (by omega) (by omega)

/-- As long as the count `c` has not wrapped, it tells what was sent. -/
structure CountTells (c : Int) (m : CapQueries) : Prop where
  sent : (m.sent : Int) ≤ pdSnkCapRetries
  sentSwapped : m.sentSwapped = 0
  nonneg : 0 ≤ c
  le_max : c ≤ 2 ^ 31 - 1
  tells : m.swapped = false → m.sent = min c.toNat pdSnkCapRetries.toNat
  swapped : m.swapped = true → pdSnkCapRetries < c

namespace CountTells

variable {c : Int} {m : CapQueries}

theorem start : CountTells 0 Port.noQueries :=
  ⟨by decide, rfl, Int.le_refl 0, by decide, fun _ => rfl, fun h => by cases h⟩

/-- A swap to source puts the count beyond the retries. -/
theorem swap (h : CountTells c m) :
    CountTells (pdSnkCapRetries + 1) { m with swapped := true } where
  sent := h.sent
  sentSwapped := h.sentSwapped
  nonneg := by decide
  le_max := by decide
  tells hnot := by cases hnot
  swapped _ := by decide

/-- The count goes up by one. -/
theorem succ (h : CountTells c m) (hlt : c < 2 ^ 31 - 1) {new : Nat}
    (hnew : new = if c + 1 ≤ pdSnkCapRetries then 1 else 0) :
    CountTells (c + 1) { m with
      sent := m.sent + new
      sentSwapped := if m.swapped then m.sentSwapped + new else m.sentSwapped } := by
  have hnonneg := h.nonneg
  have hretries : pdSnkCapRetries = 3 := rfl
  rw [hretries] at hnew
  cases hm : m.swapped with
  | false =>
      have htells := h.tells hm
      have hsent : m.sent + new = min (c + 1).toNat pdSnkCapRetries.toNat := by
        rw [hretries] at htells ⊢
        split at hnew <;> omega
      refine ⟨?_, h.sentSwapped, by omega, by omega, fun _ => hsent, fun hyes => by cases hyes⟩
      rw [hretries] at hsent ⊢
      simp only
      omega
  | true =>
      have hbeyond := h.swapped hm
      obtain rfl : new = 0 := by
        rw [hretries] at hbeyond
        rw [if_neg (by omega)] at hnew
        exact hnew
      exact ⟨h.sent, h.sentSwapped, by omega, by omega, fun hno => (by cases hno),
        fun _ => by omega⟩

/-- Beyond the retries nothing depends on the count. -/
theorem of_le (h : CountTells c m) {d : Int} (hc : pdSnkCapRetries ≤ c) (hle : c ≤ d)
    (hmax : d ≤ 2 ^ 31 - 1) : CountTells d m := by
  have hretries : pdSnkCapRetries = 3 := rfl
  refine ⟨h.sent, h.sentSwapped, by omega, hmax, fun hno => ?_, fun hyes => ?_⟩
  · rw [h.tells hno]
    omega
  · have hbeyond := h.swapped hyes
    omega

/-- After the wrap the source asks once more than it should. -/
theorem wrap (h : CountTells (2 ^ 31 - 1) m) :
    ¬((m.sent + 1 : Nat) : Int) ≤ pdSnkCapRetries ∨
      (if m.swapped then m.sentSwapped + 1 else m.sentSwapped) ≠ 0 := by
  cases hm : m.swapped with
  | false =>
      have htells := h.tells hm
      unfold pdSnkCapRetries at *
      omega
  | true => exact .inr (Nat.succ_ne_zero _)

end CountTells

namespace Port

variable {p : Port} {m : CapQueries}

/-- The count after an iteration is the one the switch leaves. -/
theorem count_iterate (b : Board) (p : Port) (inp : Input) :
    (p.step b (.iterate inp)).st.snkCapCount =
      ((p.beforeSwitch b inp).runState b inp).st.snkCapCount :=
  (((p.beforeSwitch b inp).runState b inp).does_finish
    (p.beforeSwitch b inp).pd.taskState inp).keeps .snkCapCount (by decide)

theorem count_beforeSwitch (b : Board) (p : Port) (inp : Input) :
    (p.beforeSwitch b inp).st.snkCapCount = p.st.snkCapCount :=
  (p.does_beforeSwitch b inp).keeps .snkCapCount (by decide)

/-- One switch. -/
theorem countTells_runState (b : Board) (q : Port) (inp : Input)
    (h : CountTells q.st.snkCapCount m) (hwrap : q.wrapsQueryCount = false) :
    CountTells (q.runState b inp).st.snkCapCount (q.noteSwitch b inp m) := by
  have hother := q.runState_count b inp
  unfold noteSwitch
  cases htask : q.pd.taskState with
  | srcStartup =>
      simp only [runState, htask, q.srcStartup_count inp]
      split
      · exact .start
      · exact h
  | snkSwapComplete =>
      simp only [runState, htask]
      rcases q.snkSwapComplete_count with ⟨hdone, hcount⟩ | ⟨hfailed, hcount⟩
      · rw [if_pos hdone, hcount]
        exact h.swap
      · rw [if_neg hfailed, hcount]
        exact h
  | srcReady =>
      simp only [runState, htask]
      cases hcounts : q.countsQuery with
      | false =>
          obtain ⟨hcount, hsent⟩ := q.srcReady_counts_not b hcounts
          rw [hcount, hsent, Nat.sub_self, Nat.add_zero, Nat.add_zero, ite_self]
          exact h
      | true =>
          have hlt : q.st.snkCapCount < 2 ^ 31 - 1 := by
            have hle := h.le_max
            have hne : ¬q.st.snkCapCount = 2 ^ 31 - 1 := by
              simpa [wrapsQueryCount, htask, hcounts] using hwrap
            omega
          obtain ⟨hcount, hsent⟩ := q.srcReady_counts b hcounts
          rw [toInt32_succ_of_lt h.nonneg hlt] at hcount hsent
          rw [hcount]
          exact h.succ hlt (by rw [hsent, Nat.add_sub_cancel_left])
  | _ =>
      rw [hother (by simp [htask])]
      exact h

theorem not_bounded_runState (b : Board) (q : Port) (inp : Input)
    (h : CountTells q.st.snkCapCount m) (hwrap : q.wrapsQueryCount = true) (r : Port) :
    ¬QueriesBounded (r, q.noteSwitch b inp m) := by
  obtain ⟨htask, hcounts, hmax⟩ : q.pd.taskState = .srcReady ∧ q.countsQuery = true ∧
      q.st.snkCapCount = 2 ^ 31 - 1 := by
    simpa [wrapsQueryCount] using hwrap
  obtain ⟨-, hsent⟩ := q.srcReady_counts b hcounts
  have hasked : (if toInt32 (2 ^ 31 - 1 + 1) ≤ pdSnkCapRetries then 1 else 0) = 1 := by decide
  rw [hmax, hasked] at hsent
  rw [hmax] at h
  unfold noteSwitch QueriesBounded
  simp only [runState, htask, hsent, Nat.add_sub_cancel_left]
  rintro ⟨hle, hzero⟩
  rcases h.wrap with hmore | hmore
  · exact hmore hle
  · exact hmore hzero

theorem countTells_step (b : Board) (p : Port) (e : Event) (h : CountTells p.st.snkCapCount m)
    (hwrap : p.stepWrapsQueryCount b e = false) :
    CountTells (p.step b e).st.snkCapCount (p.noteCapQueries b e m) := by
  have hcall : e.iterates = false → (p.step b e).st.snkCapCount = p.st.snkCapCount := fun he =>
    (p.does_call b he).keeps .snkCapCount (by cases e <;> simp [Event.writes])
  cases e with
  | iterate inp =>
      rw [p.count_iterate b inp]
      rw [← p.count_beforeSwitch b inp] at h
      exact countTells_runState b _ inp h hwrap
  | _ =>
      rw [hcall rfl]
      exact h

theorem queriesBounded_step_iff (b : Board) (p : Port) (e : Event)
    (h : CountTells p.st.snkCapCount m) :
    QueriesBounded (p.step b e, p.noteCapQueries b e m) ↔ p.stepWrapsQueryCount b e = false := by
  constructor
  · intro hnext
    refine Bool.eq_false_iff.2 fun hwrap => ?_
    cases e with
    | iterate inp =>
        rw [← p.count_beforeSwitch b inp] at h
        exact not_bounded_runState b _ inp h hwrap _ hnext
    | _ => cases hwrap
  · intro hwrap
    have hnext := countTells_step b p e h hwrap
    exact ⟨hnext.sent, hnext.sentSwapped⟩

/-- The bounds hold in every state that the run reaches exactly when no iteration counts at
the maximum. -/
theorem sinkCapsBounded_iff (b : Board) (es : List Event) :
    SinkCapsBounded b es ↔ AllSteps b (fun p e => p.stepWrapsQueryCount b e = false) es := by
  have hstart : CountTells setup.st.snkCapCount noQueries := .start
  have hnext := @Machine.along_next_iff_of_invariant _ _
    (Machine.observed (step b) (noteCapQueries b)) _ _
    (fun s : Port × CapQueries => CountTells s.1.st.snkCapCount s.2)
    (fun s e h => queriesBounded_step_iff b s.1 e h)
    (fun s e h => countTells_step b s.1 e h) (setup, noQueries) hstart es
  exact hnext.trans (Machine.along_observed (step b) (noteCapQueries b)
    (fun p e => p.stepWrapsQueryCount b e = false) _ es)

/-! A source whose sink never answers. -/

/-- Nothing is left to do in `PD_STATE_SRC_READY` but to count. -/
structure Waits (q : Port) (cc : CcReading) : Prop where
  task : q.pd.taskState = .srcReady
  last : q.pd.lastState = .srcReady
  timer : q.pd.timeout = 0
  role : q.pd.powerRole = .source
  polarity : q.pd.polarity = false
  suspend : q.pd.reqSuspendState = false
  vdm : q.pd.vdmState = .errTmout
  counts : q.countsQuery = true
  prRole : q.pd.flags.checkPrRole = false
  drRole : q.pd.flags.checkDrRole = false
  identity : q.pd.flags.checkIdentity = false
  ping : q.pd.flags.pingEnabled = false
  measured : q.chip.getCc cc q.st.cc1 q.st.cc2 = (q.st.cc1, q.st.cc2, q.chip)
  attached : q.st.cc1 ≠ .open

/-- The input of an iteration without a message. -/
def quietInput (now : Nat) (cc : CcReading) : Input where
  reset := false
  message := none
  cc := cc
  ccTail := cc
  time := fun _ => now

/-- The port with another count. -/
def withCount (q : Port) (c : Int) : Port := q.modifySt fun st => { st with snkCapCount := c }

theorem Waits.withCount {q : Port} {cc : CcReading} (h : q.Waits cc) (c : Int) :
    (q.withCount c).Waits cc :=
  ⟨h.task, h.last, h.timer, h.role, h.polarity, h.suspend, h.vdm, h.counts, h.prRole, h.drRole,
    h.identity, h.ping, h.measured, h.attached⟩

section

variable {q : Port} {cc : CcReading}

theorem Waits.beforeSwitch (h : q.Waits cc) (b : Board) (now : Nat) :
    q.beforeSwitch b (quietInput now cc) = q := by
  simp [Port.beforeSwitch, beforeMessage, applyReset, pdVdmSendStateMachine, h.vdm,
    checkBoardAndEvents_eq, receive, applySuspend, h.suspend, quietInput]

theorem Waits.finish (h : q.Waits cc) (now : Nat) :
    q.finish .srcReady (quietInput now cc) = q := by
  have hlast : q.setLast .srcReady = q := by
    have htask := h.last
    cases q with | mk pd st chip log =>
    cases pd
    simp_all [setLast, modifyPd]
  have hcc : q.tcpmGetCc cc = q := by
    simp [tcpmGetCc, h.measured, modifyChip, modifySt]
  simp [Port.finish, hlast, checkTimeout, h.timer, pdIsPowerSwapping, h.task, checkSourceDetach,
    h.role, quietInput, hcc, h.polarity, h.attached, checkSinkDetach_eq]

/-- The source asks no more and counts on. -/
theorem Waits.srcReady (h : q.Waits cc) (b : Board) {c : Int} (hc : pdSnkCapRetries ≤ c)
    (hlt : c < 2 ^ 31 - 1) : (q.withCount c).srcReady b = q.withCount (c + 1) := by
  obtain ⟨-, hupdate, hunheard⟩ : q.pd.vdmState ≠ .busy ∧
      q.pd.flags.updateSrcCaps = false ∧ q.pd.flags.snkCapRecvd = false := by
    simpa [countsQuery] using h.counts
  have hretries : pdSnkCapRetries = 3 := rfl
  have hnext : toInt32 (c + 1) = c + 1 := toInt32_succ_of_lt (by omega) hlt
  have hmore : ¬c + 1 ≤ pdSnkCapRetries := by omega
  simp [Port.srcReady, Port.withCount, evt, h.vdm, hupdate, hunheard, hnext, hmore, readyChecks,
    h.prRole, h.drRole, h.identity, srcPing, h.ping, modifySt]

/-- One iteration of such a source. -/
theorem Waits.step (h : q.Waits cc) (b : Board) (now : Nat) {c : Int} (hc : pdSnkCapRetries ≤ c)
    (hlt : c < 2 ^ 31 - 1) (m : CapQueries) :
    Machine.observed (Port.step b) (noteCapQueries b) (q.withCount c, m) (iterateAt now cc none) =
      (q.withCount (c + 1), m) := by
  have hc' := h.withCount c
  have hready := h.srcReady b hc hlt
  have hfinish := (h.withCount (c + 1)).finish now
  have hevent : iterateAt now cc none = .iterate (quietInput now cc) := rfl
  rw [hevent]
  refine Prod.ext ?_ ?_
  · simp only [Machine.observed, Port.step, pdRunStateMachine, hc'.beforeSwitch, runState, hc'.task,
      hready, hfinish]
  · simp only [Machine.observed, noteCapQueries, hc'.beforeSwitch, noteSwitch, hc'.task, runState,
      hready]
    have hsame : (q.withCount (c + 1)).sinkCapQueries = (q.withCount c).sinkCapQueries := rfl
    rw [hsame, Nat.sub_self, Nat.add_zero, Nat.add_zero, ite_self]

/-- Any number of them, whatever the time. -/
theorem Waits.run (h : q.Waits cc) (b : Board) (m : CapQueries) (times : List Nat) {c : Int}
    (hc : pdSnkCapRetries ≤ c) (hlt : c + times.length ≤ 2 ^ 31 - 1) :
    Machine.run (Machine.observed (Port.step b) (noteCapQueries b)) (q.withCount c, m)
        (times.map fun now => iterateAt now cc none) =
      (q.withCount (c + times.length), m) := by
  induction times generalizing c with
  | nil => simp
  | cons now times ih =>
      rw [List.length_cons] at hlt ⊢
      rw [List.map_cons, Machine.run_cons, h.step b now hc (by omega), ih (by omega) (by omega)]
      have hsum : c + 1 + (times.length : Int) = c + (times.length + 1 : Nat) := by omega
      rw [hsum]

/-- If it waits until the count is at the maximum, it asks a fourth time. -/
theorem Waits.not_sinkCapsBounded {b : Board} {es : List Event} {m : CapQueries}
    (hrun : Machine.run (Machine.observed (Port.step b) (noteCapQueries b)) (setup, noQueries) es =
      (q, m))
    (h : q.Waits cc) (htells : CountTells q.st.snkCapCount m)
    (hasked : pdSnkCapRetries ≤ q.st.snkCapCount) {times : List Nat}
    (hlen : q.st.snkCapCount + times.length = 2 ^ 31 - 1) (now : Nat) :
    ¬SinkCapsBounded b (es ++ (times.map fun now => iterateAt now cc none) ++
      [iterateAt now cc none]) := by
  intro hbounded
  have hlast := ((Machine.along_append_singleton _ _ _ _ _).1 hbounded).2
  have hwaited := h.run b m times hasked (by omega)
  have hself : q.withCount q.st.snkCapCount = q := rfl
  rw [hself] at hwaited
  rw [Machine.run_append, hrun, hwaited, hlen] at hlast
  have hmax := h.withCount (2 ^ 31 - 1)
  have hwraps : (q.withCount (2 ^ 31 - 1)).wrapsQueryCount = true :=
    decide_eq_true ⟨hmax.task, hmax.counts, rfl⟩
  have hfull : CountTells (2 ^ 31 - 1) m := htells.of_le hasked (by omega) (Int.le_refl _)
  have hevent : iterateAt now cc none = .iterate (quietInput now cc) := rfl
  rw [hevent] at hlast
  have hbefore := hmax.beforeSwitch b now
  have hnote : noteCapQueries b (q.withCount (2 ^ 31 - 1)) (.iterate (quietInput now cc)) m =
      (q.withCount (2 ^ 31 - 1)).noteSwitch b (quietInput now cc) m := by
    rw [noteCapQueries, hbefore]
  change QueriesBounded (_, noteCapQueries b (q.withCount (2 ^ 31 - 1))
    (.iterate (quietInput now cc)) m) at hlast
  rw [hnote] at hlast
  exact not_bounded_runState b _ _ hfull hwraps _ hlast

end

/-- A source that asks three times, and then for the identity of its sink. -/
def silentSink : List Event :=
  readyAsSource ++
    [290000, 291000, 391000, 392000, 393000, 493000, 494000, 495000, 595000, 600000, 600000,
      600000, 700000, 800000].map fun now => iterateAt now rdOnCc1 none

theorem waits_silentSink : (after .shipped silentSink).Waits rdOnCc1 := by
  constructor <;> decide +kernel

theorem run_silentSink :
    Machine.run (Machine.observed (step .shipped) (noteCapQueries .shipped)) (setup, noQueries)
      silentSink = (after .shipped silentSink, ⟨3, false, 0⟩) := by
  have hport := Machine.run_observed_fst (step .shipped) (noteCapQueries .shipped)
    (setup, noQueries) silentSink
  have hmemory : (Machine.run (Machine.observed (step .shipped) (noteCapQueries .shipped))
      (setup, noQueries) silentSink).2 = ⟨3, false, 0⟩ := by decide +kernel
  rw [after, ← hport, ← hmemory]

theorem count_silentSink : (after .shipped silentSink).st.snkCapCount = 7 := by decide +kernel

/-- Every millisecond an iteration, for 25 days: the sink is asked a fourth time. -/
theorem not_sinkCapsBounded_silentSink :
    ¬SinkCapsBounded .shipped (silentSink ++
      (((List.range 2147483640).map fun i => 810000 + 1000 * i).map fun now =>
        iterateAt now rdOnCc1 none) ++ [iterateAt 2147484450000 rdOnCc1 none]) := by
  have hcount := count_silentSink
  refine waits_silentSink.not_sinkCapsBounded run_silentSink ?_ ?_ ?_ _
  · rw [hcount]
    exact ⟨by decide, rfl, by decide, by decide, fun _ => by decide, fun h => by cases h⟩
  · rw [hcount]
    decide
  · rw [hcount, List.length_map, List.length_range]
    decide

end Port

end UsbPd
