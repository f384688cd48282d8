import UsbPd.Control.HardReset
import UsbPd.Frame.Step
import UsbPd.Machine.Observer

/-!
# Counting hard resets

`hard_reset_count` goes up in every iteration that runs `PD_STATE_HARD_RESET_SEND`,
while the signalling goes out only until `hard_reset_sent` is set. A source stays
in the state for 25 ms after that, so its count runs ahead of its hard resets.
-/

namespace UsbPd

/-- The hard resets that were sent. -/
def Port.hardResets (p : Port) : Nat := p.log.countP fun c => c.kind = .hardReset

theorem Does.hardResets_eq {W : List Part} {K : List CallKind} {p q : Port} (h : Does W K p q)
    (hK : .hardReset ∉ K) : q.hardResets = p.hardResets := by
  have hother : ∀ (c : Call) (log : List Call), c.kind ∈ K →
      (c :: log).countP (fun c => c.kind = .hardReset) =
        log.countP fun c => c.kind = .hardReset := by
    intro c log hc
    refine List.countP_cons_of_neg ?_
    rw [decide_eq_true_eq]
    intro hkind
    exact hK (hkind ▸ hc)
  exact Machine.Does.read_eq h hother

namespace Port

/-- The switch sets `hard_reset_count` to 0. -/
def clearsHardResetCount (p : Port) (inp : Input) : Bool :=
  match p.pd.taskState with
  | .snkDisconnected =>
    let p := p.tcpmGetCc inp.cc
    p.st.cc1 ≠ .open ∨ p.st.cc2 ≠ .open
  | .srcDisconnectedDebounce => (p.srcDisconnectedDebounce inp).pd.taskState = .srcStartup
  | .srcDiscovery => p.st.capsCount < pdCapsCount ∧ p.pd.txStatus = .success
  | .snkRequested => p.entering
  | _ => false

/-- The observer counts the hard resets that were sent since the count was last set
to 0. -/
def noteHardResets (b : Board) (p : Port) (e : Event) (sent : Nat) : Nat :=
  match e with
  | .iterate inp =>
    (if (p.beforeSwitch b inp).clearsHardResetCount inp then 0 else sent) +
      ((p.step b e).hardResets - p.hardResets)
  | _ => sent

def Counted (s : Port × Nat) : Prop := s.1.st.hardResetCount = s.2

/-- In every state that the run reaches, `hard_reset_count` is the number of hard
resets sent since it was last set to 0. -/
def HardResetsCounted (b : Board) (es : List Event) : Prop :=
  Machine.Along (Machine.observed (step b) (noteHardResets b))
    (fun s e => Counted (Machine.observed (step b) (noteHardResets b) s e)) (setup, 0) es

/-- The iteration runs `PD_STATE_HARD_RESET_SEND`: the port is in the state and the
message does not take it elsewhere, or a PS_RDY comes too early. -/
def runsHardResetSend (b : Board) (p : Port) (inp : Input) : Bool :=
  !inp.reset &&
    ((p.pd.taskState == .hardResetSend && !inp.message.any (p.interruptsReset b)) ||
      (p.pd.taskState == .snkDiscovery && inp.message.any (PdMsg.isCtrl · .psRdy)))

/-- The count goes up without a hard reset: the state ran before and its hard reset is
out, or the count wraps. -/
def miscounts (b : Board) (p : Port) : Event → Bool
  | .iterate inp => p.runsHardResetSend b inp &&
      ((p.pd.lastState == .hardResetSend && p.st.hardResetSent) ||
        2 ^ 31 - 1 ≤ p.st.hardResetCount)
  | _ => false

end Port

theorem toInt32_succ_eq_iff (n : Nat) : toInt32 (n + 1) = n + 1 ↔ ¬ (2 ^ 31 - 1 ≤ (n : Int)) := by
  unfold toInt32
  have hlt := Int.bmod_lt (x := (n : Int) + 1) (m := 2 ^ 32) (by decide)
  constructor
  · intro h hle
    omega
  · intro h
    exact Int.bmod_eq_of_le (by omega) (by omega)

theorem toInt32_succ_ne (n : Nat) : toInt32 (n + 1) ≠ n := by
  unfold toInt32 Int.bmod
  intro h
  simp only at h
  split at h <;> omega

namespace Control

variable {v w : Control}

/-- Only a PS_RDY that comes too early makes a message lead to a hard reset. -/
theorem Reaction.sends {kind : MsgKind} (h : Reaction v kind w) (hw : w.task = .hardResetSend) :
    w = v ∨ (kind = .ctrl (some .psRdy) ∧ v.task = .snkDiscovery) := by
  cases h with
  | ignored => exact .inl rfl
  | early hkind htask => exact .inr ⟨hkind, htask⟩
  | retryLater htask =>
      change v.task = .hardResetSend at hw
      rw [htask] at hw
      cases hw
  | tested | dataSwapOver | softAccepted | softReset =>
      simp only [executeSoftReset, readyReturnState, roleIfElse, setState_task] at hw
      cases hrole : v.role <;> simp [hrole] at hw
  | _ => simp at hw

theorem receive_early (htask : v.task = .snkDiscovery)
    (hw : w ∈ v.receive (some (.ctrl (some .psRdy)))) : w.task = .hardResetSend := by
  have hconn : v.connected = true := by
    unfold connected roleIfElse
    cases v.role <;> simp [htask]
  simp only [receive, handle, hconn, not_true, if_false] at hw
  obtain rfl := List.mem_singleton.1 hw
  simp [handleCtrl, handlePsRdy, htask]

end Control

namespace Port

variable {p : Port}

/-! The switch. -/

theorem hardResetCount_snkDisconnected (inp : Input) (h : p.pd.taskState = .snkDisconnected) :
    (p.snkDisconnected inp).st.hardResetCount =
      if p.clearsHardResetCount inp then 0 else p.st.hardResetCount := by
  unfold snkDisconnected clearsHardResetCount
  rw [h]
  simp only [decide_eq_true_eq]
  split_ifs <;> simp [tcpmGetCc]

/-- The debounce of a source clears the count exactly when it attaches. -/
theorem attach_hardResetCount (inp : Input) (h : p.pd.taskState = .srcDisconnectedDebounce) :
    ((p.srcDisconnectedDebounce inp).pd.taskState = .srcStartup ∧
        (p.srcDisconnectedDebounce inp).st.hardResetCount = 0) ∨
      ((p.srcDisconnectedDebounce inp).pd.taskState ≠ .srcStartup ∧
        (p.srcDisconnectedDebounce inp).st.hardResetCount = p.st.hardResetCount) := by
  unfold srcDisconnectedDebounce
  cases hcc : (p.tcpmGetCc inp.cc).srcCcState with
  | none =>
      simp only [hcc]
      simp [tcpmGetCc]
  | some newCcState =>
      simp only [hcc]
      split_ifs
      · simp [h, tcpmGetCc]
      · simp [h, tcpmGetCc]
      · simp [attachSink]
      · simp [h, tcpmGetCc]

theorem hardResetCount_srcDiscovery (b : Board) (inp : Input) (h : p.pd.taskState = .srcDiscovery) :
    (p.srcDiscovery b inp).st.hardResetCount =
      if p.clearsHardResetCount inp then 0 else p.st.hardResetCount := by
  unfold clearsHardResetCount
  rw [h]
  simp only [decide_eq_true_eq]
  unfold srcDiscovery
  simp only
  generalize hq : (if p.entering = true ∧ p.pd.flags.previousPdConn = true then _ else p : Port) = q
  have hst : q.st = p.st ∧ q.pd.txStatus = p.pd.txStatus := by
    rw [← hq]
    split <;> simp
  have hsent : 0 ≤ (q.sendSourceCap b).1 ↔ p.pd.txStatus = .success := by
    rw [sendSourceCap_nonneg, ← hst.2]
    simp [control]
  rw [hst.1]
  split_ifs <;> simp_all

/-- What the switch does to the count, except in `PD_STATE_HARD_RESET_SEND`. -/
theorem hardResetCount_runState (b : Board) (inp : Input) (h : p.pd.taskState ≠ .hardResetSend) :
    (p.runState b inp).st.hardResetCount =
      if p.clearsHardResetCount inp then 0 else p.st.hardResetCount := by
  have hdoes := p.does_runState b inp
  cases htask : p.pd.taskState with
  | hardResetSend => exact absurd htask h
  | snkDisconnected =>
      simp only [runState, htask]
      exact hardResetCount_snkDisconnected inp htask
  | srcDiscovery =>
      simp only [runState, htask]
      exact hardResetCount_srcDiscovery b inp htask
  | srcDisconnectedDebounce =>
      simp only [runState, htask, clearsHardResetCount, decide_eq_true_eq]
      rcases attach_hardResetCount inp htask with ⟨hattached, hcount⟩ | ⟨hstays, hcount⟩
      · rw [if_pos hattached, hcount]
      · rw [if_neg hstays, hcount]
  | snkRequested =>
      simp only [runState, htask, clearsHardResetCount, snkRequested]
      split_ifs <;> simp
  | _ =>
      rw [htask] at hdoes
      simp only [clearsHardResetCount, htask]
      exact hdoes.keeps .hardResetCount (by decide)

theorem hardResets_pdTransmit (q : Port) :
    (q.pdTransmit .hardReset 0 []).2.hardResets = q.hardResets + 1 := by
  simp [hardResets, pdTransmit, pdCommIsEnabled, record, Call.kind]

/-- The signalling goes out until it was started once. -/
theorem hardResets_sendHardReset (q : Port) (inp : Input) :
    (q.sendHardReset inp).hardResets = q.hardResets + if q.st.hardResetSent then 0 else 1 := by
  have hsent := q.hardResets_pdTransmit
  unfold sendHardReset
  simp only
  split_ifs
  · rfl
  · exact hsent
  · exact hsent
  · have hstate := does_setState_of_ne (s := .hardResetExecute)
      ((q.pdTransmit .hardReset 0 []).2.modifySt fun st => { st with hardResetSent := true })
      (by decide)
    exact (Does.hardResets_eq hstate (by decide)).trans hsent

theorem hardResetCount_sendHardReset (q : Port) (inp : Input) :
    (q.sendHardReset inp).st.hardResetCount = q.st.hardResetCount :=
  (q.does_sendHardReset inp).keeps .hardResetCount (by decide)

/-- `PD_STATE_HARD_RESET_SEND` counts whether or not it sends. -/
theorem runState_hardResetSend (b : Board) (inp : Input) (h : p.pd.taskState = .hardResetSend) :
    (p.runState b inp).st.hardResetCount = toInt32 (p.st.hardResetCount + 1) ∧
      (p.runState b inp).hardResets = p.hardResets +
        if p.pd.lastState = .hardResetSend ∧ p.st.hardResetSent then 0 else 1 := by
  simp only [runState, h]
  unfold hardResetSend
  generalize hr : (p.modifySt _ : Port) = r
  obtain ⟨hpd, hcount, hsent, hlog⟩ : r.pd = p.pd ∧
      r.st.hardResetCount = toInt32 (p.st.hardResetCount + 1) ∧
      r.st.hardResetSent = (p.st.hardResetSent && !p.entering) ∧ r.hardResets = p.hardResets := by
    rw [← hr]
    exact ⟨rfl, rfl, rfl, rfl⟩
  simp only
  generalize hq : (if r.pd.lastState = .snkDiscovery ∨
      (r.pd.lastState = .softReset ∧ r.pd.flags.vbusNeverLow = true) then _ else r : Port) = q
  have hst : q.st = r.st ∧ q.hardResets = r.hardResets := by
    rw [← hq]
    split <;> exact ⟨rfl, rfl⟩
  rw [hardResetCount_sendHardReset, hardResets_sendHardReset, hst.1, hst.2, hcount, hsent, hlog]
  simp [entering, h, and_comm]

/-! The rest of an iteration. -/

/-- A message leaves the port in `PD_STATE_HARD_RESET_SEND`, or a PS_RDY that comes too
early leads there. -/
theorem sending_of_receive {b : Board} {m : PdMsg} {w : Control}
    (hreceive : w ∈ p.control.receive (some (m.kind b))) (htask : w.task = .hardResetSend) :
    (p.pd.taskState = .hardResetSend ∧ p.interruptsReset b m = false) ∨
      (p.pd.taskState = .snkDiscovery ∧ m.isCtrl .psRdy = true) := by
  have hstays : w = p.control →
      p.pd.taskState = .hardResetSend ∧ p.interruptsReset b m = false := by
    intro hsame
    have htask' : p.control.task = .hardResetSend := hsame ▸ htask
    refine ⟨htask', Bool.eq_false_iff.2 fun hinterrupts => ?_⟩
    exact p.control.task_ne_of_interrupts hreceive htask' (by simp [Control.resetStates])
      (kind_of_interruptsReset hinterrupts) htask
  rcases Control.receive_reaction _ hreceive with hsame | ⟨kind, hkind, -, hreaction⟩
  · exact .inl (hstays hsame)
  · rcases hreaction.sends htask with hsame | ⟨rfl, hdiscovery⟩
    · exact .inl (hstays hsame)
    · exact .inr ⟨hdiscovery, PdMsg.isCtrl_of_kind (Option.some.inj hkind)⟩

theorem sending_receive {b : Board} {m : PdMsg} {w : Control}
    (hreceive : w ∈ p.control.receive (some (m.kind b)))
    (h : (p.pd.taskState = .hardResetSend ∧ p.interruptsReset b m = false) ∨
      (p.pd.taskState = .snkDiscovery ∧ m.isCtrl .psRdy = true)) : w.task = .hardResetSend := by
  rcases h with ⟨htask, hquiet⟩ | ⟨htask, hpsrdy⟩
  · change p.control.task = _ at htask
    rcases Control.receive_reaction _ hreceive with hsame | ⟨kind, hkind, -, hreaction⟩
    · rw [hsame]
      exact htask
    · obtain rfl := Option.some.inj hkind
      rw [Control.ResetCarried.reaction_pending (.inl htask) hreaction
        (Control.not_softReset_of_quiet hquiet) (Control.source_of_quiet hquiet)
        (Control.granted_of_quiet hquiet)]
      exact htask
  · rw [PdMsg.kind_of_isCtrl b hpsrdy] at hreceive
    exact Control.receive_early htask hreceive

/-- Whether the switch runs `PD_STATE_HARD_RESET_SEND` is decided by the state and the
message. -/
theorem runsHardResetSend_iff (b : Board) (hawake : p.control.suspending = false) (inp : Input) :
    (p.beforeSwitch b inp).pd.taskState = .hardResetSend ↔ p.runsHardResetSend b inp = true := by
  have hreceive := (p.beforeMessage inp).control_receive_mem b inp
  rw [control_beforeMessage, ← beforeSwitch_eq hawake] at hreceive
  generalize p.beforeSwitch b inp = q at hreceive ⊢
  change q.control.task = .hardResetSend ↔ _
  unfold runsHardResetSend
  cases hreset : inp.reset with
  | true =>
      rw [hreset] at hreceive
      refine iff_of_false (fun htask => ?_) (by simp)
      rcases Control.receive_reaction _ hreceive with hsame | ⟨kind, -, -, hreaction⟩
      · rw [hsame] at htask
        cases htask
      · rcases hreaction.sends htask with hsame | ⟨-, hdiscovery⟩
        · rw [hsame] at htask
          cases htask
        · cases hdiscovery
  | false =>
      rw [hreset] at hreceive
      change q.control ∈ p.control.receive _ at hreceive
      cases hmessage : inp.message with
      | none =>
          rw [hmessage] at hreceive
          obtain hsame := List.mem_singleton.1 hreceive
          rw [hsame]
          simp [control]
      | some m =>
          rw [hmessage, Option.map_some] at hreceive
          have hiff := Iff.intro (sending_of_receive hreceive) (sending_receive hreceive)
          simpa only [Bool.not_false, Bool.true_and, Option.any_some, Bool.or_eq_true,
            Bool.and_eq_true, beq_iff_eq, Bool.not_eq_true'] using hiff

theorem counted_iterate (b : Board) (hawake : p.control.suspending = false) (inp : Input)
    {sent : Nat} (h : p.st.hardResetCount = sent) :
    (p.step b (.iterate inp)).st.hardResetCount = p.noteHardResets b (.iterate inp) sent ↔
      p.miscounts b (.iterate inp) = false := by
  have hbefore := p.does_beforeSwitch b inp
  have hfinish := ((p.beforeSwitch b inp).runState b inp).does_finish
    (p.beforeSwitch b inp).pd.taskState inp
  have hcount : (p.step b (.iterate inp)).st.hardResetCount =
      ((p.beforeSwitch b inp).runState b inp).st.hardResetCount :=
    hfinish.keeps .hardResetCount (by decide)
  have hsent : (p.step b (.iterate inp)).hardResets =
      ((p.beforeSwitch b inp).runState b inp).hardResets :=
    Does.hardResets_eq hfinish (by decide)
  have hcount' : (p.beforeSwitch b inp).st.hardResetCount = p.st.hardResetCount :=
    hbefore.keeps .hardResetCount (by decide)
  have hsent' : (p.beforeSwitch b inp).hardResets = p.hardResets :=
    Does.hardResets_eq hbefore (by decide)
  have hlast : (p.beforeSwitch b inp).pd.lastState = p.pd.lastState :=
    hbefore.keeps .last (by decide)
  have hmark : (p.beforeSwitch b inp).st.hardResetSent = p.st.hardResetSent :=
    hbefore.keeps .hardResetSent (by decide)
  simp only [noteHardResets, miscounts, hcount, hsent]
  by_cases htask : (p.beforeSwitch b inp).pd.taskState = .hardResetSend
  · obtain ⟨hup, hnew⟩ := runState_hardResetSend b inp htask
    rw [(runsHardResetSend_iff b hawake inp).1 htask, hup, hnew, hcount', hsent', hlast, hmark, h]
    have hkeeps : (p.beforeSwitch b inp).clearsHardResetCount inp = false := by
      simp [clearsHardResetCount, htask]
    rw [hkeeps]
    have hwrap := toInt32_succ_eq_iff sent
    by_cases hlate : p.pd.lastState = .hardResetSend ∧ p.st.hardResetSent = true
    · have hlate' : (p.pd.lastState == .hardResetSend && p.st.hardResetSent) = true := by
        simpa using hlate
      refine iff_of_false (fun heq => toInt32_succ_ne sent ?_) (by simp [hlate'])
      simpa [hlate] using heq
    · have hlate' : (p.pd.lastState == .hardResetSend && p.st.hardResetSent) = false := by
        rw [← Bool.not_eq_true, Bool.and_eq_true, beq_iff_eq]
        exact hlate
      rw [if_neg hlate, hlate', Nat.add_sub_cancel_left]
      simpa using hwrap
  · have hruns : p.runsHardResetSend b inp = false := by
      rw [← Bool.not_eq_true, ← runsHardResetSend_iff b hawake]
      exact htask
    have hnew : ((p.beforeSwitch b inp).runState b inp).hardResets = p.hardResets := by
      refine (Does.hardResets_eq (does_runState _ b inp) ?_).trans hsent'
      generalize (p.beforeSwitch b inp).pd.taskState = s at htask
      cases s <;> first | exact absurd rfl htask | decide
    rw [hruns, hardResetCount_runState b inp htask, hnew, hcount', h]
    simp only [Nat.sub_self, Nat.add_zero, Bool.false_and, iff_true]
    split <;> rfl

theorem awake_step {b : Board} (h : p.control.suspending = false) (e : Event) :
    (p.step b e).control.suspending = false :=
  ((Control.awake_invariant b).port_step h h trivial).1

/-- The count is right in every state that the run reaches exactly when no iteration
counts without sending. -/
theorem hardResetsCounted_iff (b : Board) (es : List Event) :
    HardResetsCounted b es ↔ AllSteps b (fun p e => p.miscounts b e = false) es := by
  have hstep : ∀ (p : Port) (sent : Nat) (e : Event), p.control.suspending = false →
      Counted (p, sent) → (Counted (Machine.observed (step b) (noteHardResets b) (p, sent) e) ↔
        p.miscounts b e = false) := by
    intro p sent e hawake hcount
    have hcall : e.iterates = false → (p.step b e).st.hardResetCount = sent := fun he =>
      ((does_call p b he).keeps .hardResetCount (by cases e <;> simp [Event.writes])).trans hcount
    change (p.step b e).st.hardResetCount = p.noteHardResets b e sent ↔ _
    cases e with
    | iterate inp => exact counted_iterate b hawake inp hcount
    | _ => exact iff_of_true (hcall rfl) rfl
  exact Machine.along_observed_iff (fun p e h => awake_step h e) hstep (awake_after b []) rfl es

/-- A source whose capabilities stay without a Request, in its second iteration of
`PD_STATE_HARD_RESET_SEND`. -/
def sourceResets : List Event :=
  attachAsSource ++ [iterateAt 600000 rdOnCc1 none, iterateAt 900000 rdOnCc1 none,
    iterateAt 900000 rdOnCc1 none, iterateAt 900000 rdOnCc1 none, iterateAt 1000000 rdOnCc1 none,
    iterateAt 1000000 rdOnCc1 none, iterateAt 1010000 rdOnCc1 none]

/-- The source counts two hard resets and has sent one. -/
theorem not_hardResetsCounted_sourceResets : ¬ HardResetsCounted .shipped sourceResets := by
  unfold HardResetsCounted Counted
  decide +kernel

end Port

end UsbPd
