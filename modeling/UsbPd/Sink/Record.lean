import UsbPd.Control.Rest
import UsbPd.Frame.Step
import UsbPd.Machine.Observer
import UsbPd.Sink.Request
import UsbPd.Sink.Wait

/-!
# The contract record

`pd_send_request_msg` writes the current and the voltage of a Request to the
fields that describe the contract before the Request is sent. Nothing restores
them when the Request fails or is refused.
-/

namespace UsbPd

/-- `curr_limit`, `supply_voltage` and `prev_request_mv`. -/
structure ContractRecord where
  currLimit : Nat
  supplyVoltage : Nat
  prevRequestMv : Nat
  deriving DecidableEq

def Port.contractRecord (p : Port) : ContractRecord where
  currLimit := p.pd.currLimit
  supplyVoltage := p.pd.supplyVoltage
  prevRequestMv := p.pd.prevRequestMv

/-- The record that a Request leaves. -/
def PowerRequest.record (r : PowerRequest) : ContractRecord where
  currLimit := r.currLimit
  supplyVoltage := r.supplyVoltage
  prevRequestMv := r.supplyVoltage

/-- A call of `pd_send_request_msg`. -/
structure RequestCall where
  port : Port
  alwaysSendRequest : Bool

namespace RequestCall

variable (c : RequestCall)

/-- What it returns. -/
def result : Int := (c.port.pdSendRequestMsg c.alwaysSendRequest).1

/-- The port afterwards. -/
def returned : Port := (c.port.pdSendRequestMsg c.alwaysSendRequest).2

/-- The Request is not skipped as requested already. -/
def sends : Bool :=
  c.alwaysSendRequest || c.port.selection.request.supplyVoltage != c.port.pd.prevRequestMv

/-- `pd_transmit` reports an error. -/
def fails : Bool := c.sends && c.port.pd.txStatus != .success

end RequestCall

namespace Port

/-- The port as new capabilities are requested from. -/
def offered (p : Port) (payload : List Word) : Port :=
  ((p.setFlags { p.pd.flags with previousPdConn := true }).pdUpdatePdoFlags
    (firstObject payload)).pdProcessSourceCap payload

/-- The call on new capabilities. -/
def capsCalls (p : Port) (inp : Input) : List RequestCall :=
  match inp.message with
  | none => []
  | some m =>
    if m.isData .sourceCap ∧ (p.dispatching inp m).takesCaps then
      [⟨(p.dispatching inp m).offered m.payload, true⟩]
    else []

/-- The call of `PD_STATE_SNK_READY`. -/
def readyCalls (p : Port) : List RequestCall :=
  if p.pd.taskState = .snkReady ∧ p.pd.vdmState ≠ .busy ∧ p.pd.newPowerRequest then
    [⟨p, false⟩]
  else []

/-- The calls of `pd_send_request_msg` in a step. -/
def requestCalls (b : Board) (p : Port) : Event → List RequestCall
  | .iterate inp => p.capsCalls inp ++ (p.beforeSwitch b inp).readyCalls
  | _ => []

/-- A Wait postpones the Request in this step. -/
def postpones (p : Port) (e : Event) : Bool :=
  e.received.any fun r => r.2.isCtrl .wait && (p.dispatching r.1 r.2).takesWait

/-- The message refuses a Request under a contract. -/
def refuses (p : Port) (r : Input × PdMsg) : Bool :=
  r.2.isCtrl .reject && (p.dispatching r.1 r.2).takesWait

end Port

/-- What an observer of the sink remembers. -/
structure Asked where
  /-- the record before the last Request -/
  before : ContractRecord
  /-- the last Request -/
  request : PowerRequest
  /-- a Wait has answered it -/
  postponed : Bool

namespace Asked

/-- Before any Request. -/
def none : Asked where
  before := ⟨0, 0, 0⟩
  request := ⟨0, 0, 0⟩
  postponed := false

/-- The record while the Request waits for its answer. -/
def pending (a : Asked) : ContractRecord :=
  if a.postponed then { a.request.record with prevRequestMv := 0 } else a.request.record

/-- A Wait clears `prev_request_mv`. -/
theorem pending_postponed (a : Asked) :
    { a.pending with prevRequestMv := 0 } = pending { a with postponed := true } := by
  obtain ⟨before, request, postponed⟩ := a
  cases postponed <;> rfl

/-- The memory after a step. -/
def note (b : Board) (p : Port) (e : Event) (a : Asked) : Asked :=
  match ((p.requestCalls b e).filter RequestCall.sends).getLast? with
  | some c => ⟨c.port.contractRecord, c.port.selection.request, false⟩
  | .none => if p.postpones e then { a with postponed := true } else a

end Asked

/-- A Request that fails or is refused in this step leaves the record as it was
before the Request. -/
structure RecordIntact (b : Board) (s : Port × Asked) (e : Event) : Prop where
  failed : ∀ c ∈ s.1.requestCalls b e, c.result ≠ 0 →
    c.returned.contractRecord = c.port.contractRecord
  refused : ∀ r ∈ e.received, s.1.refuses r = true →
    ((s.1.dispatching r.1 r.2).handleRequest b (r.1.time .message) r.2).contractRecord = s.2.before

/-- A Request that fails or is refused in this step asked for what the record held
before it. -/
structure RecordRepeated (b : Board) (s : Port × Asked) (e : Event) : Prop where
  failed : ∀ c ∈ s.1.requestCalls b e, c.fails = true →
    c.port.selection.request.record = c.port.contractRecord
  refused : ∀ r ∈ e.received, s.1.refuses r = true → s.2.pending = s.2.before

instance decidableRecordIntact (b : Board) (s : Port × Asked) (e : Event) :
    Decidable (RecordIntact b s e) :=
  have : Decidable (∀ r ∈ e.received, s.1.refuses r = true →
      ((s.1.dispatching r.1 r.2).handleRequest b (r.1.time .message) r.2).contractRecord =
        s.2.before) := inferInstance
  decidable_of_iff ((∀ c ∈ s.1.requestCalls b e, c.result ≠ 0 →
      c.returned.contractRecord = c.port.contractRecord) ∧ _)
    ⟨fun ⟨hfailed, hrefused⟩ => ⟨hfailed, hrefused⟩, fun h => ⟨h.failed, h.refused⟩⟩

namespace RequestCall

variable (c : RequestCall)

/-- A call that sends records the Request first. -/
theorem returned_of_sends (h : c.sends = true) :
    c.returned.contractRecord = c.port.selection.request.record ∧
      (c.result ≠ 0 ↔ c.port.pd.txStatus ≠ .success) := by
  have hsends : ¬ (c.alwaysSendRequest = false ∧
      c.port.clearNewPowerRequest.pd.prevRequestMv = c.port.selection.request.supplyVoltage) := by
    rintro ⟨halways, hprev⟩
    change c.port.pd.prevRequestMv = _ at hprev
    simp [sends, halways, hprev] at h
  unfold returned result
  rw [Port.pdSendRequestMsg_eq]
  change (c.port.clearNewPowerRequest.sendBuiltRequest c.alwaysSendRequest
      c.port.selection.request).2.contractRecord = _ ∧
    ((c.port.clearNewPowerRequest.sendBuiltRequest c.alwaysSendRequest
      c.port.selection.request).1 ≠ 0 ↔ _)
  unfold Port.sendBuiltRequest
  rw [if_neg hsends]
  simp only
  have hneg := (c.port.clearNewPowerRequest.setRequestedPower
    c.port.selection.request.currLimit c.port.selection.request.supplyVoltage).sendRequest_neg
      c.port.selection.request.rdo
  by_cases htx : c.port.pd.txStatus = .success
  · rw [if_neg (by rw [hneg]; simp [Port.control, htx])]
    exact ⟨by simp [Port.contractRecord, PowerRequest.record], by simp [htx]⟩
  · have hfail := hneg.2 (by simp [Port.control, htx])
    rw [if_pos hfail]
    refine ⟨rfl, iff_of_true ?_ htx⟩
    omega

theorem of_skipped (h : c.sends = false) :
    c.port.pdSendRequestMsg c.alwaysSendRequest = (0, c.port.clearNewPowerRequest) := by
  have hskip : c.alwaysSendRequest = false ∧
      c.port.selection.request.supplyVoltage = c.port.pd.prevRequestMv := by
    simpa [sends] using h
  rw [Port.pdSendRequestMsg_eq]
  change c.port.clearNewPowerRequest.sendBuiltRequest c.alwaysSendRequest
    c.port.selection.request = _
  unfold Port.sendBuiltRequest
  rw [if_pos ⟨hskip.1, hskip.2.symm⟩]

theorem result_of_skipped (h : c.sends = false) : c.result = 0 :=
  congrArg Prod.fst (c.of_skipped h)

theorem returned_of_skipped (h : c.sends = false) :
    c.returned = c.port.clearNewPowerRequest :=
  congrArg Prod.snd (c.of_skipped h)

theorem result_ne_zero : c.result ≠ 0 ↔ c.fails = true := by
  unfold fails
  cases h : c.sends with
  | true => simp [(c.returned_of_sends h).2]
  | false => simp [c.result_of_skipped h]

/-- A failed Request leaves the record intact when it repeats it. -/
theorem intact_iff : (c.result ≠ 0 → c.returned.contractRecord = c.port.contractRecord) ↔
    (c.fails = true → c.port.selection.request.record = c.port.contractRecord) := by
  rw [result_ne_zero]
  refine imp_congr_right fun hfails => ?_
  have hsends : c.sends = true := by
    unfold fails at hfails
    simp only [Bool.and_eq_true] at hfails
    exact hfails.1
  rw [(c.returned_of_sends hsends).1]

end RequestCall

/-! What leaves the record alone. -/

theorem Effects.selection_eq {p q : Port} (h : Effects False p q) : q.selection = p.selection := by
  induction h with
  | refl => rfl
  | tail _ hlast ih =>
      cases hlast with
      | assign htracked => exact (congrArg Tracked.selection htracked).trans ih
      | call | resetMsgId | transmit => exact ih
      | negotiate hR => exact hR.elim
      | request hR => exact hR.elim

/-! The ways to `PD_STATE_SNK_REQUESTED`. -/

namespace Control

variable {v w : Control}

/-- Only new capabilities lead to `PD_STATE_SNK_REQUESTED`. -/
theorem task_of_reaction {kind : MsgKind} (h : Reaction v kind w)
    (hcaps : ∀ a, kind = .data (some .sourceCap) a → v.task ≠ .snkDiscovery ∧
      v.task ≠ .snkTransition ∧ v.task ≠ .snkReady)
    (hw : w.task = .snkRequested) : v.task = .snkRequested := by
  cases h with
  | requested hkind htask =>
      obtain ⟨hdiscovery, htransition, hready⟩ := hcaps _ hkind
      rcases htask with htask | htask | htask
      · exact absurd htask hdiscovery
      · exact absurd htask htransition
      · exact absurd htask hready
  | ignored => exact hw
  | retryLater htask => exact htask
  | tested | softAccepted | softReset | dataSwapOver =>
      simp only [executeSoftReset, readyReturnState, roleIfElse,
        setState_task] at hw
      cases hrole : v.role <;> simp [hrole] at hw
  | _ => simp at hw

theorem moves_requested : ∀ s, .snkRequested ∈ moves s → s = .snkReady := by
  intro s
  cases s <;> decide

/-- The switch leads to it from `PD_STATE_SNK_READY` only. -/
theorem task_of_outcome (h : Outcome v w) (hready : v.task ≠ .snkReady)
    (hw : w.task = .snkRequested) : v.task = .snkRequested := by
  cases h with
  | moves hs =>
      rw [setState_task] at hw
      exact absurd (moves_requested _ (hw ▸ hs)) hready
  | executesReset =>
      rw [executeHardReset_eq] at hw
      split at hw <;> cases hrole : v.role <;> simp [hrole, setPull] at hw
  | _ => first | exact hw | simp [attachSource, attachSink, setFew, setPull] at hw

end Control

namespace Port

variable {p q : Port}

theorem contractRecord_of_selection (h : q.selection = p.selection) :
    q.contractRecord = p.contractRecord := by
  have hcurr := congrArg Selection.currLimit h
  have hvolt := congrArg Selection.supplyVoltage h
  have hprev := congrArg Selection.prevRequestMv h
  simp only [selection] at hcurr hvolt hprev
  simp [contractRecord, hcurr, hvolt, hprev]

theorem contractRecord_of_does {W : List Part} {K : List CallKind} (h : Does W K p q)
    (hW : .power ∉ W) : q.contractRecord = p.contractRecord := by
  have hpower := h.keeps .power hW
  obtain ⟨hcurr, hrest⟩ := Prod.mk.inj hpower
  obtain ⟨hvolt, hprev⟩ := Prod.mk.inj hrest
  simp [contractRecord, hcurr, hvolt, hprev]

theorem contractRecord_dispatching (p : Port) (inp : Input) (m : PdMsg) :
    (p.dispatching inp m).contractRecord = p.contractRecord :=
  contractRecord_of_does ((p.does_beforeMessage inp).trans (does_record _ (.received m)))
    (by simp)

/-- The port with the record that the answer is awaited for. -/
structure Awaits (p : Port) (a : Asked) : Prop where
  rests : p.control.Rests
  pending : p.pd.taskState = .snkRequested → p.contractRecord = a.pending

theorem task_beforeMessage (p : Port) (inp : Input)
    (h : (p.beforeMessage inp).pd.taskState = .snkRequested) : p.pd.taskState = .snkRequested := by
  have htask := congrArg Control.task (p.control_beforeMessage inp)
  change (p.beforeMessage inp).pd.taskState = (p.control.applyReset inp.reset).task at htask
  rw [htask] at h
  cases hr : inp.reset with
  | true => simp [hr, Control.applyReset] at h
  | false =>
      rw [hr] at h
      exact h

/-- The memory after the message of an iteration. -/
def heard (p : Port) (inp : Input) (a : Asked) : Asked :=
  match p.capsCalls inp with
  | c :: _ => ⟨c.port.contractRecord, c.port.selection.request, false⟩
  | [] => if p.postpones (.iterate inp) then { a with postponed := true } else a

/-- New capabilities are requested from, and the Request leaves its record. -/
theorem contractRecord_handleSourceCap (htakes : p.takesCaps = true) (payload : List Word) :
    (p.handleSourceCap payload).contractRecord =
      (p.offered payload).selection.request.record := by
  unfold handleSourceCap
  rw [if_pos (by simpa [takesCaps] using htakes)]
  have hsends : (⟨p.offered payload, true⟩ : RequestCall).sends = true := by
    simp [RequestCall.sends]
  exact (RequestCall.returned_of_sends _ hsends).1

/-- The Request for new capabilities writes its record and leaves the table alone. -/
theorem does_requestOffered (htakes : p.takesCaps = true) (payload : List Word) :
    Does [.newPowerRequest, .power, .chip, .task, .timer, .maxIndex] [.request]
      (p.offered payload) (p.handleSourceCap payload) := by
  have hcallback : ∀ r : Port, Does [.maxIndex] [] r
      (r.pdProcessSourceCapCallback payload.length) := fun r =>
    .assign (by rintro ⟨⟩ hx <;> first | rfl | simp at hx) rfl
  unfold handleSourceCap
  rw [if_pos (by simpa [takesCaps] using htakes)]
  exact ((does_pdSendRequestMsg _ true).trans (hcallback _)).mono (by decide)

/-- Neither new capabilities nor a postponing Wait. -/
theorem awaits_handled {a : Asked} {m : PdMsg} (h : p.Awaits a) (b : Board) (now : Nat)
    (hcaps : ¬ (m.isData .sourceCap = true ∧ p.takesCaps = true))
    (hwait : ¬ (m.isCtrl .wait = true ∧ p.takesWait = true))
    (htask : (p.handleRequest b now m).pd.taskState = .snkRequested) :
    (p.handleRequest b now m).contractRecord = a.pending := by
  have hquiet : Effects False p (p.handleRequest b now m) := by
    refine .handleRequest .refl b now m fun hnegotiates => ?_
    simp only [negotiates, Bool.and_eq_true, Bool.or_eq_true] at hnegotiates
    rcases hnegotiates.2 with h' | h'
    · exact hcaps h'
    · exact hwait h'
  rw [contractRecord_of_selection hquiet.selection_eq]
  refine h.pending ?_
  have hmem : (p.handleRequest b now m).control ∈ p.control.receive (some (m.kind b)) :=
    p.control_handleRequest_mem b now m
  rcases Control.receive_reaction _ hmem with heq | ⟨k, hk, -, hreaction⟩
  · exact (congrArg Control.task heq).symm.trans htask
  · obtain rfl := Option.some.inj hk
    refine Control.task_of_reaction hreaction (fun acceptable hkind => ?_) htask
    have hm : m.isData .sourceCap = true := PdMsg.isData_of_kind hkind
    simpa [takesCaps, hm] using hcaps

namespace Awaits

variable {a : Asked}

theorem beforeMessage (h : p.Awaits a) (inp : Input) : (p.beforeMessage inp).Awaits a where
  rests := by
    rw [control_beforeMessage]
    exact h.rests.applyReset inp.reset
  pending := fun htask => by
    rw [contractRecord_of_does (p.does_beforeMessage inp) (by decide)]
    exact h.pending (p.task_beforeMessage inp htask)

/-- The message keeps the record of the Request that awaits its answer. -/
theorem receive (h : p.Awaits a) (b : Board) (inp : Input) :
    ((p.beforeMessage inp).receive b inp).Awaits (p.heard inp a) where
  rests := by
    have hmem := (p.beforeMessage inp).control_receive_mem b inp
    rw [control_beforeMessage] at hmem
    exact (h.rests.applyReset inp.reset).receive hmem
  pending := by
    intro htask
    have hbefore := h.beforeMessage inp
    unfold Port.receive at htask ⊢
    cases hm : inp.message with
    | none =>
        have hquiet : p.heard inp a = a := by
          simp [heard, capsCalls, postpones, Event.received, hm]
        rw [hm] at htask
        rw [hquiet]
        exact hbefore.pending htask
    | some m =>
        rw [hm] at htask
        change ((p.dispatching inp m).handleRequest b (inp.time .message) m).pd.taskState = _
          at htask
        change ((p.dispatching inp m).handleRequest b (inp.time .message) m).contractRecord = _
        have hawaits : (p.dispatching inp m).Awaits a := ⟨hbefore.rests, hbefore.pending⟩
        by_cases hcaps : m.isData .sourceCap = true ∧ (p.dispatching inp m).takesCaps = true
        · have hheard : p.heard inp a = ⟨((p.dispatching inp m).offered m.payload).contractRecord,
              ((p.dispatching inp m).offered m.payload).selection.request, false⟩ := by
            simp [heard, capsCalls, hm, hcaps]
          rw [hheard, handleRequest_sourceCap _ _ _ hcaps.1,
            if_pos (pdIsConnected_of_takesCaps hcaps.2), contractRecord_handleSourceCap hcaps.2]
          rfl
        · have hcalls : p.capsCalls inp = [] := by
            simp only [capsCalls, hm]
            exact if_neg hcaps
          by_cases hwait : m.isCtrl .wait = true ∧ (p.dispatching inp m).takesWait = true
          · have hheard : p.heard inp a = { a with postponed := true } := by
              simp [heard, hcalls, postpones, Event.received, hm, hwait]
            have hpending : (p.dispatching inp m).contractRecord = a.pending := by
              refine hawaits.pending ?_
              simp only [takesWait, decide_eq_true_eq] at hwait
              exact hwait.2.1
            rw [hheard, handleRequest_wait_takes b _ hwait.1 hwait.2]
            change { (p.dispatching inp m).contractRecord with prevRequestMv := 0 } = _
            rw [hpending, a.pending_postponed]
          · have hheard : p.heard inp a = a := by
              simp only [heard, hcalls]
              rw [if_neg (by simpa [postpones, Event.received, hm] using hwait)]
            rw [hheard]
            exact awaits_handled hawaits b _ hcaps hwait htask

theorem applySuspend (h : p.Awaits a) : p.applySuspend.Awaits a where
  rests := by
    rw [control_applySuspend]
    unfold Control.applySuspend
    split_ifs
    · exact .setState _ _
    · exact h.rests
  pending := fun htask => by
    rw [contractRecord_of_does p.does_applySuspend (by decide)]
    unfold Port.applySuspend at htask
    split_ifs at htask
    · simp at htask
    · exact h.pending htask

theorem beforeSwitch (h : p.Awaits a) (b : Board) (inp : Input) :
    (p.beforeSwitch b inp).Awaits (p.heard inp a) :=
  (h.receive b inp).applySuspend

theorem finish (h : p.Awaits a) (thisState : PdState) (inp : Input) :
    (p.finish thisState inp).Awaits a where
  rests := h.rests.finish thisState _ (p.control_finish_mem thisState inp)
  pending := fun htask => by
    rw [contractRecord_of_does (p.does_finish thisState inp) (by decide)]
    rcases p.task_finish thisState inp with heq | heq | heq
    · exact h.pending (heq.symm.trans htask)
    · have htimer := h.rests.timeoutState
      rw [heq] at htask
      change p.pd.timeoutState ∉ Control.untimedStates at htimer
      simp [htask, Control.untimedStates] at htimer
    · rw [heq] at htask
      cases htask

/-- A call from outside neither sends nor writes the record. -/
theorem call (h : p.Awaits a) (b : Board) {e : Event} (he : e.iterates = false)
    (htask : (p.step b e).pd.taskState = .snkRequested) :
    (p.step b e).contractRecord = a.pending := by
  have hcall : ∀ inp, e ≠ .iterate inp := by
    intro inp heq
    rw [heq] at he
    cases he
  rw [contractRecord_of_does (p.does_call b he) (by cases e <;> simp [Event.writes])]
  rcases Control.task_of_call hcall (p.control_step_mem b e) with hstays | hcalled
  · exact h.pending (hstays.symm.trans htask)
  · change (p.step b e).pd.taskState ∈ _ at hcalled
    simp [htask, Control.callStates] at hcalled

end Awaits

/-! What the memory is after an iteration. -/

theorem note_of_sends {b : Board} {inp : Input} {c : RequestCall} (a : Asked)
    (hcalls : (p.beforeSwitch b inp).readyCalls = [c]) (hsends : c.sends = true) :
    Asked.note b p (.iterate inp) a = ⟨c.port.contractRecord, c.port.selection.request, false⟩ := by
  simp [Asked.note, requestCalls, hcalls, hsends]

theorem note_of_quiet {b : Board} {inp : Input} (a : Asked)
    (hquiet : ∀ c ∈ (p.beforeSwitch b inp).readyCalls, c.sends = false) :
    Asked.note b p (.iterate inp) a = p.heard inp a := by
  have hnone : (p.beforeSwitch b inp).readyCalls.filter RequestCall.sends = [] :=
    List.filter_eq_nil_iff.2 fun c hc => by simp [hquiet c hc]
  have hsends : ∀ c ∈ p.capsCalls inp, c.sends = true := by
    unfold capsCalls
    split
    · simp
    · split_ifs <;> simp [RequestCall.sends]
  unfold Asked.note heard
  rw [requestCalls, List.filter_append, hnone, List.append_nil, List.filter_eq_self.2 hsends]
  cases hcaps : p.capsCalls inp with
  | nil => rfl
  | cons c cs =>
      have hlength : (p.capsCalls inp).length ≤ 1 := by
        unfold capsCalls
        split
        · simp
        · split_ifs <;> simp
      rw [hcaps, List.length_cons] at hlength
      obtain rfl := List.eq_nil_of_length_eq_zero (by omega : cs.length = 0)
      rfl

/-- The switch in `PD_STATE_SNK_READY`: the Request of the call is sent, or the port
does not go to `PD_STATE_SNK_REQUESTED`. -/
theorem snkReady_cases (hready : p.pd.taskState = .snkReady) :
    (∃ c, p.readyCalls = [c] ∧ c.sends = true ∧
      p.snkReady.contractRecord = c.port.selection.request.record) ∨
    ((∀ c ∈ p.readyCalls, c.sends = false) ∧ p.snkReady.pd.taskState ≠ .snkRequested) := by
  by_cases hsilent : p.pd.vdmState ≠ .busy ∧ p.pd.newPowerRequest = true
  · let c : RequestCall := ⟨p, false⟩
    have hcalls : p.readyCalls = [c] := if_pos ⟨hready, hsilent⟩
    have hswitch : p.snkReady =
        if c.result ≠ 0 then c.returned.setState .softReset else c.returned := by
      unfold snkReady
      rw [if_neg (by simp [evt, hsilent.1]), if_pos hsilent.2]
      rfl
    rw [hcalls, hswitch]
    cases hsends : c.sends with
    | true =>
        refine .inl ⟨c, rfl, hsends, ?_⟩
        rw [← (c.returned_of_sends hsends).1]
        split_ifs
        · exact contractRecord_of_does (does_setState _ _) (by decide)
        · rfl
    | false =>
        refine .inr ⟨by simpa using hsends, ?_⟩
        rw [if_neg (not_not.2 (c.result_of_skipped hsends)), c.returned_of_skipped hsends]
        simp [c, clearNewPowerRequest, hready]
  · have hcalls : p.readyCalls = [] := if_neg fun h => hsilent h.2
    refine .inr ⟨by simp [hcalls], ?_⟩
    unfold snkReady
    split
    · simp [hready]
    · rename_i hbusy
      rw [if_neg fun hnew => hsilent ⟨by simpa [evt] using hbusy, hnew⟩]
      cases hchecks : p.readyChecks with
      | none => simp [hready]
      | some q =>
          have htask := congrArg Control.task (p.control_readyChecks hchecks)
          change q.pd.taskState = p.pd.taskState at htask
          simp [htask, hready]

namespace Awaits

variable {a : Asked}

theorem runState (h : p.Awaits a) (b : Board) (inp : Input)
    (hready : p.pd.taskState ≠ .snkReady) : (p.runState b inp).Awaits a where
  rests := rests_runState h.rests b inp
  pending := fun htask => by
    have hbefore : p.pd.taskState = .snkRequested :=
      Control.task_of_outcome (p.control.runState_outcome _ (p.control_runState_mem b inp)) hready
        htask
    rw [contractRecord_of_does (p.does_runState b inp) (by rw [hbefore]; decide)]
    exact h.pending hbefore

/-- An iteration keeps the record of the Request that awaits its answer. -/
theorem iterate (h : p.Awaits a) (b : Board) (inp : Input) :
    (p.step b (.iterate inp)).Awaits (Asked.note b p (.iterate inp) a) := by
  have hbefore := h.beforeSwitch b inp
  change (((p.beforeSwitch b inp).runState b inp).finish _ inp).Awaits _
  refine .finish ?_ _ inp
  by_cases hready : (p.beforeSwitch b inp).pd.taskState = .snkReady
  · have hrests := rests_runState hbefore.rests b inp
    have hswitch : (p.beforeSwitch b inp).runState b inp = (p.beforeSwitch b inp).snkReady := by
      rw [Port.runState, hready]
    rcases snkReady_cases hready with ⟨c, hcalls, hsends, hrecord⟩ | ⟨hquiet, htask⟩
    · rw [note_of_sends a hcalls hsends]
      refine ⟨hrests, fun _ => ?_⟩
      rw [hswitch, hrecord]
      rfl
    · refine ⟨hrests, fun hrequested => absurd ?_ htask⟩
      rw [← hswitch]
      exact hrequested
  · have hquiet : (p.beforeSwitch b inp).readyCalls = [] := if_neg fun hcalls => hready hcalls.1
    rw [note_of_quiet a (by simp [hquiet])]
    exact hbefore.runState b inp hready

end Awaits

/-- The invariant of the observed port. -/
structure Answerable (s : Port × Asked) : Prop where
  awake : s.1.control.suspending = false
  awaits : s.1.Awaits s.2

theorem answerable_setup : Answerable (setup, Asked.none) where
  awake := rfl
  awaits := by
    refine ⟨?_, fun htask => ?_⟩
    · rw [control_setup]
      exact .start
    · revert htask
      decide

theorem Answerable.step {s : Port × Asked} (h : Answerable s) (b : Board) (e : Event) :
    Answerable (Machine.observed (step b) (Asked.note b) s e) := by
  obtain ⟨hawake, hrests⟩ := (Control.rests_invariant b).port_step (e := e) h.awake h.awaits.rests
    trivial
  refine ⟨hawake, hrests, ?_⟩
  cases e with
  | iterate inp => exact (h.awaits.iterate b inp).pending
  | _ => exact h.awaits.call b rfl

/-- A refused Request leaves its record. -/
theorem Answerable.refused {s : Port × Asked} (h : Answerable s) (b : Board) {inp : Input}
    {m : PdMsg} (hrefuses : s.1.refuses (inp, m) = true) :
    ((s.1.dispatching inp m).handleRequest b (inp.time .message) m).contractRecord =
      s.2.pending := by
  simp only [refuses, Bool.and_eq_true] at hrefuses
  obtain ⟨hm, htakes⟩ := hrefuses
  have htask : (s.1.dispatching inp m).pd.taskState = .snkRequested := by
    simp only [takesWait, decide_eq_true_eq] at htakes
    exact htakes.1
  have hwrites : m.writes = ctrlWrites (some .reject) := by
    simp only [PdMsg.isCtrl, decide_eq_true_eq] at hm
    rw [PdMsg.writes, if_neg (not_not.2 hm.1), hm.2]
  rw [contractRecord_of_does (does_handleRequest _ b _ m) (by rw [hwrites]; decide),
    contractRecord_dispatching]
  exact h.awaits.pending (s.1.task_beforeMessage inp htask)

/-- In every run, failed and refused Requests leave the record intact exactly when
they repeat it. -/
theorem recordIntact_iff (b : Board) (es : List Event) :
    Machine.Along (Machine.observed (step b) (Asked.note b)) (RecordIntact b) (setup, Asked.none) es ↔
      Machine.Along (Machine.observed (step b) (Asked.note b)) (RecordRepeated b)
        (setup, Asked.none) es := by
  refine Machine.along_congr_of_invariant (fun s e h => h.step b e) (fun s e h => ?_)
    answerable_setup es
  have hfailed : (∀ c ∈ s.1.requestCalls b e, c.result ≠ 0 →
      c.returned.contractRecord = c.port.contractRecord) ↔
      ∀ c ∈ s.1.requestCalls b e, c.fails = true →
        c.port.selection.request.record = c.port.contractRecord :=
    forall₂_congr fun c _ => c.intact_iff
  have hrefused : (∀ r ∈ e.received, s.1.refuses r = true →
      ((s.1.dispatching r.1 r.2).handleRequest b (r.1.time .message) r.2).contractRecord =
        s.2.before) ↔ ∀ r ∈ e.received, s.1.refuses r = true → s.2.pending = s.2.before := by
    refine forall₂_congr fun r _ => imp_congr_right fun hrefuses => ?_
    rw [h.refused b hrefuses]
  exact ⟨fun hintact => ⟨hfailed.1 hintact.failed, hrefused.1 hintact.refused⟩,
    fun hrepeated => ⟨hfailed.2 hrepeated.failed, hrefused.2 hrepeated.refused⟩⟩

/-- A sink with a contract for 5 V asks for 9 V instead and is refused. -/
def refusedNineVolts : List Event :=
  attachAsSink ++
    [iterateAt 200000 rpOnCc1 (some (dataMsg .sourceCap [fiveVolts, nineVolts] two_objects_lt)),
      iterateAt 210000 rpOnCc1 (some (ctrlMsg .accept)),
      iterateAt 220000 rpOnCc1 (some (ctrlMsg .psRdy)),
      .button, .setNewPowerRequest, iterateAt 230000 rpOnCc1 none,
      iterateAt 240000 rpOnCc1 (some (ctrlMsg .reject))]

/-- After the refusal the record says 9 V under a contract for 5 V. -/
theorem not_recordIntact_refused :
    ¬ ∀ es : List Event, Machine.Along (Machine.observed (step .shipped) (Asked.note .shipped))
      (RecordIntact .shipped) (setup, Asked.none) es := by
  intro h
  have hintact := h refusedNineVolts
  revert hintact
  decide +kernel

end Port

end UsbPd
