import UsbPd.Control.Role
import UsbPd.Frame.Step
import UsbPd.Machine.History
import UsbPd.Sink.PsRdy

/-!
# Voltage changes of a source

A source checks a Request, answers it with Accept and changes the voltage two
timers later, to the PDO whose position it stored with the Accept. The position
is not stored when the Accept reports a failure, but the Accept goes out all the
same.
-/

namespace UsbPd

/-- The message received last. -/
def lastReceived : List Call → Option PdMsg
  | [] => none
  | .received m :: _ => some m
  | _ :: log => lastReceived log

/-- The Request received last, unless another message followed it. -/
def openRequest (log : List Call) : Option Word :=
  (lastReceived log).bind fun m => if m.isData .request then some (firstObject m.payload) else none

/-- An Accept goes out, whatever `pd_transmit` returns. -/
def Call.sendsAccept : Call → Bool
  | .transmit .sop header [] _ => saysAccept header
  | _ => false

/-- The Request that was last answered with Accept. -/
def lastAccepted : List Call → Option Word
  | [] => none
  | c :: log =>
    if c.sendsAccept = true ∧ (openRequest log).isSome = true then openRequest log
    else lastAccepted log

/-- The operating current of an RDO and the current of a PDO, in units of 10 mA. -/
def rdoOpCurrent (rdo : Word) : Nat := (rdo >>> 10).toNat % 1024
def rdoMaxCurrent (rdo : Word) : Nat := rdo.toNat % 1024
def pdoCurrent (pdo : Word) : Nat := pdo.toNat % 1024

/-- The table serves the Request at the position `idx`. -/
structure Board.Serves (b : Board) (rdo : Word) (idx : Nat) : Prop where
  pos : 1 ≤ idx
  le_length : idx ≤ b.srcPdo.length
  named : idx = rdoPos rdo
  operating : rdoOpCurrent rdo ≤ pdoCurrent (b.srcPdo.getD (idx - 1) 0)
  maximum : rdoMaxCurrent rdo ≤ pdoCurrent (b.srcPdo.getD (idx - 1) 0) ∨
    rdo &&& rdoCapMismatch ≠ 0

/-- A change of the voltage serves the Request that was last answered with
Accept. -/
def ServesAccepted (b : Board) : Call → List Call → Prop
  | .transitionVoltage idx, earlier => ∃ rdo ∈ lastAccepted earlier, b.Serves rdo idx
  | _, _ => True

instance Board.decidableServes (b : Board) (rdo : Word) (idx : Nat) :
    Decidable (b.Serves rdo idx) :=
  decidable_of_iff (1 ≤ idx ∧ idx ≤ b.srcPdo.length ∧ idx = rdoPos rdo ∧
      rdoOpCurrent rdo ≤ pdoCurrent (b.srcPdo.getD (idx - 1) 0) ∧
      (rdoMaxCurrent rdo ≤ pdoCurrent (b.srcPdo.getD (idx - 1) 0) ∨ rdo &&& rdoCapMismatch ≠ 0))
    ⟨fun ⟨h₁, h₂, h₃, h₄, h₅⟩ => ⟨h₁, h₂, h₃, h₄, h₅⟩,
      fun ⟨h₁, h₂, h₃, h₄, h₅⟩ => ⟨h₁, h₂, h₃, h₄, h₅⟩⟩

instance decidableServesAccepted (b : Board) :
    ∀ (c : Call) (earlier : List Call), Decidable (ServesAccepted b c earlier)
  | .transitionVoltage idx, earlier =>
      match h : lastAccepted earlier with
      | none => isFalse (by simp [ServesAccepted, h])
      | some rdo => decidable_of_iff (b.Serves rdo idx) (by simp [ServesAccepted, h])
  | .received _, _ | .alert _, _ | .transmit _ _ _ _, _ | .msgIdReset, _ | .rxEnable _, _
  | .vbus _, _ | .inputCurrentLimit _ _, _ | .executeHardReset, _ | .contractAgreed, _
  | .powerSwapAccepted, _ | .detach, _ => isTrue trivial

/-- `src_pdo[i]`, if the table has that entry. -/
def Board.readSrcPdo (b : Board) (i : Int) : Option Word :=
  if 0 ≤ i then b.srcPdo[i.toNat]? else none

/-- `pd_check_requested_voltage` on a table that is only read inside its bounds. -/
def boundedCheckRequestedVoltage (b : Board) (rdo : Word) : Option EcResult :=
  if pdBoardCheckRequest rdo b.srcPdo.length ≠ .success then some .errorInval
  else (b.readSrcPdo (rdoPos rdo - 1 : Int)).map fun pdo =>
    if pdoCurrent pdo < rdoOpCurrent rdo then .errorInval
    else if pdoCurrent pdo < rdoMaxCurrent rdo ∧ rdo &&& rdoCapMismatch = 0 then .errorInval
    else .success

theorem position_of_boardCheck {rdo : Word} {cnt : Nat}
    (h : pdBoardCheckRequest rdo cnt = .success) : 1 ≤ rdoPos rdo ∧ rdoPos rdo ≤ cnt := by
  unfold pdBoardCheckRequest at h
  split_ifs at h with hinvalid
  omega

/-- An accepted Request passed every check. -/
theorem Board.serves_of_check {b : Board} {rdo : Word}
    (h : pdCheckRequestedVoltage b rdo = .success) : b.Serves rdo (rdoPos rdo) := by
  unfold pdCheckRequestedVoltage at h
  simp only at h
  split_ifs at h with hboard hop hmax
  have hpos := position_of_boardCheck (not_not.1 hboard)
  refine ⟨hpos.1, hpos.2, rfl, Nat.le_of_not_lt hop, ?_⟩
  by_cases hflag : rdo &&& rdoCapMismatch = 0
  · exact .inl (Nat.le_of_not_lt fun hlt => hmax ⟨hlt, hflag⟩)
  · exact .inr hflag

/-- The check reads the table inside its bounds, whatever the Request. -/
theorem boundedCheck_eq (b : Board) (rdo : Word) :
    boundedCheckRequestedVoltage b rdo = some (pdCheckRequestedVoltage b rdo) := by
  unfold boundedCheckRequestedVoltage pdCheckRequestedVoltage
  by_cases hboard : pdBoardCheckRequest rdo b.srcPdo.length = .success
  · have hpos := position_of_boardCheck hboard
    have hindex : (rdoPos rdo - 1 : Int).toNat = rdoPos rdo - 1 := by omega
    have hread : b.readSrcPdo (rdoPos rdo - 1 : Int) =
        some (b.srcPdo.getD (rdoPos rdo - 1) 0) := by
      rw [Board.readSrcPdo, if_pos (by omega), hindex,
        List.getD_eq_getElem?_getD, List.getElem?_eq_getElem (by omega)]
      rfl
    rw [if_neg (not_not.2 hboard), if_neg (not_not.2 hboard), hread]
    rfl
  · rw [if_pos hboard, if_pos hboard]

/-! A change that is on its way. -/

namespace Control

/-- The port has accepted a Request and will change the voltage for it. -/
def changePending (v : Control) : Prop :=
  v.task = .srcAccepted ∨ v.timeoutState = .srcPowered ∨
    (v.task = .srcPowered ∧ v.last ≠ .srcPowered)

/-- From `v` to `w` no change of the voltage becomes pending. -/
structure Steady (v w : Control) : Prop where
  pending : w.changePending → v.changePending
  timer : v.timeoutState ≠ .srcAccepted → w.timeoutState ≠ .srcAccepted

namespace Steady

variable {v w u : Control}

theorem refl : Steady v v := ⟨id, id⟩

theorem setState (w : Control) {s : PdState} (hs : s ≠ .srcAccepted ∧ s ≠ .srcPowered) :
    Steady v (w.setState s) where
  pending := by
    intro h
    simp [changePending, hs.1, hs.2] at h
  timer := by simp

theorem arm (htask : w.task = v.task) (hlast : w.last = v.last) {s : PdState}
    (hs : s ≠ .srcAccepted ∧ s ≠ .srcPowered) : Steady v (w.arm s) where
  pending := by
    intro h
    rcases h with h | h | h
    · exact .inl (htask.symm.trans h)
    · exact absurd h hs.2
    · exact .inr (.inr ⟨htask.symm.trans h.1, hlast ▸ h.2⟩)
  timer := fun _ => hs.1

theorem congr (htask : w.task = v.task) (hlast : w.last = v.last)
    (htimer : w.timeoutState = v.timeoutState) : Steady v w where
  pending := by
    unfold changePending
    rw [htask, hlast, htimer]
    exact id
  timer := by
    rw [htimer]
    exact id

theorem ready : Steady v (w.setState v.readyReturnState) := by
  unfold readyReturnState roleIfElse
  cases v.role <;> exact setState w (by decide)

theorem executeSoftReset : Steady v w.executeSoftReset := by
  unfold Control.executeSoftReset roleIfElse
  cases w.role <;> exact setState w (by decide)

theorem executeHardReset : Steady v w.executeHardReset := by
  rw [executeHardReset_eq]
  cases hrole : w.role <;> exact ⟨by simp [changePending], by simp⟩

theorem applyReset (reset : Bool) : Steady v (v.applyReset reset) := by
  cases reset with
  | false => exact refl
  | true =>
      refine ⟨fun h => ?_, id⟩
      simp only [changePending, Control.applyReset, if_true] at h
      exact .inr (.inl (by simpa using h))

/-- Only an accepted Request makes a change pending. -/
theorem reaction {kind : MsgKind} (h : Reaction v kind w)
    (hdenied : ¬ (kind = .data (some .request) true ∧ v.role = .source)) : Steady v w := by
  cases h with
  | ignored => exact refl
  | granted hkind hrole => exact absurd ⟨hkind, hrole⟩ hdenied
  | tested =>
      unfold roleIfElse
      cases v.role <;> exact setState v (by decide)
  | dataSwapOver => exact ready
  | retryLater => exact arm rfl rfl (by decide)
  | softAccepted => exact executeSoftReset
  | softReset => exact executeSoftReset
  | _ => exact setState _ (by decide)

/-- The timers that lead to a change of the voltage belong to pending changes. -/
theorem timers_powered : ∀ r s, ∀ t ∈ timers r s,
    t ≠ .srcAccepted ∧ (t = .srcPowered → s = .srcAccepted) := by
  intro r s
  cases r <;> cases s <;> decide

theorem moves_powered : ∀ s, ∀ t ∈ moves s, t ≠ .srcAccepted ∧ t ≠ .srcPowered := by
  intro s
  cases s <;> decide

theorem outcome (h : Outcome v w) : Steady v w := by
  cases h with
  | stays => exact refl
  | @arms s hentry hs =>
      obtain ⟨hne, hpowered⟩ := timers_powered _ _ s hs
      refine ⟨fun hpending => ?_, fun _ => hne⟩
      rcases hpending with htask | htimer | htask
      · exact .inl htask
      · exact .inl (hpowered htimer)
      · exact .inr (.inr htask)
  | moves hs => exact setState v (moves_powered _ _ hs)
  | requests | drivesVbus | cutsVbus | becomesSink =>
      refine arm ?_ ?_ ?_
      · rfl
      · rfl
      · decide
  | togglesToSource => exact ⟨by simp [changePending, Control.setPull], by simp [Control.setPull]⟩
  | togglesToSink => exact ⟨by simp [changePending, Control.setPull], by simp [Control.setPull]⟩
  | sendsCaps => exact ⟨by simp [changePending, Control.setFew], by simp [Control.setFew]⟩
  | sentReset => exact congr rfl rfl rfl
  | failsReset => exact congr rfl rfl rfl
  | sendsReset =>
      refine arm ?_ ?_ ?_
      · rfl
      · rfl
      · decide
  | executesReset => exact executeHardReset
  | _ => exact setState _ (by decide)

/-- The switch stays in `PD_STATE_SRC_POWERED` but never goes there. -/
theorem powered_of_outcome (h : Outcome v w) (hw : w.task = .srcPowered) :
    v.task = .srcPowered := by
  cases h with
  | stays => exact hw
  | arms => exact hw
  | moves hs => exact absurd (by simpa using hw) (moves_powered _ _ hs).2
  | requests => exact hw
  | drivesVbus => exact hw
  | cutsVbus => exact hw
  | becomesSink => exact hw
  | sentReset => exact hw
  | failsReset => exact hw
  | sendsReset => exact hw
  | executesReset =>
      rw [executeHardReset_eq] at hw
      split at hw <;> cases hrole : v.role <;> simp [hrole] at hw
  | _ => simp [attachSource, attachSink] at hw

theorem finish {thisState : PdState} (hthis : v.task = .srcPowered → thisState = .srcPowered)
    (htimer : v.timeoutState ≠ .srcAccepted) : Machine.Ensures (v.finish thisState) (Steady v) := by
  refine v.finish_ensures ⟨fun h => ?_, id⟩ (fun _ => ⟨fun h => ?_, fun _ => by simp⟩)
    fun w _ _ _ _ => setState _ (by decide)
  · rcases h with htask | htimeout | htask
    · exact .inl htask
    · exact .inr (.inl htimeout)
    · exact absurd (hthis htask.1) htask.2
  · rcases h with htask | htimeout | htask
    · exact absurd (by simpa using htask) htimer
    · simp at htimeout
    · exact .inr (.inl (by simpa using htask.1))

/-- A call from outside makes no change pending. -/
theorem call (b : Board) {e : Event} (he : e.iterates = false) :
    Machine.Ensures (v.step b e) (Steady v) := by
  cases e with
  | iterate => cases he
  | alert irq now =>
      obtain ⟨ok, hok⟩ := v.completeTransmissions_eq irq
      simp only [Control.step, Control.alert, hok, Machine.ensures_cons, Machine.ensures_nil,
        and_true]
      split_ifs
      · exact executeHardReset
      · exact congr rfl rfl rfl
  | softReset =>
      simp only [Control.step, softResetCall, Machine.ensures_cons, Machine.ensures_nil, and_true]
      split_ifs
      · exact setState v (by decide)
      · exact refl
  | requestPowerSwap =>
      simp only [Control.step, Control.requestPowerSwap, Machine.ensures_cons,
        Machine.ensures_nil, and_true]
      split_ifs
      · exact setState v (by decide)
      · exact setState v (by decide)
      · exact refl
  | requestDataSwap =>
      simp only [Control.step, Control.requestDataSwap, Machine.ensures_cons,
        Machine.ensures_nil, and_true]
      split_ifs
      · exact setState v (by decide)
      · exact refl
  | _ => simpa [Control.step] using refl

end Steady

end Control

/-! The log under the write sets. -/

theorem Call.sendsAccept_of_kind {c : Call} (h : c.kind ≠ .accept) : c.sendsAccept = false := by
  unfold sendsAccept
  split
  · exact eq_false_of_ne_true fun haccept => h (if_pos haccept)
  · rfl

theorem lastAccepted_cons {c : Call} (h : c.sendsAccept = false) (log : List Call) :
    lastAccepted (c :: log) = lastAccepted log := by
  simp [lastAccepted, h]

theorem servesAccepted_of_kind (b : Board) {c : Call} (h : c.kind ≠ .transitionVoltage)
    (log : List Call) : ServesAccepted b c log := by
  cases c with
  | transitionVoltage idx => exact absurd rfl h
  | _ => trivial

namespace Port

/-- The stored position is the one of the Request answered last, which passed the
checks. -/
def Covered (b : Board) (p : Port) : Prop :=
  ∃ rdo ∈ lastAccepted p.log, rdoPos rdo = p.pd.requestedIdx ∧
    pdCheckRequestedVoltage b rdo = .success

/-- A pending change is covered, and those that were made served their Requests. -/
structure Backed (b : Board) (p : Port) : Prop where
  covered : p.control.changePending → p.Covered b
  timer : p.pd.timeoutState ≠ .srcAccepted
  changes : Machine.Each (ServesAccepted b) p.log

variable {b : Board} {p q : Port}

theorem changes_of_does {W : List Part} {K : List CallKind} (h : Does W K p q)
    (hK : .transitionVoltage ∉ K) (hp : Machine.Each (ServesAccepted b) p.log) :
    Machine.Each (ServesAccepted b) q.log := by
  refine h.preserves (P := Machine.Each (ServesAccepted b)) (fun c log hc hlog => ⟨?_, hlog⟩) hp
  exact servesAccepted_of_kind b (fun heq => hK (heq ▸ hc)) log

theorem covered_of_does {W : List Part} {K : List CallKind} (h : Does W K p q)
    (hW : .requestedIdx ∉ W) (hK : .accept ∉ K) (hp : p.Covered b) : q.Covered b := by
  have hidx : q.pd.requestedIdx = p.pd.requestedIdx := h.keeps .requestedIdx hW
  have hlast : lastAccepted q.log = lastAccepted p.log := by
    refine h.read_eq (fun c log hc => lastAccepted_cons ?_ log)
    exact Call.sendsAccept_of_kind fun heq => hK (heq ▸ hc)
  unfold Covered
  rw [hidx, hlast]
  exact hp

/-- What keeps the stored position, sends no Accept and makes no change. -/
theorem Backed.of_does (h : p.Backed b) {W : List Part} {K : List CallKind} (hdoes : Does W K p q)
    (hquiet : .requestedIdx ∉ W ∧ .accept ∉ K ∧ .transitionVoltage ∉ K)
    (hsteady : Control.Steady p.control q.control) : q.Backed b where
  covered := fun hq => covered_of_does hdoes hquiet.1 hquiet.2.1 (h.covered (hsteady.pending hq))
  timer := hsteady.timer h.timer
  changes := changes_of_does hdoes hquiet.2.2 h.changes

/-! The message of an iteration. -/

/-- What a message other than a Request and a Soft_Reset writes. -/
theorem quiet_of_message {m : PdMsg} (hrequest : m.isData .request = false)
    (hsoft : m.isCtrl .softReset = false) :
    .requestedIdx ∉ m.writes ∧ .accept ∉ m.calls ∧ .transitionVoltage ∉ m.calls := by
  unfold PdMsg.writes PdMsg.calls
  unfold PdMsg.isData at hrequest
  unfold PdMsg.isCtrl at hsoft
  by_cases hcnt : headerCnt m.head = 0
  · simp only [hcnt, ne_eq, not_true_eq_false, if_false]
    cases htype : CtrlMsgType.ofField (headerType m.head) with
    | none => decide
    | some type =>
        cases type with
        | softReset => simp [hcnt, htype] at hsoft
        | _ => decide
  · simp only [hcnt, ne_eq, not_false_eq_true, if_true]
    cases htype : DataMsgType.ofField (headerType m.head) with
    | none => decide
    | some type =>
        cases type with
        | request => simp [hcnt, htype] at hrequest
        | _ => decide

theorem handleRequest_request (b : Board) (p : Port) (now : Nat) {m : PdMsg}
    (hm : m.isData .request = true) :
    p.handleRequest b now m = if p.pdIsConnected then p.handleRequestMsg b m.payload else p := by
  simp only [PdMsg.isData, decide_eq_true_eq] at hm
  unfold handleRequest
  by_cases hconn : p.pdIsConnected = true
  · simp [hconn, hm.1, handleDataRequest, hm.2]
  · simp [hconn]

theorem handleRequest_softReset (b : Board) (p : Port) (now : Nat) {m : PdMsg}
    (hm : m.isCtrl .softReset = true) :
    p.handleRequest b now m = if p.pdIsConnected then p.handleSoftReset else p := by
  simp only [PdMsg.isCtrl, decide_eq_true_eq] at hm
  unfold handleRequest
  by_cases hconn : p.pdIsConnected = true
  · simp [hconn, hm.1, handleCtrlRequest, hm.2]
  · simp [hconn]

theorem steady_handleRequest (b : Board) (p : Port) (now : Nat) (m : PdMsg)
    (hdenied : p.grants b m = false) :
    Control.Steady p.control (p.handleRequest b now m).control := by
  have hmem : (p.handleRequest b now m).control ∈ p.control.receive (some (m.kind b)) :=
    p.control_handleRequest_mem b now m
  rcases Control.receive_reaction _ hmem with h | ⟨kind, hkind, -, hreaction⟩
  · rw [h]
    exact .refl
  · refine .reaction hreaction ?_
    rintro ⟨rfl, hrole⟩
    have hkind' := Option.some.inj hkind
    have hgrants : p.grants b m = true := by
      simp only [grants, Bool.and_eq_true, beq_iff_eq]
      exact ⟨⟨PdMsg.isData_of_kind hkind', hrole⟩, PdMsg.acceptable_of_kind hkind'⟩
    rw [hgrants] at hdenied
    cases hdenied

/-- The log after an Accept for the message received last. -/
theorem lastAccepted_sendControl (p : Port) :
    lastAccepted (p.sendControl .accept).2.log =
      if (openRequest p.log).isSome then openRequest p.log else lastAccepted p.log := by
  have htype : headerType (p.header CtrlMsgType.accept.toNat 0) = CtrlMsgType.accept.toNat :=
    headerType_header p (by decide) 0
  have hlog : (p.sendControl .accept).2.log = .transmit .sop (p.header CtrlMsgType.accept.toNat 0)
      [] (if p.pd.txStatus = .success then 1 else -1) :: p.log := rfl
  rw [hlog, lastAccepted, Call.sendsAccept, saysAccept, htype]
  simp

/-- A granted Request is answered, and its position stored if the Accept reports
no failure. -/
theorem Backed.acceptRequest (h : p.Backed b) {m : PdMsg} (hlast : lastReceived p.log = some m)
    (hgrants : p.grants b m = true)
    (hheard : p.control.changePending → p.pd.txStatus = .success ∨
      rdoPos (firstObject m.payload) = p.pd.requestedIdx) :
    (p.acceptRequest (firstObject m.payload)).Backed b := by
  simp only [grants, PdMsg.acceptable, Bool.and_eq_true, beq_iff_eq, decide_eq_true_eq] at hgrants
  obtain ⟨⟨hrequest, -⟩, -, hcheck⟩ := hgrants
  have hopen : openRequest p.log = some (firstObject m.payload) := by
    simp [openRequest, hlast, hrequest]
  have haccepted : lastAccepted (p.sendControl .accept).2.log = some (firstObject m.payload) := by
    rw [lastAccepted_sendControl, hopen]
    rfl
  have hdoes := p.does_acceptRequest (firstObject m.payload)
  have hchanges := changes_of_does hdoes (by decide) h.changes
  have hsent : (p.sendControl .accept).1 < 0 ↔ p.pd.txStatus ≠ .success := by
    rw [sendControl_neg]
    simp [control]
  unfold Port.acceptRequest at hchanges ⊢
  simp only at hchanges ⊢
  split_ifs at hchanges ⊢ with hfail
  · refine ⟨fun hpending => ⟨_, haccepted, ?_, hcheck⟩, h.timer, hchanges⟩
    exact (hheard hpending).resolve_left (hsent.1 hfail)
  · refine ⟨fun _ => ⟨_, ?_, ?_, hcheck⟩, by simp, hchanges⟩
    · rw [setState_log _ (by decide)]
      exact haccepted
    · simp

/-- An Accept that answers no Request. -/
theorem Backed.sendAccept (h : p.Backed b) (hopen : openRequest p.log = none) :
    (p.sendControl .accept).2.Backed b where
  covered := by
    intro hpending
    rw [control_sendControl] at hpending
    obtain ⟨rdo, hlast, hrdo⟩ := h.covered hpending
    refine ⟨rdo, ?_, hrdo⟩
    rw [lastAccepted_sendControl, hopen]
    exact hlast
  timer := h.timer
  changes := changes_of_does p.does_sendAccept (by decide) h.changes

theorem Backed.handleSoftReset (h : p.Backed b) (hopen : openRequest p.log = none) :
    p.handleSoftReset.Backed b := by
  have hdoes := p.does_executeSoftReset
  have hreset : p.executeSoftReset.Backed b := by
    refine h.of_does hdoes (by decide) ?_
    rw [control_executeSoftReset]
    exact .executeSoftReset
  have hlast : lastReceived p.executeSoftReset.log = lastReceived p.log := by
    refine hdoes.read_eq fun c log hc => ?_
    cases c with
    | received => simp [view, Call.kind] at hc
    | _ => rfl
  refine hreset.sendAccept ?_
  unfold openRequest at hopen ⊢
  rw [hlast]
  exact hopen

/-- The reaction to the message received last. -/
theorem Backed.handleRequest (h : p.Backed b) (now : Nat) {m : PdMsg}
    (hlast : lastReceived p.log = some m)
    (hheard : p.control.changePending → p.grants b m = true → p.pd.txStatus = .success ∨
      rdoPos (firstObject m.payload) = p.pd.requestedIdx) :
    (p.handleRequest b now m).Backed b := by
  by_cases hgrants : p.grants b m = true
  · have hrequest : m.isData .request = true := by
      simp only [grants, Bool.and_eq_true] at hgrants
      exact hgrants.1.1
    rw [handleRequest_request b p now hrequest]
    split
    · have haccept : p.handleRequestMsg b m.payload = p.acceptRequest (firstObject m.payload) := by
        simp only [grants, PdMsg.acceptable, Bool.and_eq_true, beq_iff_eq,
          decide_eq_true_eq] at hgrants
        exact if_pos ⟨hgrants.1.2, hgrants.2⟩
      rw [haccept]
      exact h.acceptRequest hlast hgrants fun hpending => hheard hpending hgrants
    · exact h
  have hsteady := steady_handleRequest b p now m (by simpa using hgrants)
  by_cases hsoft : m.isCtrl .softReset = true
  · rw [handleRequest_softReset b p now hsoft]
    have hctrl : m.isData .request = false := by
      simp only [PdMsg.isCtrl, decide_eq_true_eq] at hsoft
      simp [PdMsg.isData, hsoft.1]
    split
    · exact h.handleSoftReset (by simp [openRequest, hlast, hctrl])
    · exact h
  by_cases hrequest : m.isData .request = true
  · refine h.of_does (W := [.chip, .task, .timer]) (K := [.sop]) ?_ (by decide) hsteady
    rw [handleRequest_request b p now hrequest]
    split
    · have hreject :
          p.handleRequestMsg b m.payload = (p.sendControl .reject).2.setState .srcReady := by
        refine if_neg fun hc => hgrants ?_
        simp [grants, PdMsg.acceptable, hrequest, hc]
      rw [hreject]
      exact ((p.does_sendControl (by decide)).trans
        (does_setState_of_ne _ (by decide))).mono (by decide)
    · exact p.does_nothing _ _
  · exact h.of_does (p.does_handleRequest b now m)
      (quiet_of_message (by simpa using hrequest) (by simpa using hsoft)) hsteady

/-! The switch and the tail. -/

theorem Backed.runState (h : p.Backed b) (inp : Input) : (p.runState b inp).Backed b := by
  have hsteady : Control.Steady p.control (p.runState b inp).control :=
    .outcome (p.control.runState_outcome _ (control_runState_mem b p inp))
  have hdoes := p.does_runState b inp
  have hidx : ∀ s, .requestedIdx ∉ stateWrites s ∧ .accept ∉ stateCalls s := by
    intro s
    cases s <;> decide
  refine ⟨fun hpending => ?_, hsteady.timer h.timer, ?_⟩
  · exact covered_of_does hdoes (hidx _).1 (hidx _).2 (h.covered (hsteady.pending hpending))
  by_cases htask : p.pd.taskState = .srcPowered
  · -- the only state that changes the voltage, when it is entered
    have hstate : p.runState b inp = p.srcPowered inp := by
      unfold Port.runState
      rw [htask]
    rw [hstate]
    unfold srcPowered
    split_ifs with hentry
    · have hpending : p.control.changePending := .inr (.inr ⟨htask, by
        simpa [entering, htask] using hentry⟩)
      obtain ⟨rdo, hlast, hidx, hcheck⟩ := h.covered hpending
      refine ⟨⟨rdo, hlast, ?_⟩, h.changes⟩
      rw [← hidx]
      exact Board.serves_of_check hcheck
    · exact h.changes
  · refine changes_of_does hdoes ?_ h.changes
    generalize p.pd.taskState = s at htask
    revert s
    intro s hs
    cases s <;> first | decide | exact absurd rfl hs

theorem Backed.finish (h : p.Backed b) {thisState : PdState} (inp : Input)
    (hthis : p.pd.taskState = .srcPowered → thisState = .srcPowered) :
    (p.finish thisState inp).Backed b :=
  h.of_does (p.does_finish thisState inp) (by decide)
    (Control.Steady.finish hthis h.timer _ (p.control_finish_mem thisState inp))

/-! Every run. -/

/-- The port has accepted a Request and will change the voltage for it. -/
def changePending (p : Port) : Prop :=
  p.pd.taskState = .srcAccepted ∨ p.pd.timeoutState = .srcPowered ∨
    (p.pd.taskState = .srcPowered ∧ p.pd.lastState ≠ .srcPowered)

/-- `tx_status` is a success when a Request is granted while a change is pending,
unless the Request names the stored position again. -/
def HearsAccept (b : Board) (p : Port) (e : Event) : Prop :=
  ∀ r ∈ e.received, (p.dispatching r.1 r.2).changePending →
    (p.dispatching r.1 r.2).grants b r.2 = true →
      p.pd.txStatus = .success ∨ rdoPos (firstObject r.2.payload) = p.pd.requestedIdx

/-- Every change of the voltage served the Request that was last answered with
Accept, and the check of a Request never reads outside the table. -/
structure ChangesServed (b : Board) (p : Port) : Prop where
  served : Machine.Each (ServesAccepted b) p.log
  bounded : ∀ rdo, boundedCheckRequestedVoltage b rdo = some (pdCheckRequestedVoltage b rdo)

instance decidableChangePending (p : Port) : Decidable p.changePending :=
  inferInstanceAs (Decidable (_ ∨ _ ∨ _))

instance decidableHearsAccept (b : Board) (p : Port) (e : Event) :
    Decidable (p.HearsAccept b e) :=
  inferInstanceAs (Decidable (∀ r ∈ e.received, (p.dispatching r.1 r.2).changePending →
    _ = true → _ = _ ∨ _ = _))

theorem backed_setup (b : Board) : setup.Backed b where
  covered := by
    intro h
    simp [control_setup, Control.changePending, Control.start] at h
  timer := by decide
  changes := Machine.each_of_forall fun c hc log =>
    servesAccepted_of_kind b (by revert c; decide) log

theorem Backed.receive (h : p.Backed b) (inp : Input)
    (hheard : ∀ m, inp.message = some m → (p.record (.received m)).changePending →
      (p.record (.received m)).grants b m = true →
        p.pd.txStatus = .success ∨ rdoPos (firstObject m.payload) = p.pd.requestedIdx) :
    (p.receive b inp).Backed b := by
  unfold Port.receive
  cases hm : inp.message with
  | none => exact h
  | some m =>
      have hrecorded : (p.record (.received m)).Backed b :=
        h.of_does (p.does_record (.received m)) (by simp [Call.kind]) .refl
      exact hrecorded.handleRequest _ rfl (hheard m hm)

theorem Backed.iterate (h : p.Backed b) (inp : Input) (hheard : p.HearsAccept b (.iterate inp)) :
    (p.pdRunStateMachine b inp).Backed b := by
  have hbefore : (p.beforeMessage inp).Backed b := by
    refine h.of_does (p.does_beforeMessage inp) (by decide) ?_
    rw [control_beforeMessage]
    exact .applyReset inp.reset
  have hpd : (p.beforeMessage inp).pd.txStatus = p.pd.txStatus ∧
      (p.beforeMessage inp).pd.requestedIdx = p.pd.requestedIdx :=
    ⟨congrArg Prod.snd ((p.does_beforeMessage inp).keeps .link (by decide)),
      (p.does_beforeMessage inp).keeps .requestedIdx (by decide)⟩
  have hreceived : ((p.beforeMessage inp).receive b inp).Backed b := by
    refine hbefore.receive inp fun m hm hpending hgrants => ?_
    rw [hpd.1, hpd.2]
    exact hheard (inp, m) (Event.mem_received.2 ⟨rfl, hm⟩) hpending hgrants
  have hswitched : (p.beforeSwitch b inp).Backed b := by
    refine hreceived.of_does (does_applySuspend _) (by decide) ?_
    change Control.Steady _ (applySuspend _).control
    rw [control_applySuspend, Control.applySuspend]
    split
    · exact .setState _ (by decide)
    · exact .refl
  refine (hswitched.runState inp).finish inp fun htask => ?_
  exact Control.Steady.powered_of_outcome
    (Control.runState_outcome _ _ (control_runState_mem b _ inp)) htask

theorem Backed.step (h : p.Backed b) (e : Event) (hheard : p.HearsAccept b e) :
    (p.step b e).Backed b := by
  cases e with
  | iterate inp => exact h.iterate inp hheard
  | _ =>
      refine h.of_does (p.does_call b rfl) (by simp [Event.writes, Event.calls]) ?_
      exact Control.Steady.call b rfl _ (p.control_step_mem b _)

/-- As long as the Accepts that could revise a pending change are reported as
sent, every change of the voltage serves the Request answered last. -/
theorem changesServed_after (b : Board) (es : List Event)
    (h : AllSteps b (fun p e => p.HearsAccept b e) es) : (after b es).ChangesServed b := by
  have hstep : ∀ (p : Port) (e : Event), p.Backed b → p.HearsAccept b e → (p.step b e).Backed b :=
    fun p e hp hheard => hp.step e hheard
  exact ⟨(Machine.run_invariant hstep (backed_setup b) h).changes, boundedCheck_eq b⟩

/-- A sink that asks for the first capability of the table. -/
def requestFirst : List Event :=
  attachAsSource ++
    [iterateAt 200000 rdOnCc1 none, iterateAt 210000 rdOnCc1 none, iterateAt 220000 rdOnCc1 none,
      iterateAt 230000 rdOnCc1
        (some (dataMsg .request [rdoFixed 1 500 500 0] one_object_lt))]

/-- The change to 5 V for a Request. -/
theorem changesServed_requestFirst :
    (after .shipped (requestFirst ++
      [iterateAt 265000 rdOnCc1 none, iterateAt 266000 rdOnCc1 none])).ChangesServed .shipped :=
  changesServed_after .shipped _ (by decide +kernel)

/-- A source with 5 V and 9 V. -/
def twoVoltages : Board :=
  { Board.shipped with srcPdo := [pdoFixed 5000 1500 pdoFixedFlags, pdoFixed 9000 1500 0] }

/-- The Accept is not acknowledged, and the sink asks for 9 V instead. -/
def reviseRequest : List Event :=
  requestFirst ++
    [.alert ⟨0, 0x10, 0⟩ 240000,
      iterateAt 250000 rdOnCc1
        (some (dataMsg .request [rdoFixed 2 500 500 0] one_object_lt)),
      iterateAt 265000 rdOnCc1 none, iterateAt 266000 rdOnCc1 none]

/-- The sink hears an Accept for 9 V and the source goes on to 5 V. -/
theorem not_changesServed_revised :
    ¬ ∀ (b : Board) (es : List Event), (after b es).ChangesServed b := by
  intro h
  refine mt ChangesServed.served ?_ (h twoVoltages reviseRequest)
  decide +kernel

end Port

end UsbPd
