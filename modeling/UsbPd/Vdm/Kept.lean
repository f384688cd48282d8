import UsbPd.Link.GoodCrc
import UsbPd.Machine.Observer
import UsbPd.Source.Grant
import UsbPd.Vdm.Slot

/-!
# A queued VDM is kept

The caller of `pd_send_vdm` relies on the slot: what it queued is what goes out,
and the slot is freed by a response or by an error only. An observer remembers
the VDM that the caller queued for as long as it is outstanding, and a step keeps
it unless the retry builds another VDM, a READY state fills the slot with its own,
or an initiator's VDM is taken for the answer.
-/

namespace UsbPd

/-- A structured VDM of an initiator, which answers nothing. -/
def initiates (hdr : Word) : Bool := pdVdoSvdm hdr ∧ pdVdoCmdt hdr = 0

/-- The call transmits the VDM `v`, announced with its number of objects. -/
def Call.Carries (c : Call) (v : List Word) : Prop :=
  ∃ header res, c = .transmit .sop header v res ∧
    headerType header = DataMsgType.vendorDef.toNat ∧ headerCnt header = v.length

namespace VdmSlot

/-- The slot holds `v`, which is outstanding. -/
def Holds (s : VdmSlot) (v : List Word) : Prop := s.outstanding = true ∧ s.vdm = v

instance decidableHolds (s : VdmSlot) (v : List Word) : Decidable (s.Holds v) :=
  inferInstanceAs (Decidable (_ ∧ _))

/-- As many objects as are counted, and no more than a message takes. -/
structure Filled (s : VdmSlot) : Prop where
  fits : s.count ≤ 7
  full : s.count ≤ s.data.length

namespace Filled

variable {s : VdmSlot}

theorem length_vdm (h : s.Filled) : s.vdm.length = s.count := by
  have hfull := h.full
  simp [vdm, hfull]

theorem queue (s : VdmSlot) (header : Word) {data : List Word} (hdata : data.length ≤ 6) :
    (s.queue header data).Filled where
  fits := by
    change data.length + 1 ≤ 7
    omega
  full := by simp [VdmSlot.queue]

theorem poll (h : s.Filled) (connected ready succeeds : Bool) (now : Nat) :
    (s.poll connected ready succeeds now).Filled := by
  have hretry : ({ s with data := s.retry :: s.data.drop 1, count := 1, state := .ready } :
      VdmSlot).Filled := ⟨(by decide : 1 ≤ 7), by simp⟩
  have hkept : ∀ (state : VdmState) (timeout : Nat),
      ({ s with state := state, timeout := timeout } : VdmSlot).Filled :=
    fun _ _ => ⟨h.fits, h.full⟩
  unfold VdmSlot.poll
  split
  · split_ifs <;> first | exact h | exact hkept _ _
  · split_ifs
    · exact hretry
    · exact h
  · split_ifs
    · exact hkept _ _
    · exact h
  · exact h

theorem answer (h : s.Filled) (now : Nat) (hdr : Word) : (s.answer now hdr).Filled := by
  unfold VdmSlot.answer
  split_ifs
  · exact ⟨h.fits, h.full⟩
  · exact ⟨h.fits, h.full⟩
  · exact h

end Filled

end VdmSlot

namespace Port

theorem filled_step {p : Port} (h : p.vdmSlot.Filled) (b : Board) (e : Event) :
    (p.step b e).vdmSlot.Filled := by
  cases e with
  | iterate inp =>
      have hpolled : (p.beforeMessage inp).vdmSlot.Filled := by
        rw [vdmSlot_beforeMessage]
        exact h.poll _ _ _ _
      have hanswered : (p.beforeSwitch b inp).vdmSlot.Filled := by
        rw [vdmSlot_beforeSwitch]
        split
        · exact hpolled.answer _ _
        · exact hpolled
      rw [vdmSlot_iterate]
      split_ifs
      · exact .queue _ _ (by decide)
      · exact hanswered
  | sendVdm vid cmd data =>
      change (p.pdSendVdm vid cmd data).vdmSlot.Filled
      rw [vdmSlot_pdSendVdm]
      split_ifs with hlength
      · exact h
      · exact .queue _ _ (by omega)
  | _ =>
      rw [p.vdmSlot_call b rfl (by intro _ _ _ h; cases h)]
      exact h

/-- An iteration that starts with the VDM `v` in the slot sends it as it was queued,
leaves it there or frees the slot by a response or an error. -/
structure KeepsVdm (b : Board) (p : Port) (inp : Input) (v : List Word) : Prop where
  sent : ∀ c, (p.beforeMessage inp).log = c :: p.log → c.Carries v
  polled : (p.beforeMessage inp).vdmSlot.Holds v ∨
    (p.beforeMessage inp).pd.vdmState ∈ [VdmState.errBusy, .errSend, .errTmout]
  answered : (p.beforeMessage inp).vdmSlot.outstanding = true →
    (p.beforeSwitch b inp).vdmSlot.Holds v ∨
      ((p.beforeSwitch b inp).pd.vdmState = .done ∧
        ∃ m ∈ inp.message, m.isData .vendorDef = true ∧ initiates (firstObject m.payload) = false)
  switched : (p.beforeSwitch b inp).vdmSlot.outstanding = true →
    (p.step b (.iterate inp)).vdmSlot.Holds v

/-- The iteration loses the VDM `v`: the retry after Busy is another VDM, an initiator's
VDM arrives while the answer is awaited, or a READY state asks for the identity of the
partner while `v` waits. -/
def losesVdm (b : Board) (p : Port) (inp : Input) (v : List Word) : Bool :=
  (p.vdmSlot.retries (inp.time .vdm) && v != [p.pd.vdoRetry]) ||
    ((p.beforeMessage inp).pd.vdmState == .busy &&
      ((p.beforeMessage inp).vdmArrives inp).any initiates) ||
    ((p.beforeSwitch b inp).vdmSlot.outstanding && (p.beforeSwitch b inp).asksIdentity &&
      v != [discoverIdentity])

/-- What the poll transmits is in the slot. -/
theorem carries_vdm {p : Port} (hfilled : p.vdmSlot.Filled) (hid : p.pd.msgId < 8) (inp : Input)
    {c : Call} (hc : (p.beforeMessage inp).log = c :: p.log) :
    p.vdmSlot.state = .ready ∧ c.Carries p.vdmSlot.vdm := by
  have hkept : (p.applyReset inp.reset).vdmSlot = p.vdmSlot ∧
      (p.applyReset inp.reset).pd.msgId = p.pd.msgId ∧ (p.applyReset inp.reset).log = p.log := by
    cases inp.reset <;> exact ⟨rfl, rfl, rfl⟩
  unfold beforeMessage at hc
  rw [checkBoardAndEvents_eq] at hc
  generalize p.applyReset inp.reset = q at *
  obtain ⟨hslot, hmsgId, hlog⟩ := hkept
  rw [log_pdVdmSendStateMachine, hlog, hslot] at hc
  by_cases hsends : q.sendsVdm = true
  · rw [if_pos hsends] at hc
    obtain ⟨rfl, -⟩ := List.cons.inj hc
    have hcount : q.pd.vdoCount = p.vdmSlot.count := congrArg VdmSlot.count hslot
    have hstate : q.pd.vdmState = p.vdmSlot.state := congrArg VdmSlot.state hslot
    simp only [sendsVdm, decide_eq_true_eq] at hsends
    refine ⟨hstate.symm.trans hsends.1, _, _, rfl, q.headerType_header (by decide) _, ?_⟩
    rw [hfilled.length_vdm, hcount]
    refine headerCnt_pdHeader _ _ _ (by decide) (hmsgId ▸ hid) (by decide) ?_
    exact Nat.lt_succ_of_le hfilled.fits
  · rw [if_neg hsends] at hc
    exact absurd hc.symm (List.cons_ne_self _ _)

section

variable {p : Port} {v : List Word} {b : Board} {inp : Input}

theorem polled_iff (hholds : p.vdmSlot.Holds v) :
    ((p.beforeMessage inp).vdmSlot.Holds v ∨
        (p.beforeMessage inp).pd.vdmState ∈ [VdmState.errBusy, .errSend, .errTmout]) ↔
      (p.vdmSlot.retries (inp.time .vdm) && v != [p.pd.vdoRetry]) = false := by
  have hslot := p.vdmSlot_beforeMessage inp
  have hstate : (p.beforeMessage inp).pd.vdmState = (p.beforeMessage inp).vdmSlot.state := rfl
  have hretry : p.pd.vdoRetry = p.vdmSlot.retry := rfl
  rw [hstate, hslot, hretry]
  generalize p.vdmSlot = s at *
  generalize (p.applyReset inp.reset).pdIsConnected = connected
  generalize (!(p.applyReset inp.reset).pdoBusy) = ready
  generalize (p.pd.txStatus == .success) = succeeds
  have hvdm := s.vdm_poll connected ready succeeds (inp.time .vdm)
  have hfree := s.state_poll hholds.1 connected ready succeeds (inp.time .vdm)
  cases hretries : s.retries (inp.time .vdm) with
  | false =>
      rw [hretries] at hvdm
      simp only [Bool.false_eq_true, if_false, hholds.2] at hvdm
      simp only [Bool.false_and, iff_true]
      exact hfree.imp (fun hout => ⟨hout, hvdm⟩) id
  | true =>
      rw [hretries, if_pos rfl] at hvdm
      have hpoll := s.poll_of_retries hretries connected ready succeeds
      have hstate' : (s.poll connected ready succeeds (inp.time .vdm)).state = .ready := by
        rw [hpoll]
      have hout : (s.poll connected ready succeeds (inp.time .vdm)).outstanding = true := by
        rw [hpoll]
        rfl
      rw [Bool.true_and, bne_eq_false_iff_eq]
      constructor
      · rintro (hkept | hfreed)
        · exact hkept.2.symm.trans hvdm
        · rw [hstate'] at hfreed
          exact absurd hfreed (by decide)
      · rintro rfl
        exact .inl ⟨hout, hvdm⟩

/-- The VDM that arrives is in the message. -/
theorem vdmArrives_eq_some {q : Port} {hdr : Word} (h : q.vdmArrives inp = some hdr) :
    ∃ m, inp.message = some m ∧ m.isData .vendorDef = true ∧ firstObject m.payload = hdr := by
  unfold vdmArrives at h
  cases hmessage : inp.message with
  | none => simp [hmessage] at h
  | some m =>
      simp only [hmessage] at h
      split_ifs at h with harrives
      exact ⟨m, rfl, harrives.2, Option.some.inj h⟩

theorem answered_iff (hholds : (p.beforeMessage inp).vdmSlot.Holds v) :
    ((p.beforeSwitch b inp).vdmSlot.Holds v ∨
        ((p.beforeSwitch b inp).pd.vdmState = .done ∧
          ∃ m ∈ inp.message, m.isData .vendorDef = true ∧
            initiates (firstObject m.payload) = false)) ↔
      ((p.beforeMessage inp).pd.vdmState == .busy &&
        ((p.beforeMessage inp).vdmArrives inp).any initiates) = false := by
  have hslot := p.vdmSlot_beforeSwitch b inp
  have hstate : (p.beforeSwitch b inp).pd.vdmState = (p.beforeSwitch b inp).vdmSlot.state := rfl
  have hbefore : (p.beforeMessage inp).pd.vdmState = (p.beforeMessage inp).vdmSlot.state := rfl
  rw [hstate, hbefore]
  generalize (p.beforeSwitch b inp).vdmSlot = t at *
  cases harrives : (p.beforeMessage inp).vdmArrives inp with
  | none =>
      rw [harrives] at hslot
      rw [hslot]
      simpa using Or.inl hholds
  | some hdr =>
      obtain ⟨m, hm, hdata, hhdr⟩ := vdmArrives_eq_some harrives
      simp only [harrives] at hslot
      rw [hslot, Option.any_some]
      generalize (p.beforeMessage inp).vdmSlot = s at *
      by_cases hbusy : s.state = .busy
      · by_cases hretry : pdVdoCmdt hdr = 3
        · have hquiet : initiates hdr = false := by simp [initiates, hretry]
          have hwaits : (s.answer (inp.time .message) hdr).Holds v := by
            refine ⟨?_, (s.vdm_answer _ _).trans hholds.2⟩
            simp [VdmSlot.answer, hbusy, hretry, VdmSlot.outstanding]
          simp [hquiet, hwaits]
        · have hdone : (s.answer (inp.time .message) hdr).state = .done := by
            simp [VdmSlot.answer, hbusy, hretry]
          have hfreed : ¬ (s.answer (inp.time .message) hdr).Holds v := by
            intro hkept
            have hout := hkept.1
            simp [VdmSlot.outstanding, hdone] at hout
          simp [hdone, hfreed, hm, hdata, hhdr, hbusy]
      · have hsame : s.answer (inp.time .message) hdr = s := if_neg hbusy
        rw [hsame]
        simp [hholds, hbusy]

theorem switched_iff (hholds : (p.beforeSwitch b inp).vdmSlot.Holds v) :
    (p.step b (.iterate inp)).vdmSlot.Holds v ↔
      ((p.beforeSwitch b inp).asksIdentity && v != [discoverIdentity]) = false := by
  rw [vdmSlot_iterate]
  cases hasks : (p.beforeSwitch b inp).asksIdentity with
  | false => simpa using hholds
  | true =>
      rw [if_pos rfl, Bool.true_and, bne_eq_false_iff_eq]
      constructor
      · intro hkept
        exact hkept.2.symm.trans (VdmSlot.vdm_queue _ _ _)
      · rintro rfl
        exact ⟨rfl, VdmSlot.vdm_queue _ _ _⟩

/-- A VDM that is outstanding at the switch was outstanding before the message. -/
theorem outstanding_beforeMessage (h : (p.beforeSwitch b inp).vdmSlot.outstanding = true) :
    (p.beforeMessage inp).vdmSlot.outstanding = true := by
  rw [vdmSlot_beforeSwitch] at h
  split at h
  · unfold VdmSlot.answer at h
    split_ifs at h with hbusy
    · simp [VdmSlot.outstanding, hbusy]
    · cases h
    · exact h
  · exact h

/-- An outstanding VDM is not in an error state. -/
theorem holds_of_outstanding {q : Port} (hout : q.vdmSlot.outstanding = true)
    (h : q.vdmSlot.Holds v ∨ q.pd.vdmState ∈ [VdmState.errBusy, .errSend, .errTmout]) :
    q.vdmSlot.Holds v := by
  refine h.resolve_right fun hfreed => ?_
  change decide (q.pd.vdmState = .ready ∨ q.pd.vdmState = .busy ∨ q.pd.vdmState = .waitRspBusy) =
    true at hout
  revert hout hfreed
  cases q.pd.vdmState <;> decide

theorem holds_at_switch (hout : (p.beforeSwitch b inp).vdmSlot.outstanding = true)
    (hpolled : (p.beforeMessage inp).vdmSlot.Holds v ∨
      (p.beforeMessage inp).pd.vdmState ∈ [VdmState.errBusy, .errSend, .errTmout])
    (hquiet : ((p.beforeMessage inp).pd.vdmState == .busy &&
      ((p.beforeMessage inp).vdmArrives inp).any initiates) = false) :
    (p.beforeSwitch b inp).vdmSlot.Holds v := by
  have hholds := holds_of_outstanding (outstanding_beforeMessage hout) hpolled
  refine ((answered_iff hholds).2 hquiet).resolve_right fun hdone => ?_
  simp [VdmSlot.outstanding, vdmSlot, hdone.1] at hout

theorem keepsVdm_iff (hholds : p.vdmSlot.Holds v) (hfilled : p.vdmSlot.Filled)
    (hid : p.pd.msgId < 8) : p.KeepsVdm b inp v ↔ p.losesVdm b inp v = false := by
  unfold losesVdm
  rw [Bool.or_eq_false_iff, Bool.or_eq_false_iff, ← polled_iff hholds]
  constructor
  · intro hkeeps
    have hquiet : ((p.beforeMessage inp).pd.vdmState == .busy &&
        ((p.beforeMessage inp).vdmArrives inp).any initiates) = false := by
      by_cases hbusy : (p.beforeMessage inp).pd.vdmState = .busy
      · have hout : (p.beforeMessage inp).vdmSlot.outstanding = true := by
          simp [VdmSlot.outstanding, vdmSlot, hbusy]
        exact (answered_iff (holds_of_outstanding hout hkeeps.polled)).1 (hkeeps.answered hout)
      · simp [hbusy]
    refine ⟨⟨hkeeps.polled, hquiet⟩, ?_⟩
    cases hout : (p.beforeSwitch b inp).vdmSlot.outstanding with
    | false => rfl
    | true =>
        rw [Bool.true_and]
        exact (switched_iff (holds_at_switch hout hkeeps.polled hquiet)).1 (hkeeps.switched hout)
  · rintro ⟨⟨hpolled, hquiet⟩, hfree⟩
    refine ⟨fun c hc => hholds.2 ▸ (carries_vdm hfilled hid inp hc).2, hpolled, fun hout => ?_,
      fun hout => ?_⟩
    · exact (answered_iff (holds_of_outstanding hout hpolled)).2 hquiet
    · rw [hout, Bool.true_and] at hfree
      exact (switched_iff (holds_at_switch hout hpolled hquiet)).2 hfree

end

/-- What the observer remembers: the VDM that the last call of `pd_send_vdm` queued,
until the slot is freed or holds another one. -/
def noteVdm (b : Board) (p : Port) (e : Event) (memory : Option (List Word)) :
    Option (List Word) :=
  match e with
  | .sendVdm vid cmd data =>
    if 6 < data.length then memory else some (vdo vid (vdmType vid cmd) cmd :: data)
  | .iterate inp => memory.filter fun v => (p.beforeMessage inp).vdmSlot.outstanding &&
      (p.beforeSwitch b inp).vdmSlot.outstanding && (p.step b e).vdmSlot.Holds v
  | _ => memory

/-- An iteration keeps the VDM that the caller has queued. -/
def KeepsQueued (b : Board) (s : Port × Option (List Word)) (e : Event) : Prop :=
  ∀ v ∈ s.2, ∀ inp, e = .iterate inp → s.1.KeepsVdm b inp v

/-- Nothing in an iteration loses it. -/
def SafeForQueued (b : Board) (s : Port × Option (List Word)) (e : Event) : Prop :=
  ∀ v ∈ s.2, ∀ inp, e = .iterate inp → s.1.losesVdm b inp v = false

/-- What the observer remembers is in the slot. -/
structure Remembered (s : Port × Option (List Word)) : Prop where
  holds : ∀ v ∈ s.2, s.1.vdmSlot.Holds v
  filled : s.1.vdmSlot.Filled
  linked : Linked s.1

theorem remembered_step (b : Board) (s : Port × Option (List Word)) (e : Event)
    (h : Remembered s) : Remembered (Machine.observed (step b) (noteVdm b) s e) := by
  refine ⟨?_, filled_step h.filled b e, h.linked.step b e⟩
  obtain ⟨p, memory⟩ := s
  intro v hv
  cases e with
  | iterate inp =>
      simp only [Machine.observed, noteVdm, Option.mem_def, Option.filter_eq_some_iff,
        Bool.and_eq_true, decide_eq_true_eq] at hv
      exact hv.2.2
  | sendVdm vid cmd data =>
      simp only [Machine.observed, noteVdm] at hv
      change (p.pdSendVdm vid cmd data).vdmSlot.Holds v
      rw [vdmSlot_pdSendVdm]
      split_ifs at hv ⊢
      · exact h.holds v hv
      · obtain rfl := Option.some.inj hv
        exact ⟨rfl, VdmSlot.vdm_queue _ _ _⟩
  | _ =>
      simp only [Machine.observed]
      rw [p.vdmSlot_call b rfl (by intro _ _ _ hsend; cases hsend)]
      exact h.holds v hv

theorem remembered_setup : Remembered (setup, none) where
  holds := fun v hv => by cases hv
  filled := ⟨by decide, by decide⟩
  linked := Linked.setup

/-- In every run, every VDM that `pd_send_vdm` queues goes out as it was queued and
stays in its slot until a response or an error frees it, exactly when nothing in an
iteration loses it. -/
theorem keepsQueued_iff (b : Board) (es : List Event) :
    Machine.Along (Machine.observed (step b) (noteVdm b)) (KeepsQueued b) (setup, none) es ↔
      Machine.Along (Machine.observed (step b) (noteVdm b)) (SafeForQueued b) (setup, none) es := by
  refine Machine.along_congr_of_invariant (remembered_step b) (fun s e h => ?_) remembered_setup es
  refine forall₄_congr fun v hv inp he => ?_
  exact keepsVdm_iff (h.holds v hv) h.filled (h.linked.msgId ▸ nextId_lt s.1.log)

/-- A source that has been told to wait for the retry of a VDM asks for the identity of
its sink instead. -/
def identityAsked : List Event :=
  readyAsSource ++
    [iterateAt 290000 rdOnCc1 none, .sendVdm 0x1234 5 [],
      iterateAt 300000 rdOnCc1 (some (dataMsg .sinkCap [fiveVolts] one_object_lt)),
      iterateAt 310000 rdOnCc1 none,
      iterateAt 320000 rdOnCc1 (some (dataMsg .vendorDef [0x123480C5] one_object_lt))]

theorem not_keepsQueued_identity :
    ¬ ∀ (b : Board) (es : List Event),
      Machine.Along (Machine.observed (step b) (noteVdm b)) (KeepsQueued b) (setup, none) es := by
  intro h
  have hlast := ((Machine.along_append_singleton _ _ _ _ _).1 (h .shipped (identityAsked ++
    [iterateAt 330000 rdOnCc1 none]))).2
  have hkeeps := hlast [0x12348005] (by decide +kernel) _ rfl
  have hholds := hkeeps.switched (by decide +kernel)
  revert hholds
  decide +kernel

end Port

end UsbPd
