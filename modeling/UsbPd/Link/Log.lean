import UsbPd.Effects.Iteration

/-!
# The link as the log tells it

`tx_status` and `msg_id` are what the polled alerts and the resets of the log
make of them, and every transmission was logged with the result and the message
id they had at that moment.
-/

namespace UsbPd

namespace Interrupts

/-- What the reports of an alert make of `tx_status`. -/
def report (irq : Interrupts) (status : TxStatus) : TxStatus :=
  let status := if irq.collision then .failed else status
  let status := if irq.txSuccess then .success else status
  let status := if irq.retryFail then .failed else status
  if irq.hardSent then .success else status

/-- How often an alert reports a success. -/
def successes (irq : Interrupts) : Nat := irq.txSuccess.toNat + irq.hardSent.toNat

end Interrupts

/-- The last status the alerts reported, success at power-on. -/
def lastReport : List Call → TxStatus
  | [] => .success
  | .alert irq :: log => irq.report (lastReport log)
  | _ :: log => lastReport log

/-- The message id of the next transmission. -/
def nextId : List Call → Nat
  | [] => 0
  | .msgIdReset :: _ => 0
  | .alert irq :: log => (nextId log + irq.successes) % 8
  | _ :: log => nextId log

theorem nextId_lt (log : List Call) : nextId log < 8 := by
  induction log with
  | nil => decide
  | cons c log ih =>
      cases c with
      | msgIdReset => exact Nat.zero_lt_succ 7
      | alert irq => exact Nat.mod_lt _ (by decide)
      | _ => exact ih

theorem lastReport_plain {c : Call} (h : c.plain = true) (log : List Call) :
    lastReport (c :: log) = lastReport log := by
  cases c with
  | alert => cases h
  | _ => rfl

theorem nextId_plain {c : Call} (h : c.plain = true) (log : List Call) :
    nextId (c :: log) = nextId log := by
  cases c with
  | alert => cases h
  | msgIdReset => cases h
  | _ => rfl

/-- The result of a transmission that follows the log. -/
def resultAfter (log : List Call) : Int := if lastReport log = .success then 1 else -1

/-- A transmission was logged with the result and, for SOP, the message id that
the log before it determines. -/
def Call.Faithful : Call → List Call → Prop
  | .transmit type header _ res, earlier =>
      res = resultAfter earlier ∧ (type = .sop → headerId header = nextId earlier)
  | _, _ => True

theorem Call.faithful_plain {c : Call} (h : c.plain = true) (log : List Call) :
    c.Faithful log := by
  cases c with
  | transmit => cases h
  | _ => trivial

/-- The state of the link is the one that the log tells. -/
structure Linked (p : Port) : Prop where
  txStatus : p.pd.txStatus = lastReport p.log
  msgId : p.pd.msgId = nextId p.log
  sent : Machine.Each Call.Faithful p.log

namespace Port

theorem headerId_header (p : Port) {type : Nat} (htype : type < 16) (hid : p.pd.msgId < 8)
    (cnt : Nat) : headerId (p.header type cnt) = p.pd.msgId :=
  headerId_pdHeader _ _ _ htype hid (by decide)

theorem incId_msgId (p : Port) : p.incId.pd.msgId = (p.pd.msgId + 1) % 8 :=
  Nat.and_two_pow_sub_one_eq_mod _ 3

theorem completeTransmissions_log (p : Port) (irq : Interrupts) :
    (p.completeTransmissions irq).log = p.log := by
  unfold completeTransmissions pdTransmitComplete
  cases irq.collision <;> cases irq.txSuccess <;> cases irq.retryFail <;> cases irq.hardSent <;> rfl

theorem completeTransmissions_txStatus (p : Port) (irq : Interrupts) :
    (p.completeTransmissions irq).pd.txStatus = irq.report p.pd.txStatus := by
  unfold completeTransmissions pdTransmitComplete Interrupts.report
  cases irq.collision <;> cases irq.txSuccess <;> cases irq.retryFail <;> cases irq.hardSent <;> rfl

theorem completeTransmissions_msgId (p : Port) (irq : Interrupts) (hid : p.pd.msgId < 8) :
    (p.completeTransmissions irq).pd.msgId = (p.pd.msgId + irq.successes) % 8 := by
  unfold completeTransmissions pdTransmitComplete Interrupts.successes
  cases irq.collision <;> cases irq.txSuccess <;> cases irq.retryFail <;> cases irq.hardSent <;>
    simp [incId_msgId, Nat.mod_eq_of_lt hid]

end Port

namespace Linked

variable {p q : Port}

theorem transmit (h : Linked p) (type : TransmitType) (header : BitVec 16) (data : List Word)
    (hheader : type = .sop → headerId header = p.pd.msgId) :
    Linked (p.pdTransmit type header data).2 := by
  have hres : (p.pdTransmit type header data).2.log =
      .transmit type header data (if p.pd.txStatus = .success then 1 else -1) :: p.log := rfl
  refine ⟨h.txStatus, h.msgId, ?_⟩
  rw [hres]
  refine ⟨⟨?_, fun hsop => ?_⟩, h.sent⟩
  · rw [h.txStatus]
    rfl
  · rw [hheader hsop, h.msgId]

theorem effect {R : Prop} (heffect : Effect R p q) (h : Linked p) : Linked q := by
  have hid : p.pd.msgId < 8 := h.msgId ▸ nextId_lt p.log
  cases heffect with
  | assign htracked =>
      have hid' : q.pd.msgId = p.pd.msgId := congrArg Tracked.msgId htracked
      have htx' : q.pd.txStatus = p.pd.txStatus := congrArg Tracked.txStatus htracked
      have hlog' : q.log = p.log := congrArg Tracked.log htracked
      exact ⟨htx'.trans (hlog' ▸ h.txStatus), hid'.trans (hlog' ▸ h.msgId), hlog' ▸ h.sent⟩
  | call _ hc =>
      refine ⟨?_, ?_, Call.faithful_plain hc p.log, h.sent⟩
      · rw [Port.record_log, lastReport_plain hc]
        exact h.txStatus
      · rw [Port.record_log, nextId_plain hc]
        exact h.msgId
  | resetMsgId => exact ⟨h.txStatus, rfl, trivial, h.sent⟩
  | transmit _ type header data hw =>
      refine h.transmit type header data fun hsop => ?_
      obtain ⟨t, cnt, ht, -, rfl⟩ := hw hsop
      exact p.headerId_header ht hid cnt
  | negotiate _ hsame =>
      obtain ⟨hid', htx', hlog'⟩ := hsame
      exact ⟨htx'.trans (hlog' ▸ h.txStatus), hid'.trans (hlog' ▸ h.msgId), hlog' ▸ h.sent⟩
  | request _ _ rdo => exact h.transmit _ _ _ fun _ => p.headerId_header (by decide) hid 1

theorem received (h : Linked p) (m : PdMsg) : Linked (p.record (.received m)) :=
  ⟨h.txStatus, h.msgId, trivial, h.sent⟩

theorem alert (h : Linked p) (irq : Interrupts) :
    Linked ((p.record (.alert irq)).completeTransmissions irq) := by
  have hid : p.pd.msgId < 8 := h.msgId ▸ nextId_lt p.log
  have hlog := (p.record (.alert irq)).completeTransmissions_log irq
  refine ⟨?_, ?_, ?_⟩
  · rw [Port.completeTransmissions_txStatus, hlog, Port.record_pd, h.txStatus]
    rfl
  · rw [(p.record (.alert irq)).completeTransmissions_msgId irq hid, hlog, Port.record_pd, h.msgId]
    rfl
  · rw [hlog]
    exact ⟨trivial, h.sent⟩

theorem setup : Linked Port.setup := by
  refine ⟨by decide, by decide, Machine.each_of_forall fun c hc earlier => ?_⟩
  exact Call.faithful_plain (Port.setup_plain c hc) earlier

/-- Every run tells its link. -/
theorem after (b : Board) (es : List Event) : Linked (Port.after b es) :=
  Port.after_preserves (fun _ _ heffect h => effect heffect h) (fun _ m h => h.received m)
    (fun _ irq h => h.alert irq) setup b es

end Linked

end UsbPd
