import UsbPd.Link.Log

/-!
# Offers and Requests

What the log says about the capabilities that were received and the Requests
that were sent, and the effects that leave both alone: every effect outside a
negotiation keeps the selection and adds neither capabilities nor a Request.
-/

namespace UsbPd

/-- The header of a Request. -/
def isRequest (header : BitVec 16) : Bool :=
  headerCnt header ≠ 0 ∧ headerType header = DataMsgType.request.toNat

/-- The request data object of a transmitted Request. -/
def Call.request : Call → Option Word
  | .transmit .sop header data _ => if isRequest header then some (firstObject data) else none
  | _ => none

/-- The PDOs of the Source_Capabilities message received last. -/
def latestCaps : List Call → List Word
  | [] => []
  | .received m :: log => if m.isData .sourceCap then m.payload else latestCaps log
  | _ :: log => latestCaps log

/-- The last Request, with the PDOs that were on offer. -/
def lastRequest : List Call → Option (Word × List Word)
  | [] => none
  | c :: log => match c.request with
    | some rdo => some (rdo, latestCaps log)
    | none => lastRequest log

/-- The PDO at the position that the RDO names. -/
def namedPdo (caps : List Word) (rdo : Word) : Word := caps.getD (rdoPos rdo - 1) 0

/-- A Request names one of the PDOs received last and is computed from it. -/
def NamesOffered (c : Call) (earlier : List Call) : Prop :=
  match c.request with
  | none => True
  | some rdo => 1 ≤ rdoPos rdo ∧ rdoPos rdo ≤ (latestCaps earlier).length ∧
      rdo = (requestObject (rdoPos rdo - 1) (namedPdo (latestCaps earlier) rdo)).rdo

instance decidableNamesOffered (c : Call) (earlier : List Call) :
    Decidable (NamesOffered c earlier) := by
  unfold NamesOffered
  split <;> infer_instance

/-- Every Request names an offered PDO, and the current and the voltage that the
port plans with are those of the PDO that the last Request names. -/
structure Port.RequestsOffered (p : Port) : Prop where
  named : Machine.Each NamesOffered p.log
  planned : ∀ r, lastRequest p.log = some r →
    pdExtractPdoPower (namedPdo r.2 r.1) = (p.pd.currLimit, p.pd.supplyVoltage)

/-- Capabilities have been received. -/
def Call.offers : Call → Bool
  | .received m => m.isData .sourceCap
  | _ => false

theorem latestCaps_cons {c : Call} (h : c.offers = false) (log : List Call) :
    latestCaps (c :: log) = latestCaps log := by
  cases c with
  | received m =>
      change (if m.isData .sourceCap then _ else _) = _
      rw [if_neg (by simpa [Call.offers] using h)]
  | _ => rfl

/-- At most seven PDOs are on offer. -/
theorem length_latestCaps_le (log : List Call) : (latestCaps log).length ≤ 7 := by
  induction log with
  | nil => exact Nat.zero_le 7
  | cons c log ih =>
      by_cases hc : c.offers = true
      · cases c with
        | received m =>
            change m.isData .sourceCap = true at hc
            change (if m.isData .sourceCap then m.payload else latestCaps log).length ≤ 7
            rw [if_pos hc, m.length_payload, headerCnt]
            omega
        | _ => cases hc
      · rw [latestCaps_cons (by simpa using hc)]
        exact ih

theorem lastRequest_cons {c : Call} (h : c.request = none) (log : List Call) :
    lastRequest (c :: log) = lastRequest log := by
  simp [lastRequest, h]

theorem namesOffered_of_none {c : Call} (h : c.request = none) (log : List Call) :
    NamesOffered c log := by
  simp [NamesOffered, h]

theorem Call.request_plain {c : Call} (h : c.plain = true) : c.request = none := by
  cases c with
  | transmit => cases h
  | _ => rfl

theorem Call.offers_plain {c : Call} (h : c.plain = true) : c.offers = false := by
  cases c with
  | received => cases h
  | _ => rfl

/-- The header of a message says whether it is a Request. -/
theorem isRequest_header (p : Port) (hid : p.pd.msgId < 8) {type cnt : Nat} (htype : type < 16)
    (hcnt : cnt < 8) : isRequest (p.header type cnt) =
      decide (cnt ≠ 0 ∧ type = DataMsgType.request.toNat) := by
  unfold isRequest Port.header
  rw [headerCnt_pdHeader _ _ _ htype hid (by decide) hcnt,
    headerType_pdHeader _ _ _ htype hid (by decide)]

/-- A header that the port writes for another message is not that of a Request. -/
theorem isRequest_of_writes {p : Port} (hid : p.pd.msgId < 8) {header : BitVec 16}
    (h : p.Writes header) : isRequest header = false := by
  obtain ⟨type, cnt, htype, hrequest, rfl⟩ := h
  by_cases hreq : type = DataMsgType.request.toNat
  · rw [isRequest_header p hid htype (by rw [hrequest hreq]; decide), hrequest hreq]
    simp
  · unfold isRequest Port.header
    rw [headerType_pdHeader _ _ _ htype hid (by decide)]
    simp [hreq]

/-- The port `q` has the selection, the offers and the Requests of `p`. -/
structure KeepsRequests (p q : Port) : Prop where
  selection : q.selection = p.selection
  caps : latestCaps q.log = latestCaps p.log
  last : lastRequest q.log = lastRequest p.log
  named : Machine.Each NamesOffered p.log → Machine.Each NamesOffered q.log
  msgId_lt : q.pd.msgId < 8

namespace KeepsRequests

variable {p q r : Port}

theorem refl (h : p.pd.msgId < 8) : KeepsRequests p p := ⟨rfl, rfl, rfl, id, h⟩

theorem assign (h : KeepsRequests p q) (hr : r.tracked = q.tracked) : KeepsRequests p r := by
  have hlog : r.log = q.log := congrArg Tracked.log hr
  have hid : r.pd.msgId = q.pd.msgId := congrArg Tracked.msgId hr
  refine ⟨(congrArg Tracked.selection hr).trans h.selection, ?_, ?_, ?_, ?_⟩
  · rw [hlog, h.caps]
  · rw [hlog, h.last]
  · rw [hlog]
    exact h.named
  · rw [hid]
    exact h.msgId_lt

/-- A new entry that is neither an offer nor a Request. -/
theorem entry (h : KeepsRequests p q) {c : Call} (hlog : r.log = c :: q.log)
    (hselection : r.selection = q.selection) (hid : r.pd.msgId < 8) (hrequest : c.request = none)
    (hoffers : c.offers = false) : KeepsRequests p r where
  selection := hselection.trans h.selection
  caps := by rw [hlog, latestCaps_cons hoffers, h.caps]
  last := by rw [hlog, lastRequest_cons hrequest, h.last]
  named := fun hp => by
    rw [hlog, Machine.each_cons]
    exact ⟨namesOffered_of_none hrequest _, h.named hp⟩
  msgId_lt := hid

theorem effect (h : KeepsRequests p q) (hr : Effect False q r) : KeepsRequests p r := by
  cases hr with
  | assign htracked => exact h.assign htracked
  | call _ hplain =>
      exact h.entry rfl rfl h.msgId_lt (Call.request_plain hplain) (Call.offers_plain hplain)
  | resetMsgId => exact h.entry rfl rfl (Nat.zero_lt_succ 7) rfl rfl
  | transmit _ type header data hwrites =>
      refine h.entry rfl rfl h.msgId_lt ?_ rfl
      cases type with
      | sop =>
          change (if isRequest header then _ else _) = _
          rw [isRequest_of_writes h.msgId_lt (hwrites rfl)]
          rfl
      | _ => rfl
  | negotiate hR => exact hR.elim
  | request hR => exact hR.elim

/-- Outside a negotiation nothing is requested. -/
theorem effects (h : KeepsRequests p q) (hr : Effects False q r) : KeepsRequests p r := by
  induction hr with
  | refl => exact h
  | tail _ hlast ih => exact ih.effect hlast

theorem received (h : KeepsRequests p q) {m : PdMsg} (hm : m.isData .sourceCap = false) :
    KeepsRequests p (q.record (.received m)) :=
  h.entry rfl rfl h.msgId_lt rfl hm

/-- The reports of an alert touch the link only. -/
theorem alert (h : KeepsRequests p q) (irq : Interrupts) :
    KeepsRequests p ((q.record (.alert irq)).completeTransmissions irq) := by
  have hid := (q.record (.alert irq)).completeTransmissions_msgId irq h.msgId_lt
  have hlog := (q.record (.alert irq)).completeTransmissions_log irq
  refine h.entry hlog ?_ (by rw [hid]; exact Nat.mod_lt _ (by decide)) rfl rfl
  unfold Port.completeTransmissions
  cases irq.collision <;> cases irq.txSuccess <;> cases irq.retryFail <;> cases irq.hardSent <;> rfl

theorem requestsOffered (h : KeepsRequests p q) (hp : p.RequestsOffered) : q.RequestsOffered where
  named := h.named hp.named
  planned := fun r hr => by
    have hcurr : q.pd.currLimit = p.pd.currLimit := congrArg Selection.currLimit h.selection
    have hvolt : q.pd.supplyVoltage = p.pd.supplyVoltage :=
      congrArg Selection.supplyVoltage h.selection
    rw [hcurr, hvolt]
    exact hp.planned r (h.last ▸ hr)

end KeepsRequests

end UsbPd
