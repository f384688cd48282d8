import UsbPd.Frame.Step
import UsbPd.Link.Log
import UsbPd.Sink.Offers

/-!
# Messages on the wire

The controller puts as many data objects behind a header as the header
announces. The messages that a port has sent are read off its log, and those of a
source that carry capabilities carry its table.
-/

namespace UsbPd

theorem DataMsgType.ofField_eq_some {n : Nat} {t : DataMsgType} :
    DataMsgType.ofField n = some t ↔ n = t.toNat := by
  constructor
  · intro h
    unfold ofField at h
    split at h <;> cases h <;> rfl
  · rintro rfl
    exact t.ofField_toNat

theorem PdMsg.isData_iff {m : PdMsg} {t : DataMsgType} :
    m.isData t = true ↔ headerCnt m.head ≠ 0 ∧ headerType m.head = t.toNat := by
  rw [isData, decide_eq_true_eq, DataMsgType.ofField_eq_some]

/-- What the partner reads of a transmission: the header and the data objects that
it announces. -/
def wire (header : BitVec 16) (data : List Word) : PdMsg where
  head := header
  payload := (data ++ List.replicate 7 0).take (headerCnt header)
  length_payload := by
    have hlt : headerCnt header < 8 := Nat.mod_lt _ (by decide)
    rw [List.length_take, List.length_append, List.length_replicate]
    omega

theorem payload_wire (header : BitVec 16) (data : List Word) :
    (wire header data).payload = (data ++ List.replicate 7 0).take (headerCnt header) := rfl

/-- The message of a transmission. -/
def Call.sent : Call → Option PdMsg
  | .transmit .sop header data _ => some (wire header data)
  | _ => none

/-- The messages sent, oldest first. -/
def sentMsgs : List Call → List PdMsg
  | [] => []
  | c :: log => sentMsgs log ++ c.sent.toList

theorem sentMsgs_append (new log : List Call) :
    sentMsgs (new ++ log) = sentMsgs log ++ sentMsgs new := by
  induction new with
  | nil => simp [sentMsgs]
  | cons c new ih => rw [List.cons_append, sentMsgs, ih, sentMsgs, List.append_assoc]

theorem exists_of_mem_sentMsgs {log : List Call} {m : PdMsg} (h : m ∈ sentMsgs log) :
    ∃ c ∈ log, c.sent = some m := by
  induction log with
  | nil => cases h
  | cons c log ih =>
      rcases List.mem_append.1 h with hmem | hmem
      · obtain ⟨c', hc', hsent⟩ := ih hmem
        exact ⟨c', List.mem_cons_of_mem c hc', hsent⟩
      · exact ⟨c, List.mem_cons_self .., Option.mem_toList.1 hmem⟩

/-! Requests among the messages. -/

theorem isRequest_iff {header : BitVec 16} (data : List Word) :
    isRequest header = true ↔ (wire header data).isData .request = true := by
  rw [PdMsg.isData_iff, isRequest, decide_eq_true_eq]
  rfl

theorem firstObject_wire {header : BitVec 16} (hcnt : headerCnt header ≠ 0) (data : List Word) :
    firstObject (wire header data).payload = firstObject data := by
  obtain ⟨n, hn⟩ := Nat.exists_eq_succ_of_ne_zero hcnt
  rw [payload_wire, hn]
  cases data <;> rfl

theorem Call.sent_of_request {c : Call} {rdo : Word} (h : c.request = some rdo) :
    ∃ m, c.sent = some m ∧ m.isData .request = true ∧ firstObject m.payload = rdo := by
  unfold request at h
  split at h
  · rename_i header data res
    split_ifs at h with hrequest
    have hcnt : headerCnt header ≠ 0 := by
      unfold isRequest at hrequest
      exact (of_decide_eq_true hrequest).1
    refine ⟨wire header data, rfl, (isRequest_iff data).1 hrequest, ?_⟩
    rw [firstObject_wire hcnt]
    exact Option.some.inj h
  · cases h

theorem Call.request_ne_none {c : Call} {m : PdMsg} (h : c.sent = some m)
    (hm : m.isData .request = true) : c.request ≠ none := by
  unfold sent at h
  split at h
  · rename_i header data res
    obtain rfl := Option.some.inj h
    change (if isRequest header then some (firstObject data) else none) ≠ none
    rw [if_pos ((isRequest_iff data).2 hm)]
    exact Option.some_ne_none _
  · cases h

/-- From a Request on, the last Request of the log is among the messages. -/
theorem lastRequest_mem {log : List Call} {i : Nat} {m : PdMsg}
    (hget : (sentMsgs log)[i]? = some m) (hm : m.isData .request = true) :
    ∃ r, lastRequest log = some r ∧
      ∃ l ∈ (sentMsgs log).drop i, l.isData .request = true ∧ firstObject l.payload = r.1 := by
  induction log with
  | nil => cases hget
  | cons c log ih =>
      have hlt := (List.getElem?_eq_some_iff.1 hget).1
      rw [sentMsgs] at hget hlt ⊢
      cases hc : c.request with
      | some rdo =>
          obtain ⟨l, hsent, hl, hrdo⟩ := Call.sent_of_request hc
          rw [hsent] at hlt ⊢
          rw [List.length_append, Option.toList_some, List.length_singleton] at hlt
          refine ⟨⟨rdo, latestCaps log⟩, by simp [lastRequest, hc], l, ?_, hl, hrdo⟩
          rw [List.drop_append_of_le_length (by omega)]
          exact List.mem_append_right _ (by simp)
      | none =>
          rw [lastRequest_cons hc]
          by_cases hold : i < (sentMsgs log).length
          · rw [List.getElem?_append_left hold] at hget
            obtain ⟨r, hr, l, hl, hrequest⟩ := ih hget
            refine ⟨r, hr, l, ?_, hrequest⟩
            rw [List.drop_append_of_le_length (Nat.le_of_lt hold)]
            exact List.mem_append_left _ hl
          · rw [List.getElem?_append_right (Nat.not_lt.1 hold)] at hget
            have hsent := Option.mem_toList.1 (List.mem_of_getElem? hget)
            exact absurd hc (Call.request_ne_none hsent hm)

/-! The kinds of the messages. -/

theorem Call.kind_of_sent {c : Call} {m : PdMsg} (h : c.sent = some m) :
    (m.isData .request = true → c.kind = .request) ∧
      (m.isData .sourceCap = true → c.kind = .caps) := by
  unfold sent at h
  split at h
  · rename_i header data res
    obtain rfl := Option.some.inj h
    simp only [PdMsg.isData_iff, kind, saysAccept, saysRequest, saysCaps, decide_eq_true_eq]
    refine ⟨fun hm => ?_, fun hm => ?_⟩
    · have htype : headerType header = DataMsgType.request.toNat := hm.2
      simp [htype, DataMsgType.toNat, CtrlMsgType.toNat]
    · have htype : headerType header = DataMsgType.sourceCap.toNat := hm.2
      simp [htype, DataMsgType.toNat, CtrlMsgType.toNat]
  · cases h

/-! A log only grows. -/

theorem suffix_of_does {W : List Part} {K : List CallKind} {p q : Port} (h : Does W K p q) :
    p.log <:+ q.log := by
  obtain ⟨new, hnew, -⟩ := h.adds
  exact ⟨new, hnew.symm⟩

namespace Port

theorem suffix_receive (p : Port) (b : Board) (inp : Input) : p.log <:+ (p.receive b inp).log := by
  unfold receive
  split
  · exact List.suffix_rfl
  · rename_i m _
    exact (suffix_of_does (p.does_record (.received m))).trans
      (suffix_of_does (does_handleRequest _ b _ m))

theorem suffix_step (p : Port) (b : Board) (e : Event) : p.log <:+ (p.step b e).log := by
  cases e with
  | iterate inp =>
      have hmessage : p.log <:+ ((p.beforeMessage inp).receive b inp).log :=
        (suffix_of_does (p.does_beforeMessage inp)).trans
          ((p.beforeMessage inp).suffix_receive b inp)
      have hbefore : p.log <:+ (p.beforeSwitch b inp).log :=
        hmessage.trans (suffix_of_does (does_applySuspend _))
      have hswitch : p.log <:+ ((p.beforeSwitch b inp).runState b inp).log :=
        hbefore.trans (suffix_of_does (does_runState _ b inp))
      exact hswitch.trans (suffix_of_does (does_finish _ _ inp))
  | _ => exact suffix_of_does (p.does_call b rfl)

/-- The messages that a step adds. -/
def newMsgs (p q : Port) : List PdMsg := (sentMsgs q.log).drop (sentMsgs p.log).length

theorem sentMsgs_newMsgs {p q : Port} (h : p.log <:+ q.log) :
    sentMsgs q.log = sentMsgs p.log ++ newMsgs p q := by
  obtain ⟨new, hnew⟩ := h
  rw [newMsgs, ← hnew, sentMsgs_append, List.drop_left]

end Port

end UsbPd
