import UsbPd.Sink.Record

/-!
# A sink with one source

A sink whose source always offers the same capabilities has them in its table as
soon as it has any, so the index of the sketch stays in range, and every Request
names one of them.
-/

namespace UsbPd

/-- The capabilities received are `caps` each time. -/
def Heard (caps : List Word) (log : List Call) : Prop :=
  ∀ m, Call.received m ∈ log → m.isData .sourceCap = true → m.payload = caps

variable {caps : List Word} {log : List Call}

theorem Heard.cons (h : Heard caps log) {c : Call}
    (hc : ∀ m, c = .received m → m.isData .sourceCap = true → m.payload = caps) :
    Heard caps (c :: log) := by
  intro m hm
  rcases List.mem_cons.1 hm with heq | hmem
  · exact hc m heq.symm
  · exact h m hmem

theorem Heard.tail {c : Call} (h : Heard caps (c :: log)) : Heard caps log :=
  fun m hm => h m (List.mem_cons_of_mem c hm)

theorem Heard.latestCaps (h : Heard caps log) : latestCaps log = [] ∨ latestCaps log = caps := by
  induction log with
  | nil => exact .inl rfl
  | cons c log ih =>
      by_cases hc : c.offers = true
      · cases c with
        | received m =>
            right
            change m.isData .sourceCap = true at hc
            change (if m.isData .sourceCap then _ else _) = _
            rw [if_pos hc]
            exact h m (List.mem_cons_self ..) hc
        | _ => cases hc
      · rw [latestCaps_cons (by simpa using hc)]
        exact ih h.tail

/-- The last Request names one of the capabilities. -/
theorem Heard.lastRequest (h : Heard caps log) (hnamed : Machine.Each NamesOffered log)
    {r : Word × List Word} (hr : lastRequest log = some r) :
    r.2 = caps ∧ 1 ≤ rdoPos r.1 ∧ rdoPos r.1 ≤ caps.length := by
  induction log with
  | nil => cases hr
  | cons c log ih =>
      obtain ⟨hc, hrest⟩ := hnamed
      cases hrequest : c.request with
      | none =>
          rw [lastRequest_cons hrequest] at hr
          exact ih h.tail hrest hr
      | some rdo =>
          simp only [UsbPd.lastRequest, hrequest, Option.some.injEq] at hr
          subst hr
          rw [NamesOffered, hrequest] at hc
          obtain ⟨hpos, hlen, -⟩ := hc
          rcases h.tail.latestCaps with hnone | hsame
          · rw [hnone, List.length_nil] at hlen
            omega
          · rw [hsame] at hlen
            exact ⟨hsame, hpos, hlen⟩

theorem Call.offers_of_kind {c : Call} (h : c.kind ≠ .received) : c.offers = false := by
  cases c with
  | received => exact absurd rfl h
  | _ => rfl

theorem length_pos_of_sourceCap {m : PdMsg} (h : m.isData .sourceCap = true) :
    0 < m.payload.length := by
  rw [m.length_payload]
  exact Nat.pos_of_ne_zero (of_decide_eq_true h).1

/-- The port has heard of the capabilities `caps` only, and they are in its table if
any are. -/
structure Holds (caps : List Word) (p : Port) : Prop where
  heard : Heard caps p.log
  table : p.st.srcCapCnt = 0 ∨ (p.selection.stored = caps ∧ latestCaps p.log = caps)

namespace Holds

variable {p q : Port}

theorem of_does {W : List Part} {K : List CallKind} (h : Holds caps p) (hq : Does W K p q)
    (hW : .srcCaps ∉ W) (hK : .received ∉ K) : Holds caps q where
  heard := by
    refine hq.preserves (P := Heard caps) (fun c log hc hlog => hlog.cons fun m hm => ?_) h.heard
    subst hm
    exact absurd hc hK
  table := by
    obtain ⟨hsrc, hcnt⟩ := Prod.mk.inj (hq.keeps .srcCaps hW)
    have hlatest : latestCaps q.log = latestCaps p.log :=
      hq.read_eq fun c log hc => latestCaps_cons (Call.offers_of_kind fun heq => hK (heq ▸ hc)) log
    have hstored : q.selection.stored = p.selection.stored := by
      simp only [Selection.stored, Port.selection, hsrc, hcnt]
    rw [hcnt, hstored, hlatest]
    exact h.table

theorem received (h : Holds caps p) {m : PdMsg}
    (hm : m.isData .sourceCap = true → m.payload = caps) : Holds caps (p.record (.received m)) where
  heard := by
    refine h.heard.cons fun l hl hcaps => ?_
    cases hl
    exact hm hcaps
  table := by
    refine h.table.imp id fun ⟨hstored, hlatest⟩ => ⟨hstored, ?_⟩
    change (if m.isData .sourceCap then m.payload else latestCaps p.log) = caps
    split_ifs with hcaps
    · exact hm hcaps
    · exact hlatest

/-- New capabilities are stored. -/
theorem handleSourceCap (h : Holds caps p) (hlatest : latestCaps p.log = caps) :
    Holds caps (p.handleSourceCap caps) := by
  by_cases htakes : p.takesCaps = true
  · have hoffered : Holds caps (p.offered caps) := by
      have hflags : Does [.previousPdConn, .partner] [] p ((p.setFlags
          { p.pd.flags with previousPdConn := true }).pdUpdatePdoFlags (firstObject caps)) :=
        ((p.does_setPreviousPdConn true).trans (Port.does_pdUpdatePdoFlags _ _)).mono (by decide)
      have hstart := h.of_does hflags (by decide) (by decide)
      have hkept : latestCaps ((p.setFlags
          { p.pd.flags with previousPdConn := true }).pdUpdatePdoFlags (firstObject caps)).log =
          latestCaps p.log :=
        hflags.read_eq fun c log hc => absurd hc List.not_mem_nil
      unfold Port.offered
      generalize (p.setFlags { p.pd.flags with previousPdConn := true }).pdUpdatePdoFlags
        (firstObject caps) = q at hstart hkept
      refine ⟨hstart.heard.cons fun m hm => (by cases hm), .inr ⟨?_, ?_⟩⟩
      · exact List.take_left
      · exact hkept.trans hlatest
    exact hoffered.of_does (Port.does_requestOffered htakes caps) (by decide) (by decide)
  · have hsame : p.handleSourceCap caps = p := if_neg (by simpa [Port.takesCaps] using htakes)
    rw [hsame]
    exact h

theorem handleRequest (h : Holds caps p) (b : Board) (now : Nat) {m : PdMsg}
    (hm : m.isData .sourceCap = true → m.payload = caps ∧ latestCaps p.log = caps) :
    Holds caps (p.handleRequest b now m) := by
  by_cases hcaps : m.isData .sourceCap = true
  · obtain ⟨hpayload, hlatest⟩ := hm hcaps
    rw [Port.handleRequest_sourceCap b p now hcaps, hpayload]
    split_ifs
    · exact h.handleSourceCap hlatest
    · exact h
  · refine h.of_does (p.does_handleRequest b now m) ?_ ?_
    · unfold PdMsg.writes
      split_ifs with hcnt
      · cases htype : DataMsgType.ofField (headerType m.head) with
        | none => decide
        | some type =>
            cases type with
            | sourceCap => exact absurd (by simp [PdMsg.isData, hcnt, htype]) hcaps
            | _ => decide
      · cases CtrlMsgType.ofField (headerType m.head) with
        | none => decide
        | some type => cases type <;> decide
    · unfold PdMsg.calls
      split_ifs
      · cases DataMsgType.ofField (headerType m.head) with
        | none => decide
        | some type => cases type <;> decide
      · cases CtrlMsgType.ofField (headerType m.head) with
        | none => decide
        | some type => cases type <;> decide

theorem step (h : Holds caps p) (b : Board) (e : Event)
    (hcaps : ∀ r ∈ e.received, r.2.isData .sourceCap = true → r.2.payload = caps) :
    Holds caps (p.step b e) := by
  cases e with
  | iterate inp =>
      have hbefore := h.of_does (p.does_beforeMessage inp) (by decide) (by decide)
      have hheard : Holds caps ((p.beforeMessage inp).receive b inp) := by
        unfold Port.receive
        split
        · exact hbefore
        · rename_i m hmessage
          have hm := hcaps (inp, m) (by simp [Event.received, hmessage])
          refine (hbefore.received hm).handleRequest b _ fun hsource => ⟨hm hsource, ?_⟩
          change (if m.isData .sourceCap then m.payload else _) = caps
          rw [if_pos hsource]
          exact hm hsource
      have hstate : ∀ s, .srcCaps ∉ stateWrites s ∧ .received ∉ stateCalls s := by
        intro s
        cases s <;> decide
      have hsuspend : Holds caps (p.beforeSwitch b inp) :=
        hheard.of_does (Port.does_applySuspend _) (by decide) (by decide)
      have hswitch : Holds caps ((p.beforeSwitch b inp).runState b inp) :=
        hsuspend.of_does (Port.does_runState _ b inp) (hstate _).1 (hstate _).2
      exact hswitch.of_does (Port.does_finish _ _ inp) (by decide) (by decide)
  | _ => exact h.of_does (p.does_call b rfl) (by simp [Event.writes]) (by simp [Event.calls])

theorem setup (caps : List Word) : Holds caps Port.setup where
  heard := by
    intro m hm
    have hplain : (Call.received m).plain = true := Port.setup_plain _ hm
    cases hplain
  table := .inl rfl

end Holds

/-- A sink in step with the offers of its one source. -/
structure Client (caps : List Word) (p : Port) : Prop where
  offers : p.Offers
  holds : Holds caps p

namespace Client

variable {p : Port}

/-- The last Request and the power planned for it. -/
theorem planned (h : Client caps p) {r : Word × List Word} (hr : lastRequest p.log = some r) :
    1 ≤ rdoPos r.1 ∧ rdoPos r.1 ≤ caps.length ∧
      pdExtractPdoPower (namedPdo caps r.1) = (p.pd.currLimit, p.pd.supplyVoltage) := by
  obtain ⟨hcaps, hpos, hlen⟩ := h.holds.heard.lastRequest h.offers.requests.named hr
  refine ⟨hpos, hlen, ?_⟩
  rw [← hcaps]
  exact h.offers.requests.planned r hr

/-- The index is in range. -/
theorem index_lt (h : Client caps p) {payload : List Word} (hpayload : payload = caps)
    (hlen : 0 < payload.length) : p.st.sourceCapCurrentIndex < payload.length := by
  have hsettled := h.offers.settled
  have hindex : p.st.sourceCapCurrentIndex ≤ p.selection.srcCapCnt - 1 := by
    have hle : p.st.sourceCapCurrentIndex ≤ p.selection.sourceCapMaxIndex := hsettled.index_le
    rwa [hsettled.max_eq] at hle
  rcases h.holds.table with hzero | ⟨hstored, -⟩
  · change p.selection.srcCapCnt = 0 at hzero
    omega
  · have hcnt : payload.length = p.selection.srcCapCnt := by
      rw [hpayload, ← hstored, Selection.stored, List.length_take, hsettled.length_eq]
      exact Nat.min_eq_left hsettled.cnt_le
    omega

/-- Without capabilities 0 V have been requested already. -/
theorem voltage_of_empty (h : Client caps p) (hzero : p.selection.srcCapCnt = 0) :
    p.selection.request.supplyVoltage = p.pd.prevRequestMv := by
  have hsettled := h.offers.settled
  have hempty := hsettled.empty hzero
  have hindex : p.selection.sourceCapCurrentIndex = 0 := by
    have hle := hsettled.index_le
    rw [hsettled.max_eq, hzero] at hle
    exact Nat.le_zero.1 hle
  rw [Selection.request, Selection.selected, hindex, hempty.1]
  exact hempty.2.symm

theorem asksOffered (h : Client caps p) (e : Event)
    (hcaps : ∀ r ∈ e.received, r.2.isData .sourceCap = true → r.2.payload = caps) :
    p.asksOffered e = true := by
  cases e with
  | iterate inp =>
      cases hnew : p.newCaps inp with
      | some payload =>
          have hrange : p.st.sourceCapCurrentIndex < payload.length := by
            unfold Port.newCaps at hnew
            split at hnew
            · cases hnew
            · rename_i m hm
              split_ifs at hnew with htaken
              obtain rfl := Option.some.inj hnew
              have hpayload := hcaps (inp, m) (by simp [Event.received, hm]) htaken.1
              exact h.index_lt hpayload (length_pos_of_sourceCap htaken.1)
          simpa [Port.asksOffered, hnew] using hrange
      | none =>
          simp only [Port.asksOffered, hnew]
          rcases h.holds.table with hzero | ⟨hstored, hlatest⟩
          · simp [h.voltage_of_empty hzero]
          · simp [hstored, hlatest]
  | _ => rfl

/-- A sink that is offered `caps` only stays in step. -/
theorem step (h : Client caps p) (b : Board) (e : Event)
    (hcaps : ∀ r ∈ e.received, r.2.isData .sourceCap = true → r.2.payload = caps) :
    Client caps (p.step b e) where
  offers := h.offers.step b e (h.asksOffered e hcaps)
  holds := h.holds.step b e hcaps

theorem setup (caps : List Word) : Client caps Port.setup where
  offers := .setup
  holds := .setup caps

end Client

end UsbPd
