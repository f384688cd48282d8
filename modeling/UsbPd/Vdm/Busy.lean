import UsbPd.Vdm.Kept

/-!
# The retry after Busy

A partner that answers a VDM with Busy is asked again later. The retry is built
from the header of the answer alone, so it is the VDM that was refused only when
this VDM has no data objects and the answer repeats its header.
-/

namespace UsbPd

/-- `PD_VDO_VID`. -/
def pdVdoVid (vdo : Word) : Word := vdo >>> 16

/-- `PD_VDO_OPOS`. -/
def pdVdoOpos (vdo : Word) : Nat := (vdo >>> 8).toNat % 8

/-- The headers ask for the same command of the same SVID at the same object position. -/
structure SameHeader (hdr hdr' : Word) : Prop where
  vid : pdVdoVid hdr' = pdVdoVid hdr
  cmd : pdVdoCmd hdr' = pdVdoCmd hdr
  opos : pdVdoOpos hdr' = pdVdoOpos hdr

/-- The VDM `w` repeats `v`. -/
structure SameVdm (v w : List Word) : Prop where
  header : SameHeader (firstObject v) (firstObject w)
  data : w.tail = v.tail
  count : w.length = v.length

theorem SameVdm.refl (v : List Word) : SameVdm v v := ⟨⟨rfl, rfl, rfl⟩, rfl, rfl⟩

/-! The command type is all that a retry changes in the header of the answer. -/

theorem toNat_mod_two_pow_congr {x y : Word} {k : Nat}
    (h : ∀ i, i < k → x.getLsbD i = y.getLsbD i) : x.toNat % 2 ^ k = y.toNat % 2 ^ k := by
  refine Nat.eq_of_testBit_eq fun i => ?_
  rw [Nat.testBit_mod_two_pow, Nat.testBit_mod_two_pow]
  by_cases hi : i < k
  · rw [decide_eq_true hi, Bool.true_and, Bool.true_and]
    exact h i hi
  · simp [hi]

theorem getLsbD_retry (hdr : Word) {i : Nat} (hi : i ≠ 6 ∧ i ≠ 7) :
    (hdr &&& ~~~0xC0).getLsbD i = hdr.getLsbD i := by
  have hmask : ∀ j < 32, j ≠ 6 ∧ j ≠ 7 → (~~~(0xC0 : Word)).getLsbD j = true := by decide
  rw [BitVec.getLsbD_and]
  by_cases hlt : i < 32
  · rw [hmask i hlt hi, Bool.and_true]
  · rw [BitVec.getLsbD_of_ge hdr i (by omega), Bool.false_and]

theorem sameHeader_retry (hdr : Word) : SameHeader hdr (hdr &&& ~~~0xC0) where
  vid := by
    refine BitVec.eq_of_getLsbD_eq fun i _ => ?_
    unfold pdVdoVid
    rw [BitVec.getLsbD_ushiftRight, BitVec.getLsbD_ushiftRight]
    exact getLsbD_retry hdr (by omega)
  cmd := toNat_mod_two_pow_congr (k := 5) fun i hi => getLsbD_retry hdr (by omega)
  opos := by
    refine toNat_mod_two_pow_congr (k := 3) fun i hi => ?_
    rw [BitVec.getLsbD_ushiftRight, BitVec.getLsbD_ushiftRight]
    exact getLsbD_retry hdr (by omega)

namespace VdmSlot

variable {s : VdmSlot} {v : List Word}

/-- While the VDM `v` is outstanding the slot holds a repetition of it, and while it waits
for its retry the header of the answer is all of it. -/
structure Repeats (s : VdmSlot) (v : List Word) : Prop where
  vdm : s.outstanding = true → SameVdm v s.vdm
  retry : s.state = .waitRspBusy → v.length = 1 ∧ SameHeader (firstObject v) s.retry

theorem repeats_queue (s : VdmSlot) (header : Word) (data : List Word) :
    (s.queue header data).Repeats (header :: data) where
  vdm := fun _ => by
    rw [vdm_queue]
    exact .refl _
  retry := fun h => by cases h

namespace Repeats

theorem poll (h : s.Repeats v) (connected ready succeeds : Bool) (now : Nat) :
    (s.poll connected ready succeeds now).Repeats v := by
  cases hretries : s.retries now with
  | true =>
      have hwaits : s.state = .waitRspBusy := by
        simp only [retries, decide_eq_true_eq] at hretries
        exact hretries.1
      obtain ⟨hlength, hheader⟩ := h.retry hwaits
      obtain ⟨hdr, rfl⟩ := List.length_eq_one_iff.1 hlength
      rw [poll_of_retries s hretries]
      exact ⟨fun _ => ⟨hheader, rfl, rfl⟩, fun hstate => by cases hstate⟩
  | false =>
      obtain ⟨hretry, hout, hwaits⟩ := s.of_poll connected ready succeeds now
      have hvdm := s.vdm_poll connected ready succeeds now
      rw [hretries, if_neg Bool.false_ne_true] at hvdm
      constructor
      · intro houtstanding
        rw [hvdm]
        exact h.vdm (hout houtstanding)
      · intro hstate
        rw [hretry]
        exact h.retry (hwaits hstate)

theorem answer (h : s.Repeats v) (now : Nat) {hdr : Word}
    (hbusy : s.state = .busy → pdVdoCmdt hdr = 3 →
      v.length = 1 ∧ SameHeader (firstObject v) hdr) : (s.answer now hdr).Repeats v := by
  unfold VdmSlot.answer
  split_ifs with hstate hretry
  · obtain ⟨hlength, hheader⟩ := hbusy hstate hretry
    have hkept := sameHeader_retry hdr
    refine ⟨fun _ => h.vdm (by simp [outstanding, hstate]), fun _ => ⟨hlength, ?_⟩⟩
    exact ⟨hkept.vid.trans hheader.vid, hkept.cmd.trans hheader.cmd,
      hkept.opos.trans hheader.opos⟩
  · constructor
    · intro hout
      cases hout
    · intro hdone
      cases hdone
  · exact h

end Repeats

end VdmSlot

namespace Port

/-- The header of a Busy answer that the iteration takes for the VDM in flight. -/
def busyAnswer (p : Port) (inp : Input) : Option Word :=
  if (p.beforeMessage inp).pd.vdmState = .busy then
    ((p.beforeMessage inp).vdmArrives inp).filter fun hdr => pdVdoCmdt hdr = 3
  else none

/-- The event queues a VDM. -/
def queuesVdm (b : Board) (p : Port) : Event → Bool
  | .sendVdm _ _ data => data.length ≤ 6
  | .iterate inp => (p.beforeSwitch b inp).asksIdentity
  | _ => false

/-- A Busy answer that the event brings is structured and repeats SVID and command of
the VDM `v`. -/
def answersSameCommand (v : List Word) (p : Port) : Event → Bool
  | .iterate inp => (p.busyAnswer inp).all fun hdr => pdVdoSvdm hdr &&
      pdVdoVid hdr == pdVdoVid (firstObject v) && pdVdoCmd hdr == pdVdoCmd (firstObject v)
  | _ => true

/-- A Busy answer comes for a VDM without data objects and repeats its object position. -/
def retriable (v : List Word) (p : Port) : Event → Bool
  | .iterate inp => (p.busyAnswer inp).all fun hdr => v.length == 1 &&
      pdVdoOpos hdr == pdVdoOpos (firstObject v)
  | _ => true

/-- A VDM that the event transmits repeats `v`. -/
def RepeatsVdm (v : List Word) (p : Port) (e : Event) : Prop :=
  ∀ inp, e = .iterate inp → ∀ c, (p.beforeMessage inp).log = c :: p.log →
    ∃ w, c.Carries w ∧ SameVdm v w

theorem repeats_step {v : List Word} {p : Port} {e : Event} {b : Board}
    (h : p.vdmSlot.Repeats v) (hquiet : p.queuesVdm b e = false)
    (hanswers : p.answersSameCommand v e = true) (hretriable : p.retriable v e = true) :
    (p.step b e).vdmSlot.Repeats v := by
  cases e with
  | iterate inp =>
      have hpolled : (p.beforeMessage inp).vdmSlot.Repeats v := by
        rw [vdmSlot_beforeMessage]
        exact h.poll _ _ _ _
      have hasks : (p.beforeSwitch b inp).asksIdentity = false := hquiet
      rw [vdmSlot_iterate, hasks, if_neg Bool.false_ne_true, vdmSlot_beforeSwitch]
      split
      · rename_i hdr harrives
        refine hpolled.answer _ fun hbusy hretry => ?_
        have hbusy' : (p.beforeMessage inp).pd.vdmState = .busy := hbusy
        have htakes : p.busyAnswer inp = some hdr := by
          simp [busyAnswer, hbusy', harrives, hretry]
        simp only [answersSameCommand, retriable, htakes, Option.all_some, Bool.and_eq_true,
          beq_iff_eq] at hanswers hretriable
        exact ⟨hretriable.1, hanswers.1.2, hanswers.2, hretriable.2⟩
      · exact hpolled
  | sendVdm vid cmd data =>
      have hlength : 6 < data.length := by simpa [queuesVdm] using hquiet
      change (p.pdSendVdm vid cmd data).vdmSlot.Repeats v
      rw [vdmSlot_pdSendVdm, if_pos hlength]
      exact h
  | _ =>
      rw [p.vdmSlot_call b rfl (by intro _ _ _ hsend; cases hsend)]
      exact h

/-- The port between the call of `pd_send_vdm` and the next call. -/
structure Retrying (v : List Word) (p : Port) : Prop where
  repeats : p.vdmSlot.Repeats v
  filled : p.vdmSlot.Filled
  linked : Linked p

theorem Retrying.repeatsVdm {v : List Word} {p : Port} (h : Retrying v p) (e : Event) :
    p.RepeatsVdm v e := by
  intro inp _ c hc
  obtain ⟨hready, hcarries⟩ := carries_vdm h.filled (h.linked.msgId ▸ nextId_lt p.log) inp hc
  exact ⟨_, hcarries, h.repeats.vdm (by simp [VdmSlot.outstanding, hready])⟩

theorem Retrying.step {v : List Word} {p : Port} {e : Event} {b : Board} (h : Retrying v p)
    (hquiet : p.queuesVdm b e = false) (hanswers : p.answersSameCommand v e = true)
    (hretriable : p.retriable v e = true) : Retrying v (p.step b e) where
  repeats := repeats_step h.repeats hquiet hanswers hretriable
  filled := filled_step h.filled b e
  linked := h.linked.step b e

theorem retrying_sendVdm (b : Board) (es : List Event) (vid cmd : Word) {data : List Word}
    (hdata : data.length ≤ 6) :
    Retrying (vdo vid (vdmType vid cmd) cmd :: data) (after b (es ++ [.sendVdm vid cmd data])) := by
  have hfilled : (after b es).vdmSlot.Filled :=
    @Machine.run_preserves Port Event (step b) (fun p => p.vdmSlot.Filled)
      (fun p e h => filled_step h b e) setup remembered_setup.filled es
  have hlinked := Linked.after b es
  have hslot : ((after b es).step b (.sendVdm vid cmd data)).vdmSlot =
      (after b es).vdmSlot.queue (vdo vid (vdmType vid cmd) cmd) data := by
    change ((after b es).pdSendVdm vid cmd data).vdmSlot = _
    rw [vdmSlot_pdSendVdm, if_neg (by omega)]
  rw [after_append_singleton]
  refine ⟨?_, filled_step hfilled b _, hlinked.step b _⟩
  rw [hslot]
  exact VdmSlot.repeats_queue _ _ _

/-- From the call of `pd_send_vdm` on, as long as no other VDM is queued and every Busy
answer repeats SVID and command, everything that is transmitted repeats the VDM, provided
that Busy answers come for a VDM without data objects only and repeat its object
position. -/
theorem repeatsVdm_of_retriable (b : Board) (es : List Event) (vid cmd : Word)
    (data : List Word) (hdata : data.length ≤ 6) (fs : List Event)
    (hquiet : Machine.Along (step b) (fun p e => p.queuesVdm b e = false)
      (after b (es ++ [.sendVdm vid cmd data])) fs)
    (hanswers : Machine.Along (step b)
      (fun p e => p.answersSameCommand (vdo vid (vdmType vid cmd) cmd :: data) e = true)
      (after b (es ++ [.sendVdm vid cmd data])) fs)
    (hretriable : Machine.Along (step b)
      (fun p e => p.retriable (vdo vid (vdmType vid cmd) cmd :: data) e = true)
      (after b (es ++ [.sendVdm vid cmd data])) fs) :
    Machine.Along (step b) (RepeatsVdm (vdo vid (vdmType vid cmd) cmd :: data))
      (after b (es ++ [.sendVdm vid cmd data])) fs := by
  have hstart := retrying_sendVdm b es vid cmd hdata
  generalize after b (es ++ [.sendVdm vid cmd data]) = p at *
  generalize vdo vid (vdmType vid cmd) cmd :: data = v at *
  induction fs generalizing p with
  | nil => trivial
  | cons e fs ih =>
      have hnext : Retrying v (p.step b e) := hstart.step hquiet.1 hanswers.1 hretriable.1
      exact ⟨hstart.repeatsVdm e, ih _ hquiet.2 hanswers.2 hretriable.2 hnext⟩

/-- The answer to an Enter Mode command: Busy, then the retry is sent. -/
def busyOnce : List Event :=
  [iterateAt 230000 rpOnCc1 none,
    iterateAt 240000 rpOnCc1 (some (dataMsg .vendorDef [0x123484C4] (by decide))),
    iterateAt 350000 rpOnCc1 none, iterateAt 360000 rpOnCc1 none]

/-- A VDM without data objects is retried unchanged. -/
theorem repeatsVdm_busyOnce :
    Machine.Along (step .shipped) (RepeatsVdm [vdo 0x1234 (vdmType 0x1234 0x404) 0x404])
      (after .shipped (readyAsSink ++ [.sendVdm 0x1234 0x404 []])) busyOnce :=
  repeatsVdm_of_retriable .shipped readyAsSink 0x1234 0x404 [] (by decide) busyOnce
    (by decide +kernel) (by decide +kernel) (by decide +kernel)

/-- A data object is lost. -/
theorem not_repeatsVdm_data :
    ¬ ∀ (b : Board) (es : List Event) (vid cmd : Word) (data : List Word), data.length ≤ 6 →
      ∀ fs : List Event,
        Machine.Along (step b) (fun p e => p.queuesVdm b e = false)
          (after b (es ++ [.sendVdm vid cmd data])) fs →
        Machine.Along (step b)
          (fun p e => p.answersSameCommand (vdo vid (vdmType vid cmd) cmd :: data) e = true)
          (after b (es ++ [.sendVdm vid cmd data])) fs →
        Machine.Along (step b) (RepeatsVdm (vdo vid (vdmType vid cmd) cmd :: data))
          (after b (es ++ [.sendVdm vid cmd data])) fs := by
  intro h
  have hrepeats := h .shipped readyAsSink 0x1234 0x404 [7] (by decide) busyOnce
    (by decide +kernel) (by decide +kernel)
  obtain ⟨-, -, -, hretry, -⟩ := hrepeats
  obtain ⟨w, ⟨header, res, hc, -, -⟩, hsame⟩ :=
    hretry _ rfl (.transmit .sop 4175 [0x12348404] 1) (by decide +kernel)
  obtain ⟨-, -, rfl, -⟩ := Call.transmit.inj hc
  have hcount := hsame.count
  revert hcount
  decide

end Port

end UsbPd
