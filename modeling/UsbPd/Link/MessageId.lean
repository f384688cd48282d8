import UsbPd.Link.Transmit

/-!
# Message ids

`msg_id` advances when an alert is polled, not when a message is sent. Two
messages in a row therefore carry consecutive ids exactly when one success was
polled between them.
-/

namespace UsbPd

/-- The message id of an SOP transmission. -/
def Call.sopId : Call → Option Nat
  | .transmit .sop header _ _ => some (headerId header)
  | _ => none

/-- An SOP message of the run: its message id and its number. -/
structure SopMessage where
  id : Nat
  number : Nat

/-- The SOP message sent last, unless `msg_id` was reset since. -/
def previousSop : List Call → Option SopMessage
  | [] => none
  | .msgIdReset :: _ => none
  | .transmit .sop header _ _ :: log => some ⟨headerId header, sopCount log⟩
  | _ :: log => previousSop log

/-- The successes reported since the last SOP message. -/
def reportsSince : List Call → Nat
  | [] => 0
  | .alert irq :: log => reportsSince log + irq.successes
  | .transmit .sop _ _ _ :: _ => 0
  | _ :: log => reportsSince log

theorem Call.Faithful.sopId {c : Call} {earlier : List Call} (h : c.Faithful earlier) {id : Nat}
    (hid : id ∈ c.sopId) : id = nextId earlier := by
  cases c with
  | transmit type header data res =>
      cases type with
      | sop =>
          obtain rfl := Option.some.inj hid
          exact h.2 rfl
      | _ => cases hid
  | _ => cases hid

/-- Without a reset, the next id counts the successes since the last message. -/
theorem nextId_previousSop {log : List Call} (h : Machine.Each Call.Faithful log) {m : SopMessage}
    (hm : m ∈ previousSop log) : nextId log = (m.id + reportsSince log) % 8 := by
  induction log with
  | nil => cases hm
  | cons c log ih =>
      obtain ⟨hc, hlog⟩ := h
      cases c with
      | msgIdReset => cases hm
      | alert irq =>
          have ih' := ih hlog hm
          simp only [nextId, reportsSince, ih']
          omega
      | transmit type header data res =>
          cases type with
          | sop =>
              obtain rfl := Option.some.inj hm
              have hid : headerId header = nextId log := hc.2 rfl
              simp only [nextId, reportsSince, hid]
              exact (Nat.mod_eq_of_lt (nextId_lt log)).symm
          | _ => exact ih hlog hm
      | _ => exact ih hlog hm

namespace Port

/-- Of two SOP messages in a row, the second carries the next id if the partner
acknowledged the first, and the same id otherwise. -/
def IdsAdvance (p : Port) (acked : Nat → Bool) : Prop :=
  Machine.Each (fun c earlier => ∀ id ∈ c.sopId, ∀ m ∈ previousSop earlier,
    id = if acked m.number then (m.id + 1) % 8 else m.id) p.log

/-- Between two SOP messages in a row, one success was reported if the partner
acknowledged the first, and none otherwise; the count wraps as the id does. -/
def ReportedOnce (p : Port) (acked : Nat → Bool) : Prop :=
  Machine.Each (fun c earlier => ∀ _id ∈ c.sopId, ∀ m ∈ previousSop earlier,
    reportsSince earlier % 8 = if acked m.number then 1 else 0) p.log

end Port

theorem previousSop_id_lt {log : List Call} {m : SopMessage} (hm : m ∈ previousSop log) :
    m.id < 8 := by
  induction log with
  | nil => cases hm
  | cons c log ih =>
      cases c with
      | msgIdReset => cases hm
      | transmit type header data res =>
          cases type with
          | sop =>
              obtain rfl := Option.some.inj hm
              exact Nat.mod_lt _ (by decide)
          | _ => exact ih hm
      | _ => exact ih hm

/-- In every run and for every partner, the ids advance with the
acknowledgements exactly when the alerts between two messages report the
acknowledgement of the first. -/
theorem Port.idsAdvance_iff (b : Board) (es : List Event) (acked : Nat → Bool) :
    (after b es).IdsAdvance acked ↔ (after b es).ReportedOnce acked := by
  refine (Linked.after b es).sent.congr fun c earlier hsent hearlier => ?_
  refine forall₂_congr fun id hid => forall₂_congr fun m hm => ?_
  have hlt := previousSop_id_lt hm
  rw [hsent.sopId hid, nextId_previousSop hearlier hm]
  cases acked m.number with
  | true =>
      simp only [if_true]
      omega
  | false =>
      simp only [Bool.false_eq_true, if_false]
      omega

/-- A sink that answers a GET_SINK_CAP in the iteration that sends its VDM, with
every message acknowledged. -/
def Port.sinkAnswers : List Event :=
  attachAsSink ++
    [.alert ⟨0, 0x04, 0⟩ 110000,
      iterateAt 200000 rpOnCc1 (some (dataMsg .sourceCap [fiveVolts] one_object_lt)),
      .alert ⟨0, 0x04, 0⟩ 201000,
      iterateAt 210000 rpOnCc1 (some (ctrlMsg .accept)),
      iterateAt 220000 rpOnCc1 (some (ctrlMsg .psRdy)),
      .sendVdm 0x18d1 1 [],
      iterateAt 230000 rpOnCc1 (some (ctrlMsg .getSinkCap)),
      .alert ⟨0, 0x04, 0⟩ 231000]

/-- The VDM and the answer carry the same id. -/
theorem Port.not_idsAdvance_vdm :
    ¬ ∀ (es : List Event) (acked : Nat → Bool), (after .shipped es).OutcomesPolled acked →
      (after .shipped es).IdsAdvance acked := by
  intro h
  have hids := h sinkAnswers (fun _ => true) (by unfold OutcomesPolled; decide +kernel)
  revert hids
  unfold IdsAdvance
  decide +kernel

end UsbPd
