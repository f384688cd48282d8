import Mathlib.Data.List.Induction
import UsbPd.Control.Machine
import UsbPd.Frame.Step

/-!
# Dual-role requests

`pd_set_dual_role` stores the requested policy, and `pd_update_dual_role_config`
is to put it into effect in the next iteration. The event that calls it is
never set, so a request has an effect only when it asks for nothing.
-/

namespace UsbPd

namespace Port

/-- The request `s` makes a sink of the port. -/
def becomesSink (p : Port) (s : DualRoleState) : Bool :=
  p.pd.powerRole = .source ∧ ((s = .forceSink ∧ ¬ p.pd.flags.tsDtsPartner) ∨
    (s = .toggleOff ∧ p.pd.taskState = .srcDisconnected))

/-- The request `s` makes a source of the port. -/
def becomesSource (p : Port) (s : DualRoleState) : Bool :=
  p.pd.powerRole = .sink ∧ s = .forceSource

/-- What the request `s` is to make of the port `p`. -/
def DualRoleApplied (s : DualRoleState) (p q : Port) : Prop :=
  if p.becomesSink s then
    q.pd.powerRole = .sink ∧ q.pd.taskState = .snkDisconnected ∧ q.chip.pullingUp = false ∧
      (History.ofLog q.log).vbus = false
  else if p.becomesSource s then
    q.pd.powerRole = .source ∧ q.pd.taskState = .srcDisconnected ∧ q.chip.pullingUp = true
  else q = p

/-- The port at the check for events, ahead of which an iteration only applies its
reset argument and runs the VDM state machine. -/
def atEvents (p : Port) (inp : Input) : Port :=
  (p.applyReset inp.reset).pdVdmSendStateMachine (inp.time .vdm)

/-- The request made since the last iteration; the last call wins. -/
def notePending (pending : Option DualRoleState) : Event → Option DualRoleState
  | .iterate _ => none
  | .setDualRole s => some s
  | _ => pending

/-- The request that the iteration after the events `es` finds. -/
def pendingDualRole (es : List Event) : Option DualRoleState := es.foldl notePending none

/-- The port changes its role for the request `s` in an iteration that begins with
the reset argument `reset`. -/
def changesRole (p : Port) (reset : Bool) (s : DualRoleState) : Bool :=
  (p.applyReset reset).becomesSink s || p.becomesSource s

theorem pendingDualRole_append_singleton (es : List Event) (e : Event) :
    pendingDualRole (es ++ [e]) = notePending (pendingDualRole es) e := by
  unfold pendingDualRole
  rw [List.foldl_append]
  rfl

/-- A pending request is in `drp_state`. -/
theorem drpState_of_pending (b : Board) (es : List Event) {s : DualRoleState}
    (h : pendingDualRole es = some s) : (after b es).st.drpState = s := by
  induction es using List.reverseRecOn with
  | nil => cases h
  | append_singleton es e ih =>
      rw [pendingDualRole_append_singleton] at h
      rw [after_append_singleton]
      by_cases he : e.iterates = true
      · cases e with
        | iterate => cases h
        | _ => cases he
      have hwrites := (after b es).does_call b (by simpa using he)
      cases e with
      | iterate => cases h
      | setDualRole s' => exact Option.some.inj h
      | _ => exact (hwrites.keeps .drpState (by simp [Event.writes])).trans (ih h)

/-- `pd_update_dual_role_config` applies the request in `drp_state`. -/
theorem dualRoleApplied_pdUpdateDualRoleConfig (p : Port) :
    DualRoleApplied p.st.drpState p p.pdUpdateDualRoleConfig := by
  unfold DualRoleApplied pdUpdateDualRoleConfig
  cases hrole : p.pd.powerRole with
  | sink =>
      by_cases hforce : p.st.drpState = .forceSource
      · simp [becomesSink, becomesSource, hrole, hforce, setPowerRole, tcpmSetCc, Fusb302.setCc]
      · simp [becomesSink, becomesSource, hrole, hforce]
  | source =>
      by_cases hsink : (p.st.drpState = .forceSink ∧ p.pd.flags.tsDtsPartner = false) ∨
          (p.st.drpState = .toggleOff ∧ p.pd.taskState = .srcDisconnected)
      · have hsource : p.st.drpState ≠ .forceSource := by
          rcases hsink with ⟨h, -⟩ | ⟨h, -⟩ <;> rw [h] <;> decide
        simp [becomesSink, hrole, hsink, hsource, setPowerRole, tcpmSetCc, Fusb302.setCc,
          pdPowerSupplyReset, History.ofLog, History.note]
      · simp [becomesSink, becomesSource, hrole, hsink]

/-- Neither the reset argument nor the VDM state machine touches a role. -/
theorem becomesSource_atEvents (p : Port) (inp : Input) (s : DualRoleState) :
    (p.atEvents inp).becomesSource s = p.becomesSource s := by
  have hdoes := (p.does_applyReset inp.reset).trans (does_pdVdmSendStateMachine _ (inp.time .vdm))
  have hrole : (p.atEvents inp).pd.powerRole = p.pd.powerRole := hdoes.keeps .role (by decide)
  unfold becomesSource
  rw [hrole]

theorem becomesSink_atEvents (p : Port) (inp : Input) (s : DualRoleState) :
    (p.atEvents inp).becomesSink s = (p.applyReset inp.reset).becomesSink s := by
  have hdoes := (p.applyReset inp.reset).does_pdVdmSendStateMachine (inp.time .vdm)
  have hrole : (p.atEvents inp).pd.powerRole = (p.applyReset inp.reset).pd.powerRole :=
    hdoes.keeps .role (by decide)
  have htask : (p.atEvents inp).pd.taskState = (p.applyReset inp.reset).pd.taskState :=
    hdoes.keeps .task (by decide)
  have hpartner : (p.atEvents inp).pd.flags.tsDtsPartner =
      (p.applyReset inp.reset).pd.flags.tsDtsPartner := hdoes.keeps .tsDtsPartner (by decide)
  unfold becomesSink
  rw [hrole, htask, hpartner]

/-- Called where the event is tested, `pd_update_dual_role_config` would apply a
pending request: only the event is missing. -/
theorem dualRoleApplied_of_event (b : Board) (es : List Event) (inp : Input) {s : DualRoleState}
    (h : pendingDualRole es = some s) :
    DualRoleApplied s ((after b es).atEvents inp)
      ((after b es).atEvents inp).pdUpdateDualRoleConfig := by
  have hdoes := ((after b es).does_applyReset inp.reset).trans
    (does_pdVdmSendStateMachine _ (inp.time .vdm))
  have hdrp : ((after b es).atEvents inp).st.drpState = (after b es).st.drpState :=
    hdoes.keeps .drpState (by decide)
  have happlied := ((after b es).atEvents inp).dualRoleApplied_pdUpdateDualRoleConfig
  rwa [hdrp, drpState_of_pending b es h] at happlied

/-- A port is left as it is by exactly the requests that ask for nothing. -/
theorem dualRoleApplied_self (p : Port) (s : DualRoleState) :
    DualRoleApplied s p p ↔ p.becomesSink s = false ∧ p.becomesSource s = false := by
  unfold DualRoleApplied
  split_ifs with hsink hsource
  · have hrole := hsink
    simp only [becomesSink, decide_eq_true_eq] at hrole
    simp [hrole.1, hsink]
  · have hrole := hsource
    simp only [becomesSource, decide_eq_true_eq] at hrole
    simp [hrole.1, hsource]
  · simp [hsink, hsource]

/-- After any run, the next iteration puts a pending request into effect exactly
when the request does not change the role of the port. -/
theorem dualRoleApplied_iff (b : Board) (es : List Event) (inp : Input) :
    (∀ s ∈ pendingDualRole es, DualRoleApplied s ((after b es).atEvents inp)
        ((after b es).beforeMessage inp)) ↔
      ∀ s ∈ pendingDualRole es, (after b es).changesRole inp.reset s = false := by
  have hevents : (after b es).beforeMessage inp = (after b es).atEvents inp :=
    checkBoardAndEvents_eq _ _
  refine forall₂_congr fun s _ => ?_
  rw [hevents, dualRoleApplied_self, becomesSink_atEvents, becomesSource_atEvents, changesRole,
    Bool.or_eq_false_iff]

/-- A source with a sink attached stays a source although it is told to become a
sink. -/
theorem not_dualRoleApplied_forceSink :
    ¬ ∀ (es : List Event) (inp : Input), ∀ s ∈ pendingDualRole es,
      DualRoleApplied s ((after .shipped es).atEvents inp)
        ((after .shipped es).beforeMessage inp) := by
  intro h
  have happlied := h (attachAsSource ++ [.setDualRole .forceSink])
    { reset := false, message := none, cc := rdOnCc1, ccTail := rdOnCc1, time := fun _ => 0 }
    .forceSink rfl
  revert happlied
  unfold DualRoleApplied
  decide +kernel

end Port

end UsbPd
