import UsbPd.Frame.Parts
import UsbPd.System.Bounds

/-!
# What stands behind a PS_RDY

A port sends PS_RDY after a voltage transition and at the two ends of a power role swap. No
contract is recorded between the transition, or the acceptance of the swap, and the PS_RDY. An
Accept whose transmission reports a failure records none, although it may have gone out.
-/

namespace UsbPd

/-- The port transmits PS_RDY. -/
def Call.sendsPsRdy : Call → Bool
  | .transmit .sop header [] _ => headerType header = CtrlMsgType.psRdy.toNat
  | _ => false

/-- A voltage transition and an accepted power swap back a PS_RDY, a contract that is recorded
needs a new transition. -/
def Call.backs : Call → Option Bool
  | .transitionVoltage _ | .powerSwapAccepted => some true
  | .contractAgreed => some false
  | _ => none

/-- The last of these calls backs a PS_RDY. -/
def backedBy (log : List Call) : Bool := (log.filterMap Call.backs).headD false

theorem backedBy_cons {c : Call} (h : c.backs = none) (log : List Call) :
    backedBy (c :: log) = backedBy log := by
  rw [backedBy, List.filterMap_cons_none h]
  rfl

theorem backedBy_some {c : Call} {back : Bool} (h : c.backs = some back) (log : List Call) :
    backedBy (c :: log) = back := by
  rw [backedBy, List.filterMap_cons_some h]
  rfl

theorem Call.silent_backs {c : Call} (h : c.silent = true) :
    c.backs = none ∧ c.sendsPsRdy = false := by
  cases c with
  | transmit | inputCurrentLimit | transitionVoltage | contractAgreed | powerSwapAccepted =>
      cases h
  | _ => exact ⟨rfl, rfl⟩

/-- Only backed states are entered from backed states with `set_state`. -/
theorem PdState.enters_backed : ∀ s t : PdState, s.enters t = true → t.backed = true →
    s.backed = true := by
  intro s t
  cases s <;> cases t <;> decide

theorem PdState.arms_backed : ∀ s : PdState, ∀ t ∈ s.arms, t ≠ .srcTransition →
    t.backed = true → s.backed = true := by
  intro s
  cases s <;> decide

namespace Port

/-- The states that send PS_RDY, and the timers that lead there, are backed, and so was every
PS_RDY. -/
structure Backs (p : Port) : Prop where
  bounds : p.InBounds
  task : p.place.taskState.backed = true → backedBy p.log = true
  timer : p.place.timeoutState.backed = true → backedBy p.log = true
  sent : Machine.Each (fun c earlier => c.sendsPsRdy = true → backedBy earlier = true) p.log

theorem backs_setup : setup.Backs where
  bounds := inBounds_setup
  task := by decide
  timer := by decide
  sent := by decide

variable {b : Board} {p q : Port}

/-- A call that backs nothing, and that is no PS_RDY or is backed. -/
theorem Backs.extend (hp : p.Backs) {c : Call} (hc : c.backs = none)
    (hsend : c.sendsPsRdy = true → backedBy p.log = true) (hq : q.InBounds)
    (hplace : q.place = p.place) (hlog : q.log = c :: p.log) : q.Backs where
  bounds := hq
  task := by
    rw [hplace, hlog, backedBy_cons hc]
    exact hp.task
  timer := by
    rw [hplace, hlog, backedBy_cons hc]
    exact hp.timer
  sent := by
    rw [hlog]
    exact ⟨hsend, hp.sent⟩

/-- A call that neither backs nor sends anything. -/
theorem Backs.plain (hp : p.Backs) {c : Call} (hc : c.backs = none ∧ c.sendsPsRdy = false)
    (hq : q.InBounds) (hplace : q.place = p.place) (hlog : q.log = c :: p.log) : q.Backs :=
  hp.extend hc.1 (fun h => absurd (hc.2.symm.trans h) (by decide)) hq hplace hlog

/-- The log stays what it is. -/
theorem Backs.same (hp : p.Backs) (hq : q.InBounds) (hlog : q.log = p.log)
    (htask : q.place.taskState.backed = true → backedBy p.log = true)
    (htimer : q.place.timeoutState.backed = true → backedBy p.log = true) : q.Backs where
  bounds := hq
  task := hlog ▸ htask
  timer := hlog ▸ htimer
  sent := hlog ▸ hp.sent

theorem backs_action (h : Action b p q) (hp : p.Backs) : q.Backs := by
  have hq := inBounds_action h hp.bounds
  cases h with
  | assign h =>
      have hplace : q.place = p.place := congrArg Prod.snd h
      exact hp.same hq (congrArg (Vital.log ∘ Prod.fst) h) (hplace ▸ hp.task) (hplace ▸ hp.timer)
  | enter hs hdetached h =>
      rename_i s
      have hplace : q.place = ⟨s, .disabled⟩ := congrArg Prod.snd h
      refine hp.same hq (congrArg (Vital.log ∘ Prod.fst) h) (fun ht => ?_) fun ht => ?_
      · rw [hplace] at ht
        rcases hs with rfl | henters
        · exact hp.timer ht
        · exact hp.task (PdState.enters_backed _ _ henters ht)
      · rw [hplace] at ht
        cases ht
  | disconnect hs =>
      rename_i s
      have hnone : s.backed = false := by
        cases s <;> first | rfl | cases hs
      have hentered : Backs ((p.setStateTimeout 0 .disabled).setTask s) :=
        hp.same { hp.bounds with } rfl
          (fun ht => absurd (hnone.symm.trans ht) (by decide)) fun ht => by cases ht
      exact hentered.plain ⟨rfl, rfl⟩ hq rfl rfl
  | interrupt => exact hp.same hq rfl (fun ht => by cases ht) hp.timer
  | arm hs hbacked =>
      exact hp.same hq rfl hp.task fun ht => hp.task (PdState.arms_backed _ _ hs hbacked ht)
  | conclude hs h =>
      have hlog : q.log = _ :: p.log := congrArg (Vital.log ∘ Prod.fst) h
      have hplace : q.place = ⟨_, .disabled⟩ := congrArg Prod.snd h
      refine ⟨hq, fun ht => ?_, fun ht => ?_, ?_⟩
      · rw [hplace] at ht
        rw [hlog]
        -- a contract leads to a state that is not backed, a swap backs
        generalize p.pd.taskState = s at hs
        cases hs with
        | request | accept => cases ht
        | srcSwap | snkSwap => exact backedBy_some rfl _
      · rw [hplace] at ht
        cases ht
      · rw [hlog]
        refine ⟨fun hsend => ?_, hp.sent⟩
        rcases hs.call with rfl | rfl
        · cases hsend
        · cases hsend
  | transition hs h =>
      have hlog : q.log = _ :: p.log := congrArg (Vital.log ∘ Prod.fst) h
      have hback : backedBy q.log = true := by
        rw [hlog]
        exact backedBy_some rfl _
      refine ⟨hq, fun _ => hback, fun _ => hback, ?_⟩
      rw [hlog]
      exact ⟨fun hsend => (by cases hsend), hp.sent⟩
  | call hc => exact hp.plain (Call.silent_backs hc) hq rfl rfl
  | noCurrent => exact hp.plain ⟨rfl, rfl⟩ hq rfl rfl
  | limit hdraw hs => exact hp.plain ⟨rfl, rfl⟩ hq rfl rfl
  | rxEnable enable =>
      unfold tcpmSetRxEnable at hq ⊢
      simp only at hq ⊢
      split_ifs at hq ⊢
      · exact hp.plain (c := .rxEnable enable) ⟨rfl, rfl⟩ hq rfl rfl
      · exact hp.same hq rfl hp.task hp.timer
  | send data htype hcrc hpsRdy hdata =>
      refine hp.extend (c := .transmit _ _ _ _) rfl (fun hsend => ?_) hq rfl rfl
      cases data with
      | nil =>
          have hready := of_decide_eq_true hsend
          rw [headerType_header p htype] at hready
          exact hp.task (hpsRdy rfl hready)
      | cons => cases hsend
  | sendVdm =>
      refine hp.extend (c := .transmit _ _ _ _) rfl (fun hsend => ?_) hq rfl rfl
      cases hdata : p.pd.vdoData.take p.pd.vdoCount with
      | nil =>
          rw [hdata] at hsend
          have hready := of_decide_eq_true hsend
          rw [headerType_header p (by decide)] at hready
          cases hready
      | cons =>
          rw [hdata] at hsend
          cases hsend
  | signal htype =>
      rename_i type
      refine hp.extend (c := .transmit _ _ _ _) rfl (fun hsend => ?_) hq rfl rfl
      cases type with
      | sop => exact absurd rfl htype
      | hardReset | bistMode2 => cases hsend
  | _ => exact hp.same hq rfl hp.task hp.timer

/-- In every run each PS_RDY follows a voltage transition or an accepted power swap, with no
contract agreed on in between. -/
theorem after_backed (b : Board) (es : List Event) :
    Machine.Each (fun c earlier => c.sendsPsRdy = true → backedBy earlier = true)
      (after b es).log :=
  (after_kept backs_setup (fun _ _ => backs_action) es).sent

end Port

end UsbPd
