import UsbPd.Conduct.Iteration
import UsbPd.Policy.RequestFields

/-!
# Bounds of every run

The tables `vdo_data` and `pd_src_caps` keep the sizes they are declared with, every count
and every index stays within its table, and the limits set for the input current stay
within the rating of the board.
-/

namespace UsbPd

namespace Port

/-- The tables have their declared sizes, and counts and indices stay within them. -/
structure InBounds (p : Port) : Prop where
  msgId : p.pd.msgId < 8
  vdoData : p.pd.vdoData.length = 7
  vdoCount : p.pd.vdoCount ≤ 7
  srcCaps : p.st.srcCaps.length = 7
  srcCapCnt : p.st.srcCapCnt ≤ 7
  sourceCapCurrentIndex : p.st.sourceCapCurrentIndex < 7
  sourceCapMaxIndex : p.st.sourceCapMaxIndex < 7

theorem inBounds_setup : setup.InBounds where
  msgId := by decide
  vdoData := by decide
  vdoCount := by decide
  srcCaps := by decide
  srcCapCnt := by decide
  sourceCapCurrentIndex := by decide
  sourceCapMaxIndex := by decide

variable {b : Board} {p q : Port}

/-- Bounds are a matter of the vital data. -/
theorem InBounds.of_vital (hp : p.InBounds) (h : q.vital = p.vital) : q.InBounds := by
  simp only [vital, Vital.mk.injEq] at h
  obtain ⟨hmsgId, -, -, -, hdata, hcount, hcaps, hcnt, hcurrent, hmax, -, -⟩ := h
  exact ⟨hmsgId ▸ hp.msgId, hdata ▸ hp.vdoData, hcount ▸ hp.vdoCount, hcaps ▸ hp.srcCaps,
    hcnt ▸ hp.srcCapCnt, hcurrent ▸ hp.sourceCapCurrentIndex, hmax ▸ hp.sourceCapMaxIndex⟩

theorem inBounds_action (h : Action b p q) (hp : p.InBounds) : q.InBounds := by
  cases h with
  | assign h => exact hp.of_vital (congrArg Prod.fst h)
  | enter hs hdetached h => exact hp.of_vital (congrArg Prod.fst h)
  | conclude hs h => exact InBounds.of_vital (p := p.record _) { hp with } (congrArg Prod.fst h)
  | transition hs h => exact InBounds.of_vital (p := p.record _) { hp with } (congrArg Prod.fst h)
  | msgId hid => exact { hp with msgId := hid }
  | store hlen =>
      have htable := hp.srcCaps
      refine { hp with srcCapCnt := hlen, srcCaps := ?_ }
      simp only [modifySt_st, List.length_append, List.length_drop]
      omega
  | offer hcnt =>
      refine { hp with sourceCapMaxIndex := ?_ }
      simp only [pdProcessSourceCapCallback, modifySt_st]
      omega
  | press =>
      have hmax := hp.sourceCapMaxIndex
      refine { hp with sourceCapCurrentIndex := ?_ }
      simp only [pressButton, modifySt_st]
      split_ifs <;> omega
  | queue header hdata =>
      have htable := hp.vdoData
      refine { hp with vdoData := ?_, vdoCount := Nat.succ_le_succ hdata }
      simp only [queueVdm, modifyPd_pd, List.length_cons, List.length_append, List.length_drop]
      omega
  | retry =>
      have htable := hp.vdoData
      refine { hp with vdoData := ?_, vdoCount := Nat.le_of_ble_eq_true rfl }
      simp only [modifyPd_pd, List.length_cons, List.length_drop]
      omega
  | rxEnable enable =>
      unfold tcpmSetRxEnable
      simp only
      split_ifs
      · exact { hp with }
      · exact { hp with }
  | _ => exact { hp with }

/-- Every table keeps its size, and every count and index stays within its table. -/
theorem after_inBounds (b : Board) (es : List Event) : (after b es).InBounds :=
  after_kept inBounds_setup (fun _ _ => inBounds_action) es

/-! The rating of the board. -/

/-- The current and the voltage are within `PD_MAX_CURRENT_MA` and `PD_MAX_POWER_MW`. -/
def Rated (ma mv : Nat) : Prop := ma ≤ pdMaxCurrentMa ∧ ma * mv ≤ 1000 * pdMaxPowerMw

theorem rated_zero : Rated 0 0 := ⟨Nat.zero_le _, Nat.zero_le _⟩

theorem rated_pdo {ma mv : Nat} (h : ∃ pdo, pdExtractPdoPower pdo = (ma, mv)) : Rated ma mv := by
  obtain ⟨pdo, hpdo⟩ := h
  have hcurrent := pdExtractPdoPower_current_le pdo
  have hpower := pdExtractPdoPower_power_le pdo
  rw [hpdo] at hcurrent hpower
  exact ⟨hcurrent, hpower⟩

/-- The limits set so far and the planned one are within the rating. -/
structure WithinRating (p : Port) : Prop where
  planned : Rated p.pd.currLimit p.pd.supplyVoltage
  set : ∀ ma mv, .inputCurrentLimit ma mv ∈ p.log → Rated ma mv

theorem withinRating_setup : setup.WithinRating where
  planned := rated_zero
  set := by
    intro ma mv h
    have hlog : ∀ c ∈ setup.log, c.silent = true ∨ c = .inputCurrentLimit 0 0 := by decide
    obtain hsilent | hzero := hlog _ h
    · cases hsilent
    · cases hzero
      exact rated_zero

theorem WithinRating.of_vital (hp : p.WithinRating) (h : q.vital = p.vital) :
    q.WithinRating := by
  simp only [vital, Vital.mk.injEq] at h
  obtain ⟨-, -, hma, hmv, -, -, -, -, -, -, -, hlog⟩ := h
  exact ⟨hma ▸ hmv ▸ hp.planned, hlog ▸ hp.set⟩

theorem WithinRating.record (hp : p.WithinRating) {c : Call}
    (hc : ∀ ma mv, c = .inputCurrentLimit ma mv → Rated ma mv) : (p.record c).WithinRating where
  planned := hp.planned
  set := by
    intro ma mv hmem
    obtain hnew | hold := List.mem_cons.1 hmem
    · exact hc ma mv hnew.symm
    · exact hp.set ma mv hold

/-- A port draws what it planned, what a PDO allows or nothing. -/
theorem WithinRating.mayDraw (hp : p.WithinRating) {ma mv : Nat} (h : p.MayDraw ma mv) :
    Rated ma mv := by
  obtain hpdo | ⟨rfl, rfl⟩ := h
  · exact rated_pdo hpdo
  · exact hp.planned

theorem withinRating_action (h : Action b p q) (hp : p.WithinRating) : q.WithinRating := by
  have hother : ∀ {c : Call}, (∀ ma mv, c ≠ .inputCurrentLimit ma mv) →
      (p.record c).WithinRating := fun hc => hp.record fun ma mv h => absurd h (hc ma mv)
  have hzero : ∀ ma mv, Call.inputCurrentLimit 0 0 = .inputCurrentLimit ma mv → Rated ma mv := by
    intro ma mv h
    cases h
    exact rated_zero
  cases h with
  | assign h => exact hp.of_vital (congrArg Prod.fst h)
  | enter hs hdetached h => exact hp.of_vital (congrArg Prod.fst h)
  | conclude hs h =>
      refine WithinRating.of_vital (hother fun ma mv hc => ?_) (congrArg Prod.fst h)
      rcases hs.call with h | h
      · cases hc.symm.trans h
      · cases hc.symm.trans h
  | transition hs h =>
      exact WithinRating.of_vital (hother fun ma mv hc => by cases hc) (congrArg Prod.fst h)
  | call h =>
      refine hother fun ma mv hc => ?_
      rw [hc] at h
      cases h
  | disconnect hs | noCurrent => exact { hp.record hzero with }
  | limit h =>
      refine hp.record fun ma mv hc => ?_
      cases hc
      exact hp.mayDraw h
  | plan h => exact { hp with planned := rated_pdo h }
  | rxEnable enable =>
      unfold tcpmSetRxEnable
      simp only
      split_ifs
      · exact { hother (c := .rxEnable enable) (by simp) with }
      · exact { hp with }
  | send data htype hcrc hpsRdy hdata => exact { hother (c := .transmit _ _ _ _) (by simp) with }
  | sendVdm => exact { hother (c := .transmit _ _ _ _) (by simp) with }
  | signal h => exact { hother (c := .transmit _ _ _ _) (by simp) with }
  | _ => exact { hp with }

/-- Whatever is offered and agreed, no limit exceeds the rating of the board. -/
theorem after_rated (b : Board) (es : List Event) {ma mv : Nat}
    (h : .inputCurrentLimit ma mv ∈ (after b es).log) :
    ma ≤ pdMaxCurrentMa ∧ ma * mv ≤ 1000 * pdMaxPowerMw :=
  (after_kept withinRating_setup (fun _ _ => withinRating_action) es).set ma mv h

/-- A sink with a contract at 5 V draws 3 A. -/
theorem rated_readyAsSink :
    .inputCurrentLimit 3000 5000 ∈ (after .shipped readyAsSink).log ∧
      3000 ≤ pdMaxCurrentMa ∧ 3000 * 5000 ≤ 1000 * pdMaxPowerMw := by
  have hlimit : .inputCurrentLimit 3000 5000 ∈ (after .shipped readyAsSink).log := by
    decide +kernel
  exact ⟨hlimit, after_rated .shipped readyAsSink hlimit⟩

end Port

end UsbPd
