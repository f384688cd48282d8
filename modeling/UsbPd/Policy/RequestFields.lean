import UsbPd.Policy.PdoPower

/-!
# The fields of a Request

`pd_build_request` packs the planned power into a request data object. A reader of the
object finds it there for a fixed and a variable PDO. For a battery PDO
`RDO_BATT_MAX_POWER` shifts the maximum power to the place of the operating power, so
the field of the maximum power stays zero.
-/

namespace UsbPd

/-- `pdo_index` of `pd_build_request`. -/
def Statics.requestIndex (st : Statics) : RequestType → Nat
  | .vsafe5v => 0
  | .max => st.sourceCapCurrentIndex

/-! The fields of an RDO: bits 30..28, 19..10 and 9..0. -/

def rdoPositionField (rdo : Word) : Nat := (rdo.extractLsb' 28 3).toNat

def rdoOperatingField (rdo : Word) : Nat := (rdo.extractLsb' 10 10).toNat

def rdoMaximumField (rdo : Word) : Nat := (rdo.extractLsb' 0 10).toNat

/-- The object `rdo` says what was planned for `pdo`, the entry at `index`. -/
structure RequestDecodes (index : Nat) (pdo rdo : Word) : Prop where
  position : rdoPositionField rdo = index + 1
  supply : pdoType pdo = .fixed ∨ pdoType pdo = .variable →
    rdoOperatingField rdo = (pdExtractPdoPower pdo).1 / 10 ∧
      rdoMaximumField rdo = (pdExtractPdoPower pdo).1 / 10
  battery : pdoType pdo = .battery →
    rdoOperatingField rdo = (pdExtractPdoPower pdo).1 * (pdExtractPdoPower pdo).2 / 1000 / 250 ∧
      rdoMaximumField rdo = (pdExtractPdoPower pdo).1 * (pdExtractPdoPower pdo).2 / 1000 / 250
  mismatch : rdo.getLsbD 26 = true ↔
    (pdExtractPdoPower pdo).1 * (pdExtractPdoPower pdo).2 < 1000 * pdOperatingPowerMw
  reserved : rdo.getLsbD 31 = false ∧ rdo.getLsbD 27 = false ∧ rdo.extractLsb' 20 6 = 0

/-! The packed word as a number. -/

section

variable {n flag op maxField : Nat}

theorem rdo_toNat (hn : n < 8) (hflag : flag < 2) (hop : op < 1024) (hmax : maxField < 1024) :
    (BitVec.ofNat 32 (n <<< 28) ||| BitVec.ofNat 32 (flag <<< 26) ||| BitVec.ofNat 32 (op <<< 10) |||
      BitVec.ofNat 32 maxField).toNat =
        n * 268435456 + flag * 67108864 + op * 1024 + maxField := by
  have hor : n <<< 28 ||| flag <<< 26 ||| op <<< 10 ||| maxField =
      n <<< 28 ||| (flag <<< 26 ||| (op <<< 10 ||| maxField)) := by
    rw [Nat.or_assoc, Nat.or_assoc]
  have h₁ : op <<< 10 + maxField = op <<< 10 ||| maxField :=
    Nat.shiftLeft_add_eq_or_of_lt (by omega) op
  have h₂ := Nat.shiftLeft_add_eq_or_of_lt (i := 26) (b := op <<< 10 + maxField) (by omega) flag
  have h₃ := Nat.shiftLeft_add_eq_or_of_lt (i := 28)
    (b := flag <<< 26 + (op <<< 10 + maxField)) (by omega) n
  rw [← BitVec.ofNat_or, ← BitVec.ofNat_or, ← BitVec.ofNat_or, hor, ← h₁, ← h₂, ← h₃,
    BitVec.toNat_ofNat]
  omega

/-- No field spills into another. -/
theorem rdo_fields {rdo : Word} (hn : n < 8) (hflag : flag < 2) (hop : op < 1024)
    (hmax : maxField < 1024)
    (h : rdo.toNat = n * 268435456 + flag * 67108864 + op * 1024 + maxField) :
    rdoPositionField rdo = n ∧ rdoOperatingField rdo = op ∧ rdoMaximumField rdo = maxField ∧
      rdo.getLsbD 26 = decide (flag = 1) ∧ rdo.getLsbD 31 = false ∧ rdo.getLsbD 27 = false ∧
      rdo.extractLsb' 20 6 = 0 := by
  refine ⟨?_, ?_, ?_, ?_, ?_, ?_, BitVec.eq_of_toNat_eq ?_⟩
  · rw [rdoPositionField, BitVec.extractLsb'_toNat, Nat.shiftRight_eq_div_pow]
    omega
  · rw [rdoOperatingField, BitVec.extractLsb'_toNat, Nat.shiftRight_eq_div_pow]
    omega
  · rw [rdoMaximumField, BitVec.extractLsb'_toNat, Nat.shiftRight_zero]
    omega
  · rw [BitVec.getLsbD, Nat.testBit_eq_decide_div_mod_eq]
    exact decide_eq_decide.2 (by omega)
  · rw [BitVec.getLsbD, Nat.testBit_eq_decide_div_mod_eq]
    exact decide_eq_false (by omega)
  · rw [BitVec.getLsbD, Nat.testBit_eq_decide_div_mod_eq]
    exact decide_eq_false (by omega)
  · rw [BitVec.extractLsb'_toNat, Nat.shiftRight_eq_div_pow]
    simp only [BitVec.toNat_ofNat, BitVec.ofNat_eq_ofNat]
    omega

end

/-- The flag of a capability mismatch. -/
theorem mismatchFlag_eq (low : Prop) [Decidable low] :
    (if low then rdoCapMismatch else 0) = BitVec.ofNat 32 ((if low then 1 else 0) <<< 26) := by
  split <;> rfl

theorem mismatchFlag_eq_one (low : Prop) [Decidable low] :
    (if low then 1 else 0) = 1 ↔ low := by
  split <;> simp [*]

section

variable {n : Nat} (low : Prop) [Decidable low]

theorem rdoFixed_toNat (hn : n < 8) {ma : Nat} (hma : ma / 10 < 1024) :
    (rdoFixed n ma ma (if low then rdoCapMismatch else 0)).toNat =
      n * 268435456 + (if low then 1 else 0) * 67108864 + ma / 10 * 1024 + ma / 10 := by
  have hflag : (if low then 1 else 0) < 2 := by split <;> decide
  rw [rdoFixed, mismatchFlag_eq, Nat.mod_eq_of_lt hn, Nat.mod_eq_of_lt hma]
  exact rdo_toNat hn hflag hma hma

/-- The maximum power lands on the operating power, and the lowest field is empty. -/
theorem rdoBatt_toNat (hn : n < 8) {mw : Nat} (hmw : mw / 250 < 1024) :
    (rdoBatt n mw mw (if low then rdoCapMismatch else 0)).toNat =
      n * 268435456 + (if low then 1 else 0) * 67108864 + mw / 250 * 1024 + 0 := by
  have hflag : (if low then 1 else 0) < 2 := by split <;> decide
  have hempty : BitVec.ofNat 32 0 = (0 : Word) := rfl
  rw [← rdo_toNat hn hflag hmw (by decide), rdoBatt, mismatchFlag_eq, Nat.mod_eq_of_lt hn,
    Nat.mod_eq_of_lt hmw, BitVec.or_assoc, BitVec.or_self, hempty]
  exact congrArg _ BitVec.or_zero.symm

end

/-! The planned power fits the fields. -/

theorem pdExtractPdoPower_current_le (pdo : Word) :
    (pdExtractPdoPower pdo).1 ≤ pdMaxCurrentMa := by
  unfold pdExtractPdoPower
  simp only
  split
  · exact Nat.zero_le _
  · exact min_le_right _ _

/-- Whatever becomes of `1000 * uw`, the limit is at most the maximum power. -/
theorem pdExtractPdoPower_power_le (pdo : Word) :
    (pdExtractPdoPower pdo).1 * (pdExtractPdoPower pdo).2 ≤ 60000000 := by
  unfold pdExtractPdoPower
  simp only
  split
  · exact Nat.zero_le _
  · refine mul_le_of_le_div (Nat.le_trans (min_le_left _ _) ?_)
    split
    · exact Nat.div_le_div_right (Nat.mul_le_mul_left 1000 (min_le_right _ _))
    · exact min_le_right _ _

/-- A battery of any power is taken for one of at least the maximum power. -/
theorem batteryPower_ge :
    ∀ field < 1024, field ≠ 0 →
      pdMaxPowerMw ≤ toUnsigned64 (toInt32 (1000 * (250000 * field : Nat))) := by
  decide +kernel

theorem pdExtractPdoPower_battery_ge {pdo : Word} (htype : pdoType pdo = .battery)
    (hmv : pdoVoltageField pdo ≠ 0) (hfield : pdoPowerField pdo ≠ 0) :
    250000 ≤ (pdExtractPdoPower pdo).1 * (pdExtractPdoPower pdo).2 := by
  have hne : pdoVoltageField pdo * 50 ≠ 0 := by omega
  have hlt := pdoVoltageField_lt pdo
  have hmin := min_eq_right (batteryPower_ge _ (pdoPowerField_lt pdo) hfield)
  have hquot := Nat.div_add_mod' 60000000 (pdoVoltageField pdo * 50)
  have hrest : 60000000 % (pdoVoltageField pdo * 50) < pdoVoltageField pdo * 50 :=
    Nat.mod_lt _ (by omega)
  unfold pdExtractPdoPower
  simp only [pdoVoltageField_eq pdo, pdoPowerField_eq pdo, if_neg hne, if_pos htype, hmin]
  simp only [pdMaxPowerMw, pdMaxCurrentMa, Nat.reduceMul]
  rcases Nat.le_total 5000 (60000000 / (pdoVoltageField pdo * 50)) with hq | hq
  · rw [min_eq_right hq]
    omega
  · rw [min_eq_left hq]
    omega

section

variable {index : Nat} {pdo : Word}

/-- The word built for any other supply. -/
theorem requestFields_supply (hindex : index < 7) (htype : pdoType pdo ≠ .battery) :
    let rdo := (requestObject index pdo).rdo
    let power := pdExtractPdoPower pdo
    rdoPositionField rdo = index + 1 ∧ rdoOperatingField rdo = power.1 / 10 ∧
      rdoMaximumField rdo = power.1 / 10 ∧
      rdo.getLsbD 26 =
        decide ((if power.1 * power.2 < 1000 * pdOperatingPowerMw then 1 else 0) = 1) ∧
      rdo.getLsbD 31 = false ∧ rdo.getLsbD 27 = false ∧ rdo.extractLsb' 20 6 = 0 := by
  have hma : (pdExtractPdoPower pdo).1 ≤ 5000 := pdExtractPdoPower_current_le pdo
  have hfits : (pdExtractPdoPower pdo).1 / 10 < 1024 := by omega
  have hindex' : index + 1 < 8 := by omega
  have hrdo : (requestObject index pdo).rdo =
      rdoFixed (index + 1) (pdExtractPdoPower pdo).1 (pdExtractPdoPower pdo).1
        (if (pdExtractPdoPower pdo).1 * (pdExtractPdoPower pdo).2 < 1000 * pdOperatingPowerMw
          then rdoCapMismatch else 0) := if_neg htype
  simp only [hrdo]
  exact rdo_fields hindex' (by split <;> decide) hfits hfits (rdoFixed_toNat _ hindex' hfits)

theorem requestDecodes_supply (hindex : index < 7) (htype : pdoType pdo ≠ .battery) :
    RequestDecodes index pdo (requestObject index pdo).rdo := by
  obtain ⟨hpos, hop, hmax, hmismatch, h31, h27, hzero⟩ := requestFields_supply hindex htype
  refine ⟨hpos, fun _ => ⟨hop, hmax⟩, fun h => absurd h htype, ?_, h31, h27, hzero⟩
  rw [hmismatch, decide_eq_true_iff]
  exact mismatchFlag_eq_one _

/-- The word built for a battery. -/
theorem requestFields_battery (hindex : index < 7) (htype : pdoType pdo = .battery) :
    let rdo := (requestObject index pdo).rdo
    let uw := (pdExtractPdoPower pdo).1 * (pdExtractPdoPower pdo).2
    rdoPositionField rdo = index + 1 ∧ rdoOperatingField rdo = uw / 1000 / 250 ∧
      rdoMaximumField rdo = 0 ∧
      rdo.getLsbD 26 = decide ((if uw < 1000 * pdOperatingPowerMw then 1 else 0) = 1) ∧
      rdo.getLsbD 31 = false ∧ rdo.getLsbD 27 = false ∧ rdo.extractLsb' 20 6 = 0 := by
  have huw := pdExtractPdoPower_power_le pdo
  have hfits : (pdExtractPdoPower pdo).1 * (pdExtractPdoPower pdo).2 / 1000 / 250 < 1024 := by omega
  have hindex' : index + 1 < 8 := by omega
  have hrdo : (requestObject index pdo).rdo =
      rdoBatt (index + 1) ((pdExtractPdoPower pdo).1 * (pdExtractPdoPower pdo).2 / 1000)
        ((pdExtractPdoPower pdo).1 * (pdExtractPdoPower pdo).2 / 1000)
        (if (pdExtractPdoPower pdo).1 * (pdExtractPdoPower pdo).2 < 1000 * pdOperatingPowerMw
          then rdoCapMismatch else 0) := if_pos htype
  simp only [hrdo]
  exact rdo_fields hindex' (by split <;> decide) hfits (by decide) (rdoBatt_toNat _ hindex' hfits)

theorem requestDecodes_battery_iff (hindex : index < 7) (htype : pdoType pdo = .battery) :
    RequestDecodes index pdo (requestObject index pdo).rdo ↔
      (pdExtractPdoPower pdo).1 * (pdExtractPdoPower pdo).2 < 250000 := by
  obtain ⟨hpos, hop, hmax, hmismatch, h31, h27, hzero⟩ := requestFields_battery hindex htype
  constructor
  · intro h
    have hempty := (h.battery htype).2
    rw [hmax] at hempty
    omega
  · intro hlt
    refine ⟨hpos, ?_, fun _ => ⟨hop, ?_⟩, ?_, h31, h27, hzero⟩
    · rw [htype]
      rintro (hfixed | hvariable)
      · cases hfixed
      · cases hvariable
    · rw [hmax]
      omega
    · rw [hmismatch, decide_eq_true_iff]
      exact mismatchFlag_eq_one _

end

/-- A Request says what was planned, for every entry but a battery that has both fields
set. -/
theorem Statics.requestDecodes_iff (st : Statics) (type : RequestType)
    (hindex : st.requestIndex type < 7) :
    RequestDecodes (st.requestIndex type) (st.srcCap (st.requestIndex type))
        (st.pdBuildRequest type).2.rdo ↔
      pdoType (st.srcCap (st.requestIndex type)) ≠ .battery ∨
        pdoVoltageField (st.srcCap (st.requestIndex type)) = 0 ∨
        pdoPowerField (st.srcCap (st.requestIndex type)) = 0 := by
  have hrdo : (st.pdBuildRequest type).2.rdo =
      (requestObject (st.requestIndex type) (st.srcCap (st.requestIndex type))).rdo := by
    cases type <;> rfl
  rw [hrdo]
  generalize st.srcCap (st.requestIndex type) = pdo
  by_cases htype : pdoType pdo = .battery
  swap
  · exact iff_of_true (requestDecodes_supply hindex htype) (.inl htype)
  rw [requestDecodes_battery_iff hindex htype]
  rcases eq_or_ne (pdoVoltageField pdo) 0 with hmv | hmv
  · refine iff_of_true ?_ (.inr (.inl hmv))
    rw [pdExtractPdoPower_eq_zero hmv]
    decide
  rcases eq_or_ne (pdoPowerField pdo) 0 with hfield | hfield
  · refine iff_of_true ?_ (.inr (.inr hfield))
    rw [pdExtractPdoPower_battery htype (by omega) hmv, hfield]
    simp
  refine iff_of_false ?_ ?_
  · have hge := pdExtractPdoPower_battery_ge htype hmv hfield
    omega
  · rintro (h | h | h)
    · exact h htype
    · exact hmv h
    · exact hfield h

/-- A fixed supply of 5 V and 3 A at the second position. -/
theorem requestDecodes_fixed_supply :
    RequestDecodes 1 0x0001912C
      (Statics.pdBuildRequest { Statics.static with
        srcCaps := [0, 0x0001912C, 0, 0, 0, 0, 0]
        sourceCapCurrentIndex := 1 } .max).2.rdo :=
  (Statics.requestDecodes_iff { Statics.static with
    srcCaps := [0, 0x0001912C, 0, 0, 0, 0, 0]
    sourceCapCurrentIndex := 1 } .max (by decide)).2 (.inl (by decide))

/-- A battery of 2 W at 5 V. -/
theorem not_requestDecodes_two_watt :
    ¬RequestDecodes 0 0x40019008
      (Statics.pdBuildRequest { Statics.static with
        srcCaps := [0x40019008, 0, 0, 0, 0, 0, 0] } .max).2.rdo := by
  intro h
  have hmax := (h.battery (by decide)).2
  revert hmax
  decide +kernel

end UsbPd
