import UsbPd.Machine.CInt
import UsbPd.Policy.Request

/-!
# The planned power

`pd_extract_pdo_power` plans the current that a sink draws from a PDO. It mixes `int`,
`uint32_t` and `unsigned long long`; here every intermediate result is checked against
the range of its type. For a battery PDO the product `1000 * uw` turns microwatts into
nanowatts and is compared with milliwatts, so the power of the PDO does not limit the
current, and from 9 units of 250 mW on the product does not fit an `int`.
-/

namespace UsbPd

/-! The integer types of the source. -/

/-- `int` -/
def cInt : Machine.IntType := ⟨-2147483648, 2147483647⟩

/-- `uint32_t` -/
def cUint32 : Machine.IntType := ⟨0, 4294967295⟩

/-- `unsigned long long`, the type of `PD_MAX_POWER_MW` and `PD_MAX_CURRENT_MA` -/
def cUlonglong : Machine.IntType := ⟨0, 18446744073709551615⟩

/-- `max_ma` of a battery PDO with the power field `field`. -/
def batteryMaxMa (field mv : Int) : Option Int := do
  let uw ← cUint32.mul 250000 field
  let uw ← cInt.represent uw
  let power ← cInt.mul 1000 uw
  let power ← cUlonglong.represent power
  let power ← cUlonglong.mul 1000 (min power pdMaxPowerMw)
  let maxMa ← cUlonglong.div power mv
  cInt.represent maxMa

/-- `max_ma` of any other PDO with the current field `field`. -/
def supplyMaxMa (field mv : Int) : Option Int := do
  let maxMa ← cUint32.mul 10 field
  let maxMa ← cInt.represent maxMa
  let limit ← cUlonglong.mul pdMaxPowerMw 1000
  let limit ← cUlonglong.div limit mv
  let maxMa ← cUlonglong.represent maxMa
  cInt.represent (min maxMa limit)

/-- `max_ma` of a PDO. -/
def maxMaChecked (pdo : Word) (mv : Int) : Option Int :=
  if pdoType pdo = .battery then batteryMaxMa (pdo.toNat % 1024 : Nat) mv
  else supplyMaxMa (pdo.toNat % 1024 : Nat) mv

/-- `pd_extract_pdo_power` with every intermediate result checked. -/
def pdExtractPdoPowerChecked (pdo : Word) : Option (Int × Int) := do
  let mv ← cUint32.mul ((pdo >>> 10).toNat % 1024 : Nat) 50
  if mv = 0 then return (0, 0)
  let maxMa ← maxMaChecked pdo mv
  let maxMa ← cUlonglong.represent maxMa
  let ma ← cUint32.represent (min maxMa pdMaxCurrentMa)
  return (ma, mv)

/-- The voltage field of a PDO, in units of 50 mV. -/
def pdoVoltageField (pdo : Word) : Nat := (pdo.extractLsb' 10 10).toNat

/-- The lowest field of a PDO: a current in units of 10 mA, or the power of a battery in
units of 250 mW. -/
def pdoPowerField (pdo : Word) : Nat := (pdo.extractLsb' 0 10).toNat

theorem pdoVoltageField_eq (pdo : Word) : (pdo >>> 10).toNat % 1024 = pdoVoltageField pdo := by
  rw [pdoVoltageField, BitVec.extractLsb'_toNat, BitVec.toNat_ushiftRight]

theorem pdoPowerField_eq (pdo : Word) : pdo.toNat % 1024 = pdoPowerField pdo := by
  rw [pdoPowerField, BitVec.extractLsb'_toNat, Nat.shiftRight_zero]

theorem pdoVoltageField_lt (pdo : Word) : pdoVoltageField pdo < 1024 := BitVec.isLt _

theorem pdoPowerField_lt (pdo : Word) : pdoPowerField pdo < 1024 := BitVec.isLt _

/-- What a sink plans to draw from `pdo` is no more than what is offered, and the
computation stays in the ranges of its types. -/
structure PowerPlanned (pdo : Word) : Prop where
  voltage : (pdExtractPdoPower pdo).2 = 50 * pdoVoltageField pdo
  current : (pdExtractPdoPower pdo).1 ≤ pdMaxCurrentMa
  power : (pdExtractPdoPower pdo).1 * (pdExtractPdoPower pdo).2 ≤ 1000 * pdMaxPowerMw
  supply : pdoType pdo = .fixed ∨ pdoType pdo = .variable →
    (pdExtractPdoPower pdo).1 ≤ 10 * pdoPowerField pdo
  battery : pdoType pdo = .battery →
    (pdExtractPdoPower pdo).1 * (pdExtractPdoPower pdo).2 ≤ 250000 * pdoPowerField pdo
  inRange : pdExtractPdoPowerChecked pdo =
    some (((pdExtractPdoPower pdo).1 : Int), ((pdExtractPdoPower pdo).2 : Int))

/-! The computation step by step. -/

section

open Machine.IntType

variable {field mv : Nat}

theorem batteryMaxMa_eq (hfield : field ≤ 8) (hmv : mv ≠ 0) :
    batteryMaxMa field mv =
      some ((1000 * min (1000 * (250000 * field)) pdMaxPowerMw / mv : Nat) : Int) := by
  have hlimit : min (1000 * (250000 * field)) pdMaxPowerMw ≤ 60000 := min_le_right _ _
  have hquot : 1000 * min (1000 * (250000 * field)) pdMaxPowerMw / mv ≤ 60000000 :=
    Nat.le_trans (Nat.div_le_self _ _) (by omega)
  have huw : cUint32.mul 250000 field = some ((250000 * field : Nat) : Int) :=
    mul_natCast (by decide) (by simp only [cUint32]; omega)
  have hint : cInt.represent (250000 * field : Nat) = some ((250000 * field : Nat) : Int) :=
    represent_natCast (by decide) (by simp only [cInt]; omega)
  have hproduct : cInt.mul 1000 (250000 * field : Nat) =
      some ((1000 * (250000 * field) : Nat) : Int) :=
    mul_natCast (by decide) (by simp only [cInt]; omega)
  have hunsigned : cUlonglong.represent (1000 * (250000 * field) : Nat) =
      some ((1000 * (250000 * field) : Nat) : Int) :=
    represent_natCast (by decide) (by simp only [cUlonglong]; omega)
  have hmin : min ((1000 * (250000 * field) : Nat) : Int) pdMaxPowerMw =
      (min (1000 * (250000 * field)) pdMaxPowerMw : Nat) := by omega
  have hscaled : cUlonglong.mul 1000 (min (1000 * (250000 * field)) pdMaxPowerMw : Nat) =
      some ((1000 * min (1000 * (250000 * field)) pdMaxPowerMw : Nat) : Int) :=
    mul_natCast (by decide) (by simp only [cUlonglong]; omega)
  have hdiv : cUlonglong.div (1000 * min (1000 * (250000 * field)) pdMaxPowerMw : Nat) mv =
      some ((1000 * min (1000 * (250000 * field)) pdMaxPowerMw / mv : Nat) : Int) :=
    div_natCast (by decide) hmv (by simp only [cUlonglong]; omega)
  have hmax : cInt.represent (1000 * min (1000 * (250000 * field)) pdMaxPowerMw / mv : Nat) =
      some ((1000 * min (1000 * (250000 * field)) pdMaxPowerMw / mv : Nat) : Int) :=
    represent_natCast (by decide) (by simp only [cInt]; omega)
  unfold batteryMaxMa
  simp only [huw, hint, hproduct, hunsigned, hmin, hscaled, hdiv, hmax, Option.bind_eq_bind,
    Option.bind_some]

/-- From 9 units on the product `1000 * uw` overflows. -/
theorem batteryMaxMa_eq_none (hfield : 9 ≤ field) (hlt : field < 1024) (mv : Int) :
    batteryMaxMa field mv = none := by
  have huw : cUint32.mul 250000 field = some ((250000 * field : Nat) : Int) :=
    mul_natCast (by decide) (by simp only [cUint32]; omega)
  have hint : cInt.represent (250000 * field : Nat) = some ((250000 * field : Nat) : Int) :=
    represent_natCast (by decide) (by simp only [cInt]; omega)
  have hproduct : cInt.mul 1000 (250000 * field : Nat) = none :=
    represent_of_hi_lt _ (by simp only [cInt]; omega)
  unfold batteryMaxMa
  simp only [huw, hint, hproduct, Option.bind_eq_bind, Option.bind_some, Option.bind_none]

theorem supplyMaxMa_eq (hfield : field < 1024) (hmv : mv ≠ 0) :
    supplyMaxMa field mv =
      some ((min (10 * field) (pdMaxPowerMw * 1000 / mv) : Nat) : Int) := by
  have hquot : pdMaxPowerMw * 1000 / mv ≤ 60000000 := Nat.div_le_self _ _
  have hma : cUint32.mul 10 field = some ((10 * field : Nat) : Int) :=
    mul_natCast (by decide) (by simp only [cUint32]; omega)
  have hint : cInt.represent (10 * field : Nat) = some ((10 * field : Nat) : Int) :=
    represent_natCast (by decide) (by simp only [cInt]; omega)
  have hlimit : cUlonglong.mul pdMaxPowerMw 1000 = some ((pdMaxPowerMw * 1000 : Nat) : Int) :=
    mul_natCast (by decide) (by decide)
  have hdiv : cUlonglong.div (pdMaxPowerMw * 1000 : Nat) mv =
      some ((pdMaxPowerMw * 1000 / mv : Nat) : Int) :=
    div_natCast (by decide) hmv (by simp only [cUlonglong]; omega)
  have hunsigned : cUlonglong.represent (10 * field : Nat) = some ((10 * field : Nat) : Int) :=
    represent_natCast (by decide) (by simp only [cUlonglong]; omega)
  have hmin : min ((10 * field : Nat) : Int) ((pdMaxPowerMw * 1000 / mv : Nat) : Int) =
      (min (10 * field) (pdMaxPowerMw * 1000 / mv) : Nat) := by omega
  have hmax : cInt.represent (min (10 * field) (pdMaxPowerMw * 1000 / mv) : Nat) =
      some ((min (10 * field) (pdMaxPowerMw * 1000 / mv) : Nat) : Int) :=
    represent_natCast (by decide) (by simp only [cInt]; omega)
  unfold supplyMaxMa
  simp only [hma, hint, hlimit, hdiv, hunsigned, hmin, hmax, Option.bind_eq_bind,
    Option.bind_some]

end

/-! The two computations agree where the checked one has a result. -/

section

variable {pdo : Word}

theorem pdExtractPdoPower_eq_zero (hmv : pdoVoltageField pdo = 0) :
    pdExtractPdoPower pdo = (0, 0) := by
  unfold pdExtractPdoPower
  simp only [pdoVoltageField_eq, hmv]
  rfl

/-- The plan for a battery whose product fits an `int`. -/
theorem pdExtractPdoPower_battery (htype : pdoType pdo = .battery) (hfield : pdoPowerField pdo ≤ 8)
    (hmv : pdoVoltageField pdo ≠ 0) :
    pdExtractPdoPower pdo =
      (min (1000 * min (1000 * (250000 * pdoPowerField pdo)) pdMaxPowerMw /
        (pdoVoltageField pdo * 50)) pdMaxCurrentMa, pdoVoltageField pdo * 50) := by
  have hne : pdoVoltageField pdo * 50 ≠ 0 := by omega
  have hproduct : toUnsigned64 (toInt32 (1000 * (250000 * pdoPowerField pdo : Nat))) =
      1000 * (250000 * pdoPowerField pdo) := by
    unfold toUnsigned64 toInt32
    rw [Int.bmod_eq_of_le_mul_two (by omega) (by omega)]
    omega
  unfold pdExtractPdoPower
  simp only [pdoVoltageField_eq pdo, pdoPowerField_eq pdo, if_neg hne, if_pos htype, hproduct]

theorem pdExtractPdoPower_supply (htype : pdoType pdo ≠ .battery)
    (hmv : pdoVoltageField pdo ≠ 0) :
    pdExtractPdoPower pdo =
      (min (min (10 * pdoPowerField pdo) (pdMaxPowerMw * 1000 / (pdoVoltageField pdo * 50)))
        pdMaxCurrentMa, pdoVoltageField pdo * 50) := by
  have hne : pdoVoltageField pdo * 50 ≠ 0 := by omega
  unfold pdExtractPdoPower
  simp only [pdoVoltageField_eq pdo, pdoPowerField_eq pdo, if_neg hne, if_neg htype]

theorem voltage_checked (pdo : Word) :
    cUint32.mul ((pdo >>> 10).toNat % 1024 : Nat) 50 =
      some ((pdoVoltageField pdo * 50 : Nat) : Int) := by
  have hlt := pdoVoltageField_lt pdo
  rw [pdoVoltageField_eq]
  exact Machine.IntType.mul_natCast (by decide) (by simp only [cUint32]; omega)

theorem pdExtractPdoPowerChecked_eq_zero (hmv : pdoVoltageField pdo = 0) :
    pdExtractPdoPowerChecked pdo = some (0, 0) := by
  unfold pdExtractPdoPowerChecked
  simp only [voltage_checked, hmv]
  rfl

/-- The last two lines, once `max_ma` is known. -/
theorem pdExtractPdoPowerChecked_of_maxMa {maxMa : Nat} (hmv : pdoVoltageField pdo ≠ 0)
    (hle : maxMa ≤ 60000000)
    (h : maxMaChecked pdo (pdoVoltageField pdo * 50 : Nat) = some (maxMa : Int)) :
    pdExtractPdoPowerChecked pdo =
      some (((min maxMa pdMaxCurrentMa : Nat) : Int), ((pdoVoltageField pdo * 50 : Nat) : Int)) := by
  have hne : ¬((pdoVoltageField pdo * 50 : Nat) : Int) = 0 := by omega
  have hunsigned : cUlonglong.represent maxMa = some (maxMa : Int) :=
    Machine.IntType.represent_natCast (by decide) (by simp only [cUlonglong]; omega)
  have hmin : min (maxMa : Int) pdMaxCurrentMa = (min maxMa pdMaxCurrentMa : Nat) := by omega
  have hma : cUint32.represent (min maxMa pdMaxCurrentMa : Nat) =
      some ((min maxMa pdMaxCurrentMa : Nat) : Int) :=
    Machine.IntType.represent_natCast (by decide) (by simp only [cUint32]; omega)
  unfold pdExtractPdoPowerChecked
  simp only [voltage_checked, h, hunsigned, hmin, hma, if_neg hne,
    Option.bind_eq_bind, Option.bind_some, Option.pure_def]

end

/-! The bounds. -/

/-- A current of at most the quotient keeps to the power. -/
theorem mul_le_of_le_div {ma mv power : Nat} (h : ma ≤ power / mv) : ma * mv ≤ power :=
  Nat.le_trans (Nat.mul_le_mul_right mv h) (Nat.div_mul_le_self power mv)

/-- The battery limit does not depend on the field, as soon as it is not zero. -/
theorem batteryLimit_eq {field : Nat} (h : field ≠ 0) :
    1000 * min (1000 * (250000 * field)) pdMaxPowerMw = 60000000 := by
  unfold pdMaxPowerMw
  omega

/-- Of a battery, a sink plans to draw no more than the offer only up to 8 units of power,
and only if its voltage field does not exceed its power field. -/
theorem battery_power_iff {field v : Nat} (hle : field ≤ 8) (hv : v < 1024)
    (hne : v ≠ 0) :
    min (60000000 / (v * 50)) pdMaxCurrentMa * (v * 50) ≤ 250000 * field ↔ v ≤ field := by
  unfold pdMaxCurrentMa
  have hquot : 60000000 / (v * 50) * (v * 50) + 60000000 % (v * 50) = 60000000 :=
    Nat.div_add_mod' 60000000 (v * 50)
  have hrest : 60000000 % (v * 50) < v * 50 := Nat.mod_lt _ (by omega)
  rcases Nat.le_total 5000 (60000000 / (v * 50)) with hq | hq
  · rw [min_eq_right hq]
    omega
  · rw [min_eq_left hq]
    have hlarge : 250000 * field < 60000000 / (v * 50) * (v * 50) := by omega
    have hbound : 60000000 / (v * 50) * (v * 50) ≤ 5000 * (v * 50) := Nat.mul_le_mul_right _ hq
    omega

theorem powerPlanned_of_zero {pdo : Word} (hmv : pdoVoltageField pdo = 0) : PowerPlanned pdo := by
  have hpower := pdExtractPdoPower_eq_zero hmv
  constructor
  · rw [hpower, hmv]
  · rw [hpower]
    exact Nat.zero_le _
  · rw [hpower]
    exact Nat.zero_le _
  · rw [hpower]
    exact fun _ => Nat.zero_le _
  · rw [hpower]
    exact fun _ => Nat.zero_le _
  · rw [hpower, pdExtractPdoPowerChecked_eq_zero hmv]
    rfl

theorem powerPlanned_supply {pdo : Word} (htype : pdoType pdo ≠ .battery)
    (hmv : pdoVoltageField pdo ≠ 0) : PowerPlanned pdo := by
  have hpower := pdExtractPdoPower_supply htype hmv
  have hmax : min (10 * pdoPowerField pdo) (pdMaxPowerMw * 1000 / (pdoVoltageField pdo * 50)) ≤
      60000000 :=
    Nat.le_trans (min_le_right _ _) (Nat.div_le_self _ _)
  constructor
  · rw [hpower]
    exact Nat.mul_comm _ _
  · rw [hpower]
    exact min_le_right _ _
  · rw [hpower, Nat.mul_comm 1000]
    exact mul_le_of_le_div (Nat.le_trans (min_le_left _ _) (min_le_right _ _))
  · rw [hpower]
    exact fun _ => Nat.le_trans (min_le_left _ _) (min_le_left _ _)
  · exact fun hbattery => absurd hbattery htype
  · rw [hpower]
    refine pdExtractPdoPowerChecked_of_maxMa hmv hmax ?_
    rw [maxMaChecked, if_neg htype, pdoPowerField_eq]
    exact supplyMaxMa_eq (pdoPowerField_lt pdo) (by omega)

/-- For a battery of up to 8 units everything but the offer is respected. -/
theorem powerPlanned_battery_iff {pdo : Word} (htype : pdoType pdo = .battery)
    (hfield : pdoPowerField pdo ≤ 8) (hmv : pdoVoltageField pdo ≠ 0) :
    PowerPlanned pdo ↔
      (pdExtractPdoPower pdo).1 * (pdExtractPdoPower pdo).2 ≤ 250000 * pdoPowerField pdo := by
  have hpower := pdExtractPdoPower_battery htype hfield hmv
  have hlimit : 1000 * min (1000 * (250000 * pdoPowerField pdo)) pdMaxPowerMw ≤
      1000 * pdMaxPowerMw := Nat.mul_le_mul_left _ (min_le_right _ _)
  have hquot := Nat.div_le_self
    (1000 * min (1000 * (250000 * pdoPowerField pdo)) pdMaxPowerMw) (pdoVoltageField pdo * 50)
  refine ⟨fun h => h.battery htype, fun hoffer => ?_⟩
  constructor
  · rw [hpower]
    exact Nat.mul_comm _ _
  · rw [hpower]
    exact min_le_right _ _
  · rw [hpower]
    exact Nat.le_trans (mul_le_of_le_div (min_le_left _ _)) hlimit
  · rw [htype]
    rintro (hfixed | hvariable)
    · cases hfixed
    · cases hvariable
  · exact fun _ => hoffer
  · rw [hpower]
    refine pdExtractPdoPowerChecked_of_maxMa hmv (Nat.le_trans hquot hlimit) ?_
    rw [maxMaChecked, if_pos htype, pdoPowerField_eq]
    exact batteryMaxMa_eq hfield (by omega)

/-- A battery of 9 units or more takes the computation out of range. -/
theorem not_powerPlanned_battery {pdo : Word} (htype : pdoType pdo = .battery)
    (hfield : 9 ≤ pdoPowerField pdo) (hmv : pdoVoltageField pdo ≠ 0) : ¬PowerPlanned pdo := by
  intro h
  have hne : ¬((pdoVoltageField pdo * 50 : Nat) : Int) = 0 := by omega
  have hmax : maxMaChecked pdo (pdoVoltageField pdo * 50 : Nat) = none := by
    rw [maxMaChecked, if_pos htype, pdoPowerField_eq]
    exact batteryMaxMa_eq_none hfield (pdoPowerField_lt pdo) _
  have hnone : pdExtractPdoPowerChecked pdo = none := by
    unfold pdExtractPdoPowerChecked
    simp only [voltage_checked, hmax, if_neg hne, Option.bind_eq_bind, Option.bind_some,
      Option.bind_none]
  rw [h.inRange] at hnone
  cases hnone

/-- A sink plans within the offer, and computes in range, for every PDO but a battery
with both fields set whose power field is below the voltage field or above 8. -/
theorem powerPlanned_iff (pdo : Word) :
    PowerPlanned pdo ↔
      pdoType pdo ≠ .battery ∨ pdoVoltageField pdo = 0 ∨ pdoPowerField pdo = 0 ∨
        pdoVoltageField pdo ≤ pdoPowerField pdo ∧ pdoPowerField pdo ≤ 8 := by
  rcases eq_or_ne (pdoVoltageField pdo) 0 with hmv | hmv
  · exact iff_of_true (powerPlanned_of_zero hmv) (.inr (.inl hmv))
  by_cases htype : pdoType pdo = .battery
  swap
  · exact iff_of_true (powerPlanned_supply htype hmv) (.inl htype)
  rcases Nat.lt_or_ge 8 (pdoPowerField pdo) with hfield | hfield
  · refine iff_of_false (not_powerPlanned_battery htype hfield hmv) ?_
    rintro (h | h | h | ⟨-, h⟩)
    · exact h htype
    all_goals omega
  rw [powerPlanned_battery_iff htype hfield hmv, pdExtractPdoPower_battery htype hfield hmv]
  simp only
  rcases eq_or_ne (pdoPowerField pdo) 0 with hzero | hzero
  · refine iff_of_true ?_ (.inr (.inr (.inl hzero)))
    rw [hzero]
    exact Nat.le_of_eq (by simp)
  · rw [batteryLimit_eq hzero, battery_power_iff hfield (pdoVoltageField_lt pdo) hmv]
    constructor
    · exact fun h => .inr (.inr (.inr ⟨h, hfield⟩))
    · rintro (h | h | h | ⟨h, -⟩)
      · exact absurd htype h
      · exact absurd h hmv
      · exact absurd h hzero
      · exact h

/-- A battery of 250 mW at 5 V: 5 A are planned. -/
theorem not_powerPlanned_quarter_watt : ¬PowerPlanned 0x40019001 := by
  intro h
  have hoffer := h.battery (by decide)
  revert hoffer
  decide +kernel

end UsbPd
