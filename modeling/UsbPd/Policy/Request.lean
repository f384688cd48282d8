import UsbPd.Port.State

/-!
# Power policy

The arithmetic of `usb_pd_policy.cpp`: what a received PDO offers, the request
data object built from the selected one, and the check of a received request
against the advertised table. The board supplies the advertised tables.
-/

namespace UsbPd

/-- The PDO tables of the board, `pd_src_pdo` and `pd_snk_pdo`. -/
structure Board where
  srcPdo : List Word
  snkPdo : List Word
  deriving DecidableEq

/-- The tables of `usb_pd_driver.cpp`. -/
def Board.shipped : Board where
  srcPdo := [pdoFixed 5000 1500 pdoFixedFlags]
  snkPdo := [pdoFixed 5000 500 pdoFixedFlags, pdoFixed 9000 500 pdoFixedFlags,
    pdoFixed 20000 500 pdoFixedFlags]

/-- `PD_OPERATING_POWER_MW`. -/
def pdOperatingPowerMw : Nat := 2250

/-- `PD_MAX_POWER_MW`. -/
def pdMaxPowerMw : Nat := 60000

/-- `PD_MAX_CURRENT_MA`. -/
def pdMaxCurrentMa : Nat := 5000

/-- `PD_MAX_VOLTAGE_MV`. -/
def pdMaxVoltageMv : Nat := 12000

/-- An `int` result, with the wrap-around of 32-bit two's complement. -/
def toInt32 (x : Int) : Int := x.bmod (2 ^ 32)

/-- An `int` converted to `unsigned long long`. -/
def toUnsigned64 (x : Int) : Nat := (x % 2 ^ 64).toNat

/-- `pd_board_check_request`. -/
def pdBoardCheckRequest (rdo : Word) (pdoCnt : Nat) : EcResult :=
  if rdoPos rdo = 0 ∨ pdoCnt < rdoPos rdo then .errorInval else .success

/-- `pd_check_requested_voltage`. -/
def pdCheckRequestedVoltage (b : Board) (rdo : Word) : EcResult :=
  let maxMa := rdo.toNat % 1024
  let opMa := (rdo >>> 10).toNat % 1024
  if pdBoardCheckRequest rdo b.srcPdo.length ≠ .success then .errorInval
  else
    let pdoMa := (b.srcPdo.getD (rdoPos rdo - 1) 0).toNat % 1024
    if pdoMa < opMa then .errorInval
    else if pdoMa < maxMa ∧ rdo &&& rdoCapMismatch = 0 then .errorInval
    else .success

/-- A Request that a source accepts. -/
def PdMsg.acceptable (b : Board) (m : PdMsg) : Bool :=
  m.payload.length = 1 ∧ pdCheckRequestedVoltage b (firstObject m.payload) = .success

/-- `pd_extract_pdo_power`: the current and the voltage (`ma`, `mv`) planned for
a PDO. For a battery PDO `1000 * uw` is an `int` product, compared with the
`unsigned long long` limit after conversion. -/
def pdExtractPdoPower (pdo : Word) : Nat × Nat :=
  let mv := (pdo >>> 10).toNat % 1024 * 50
  if mv = 0 then (0, 0)
  else
    let maxMa := if pdoType pdo = .battery then
        let uw := 250000 * (pdo.toNat % 1024)
        1000 * min (toUnsigned64 (toInt32 (1000 * uw))) pdMaxPowerMw / mv
      else
        min (10 * (pdo.toNat % 1024)) (pdMaxPowerMw * 1000 / mv)
    (min maxMa pdMaxCurrentMa, mv)

/-- `enum pd_request_type`. -/
inductive RequestType where
  | vsafe5v
  | max
  deriving DecidableEq, Repr

namespace Statics

/-- `pd_src_caps[port][i]`. -/
def srcCap (st : Statics) (i : Nat) : Word := st.srcCaps.getD i 0

/-- `pd_find_pdo_index`: the entry of the selected index, whatever the cap. -/
def pdFindPdoIndex (st : Statics) (_maxMv : Nat) : Int × Word :=
  (0, st.srcCap st.sourceCapCurrentIndex)

end Statics

/-- What `pd_build_request` returns through its pointers: the request data object
and the planned current and voltage. -/
structure PowerRequest where
  rdo : Word
  currLimit : Nat
  supplyVoltage : Nat
  deriving DecidableEq

/-- The request for the PDO at `pdoIndex`. -/
def requestObject (pdoIndex : Nat) (pdo : Word) : PowerRequest :=
  let power := pdExtractPdoPower pdo
  let uw := power.1 * power.2
  let flags := if uw < 1000 * pdOperatingPowerMw then rdoCapMismatch else 0
  { rdo := if pdoType pdo = .battery then
        rdoBatt (pdoIndex + 1) (uw / 1000) (uw / 1000) flags
      else
        rdoFixed (pdoIndex + 1) power.1 power.1 flags
    currLimit := power.1
    supplyVoltage := power.2 }

/-- A request names the position after the index it was built for. -/
theorem rdoPos_requestObject {pdoIndex : Nat} (h : pdoIndex < 7) (pdo : Word) :
    rdoPos (requestObject pdoIndex pdo).rdo = pdoIndex + 1 := by
  have hflags : ∀ low : Prop, [Decidable low] →
      (if low then rdoCapMismatch else 0) >>> 28 = 0 := by
    intro low _
    split <;> decide
  unfold requestObject
  simp only
  split
  · rw [rdoPos_rdoBatt _ _ _ (hflags _)]
    omega
  · rw [rdoPos_rdoFixed _ _ _ (hflags _)]
    omega

/-- `pd_build_request` for the selected PDO, or for the first one when vSafe5V
is asked for. -/
def Statics.pdBuildRequest (st : Statics) : RequestType → EcResult × PowerRequest
  | .vsafe5v => (.success, requestObject 0 (st.srcCap 0))
  | .max => (.success, requestObject st.sourceCapCurrentIndex (st.srcCap st.sourceCapCurrentIndex))

end UsbPd
