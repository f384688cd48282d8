import Mathlib.Algebra.Ring.Nat
import Mathlib.Tactic.Common

/-!
# Messages, headers and capability objects

The wire-level data of the protocol: the 16-bit message header with the fields
that `PD_HEADER` packs and the `PD_HEADER_*` macros read, the message types of
the two message classes, and the 32-bit power data objects (PDO), request data
objects (RDO) and vendor defined objects (VDO).
-/

namespace UsbPd

/-- A data object. -/
abbrev Word := BitVec 32

/-- `PD_ROLE_SINK`, `PD_ROLE_SOURCE`. -/
inductive PowerRole where
  | sink
  | source
  deriving DecidableEq, Repr

/-- `PD_ROLE_UFP`, `PD_ROLE_DFP`. -/
inductive DataRole where
  | ufp
  | dfp
  deriving DecidableEq, Repr

def PowerRole.toNat : PowerRole → Nat
  | .sink => 0
  | .source => 1

def DataRole.toNat : DataRole → Nat
  | .ufp => 0
  | .dfp => 1

/-- The clause for the role. -/
def PowerRole.ifElse {α : Type*} : PowerRole → α → α → α
  | .sink, sinkClause, _ => sinkClause
  | .source, _, srcClause => srcClause

@[simp] theorem PowerRole.sink_ifElse {α : Type*} (a c : α) :
    PowerRole.sink.ifElse a c = a := rfl

@[simp] theorem PowerRole.source_ifElse {α : Type*} (a c : α) :
    PowerRole.source.ifElse a c = c := rfl

/-- `!data_role`. -/
def DataRole.swap : DataRole → DataRole
  | .ufp => .dfp
  | .dfp => .ufp

/-- `enum pd_ctrl_msg_type`, as far as the 4-bit type field of a header goes. -/
inductive CtrlMsgType where
  | goodCrc | gotoMin | accept | reject | ping | psRdy | getSourceCap | getSinkCap
  | drSwap | prSwap | vconnSwap | wait | softReset
  deriving DecidableEq, Repr

/-- `enum pd_data_msg_type` without the types of revision 3.0. -/
inductive DataMsgType where
  | sourceCap | request | bist | sinkCap | vendorDef
  deriving DecidableEq, Repr

def CtrlMsgType.toNat : CtrlMsgType → Nat
  | .goodCrc => 1
  | .gotoMin => 2
  | .accept => 3
  | .reject => 4
  | .ping => 5
  | .psRdy => 6
  | .getSourceCap => 7
  | .getSinkCap => 8
  | .drSwap => 9
  | .prSwap => 10
  | .vconnSwap => 11
  | .wait => 12
  | .softReset => 13

def DataMsgType.toNat : DataMsgType → Nat
  | .sourceCap => 1
  | .request => 2
  | .bist => 3
  | .sinkCap => 4
  | .vendorDef => 15

/-- The control message a type field names, `none` for the reserved values. -/
def CtrlMsgType.ofField : Nat → Option CtrlMsgType
  | 1 => some .goodCrc
  | 2 => some .gotoMin
  | 3 => some .accept
  | 4 => some .reject
  | 5 => some .ping
  | 6 => some .psRdy
  | 7 => some .getSourceCap
  | 8 => some .getSinkCap
  | 9 => some .drSwap
  | 10 => some .prSwap
  | 11 => some .vconnSwap
  | 12 => some .wait
  | 13 => some .softReset
  | _ => none

/-- The data message a type field names, `none` for the types that
`handle_data_request` does not handle. -/
def DataMsgType.ofField : Nat → Option DataMsgType
  | 1 => some .sourceCap
  | 2 => some .request
  | 3 => some .bist
  | 4 => some .sinkCap
  | 15 => some .vendorDef
  | _ => none

theorem CtrlMsgType.ofField_toNat (t : CtrlMsgType) : CtrlMsgType.ofField t.toNat = some t := by
  cases t <;> rfl

theorem DataMsgType.ofField_toNat (t : DataMsgType) : DataMsgType.ofField t.toNat = some t := by
  cases t <;> rfl

/-- `PD_REV20`, what `pd_get_rev` is without revision 3.0 support. -/
def pdRev20 : Nat := 1

/-- `PD_HEADER(type, prole, drole, id, cnt, rev, ext)` with `ext = 0`, stored
in a `uint16_t`. -/
def pdHeader (type : Nat) (prole : PowerRole) (drole : DataRole) (id cnt rev : Nat) :
    BitVec 16 :=
  BitVec.ofNat 16 (type ||| rev <<< 6 ||| drole.toNat <<< 5 ||| prole.toNat <<< 8 |||
    id <<< 9 ||| cnt <<< 12)

/-- `PD_HEADER_CNT`. -/
def headerCnt (head : BitVec 16) : Nat := (head >>> 12).toNat % 8

/-- `PD_HEADER_TYPE`. -/
def headerType (head : BitVec 16) : Nat := head.toNat % 16

/-- `PD_HEADER_ID`. -/
def headerId (head : BitVec 16) : Nat := (head >>> 9).toNat % 8

/-- The fields of a header do not overlap; the object count is the topmost. -/
theorem pdHeader_toNat {type id rev : Nat} (prole : PowerRole) (drole : DataRole) (cnt : Nat)
    (htype : type < 16) (hid : id < 8) (hrev : rev < 4) :
    (pdHeader type prole drole id cnt rev).toNat =
      (type + drole.toNat * 32 + rev * 64 + prole.toNat * 256 + id * 512 + cnt * 4096) % 65536 := by
  have hdrole : drole.toNat < 2 := by cases drole <;> decide
  have hprole : prole.toNat < 2 := by cases prole <;> decide
  unfold pdHeader
  generalize drole.toNat = d at *
  generalize prole.toNat = p at *
  have hor : type ||| rev <<< 6 ||| d <<< 5 ||| p <<< 8 ||| id <<< 9 ||| cnt <<< 12 =
      cnt <<< 12 ||| (id <<< 9 ||| (p <<< 8 ||| (rev <<< 6 ||| (d <<< 5 ||| type)))) := by
    ac_rfl
  have h₁ : d <<< 5 + type = d <<< 5 ||| type := Nat.shiftLeft_add_eq_or_of_lt (by omega) d
  have h₂ := Nat.shiftLeft_add_eq_or_of_lt (i := 6) (b := d <<< 5 + type) (by omega) rev
  have h₃ := Nat.shiftLeft_add_eq_or_of_lt (i := 8) (b := rev <<< 6 + (d <<< 5 + type))
    (by omega) p
  have h₄ := Nat.shiftLeft_add_eq_or_of_lt (i := 9)
    (b := p <<< 8 + (rev <<< 6 + (d <<< 5 + type))) (by omega) id
  have h₅ := Nat.shiftLeft_add_eq_or_of_lt (i := 12)
    (b := id <<< 9 + (p <<< 8 + (rev <<< 6 + (d <<< 5 + type)))) (by omega) cnt
  rw [hor, ← h₁, ← h₂, ← h₃, ← h₄, ← h₅, BitVec.toNat_ofNat]
  omega

section

variable {type id rev : Nat} (prole : PowerRole) (drole : DataRole) (cnt : Nat)
  (htype : type < 16) (hid : id < 8) (hrev : rev < 4)

include htype hid hrev

/-- The count field has three bits. -/
theorem headerCnt_pdHeader_mod : headerCnt (pdHeader type prole drole id cnt rev) = cnt % 8 := by
  have hdrole : drole.toNat < 2 := by cases drole <;> decide
  have hprole : prole.toNat < 2 := by cases prole <;> decide
  rw [headerCnt, BitVec.toNat_ushiftRight, pdHeader_toNat prole drole cnt htype hid hrev]
  omega

theorem headerCnt_pdHeader (hcnt : cnt < 8) :
    headerCnt (pdHeader type prole drole id cnt rev) = cnt := by
  rw [headerCnt_pdHeader_mod prole drole cnt htype hid hrev]
  exact Nat.mod_eq_of_lt hcnt

theorem headerType_pdHeader : headerType (pdHeader type prole drole id cnt rev) = type := by
  rw [headerType, pdHeader_toNat prole drole cnt htype hid hrev]
  omega

theorem headerId_pdHeader : headerId (pdHeader type prole drole id cnt rev) = id := by
  have hdrole : drole.toNat < 2 := by cases drole <;> decide
  have hprole : prole.toNat < 2 := by cases prole <;> decide
  rw [headerId, BitVec.toNat_ushiftRight, pdHeader_toNat prole drole cnt htype hid hrev]
  omega

end

theorem CtrlMsgType.toNat_lt (t : CtrlMsgType) : t.toNat < 16 := by
  cases t <;> decide

theorem DataMsgType.toNat_lt (t : DataMsgType) : t.toNat < 16 := by
  cases t <;> decide

/-- A message handed over by `tcpm_get_message`: `payload` holds as many data
objects as the header announces. -/
structure PdMsg where
  head : BitVec 16
  payload : List Word
  length_payload : payload.length = headerCnt head
  deriving DecidableEq

/-- A control message of the type `type`. -/
def PdMsg.isCtrl (m : PdMsg) (type : CtrlMsgType) : Bool :=
  headerCnt m.head = 0 ∧ CtrlMsgType.ofField (headerType m.head) = some type

/-- A data message of the type `type`. -/
def PdMsg.isData (m : PdMsg) (type : DataMsgType) : Bool :=
  headerCnt m.head ≠ 0 ∧ DataMsgType.ofField (headerType m.head) = some type

/-- `payload[0]`. -/
def firstObject (payload : List Word) : Word := payload.headD 0

/-- `(payload[0] >> 28) == 5`: the BIST data object asks for carrier mode 2. -/
def bistCarrierMode2 (bdo : Word) : Bool := (bdo >>> 28).toNat = 5

/-- `PDO_TYPE_MASK` field of a PDO. -/
inductive PdoType where
  | fixed | battery | variable | augmented
  deriving DecidableEq, Repr

def pdoType (pdo : Word) : PdoType :=
  match (pdo >>> 30).toNat with
  | 0 => .fixed
  | 1 => .battery
  | 2 => .variable
  | _ => .augmented

/-- `PDO_FIXED_DUAL_ROLE`, `PDO_FIXED_EXTERNAL`, `PDO_FIXED_COMM_CAP` and
`PDO_FIXED_DATA_SWAP` are the bits 29, 27, 26 and 25 of a fixed PDO. -/
def pdoFixedDualRole (pdo : Word) : Bool := pdo.getLsbD 29
def pdoFixedExternal (pdo : Word) : Bool := pdo.getLsbD 27
def pdoFixedCommCap (pdo : Word) : Bool := pdo.getLsbD 26
def pdoFixedDataSwap (pdo : Word) : Bool := pdo.getLsbD 25

/-- `PDO_FIXED(mv, ma, flags)`. -/
def pdoFixed (mv ma : Nat) (flags : Word) : Word :=
  BitVec.ofNat 32 ((mv / 50) <<< 10) ||| BitVec.ofNat 32 (ma / 10) ||| flags

/-- `PDO_FIXED_FLAGS`: dual role, data swap and USB communications capable. -/
def pdoFixedFlags : Word := 1 <<< 29 ||| 1 <<< 25 ||| 1 <<< 26

/-- `RDO_POS`. -/
def rdoPos (rdo : Word) : Nat := (rdo >>> 28).toNat % 8

/-- `RDO_CAP_MISMATCH`. -/
def rdoCapMismatch : Word := 1 <<< 26

/-- `RDO_FIXED(n, op_ma, max_ma, flags)`. -/
def rdoFixed (n opMa maxMa : Nat) (flags : Word) : Word :=
  BitVec.ofNat 32 ((n % 8) <<< 28) ||| flags ||| BitVec.ofNat 32 ((opMa / 10 % 1024) <<< 10) |||
    BitVec.ofNat 32 (maxMa / 10 % 1024)

/-- `RDO_BATT(n, op_mw, max_mw, flags)`: `RDO_BATT_MAX_POWER` shifts the maximum
power to bit 10, where the operating power already is. -/
def rdoBatt (n opMw maxMw : Nat) (flags : Word) : Word :=
  BitVec.ofNat 32 ((n % 8) <<< 28) ||| flags ||| BitVec.ofNat 32 ((opMw / 250 % 1024) <<< 10) |||
    BitVec.ofNat 32 ((maxMw / 250 % 1024) <<< 10)

/-! The object position is the topmost field of an RDO. -/

theorem ofNat_ushiftRight_28 {a : Nat} (h : a < 2 ^ 28) : BitVec.ofNat 32 a >>> 28 = 0 := by
  apply BitVec.eq_of_toNat_eq
  rw [BitVec.toNat_ushiftRight, BitVec.toNat_ofNat, Nat.mod_eq_of_lt (by omega),
    Nat.shiftRight_eq_div_pow]
  simpa using Nat.div_eq_of_lt h

theorem position_ushiftRight_28 (n : Nat) :
    BitVec.ofNat 32 ((n % 8) <<< 28) >>> 28 = BitVec.ofNat 32 (n % 8) := by
  apply BitVec.eq_of_toNat_eq
  rw [BitVec.toNat_ushiftRight, BitVec.toNat_ofNat, BitVec.toNat_ofNat, Nat.shiftLeft_eq,
    Nat.shiftRight_eq_div_pow]
  omega

/-- The position of an RDO is the `n` it was built with. -/
theorem rdoPos_rdoFixed (n opMa maxMa : Nat) {flags : Word} (hflags : flags >>> 28 = 0) :
    rdoPos (rdoFixed n opMa maxMa flags) = n % 8 := by
  have hop : BitVec.ofNat 32 ((opMa / 10 % 1024) <<< 10) >>> 28 = 0 :=
    ofNat_ushiftRight_28 (by rw [Nat.shiftLeft_eq]; omega)
  have hmax : BitVec.ofNat 32 (maxMa / 10 % 1024) >>> 28 = 0 := ofNat_ushiftRight_28 (by omega)
  unfold rdoPos rdoFixed
  simp only [BitVec.ushiftRight_or_distrib, hflags, hop, hmax, position_ushiftRight_28,
    BitVec.ofNat_eq_ofNat, BitVec.or_zero, BitVec.toNat_ofNat]
  omega

theorem rdoPos_rdoBatt (n opMw maxMw : Nat) {flags : Word} (hflags : flags >>> 28 = 0) :
    rdoPos (rdoBatt n opMw maxMw flags) = n % 8 := by
  have hpower : ∀ mw, BitVec.ofNat 32 ((mw / 250 % 1024) <<< 10) >>> 28 = 0 :=
    fun mw => ofNat_ushiftRight_28 (by rw [Nat.shiftLeft_eq]; omega)
  unfold rdoPos rdoBatt
  simp only [BitVec.ushiftRight_or_distrib, hflags, hpower, position_ushiftRight_28,
    BitVec.ofNat_eq_ofNat, BitVec.or_zero, BitVec.toNat_ofNat]
  omega

/-- `PD_VDO_SVDM`. -/
def pdVdoSvdm (vdo : Word) : Bool := vdo.getLsbD 15

/-- `PD_VDO_CMD`. -/
def pdVdoCmd (vdo : Word) : Nat := vdo.toNat % 32

/-- `PD_VDO_CMDT`. -/
def pdVdoCmdt (vdo : Word) : Nat := (vdo >>> 6).toNat % 4

/-- `VDO(vid, type, custom)`. -/
def vdo (vid : Word) (type : Bool) (custom : Word) : Word :=
  vid <<< 16 ||| BitVec.ofNat 32 (type.toNat <<< 15) ||| (custom &&& 0x7FFF)

end UsbPd
