import UsbPd.Vdm.Busy

/-!
# The policy engine of alternate modes

With `CONFIG_USB_PD_ALT_MODE_DFP` a port keeps the SVIDs and modes that its partner
reported (`svids`) and the modes it entered (`amodes`) in tables of fixed size. Beside the
tables stands a log of what was touched: the functions below read and write where the
source does, also where there is nothing to read.
-/

namespace UsbPd

/-- `SVID_DISCOVERY_MAX`, `PDO_MODES` and `PD_AMODE_COUNT`. -/
def svidDiscoveryMax : Nat := 16

def pdoModes : Nat := 6

def pdAmodeCount : Nat := 2

/-- `struct svdm_svid_data`. -/
structure SvdmSvidData where
  svid : BitVec 16
  modeCnt : Int
  modeVdo : Vector Word pdoModes
  deriving DecidableEq

/-- `struct svdm_amode_data`. The pointers lead into `supported_modes` and `svids`, `none`
is NULL. -/
structure SvdmAmodeData where
  fx : Option Nat
  opos : Int
  data : Option Nat
  deriving DecidableEq

/-- `struct pd_policy`. -/
structure PdPolicy where
  svidIdx : Nat
  svidCnt : Nat
  identity : Vector Word pdoModes
  svids : Vector SvdmSvidData svidDiscoveryMax
  amodes : Vector SvdmAmodeData pdAmodeCount
  amodeIdx : Nat
  deriving DecidableEq

/-- All bytes zero. -/
def SvdmSvidData.zero : SvdmSvidData := ⟨0, 0, Vector.replicate pdoModes 0⟩

def SvdmAmodeData.empty : SvdmAmodeData := ⟨none, 0, none⟩

/-- `pd_dfp_pe_init`. -/
def PdPolicy.init : PdPolicy where
  svidIdx := 0
  svidCnt := 0
  identity := Vector.replicate pdoModes 0
  svids := Vector.replicate svidDiscoveryMax .zero
  amodes := Vector.replicate pdAmodeCount .empty
  amodeIdx := 0

/-- What a call does beside changing the tables. -/
inductive DfpAccess where
  /-- `svids[i]` is read or written -/
  | svid (i : Nat)
  /-- `payload[i]` is read for the SVIDs in it -/
  | object (i : Nat)
  /-- a pointer of `amodes[i]` is followed that is NULL -/
  | emptySlot (i : Nat)
  | powerSupplyReset
  deriving DecidableEq

/-- The policy engine of a port and the accesses to it, the last one first. -/
structure Dfp where
  pe : PdPolicy
  accesses : List DfpAccess

/-- What the functions of an entry of `supported_modes` return. -/
structure SvdmAmodeFx where
  enter : Word → Int
  status : List Word → Int × List Word
  config : List Word → Int × List Word
  attention : Option (List Word → List Word)

/-- What a call meets outside of the policy engine: the functions of `supported_modes`
and `svdm_rsp`, and the memory at NULL and behind the tables. -/
structure DfpEnv where
  fx : Option Nat → SvdmAmodeFx
  nullSvid : BitVec 16
  outsideSvids : SvdmSvidData
  outsideModes : Word
  rsp : Nat → Option (List Word → Int × List Word)
  vdoVer : Nat

/-- `memcpy` of `len` words. -/
def memcpyVdo {n : Nat} (dst : Vector Word n) (src : List Word) (len : Nat) : Vector Word n :=
  Vector.ofFn fun i => if i < len then src.getD i 0 else dst[i]

namespace Dfp

variable (s : Dfp)

def note (a : DfpAccess) : Dfp := { s with accesses := a :: s.accesses }

def slot (i : Nat) : SvdmAmodeData := s.pe.amodes[i]?.getD .empty

/-- `amodes[i].opos = opos`. -/
def setOpos (i : Nat) (opos : Int) : Dfp :=
  { s with pe.amodes := s.pe.amodes.setIfInBounds i { s.slot i with opos := opos } }

/-- A pointer of `amodes[i]` is followed. -/
def follow (i : Nat) (pointer : Option Nat) : Dfp :=
  if pointer = none then s.note (.emptySlot i) else s

/-! `supported` holds the SVIDs of `supported_modes`. -/

variable (supported : List (BitVec 16)) (env : DfpEnv)

/-- `svids[j]`. -/
def svidData (j : Nat) : SvdmSvidData := s.pe.svids[j]?.getD env.outsideSvids

/-- `fx->svid`. -/
def fxSvid : Option Nat → BitVec 16
  | none => env.nullSvid
  | some i => supported.getD i 0

/-- The loop of `get_mode_idx` over `n` slots from `i` on. -/
def getModeIdxFrom (svid : BitVec 16) : Nat → Nat → Dfp → Option Nat × Dfp
  | 0, _, s => (none, s)
  | n + 1, i, s =>
    let fx := (s.slot i).fx
    let s := s.follow i fx
    if fxSvid supported env fx = svid then (some i, s) else getModeIdxFrom svid n (i + 1) s

/-- `get_mode_idx`, and `get_modep`, which turns the index into a pointer. -/
def getModeIdx (svid : BitVec 16) : Option Nat × Dfp :=
  getModeIdxFrom supported env svid pdAmodeCount 0 s

/-- The inner loop of `allocate_mode` over `n` SVIDs from `j` on. -/
def findSvid (fxSvid svid : BitVec 16) : Nat → Nat → Dfp → Option Nat × Dfp
  | 0, _, s => (none, s)
  | n + 1, j, s =>
    let found := (s.svidData env j).svid
    let s := s.note (.svid j)
    if found ≠ fxSvid ∨ (svid ≠ 0 ∧ found ≠ svid) then findSvid fxSvid svid n (j + 1) s
    else (some j, s)

/-- The outer loop of `allocate_mode`, from the entry `i` of `supported_modes` on. -/
def allocateFrom (svid : BitVec 16) : List (BitVec 16) → Nat → Dfp → Option Nat × Dfp
  | [], _, s => (none, s)
  | fxSvid :: rest, i, s =>
    match findSvid env fxSvid svid s.pe.svidCnt 0 s with
    | (none, s) => allocateFrom svid rest (i + 1) s
    | (some j, s) =>
      let idx := s.pe.amodeIdx
      (some idx, { s with
        pe.amodes := s.pe.amodes.setIfInBounds idx { s.slot idx with fx := some i, data := some j }
        pe.amodeIdx := idx + 1 })

/-- `allocate_mode`. -/
def allocateMode (svid : BitVec 16) : Option Nat × Dfp :=
  match s.getModeIdx supported env svid with
  | (some i, s) => (some i, s)
  | (none, s) =>
    if s.pe.amodeIdx = pdAmodeCount then (none, s) else allocateFrom env svid supported 0 s

/-- `*modep->data`. -/
def loadData (i : Nat) : SvdmSvidData × Dfp :=
  match (s.slot i).data with
  | none => (env.outsideSvids, s.note (.emptySlot i))
  | some j => (s.svidData env j, s.note (.svid j))

/-- `modep->data->mode_vdo[k]`. -/
def modeVdoAt (data : SvdmSvidData) (k : Int) : Word :=
  if 0 ≤ k then data.modeVdo[k.toNat]?.getD env.outsideModes else env.outsideModes

/-- The end of `pd_dfp_enter_mode`: the mode's `enter` and the VDM for the partner. -/
def enterSlot (i : Nat) : Word × Dfp :=
  let slot := s.slot i
  let data := s.loadData env i
  let caps := modeVdoAt env data.1 (slot.opos - 1)
  let s := data.2.follow i slot.fx
  if (env.fx slot.fx).enter caps = -1 then (0, s)
  else
    let custom := 4#32 ||| (BitVec.ofInt 32 slot.opos <<< 8)
    (vdo ((fxSvid supported env slot.fx).setWidth 32) true custom, s)

/-- `pd_dfp_enter_mode`. -/
def pdDfpEnterMode (svid : BitVec 16) (opos : Int) : Word × Dfp :=
  match s.allocateMode supported env svid with
  | (none, s) => (0, s)
  | (some i, s) =>
    if opos = 0 then (s.setOpos i 1).enterSlot supported env i
    else
      let data := s.loadData env i
      if opos ≤ data.1.modeCnt then (data.2.setOpos i opos).enterSlot supported env i
      else (0, data.2)

/-- `validate_mode_request`. -/
def validateModeRequest (slot : SvdmAmodeData) (svid : BitVec 16) (opos : Int) : Bool :=
  match slot.fx with
  | none => false
  | some i => svid = supported.getD i 0 ∧ opos = slot.opos

/-- `pd_dfp_exit_mode`; with SVID 0 the entered modes are left and the tables cleared. -/
def pdDfpExitMode (svid : BitVec 16) (opos : Int) : Int × Dfp :=
  if svid = 0 then (0, { s with pe := .init })
  else
    match s.getModeIdx supported env svid with
    | (none, s) => (0, s)
    | (some i, s) =>
      if validateModeRequest supported (s.slot i) svid opos then (1, s.setOpos i 0) else (0, s)

end Dfp

end UsbPd
