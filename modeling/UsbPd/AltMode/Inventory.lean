import UsbPd.AltMode.Discovery

/-!
# The discovery conversation

A DFP that has learned the identity of its partner asks for the SVIDs and then, SVID by SVID,
for the modes. A partner that answers from an inventory of at most eleven SVIDs with at most
six modes each is asked for every SVID once and in order, and its whole inventory ends up in
the tables of the policy engine. Every acknowledgement has `get_mode_idx` look through slots
that are empty: all of this is about memory in which `fx->svid` can be read at NULL, whatever
stands there.
-/

namespace UsbPd

/-- A word of two halves. -/
theorem toNat_halves (high low : BitVec 16) :
    (high.setWidth 32 <<< 16 ||| low.setWidth 32 : Word).toNat =
      high.toNat * 65536 + low.toNat := by
  have hhigh : (high.setWidth 32 <<< 16 : Word).toNat = high.toNat <<< 16 := by
    have hlt := high.isLt
    rw [BitVec.toNat_shiftLeft, BitVec.toNat_setWidth, Nat.shiftLeft_eq]
    omega
  have hlow : (low.setWidth 32 : Word).toNat = low.toNat := by
    have hlt := low.isLt
    rw [BitVec.toNat_setWidth]
    omega
  rw [BitVec.toNat_or, hhigh, hlow, ← Nat.shiftLeft_add_eq_or_of_lt low.isLt, Nat.shiftLeft_eq]

/-! Headers of structured VDMs. -/

/-- The header of a structured VDM of version `ver` with object position 0. -/
def svdmHeader (svid : BitVec 16) (ver cmdt cmd : Nat) : Word :=
  svid.setWidth 32 <<< 16 |||
    (BitVec.ofNat 16 (32768 + ver * 8192 + cmdt * 64 + cmd)).setWidth 32

theorem toNat_svdmHeader (svid : BitVec 16) {ver cmdt cmd : Nat} (hver : ver < 4)
    (hcmdt : cmdt < 4) (hcmd : cmd < 32) :
    (svdmHeader svid ver cmdt cmd).toNat =
      svid.toNat * 65536 + (32768 + ver * 8192 + cmdt * 64 + cmd) := by
  rw [svdmHeader, toNat_halves, BitVec.toNat_ofNat]
  omega

section

variable (svid : BitVec 16) {ver cmdt cmd : Nat} (hver : ver < 4) (hcmdt : cmdt < 4)
  (hcmd : cmd < 32)

include hver hcmdt hcmd

theorem pdVdoCmd_svdmHeader : pdVdoCmd (svdmHeader svid ver cmdt cmd) = cmd := by
  rw [pdVdoCmd, toNat_svdmHeader svid hver hcmdt hcmd]
  omega

theorem pdVdoCmdt_svdmHeader : pdVdoCmdt (svdmHeader svid ver cmdt cmd) = cmdt := by
  rw [pdVdoCmdt, BitVec.toNat_ushiftRight, Nat.shiftRight_eq_div_pow,
    toNat_svdmHeader svid hver hcmdt hcmd]
  omega

theorem pdVdoVid_svdmHeader : (pdVdoVid (svdmHeader svid ver cmdt cmd)).setWidth 16 = svid := by
  have hsvid := svid.isLt
  refine BitVec.eq_of_toNat_eq ?_
  rw [pdVdoVid, BitVec.toNat_setWidth, BitVec.toNat_ushiftRight, Nat.shiftRight_eq_div_pow,
    toNat_svdmHeader svid hver hcmdt hcmd]
  omega

end

/-- The next question of a discovery, and its acknowledgement. -/
theorem svdmHeader_request (svid : BitVec 16) {ver cmd : Nat} (hver : ver < 4)
    (hcmd : cmd = 2 ∨ cmd = 3) :
    vdo (svid.setWidth 32) true (BitVec.ofNat 32 cmd) ||| BitVec.ofNat 32 ver <<< 13 =
        svdmHeader svid ver 0 cmd ∧
      svdmHeader svid ver 0 cmd ||| 1#32 <<< 6 = svdmHeader svid ver 1 cmd := by
  have hconst : ∀ ver < 4, ∀ cmd < 32,
      (BitVec.ofNat 32 (true.toNat <<< 15) ||| (BitVec.ofNat 32 cmd &&& 0x7FFF#32)) |||
          BitVec.ofNat 32 ver <<< 13 =
            (BitVec.ofNat 16 (32768 + ver * 8192 + 0 * 64 + cmd)).setWidth 32 ∧
        (BitVec.ofNat 16 (32768 + ver * 8192 + 0 * 64 + cmd)).setWidth 32 ||| 1#32 <<< 6 =
          (BitVec.ofNat 16 (32768 + ver * 8192 + 1 * 64 + cmd)).setWidth 32 := by
    decide
  obtain ⟨hrequest, hack⟩ := hconst ver hver cmd (by omega)
  unfold svdmHeader vdo
  constructor
  · rw [← hrequest]
    simp only [BitVec.or_assoc]
    rfl
  · rw [BitVec.or_assoc, hack]

/-! The partner. -/

/-- Two SVIDs to an object, with a 0 behind the last one. -/
def packSvids : List (BitVec 16) → List Word
  | [] => [0]
  | [svid] => [svid.setWidth 32 <<< 16]
  | svid0 :: svid1 :: rest => (svid0.setWidth 32 <<< 16 ||| svid1.setWidth 32) :: packSvids rest

/-- What a partner has to report. -/
structure Inventory where
  svids : List (BitVec 16)
  modes : BitVec 16 → List Word
  nonzero : ∀ svid ∈ svids, svid ≠ 0
  length_svids : svids.length ≤ 11
  length_modes : ∀ svid, (modes svid).length ≤ pdoModes

theorem length_packSvids (svids : List (BitVec 16)) :
    (packSvids svids).length = svids.length / 2 + 1 := by
  induction svids using packSvids.induct with
  | case1 => rfl
  | case2 svid => simp [packSvids]
  | case3 svid0 svid1 rest ih =>
      rw [packSvids, List.length_cons, ih, List.length_cons, List.length_cons]
      omega

theorem pdVdoSvid_pair (svid0 svid1 : BitVec 16) :
    pdVdoSvidSvid0 (svid0.setWidth 32 <<< 16 ||| svid1.setWidth 32) = svid0 ∧
      pdVdoSvidSvid1 (svid0.setWidth 32 <<< 16 ||| svid1.setWidth 32) = svid1 := by
  have h0 := svid0.isLt
  have h1 := svid1.isLt
  constructor
  · refine BitVec.eq_of_toNat_eq ?_
    rw [pdVdoSvidSvid0, BitVec.toNat_setWidth, BitVec.toNat_ushiftRight,
      Nat.shiftRight_eq_div_pow, toNat_halves]
    omega
  · refine BitVec.eq_of_toNat_eq ?_
    rw [pdVdoSvidSvid1, BitVec.toNat_setWidth, toNat_halves]
    omega

theorem pdVdoSvid_last (svid : BitVec 16) :
    pdVdoSvidSvid0 (svid.setWidth 32 <<< 16) = svid ∧
      pdVdoSvidSvid1 (svid.setWidth 32 <<< 16) = 0 := by
  have hlast : (svid.setWidth 32 <<< 16 : Word) =
      svid.setWidth 32 <<< 16 ||| (0 : BitVec 16).setWidth 32 := BitVec.or_zero.symm
  rw [hlast]
  exact pdVdoSvid_pair svid 0

/-- The SVIDs of the answer end with a 0 that lies in the answer. -/
theorem untilZero_packSvids {svids : List (BitVec 16)} (h : ∀ svid ∈ svids, svid ≠ 0) :
    untilZero (svidsOf (packSvids svids)) = svids ∧
      svids.length < (svidsOf (packSvids svids)).length := by
  induction svids using packSvids.induct with
  | case1 => decide
  | case2 svid =>
      obtain ⟨hfirst, hsecond⟩ := pdVdoSvid_last svid
      have hsvids : svidsOf (packSvids [svid]) = [svid, 0] := by
        simp [svidsOf, packSvids, hfirst, hsecond]
      rw [hsvids, untilZero_cons (h svid (by simp))]
      exact ⟨rfl, by simp⟩
  | case3 svid0 svid1 rest ih =>
      obtain ⟨hfirst, hsecond⟩ := pdVdoSvid_pair svid0 svid1
      have hsvids : svidsOf (packSvids (svid0 :: svid1 :: rest)) =
          svid0 :: svid1 :: svidsOf (packSvids rest) := by
        simp [svidsOf, packSvids, hfirst, hsecond]
      obtain ⟨huntil, hlength⟩ := ih fun svid hsvid => h svid (by simp [hsvid])
      rw [hsvids, untilZero_cons (h svid0 (by simp)), untilZero_cons (h svid1 (by simp)), huntil]
      refine ⟨rfl, ?_⟩
      simp only [List.length_cons]
      omega

namespace Inventory

variable (inv : Inventory)

/-- The objects of the answer to a request. -/
def objects (request : Word) : List Word :=
  if pdVdoCmd request = 2 then packSvids inv.svids
  else inv.modes ((pdVdoVid request).setWidth 16)

theorem length_objects (request : Word) : (inv.objects request).length ≤ 6 := by
  unfold objects
  split_ifs
  · have hle := inv.length_svids
    rw [length_packSvids]
    omega
  · exact inv.length_modes _

/-- The acknowledgement of a request; behind it lies what was in memory. -/
def answer (request : Word) (beyond : List Word) : VdmBuffer where
  cnt := 1 + (inv.objects request).length
  memory := (request ||| 1#32 <<< 6) :: (inv.objects request ++ beyond)
  cnt_pos := Nat.add_pos_left Nat.one_pos _
  cnt_le := Nat.add_le_add_left (inv.length_objects request) 1
  held := by
    rw [List.length_cons, List.length_append]
    omega

/-- The answer to the request for a command. -/
theorem answer_eq {svid : BitVec 16} {ver cmd : Nat} (hver : ver < 4) (hcmd : cmd = 2 ∨ cmd = 3)
    (beyond : List Word) :
    let m := inv.answer (svdmHeader svid ver 0 cmd) beyond
    m.cmd = cmd ∧ m.cmdType = 1 ∧
      ∀ header, (m.memory.set 0 header).drop 1 =
        inv.objects (svdmHeader svid ver 0 cmd) ++ beyond := by
  have hheader : (inv.answer (svdmHeader svid ver 0 cmd) beyond).header =
      svdmHeader svid ver 1 cmd := (svdmHeader_request svid hver hcmd).2
  refine ⟨?_, ?_, fun header => rfl⟩
  · rw [VdmBuffer.cmd, hheader, pdVdoCmd_svdmHeader svid hver (by decide) (by omega)]
  · rw [VdmBuffer.cmdType, hheader, pdVdoCmdt_svdmHeader svid hver (by decide) (by omega)]

end Inventory

/-! The conversation. -/

/-- The policy engine, its request to the partner, and the requests before it with command
and SVID, oldest first. -/
structure Discovery where
  dfp : Dfp
  request : Option Word
  asked : List (Nat × BitVec 16)

/-- What `pd_svdm` leaves, as the next state; a response of size 0 is no request. -/
def SvdmResult.discovery (r : SvdmResult) (asked : List (Nat × BitVec 16)) : Discovery where
  dfp := r.dfp
  request := if 0 < r.rsize then some (firstObject r.payload) else none
  asked := asked

namespace Discovery

variable (supported : List (BitVec 16)) (inv : Inventory)

/-- The partner answers the request, and the answer is processed in `env`, with `beyond`
behind it in memory. -/
def round (c : Discovery) (r : DfpEnv × List Word) : Discovery :=
  match c.request with
  | none => c
  | some request =>
    (c.dfp.pdSvdm supported r.1 (inv.answer request r.2)).discovery
      (c.asked ++ [(pdVdoCmd request, (pdVdoVid request).setWidth 16)])

/-- After `k` of the SVIDs have been asked for their modes. -/
structure Progress (k : Nat) (c : Discovery) : Prop where
  svids : c.dfp.pe.knownSvids = inv.svids
  cnt : c.dfp.pe.svidCnt = inv.svids.length
  idx : c.dfp.pe.svidIdx = k
  modes : ∀ i < k, ∃ data, c.dfp.pe.svids[i]? = some data ∧
    data.modeCnt = (inv.modes data.svid).length ∧
    data.modeVdo.toList.take (inv.modes data.svid).length = inv.modes data.svid
  request : ∀ svid, inv.svids[k]? = some svid → ∃ ver < 4,
    c.request = some (svdmHeader svid ver 0 3)
  asked : c.asked = (2, 0xFF00) :: (inv.svids.take k).map fun svid => (3, svid)

end Discovery

namespace Dfp

variable (supported : List (BitVec 16)) (env : DfpEnv) (s : Dfp)

/-- An acknowledgement is processed after a lookup that changes nothing discovered. -/
theorem pdSvdm_ack {m : VdmBuffer} (h : m.cmdType = 1) : ∃ (s' : Dfp) (modep : Option Nat)
    (header : Word), Aside s s' ∧
      s.pdSvdm supported env m =
        let r := s'.ackCommand supported env m.cmd m.cnt modep (m.memory.set 0 header)
        { r with payload := orHeader r.payload (BitVec.ofNat 32 env.vdoVer <<< 13) } := by
  let header := m.header &&& ~~~0xC0
  let svid := (pdVdoVid (firstObject (m.memory.set 0 header))).setWidth 16
  let lookup := s.getModeIdx supported env svid
  refine ⟨lookup.2, lookup.1, header, Aside.getModeIdx supported env svid, ?_⟩
  unfold pdSvdm
  rw [if_neg (by rw [h]; decide), if_pos h]
  rfl

/-- The next SVID to ask about, with its request. -/
theorem dfpDiscoverModes_request {payload : List Word} (hpayload : payload ≠ [])
    (hver : env.vdoVer < 4) {data : SvdmSvidData} (hidx : s.pe.svidIdx < s.pe.svidCnt)
    (hdata : s.pe.svids[s.pe.svidIdx]? = some data) :
    (s.dfpDiscoverModes env payload).1 = 1 ∧
      firstObject (orHeader (s.dfpDiscoverModes env payload).2.1
        (BitVec.ofNat 32 env.vdoVer <<< 13)) = svdmHeader data.svid env.vdoVer 0 3 := by
  obtain ⟨word, rest, rfl⟩ := List.exists_cons_of_ne_nil hpayload
  have hsvid : s.svidData env s.pe.svidIdx = data := by
    rw [svidData, hdata]
    rfl
  have hnext : s.dfpDiscoverModes env (word :: rest) =
      (1, vdo (data.svid.setWidth 32) true 3 :: rest, s.note (.svid s.pe.svidIdx)) := by
    rw [← hsvid]
    exact if_neg (Nat.not_le_of_lt hidx)
  rw [hnext]
  exact ⟨rfl, (svdmHeader_request data.svid hver (.inr rfl)).1⟩

/-- The modes of an answer are stored for the SVID that was asked about. -/
theorem dfpConsumeModes_pe {data : SvdmSvidData} (hdata : s.pe.svids[s.pe.svidIdx]? = some data)
    {modes beyond payload : List Word} (hpayload : payload.drop 1 = modes ++ beyond)
    (hmodes : modes.length ≤ pdoModes) :
    ∃ modeVdo : Vector Word pdoModes, modeVdo.toList.take modes.length = modes ∧
      (s.dfpConsumeModes env (1 + modes.length) payload).pe = { s.pe with
        svids := s.pe.svids.setIfInBounds s.pe.svidIdx ⟨data.svid, modes.length, modeVdo⟩
        svidIdx := s.pe.svidIdx + 1 } := by
  have hsvid : s.svidData env s.pe.svidIdx = data := by
    rw [svidData, hdata]
    rfl
  have hcnt : ((1 + modes.length : Nat) : Int) - 1 = modes.length := by omega
  refine ⟨memcpyVdo data.modeVdo (modes ++ beyond) modes.length, ?_, ?_⟩
  · refine List.ext_getElem ?_ fun i hi hi' => ?_
    · rw [List.length_take, Vector.length_toList]
      omega
    · have hless : i < pdoModes := Nat.lt_of_lt_of_le hi' hmodes
      simp [memcpyVdo, hi', List.getElem?_append_left hi']
  · unfold dfpConsumeModes
    simp only [hsvid, hcnt, hpayload]
    rw [if_neg (by omega), Int.toNat_natCast]
    rfl

/-- The SVIDs stay what they are. -/
theorem knownSvids_setModes {pe : PdPolicy} {i : Nat} {data : SvdmSvidData}
    (hdata : pe.svids[i]? = some data) (modeCnt : Int) (modeVdo : Vector Word pdoModes)
    (svidIdx : Nat) :
    PdPolicy.knownSvids { pe with
      svids := pe.svids.setIfInBounds i ⟨data.svid, modeCnt, modeVdo⟩, svidIdx := svidIdx } =
      pe.knownSvids := by
  have hlist : pe.svids.toList[i]? = some data := by
    rw [Vector.getElem?_toList]
    exact hdata
  have hsvid : (pe.svids.toList.map SvdmSvidData.svid)[i]? = some data.svid := by
    rw [List.getElem?_map, hlist]
    rfl
  obtain ⟨hlt, hget⟩ := List.getElem?_eq_some_iff.1 hsvid
  unfold PdPolicy.knownSvids
  simp only [Vector.toList_setIfInBounds]
  rw [List.map_take, List.map_set, List.map_take, ← hget, List.set_getElem_self hlt]

/-- The entry of a known SVID. -/
theorem exists_data {pe : PdPolicy} {svids : List (BitVec 16)} (hknown : pe.knownSvids = svids)
    {k : Nat} {svid : BitVec 16} (hk : svids[k]? = some svid) :
    ∃ data, pe.svids[k]? = some data ∧ data.svid = svid := by
  rw [← hknown, PdPolicy.knownSvids, List.getElem?_map, Option.map_eq_some_iff] at hk
  obtain ⟨data, hdata, hsvid⟩ := hk
  refine ⟨data, ?_, hsvid⟩
  rw [List.getElem?_take, Vector.getElem?_toList] at hdata
  split_ifs at hdata
  exact hdata

theorem length_knownSvids {pe : PdPolicy} (hcnt : pe.svidCnt ≤ svidDiscoveryMax) :
    pe.knownSvids.length = pe.svidCnt := by
  rw [PdPolicy.knownSvids, List.length_map, List.length_take, Vector.length_toList]
  exact Nat.min_eq_left hcnt

end Dfp

namespace Discovery

variable (supported : List (BitVec 16)) (inv : Inventory)

/-- After an identity the tables are empty, and the SVIDs are asked for. -/
structure Identified (c : Discovery) : Prop where
  cnt : c.dfp.pe.svidCnt = 0
  idx : c.dfp.pe.svidIdx = 0
  request : ∃ ver < 4, c.request = some (svdmHeader 0xFF00 ver 0 2)
  asked : c.asked = []

theorem identified (s : Dfp) {env : DfpEnv} (hver : env.vdoVer < 4) {m : VdmBuffer}
    (hack : m.cmdType = 1) (hcmd : m.cmd = 1) :
    Identified ((s.pdSvdm supported env m).discovery []) := by
  obtain ⟨s', modep, header, -, heq⟩ := s.pdSvdm_ack supported env hack
  have hmemory : ∃ rest, m.memory.set 0 header = header :: rest := by
    obtain ⟨cnt, memory, hpos, hle, hheld⟩ := m
    cases memory with
    | nil => exact absurd hheld (Nat.not_le_of_lt hpos)
    | cons word rest => exact ⟨rest, rfl⟩
  obtain ⟨rest, hrest⟩ := hmemory
  have hcase : s'.ackCommand supported env 1 m.cnt modep (header :: rest) =
      ⟨1, vdo usbSidPd true 2 :: rest, s'.dfpConsumeIdentity m.cnt (header :: rest)⟩ := rfl
  have hcleared : (s'.dfpConsumeIdentity m.cnt (header :: rest)).pe.svidCnt = 0 ∧
      (s'.dfpConsumeIdentity m.cnt (header :: rest)).pe.svidIdx = 0 := by
    unfold Dfp.dfpConsumeIdentity
    simp only
    split_ifs <;> exact ⟨rfl, rfl⟩
  rw [heq, hcmd, hrest, hcase]
  refine ⟨hcleared.1, hcleared.2, ⟨env.vdoVer, hver, ?_⟩, rfl⟩
  exact congrArg some (svdmHeader_request 0xFF00 hver (.inl rfl)).1

/-- What the policy engine asks next. -/
theorem exists_request {env : DfpEnv} (hver : env.vdoVer < 4) {s : Dfp} {payload : List Word}
    (hpayload : payload ≠ []) {svid : BitVec 16} (hidx : s.pe.svidIdx < s.pe.svidCnt)
    (hdata : ∃ data, s.pe.svids[s.pe.svidIdx]? = some data ∧ data.svid = svid) :
    (s.dfpDiscoverModes env payload).1 = 1 ∧
      firstObject (Dfp.orHeader (s.dfpDiscoverModes env payload).2.1
        (BitVec.ofNat 32 env.vdoVer <<< 13)) = svdmHeader svid env.vdoVer 0 3 := by
  obtain ⟨data, hget, rfl⟩ := hdata
  exact s.dfpDiscoverModes_request env hpayload hver hidx hget

variable {supported inv}

/-- The answer with the SVIDs fits the tables, which are empty. -/
theorem fits_packSvids (inv : Inventory) : Fits 0 (svidsOf (packSvids inv.svids)) := by
  have hmax : svidDiscoveryMax = 16 := rfl
  have hlength := inv.length_svids
  obtain ⟨huntil, hless⟩ := untilZero_packSvids inv.nonzero
  refine Or.inl ?_
  rw [huntil]
  exact ⟨hless, by omega⟩

/-- All SVIDs are known after the answer. -/
theorem consumed_packSvids (inv : Inventory) (env : DfpEnv) {s : Dfp} (hcnt : s.pe.svidCnt = 0)
    {payload beyond : List Word} (hpayload : payload.drop 1 = packSvids inv.svids ++ beyond) :
    (s.dfpConsumeSvids env payload).pe.knownSvids = inv.svids ∧
      (s.dfpConsumeSvids env payload).pe.svidCnt = inv.svids.length ∧
      (s.dfpConsumeSvids env payload).pe.svidIdx = s.pe.svidIdx := by
  have hmax : svidDiscoveryMax = 16 := rfl
  have hlength := inv.length_svids
  have hloop : s.dfpConsumeSvids env payload =
      Dfp.consumeSvidsFrom env (packSvids inv.svids ++ beyond) 1 0 s := by
    rw [Dfp.dfpConsumeSvids, hpayload, hcnt]
  have htook := Dfp.consumeSvidsFrom_fits env _ beyond 1 0 s hcnt (Nat.zero_le _)
    (fits_packSvids inv)
  rw [← hloop] at htook
  have hnone : s.pe.knownSvids = [] := by
    rw [PdPolicy.knownSvids, hcnt]
    rfl
  have hknown : (s.dfpConsumeSvids env payload).pe.knownSvids = inv.svids := by
    rw [htook.known, hnone, (untilZero_packSvids inv.nonzero).1, List.nil_append]
    exact List.take_of_length_le (by omega)
  refine ⟨hknown, ?_, ?_⟩
  · rw [← hknown, Dfp.length_knownSvids htook.cnt]
  · rw [hloop]
    exact (Dfp.consumeSvidsFrom_consumed env _ _ _ _).svidIdx

/-- The answer with the SVIDs. -/
theorem Identified.round {c : Discovery} (h : Identified c) {env : DfpEnv}
    (hver : env.vdoVer < 4) (beyond : List Word) :
    Progress inv 0 (c.round supported inv (env, beyond)) := by
  obtain ⟨ver, hver', hrequest⟩ := h.request
  obtain ⟨hcmd, hack, hpayload⟩ := @Inventory.answer_eq inv 0xFF00 ver 2 hver' (.inl rfl) beyond
  have hobjects : inv.objects (svdmHeader 0xFF00 ver 0 2) = packSvids inv.svids := by
    rw [Inventory.objects, pdVdoCmd_svdmHeader 0xFF00 hver' (by decide) (by decide), if_pos rfl]
  obtain ⟨s, modep, header, haside, heq⟩ := c.dfp.pdSvdm_ack supported env hack
  have hbehind := hpayload header
  rw [hobjects] at hbehind
  generalize hmemory : (inv.answer (svdmHeader 0xFF00 ver 0 2) beyond).memory.set 0 header =
    payload at heq hbehind
  have hsome : payload ≠ [] := by
    rw [← hmemory]
    exact List.cons_ne_nil _ _
  obtain ⟨hknown, hcnt, hidx⟩ := consumed_packSvids inv env
    (haside.svidCnt.trans h.cnt) hbehind
  have hzero : (s.dfpConsumeSvids env payload).pe.svidIdx = 0 :=
    hidx.trans (haside.svidIdx.trans h.idx)
  have hdfp := PdPolicy.dfpDiscoverModes_dfp env (s.dfpConsumeSvids env payload) payload
  have hround : c.round supported inv (env, beyond) =
      { dfp := ((s.dfpConsumeSvids env payload).dfpDiscoverModes env payload).2.2
        request := if 0 < ((s.dfpConsumeSvids env payload).dfpDiscoverModes env payload).1 then
            some (firstObject (Dfp.orHeader
              ((s.dfpConsumeSvids env payload).dfpDiscoverModes env payload).2.1
              (BitVec.ofNat 32 env.vdoVer <<< 13)))
          else none
        asked := [(2, 0xFF00)] } := by
    unfold Discovery.round
    rw [hrequest]
    simp only [heq, hcmd, h.asked, pdVdoCmd_svdmHeader 0xFF00 hver' (by decide : 0 < 4)
      (by decide : 2 < 32), pdVdoVid_svdmHeader 0xFF00 hver' (by decide : 0 < 4)
      (by decide : 2 < 32)]
    rfl
  rw [hround, hdfp]
  refine ⟨hknown, hcnt, hzero, fun i hi => absurd hi (Nat.not_lt_zero i), fun svid hsvid => ?_,
    rfl⟩
  have hless : (s.dfpConsumeSvids env payload).pe.svidIdx <
      (s.dfpConsumeSvids env payload).pe.svidCnt := by
    rw [hzero, hcnt]
    exact (List.getElem?_eq_some_iff.1 hsvid).1
  obtain ⟨hone, hnext⟩ := exists_request hver hsome hless
    (by rw [hzero]; exact Dfp.exists_data hknown hsvid)
  refine ⟨env.vdoVer, hver, ?_⟩
  simp only [hone, hnext]
  rfl

/-- The modes of SVID `k` join those of the SVIDs before it. -/
theorem modes_succ (inv : Inventory) {s d : Dfp} {data : SvdmSvidData}
    (hold : ∀ i < s.pe.svidIdx, ∃ data, s.pe.svids[i]? = some data ∧
      data.modeCnt = (inv.modes data.svid).length ∧
      data.modeVdo.toList.take (inv.modes data.svid).length = inv.modes data.svid)
    (hdata : s.pe.svids[s.pe.svidIdx]? = some data) {modeVdo : Vector Word pdoModes}
    (hmodes : modeVdo.toList.take (inv.modes data.svid).length = inv.modes data.svid)
    (hd : d.pe.svids = s.pe.svids.setIfInBounds s.pe.svidIdx
      ⟨data.svid, (inv.modes data.svid).length, modeVdo⟩) :
    ∀ i < s.pe.svidIdx + 1, ∃ data, d.pe.svids[i]? = some data ∧
      data.modeCnt = (inv.modes data.svid).length ∧
      data.modeVdo.toList.take (inv.modes data.svid).length = inv.modes data.svid := by
  intro i hi
  have hlt := (Vector.getElem?_eq_some_iff.1 hdata).1
  rw [hd, Vector.getElem?_setIfInBounds]
  by_cases hlast : s.pe.svidIdx = i
  · rw [if_pos hlast, if_pos (hlast ▸ hlt)]
    exact ⟨_, rfl, rfl, hmodes⟩
  · rw [if_neg hlast]
    exact hold i (by omega)

/-- The answer with the modes of an SVID. -/
theorem Progress.round {k : Nat} {c : Discovery} (h : Progress inv k c) {svid : BitVec 16}
    (hsvid : inv.svids[k]? = some svid) {env : DfpEnv} (hver : env.vdoVer < 4)
    (beyond : List Word) : Progress inv (k + 1) (c.round supported inv (env, beyond)) := by
  obtain ⟨ver, hver', hrequest⟩ := h.request svid hsvid
  obtain ⟨hcmd, hack, hpayload⟩ := @Inventory.answer_eq inv svid ver 3 hver' (.inr rfl) beyond
  have hobjects : inv.objects (svdmHeader svid ver 0 3) = inv.modes svid := by
    rw [Inventory.objects, pdVdoCmd_svdmHeader svid hver' (by decide) (by decide),
      if_neg (by decide), pdVdoVid_svdmHeader svid hver' (by decide) (by decide)]
  have hanswered : (inv.answer (svdmHeader svid ver 0 3) beyond).cnt =
      1 + (inv.modes svid).length := by
    rw [← hobjects]
    rfl
  obtain ⟨s, modep, header, haside, heq⟩ := c.dfp.pdSvdm_ack supported env hack
  have hbehind := hpayload header
  rw [hobjects] at hbehind
  generalize hmemory : (inv.answer (svdmHeader svid ver 0 3) beyond).memory.set 0 header =
    payload at heq hbehind
  have hsome : payload ≠ [] := by
    rw [← hmemory]
    exact List.cons_ne_nil _ _
  have hround : c.round supported inv (env, beyond) =
      let r := s.ackDiscoverModes supported env (1 + (inv.modes svid).length) payload
      { dfp := r.dfp
        request := if 0 < r.rsize then
            some (firstObject (Dfp.orHeader r.payload (BitVec.ofNat 32 env.vdoVer <<< 13)))
          else none
        asked := c.asked ++ [(3, svid)] } := by
    unfold Discovery.round
    rw [hrequest]
    simp only [heq, hcmd, hanswered, pdVdoCmd_svdmHeader svid hver' (by decide : 0 < 4)
      (by decide : 3 < 32), pdVdoVid_svdmHeader svid hver' (by decide : 0 < 4)
      (by decide : 3 < 32)]
    rfl
  have hknown : s.pe.knownSvids = inv.svids :=
    (PdPolicy.knownSvids_congr haside.svidCnt haside.svids).trans h.svids
  have hidx : s.pe.svidIdx = k := haside.svidIdx.trans h.idx
  obtain ⟨data, hdata, rfl⟩ := Dfp.exists_data hknown hsvid
  rw [← hidx] at hdata
  obtain ⟨modeVdo, hmodes, hpe⟩ := s.dfpConsumeModes_pe env hdata hbehind (inv.length_modes _)
  have hend := PdPolicy.ackDiscoverModes_aside supported env s (1 + (inv.modes data.svid).length)
    payload
  have hsvids := hend.svids.trans (congrArg PdPolicy.svids hpe)
  have hcnt := (hend.svidCnt.trans (congrArg PdPolicy.svidCnt hpe)).trans
    (haside.svidCnt.trans h.cnt)
  have hnext := (hend.svidIdx.trans (congrArg PdPolicy.svidIdx hpe)).trans
    (congrArg (· + 1) hidx)
  have hstored : (s.dfpConsumeModes env (1 + (inv.modes data.svid).length) payload).pe.knownSvids =
      inv.svids := by
    rw [hpe, Dfp.knownSvids_setModes hdata, hknown]
  have hold := modes_succ inv (s := s) (by rw [hidx, haside.svids]; exact h.modes) hdata
    hmodes hsvids
  rw [hidx] at hold
  rw [hround]
  refine ⟨?_, hcnt, hnext, hold, fun svid' hsvid' => ?_, ?_⟩
  · exact (PdPolicy.knownSvids_congr hend.svidCnt hend.svids).trans hstored
  · let d := s.dfpConsumeModes env (1 + (inv.modes data.svid).length) payload
    have hdidx : d.pe.svidIdx = k + 1 := (congrArg PdPolicy.svidIdx hpe).trans
      (congrArg (· + 1) hidx)
    have hdcnt : d.pe.svidCnt = inv.svids.length := (congrArg PdPolicy.svidCnt hpe).trans
      (haside.svidCnt.trans h.cnt)
    obtain ⟨hone, hnext⟩ := exists_request (s := d) hver hsome
      (by rw [hdidx, hdcnt]; exact (List.getElem?_eq_some_iff.1 hsvid').1)
      (by rw [hdidx]; exact Dfp.exists_data hstored hsvid')
    have hmore : s.ackDiscoverModes supported env (1 + (inv.modes data.svid).length) payload =
        ⟨(d.dfpDiscoverModes env payload).1, (d.dfpDiscoverModes env payload).2.1,
          (d.dfpDiscoverModes env payload).2.2⟩ := by
      unfold Dfp.ackDiscoverModes
      exact if_neg (by rw [hone]; decide)
    refine ⟨env.vdoVer, hver, ?_⟩
    rw [hmore]
    simp only [hone, hnext]
    rfl
  · rw [h.asked, List.take_add_one, hsvid]
    simp

/-- The rest of the answers, one for each SVID that has not been asked about. -/
theorem Progress.run (supported : List (BitVec 16)) {k : Nat} {c : Discovery}
    (h : Progress inv k c)
    {rounds : List (DfpEnv × List Word)} (hver : ∀ r ∈ rounds, r.1.vdoVer < 4)
    (hlength : k + rounds.length ≤ inv.svids.length) :
    Progress inv (k + rounds.length) (Machine.run (Discovery.round supported inv) c rounds) := by
  induction rounds generalizing k c with
  | nil => exact h
  | cons r rounds ih =>
      rw [List.length_cons] at hlength
      have hk : k < inv.svids.length := by omega
      have hsvid : inv.svids[k]? = some inv.svids[k] := List.getElem?_eq_getElem hk
      have hnext : Progress inv (k + 1) (Discovery.round supported inv c r) :=
        h.round hsvid (hver r (by simp)) r.2
      have hrest := ih hnext (fun r' hr' => hver r' (List.mem_cons_of_mem r hr')) (by omega)
      rw [List.length_cons, Nat.add_comm rounds.length 1, ← Nat.add_assoc]
      exact hrest

/-- A partner with an inventory is asked for its SVIDs, and then for the modes of every SVID
once and in order, and all of its inventory ends up in the tables, whatever `nullSvid` stands
behind the NULL of an empty slot with each message. -/
theorem run_complete (supported : List (BitVec 16)) (inv : Inventory) (s : Dfp) {env : DfpEnv}
    (henv : env.vdoVer < 4) {m : VdmBuffer} (hack : m.cmdType = 1) (hcmd : m.cmd = 1)
    {rounds : List (DfpEnv × List Word)} (hver : ∀ r ∈ rounds, r.1.vdoVer < 4)
    (hlength : rounds.length = inv.svids.length + 1) :
    let c := Machine.run (round supported inv) ((s.pdSvdm supported env m).discovery []) rounds
    c.dfp.pe.knownSvids = inv.svids ∧
      c.dfp.pe.svidCnt = inv.svids.length ∧
      c.dfp.pe.svidIdx = inv.svids.length ∧
      (∀ i < inv.svids.length, ∃ data, c.dfp.pe.svids[i]? = some data ∧
        data.modeCnt = (inv.modes data.svid).length ∧
        data.modeVdo.toList.take (inv.modes data.svid).length = inv.modes data.svid) ∧
      c.asked = (2, 0xFF00) :: inv.svids.map fun svid => (3, svid) := by
  obtain ⟨r, rounds, rfl⟩ := List.exists_cons_of_length_pos (l := rounds) (by omega)
  rw [List.length_cons] at hlength
  have hfirst : Progress inv 0 (round supported inv ((s.pdSvdm supported env m).discovery []) r) :=
    (identified supported s henv hack hcmd).round (hver r (by simp)) r.2
  have hrounds : 0 + rounds.length = inv.svids.length := by omega
  have hrest : ∀ r' ∈ rounds, r'.1.vdoVer < 4 := fun r' hr' => hver r' (List.mem_cons_of_mem r hr')
  have hall := hfirst.run supported hrest (Nat.le_of_eq hrounds)
  rw [hrounds] at hall
  refine ⟨hall.svids, hall.cnt, hall.idx, hall.modes, ?_⟩
  have hasked := hall.asked
  rwa [List.take_length] at hasked

/-- Two SVIDs with two modes and one mode. -/
def twoSvids : Inventory where
  svids := [0xFF01, 0x8087]
  modes := fun svid => if svid = 0xFF01 then [0x0405, 0x0C05] else [0x0001]
  nonzero := by simp
  length_svids := by decide
  length_modes := fun svid => by
    have hmax : pdoModes = 6 := rfl
    split_ifs
    · exact hmax ▸ (by decide : 2 ≤ 6)
    · exact hmax ▸ (by decide : 1 ≤ 6)

/-- The acknowledgement of Discover Identity, of a peripheral. -/
def identityAck : VdmBuffer where
  cnt := 5
  memory := [svdmHeader 0xFF00 0 1 1, 0x6C000000, 0, 0, 0]
  cnt_pos := by decide
  cnt_le := by decide
  held := by decide

theorem run_twoSvids :
    let c := Machine.run (round [0xFF01] twoSvids)
      ((Dfp.pdSvdm [0xFF01] .quiet ⟨.init, []⟩ identityAck).discovery [])
      [(.quiet, []), (.quiet, [0xFF018087]), (.quiet, [])]
    c.dfp.pe.knownSvids = twoSvids.svids ∧
      c.dfp.pe.svidCnt = twoSvids.svids.length ∧
      c.dfp.pe.svidIdx = twoSvids.svids.length ∧
      (∀ i < twoSvids.svids.length, ∃ data, c.dfp.pe.svids[i]? = some data ∧
        data.modeCnt = (twoSvids.modes data.svid).length ∧
        data.modeVdo.toList.take (twoSvids.modes data.svid).length = twoSvids.modes data.svid) ∧
      c.asked = (2, 0xFF00) :: twoSvids.svids.map fun svid => (3, svid) :=
  run_complete [0xFF01] twoSvids ⟨.init, []⟩ (by decide) (by decide) (by decide)
    (by decide) rfl

end Discovery

end UsbPd
