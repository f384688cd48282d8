import UsbPd.Machine.Run
import UsbPd.AltMode.Aside

/-!
# The discovery tables

A partner fills the tables of the policy engine with its answers to Discover Identity,
Discover SVIDs and Discover Modes. The answers keep the engine inside its tables as long
as the SVIDs end early enough or fill the table exactly, and there are fewer answers with
modes than SVIDs and never 16.
-/

namespace UsbPd

/-- The SVIDs known so far. -/
def PdPolicy.knownSvids (pe : PdPolicy) : List (BitVec 16) :=
  (pe.svids.toList.take pe.svidCnt).map SvdmSvidData.svid

/-- Every recorded count of modes fits the table of modes. -/
def PdPolicy.ModesBounded (pe : PdPolicy) : Prop :=
  ∀ (j : Nat) (data : SvdmSvidData), pe.svids[j]? = some data →
    0 ≤ data.modeCnt ∧ data.modeCnt ≤ pdoModes

/-- The SVIDs in the objects of an answer, two in each. -/
def svidsOf (objects : List Word) : List (BitVec 16) :=
  objects.flatMap fun word => [pdVdoSvidSvid0 word, pdVdoSvidSvid1 word]

def untilZero (svids : List (BitVec 16)) : List (BitVec 16) := svids.takeWhile (· ≠ 0)

/-- The SVIDs of an answer that comes when `k` are known: they end with a 0 before the
table is full, or the table, filled from an even place, is full before they end. -/
def Fits (k : Nat) (svids : List (BitVec 16)) : Prop :=
  let n := (untilZero svids).length
  (n < svids.length ∧ k + n ≤ svidDiscoveryMax) ∨ (k % 2 = 0 ∧ svidDiscoveryMax ≤ k + n)

theorem fits_zero {k : Nat} (hk : k ≤ svidDiscoveryMax) (svids : List (BitVec 16)) :
    Fits k (0 :: svids) :=
  Or.inl ⟨Nat.succ_pos _, hk⟩

theorem untilZero_cons {svid : BitVec 16} (h : svid ≠ 0) (svids : List (BitVec 16)) :
    untilZero (svid :: svids) = svid :: untilZero svids :=
  List.takeWhile_cons_of_pos (by simpa using h)

theorem fits_cons_zero {k : Nat} (hk : k < svidDiscoveryMax) {svid : BitVec 16} (h : svid ≠ 0)
    (svids : List (BitVec 16)) : Fits k (svid :: 0 :: svids) := by
  have hone : (untilZero (svid :: 0 :: svids)).length = 1 := by
    rw [untilZero_cons h]
    rfl
  refine Or.inl ⟨?_, ?_⟩
  · rw [hone, List.length_cons, List.length_cons]
    omega
  · rw [hone]
    exact hk

/-- An object with two SVIDs is taken as a whole. -/
theorem fits_pair {k : Nat} {svid0 svid1 : BitVec 16} (h0 : svid0 ≠ 0) (h1 : svid1 ≠ 0)
    (svids : List (BitVec 16)) : Fits k (svid0 :: svid1 :: svids) ↔ Fits (k + 2) svids := by
  unfold Fits
  rw [untilZero_cons h0, untilZero_cons h1]
  simp only [List.length_cons]
  omega

namespace Dfp

/-- From `s` to `s'` only SVIDs are added. -/
structure Consumed (s s' : Dfp) : Prop where
  svidIdx : s'.pe.svidIdx = s.pe.svidIdx
  amodes : s'.pe.amodes = s.pe.amodes
  svidCnt : s.pe.svidCnt ≤ s'.pe.svidCnt
  modes : s.pe.ModesBounded → s'.pe.ModesBounded
  grows : ∀ a ∈ s.accesses, a ∈ s'.accesses

namespace Consumed

variable {s s' s'' : Dfp} {env : DfpEnv}

theorem refl (s : Dfp) : Consumed s s :=
  ⟨rfl, rfl, Nat.le_refl _, fun h => h, fun _ ha => ha⟩

theorem trans (h : Consumed s s') (h' : Consumed s' s'') : Consumed s s'' where
  svidIdx := h'.svidIdx.trans h.svidIdx
  amodes := h'.amodes.trans h.amodes
  svidCnt := Nat.le_trans h.svidCnt h'.svidCnt
  modes := fun hs => h'.modes (h.modes hs)
  grows := fun a ha => h'.grows a (h.grows a ha)

theorem note (a : DfpAccess) : Consumed s (s.note a) :=
  ⟨rfl, rfl, Nat.le_refl _, fun h => h, fun _ hb => List.mem_cons_of_mem a hb⟩

theorem storeSvid (i : Nat) (svid : BitVec 16) : Consumed s (s.storeSvid env i svid) where
  svidIdx := rfl
  amodes := rfl
  svidCnt := Nat.le_succ _
  modes := fun hs j data hj => by
    unfold Dfp.storeSvid at hj
    simp only [Vector.getElem?_setIfInBounds] at hj
    split_ifs at hj with hij hi
    · cases hj
      have hentry : (s.note (.svid i)).svidData env i = s.pe.svids[i] :=
        congrArg (Option.getD · env.outsideSvids) (Vector.getElem?_eq_getElem hi)
      rw [hentry]
      exact hs i s.pe.svids[i] (Vector.getElem?_eq_getElem hi)
    · exact hs j data hj
  grows := fun _ hb => List.mem_cons_of_mem _ hb

end Consumed

variable (env : DfpEnv)

theorem consumeSvidsFrom_consumed (ptr : List Word) (object i : Nat) (s : Dfp) :
    Consumed s (consumeSvidsFrom env ptr object i s) := by
  induction ptr generalizing object i s with
  | nil =>
      unfold consumeSvidsFrom
      split_ifs
      · exact .refl s
      · exact .refl s
      · exact .note _
  | cons word ptr ih =>
      unfold consumeSvidsFrom
      simp only
      split_ifs
      · exact .refl s
      · exact .refl s
      · exact .note _
      · exact (Consumed.note _).trans (.storeSvid i _)
      · exact (Consumed.note _).trans ((Consumed.storeSvid i _).trans
          ((Consumed.storeSvid (i + 1) _).trans (ih _ _ _)))

theorem knownSvids_storeSvid {s : Dfp} {i : Nat} (hi : s.pe.svidCnt = i)
    (hless : i < svidDiscoveryMax) (svid : BitVec 16) :
    (s.storeSvid env i svid).pe.knownSvids = s.pe.knownSvids ++ [svid] := by
  have hlength : i < s.pe.svids.toList.length := by
    rw [Vector.length_toList]
    exact hless
  unfold PdPolicy.knownSvids storeSvid
  simp only [Vector.toList_setIfInBounds, note, hi]
  rw [List.take_succ_eq_append_getElem (by rw [List.length_set]; exact hlength),
    List.take_set_of_le (Nat.le_refl i), List.getElem_set_self, List.map_append]
  rfl

/-! The loop goes on as long as the count of the SVIDs keeps up with its index. -/

theorem consumeSvidsFrom_full {s : Dfp} {i : Nat} (hi : s.pe.svidCnt = i)
    (hfull : i = svidDiscoveryMax) (ptr : List Word) (object : Nat) :
    consumeSvidsFrom env ptr object i s = s := by
  have hmore : ¬s.pe.svidCnt + 12 ≤ i := by omega
  unfold consumeSvidsFrom
  rw [if_neg hmore, if_pos hfull]

theorem consumeSvidsFrom_read {s : Dfp} {i : Nat} (hi : s.pe.svidCnt = i)
    (hroom : i ≠ svidDiscoveryMax) (ptr : List Word) (object : Nat) :
    .object object ∈ (consumeSvidsFrom env ptr object i s).accesses := by
  have hmore : ¬s.pe.svidCnt + 12 ≤ i := by omega
  have hfirst : .object object ∈ (s.note (.object object)).accesses := List.mem_cons_self
  unfold consumeSvidsFrom
  rw [if_neg hmore, if_neg hroom]
  cases ptr with
  | nil => exact hfirst
  | cons word ptr =>
      simp only
      split_ifs
      · exact hfirst
      · exact List.mem_cons_of_mem _ hfirst
      · exact (consumeSvidsFrom_consumed env _ _ _ _).grows _
          (List.mem_cons_of_mem _ (List.mem_cons_of_mem _ hfirst))

theorem consumeSvidsFrom_cons {s : Dfp} {i : Nat} (hi : s.pe.svidCnt = i)
    (hroom : i ≠ svidDiscoveryMax) (word : Word) (ptr : List Word) (object : Nat) :
    consumeSvidsFrom env (word :: ptr) object i s =
      let s := s.note (.object object)
      if pdVdoSvidSvid0 word = 0 then s
      else
        let s := s.storeSvid env i (pdVdoSvidSvid0 word)
        if pdVdoSvidSvid1 word = 0 then s
        else consumeSvidsFrom env ptr (object + 1) (i + 2)
          (s.storeSvid env (i + 1) (pdVdoSvidSvid1 word)) := by
  have hmore : ¬s.pe.svidCnt + 12 ≤ i := by omega
  rw [consumeSvidsFrom, if_neg hmore, if_neg hroom]

/-- `s'` knows the SVIDs of an answer as far as there was room for them, has read objects
before `last` only, and stayed inside the table. -/
structure Took (s s' : Dfp) (svids : List (BitVec 16)) (last : Nat) : Prop where
  cnt : s'.pe.svidCnt ≤ svidDiscoveryMax
  known : s'.pe.knownSvids =
    s.pe.knownSvids ++ (untilZero svids).take (svidDiscoveryMax - s.pe.svidCnt)
  accesses : ∀ a ∈ s'.accesses, a ∈ s.accesses ∨ a.Harmless ∨ ∃ j, a = .object j ∧ j < last

namespace Took

variable {s s' : Dfp} {svids : List (BitVec 16)} {last : Nat}

theorem full (h : s.pe.svidCnt = svidDiscoveryMax) : Took s s svids last where
  cnt := Nat.le_of_eq h
  known := by rw [h, Nat.sub_self, List.take_zero, List.append_nil]
  accesses := fun _ ha => Or.inl ha

theorem zero (h : s.pe.svidCnt ≤ svidDiscoveryMax) : Took s s (0 :: svids) last where
  cnt := h
  known := by
    have hnone : untilZero (0 :: svids) = [] := rfl
    rw [hnone, List.take_nil, List.append_nil]
  accesses := fun _ ha => Or.inl ha

/-- The object is read before the SVIDs in it are stored. -/
theorem read {object : Nat} (hobject : object < last)
    (h : Took (s.note (.object object)) s' svids last) : Took s s' svids last where
  cnt := h.cnt
  known := h.known
  accesses := fun a ha => by
    rcases h.accesses a ha with hnoted | hnew
    · rcases List.mem_cons.1 hnoted with rfl | hold
      · exact Or.inr (Or.inr ⟨object, rfl, hobject⟩)
      · exact Or.inl hold
    · exact Or.inr hnew

theorem store {i : Nat} (hi : s.pe.svidCnt = i) (hroom : i < svidDiscoveryMax)
    {svid : BitVec 16} (hsvid : svid ≠ 0)
    (h : Took (s.storeSvid env i svid) s' svids last) : Took s s' (svid :: svids) last where
  cnt := h.cnt
  known := by
    have hcnt : (s.storeSvid env i svid).pe.svidCnt = i + 1 := congrArg Nat.succ hi
    have hmore : svidDiscoveryMax - i = (svidDiscoveryMax - (i + 1)) + 1 := by omega
    rw [h.known, hcnt, knownSvids_storeSvid env hi hroom, untilZero_cons hsvid, hi, hmore,
      List.take_succ_cons, List.append_assoc]
    rfl
  accesses := fun a ha => by
    rcases h.accesses a ha with hnoted | hnew
    · rcases List.mem_cons.1 hnoted with rfl | hold
      · exact Or.inr (Or.inl hroom)
      · exact Or.inl hold
    · exact Or.inr hnew

end Took

/-- An answer that fits. -/
theorem consumeSvidsFrom_fits (objects beyond : List Word) (object i : Nat) (s : Dfp)
    (hi : s.pe.svidCnt = i) (hfull : i ≤ svidDiscoveryMax) (hfits : Fits i (svidsOf objects)) :
    Took s (consumeSvidsFrom env (objects ++ beyond) object i s) (svidsOf objects)
      (object + objects.length) := by
  induction objects generalizing object i s with
  | nil =>
      have hlast : i = svidDiscoveryMax := by
        rcases hfits with ⟨hlength, -⟩ | ⟨-, hlength⟩
        · cases hlength
        · exact Nat.le_antisymm hfull hlength
      rw [consumeSvidsFrom_full env hi hlast]
      exact .full (hi.trans hlast)
  | cons word objects ih =>
      rcases Nat.lt_or_eq_of_le hfull with hroom | hlast
      · have hobject : object < object + (word :: objects).length :=
          Nat.lt_add_of_pos_right (Nat.succ_pos _)
        have hstored : object + (word :: objects).length = object + 1 + objects.length := by
          rw [List.length_cons]
          omega
        rw [List.cons_append, consumeSvidsFrom_cons env hi (Nat.ne_of_lt hroom)]
        change Fits i (pdVdoSvidSvid0 word :: pdVdoSvidSvid1 word :: svidsOf objects) at hfits
        change Took s _ (pdVdoSvidSvid0 word :: pdVdoSvidSvid1 word :: svidsOf objects) _
        refine Took.read hobject ?_
        dsimp only
        by_cases h0 : pdVdoSvidSvid0 word = 0
        · rw [if_pos h0, h0]
          exact .zero (Nat.le_trans (Nat.le_of_eq hi) hfull)
        rw [if_neg h0]
        have hnoted : (s.note (.object object)).pe.svidCnt = i := hi
        refine Took.store env hnoted hroom h0 ?_
        have hcnt : ((s.note (.object object)).storeSvid env i
            (pdVdoSvidSvid0 word)).pe.svidCnt = i + 1 := congrArg Nat.succ hi
        by_cases h1 : pdVdoSvidSvid1 word = 0
        · rw [if_pos h1, h1]
          exact .zero (Nat.le_trans (Nat.le_of_eq hcnt) hroom)
        rw [if_neg h1]
        have hrest := (fits_pair h0 h1 _).1 hfits
        have htwo : i + 2 ≤ svidDiscoveryMax := by
          have hmax : svidDiscoveryMax = 16 := rfl
          rcases hrest with ⟨-, hlength⟩ | ⟨heven, -⟩
          · omega
          · omega
        refine Took.store env hcnt htwo h1 ?_
        rw [hstored]
        exact ih _ _ _ (congrArg Nat.succ hcnt) htwo hrest
      · rw [consumeSvidsFrom_full env hi hlast]
        exact .full (hi.trans hlast)

/-- An answer that does not fit overruns the table or is read past its end. -/
theorem consumeSvidsFrom_not_fits (objects beyond : List Word) (object i : Nat) (s : Dfp)
    (hi : s.pe.svidCnt = i) (hfits : ¬Fits i (svidsOf objects)) :
    let s' := consumeSvidsFrom env (objects ++ beyond) object i s
    svidDiscoveryMax < s'.pe.svidCnt ∨ .object (object + objects.length) ∈ s'.accesses := by
  induction objects generalizing object i s with
  | nil =>
      refine Or.inr (consumeSvidsFrom_read env hi (fun hlast => hfits (Or.inr ?_)) _ _)
      rw [hlast]
      exact ⟨rfl, Nat.le_refl _⟩
  | cons word objects ih =>
      by_cases hover : svidDiscoveryMax < i
      · have hcnt := (consumeSvidsFrom_consumed env (word :: objects ++ beyond) object i s).svidCnt
        exact Or.inl (Nat.lt_of_lt_of_le hover (hi ▸ hcnt))
      have hfull := Nat.le_of_not_lt hover
      have hroom : i ≠ svidDiscoveryMax := fun hlast => hfits (Or.inr ⟨by rw [hlast]; rfl, by
        rw [hlast]; exact Nat.le_add_right _ _⟩)
      rw [List.cons_append, consumeSvidsFrom_cons env hi hroom]
      change ¬Fits i (pdVdoSvidSvid0 word :: pdVdoSvidSvid1 word :: svidsOf objects) at hfits
      have h0 : pdVdoSvidSvid0 word ≠ 0 := fun h0 => hfits (by rw [h0]; exact fits_zero hfull _)
      have h1 : pdVdoSvidSvid1 word ≠ 0 := fun h1 => hfits (by
        rw [h1]; exact fits_cons_zero (Nat.lt_of_le_of_ne hfull hroom) h0 _)
      rw [fits_pair h0 h1] at hfits
      have hstored : object + (word :: objects).length = object + 1 + objects.length := by
        rw [List.length_cons]
        omega
      dsimp only
      rw [if_neg h0, if_neg h1, hstored]
      exact ih _ _ _ (congrArg (· + 2) hi) hfits

end Dfp

namespace VdmBuffer

variable (m : VdmBuffer)

theorem length_objects : 1 + m.objects.length = m.cnt := by
  have hcnt := m.cnt_pos
  have hheld := m.held
  rw [objects, List.length_tail, List.length_take]
  omega

/-- The data objects lie behind the header, whatever the header is. -/
theorem drop_set_header (header : Word) :
    (m.memory.set 0 header).drop 1 = m.objects ++ m.memory.drop m.cnt := by
  obtain ⟨cnt, memory, hpos, hle, hheld⟩ := m
  cases memory with
  | nil => exact absurd hheld (Nat.not_le_of_lt hpos)
  | cons word memory =>
      cases cnt with
      | zero => cases hpos
      | succ cnt => exact (List.take_append_drop cnt memory).symm

end VdmBuffer

/-- A board whose functions do nothing, and no SVID at NULL. -/
def DfpEnv.quiet : DfpEnv where
  fx := fun _ => ⟨fun _ => 0, fun payload => (0, payload), fun payload => (0, payload), none⟩
  nullSvid := 1
  outsideSvids := .zero
  outsideModes := 0
  rsp := fun _ => none
  vdoVer := 0

/-- The answer to a discovery command, with what it meets. -/
structure DiscoveryAck where
  buffer : VdmBuffer
  env : DfpEnv
  ack : buffer.cmdType = 1
  discovers : buffer.cmd = 1 ∨ buffer.cmd = 2 ∨ buffer.cmd = 3

namespace PdPolicy

variable (supported : List (BitVec 16)) (pe : PdPolicy) (m : DiscoveryAck)

/-- The policy engine after an answer, and the accesses that the answer led to. -/
def handle : Dfp := ((Dfp.mk pe []).pdSvdm supported m.env m.buffer).dfp

/-- An answer after which the engine is as in `d` leaves the tables as it should. A loop of
`dfp_consume_svids` that reads received objects only has come to an end. -/
structure InBounds (d : Dfp) : Prop where
  cnt : d.pe.svidCnt ≤ svidDiscoveryMax
  idx : d.pe.svidIdx ≤ d.pe.svidCnt
  modes : d.pe.ModesBounded
  objects : ∀ i, .object i ∈ d.accesses → i < m.buffer.cnt
  svids : ∀ i, .svid i ∈ d.accesses → i < svidDiscoveryMax
  appends : m.buffer.cmd = 2 → d.pe.knownSvids = pe.knownSvids ++
    (untilZero (svidsOf m.buffer.objects)).take (svidDiscoveryMax - pe.svidCnt)

/-- The answers that the tables have room for. -/
def HasRoom : Prop :=
  (m.buffer.cmd = 2 → pe.svidIdx < svidDiscoveryMax ∧
    Fits pe.svidCnt (svidsOf m.buffer.objects)) ∧
  (m.buffer.cmd = 3 → pe.svidIdx < pe.svidCnt ∧ pe.svidIdx + 1 < svidDiscoveryMax)

/-- The tables between two answers. -/
structure Valid (pe : PdPolicy) : Prop where
  sound : (Dfp.mk pe []).Sound
  idx : pe.svidIdx ≤ pe.svidCnt
  modes : pe.ModesBounded

theorem valid_init : Valid .init where
  sound := ⟨Nat.zero_le _, fun i j hj => by
    unfold Dfp.slot init at hj
    rw [Vector.getElem?_replicate] at hj
    split_ifs at hj <;> cases hj⟩
  idx := Nat.le_refl 0
  modes := fun j data hj => by
    unfold init at hj
    rw [Vector.getElem?_replicate] at hj
    split_ifs at hj
    cases hj
    exact ⟨Int.le_refl 0, Int.natCast_nonneg _⟩

/-- `get_modep` comes first and changes nothing that matters to a discovery. -/
theorem handle_eq : ∃ (s : Dfp) (modep : Option Nat) (header : Word),
    Dfp.Aside (Dfp.mk pe []) s ∧ pe.handle supported m =
      (s.ackCommand supported m.env m.buffer.cmd m.buffer.cnt modep
        (m.buffer.memory.set 0 header)).dfp := by
  let header := m.buffer.header &&& ~~~0xC0
  let svid := (pdVdoVid (firstObject (m.buffer.memory.set 0 header))).setWidth 16
  let lookup := (Dfp.mk pe []).getModeIdx supported m.env svid
  refine ⟨lookup.2, lookup.1, header, Dfp.Aside.getModeIdx supported m.env svid, ?_⟩
  unfold handle Dfp.pdSvdm
  rw [if_neg (by rw [m.ack]; decide), if_pos m.ack]
  rfl

section

variable {supported pe m} {s : Dfp} {payload : List Word}

/-- The accesses of an answer that stays in bounds. -/
theorem inBounds_of_accesses {d : Dfp} (hcnt : d.pe.svidCnt ≤ svidDiscoveryMax)
    (hidx : d.pe.svidIdx ≤ d.pe.svidCnt) (hmodes : d.pe.ModesBounded)
    (haccesses : ∀ a ∈ d.accesses, a.Harmless ∨ ∃ j, a = .object j ∧ j < m.buffer.cnt)
    (happends : m.buffer.cmd = 2 → d.pe.knownSvids = pe.knownSvids ++
      (untilZero (svidsOf m.buffer.objects)).take (svidDiscoveryMax - pe.svidCnt)) :
    pe.InBounds m d where
  cnt := hcnt
  idx := hidx
  modes := hmodes
  objects := fun i hi => by
    rcases haccesses _ hi with hharmless | ⟨j, hj, hless⟩
    · exact hharmless.elim
    · cases hj
      exact hless
  svids := fun i hi => by
    rcases haccesses _ hi with hharmless | ⟨j, hj, -⟩
    · exact hharmless
    · cases hj
  appends := happends

/-- Before the answer is handled, nothing but the entered modes has been looked at. -/
theorem harmless_of_aside (hs : Dfp.Aside (Dfp.mk pe []) s) (hvalid : pe.Valid) :
    ∀ a ∈ s.accesses, a.Harmless := fun a ha =>
  (hs.harmless hvalid.sound a ha).elim (fun hnil => by cases hnil) fun h => h

/-- An identity clears the tables. -/
theorem cleared_inBounds (hcmd : m.buffer.cmd = 1) (identity : Vector Word pdoModes)
    {accesses : List DfpAccess} (h : ∀ a ∈ accesses, a.Harmless) :
    pe.InBounds m ⟨{ init with identity := identity }, accesses⟩ ∧
      Valid { init with identity := identity } := by
  have hcmd2 : m.buffer.cmd ≠ 2 := by
    rw [hcmd]
    decide
  constructor
  · exact inBounds_of_accesses (Nat.zero_le _) (Nat.le_refl _) valid_init.modes
      (fun a ha => Or.inl (h a ha)) fun hsvids => absurd hsvids hcmd2
  · exact ⟨⟨Nat.zero_le _, valid_init.sound.data⟩, Nat.le_refl _, valid_init.modes⟩

theorem identity_inBounds (hcmd : m.buffer.cmd = 1) (hs : Dfp.Aside (Dfp.mk pe []) s)
    (hvalid : pe.Valid) (payload : List Word) :
    pe.InBounds m (s.dfpConsumeIdentity m.buffer.cnt payload) ∧
      (s.dfpConsumeIdentity m.buffer.cnt payload).pe.Valid := by
  have hclean := harmless_of_aside hs hvalid
  unfold Dfp.dfpConsumeIdentity
  dsimp only
  by_cases hreset : pdIdhPtype (payload.getD 1 0) = 5 ∧ ¬pdVdoAmaVbusReq (payload.getD 4 0)
  · rw [if_pos hreset]
    refine cleared_inBounds hcmd _ fun a ha => ?_
    rcases List.mem_cons.1 ha with rfl | ha
    · trivial
    · exact hclean a ha
  · rw [if_neg hreset]
    exact cleared_inBounds hcmd _ hclean

theorem dfpDiscoverModes_dfp (env : DfpEnv) (s : Dfp) (payload : List Word) :
    (s.dfpDiscoverModes env payload).2.2 = s.note (.svid s.pe.svidIdx) := by
  unfold Dfp.dfpDiscoverModes
  simp only
  split_ifs <;> rfl

theorem knownSvids_congr {pe pe' : PdPolicy} (hcnt : pe'.svidCnt = pe.svidCnt)
    (hsvids : pe'.svids = pe.svids) : pe'.knownSvids = pe.knownSvids := by
  unfold knownSvids
  rw [hcnt, hsvids]

theorem modesBounded_congr {pe pe' : PdPolicy} (hsvids : pe'.svids = pe.svids)
    (h : pe.ModesBounded) : pe'.ModesBounded := by
  unfold ModesBounded
  rw [hsvids]
  exact h

/-- What the entered modes point to is not touched by a discovery. -/
theorem sound_of_amodes {d : Dfp} (hs : s.Sound) (hamodes : d.pe.amodes = s.pe.amodes)
    (hcnt : d.pe.svidCnt ≤ svidDiscoveryMax) : d.Sound where
  cnt := hcnt
  data := by
    unfold Dfp.slot
    rw [hamodes]
    exact hs.data

/-- The SVIDs have to fit, and there has to be an SVID to ask about next. -/
theorem svids_inBounds_iff (hcmd : m.buffer.cmd = 2) (hs : Dfp.Aside (Dfp.mk pe []) s)
    (hvalid : pe.Valid)
    (hpayload : payload.drop 1 = m.buffer.objects ++ m.buffer.memory.drop m.buffer.cnt) :
    let d := ((s.dfpConsumeSvids m.env payload).dfpDiscoverModes m.env payload).2.2
    (pe.InBounds m d ↔ pe.HasRoom m) ∧ (pe.HasRoom m → d.pe.Valid) := by
  have hcmd3 : m.buffer.cmd ≠ 3 := by
    rw [hcmd]
    decide
  have hroom : pe.HasRoom m ↔ pe.svidIdx < svidDiscoveryMax ∧
      Fits pe.svidCnt (svidsOf m.buffer.objects) := by
    unfold HasRoom
    simp only [hcmd, forall_const]
    exact and_iff_left fun h => absurd h (by decide)
  have hcnt : s.pe.svidCnt = pe.svidCnt := hs.svidCnt
  have hclean := harmless_of_aside hs hvalid
  have hloop : s.dfpConsumeSvids m.env payload = Dfp.consumeSvidsFrom m.env
      (m.buffer.objects ++ m.buffer.memory.drop m.buffer.cnt) 1 pe.svidCnt s := by
    unfold Dfp.dfpConsumeSvids
    rw [hpayload, hcnt]
  have hconsumed : Dfp.Consumed s (s.dfpConsumeSvids m.env payload) :=
    Dfp.consumeSvidsFrom_consumed m.env _ _ _ _
  have hidx : (s.dfpConsumeSvids m.env payload).pe.svidIdx = pe.svidIdx :=
    hconsumed.svidIdx.trans hs.svidIdx
  have hdone : pe.HasRoom m → Dfp.Took s (s.dfpConsumeSvids m.env payload)
      (svidsOf m.buffer.objects) m.buffer.cnt := by
    intro h
    rw [hloop, ← m.buffer.length_objects]
    exact Dfp.consumeSvidsFrom_fits m.env _ _ 1 pe.svidCnt s hcnt hvalid.sound.cnt (hroom.1 h).2
  have hmodes : (s.dfpConsumeSvids m.env payload).pe.ModesBounded :=
    hconsumed.modes (modesBounded_congr hs.svids hvalid.modes)
  have hle : (s.dfpConsumeSvids m.env payload).pe.svidIdx ≤
      (s.dfpConsumeSvids m.env payload).pe.svidCnt := by
    rw [hidx]
    exact Nat.le_trans hvalid.idx (hcnt ▸ hconsumed.svidCnt)
  rw [dfpDiscoverModes_dfp]
  refine ⟨⟨fun h => hroom.2 ⟨?_, ?_⟩, fun h => ?_⟩, fun h => ?_⟩
  · rw [← hidx]
    exact h.svids _ List.mem_cons_self
  · by_contra hfits
    rcases Dfp.consumeSvidsFrom_not_fits m.env _ (m.buffer.memory.drop m.buffer.cnt) 1 pe.svidCnt s
      hcnt hfits with hover | hread
    · rw [← hloop] at hover
      exact Nat.not_le_of_lt hover h.cnt
    · rw [← hloop, m.buffer.length_objects] at hread
      exact Nat.lt_irrefl _ (h.objects _ (List.mem_cons_of_mem _ hread))
  · have htook := hdone h
    refine inBounds_of_accesses htook.cnt hle hmodes ?_ fun _ => ?_
    · intro a ha
      rcases List.mem_cons.1 ha with rfl | ha
      · refine Or.inl ?_
        change (s.dfpConsumeSvids m.env payload).pe.svidIdx < svidDiscoveryMax
        rw [hidx]
        exact (hroom.1 h).1
      · rcases htook.accesses a ha with hold | hnew
        · exact Or.inl (hclean a hold)
        · exact hnew
    · rw [← knownSvids_congr hs.svidCnt hs.svids, ← hcnt]
      exact htook.known
  · exact ⟨sound_of_amodes (hs.sound hvalid.sound) hconsumed.amodes (hdone h).cnt, hle, hmodes⟩

/-- What entering the default mode after the last SVID does is aside. -/
theorem ackDiscoverModes_aside (supported : List (BitVec 16)) (env : DfpEnv) (s : Dfp) (cnt : Nat)
    (payload : List Word) :
    Dfp.Aside ((s.dfpConsumeModes env cnt payload).note (.svid (s.pe.svidIdx + 1)))
      (s.ackDiscoverModes supported env cnt payload).dfp := by
  have hnext : ((s.dfpConsumeModes env cnt payload).dfpDiscoverModes env payload).2.2 =
      (s.dfpConsumeModes env cnt payload).note (.svid (s.pe.svidIdx + 1)) :=
    dfpDiscoverModes_dfp env _ payload
  rw [← hnext]
  unfold Dfp.ackDiscoverModes
  simp only
  split_ifs
  · exact .pdDfpEnterMode supported env 0 0
  · exact .pdDfpEnterMode supported env 0 0
  · exact .refl _

/-- The modes of an answer fit their table. -/
theorem modesBounded_consumeModes (env : DfpEnv) {s : Dfp} (hs : s.pe.ModesBounded) {cnt : Nat}
    (hpos : 0 < cnt) (hle : cnt ≤ 7) (payload : List Word) :
    (s.dfpConsumeModes env cnt payload).pe.ModesBounded := by
  obtain ⟨modeVdo, hsvids⟩ : ∃ modeVdo, (s.dfpConsumeModes env cnt payload).pe.svids =
      s.pe.svids.setIfInBounds s.pe.svidIdx
        ⟨(s.svidData env s.pe.svidIdx).svid, (cnt : Int) - 1, modeVdo⟩ := ⟨_, rfl⟩
  intro j data hj
  rw [hsvids, Vector.getElem?_setIfInBounds] at hj
  split_ifs at hj
  · cases hj
    have hmax : ((pdoModes : Nat) : Int) = 6 := rfl
    dsimp only
    omega
  · exact hs j data hj

/-- The modes have to belong to a known SVID, and its successor is looked at. -/
theorem modes_inBounds_iff (hcmd : m.buffer.cmd = 3) (hs : Dfp.Aside (Dfp.mk pe []) s)
    (hvalid : pe.Valid) :
    let d := (s.ackDiscoverModes supported m.env m.buffer.cnt payload).dfp
    (pe.InBounds m d ↔ pe.HasRoom m) ∧ (pe.HasRoom m → d.pe.Valid) := by
  have hcmd2 : m.buffer.cmd ≠ 2 := by
    rw [hcmd]
    decide
  have hroom : pe.HasRoom m ↔ pe.svidIdx < pe.svidCnt ∧ pe.svidIdx + 1 < svidDiscoveryMax := by
    unfold HasRoom
    simp only [hcmd, forall_const]
    exact and_iff_right fun h => absurd h (by decide)
  have hclean := harmless_of_aside hs hvalid
  have hend := ackDiscoverModes_aside supported m.env s m.buffer.cnt payload
  have hidx := hend.svidIdx.trans (congrArg Nat.succ hs.svidIdx)
  have hcnt := hend.svidCnt.trans hs.svidCnt
  have hmodes := modesBounded_congr hend.svids (modesBounded_consumeModes m.env
    (modesBounded_congr hs.svids hvalid.modes) m.buffer.cnt_pos m.buffer.cnt_le payload)
  have hsound : ((s.dfpConsumeModes m.env m.buffer.cnt payload).note
      (.svid (s.pe.svidIdx + 1))).Sound :=
    sound_of_amodes (hs.sound hvalid.sound) rfl (hs.svidCnt ▸ hvalid.sound.cnt)
  have hdcnt : (s.ackDiscoverModes supported m.env m.buffer.cnt payload).dfp.pe.svidCnt ≤
      svidDiscoveryMax := by
    rw [hcnt]
    exact hvalid.sound.cnt
  refine ⟨⟨fun h => hroom.2 ⟨?_, ?_⟩, fun h => ?_⟩, fun h => ?_⟩
  · have hle := h.idx
    rw [hidx, hcnt] at hle
    exact hle
  · rw [← hs.svidIdx]
    exact h.svids _ (hend.grows _ List.mem_cons_self)
  · obtain ⟨hless, hnext⟩ := hroom.1 h
    refine inBounds_of_accesses hdcnt (by rw [hidx, hcnt]; exact hless) hmodes (fun a ha => ?_)
      fun h => absurd h hcmd2
    refine Or.inl ((hend.harmless hsound a ha).elim (fun hold => ?_) fun hnew => hnew)
    rcases List.mem_cons.1 hold with rfl | hold
    · change s.pe.svidIdx + 1 < svidDiscoveryMax
      rw [hs.svidIdx]
      exact hnext
    · rcases List.mem_cons.1 hold with rfl | hold
      · change s.pe.svidIdx < svidDiscoveryMax
        rw [hs.svidIdx]
        exact Nat.lt_of_succ_lt hnext
      · exact hclean a hold
  · have hdsound := hend.sound hsound
    exact ⟨⟨hdsound.cnt, hdsound.data⟩, by rw [hidx, hcnt]; exact (hroom.1 h).1, hmodes⟩

end

/-- One answer, from tables in order. -/
theorem inBounds_iff (hvalid : pe.Valid) :
    (pe.InBounds m (pe.handle supported m) ↔ pe.HasRoom m) ∧
      (pe.HasRoom m → (pe.handle supported m).pe.Valid) := by
  obtain ⟨s, modep, header, hs, hhandle⟩ := handle_eq supported pe m
  rw [hhandle]
  rcases m.discovers with hcmd | hcmd | hcmd
  · have hroom : pe.HasRoom m := ⟨fun h => absurd (hcmd.symm.trans h) (by decide),
      fun h => absurd (hcmd.symm.trans h) (by decide)⟩
    have hcase : (s.ackCommand supported m.env m.buffer.cmd m.buffer.cnt modep
        (m.buffer.memory.set 0 header)).dfp =
        s.dfpConsumeIdentity m.buffer.cnt (m.buffer.memory.set 0 header) := by
      rw [hcmd]
      rfl
    obtain ⟨hbounds, hnext⟩ := identity_inBounds hcmd hs hvalid (m.buffer.memory.set 0 header)
    rw [hcase]
    exact ⟨iff_of_true hbounds hroom, fun _ => hnext⟩
  · have hcase : (s.ackCommand supported m.env m.buffer.cmd m.buffer.cnt modep
        (m.buffer.memory.set 0 header)).dfp = ((s.dfpConsumeSvids m.env
          (m.buffer.memory.set 0 header)).dfpDiscoverModes m.env
            (m.buffer.memory.set 0 header)).2.2 := by
      rw [hcmd]
      rfl
    rw [hcase]
    exact svids_inBounds_iff hcmd hs hvalid (m.buffer.drop_set_header header)
  · have hcase : (s.ackCommand supported m.env m.buffer.cmd m.buffer.cnt modep
        (m.buffer.memory.set 0 header)).dfp = (s.ackDiscoverModes supported m.env m.buffer.cnt
          (m.buffer.memory.set 0 header)).dfp := by
      rw [hcmd]
      rfl
    rw [hcase]
    exact modes_inBounds_iff hcmd hs hvalid

/-- From the cleared tables on, every answer of a sequence leaves the tables as it should
exactly if the tables had room for each of them. -/
theorem inBounds_along_iff (answers : List DiscoveryAck) :
    Machine.Along (fun pe m => (pe.handle supported m).pe)
        (fun pe m => pe.InBounds m (pe.handle supported m)) init answers ↔
      Machine.Along (fun pe m => (pe.handle supported m).pe) HasRoom init answers :=
  Machine.along_iff_of_invariant (fun pe m h => (inBounds_iff supported pe m h).1)
    (fun pe m h => (inBounds_iff supported pe m h).2) valid_init answers

/-- Two SVIDs without a 0 after them; behind the message lies a word of an older one. -/
def twoSvids : DiscoveryAck where
  buffer := ⟨2, [0xFF008042, 0xFF018087, 0x12340000], by decide, by decide, by decide⟩
  env := .quiet
  ack := by decide
  discovers := by decide

/-- Two SVIDs arrive and three are recorded. -/
theorem not_inBounds_twoSvids :
    (init.handle [0xFF01] twoSvids).pe.knownSvids = [0xFF01, 0x8087, 0x1234] ∧
      ¬Machine.Along (fun pe m => (pe.handle [0xFF01] m).pe)
        (fun pe m => pe.InBounds m (pe.handle [0xFF01] m)) init [twoSvids] := by
  refine ⟨by decide, fun h => ?_⟩
  have hread : (2 : Nat) < 2 := h.1.objects 2 (by decide)
  exact Nat.lt_irrefl 2 hread

end PdPolicy

end UsbPd
