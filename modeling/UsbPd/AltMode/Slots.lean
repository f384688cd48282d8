import UsbPd.AltMode.Discovery

/-!
# The entered modes

The slots of `amodes` should be a partial map from SVIDs to modes. `get_mode_idx` looks
through all of them, occupied or not, and follows a NULL pointer in each empty slot that it
passes. At the beginning every slot is empty, and no slot is filled without a lookup.
-/

namespace UsbPd

/-- A call of the policy engine. -/
inductive DfpCall where
  | pdSvdm (m : VdmBuffer)
  | pdDfpEnterMode (svid : BitVec 16) (opos : Int)
  | pdDfpExitMode (svid : BitVec 16) (opos : Int)

namespace Dfp

variable (supported : List (BitVec 16)) (env : DfpEnv) (s : Dfp)

/-- The policy engine after a call. -/
def call : DfpCall → Dfp
  | .pdSvdm m => (s.pdSvdm supported env m).dfp
  | .pdDfpEnterMode svid opos => (s.pdDfpEnterMode supported env svid opos).2
  | .pdDfpExitMode svid opos => (s.pdDfpExitMode supported env svid opos).2

/-- The slot `i` holds a mode of `svid`. -/
def Holds (i : Nat) (svid : BitVec 16) : Prop :=
  ∃ f, (s.slot i).fx = some f ∧ supported[f]? = some svid

/-- The slots form a partial map, and `get_mode_idx` finds the mode of `svid` in it. No
NULL pointer was or is followed. -/
structure SlotsFormMap (svid : BitVec 16) : Prop where
  idx : s.pe.amodeIdx ≤ pdAmodeCount
  filled : ∀ i < s.pe.amodeIdx, ∃ entry j, s.Holds supported i entry ∧
    (s.slot i).data = some j ∧ (s.svidData env j).svid = entry
  distinct : ∀ i j entry, s.Holds supported i entry → s.Holds supported j entry → i = j
  lookup : ∀ i, (s.getModeIdx supported env svid).1 = some i ↔ s.Holds supported i svid
  noNull : ∀ i, .emptySlot i ∉ (s.getModeIdx supported env svid).2.accesses

/-- No slot is occupied. -/
def Unused : Prop := ∀ i, (s.slot i).fx = none

/-- A NULL pointer was followed. -/
def FollowedNull : Prop := ∃ i, .emptySlot i ∈ s.accesses

variable {supported env s} {s' : Dfp}

theorem FollowedNull.grows (h : s.FollowedNull) (hgrows : s.accesses ⊆ s'.accesses) :
    s'.FollowedNull :=
  h.elim fun i hi => ⟨i, hgrows hi⟩

theorem unused_init (accesses : List DfpAccess) : (Dfp.mk .init accesses).Unused := by
  intro i
  unfold slot PdPolicy.init
  rw [Vector.getElem?_replicate]
  split_ifs <;> rfl

/-- The first slot that a lookup looks at is empty. -/
theorem Unused.getModeIdx (h : s.Unused) (svid : BitVec 16) :
    (s.getModeIdx supported env svid).2.FollowedNull := by
  have hfirst : (s.follow 0 (s.slot 0).fx).FollowedNull := by
    rw [h 0]
    exact ⟨0, List.mem_cons_self⟩
  unfold Dfp.getModeIdx pdAmodeCount getModeIdxFrom
  dsimp only
  split_ifs
  · exact hfirst
  · exact hfirst.grows (Aside.getModeIdxFrom supported env svid 1 1 _).grows

theorem dfpConsumeAttention_dfp (payload : List Word) :
    (s.dfpConsumeAttention supported env payload).2 =
      (s.getModeIdx supported env ((pdVdoVid (firstObject payload)).setWidth 16)).2 := by
  unfold dfpConsumeAttention
  dsimp only
  cases s.getModeIdx supported env ((pdVdoVid (firstObject payload)).setWidth 16) with
  | mk found s' =>
      cases found with
      | none => rfl
      | some i =>
          dsimp only
          split_ifs
          · cases (env.fx (s'.slot i).fx).attention <;> rfl
          · rfl

/-! No call takes anything out of the log. -/

theorem grows_ackEnterMode (modep : Option Nat) (payload : List Word) :
    s.accesses ⊆ (s.ackEnterMode supported env modep payload).dfp.accesses := by
  cases modep with
  | none => exact List.Subset.refl _
  | some i =>
      unfold ackEnterMode
      dsimp only
      generalize hentered : (if (s.slot i).opos = 0 then (s.pdDfpEnterMode supported env 0 0).2
        else s) = s'
      have hgrows : s.accesses ⊆ s'.accesses := by
        rw [← hentered]
        split_ifs
        · exact (Aside.pdDfpEnterMode supported env 0 0).grows
        · exact List.Subset.refl _
      split_ifs
      · exact hgrows
      · exact List.Subset.trans hgrows (Aside.follow i _).grows

theorem grows_ackDpStatus (modep : Option Nat) (payload : List Word) :
    s.accesses ⊆ (s.ackDpStatus supported env modep payload).dfp.accesses := by
  have hattention : s.accesses ⊆ (s.dfpConsumeAttention supported env payload).2.accesses := by
    rw [dfpConsumeAttention_dfp]
    exact (Aside.getModeIdx supported env _).grows
  cases modep with
  | none => exact hattention
  | some i =>
      unfold ackDpStatus
      dsimp only
      split_ifs
      · exact hattention
      · exact List.Subset.trans hattention (Aside.follow i _).grows

theorem grows_dfpConsumeIdentity (cnt : Nat) (payload : List Word) :
    s.accesses ⊆ (s.dfpConsumeIdentity cnt payload).accesses := by
  unfold dfpConsumeIdentity
  dsimp only
  by_cases hreset : pdIdhPtype (payload.getD 1 0) = 5 ∧ ¬pdVdoAmaVbusReq (payload.getD 4 0)
  · rw [if_pos hreset]
    exact List.subset_cons_self _ _
  · rw [if_neg hreset]
    exact List.Subset.refl _

theorem grows_ackCommand (cmd cnt : Nat) (modep : Option Nat) (payload : List Word) :
    s.accesses ⊆ (s.ackCommand supported env cmd cnt modep payload).dfp.accesses := by
  unfold ackCommand
  dsimp only
  split_ifs
  · exact grows_dfpConsumeIdentity cnt payload
  · rw [PdPolicy.dfpDiscoverModes_dfp]
    exact List.Subset.trans (consumeSvidsFrom_consumed env _ _ _ s).grows
      (List.subset_cons_self _ _)
  · have haccessed := List.Subset.trans (List.subset_cons_self (.svid s.pe.svidIdx) s.accesses)
      (List.subset_cons_self (.svid (s.pe.svidIdx + 1)) _)
    exact List.Subset.trans haccessed
      (PdPolicy.ackDiscoverModes_aside supported env s cnt payload).grows
  · exact grows_ackEnterMode modep payload
  · exact grows_ackDpStatus modep payload
  · cases modep with
    | none => exact List.Subset.refl _
    | some i =>
        dsimp only
        split_ifs
        · exact List.Subset.refl _
        · exact (Aside.follow i _).grows
  · exact List.Subset.refl _

/-- An ACK begins with a lookup. -/
theorem lookup_svdmAck (cmd cnt : Nat) (payload : List Word) :
    (s.getModeIdx supported env ((pdVdoVid (firstObject payload)).setWidth 16)).2.accesses ⊆
      (s.svdmAck supported env cmd cnt payload).dfp.accesses :=
  grows_ackCommand cmd cnt _ payload

/-- A VDM is handled without a lookup, or what follows a lookup is logged behind it. -/
theorem pdSvdm_cases (m : VdmBuffer) : (s.pdSvdm supported env m).dfp = s ∨
    ∃ svid, (s.getModeIdx supported env svid).2.accesses ⊆
      (s.pdSvdm supported env m).dfp.accesses := by
  let payload := m.memory.set 0 (m.header &&& ~~~0xC0)
  unfold pdSvdm
  dsimp only
  by_cases hinit : m.cmdType = 0
  · rw [if_pos hinit]
    unfold svdmInit
    dsimp only
    by_cases hattention : m.cmd = 6
    · rw [if_pos hattention]
      refine Or.inr ⟨(pdVdoVid (firstObject payload)).setWidth 16, ?_⟩
      rw [dfpConsumeAttention_dfp]
      exact List.Subset.refl _
    · rw [if_neg hattention]
      exact Or.inl rfl
  rw [if_neg hinit]
  by_cases hack : m.cmdType = 1
  · rw [if_pos hack]
    exact Or.inr ⟨_, lookup_svdmAck m.cmd m.cnt payload⟩
  rw [if_neg hack]
  by_cases hbusy : m.cmdType = 3
  · rw [if_pos hbusy]
    exact Or.inl rfl
  · rw [if_neg hbusy]
    exact Or.inl rfl

/-- A mode is left without a lookup, with SVID 0, or behind one. -/
theorem pdDfpExitMode_cases (svid : BitVec 16) (opos : Int) :
    (s.pdDfpExitMode supported env svid opos).2 = { s with pe := .init } ∨
      (s.getModeIdx supported env svid).2.accesses ⊆
        (s.pdDfpExitMode supported env svid opos).2.accesses := by
  unfold pdDfpExitMode
  by_cases hall : svid = 0
  · rw [if_pos hall]
    exact Or.inl rfl
  · rw [if_neg hall]
    refine Or.inr ?_
    cases s.getModeIdx supported env svid with
    | mk found s' =>
        cases found with
        | none => exact List.Subset.refl _
        | some i =>
            dsimp only
            split_ifs <;> exact List.Subset.refl _

/-- What a call does to the slots and the log: nothing, a reset, or a lookup first. -/
theorem call_cases (supported : List (BitVec 16)) (env : DfpEnv) (s : Dfp) (c : DfpCall) :
    s.call supported env c = s ∨ s.call supported env c = { s with pe := .init } ∨
      ∃ svid, (s.getModeIdx supported env svid).2.accesses ⊆
        (s.call supported env c).accesses := by
  cases c with
  | pdSvdm m => exact (pdSvdm_cases m).imp_right Or.inr
  | pdDfpEnterMode svid opos =>
      have hlookup : (s.getModeIdx supported env svid).2.accesses ⊆
          (s.pdDfpEnterMode supported env svid opos).2.accesses :=
        List.Subset.trans (Aside.lookup_allocateMode supported env svid).grows
          (Aside.allocateMode_pdDfpEnterMode supported env svid opos).grows
      exact Or.inr (Or.inr ⟨svid, hlookup⟩)
  | pdDfpExitMode svid opos =>
      exact Or.inr ((pdDfpExitMode_cases svid opos).imp_right fun h => ⟨svid, h⟩)

/-- As long as no NULL pointer was followed, no slot is occupied. -/
theorem unused_call (supported : List (BitVec 16)) (env : DfpEnv) (c : DfpCall)
    (h : s.Unused ∨ s.FollowedNull) :
    (s.call supported env c).Unused ∨ (s.call supported env c).FollowedNull := by
  rcases call_cases supported env s c with hsame | hreset | ⟨svid, hlookup⟩
  · rw [hsame]
    exact h
  · rw [hreset]
    exact Or.inl (unused_init s.accesses)
  · refine Or.inr ?_
    rcases h with hunused | hnull
    · exact (hunused.getModeIdx svid).grows hlookup
    · exact hnull.grows (List.Subset.trans (Aside.getModeIdx supported env svid).grows hlookup)

/-- Whatever is called after `pd_dfp_pe_init`, with whatever answers of the board: a NULL
pointer was followed already, or looking up any SVID follows one. -/
theorem not_slotsFormMap (supported : List (BitVec 16)) (calls : List (DfpEnv × DfpCall))
    (env : DfpEnv) (svid : BitVec 16) :
    ¬SlotsFormMap supported env
      (Machine.run (fun s c => s.call supported c.1 c.2) (Dfp.mk .init []) calls) svid := by
  intro h
  have hreached := Machine.run_preserves
    (fun (s : Dfp) (c : DfpEnv × DfpCall) (hs : s.Unused ∨ s.FollowedNull) =>
      unused_call supported c.1 c.2 hs) (Or.inl (unused_init [])) calls
  have hnull : ((Machine.run (fun s c => s.call supported c.1 c.2) (Dfp.mk .init [])
      calls).getModeIdx supported env svid).2.FollowedNull := by
    rcases hreached with hunused | hnull
    · exact hunused.getModeIdx svid
    · exact hnull.grows (Aside.getModeIdx supported env svid).grows
  obtain ⟨i, hi⟩ := hnull
  exact h.noNull i hi

theorem two_le_seven : 2 ≤ 7 := by decide

theorem pair_held (header object : Word) : 2 ≤ [header, object].length := Nat.le_refl 2

/-- A VDM with one data object. -/
def withObject (header object : Word) : VdmBuffer :=
  ⟨2, [header, object], Nat.two_pos, two_le_seven, pair_held header object⟩

/-- A partner with one SVID and one mode, and a second request for the default mode. -/
def defaultTwice : List (DfpEnv × DfpCall) :=
  [(.quiet, .pdSvdm (withObject 0xFF008042 0xFF010000)),
    (.quiet, .pdSvdm (withObject 0xFF018043 0x00000C05)),
    (.quiet, .pdDfpEnterMode 0 0)]

/-- Both slots hold the mode. Lookups with SVID 0 do not see it, and on their way they
followed NULL. -/
theorem not_slotsFormMap_defaultTwice :
    let s := Machine.run (fun s c => s.call [0xFF01] c.1 c.2) (Dfp.mk .init []) defaultTwice
    s.Holds [0xFF01] 0 0xFF01 ∧ s.Holds [0xFF01] 1 0xFF01 ∧ .emptySlot 0 ∈ s.accesses ∧
      ¬SlotsFormMap [0xFF01] .quiet s 0xFF01 := by
  have hfirst : (Machine.run (fun s c => s.call [0xFF01] c.1 c.2) (Dfp.mk .init [])
      defaultTwice).Holds [0xFF01] 0 0xFF01 := ⟨0, by decide, by decide⟩
  have hsecond : (Machine.run (fun s c => s.call [0xFF01] c.1 c.2) (Dfp.mk .init [])
      defaultTwice).Holds [0xFF01] 1 0xFF01 := ⟨0, by decide, by decide⟩
  refine ⟨hfirst, hsecond, by decide, fun h => ?_⟩
  exact absurd (h.distinct 0 1 0xFF01 hfirst hsecond) (by decide)

end Dfp

end UsbPd
