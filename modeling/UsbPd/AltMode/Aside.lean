import UsbPd.AltMode.Svdm

/-!
# Looking up and entering modes

`get_mode_idx`, `allocate_mode` and `pd_dfp_enter_mode` leave what was discovered alone:
they change the entered modes, and look into `svids` up to the count of the SVIDs.
-/

namespace UsbPd

/-- An access to `svids` that stays inside, and no read of an object. -/
def DfpAccess.Harmless : DfpAccess → Prop
  | .svid i => i < svidDiscoveryMax
  | .object _ => False
  | .emptySlot _ | .powerSupplyReset => True

namespace Dfp

/-- The count of the SVIDs and what the entered modes point to are inside the table. -/
structure Sound (s : Dfp) : Prop where
  cnt : s.pe.svidCnt ≤ svidDiscoveryMax
  data : ∀ i j, (s.slot i).data = some j → j < svidDiscoveryMax

/-- From `s` to `s'` only the entered modes change, and `svids` is accessed inside. -/
structure Aside (s s' : Dfp) : Prop where
  svidIdx : s'.pe.svidIdx = s.pe.svidIdx
  svidCnt : s'.pe.svidCnt = s.pe.svidCnt
  svids : s'.pe.svids = s.pe.svids
  grows : ∀ a ∈ s.accesses, a ∈ s'.accesses
  sound : s.Sound → s'.Sound
  harmless : s.Sound → ∀ a ∈ s'.accesses, a ∈ s.accesses ∨ a.Harmless

namespace Aside

variable {s s' s'' : Dfp}

theorem refl (s : Dfp) : Aside s s :=
  ⟨rfl, rfl, rfl, fun _ ha => ha, fun h => h, fun _ _ ha => Or.inl ha⟩

theorem trans (h : Aside s s') (h' : Aside s' s'') : Aside s s'' where
  svidIdx := h'.svidIdx.trans h.svidIdx
  svidCnt := h'.svidCnt.trans h.svidCnt
  svids := h'.svids.trans h.svids
  grows := fun a ha => h'.grows a (h.grows a ha)
  sound := fun hs => h'.sound (h.sound hs)
  harmless := fun hs a ha => (h'.harmless (h.sound hs) a ha).elim (h.harmless hs a) Or.inr

theorem note {a : DfpAccess} (ha : s.Sound → a.Harmless) : Aside s (s.note a) where
  svidIdx := rfl
  svidCnt := rfl
  svids := rfl
  grows := fun _ hb => List.mem_cons_of_mem a hb
  sound := fun hs => ⟨hs.cnt, hs.data⟩
  harmless := fun hs b hb => by
    rcases List.mem_cons.1 hb with rfl | hb
    · exact Or.inr (ha hs)
    · exact Or.inl hb

/-- A slot is rewritten, perhaps with another one's count. -/
theorem setSlot {i : Nat} {entry : SvdmAmodeData} {amodeIdx : Nat}
    (hdata : s.Sound → ∀ j, entry.data = some j → j < svidDiscoveryMax) :
    Aside s { s with
      pe.amodes := s.pe.amodes.setIfInBounds i entry
      pe.amodeIdx := amodeIdx } where
  svidIdx := rfl
  svidCnt := rfl
  svids := rfl
  grows := fun _ ha => ha
  sound := fun hs => by
    refine ⟨hs.cnt, fun k j hj => ?_⟩
    unfold Dfp.slot at hj
    simp only [Vector.getElem?_setIfInBounds] at hj
    split_ifs at hj
    · exact hdata hs j hj
    · cases hj
    · exact hs.data k j hj
  harmless := fun _ _ ha => Or.inl ha

theorem setOpos (i : Nat) (opos : Int) : Aside s (s.setOpos i opos) :=
  @setSlot s i _ s.pe.amodeIdx fun hs => hs.data i

theorem follow (i : Nat) (pointer : Option Nat) : Aside s (s.follow i pointer) := by
  unfold Dfp.follow
  split_ifs
  · exact note fun _ => trivial
  · exact refl s

variable (supported : List (BitVec 16)) (env : DfpEnv)

theorem getModeIdxFrom (svid : BitVec 16) (n i : Nat) (s : Dfp) :
    Aside s (Dfp.getModeIdxFrom supported env svid n i s).2 := by
  induction n generalizing i s with
  | zero => exact refl s
  | succ n ih =>
      unfold Dfp.getModeIdxFrom
      simp only
      split_ifs
      · exact follow i _
      · exact (follow i _).trans (ih (i + 1) _)

theorem getModeIdx (svid : BitVec 16) : Aside s (s.getModeIdx supported env svid).2 :=
  getModeIdxFrom supported env svid pdAmodeCount 0 s

theorem findSvid (fxSvid svid : BitVec 16) (n j : Nat) (s : Dfp) (hn : j + n ≤ s.pe.svidCnt) :
    Aside s (Dfp.findSvid env fxSvid svid n j s).2 ∧
      ∀ k, (Dfp.findSvid env fxSvid svid n j s).1 = some k → k < s.pe.svidCnt := by
  induction n generalizing j s with
  | zero => exact ⟨refl s, fun k hk => by cases hk⟩
  | succ n ih =>
      have hnote : Aside s (s.note (.svid j)) := note fun hs => by
        have hcnt := hs.cnt
        change j < svidDiscoveryMax
        omega
      unfold Dfp.findSvid
      simp only
      split_ifs
      · obtain ⟨haside, hfound⟩ := ih (j + 1) (s.note (.svid j))
          (by change j + 1 + n ≤ s.pe.svidCnt; omega)
        exact ⟨hnote.trans haside, hfound⟩
      · refine ⟨hnote, fun k hk => ?_⟩
        cases hk
        omega

theorem allocateFrom (svid : BitVec 16) (entries : List (BitVec 16)) (i : Nat) (s : Dfp) :
    Aside s (Dfp.allocateFrom env svid entries i s).2 := by
  induction entries generalizing i s with
  | nil => exact refl s
  | cons fxSvid rest ih =>
      obtain ⟨haside, hfound⟩ := findSvid env fxSvid svid s.pe.svidCnt 0 s (by omega)
      unfold Dfp.allocateFrom
      cases hfind : Dfp.findSvid env fxSvid svid s.pe.svidCnt 0 s with
      | mk found s' =>
          rw [hfind] at haside hfound
          cases found with
          | none => exact haside.trans (ih (i + 1) s')
          | some j =>
              refine haside.trans (setSlot fun hs k hk => ?_)
              cases hk
              have hcnt := hs.cnt
              rw [haside.svidCnt] at hcnt
              exact Nat.lt_of_lt_of_le (hfound j rfl) hcnt

/-- `allocate_mode` begins with a lookup. -/
theorem lookup_allocateMode (svid : BitVec 16) :
    Aside (s.getModeIdx supported env svid).2 (s.allocateMode supported env svid).2 := by
  unfold Dfp.allocateMode
  cases s.getModeIdx supported env svid with
  | mk found s' =>
      cases found with
      | some i => exact refl s'
      | none =>
          simp only
          split_ifs
          · exact refl s'
          · exact allocateFrom env svid supported 0 s'

theorem allocateMode (svid : BitVec 16) : Aside s (s.allocateMode supported env svid).2 :=
  (getModeIdx supported env svid).trans (lookup_allocateMode supported env svid)

theorem loadData (i : Nat) : Aside s (s.loadData env i).2 := by
  unfold Dfp.loadData
  cases hdata : (s.slot i).data with
  | none => exact note fun _ => trivial
  | some j => exact note fun hs => hs.data i j hdata

theorem enterSlot (i : Nat) : Aside s (s.enterSlot supported env i).2 := by
  have hend : Aside s ((s.loadData env i).2.follow i (s.slot i).fx) :=
    (loadData env i).trans (follow i _)
  unfold Dfp.enterSlot
  simp only
  split_ifs
  · exact hend
  · exact hend

theorem allocateMode_pdDfpEnterMode (svid : BitVec 16) (opos : Int) :
    Aside (s.allocateMode supported env svid).2
      (s.pdDfpEnterMode supported env svid opos).2 := by
  unfold Dfp.pdDfpEnterMode
  cases s.allocateMode supported env svid with
  | mk found s' =>
      cases found with
      | none => exact refl s'
      | some i =>
          simp only
          split_ifs
          · exact (setOpos i 1).trans (enterSlot supported env i)
          · exact (loadData env i).trans ((setOpos i opos).trans (enterSlot supported env i))
          · exact loadData env i

theorem pdDfpEnterMode (svid : BitVec 16) (opos : Int) :
    Aside s (s.pdDfpEnterMode supported env svid opos).2 :=
  (allocateMode supported env svid).trans (allocateMode_pdDfpEnterMode supported env svid opos)

end Aside

end Dfp

end UsbPd
