import UsbPd.System.Run

/-!
# The voltage cap

`pd_set_max_voltage` caps the voltage that a sink may request, and
`pd_find_pdo_index` is documented to find the offer with the most power under
the cap. Its selection loop is compiled out: it answers with the entry that the
button selected and the index 0, and `pd_build_request` no longer asks it. The
cap therefore holds only as far as the selected entry happens to respect it.
-/

namespace UsbPd

/-- The voltage field of a PDO, in millivolts. -/
def pdoMv (pdo : Word) : Nat := (pdo >>> 10).toNat % 1024 * 50

/-- The power of a PDO in microwatts, as the selection loop measures it. -/
def pdoUw (pdo : Word) : Nat :=
  let uw := if pdoType pdo = .battery then 250000 * (pdo.toNat % 1024)
    else min (pdo.toNat % 1024 * 10) pdMaxCurrentMa * pdoMv pdo
  min uw (pdMaxPowerMw * 1000)

/-- The entries that the selection loop does not skip. -/
def eligible (maxMv : Nat) (pdo : Word) : Bool :=
  pdoType pdo ≠ .augmented ∧ pdoMv pdo ≠ 0 ∧ pdoMv pdo ≤ maxMv

/-- The PDO at the object position of a Request. -/
def requestedPdo (pdos : List Word) (rdo : Word) : Option Word :=
  if rdoPos rdo = 0 then none else pdos[rdoPos rdo - 1]?

/-- The Request for the maximum keeps to the cap, and `pd_find_pdo_index` finds
the entry with the most power up to `maxMv`. -/
structure Statics.VoltageCapped (st : Statics) (pdos : List Word) (maxMv : Nat) : Prop where
  requested : ∃ pdo, requestedPdo pdos (st.pdBuildRequest .max).2.rdo = some pdo ∧
    eligible st.maxRequestMv pdo = true
  found : ∃ i : Nat, (st.pdFindPdoIndex maxMv).1 = i ∧ i < pdos.length ∧
    pdos[i]? = some (st.pdFindPdoIndex maxMv).2
  voltage : pdoMv (st.pdFindPdoIndex maxMv).2 ≤ maxMv
  most : ∀ pdo ∈ pdos, eligible maxMv pdo = true →
    pdoUw pdo ≤ pdoUw (st.pdFindPdoIndex maxMv).2

namespace Statics

variable {st : Statics} {first : Word} {rest : List Word}

/-- An index outside the table reads as no capability. -/
theorem srcCap_eq_zero (h : st.srcCaps.length ≤ st.sourceCapCurrentIndex) :
    st.srcCap st.sourceCapCurrentIndex = 0 := by
  unfold srcCap
  rw [List.getD_eq_getElem?_getD, List.getElem?_eq_none h]
  rfl

theorem pdoMv_zero : pdoMv 0 = 0 := by decide

/-- The position in the Request for an entry of the table is that of the entry. -/
theorem requestedPdo_pdBuildRequest (hindex : st.sourceCapCurrentIndex < 7) (pdos : List Word) :
    requestedPdo pdos (st.pdBuildRequest .max).2.rdo = pdos[st.sourceCapCurrentIndex]? := by
  have hpos := rdoPos_requestObject hindex (st.srcCap st.sourceCapCurrentIndex)
  unfold requestedPdo pdBuildRequest
  simp only [hpos]
  rw [if_neg (Nat.succ_ne_zero _), Nat.add_sub_cancel]

/-- The index found is 0, so the entry found is the first one. -/
theorem VoltageCapped.srcCap_eq {maxMv : Nat} (h : st.VoltageCapped (first :: rest) maxMv) :
    st.srcCap st.sourceCapCurrentIndex = first := by
  obtain ⟨i, hi, -, hfound⟩ := h.found
  obtain rfl : i = 0 := by
    have hzero : (0 : Int) = i := hi
    omega
  exact (Option.some.inj hfound).symm

/-- The selected entry is the first one of the list. -/
theorem VoltageCapped.selected {maxMv : Nat} (htable : st.srcCaps.length = 7)
    (hcaps : ∀ i < (first :: rest).length, st.srcCaps[i]? = (first :: rest)[i]?)
    (hfirst : pdoMv first = 5000) (h : st.VoltageCapped (first :: rest) maxMv) :
    (first :: rest)[st.sourceCapCurrentIndex]? = some first := by
  have hselected := h.srcCap_eq
  have hindex : st.sourceCapCurrentIndex < 7 := by
    by_contra hout
    have hzero : st.srcCap st.sourceCapCurrentIndex = 0 := srcCap_eq_zero (by omega)
    rw [← hselected, hzero, pdoMv_zero] at hfirst
    cases hfirst
  obtain ⟨pdo, hpdo, -⟩ := h.requested
  rw [requestedPdo_pdBuildRequest hindex] at hpdo
  obtain ⟨hlt, -⟩ := List.getElem?_eq_some_iff.1 hpdo
  have hread : st.srcCap st.sourceCapCurrentIndex = pdo := by
    unfold srcCap
    rw [List.getD_eq_getElem?_getD, hcaps _ hlt, hpdo]
    rfl
  rw [hpdo, ← hread, hselected]

/-- The first entry, if it is a fixed supply of 5 V, keeps to any cap of at
least 5 V. -/
theorem voltageCapped_of_selected {maxMv : Nat}
    (hcaps : ∀ i < (first :: rest).length, st.srcCaps[i]? = (first :: rest)[i]?)
    (hlen : rest.length ≤ 6) (hfixed : pdoType first = .fixed) (hfirst : pdoMv first = 5000)
    (hcap : 5000 ≤ st.maxRequestMv) (hmax : 5000 ≤ maxMv)
    (hselected : (first :: rest)[st.sourceCapCurrentIndex]? = some first)
    (hmost : ∀ pdo ∈ first :: rest, eligible maxMv pdo = true → pdoUw pdo ≤ pdoUw first) :
    st.VoltageCapped (first :: rest) maxMv := by
  obtain ⟨hlt, -⟩ := List.getElem?_eq_some_iff.1 hselected
  have hread : (st.pdFindPdoIndex maxMv).2 = first := by
    change st.srcCap st.sourceCapCurrentIndex = first
    unfold srcCap
    rw [List.getD_eq_getElem?_getD, hcaps _ hlt, hselected]
    rfl
  have hindex : st.sourceCapCurrentIndex < 7 := by
    rw [List.length_cons] at hlt
    omega
  refine ⟨⟨first, ?_, ?_⟩, ⟨0, rfl, ?_, ?_⟩, ?_, ?_⟩
  · rw [requestedPdo_pdBuildRequest hindex, hselected]
  · simp [eligible, hfixed, hfirst, hcap]
  · exact Nat.succ_pos _
  · rw [hread]
    rfl
  · rw [hread, hfirst]
    exact hmax
  · rw [hread]
    exact hmost

end Statics

namespace Port

/-- The statics after Source_Capabilities `pdos` have been processed and the cap
has been set. -/
def cappedStatics (b : Board) (p : Port) (pdos : List Word) (cap : Nat) : Statics :=
  ((p.pdProcessSourceCap pdos).step b (.setMaxVoltage cap)).st

/-- For capabilities that begin with a fixed supply of 5 V and for any cap of at
least 5 V, the cap is obeyed exactly when the selected entry is that first one
and no entry up to the cap offers more power. -/
theorem voltageCapped_iff (b : Board) (p : Port) (htable : p.st.srcCaps.length = 7) (first : Word)
    (rest : List Word) (hlen : rest.length ≤ 6) (hfixed : pdoType first = .fixed)
    (hfirst : pdoMv first = 5000) (cap maxMv : Nat) (hcap : 5000 ≤ cap) (hmax : 5000 ≤ maxMv) :
    (p.cappedStatics b (first :: rest) cap).VoltageCapped (first :: rest) maxMv ↔
      (first :: rest)[p.st.sourceCapCurrentIndex]? = some first ∧
        ∀ pdo ∈ first :: rest, eligible maxMv pdo = true → pdoUw pdo ≤ pdoUw first := by
  have hstored : (p.cappedStatics b (first :: rest) cap).srcCaps =
      (first :: rest) ++ p.st.srcCaps.drop (first :: rest).length := rfl
  have hlength : (p.cappedStatics b (first :: rest) cap).srcCaps.length = 7 := by
    rw [hstored, List.length_append, List.length_drop, htable, List.length_cons]
    omega
  have hcaps : ∀ i < (first :: rest).length,
      (p.cappedStatics b (first :: rest) cap).srcCaps[i]? = (first :: rest)[i]? := by
    intro i hi
    rw [hstored, List.getElem?_append_left hi]
  constructor
  · intro h
    have hselected := h.selected hlength hcaps hfirst
    refine ⟨hselected, fun pdo hpdo heligible => ?_⟩
    have hmost := h.most pdo hpdo heligible
    rwa [Statics.pdFindPdoIndex, h.srcCap_eq] at hmost
  · rintro ⟨hselected, hmost⟩
    exact Statics.voltageCapped_of_selected hcaps hlen hfixed hfirst hcap hmax hselected hmost

/-- 9 V and 15 V. -/
def higherOffers : List Word := [pdoFixed 9000 1000 0, pdoFixed 15000 3000 0]

/-- The button has selected the second of three offers. -/
def onSecond : Port := (setup.pdProcessSourceCapCallback 3).pressButton

/-- A cap of 9 V is obeyed with the first entry selected, and with the second one it is not. -/
theorem voltageCapped_iff_higherOffers :
    (setup.cappedStatics .shipped (fiveVolts :: higherOffers) 9000).VoltageCapped
        (fiveVolts :: higherOffers) 9000 ∧
      ¬(onSecond.cappedStatics .shipped (fiveVolts :: higherOffers) 9000).VoltageCapped
        (fiveVolts :: higherOffers) 9000 := by
  have hmost : ∀ pdo ∈ fiveVolts :: higherOffers, eligible 9000 pdo = true →
      pdoUw pdo ≤ pdoUw fiveVolts := by
    intro pdo hpdo heligible
    simp only [higherOffers, List.mem_cons, List.not_mem_nil, or_false] at hpdo
    rcases hpdo with rfl | rfl | rfl
    · exact Nat.le_refl _
    · decide
    · exact absurd heligible (by decide)
  have hother : ¬(fiveVolts :: higherOffers)[onSecond.st.sourceCapCurrentIndex]? =
      some fiveVolts := by
    decide
  exact ⟨(voltageCapped_iff .shipped setup (by decide) fiveVolts higherOffers (by decide)
      (by decide) (by decide) 9000 9000 (by decide) (by decide)).2 ⟨rfl, hmost⟩,
    fun h => hother ((voltageCapped_iff .shipped onSecond (by decide) fiveVolts higherOffers
      (by decide) (by decide) (by decide) 9000 9000 (by decide) (by decide)).1 h).1⟩

/-- With the second entry selected, a cap of 5 V does not keep the port from
requesting 15 V. -/
theorem not_voltageCapped_second :
    ¬ ∀ (p : Port) (first : Word) (rest : List Word) (cap : Nat), p.st.srcCaps.length = 7 →
      rest.length ≤ 6 → pdoType first = .fixed → pdoMv first = 5000 → 5000 ≤ cap →
      (p.cappedStatics .shipped (first :: rest) cap).VoltageCapped (first :: rest) cap := by
  intro h
  have hcapped := h (setup.modifySt fun st => { st with sourceCapCurrentIndex := 1 }) fiveVolts
    [pdoFixed 15000 3000 0] 5000 (by decide) (by decide) (by decide) (by decide) (by decide)
  obtain ⟨pdo, hpdo, heligible⟩ := hcapped.requested
  obtain rfl : pdoFixed 15000 3000 0 = pdo := Option.some.inj ((by decide : some _ = _).trans hpdo)
  revert heligible
  decide

end Port

end UsbPd
