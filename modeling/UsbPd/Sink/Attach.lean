import UsbPd.Link.Watch
import UsbPd.Machine.Stage
import UsbPd.Sink.Progress

/-!
# The attach to a source

A sink that is plugged into a source measures Rp on one of its pins, whichever way round the
plug is. It waits until the level has lasted, takes its polarity from the pin, and goes on to
`PD_STATE_SNK_DISCOVERY`, ready to hear capabilities. This takes less than the time of the
debounce and four gaps between iterations.
-/

namespace UsbPd

namespace Port

variable {b : Board} {p q : Port} {old : List Call}

/-- The sink has found a source with the Rp of `level`. -/
structure FoundSource (flipped : Bool) (level : CcVoltage) (p : Port) : Prop where
  listens : p.Listens
  polarity : p.pd.polarity = flipped
  dataRole : p.pd.dataRole = .ufp
  receiver : p.chip.rxEnable = true
  typecCurr : p.st.typecCurr = getTypecCurrentLimit false level .open

/-! The two states. -/

/-- A detached sink that measures a level starts to debounce it. -/
theorem Watches.detects_source (h : p.Watches old .sink .snkDisconnected) {block : MeasureBlock}
    {flipped : Bool} {cc other : Pin} (hcc : ccIsRp (block.downLevel cc) = true) {inp : Input}
    (hr : block.Reads (.plug flipped cc other) .sink inp.cc) :
    (p.snkDisconnected inp).Watches old .sink .snkDisconnectedDebounce ∧
      (p.snkDisconnected inp).pd.ccState = .none := by
  obtain ⟨hmeasured, -⟩ := h.tcpmGetCc hr
  have hlevel : block.downLevel cc ≠ .open := fun hopen => by
    rw [hopen] at hcc
    exact absurd hcc (by decide)
  have hfound : (p.tcpmGetCc inp.cc).st.cc1 ≠ .open ∨ (p.tcpmGetCc inp.cc).st.cc2 ≠ .open := by
    obtain ⟨-, -, hcc2⟩ | ⟨-, hcc1, -⟩ := eq_plugLevels (h.plugged hr)
    · exact .inr (hcc2 ▸ hlevel)
    · exact .inl (hcc1 ▸ hlevel)
  unfold snkDisconnected
  simp only
  rw [if_pos hfound]
  generalize p.tcpmGetCc inp.cc = r at hmeasured
  refine ⟨⟨?_, ?_, ?_, ?_, ?_, ?_, ?_, ?_⟩, ?_⟩
  · simp [hmeasured.powerRole]
  · simp [hmeasured.awake]
  · simp
  · simp [hmeasured.tx]
  · simp
  · simp [hmeasured.trySrc]
  · rw [chip_setState _ rfl]
    exact hmeasured.chip
  · rw [setState_log _ (by decide)]
    exact hmeasured.log
  · simp

theorem snkCcState_plug {flipped : Bool} {level : CcVoltage} (hlevel : ccIsRp level = true)
    (hcc : (p.st.cc1, p.st.cc2) = plugLevels flipped level .open) :
    p.snkCcState = some .dfpAttached := by
  unfold snkCcState
  obtain ⟨-, hcc1, hcc2⟩ | ⟨-, hcc1, hcc2⟩ := eq_plugLevels hcc
  · rw [hcc1, hcc2, hlevel]
    rfl
  · rw [hcc1, hcc2, hlevel]
    rfl

/-- A level that lasts is debounced, and then the source is attached. -/
theorem Watches.debounces_source (h : p.Watches old .sink .snkDisconnectedDebounce)
    {block : MeasureBlock} {flipped : Bool} {cc other : Pin}
    (hcc : ccIsRp (block.downLevel cc) = true) (hother : block.downLevel other = .open)
    {inp : Input} (hr : block.Reads (.plug flipped cc other) .sink inp.cc) :
    p.snkDisconnectedDebounce inp =
      if CcState.dfpAttached ≠ p.pd.ccState then
        (p.tcpmGetCc inp.cc).modifyPd fun pd => { pd with
          ccDebounce := inp.time .switch + pdTCcDebounce, ccState := .dfpAttached }
      else if inp.time .switch < p.pd.ccDebounce then p.tcpmGetCc inp.cc
      else (p.tcpmGetCc inp.cc).attachSource .dfpAttached := by
  have hlevels := h.plugged hr
  have hopen : block.roleLevel .sink other = .open := hother
  rw [hopen] at hlevels
  have hstate : (p.tcpmGetCc inp.cc).snkCcState = some .dfpAttached :=
    snkCcState_plug hcc hlevels
  unfold snkDisconnectedDebounce
  simp only [hstate, pdIsVbusPresent, pdTrySrcEnable, not_true, or_false, Bool.false_eq_true,
    false_and, if_false, tcpmGetCc_pd]

/-! The attach. -/

/-- The polarity and the current of a plug. -/
theorem polarity_plug {flipped : Bool} {level : CcVoltage} (hlevel : ccIsRp level = true)
    (hcc : (p.st.cc1, p.st.cc2) = plugLevels flipped level .open) :
    getSnkPolarity p.st.cc1 p.st.cc2 = flipped ∧
      getTypecCurrentLimit flipped p.st.cc1 p.st.cc2 = getTypecCurrentLimit false level .open := by
  obtain ⟨rfl, hcc1, hcc2⟩ | ⟨rfl, hcc1, hcc2⟩ := eq_plugLevels hcc
  · rw [hcc1, hcc2]
    refine ⟨?_, rfl⟩
    cases level <;> first | rfl | cases hlevel
  · rw [hcc1, hcc2]
    refine ⟨?_, rfl⟩
    cases level <;> rfl

theorem rxEnable_setRxEnable (c : Fusb302) : (c.setRxEnable true).2.rxEnable = true := by
  unfold Fusb302.setRxEnable
  simp only [if_true]
  split_ifs <;> rfl

/-- What the attach of a source writes. -/
theorem attachSource_writes (p : Port) :
    (p.attachSource .dfpAttached).pd.taskState = .snkDiscovery ∧
      (p.attachSource .dfpAttached).pd.timeout = 0 ∧
      (p.attachSource .dfpAttached).pd.txStatus = p.pd.txStatus ∧
      (p.attachSource .dfpAttached).pd.dataRole = .ufp ∧
      (p.attachSource .dfpAttached).pd.polarity = getSnkPolarity p.st.cc1 p.st.cc2 ∧
      (p.attachSource .dfpAttached).st.typecCurr =
        getTypecCurrentLimit (getSnkPolarity p.st.cc1 p.st.cc2) p.st.cc1 p.st.cc2 ∧
      (p.attachSource .dfpAttached).chip.rxEnable = true := by
  unfold attachSource
  simp only [pdCommIsEnabled, if_true, true_or, reduceCtorEq, if_false]
  generalize hr : Port.tcpmSetRxEnable _ true = r
  have hchip : r.chip.rxEnable = true := by
    rw [← hr, chip_tcpmSetRxEnable, rxEnable_setRxEnable]
  refine ⟨?_, ?_, ?_, ?_, ?_, ?_, ?_⟩
  · simp
  · simp
  · simp [← hr]
  · simp [← hr]
  · simp [← hr]
  · simp [← hr]
  · rw [chip_setState _ rfl]
    exact hchip

/-- The attach takes the polarity of the plug, and the sink listens from then on. -/
theorem Watches.finds_source (h : p.Watches old .sink .snkDisconnectedDebounce)
    {block : MeasureBlock} {flipped : Bool} {cc other : Pin}
    (hcc : ccIsRp (block.downLevel cc) = true) (hother : block.downLevel other = .open)
    {inp : Input} (hr : block.Reads (.plug flipped cc other) .sink inp.cc) :
    FoundSource flipped (block.downLevel cc) (((p.tcpmGetCc inp.cc).attachSource
      .dfpAttached).finish .snkDisconnectedDebounce inp) := by
  obtain ⟨hmeasured, -⟩ := h.tcpmGetCc hr
  have hlevels := h.plugged hr
  have hopen : block.roleLevel .sink other = .open := hother
  rw [hopen] at hlevels
  generalize p.tcpmGetCc inp.cc = r at hmeasured hlevels
  obtain ⟨hpolarity, hcurrent⟩ := polarity_plug hcc hlevels
  obtain ⟨htask, htimer, htx, hdata, hpin, htypec, hreceiver⟩ := r.attachSource_writes
  have hdoes := r.does_attachSource .dfpAttached
  have hrole := (hdoes.keeps .role (by decide)).trans hmeasured.powerRole
  rw [finish_of_sink _ hrole fun hout => hout.1 htimer]
  refine ⟨⟨hrole, ?_, htask, ?_, htx.trans hmeasured.tx⟩, hpin.trans hpolarity, hdata, hreceiver,
    ?_⟩
  · exact (hdoes.keeps .suspend (by decide)).trans hmeasured.awake
  · exact PdState.noConfusion
  · rw [hpolarity] at htypec
    exact htypec.trans hcurrent

/-- An iteration keeps the sink on its way to the source, or finds it. -/
theorem Approaches.iterate_source {start gap now : Nat}
    (h : p.Approaches old .sink .dfpAttached start gap now) {block : MeasureBlock} {flipped : Bool}
    {cc other : Pin} (hcc : ccIsRp (block.downLevel cc) = true)
    (hother : block.downLevel other = .open) {inp : Input} (hstill : inp.still)
    (hr : block.Reads (.plug flipped cc other) .sink inp.cc)
    (htime : inp.time .switch ≤ inp.time .tail)
    (hshort : inp.time .tail ≤ inp.time .switch + gap) (hgap : inp.time .tail ≤ now + gap) :
    (p.pdRunStateMachine b inp).Approaches old .sink .dfpAttached start gap (inp.time .tail) ∨
      (p.pdRunStateMachine b inp).FoundSource flipped (block.downLevel cc) := by
  have hfinds : Finds b old .sink inp := fun r hwatch => by
    rw [runState, hwatch.task]
    exact hwatch.detects_source hcc hr
  have hdebounces : Debounces b old .sink .dfpAttached (fun r => r.attachSource .dfpAttached)
      inp := fun r hwatch => by
    rw [runState, hwatch.task]
    exact ⟨(hwatch.tcpmGetCc hr).1, hwatch.debounces_source hcc hother hr⟩
  obtain hon | ⟨r, hwatch, hattached⟩ :=
    h.iterate (by decide) hstill hfinds hdebounces htime hshort hgap
  · exact .inl hon
  · rw [hattached]
    exact .inr (hwatch.finds_source hcc hother hr)

/-- A source that is plugged in, whichever way round, is found after the debounce. -/
theorem attached_run (b : Board) {p : Port} (h : p.Unplugged .sink) {block : MeasureBlock}
    {flipped : Bool} {cc other : Pin} (hcc : ccIsRp (block.downLevel cc) = true)
    (hother : block.downLevel other = .open) {gap start : Nat} {es : List Event}
    (hsteady : ∀ e ∈ es, Steady (block.Reads (.plug flipped cc other) .sink) gap e)
    (hpaced : Machine.Paced Event.ends gap start es)
    (hlate : start + pdTCcDebounce + 3 * gap ≤ Machine.latest Event.ends start es) :
    Machine.Reaches (Machine.instant Event.ends) (step b)
      (fun now q => q.FoundSource flipped (block.downLevel cc) ∧
        now < start + pdTCcDebounce + 4 * gap) start p es := by
  have hstart : p.Approaches p.log .sink .dfpAttached start gap start := .detached h le_rfl
  obtain hends | hreached := steady_reaches (b := b)
    (R := fun now q => q.Approaches p.log .sink .dfpAttached start gap now)
    (G := fun now q => q.FoundSource flipped (block.downLevel cc) ∧
      now < start + pdTCcDebounce + 4 * gap)
    (fun _ _ _ time hq hfine => hq.alert_fine hfine time)
    (fun now q inp hq hstill hr _ htime hshort hgap => by
      have hsoon := hq.lt_of_approaches
      exact (hq.iterate_source hcc hother hstill hr htime hshort hgap).imp_right fun hfound =>
        ⟨hfound, by omega⟩)
    hstart hsteady hpaced
  · exact absurd hends.lt_of_approaches (Nat.not_lt.2 hlate)
  · exact hreached

/-- A wire with Rp for 3 A, pulled down by the chip or not. -/
def rpWire : Pin := fun _ down => if down then 1700 else 3300

/-- What a sink reads from a flipped plug. -/
def rpOnCc2 : CcReading := { openCc with bcLvl1 := 0, bcLvl2 := 3 }

def afterPlug : List Event :=
  [.iterate (inputAt 50000 rpOnCc2 none), .alert ⟨1, 0, 0⟩ 60000] ++
    [100000, 150000, 200000, 250000].map fun now => .iterate (inputAt now rpOnCc2 none)

/-- A flipped plug in a sink that runs every 50 ms. -/
theorem attached_flipped :
    Machine.Reaches (Machine.instant Event.ends) (step .shipped)
      (fun now q => q.FoundSource true .snk30 ∧ now < 0 + pdTCcDebounce + 4 * 50000) 0 setup
      afterPlug := by
  have hunplugged : setup.Unplugged .sink := by
    constructor <;> decide +kernel
  have hreads : usualBlock.Reads (.plug true rpWire openWire) .sink rpOnCc2 := by
    constructor <;> decide
  have hlevel : usualBlock.downLevel rpWire = .snk30 := by decide
  have hcc : ccIsRp (usualBlock.downLevel rpWire) = true := by decide
  have hother : usualBlock.downLevel openWire = .open := by decide
  have hpaced : Machine.Paced Event.ends 50000 0 afterPlug := by
    simp [Machine.Paced, Machine.Timed, Machine.instant, Event.ends, afterPlug, inputAt]
  rw [← hlevel]
  refine attached_run .shipped hunplugged hcc hother (fun e he => ?_) hpaced (by decide)
  rcases List.mem_append.1 he with hmem | hmem
  · rcases List.mem_pair.1 hmem with rfl | rfl
    · exact .iterate ⟨rfl, rfl⟩ hreads hreads le_rfl (Nat.le_add_right ..)
    · exact .alert ⟨by decide, by decide, by decide, by decide⟩ _
  · obtain ⟨now, -, rfl⟩ := List.mem_map.1 hmem
    exact .iterate ⟨rfl, rfl⟩ hreads hreads le_rfl (Nat.le_add_right ..)

end Port

end UsbPd
