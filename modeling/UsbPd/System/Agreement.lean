import UsbPd.Control.Role
import UsbPd.Sink.Client
import UsbPd.Sink.NearReady
import UsbPd.Source.Grant
import UsbPd.System.Pair

/-!
# Agreement on the contract

When both ports of a cable rest in their READY states under a contract, the record
of the sink ought to be that of the PDO which the source supplies. The sink writes
its record before it asks, so a Request that is not accepted leaves a record which
the source knows nothing of.
-/

namespace UsbPd

open Machine (InTransit Along observed)

/-- The voltage that a PDO offers, in mV. -/
def offeredVoltage (pdo : Word) : Nat := (pdo >>> 10).toNat % 1024 * 50

/-- The current that a PDO offers, in mA. A battery says its power in units of 250 mW. -/
def offeredCurrent (pdo : Word) : Nat :=
  if pdoType pdo = .battery then 1000 * (250 * (pdo.toNat % 1024)) / offeredVoltage pdo
  else 10 * (pdo.toNat % 1024)

/-- A battery offers the current that is planned for it. -/
def planFits (pdo : Word) : Bool :=
  pdoType pdo = .battery → (pdExtractPdoPower pdo).1 ≤ offeredCurrent pdo

theorem pdExtractPdoPower_snd (pdo : Word) : (pdExtractPdoPower pdo).2 = offeredVoltage pdo := by
  unfold pdExtractPdoPower offeredVoltage
  simp only
  split_ifs with hzero
  · exact hzero.symm
  · rfl
  · rfl

theorem pdExtractPdoPower_fst_le {pdo : Word} (h : planFits pdo = true) :
    (pdExtractPdoPower pdo).1 ≤ offeredCurrent pdo := by
  by_cases hbattery : pdoType pdo = .battery
  · exact of_decide_eq_true h hbattery
  · unfold pdExtractPdoPower offeredCurrent
    simp only [if_neg hbattery]
    split_ifs
    · exact Nat.zero_le _
    · exact Nat.le_trans (Nat.min_le_left _ _) (Nat.min_le_left _ _)

/-- The position that a Request names. -/
def PdMsg.position (m : PdMsg) : Nat := rdoPos (firstObject m.payload)

namespace Pair

/-- No message is in flight, and both ports are ready under a contract. -/
structure AtRest (s : Pair) : Prop where
  toSource : s.toSource = []
  toSink : s.toSink = []
  source : s.source.pd.taskState = .srcReady
  sink : s.sink.pd.taskState = .snkReady
  sourceContract : s.source.pd.flags.explicitContract = true
  sinkContract : s.sink.pd.flags.explicitContract = true

/-- At rest the sink has the voltage of the PDO that the source has agreed to, and at
most its current. -/
def Agrees (src : Board) (s : Pair) : Prop :=
  s.AtRest → 1 ≤ s.source.pd.requestedIdx ∧
    ∃ pdo, src.srcPdo[s.source.pd.requestedIdx - 1]? = some pdo ∧
      s.sink.pd.supplyVoltage = offeredVoltage pdo ∧ s.sink.pd.currLimit ≤ offeredCurrent pdo

instance decidableAtRest (s : Pair) : Decidable s.AtRest :=
  decidable_of_iff (s.toSource = [] ∧ s.toSink = [] ∧ s.source.pd.taskState = .srcReady ∧
      s.sink.pd.taskState = .snkReady ∧ s.source.pd.flags.explicitContract = true ∧
      s.sink.pd.flags.explicitContract = true)
    ⟨fun ⟨h₁, h₂, h₃, h₄, h₅, h₆⟩ => ⟨h₁, h₂, h₃, h₄, h₅, h₆⟩,
      fun ⟨h₁, h₂, h₃, h₄, h₅, h₆⟩ => ⟨h₁, h₂, h₃, h₄, h₅, h₆⟩⟩

instance decidableAgrees (src : Board) (s : Pair) : Decidable (s.Agrees src) :=
  decidable_of_iff (s.AtRest → 1 ≤ s.source.pd.requestedIdx ∧
      src.srcPdo[s.source.pd.requestedIdx - 1]?.any (fun pdo =>
        s.sink.pd.supplyVoltage = offeredVoltage pdo ∧
          s.sink.pd.currLimit ≤ offeredCurrent pdo) = true)
    (by simp only [Agrees, Option.any_eq_true, decide_eq_true_eq])

/-- The number of the Request that the source accepted last, among the messages that
the sink has sent. -/
def noteAccepted (src : Board) (s : Pair) (e : PairEvent) (accepted : Option Nat) : Option Nat :=
  match e with
  | .source e deliver =>
    match e.takes deliver s.toSource, (e.heard deliver s.toSource).received with
    | some k, some r => if (s.source.dispatching r.1 r.2).accepts src r.2 then some k.serial
        else accepted
    | _, _ => accepted
  | _ => accepted

/-- The source has accepted a Request, the sink has named no other position since, and
if the PDO there is a battery it offers what is planned for it. -/
def settled (src : Board) (s : Pair) (accepted : Option Nat) : Bool :=
  match accepted with
  | none => false
  | some i => match (sentMsgs s.sink.log)[i]? with
    | none => false
    | some m => planFits (src.srcPdo.getD (m.position - 1) 0) &&
        ((sentMsgs s.sink.log).drop i).all fun l => !l.isData .request || l.position == m.position

/-- What the sink receives in a step. -/
def sinkHears (s : Pair) : PairEvent → Option (Input × PdMsg)
  | .sink e deliver => (e.heard deliver s.toSink).received
  | _ => none

/-- A PS_RDY that the sink takes power on, and a Reject or a Wait that it takes under a
contract, find that the source has accepted its last Request. New capabilities find
the last transmission successful in `PD_STATE_SNK_READY`. -/
structure Settles (src : Board) (s : Pair × Option Nat) (e : PairEvent) : Prop where
  answers : ∀ r ∈ s.1.sinkHears e, (s.1.sink.dispatching r.1 r.2).heedsAnswer r.2 = true →
    s.1.settled src s.2 = true
  caps : ∀ r ∈ s.1.sinkHears e, (s.1.sink.dispatching r.1 r.2).failsInReady r.2 = false

instance decidableSettles (src : Board) (s : Pair × Option Nat) (e : PairEvent) :
    Decidable (Settles src s e) :=
  have : Decidable (∀ r ∈ s.1.sinkHears e, (s.1.sink.dispatching r.1 r.2).heedsAnswer r.2 = true →
      s.1.settled src s.2 = true) := inferInstance
  have : Decidable (∀ r ∈ s.1.sinkHears e,
      (s.1.sink.dispatching r.1 r.2).failsInReady r.2 = false) := inferInstance
  decidable_of_iff (_ ∧ _)
    ⟨fun ⟨hanswers, hcaps⟩ => ⟨hanswers, hcaps⟩, fun h => ⟨h.answers, h.caps⟩⟩

/-! What `settled` says. -/

theorem settled_iff {src : Board} {s : Pair} {accepted : Option Nat} :
    s.settled src accepted = true ↔ ∃ i m, accepted = some i ∧ (sentMsgs s.sink.log)[i]? = some m ∧
      planFits (src.srcPdo.getD (m.position - 1) 0) = true ∧
      ∀ l ∈ (sentMsgs s.sink.log).drop i, l.isData .request = true → l.position = m.position := by
  unfold settled
  constructor
  · intro h
    split at h
    · cases h
    · rename_i i
      split at h
      · cases h
      · rename_i m hm
        simp only [Bool.and_eq_true, List.all_eq_true] at h
        refine ⟨i, m, rfl, hm, h.1, fun l hl hrequest => ?_⟩
        simpa [hrequest] using h.2 l hl
  · rintro ⟨i, m, rfl, hm, hfits, hlater⟩
    simp only [hm, Bool.and_eq_true, List.all_eq_true]
    refine ⟨hfits, fun l hl => ?_⟩
    cases hrequest : l.isData .request with
    | false => rfl
    | true => simp [hlater l hl hrequest]

/-- Messages other than Requests settle nothing anew. -/
theorem settled_append {src : Board} {s t : Pair} {accepted : Option Nat} {new : List PdMsg}
    (hnew : sentMsgs t.sink.log = sentMsgs s.sink.log ++ new)
    (hquiet : ∀ m ∈ new, m.isData .request = false) (h : s.settled src accepted = true) :
    t.settled src accepted = true := by
  obtain ⟨i, m, rfl, hm, hfits, hlater⟩ := settled_iff.1 h
  have hlt := (List.getElem?_eq_some_iff.1 hm).1
  refine settled_iff.2 ⟨i, m, rfl, ?_, hfits, fun l hl hrequest => ?_⟩
  · rw [hnew, List.getElem?_append_left hlt]
    exact hm
  · rw [hnew, List.drop_append_of_le_length (Nat.le_of_lt hlt)] at hl
    rcases List.mem_append.1 hl with hold | hadded
    · exact hlater l hold hrequest
    · rw [hquiet l hadded] at hrequest
      cases hrequest

/-- A later Request that is accepted settles the same position. -/
theorem settled_later {src : Board} {s t : Pair} {i j : Nat} {m : PdMsg}
    (hsink : t.sink = s.sink) (hij : i < j) (hget : (sentMsgs s.sink.log)[j]? = some m)
    (hrequest : m.isData .request = true) (h : s.settled src (some i) = true) :
    t.settled src (some j) = true := by
  obtain ⟨i', m', hi, hm', hfits, hlater⟩ := settled_iff.1 h
  obtain rfl := Option.some.inj hi
  have hdrop : (sentMsgs s.sink.log).drop j = ((sentMsgs s.sink.log).drop i).drop (j - i) := by
    rw [List.drop_drop]
    congr 1
    omega
  have hmem : m ∈ (sentMsgs s.sink.log).drop i := by
    refine List.mem_of_getElem? (i := j - i) ?_
    rw [List.getElem?_drop, ← hget]
    congr 1
    omega
  have hposition := hlater m hmem hrequest
  refine settled_iff.2 ⟨j, m, rfl, by rw [hsink]; exact hget, by rw [hposition]; exact hfits, ?_⟩
  intro l hl hl'
  rw [hsink, hdrop] at hl
  rw [hposition]
  exact hlater l (List.mem_of_mem_drop hl) hl'

/-! The invariant. -/

/-- The observed pair: the source sends its own table only, the sink is in step with it
and has settled its Request whenever it is near `PD_STATE_SNK_READY`, and
`requested_idx` is the position of the Request accepted last, which is older than all
messages that the source may still hear. -/
structure Consistent (src : Board) (s : Pair × Option Nat) : Prop where
  advertises : s.1.source.Advertises src
  linked : Linked s.1.source
  client : Client src.advertised s.1.sink
  awake : s.1.sink.control.suspending = false
  rests : s.1.sink.control.Rests
  toSink : InTransit (sentMsgs s.1.source.log) 0 s.1.toSink
  toSource : ∃ low, InTransit (sentMsgs s.1.sink.log) low s.1.toSource ∧
    low ≤ (sentMsgs s.1.sink.log).length ∧ ∀ i ∈ s.2, i < low
  accepted : ∀ i ∈ s.2, ∃ m, (sentMsgs s.1.sink.log)[i]? = some m ∧
    m.isData .request = true ∧ s.1.source.pd.requestedIdx = m.position
  settled : s.1.sink.control.NearReady → s.1.settled src s.2 = true

theorem consistent_start (src : Board) : Consistent src (start, none) where
  advertises := Port.advertises_setup src
  linked := .setup
  client := .setup _
  awake := rfl
  rests := by
    change Port.setup.control.Rests
    rw [Port.control_setup]
    exact .start
  toSink := .nil _ _
  toSource := ⟨0, .nil _ _, Nat.zero_le _, by simp⟩
  accepted := by simp
  settled := by
    have haway : ¬ Port.setup.control.NearReady := by decide
    exact fun h => absurd h haway

namespace Consistent

variable {src : Board} {s : Pair × Option Nat}

/-- At rest the record of the sink is that of the PDO which the source supplies. -/
theorem agrees (h : Consistent src s) : s.1.Agrees src := by
  intro hrest
  obtain ⟨i, m, hi, hm, hfits, hlater⟩ := settled_iff.1 (h.settled (.inl hrest.sink))
  obtain ⟨m', hm', hrequest, hidx⟩ := h.accepted i hi
  obtain rfl : m = m' := Option.some.inj (hm.symm.trans hm')
  obtain ⟨r, hr, l, hl, hl', hrdo⟩ := lastRequest_mem hm hrequest
  obtain ⟨hpos, hlen, hplan⟩ := h.client.planned hr
  have hposition : rdoPos r.1 = m.position := by
    rw [← hlater l hl hl', PdMsg.position, hrdo]
  rw [hposition] at hpos hlen
  have hlt : m.position - 1 < src.advertised.length := by omega
  have hnamed : src.srcPdo[m.position - 1]? = some (namedPdo src.advertised r.1) := by
    rw [namedPdo, hposition, List.getD_eq_getElem?_getD, List.getElem?_eq_getElem hlt,
      Option.getD_some]
    unfold Board.advertised at hlt ⊢
    rw [List.getElem_take]
    exact List.getElem?_eq_getElem _
  have hpdo : src.srcPdo.getD (m.position - 1) 0 = namedPdo src.advertised r.1 := by
    rw [List.getD_eq_getElem?_getD, hnamed, Option.getD_some]
  rw [hpdo] at hfits
  rw [hidx]
  refine ⟨hpos, namedPdo src.advertised r.1, hnamed, ?_, ?_⟩
  · rw [← pdExtractPdoPower_snd, hplan]
  · have hle := pdExtractPdoPower_fst_le hfits
    rwa [hplan] at hle

/-- What the source makes of the message that it takes out of the channel. -/
theorem heard (h : Consistent src s) (e : Event) (deliver : Bool) :
    (∃ low, InTransit (sentMsgs s.1.sink.log) low
        (s.1.source.turn src e deliver s.1.toSource).inbox ∧
      low ≤ (sentMsgs s.1.sink.log).length ∧
      ∀ i ∈ noteAccepted src s.1 (.source e deliver) s.2, i < low) ∧
    (∀ i ∈ noteAccepted src s.1 (.source e deliver) s.2, ∃ m,
      (sentMsgs s.1.sink.log)[i]? = some m ∧ m.isData .request = true ∧
        (s.1.source.turn src e deliver s.1.toSource).port.pd.requestedIdx = m.position) ∧
    (s.1.sink.control.NearReady →
      s.1.settled src (noteAccepted src s.1 (.source e deliver) s.2) = true) := by
  obtain ⟨low, htransit, hlow, hold⟩ := h.toSource
  have hidx := s.1.source.requestedIdx_step src (e.heard deliver s.1.toSource)
  cases hk : e.takes deliver s.1.toSource with
  | none =>
      have hnote : noteAccepted src s.1 (.source e deliver) s.2 = s.2 := by
        simp [noteAccepted, hk]
      have hquiet : (e.heard deliver s.1.toSource).received = none := by
        cases hr : (e.heard deliver s.1.toSource).received with
        | none => rfl
        | some r =>
            obtain ⟨k, hk', -⟩ := Event.takes_of_received hr
            rw [hk] at hk'
            cases hk'
      rw [hnote, Port.inbox_of_takes_none hk]
      refine ⟨⟨low, htransit, hlow, hold⟩, fun i hi => ?_, h.settled⟩
      obtain ⟨m, hm, hrequest, hkept⟩ := h.accepted i hi
      refine ⟨m, hm, hrequest, ?_⟩
      rw [← hkept]
      rw [hquiet] at hidx
      exact hidx
  | some k =>
      obtain ⟨r, hr, hcontent⟩ := Event.received_of_takes hk
      obtain ⟨hfresh, hget, hrest⟩ := Port.inTransit_inbox htransit hk src s.1.source
      have hlen : k.serial + 1 ≤ (sentMsgs s.1.sink.log).length :=
        (List.getElem?_eq_some_iff.1 hget).1
      rw [hr] at hidx
      simp only at hidx
      by_cases haccepts : (s.1.source.dispatching r.1 r.2).accepts src r.2 = true
      · have hnote : noteAccepted src s.1 (.source e deliver) s.2 = some k.serial := by
          simp [noteAccepted, hk, hr, haccepts]
        have hrequest : k.content.isData .request = true := by
          rw [← hcontent]
          simp only [Port.accepts, Port.grants, Bool.and_eq_true] at haccepts
          exact haccepts.1.2.1.1
        rw [hnote]
        refine ⟨⟨_, hrest, hlen, fun i hi => ?_⟩, fun i hi => ?_, fun hnear => ?_⟩
        · obtain rfl := Option.some.inj hi
          exact Nat.lt_succ_self _
        · obtain rfl := Option.some.inj hi
          refine ⟨_, hget, hrequest, ?_⟩
          rw [if_pos haccepts, hcontent] at hidx
          exact hidx
        · have hsettled := h.settled hnear
          obtain ⟨i, -, hi, -⟩ := settled_iff.1 hsettled
          rw [hi] at hsettled
          exact settled_later rfl (Nat.lt_of_lt_of_le (hold i hi) hfresh) hget hrequest hsettled
      · have hnote : noteAccepted src s.1 (.source e deliver) s.2 = s.2 := by
          simp [noteAccepted, hk, hr, haccepts]
        rw [hnote]
        refine ⟨⟨_, hrest, hlen, fun i hi => ?_⟩, fun i hi => ?_, h.settled⟩
        · have := hold i hi
          omega
        · obtain ⟨m, hm, hrequest, hkept⟩ := h.accepted i hi
          refine ⟨m, hm, hrequest, ?_⟩
          rw [if_neg haccepts] at hidx
          rw [← hkept]
          exact hidx

/-- A step of the source. -/
theorem source (h : Consistent src s) (snk : Board) (e : Event) (deliver : Bool) :
    Consistent src (observed (step src snk) (noteAccepted src) s (.source e deliver)) := by
  obtain ⟨htransit, haccepted, hsettled⟩ := h.heard e deliver
  exact
    { h with
      advertises := h.advertises.step h.linked _
      linked := h.linked.step src _
      toSink := Port.inTransit_outbox h.toSink (Nat.zero_le _) src e deliver _
      toSource := htransit
      accepted := haccepted
      settled := hsettled }

/-- A step of the sink. -/
theorem sink (h : Consistent src s) (snk : Board) (e : Event) (deliver : Bool)
    (hsettles : Settles src s (.sink e deliver)) :
    Consistent src (observed (step src snk) (noteAccepted src) s (.sink e deliver)) := by
  have hgrows := s.1.sink.sentMsgs_turn snk e deliver s.1.toSink
  have hcaps : ∀ r ∈ (e.heard deliver s.1.toSink).received, r.2.isData .sourceCap = true →
      r.2.payload = src.advertised := by
    intro r hr hsource
    obtain ⟨k, hk, hcontent⟩ := Event.takes_of_received hr
    obtain ⟨-, hget, -⟩ := Port.inTransit_inbox h.toSink hk snk s.1.sink
    refine h.advertises r.2 ?_ hsource
    rw [hcontent]
    exact List.mem_of_getElem? hget
  obtain ⟨hawake, hrests⟩ := (Control.rests_invariant snk).port_step
    (e := e.heard deliver s.1.toSink) h.awake h.rests trivial
  obtain ⟨low, htransit, hlow, hold⟩ := h.toSource
  refine
    { h with
      client := h.client.step snk _ hcaps
      awake := hawake
      rests := hrests
      toSink := h.toSink.sublist (s.1.sink.sublist_inbox snk e deliver _)
      toSource := ⟨low, Port.inTransit_outbox htransit hlow snk e deliver _, ?_, hold⟩
      accepted := fun i hi => ?_
      settled := fun hnear => ?_ }
  · change low ≤ (sentMsgs (s.1.sink.turn snk e deliver s.1.toSink).port.log).length
    rw [hgrows, List.length_append]
    exact Nat.le_add_right_of_le hlow
  · obtain ⟨m, hm, hrequest⟩ := h.accepted i hi
    refine ⟨m, ?_, hrequest⟩
    change (sentMsgs (s.1.sink.turn snk e deliver s.1.toSink).port.log)[i]? = some m
    rw [hgrows, List.getElem?_append_left (List.getElem?_eq_some_iff.1 hm).1]
    exact hm
  · obtain ⟨hbefore, hquiet⟩ := Port.nearReady_step snk _ h.rests hsettles.caps hnear
    refine settled_append hgrows hquiet.newMsgs ?_
    rcases hbefore with hbefore | ⟨r, hr, hheeds⟩
    · exact h.settled hbefore
    · exact hsettles.answers r hr hheeds

theorem step (h : Consistent src s) (snk : Board) (e : PairEvent) (hsettles : Settles src s e) :
    Consistent src (observed (Pair.step src snk) (noteAccepted src) s e) := by
  cases e with
  | source e deliver => exact h.source snk e deliver
  | sink e deliver => exact h.sink snk e deliver hsettles
  | loseToSource k =>
      obtain ⟨low, htransit, hlow⟩ := h.toSource
      exact { h with toSource := ⟨low, htransit.sublist (List.eraseIdx_sublist _ k), hlow⟩ }
  | loseToSink k => exact { h with toSink := h.toSink.sublist (List.eraseIdx_sublist _ k) }

end Consistent

/-- Whatever is lost and however the two ports take turns, they agree as long as
answers find the last Request accepted. -/
theorem agrees_run (src snk : Board) (es : List PairEvent)
    (h : Along (observed (step src snk) (noteAccepted src)) (Settles src) (start, none) es) :
    (Machine.run (step src snk) start es).Agrees src := by
  have hstep : ∀ s e, Consistent src s → Settles src s e →
      Consistent src (observed (step src snk) (noteAccepted src) s e) :=
    fun _ e hs hsettles => hs.step snk e hsettles
  have hrun := Machine.run_invariant hstep (consistent_start src) h
  have hagrees := hrun.agrees
  rwa [Machine.run_observed_fst] at hagrees

/-- A battery of 10 W at 9 V. -/
def batteryNineVolts : Word := 1 <<< 30 ||| BitVec.ofNat 32 ((9000 / 50) <<< 10) ||| 40

/-- A source with 5 V at 3 A and the battery. -/
def withBattery : Board := { Board.shipped with srcPdo := [Port.fiveVolts, batteryNineVolts] }

/-- An iteration of the source at the time `now`. -/
def sourceAt (now : Nat) (deliver : Bool) : PairEvent :=
  .source (Port.iterateAt now Port.rdOnCc1 none) deliver

def sinkAt (now : Nat) (deliver : Bool) : PairEvent :=
  .sink (Port.iterateAt now Port.rpOnCc1 none) deliver

/-- The ports attach and agree on 5 V. The first Get_Source_Cap is lost. -/
def agreedFiveVolts : List PairEvent :=
  Port.attachAsSource.map (.source · false) ++ Port.attachAsSink.map (.sink · false) ++
    [.loseToSource 0, sourceAt 150000 false, sourceAt 170000 false, sourceAt 180000 false,
      sinkAt 190000 true, sourceAt 200000 true, sinkAt 210000 true, sourceAt 240000 false,
      sourceAt 250000 false, sourceAt 270000 false, sourceAt 280000 false, sinkAt 290000 true]

theorem agrees_run_agreedFiveVolts :
    (Machine.run (step withBattery .shipped) start agreedFiveVolts).AtRest ∧
      (Machine.run (step withBattery .shipped) start agreedFiveVolts).Agrees withBattery :=
  ⟨by decide +kernel, agrees_run withBattery .shipped agreedFiveVolts (by decide +kernel)⟩

/-- The sink asks for the battery and is refused, and the Get_Sink_Cap that follows is
lost. -/
def refusedBattery : List PairEvent :=
  agreedFiveVolts ++
    [.sink .button false, .sink .setNewPowerRequest false, sinkAt 300000 false,
      sourceAt 310000 true, sinkAt 320000 true, .loseToSink 0, sourceAt 330000 false,
      sourceAt 450000 false]

/-- At rest after the refusal the sink has 9 V in its record, the source 5 V. -/
theorem not_agrees_refusedBattery :
    ¬ ∀ (src snk : Board) (es : List PairEvent),
      (Machine.run (step src snk) start es).Agrees src := by
  intro h
  have hagrees := h withBattery .shipped refusedBattery
  revert hagrees
  decide +kernel

end Pair

end UsbPd
