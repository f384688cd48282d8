import UsbPd.Conduct.Iteration
import UsbPd.Sink.Limit

/-!
# No current while disconnected

Entering a disconnected state clears the input current limit, the two debounce states are
entered from the disconnected ones only, and a limit is set in three states of a sink. So a
port that is in one of the four states draws nothing, whatever role it has.
-/

namespace UsbPd

/-- The disconnected states and their debounce states. -/
def PdState.disconnected (s : PdState) : Bool :=
  s = .snkDisconnected ∨ s = .snkDisconnectedDebounce ∨ s = .srcDisconnected ∨
    s = .srcDisconnectedDebounce

theorem PdState.disconnected_of_draws : ∀ s : PdState, s.draws = true → s.disconnected = false := by
  intro s
  cases s <;> decide

/-- A debounce state is entered from a disconnected one. -/
theorem PdState.enters_disconnected : ∀ s t : PdState, s.enters t = true → t.disconnected = true →
    t.detached = true ∨ s.disconnected = true := by
  intro s t
  cases s <;> cases t <;> decide

/-- No timer leads to a debounce state. -/
theorem PdState.arms_disconnected : ∀ s : PdState, ∀ t ∈ s.arms, t.disconnected = true →
    t.detached = true := by
  intro s
  cases s <;> decide

theorem PdState.disconnected_of_detached : ∀ s : PdState, s.detached = true →
    s.disconnected = true := by
  intro s
  cases s <;> decide

theorem Call.silent_kind {c : Call} (h : c.silent = true) :
    c.kind ≠ .current ∧ c.kind ≠ .noCurrent := by
  cases c with
  | vbus on => cases on <;> decide
  | transmit | inputCurrentLimit | transitionVoltage | contractAgreed | powerSwapAccepted =>
      cases h
  | _ => exact ⟨nofun, nofun⟩

namespace Port

/-- The port draws nothing where it is disconnected, and no timer takes it to a debounce
state. -/
structure DrawsConnected (p : Port) : Prop where
  task : p.place.taskState.disconnected = true → lastLimit p.log = (0, 0)
  timer : p.place.timeoutState.disconnected = true → p.place.timeoutState.detached = true

theorem drawsConnected_setup : setup.DrawsConnected where
  task := by decide
  timer := by decide

variable {b : Board} {p q : Port}

theorem DrawsConnected.same (hp : p.DrawsConnected) (hplace : q.place = p.place)
    (hlog : lastLimit q.log = lastLimit p.log) : q.DrawsConnected where
  task := by
    rw [hplace, hlog]
    exact hp.task
  timer := by
    rw [hplace]
    exact hp.timer

/-- A limit of zero is right everywhere. -/
theorem drawsConnected_zero (hlog : lastLimit q.log = (0, 0))
    (htimer : q.place.timeoutState.disconnected = true → q.place.timeoutState.detached = true) :
    q.DrawsConnected where
  task := fun _ => hlog
  timer := htimer

/-- A new state without a timer. -/
theorem drawsConnected_enter {s : PdState} (hplace : q.place = ⟨s, .disabled⟩)
    (htask : s.disconnected = true → lastLimit q.log = (0, 0)) : q.DrawsConnected where
  task := by
    rw [hplace]
    exact htask
  timer := by
    rw [hplace]
    intro h
    cases h

theorem drawsConnected_action (h : Action b p q) (hp : p.DrawsConnected) : q.DrawsConnected := by
  cases h with
  | assign h => exact hp.same (congrArg Prod.snd h) (congrArg (lastLimit ∘ Vital.log ∘ Prod.fst) h)
  | enter hs hdetached h =>
      refine drawsConnected_enter (congrArg Prod.snd h) fun hd => ?_
      have hlog : lastLimit q.log = lastLimit p.log :=
        congrArg (lastLimit ∘ Vital.log ∘ Prod.fst) h
      rw [hlog]
      rcases hs with rfl | henters
      · exact hp.task (PdState.disconnected_of_detached _ (hdetached (hp.timer hd)))
      · rcases PdState.enters_disconnected _ _ henters hd with hdet | hbefore
        · exact hp.task (PdState.disconnected_of_detached _ (hdetached hdet))
        · exact hp.task hbefore
  | disconnect hs => exact drawsConnected_zero (lastLimit_noCurrent rfl _) fun h => by cases h
  | noCurrent => exact drawsConnected_zero (lastLimit_noCurrent rfl _) hp.timer
  | interrupt => exact ⟨fun h => (by cases h), hp.timer⟩
  | arm hs hbacked => exact ⟨hp.task, PdState.arms_disconnected _ _ hs⟩
  | conclude hs h =>
      refine drawsConnected_enter (congrArg Prod.snd h) fun hd => ?_
      generalize p.pd.taskState = s at hs
      cases hs <;> cases hd
  | transition hs h =>
      have hplace : q.place = ⟨.srcPowered, .srcTransition⟩ := congrArg Prod.snd h
      refine ⟨fun hd => ?_, fun hd => ?_⟩
      · rw [hplace] at hd
        cases hd
      · rw [hplace] at hd
        cases hd
  | limit hdraw hs =>
      refine ⟨fun hd => ?_, hp.timer⟩
      exact absurd ((PdState.disconnected_of_draws _ hs).symm.trans hd) (by decide)
  | call hc => exact hp.same rfl (by rw [lastLimit, record_log, currentLimits_cons
      (Call.silent_kind hc), lastLimit])
  | rxEnable enable =>
      unfold tcpmSetRxEnable
      simp only
      split_ifs
      · exact hp.same rfl rfl
      · exact hp.same rfl rfl
  | send data htype hcrc hpsRdy hdata => exact hp.same rfl rfl
  | sendVdm => exact hp.same rfl rfl
  | signal htype => exact hp.same rfl rfl
  | _ => exact hp.same rfl rfl

/-- Whatever happened before, a disconnected port has cleared the input current limit and set
none since. -/
theorem lastLimit_disconnected (b : Board) (es : List Event)
    (h : (after b es).pd.taskState.disconnected = true) : lastLimit (after b es).log = (0, 0) :=
  (after_kept drawsConnected_setup (fun _ _ => drawsConnected_action) es).task h

/-- A sink with a contract that is told to send a test pattern. -/
theorem lastLimit_disconnected_bist :
    let es := readyAsSink ++ [iterateAt 230000 rpOnCc1
      (some (dataMsg .bist [0x50000000] one_object_lt))]
    (after .shipped es).pd.taskState.disconnected = true ∧
      lastLimit (after .shipped readyAsSink).log = (3000, 5000) ∧
      lastLimit (after .shipped es).log = (0, 0) := by
  have hstate : (after .shipped (readyAsSink ++ [iterateAt 230000 rpOnCc1
      (some (dataMsg .bist [0x50000000] one_object_lt))])).pd.taskState.disconnected = true := by
    decide +kernel
  exact ⟨hstate, by decide +kernel, lastLimit_disconnected .shipped _ hstate⟩

end Port

end UsbPd
