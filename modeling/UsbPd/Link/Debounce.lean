import UsbPd.Control.Rest
import UsbPd.Frame.Step
import UsbPd.Machine.Observer

/-!
# Debouncing an attach

The two debounce states attach once the CC lines have said the same for
`PD_T_CC_DEBOUNCE`. They are entered with no CC state, so the first measurement
starts the time, and every measurement that differs from the last one starts it
again.
-/

namespace UsbPd

/-- The states that debounce an attach. -/
def attachStates : List PdState := [.snkDisconnectedDebounce, .srcDisconnectedDebounce]

/-- What an iteration in a debounce state measured, and when. -/
structure CcSample where
  state : Option CcState
  time : Nat
  deriving DecidableEq

/-- The samples, newest first, end in a stretch that says `c` throughout and began at
`start`. -/
def Stretch (c : CcState) (start : Nat) (samples : List CcSample) : Prop :=
  ∃ recent first older, samples = recent ++ first :: older ∧
    (∀ x ∈ recent ++ [first], x.state = some c) ∧ first.time = start

/-- The samples end in a stretch that says one of `states` throughout and is at least
`PD_T_CC_DEBOUNCE` long. -/
def Debounced (states : List CcState) (samples : List CcSample) : Prop :=
  ∃ c ∈ states, ∃ last recent first older, samples = last :: (recent ++ first :: older) ∧
    (∀ x ∈ last :: (recent ++ [first]), x.state = some c) ∧
    first.time + pdTCcDebounce ≤ last.time

namespace Port

/-- What the CC lines say to a port in a debounce state. -/
def classify (p : Port) (inp : Input) : Option CcState :=
  if p.pd.taskState = .snkDisconnectedDebounce then (p.tcpmGetCc inp.cc).snkCcState
  else (p.tcpmGetCc inp.cc).srcCcState

/-- The samples of the debounce state that the event runs, with the earlier ones. -/
def samplesAt (b : Board) (p : Port) (e : Event) (earlier : List CcSample) : List CcSample :=
  match e with
  | .iterate inp =>
    let q := p.beforeSwitch b inp
    if q.pd.taskState ∈ attachStates then ⟨q.classify inp, inp.time .switch⟩ :: earlier else []
  | _ => earlier

/-- The observer keeps the samples of an uninterrupted stay in a debounce state. -/
def noteSamples (b : Board) (p : Port) (e : Event) (earlier : List CcSample) : List CcSample :=
  if (p.step b e).pd.taskState ∈ attachStates then p.samplesAt b e earlier else []

/-- The port and its samples after the events `es`. -/
def sampled (b : Board) (es : List Event) : Port × List CcSample :=
  Machine.run (Machine.observed (step b) (noteSamples b)) (setup, []) es

/-- The states that an event goes through: those before and after the reset argument, the
message, the suspend request, the switch, the timeout and the detach. -/
def passes (b : Board) (p : Port) : Event → List PdState
  | .iterate inp =>
    let q := p.beforeSwitch b inp
    let r := q.runState b inp
    [p.pd.taskState, (p.applyReset inp.reset).pd.taskState,
      ((p.beforeMessage inp).receive b inp).pd.taskState, q.pd.taskState, r.pd.taskState,
      ((r.setLast q.pd.taskState).checkTimeout (inp.time .tail)).pd.taskState,
      (p.step b (.iterate inp)).pd.taskState]
  | e => [p.pd.taskState, (p.step b e).pd.taskState]

/-- The event takes the port from the state `s` to the state `t`. -/
def Moves (b : Board) (p : Port) (e : Event) (s t : PdState) : Prop := [s, t] <:+: p.passes b e

/-- While the port debounces with a CC state, the samples end in a stretch that says it,
and the debounce time runs from the start of the stretch. -/
def Debouncing (p : Port) (samples : List CcSample) : Prop :=
  p.pd.taskState ∈ attachStates → p.pd.ccState = .none ∨
    ∃ start, Stretch p.pd.ccState start samples ∧ p.pd.ccDebounce = start + pdTCcDebounce

end Port

namespace Stretch

variable {c : CcState} {start : Nat} {samples : List CcSample}

theorem single (c : CcState) (time : Nat) (older : List CcSample) :
    Stretch c time (⟨some c, time⟩ :: older) :=
  ⟨[], ⟨some c, time⟩, older, rfl, by simp, rfl⟩

theorem cons (h : Stretch c start samples) (time : Nat) :
    Stretch c start (⟨some c, time⟩ :: samples) := by
  obtain ⟨recent, first, older, rfl, hstate, hstart⟩ := h
  refine ⟨⟨some c, time⟩ :: recent, first, older, rfl, fun x hx => ?_, hstart⟩
  rcases List.mem_cons.1 hx with rfl | hx
  · rfl
  · exact hstate x hx

theorem debounced (h : Stretch c start samples) {states : List CcState} (hc : c ∈ states)
    {time : Nat} (htime : start + pdTCcDebounce ≤ time) :
    Debounced states (⟨some c, time⟩ :: samples) := by
  obtain ⟨recent, first, older, rfl, hstate, rfl⟩ := h
  refine ⟨c, hc, ⟨some c, time⟩, recent, first, older, rfl, fun x hx => ?_, htime⟩
  rcases List.mem_cons.1 hx with rfl | hx
  · rfl
  · exact hstate x hx

end Stretch

namespace Port

variable {p q : Port} {samples : List CcSample}

theorem snkCcState_mem {c : CcState} (h : p.snkCcState = some c) :
    c ∈ [CcState.dfpAttached, .debugAcc] := by
  unfold snkCcState at h
  split_ifs at h
  · obtain rfl := Option.some.inj h
    decide
  · obtain rfl := Option.some.inj h
    decide

theorem srcCcState_ne_none {c : CcState} (h : p.srcCcState = some c) : c ≠ .none := by
  unfold srcCcState at h
  split_ifs at h
  all_goals
    obtain rfl := Option.some.inj h
    decide

/-! Try.SRC is never active. -/

theorem notTrying_step (h : p.pd.flags.trySrc = false) (b : Board) (e : Event) :
    (p.step b e).pd.flags.trySrc = false := by
  have hcall : e.iterates = false → (p.step b e).pd.flags.trySrc = false := fun he =>
    ((does_call p b he).keeps .trySrc (by cases e <;> simp [Event.writes])).trans h
  cases e with
  | iterate inp =>
      have hq : (p.beforeSwitch b inp).pd.flags.trySrc = false :=
        ((p.does_beforeSwitch b inp).keeps .trySrc (by decide)).trans h
      refine (does_finish _ _ inp).keeps .trySrc (by decide) |>.trans ?_
      generalize p.beforeSwitch b inp = q at hq ⊢
      by_cases htask : q.pd.taskState = .snkDisconnected
      · change (q.runState b inp).pd.flags.trySrc = false
        simp only [runState, htask, snkDisconnected]
        split_ifs <;> simp [hq]
      · refine ((q.does_runState b inp).keeps .trySrc ?_).trans hq
        generalize q.pd.taskState = s at htask
        cases s <;> first | exact absurd rfl htask | decide
  | _ => exact hcall rfl

/-! The debounce states. -/

namespace Debouncing

variable {c : CcState} {time : Nat}

/-- A CC state that is read again is that of the stretch. -/
theorem stretch (h : p.Debouncing samples) (htask : p.pd.taskState ∈ attachStates)
    (hc : c ≠ .none) (hsame : c = p.pd.ccState) :
    ∃ start, Stretch c start samples ∧ p.pd.ccDebounce = start + pdTCcDebounce := by
  subst hsame
  exact (h htask).resolve_left hc

/-- It prolongs the stretch. -/
theorem again (h : p.Debouncing samples) (htask : p.pd.taskState ∈ attachStates)
    (hc : c ≠ .none) (hsame : c = p.pd.ccState)
    (hq : q.pd.ccState = p.pd.ccState ∧ q.pd.ccDebounce = p.pd.ccDebounce) :
    q.Debouncing (⟨some c, time⟩ :: samples) := by
  obtain ⟨start, hstretch, hstart⟩ := h.stretch htask hc hsame
  refine fun _ => .inr ⟨start, ?_, hq.2.trans hstart⟩
  rw [hq.1, ← hsame]
  exact hstretch.cons time

/-- At the end of the debounce time it has been there for that long. -/
theorem attaches (h : p.Debouncing samples) (htask : p.pd.taskState ∈ attachStates)
    (hc : c ≠ .none) (hsame : c = p.pd.ccState) {states : List CcState} (hmem : c ∈ states)
    (htime : p.pd.ccDebounce ≤ time) : Debounced states (⟨some c, time⟩ :: samples) := by
  obtain ⟨start, hstretch, hstart⟩ := h.stretch htask hc hsame
  rw [hstart] at htime
  exact hstretch.debounced hmem htime

/-- A port in another state does not debounce. -/
theorem left {s : PdState} (htask : p.pd.taskState = s) (hs : s ∉ attachStates) :
    p.Debouncing samples :=
  fun hin => absurd (htask ▸ hin) hs

end Debouncing

theorem attachSource_task (p : Port) {c : CcState} (hc : c ∈ [CcState.dfpAttached, .debugAcc]) :
    (p.attachSource c).pd.taskState = .snkDiscovery := by
  unfold attachSource
  rw [List.mem_cons, List.mem_singleton] at hc
  simp only [hc, if_true]
  simp

theorem attachSink_task (p : Port) (c : CcState) :
    (p.attachSink c).pd.taskState = .srcStartup := by
  unfold attachSink
  simp

theorem debouncing_snk (h : p.Debouncing samples) (inp : Input)
    (htask : p.pd.taskState = .snkDisconnectedDebounce) :
    (p.snkDisconnectedDebounce inp).Debouncing (⟨p.classify inp, inp.time .switch⟩ :: samples) ∧
      ((p.snkDisconnectedDebounce inp).pd.taskState = .snkDiscovery →
        Debounced [.dfpAttached, .debugAcc] (⟨p.classify inp, inp.time .switch⟩ :: samples)) := by
  have hin : p.pd.taskState ∈ attachStates := by simp [attachStates, htask]
  have hidle : p.pd.taskState ≠ .snkDiscovery := by simp [htask]
  unfold snkDisconnectedDebounce classify
  rw [if_pos htask]
  cases hcc : (p.tcpmGetCc inp.cc).snkCcState with
  | none =>
      simp only [hcc]
      exact ⟨.left (s := .snkDisconnected) (by simp) (by decide), fun hmoved => by simp at hmoved⟩
  | some c =>
      simp only [hcc]
      have hmem := snkCcState_mem hcc
      have hc : c ≠ .none := fun hnone => by simp [hnone] at hmem
      split_ifs with hnew hearly htry
      · exact ⟨fun _ => .inr ⟨inp.time .switch, .single c _ _, rfl⟩,
          fun hmoved => absurd hmoved hidle⟩
      · exact ⟨h.again hin hc (not_not.1 hnew) ⟨rfl, rfl⟩, fun hmoved => absurd hmoved hidle⟩
      · exact absurd htry.1 (by decide)
      · refine ⟨.left (attachSource_task _ hmem) (by decide), fun _ => ?_⟩
        rw [not_or] at hearly
        exact h.attaches hin hc (not_not.1 hnew) hmem (Nat.le_of_not_lt hearly.1)

theorem debouncing_src (h : p.Debouncing samples) (htry : p.pd.flags.trySrc = false) (inp : Input)
    (htask : p.pd.taskState = .srcDisconnectedDebounce) :
    (p.srcDisconnectedDebounce inp).Debouncing (⟨p.classify inp, inp.time .switch⟩ :: samples) ∧
      ((p.srcDisconnectedDebounce inp).pd.taskState = .srcStartup →
        Debounced [.ufpAttached, .debugAcc] (⟨p.classify inp, inp.time .switch⟩ :: samples)) := by
  have hin : p.pd.taskState ∈ attachStates := by simp [attachStates, htask]
  have hidle : p.pd.taskState ≠ .srcStartup := by simp [htask]
  have hinactive : (p.tcpmGetCc inp.cc).pd.flags.trySrc = false := htry
  unfold srcDisconnectedDebounce classify
  rw [if_neg (by simp [htask])]
  cases hcc : (p.tcpmGetCc inp.cc).srcCcState with
  | none =>
      simp only [hcc]
      exact ⟨.left (s := .srcDisconnected) (by simp) (by decide), fun hmoved => by simp at hmoved⟩
  | some c =>
      simp only [hcc, hinactive, Bool.false_eq_true, not_false_eq_true, true_and]
      have hc := srcCcState_ne_none hcc
      split_ifs with hnew hearly hsink
      · exact ⟨fun _ => .inr ⟨inp.time .switch, .single c _ _, rfl⟩,
          fun hmoved => absurd hmoved hidle⟩
      · exact ⟨h.again hin hc (not_not.1 hnew) ⟨rfl, rfl⟩, fun hmoved => absurd hmoved hidle⟩
      · refine ⟨.left (attachSink_task _ c) (by decide), fun _ => ?_⟩
        exact h.attaches hin hc (not_not.1 hnew) (by simpa using hsink) (Nat.le_of_not_lt hearly)
      · exact ⟨h.again hin hc (not_not.1 hnew) ⟨rfl, rfl⟩, fun hmoved => absurd hmoved hidle⟩

/-- The switch in a debounce state. -/
theorem debouncing_runState (h : p.Debouncing samples) (htry : p.pd.flags.trySrc = false)
    (b : Board) (inp : Input) (htask : p.pd.taskState ∈ attachStates) :
    (p.runState b inp).Debouncing (⟨p.classify inp, inp.time .switch⟩ :: samples) := by
  simp only [attachStates, List.mem_cons, List.not_mem_nil, or_false] at htask
  rcases htask with htask | htask
  · simp only [runState, htask]
    exact (debouncing_snk h inp htask).1
  · simp only [runState, htask]
    exact (debouncing_src h htry inp htask).1

end Port

namespace Control

variable {v w : Control}

theorem moves_attach : ∀ s, ∀ t ∈ moves s, t ∉ attachStates := by
  intro s
  cases s <;> decide

theorem untimed_of_attach : ∀ s, s ∈ attachStates → s ∈ untimedStates := by decide

theorem uncalled_of_attach : ∀ s, s ∈ attachStates → s ∉ callStates := by decide

/-- A debounce state is entered from the disconnected states only. -/
theorem Outcome.attaching (h : Outcome v w) (hv : v.task ∉ attachStates)
    (hw : w.task ∈ attachStates) : v.task = .snkDisconnected ∨ v.task = .srcDisconnected := by
  cases h with
  | seesSource htask => exact .inl htask
  | seesSink htask => exact .inr htask
  | moves hs => exact absurd hw (by simpa using moves_attach _ _ hs)
  | executesReset =>
      rcases executeHardReset_task (if v.last = .snkSwapStandby then v.setPull false else v) with
        htask | htask <;> exact absurd (htask ▸ hw) (by decide)
  | stays | arms | requests | drivesVbus | cutsVbus | becomesSink | sentReset | failsReset
  | sendsReset => exact absurd hw hv
  | _ => simp [attachStates, attachSource, attachSink] at hw

end Control

namespace Port

variable {p : Port} {samples : List CcSample}

/-- The entry into a debounce state clears the CC state. -/
theorem debouncing_entry (b : Board) (inp : Input) (htask : p.pd.taskState ∉ attachStates) :
    (p.runState b inp).Debouncing samples := by
  intro hin
  left
  have hran := p.control.runState_outcome _ (p.control_runState_mem b inp)
  rcases hran.attaching htask hin with hfrom | hfrom
  · change p.pd.taskState = _ at hfrom
    revert hin
    simp only [runState, hfrom, snkDisconnected]
    split_ifs <;> simp [attachStates, hfrom]
  · change p.pd.taskState = _ at hfrom
    revert hin
    simp only [runState, hfrom, srcDisconnected]
    split_ifs <;> simp [attachStates, hfrom]

theorem debouncing_finish (h : p.Debouncing samples) (hrests : p.control.Rests)
    (thisState : PdState) (inp : Input) : (p.finish thisState inp).Debouncing samples := by
  intro hin
  have hkeeps := (p.does_finish thisState inp).keeps .debounce (by decide)
  obtain ⟨hdebounce, hcc⟩ := Prod.mk.inj hkeeps
  rw [hdebounce, hcc]
  rcases p.task_finish thisState inp with hsame | htimer | hdetached
  · exact h (hsame ▸ hin)
  · have hplain : p.pd.timeoutState ∉ Control.untimedStates := hrests.timeoutState
    rw [htimer] at hin
    refine absurd (Control.untimed_of_attach _ hin) hplain
  · rw [hdetached] at hin
    simp [attachStates] at hin

/-! A step. -/

theorem task_beforeSwitch (hawake : p.control.suspending = false) (b : Board) (inp : Input)
    (hin : (p.beforeSwitch b inp).pd.taskState ∈ attachStates) :
    (p.beforeSwitch b inp).pd.taskState = p.pd.taskState := by
  have hreceive := (p.beforeMessage inp).control_receive_mem b inp
  rw [control_beforeMessage, ← beforeSwitch_eq hawake] at hreceive
  generalize p.beforeSwitch b inp = q at hreceive hin ⊢
  have hplain : q.control.task ∉ Control.messageStates := by
    change q.pd.taskState ∉ _
    generalize q.pd.taskState = s at hin
    revert hin
    cases s <;> decide
  have hsame := Control.eq_of_receive _ hreceive rfl hplain
  change q.control.task = p.pd.taskState
  rw [hsame]
  cases hreset : inp.reset with
  | false => rfl
  | true =>
      change q.control.task ∈ attachStates at hin
      rw [hsame, hreset] at hin
      simp [Control.applyReset, attachStates] at hin

theorem debouncing_beforeSwitch (h : p.Debouncing samples) (hawake : p.control.suspending = false)
    (b : Board) (inp : Input) : (p.beforeSwitch b inp).Debouncing samples := by
  intro hin
  have hkeeps := (p.does_beforeSwitch b inp).keeps .debounce (by decide)
  obtain ⟨hdebounce, hcc⟩ := Prod.mk.inj hkeeps
  rw [hdebounce, hcc]
  exact h (task_beforeSwitch hawake b inp hin ▸ hin)

theorem debouncing_iterate (h : p.Debouncing samples) (hawake : p.control.suspending = false)
    (hrests : p.control.Rests) (htry : p.pd.flags.trySrc = false) (b : Board) (inp : Input) :
    (p.step b (.iterate inp)).Debouncing (p.samplesAt b (.iterate inp) samples) := by
  have hbefore := debouncing_beforeSwitch h hawake b inp
  have hrests' := rests_runState (rests_beforeSwitch hrests b inp) b inp
  have htry' : (p.beforeSwitch b inp).pd.flags.trySrc = false :=
    ((p.does_beforeSwitch b inp).keeps .trySrc (by decide)).trans htry
  refine debouncing_finish ?_ hrests' _ inp
  unfold samplesAt
  simp only
  split_ifs with hin
  · exact debouncing_runState hbefore htry' b inp hin
  · exact debouncing_entry b inp hin

/-- What holds of the port and its samples between two events. -/
structure Sampled (s : Port × List CcSample) : Prop where
  awake : s.1.control.suspending = false
  rests : s.1.control.Rests
  notTrying : s.1.pd.flags.trySrc = false
  debouncing : s.1.Debouncing s.2

theorem sampled_step (b : Board) (s : Port × List CcSample) (e : Event) (h : Sampled s) :
    Sampled (Machine.observed (step b) (noteSamples b) s e) := by
  obtain ⟨p, samples⟩ := s
  obtain ⟨hawake, hrests, htry, hdebouncing⟩ := h
  refine ⟨((Control.awake_invariant b).port_step hawake hawake trivial).1,
    ((Control.rests_invariant b).port_step hawake hrests trivial).2, notTrying_step htry b e, ?_⟩
  have hcall : (∀ inp, e ≠ .iterate inp) → e.iterates = false →
      (p.step b e).Debouncing samples := by
    intro hplain he hin
    have hkeeps := (p.does_call b he).keeps .debounce (by cases e <;> simp [Event.writes])
    obtain ⟨hdebounce, hcc⟩ := Prod.mk.inj hkeeps
    rw [hdebounce, hcc]
    rcases Control.task_of_call hplain (p.control_step_mem b e) with hsame | hcalled
    · change (p.step b e).pd.taskState = p.pd.taskState at hsame
      exact hdebouncing (hsame ▸ hin)
    · exact absurd hcalled (Control.uncalled_of_attach _ hin)
  intro hin
  change (p.step b e).pd.taskState ∈ attachStates at hin
  change (p.step b e).pd.ccState = .none ∨ ∃ start, Stretch (p.step b e).pd.ccState start
    (p.noteSamples b e samples) ∧ (p.step b e).pd.ccDebounce = start + pdTCcDebounce
  rw [noteSamples, if_pos hin]
  cases e with
  | iterate inp => exact debouncing_iterate hdebouncing hawake hrests htry b inp hin
  | _ => exact hcall (by intro _ heq; cases heq) rfl hin

theorem sampled_after (b : Board) (es : List Event) : Sampled (sampled b es) :=
  Machine.run_preserves (sampled_step b)
    ⟨awake_after b [], (Control.rests_invariant b).always [], rfl,
      fun hin => absurd hin (by decide)⟩ es

/-! The states that an event goes through. -/

/-- The moves by which a port attaches. -/
def attachMoves : List (PdState × PdState) :=
  [(.snkDisconnectedDebounce, .snkDiscovery), (.srcDisconnectedDebounce, .srcStartup)]

end Port

namespace Control

variable {v w : Control}

theorem Reaction.not_attaching {kind : MsgKind} (h : Reaction v kind w)
    (hconn : v.connected = true) : (v.task, w.task) ∉ Port.attachMoves := by
  intro hmem
  simp only [Port.attachMoves, List.mem_cons, Prod.mk.injEq, List.not_mem_nil, or_false] at hmem
  rcases hmem with ⟨hfrom, hto⟩ | ⟨hfrom, hto⟩
  · have hrole : v.role = .source := by
      cases hrole : v.role with
      | source => rfl
      | sink => simp [connected, roleIfElse, hfrom, hrole] at hconn
    cases h with
    | ignored => simp [hfrom] at hto
    | tested | softAccepted | softReset | dataSwapOver =>
        simp [executeSoftReset, readyReturnState, roleIfElse, hrole] at hto
    | _ => simp_all
  · have hstart : w.task ∉ messageStates := by simp [hto, messageStates]
    rcases h.task with rfl | hmem
    · rw [hfrom] at hto
      cases hto
    · exact hstart hmem

end Control

namespace Port

variable {p : Port}

theorem task_checkTimeout (p : Port) (now : Nat) :
    (p.checkTimeout now).pd.taskState = p.pd.taskState ∨
      (p.checkTimeout now).pd.taskState = p.pd.timeoutState := by
  unfold checkTimeout
  split
  · exact .inr (by simp)
  · exact .inl rfl

/-- After the timeout the tail can only detach. -/
theorem task_detach (p : Port) (thisState : PdState) (inp : Input) :
    (p.finish thisState inp).pd.taskState =
        ((p.setLast thisState).checkTimeout (inp.time .tail)).pd.taskState ∨
      (p.finish thisState inp).pd.taskState = .srcDisconnected := by
  unfold finish
  simp only [checkSinkDetach_eq]
  generalize (p.setLast thisState).checkTimeout (inp.time .tail) = q
  split
  · exact .inl rfl
  by_cases hrole : q.pd.powerRole = .source
  · have hmem := q.control_checkSourceDetach_mem inp hrole
    rcases List.mem_cons.1 hmem with hsame | hdetached
    · exact .inl (congrArg Control.task hsame)
    · right
      have := congrArg Control.task (List.mem_singleton.1 hdetached)
      simpa using this
  · left
    rw [checkSourceDetach, if_neg hrole]

theorem infix_pair {α : Type*} {x y a b : α} {l : List α} :
    [x, y] <:+: a :: b :: l ↔ (x = a ∧ y = b) ∨ [x, y] <:+: b :: l := by
  simp [List.infix_cons_iff (a := a)]

theorem infix_single {α : Type*} {x y a : α} : ¬ [x, y] <:+: [a] := by
  simp [List.infix_cons_iff]

/-- The attached states are reached neither by a reset, a call or a detach, nor by a
timer of a debounce state. -/
theorem attachMoves_apart : ∀ m ∈ attachMoves,
    m.1 ≠ .softReset ∧ m.2 ≠ m.1 ∧
      m.2 ∉ [.softReset, .srcDisconnected, .disabled] ++ Control.callStates ∧
      Control.timers .sink m.1 = [] ∧ Control.timers .source m.1 = [] := by
  decide

/-- A port attaches in the switch only. -/
theorem switch_of_moves (hawake : p.control.suspending = false) (hrests : p.control.Rests)
    (b : Board) (e : Event) {s t : PdState} (hst : (s, t) ∈ attachMoves) (h : p.Moves b e s t) :
    ∃ inp, e = .iterate inp ∧ (p.beforeSwitch b inp).pd.taskState = s ∧
      ((p.beforeSwitch b inp).runState b inp).pd.taskState = t := by
  obtain ⟨hsoft, hne, hapart, hsink, hsource⟩ := attachMoves_apart _ hst
  simp only [List.mem_append, List.mem_cons, List.not_mem_nil, or_false, not_or] at hapart
  obtain ⟨⟨hreset, hdetached, hdisabled⟩, hcalled⟩ := hapart
  have hcall : (∀ inp, e ≠ .iterate inp) →
      ¬ [s, t] <:+: [p.pd.taskState, (p.step b e).pd.taskState] := by
    intro hplain hinfix
    obtain ⟨hs, ht⟩ := (infix_pair.1 hinfix).resolve_right infix_single
    rcases Control.task_of_call hplain (p.control_step_mem b e) with hsame | hmem
    · exact hne (ht.trans (hsame.trans hs.symm))
    · exact hcalled (ht ▸ hmem)
  cases e with
  | iterate inp =>
      refine ⟨inp, rfl, ?_⟩
      simp only [Moves, passes, infix_pair, infix_single, or_false] at h
      rcases h with ⟨hs, ht⟩ | ⟨hs, ht⟩ | ⟨hs, ht⟩ | ⟨hs, ht⟩ | ⟨hs, ht⟩ | ⟨hs, ht⟩
      · unfold applyReset at ht
        split at ht
        · exact absurd ht hreset
        · exact absurd (ht.trans hs.symm) hne
      · have hreceive := (p.beforeMessage inp).control_receive_mem b inp
        rw [control_beforeMessage] at hreceive
        have hfrom : (p.control.applyReset inp.reset).task = s := by
          rw [hs]
          exact (congrArg Control.task (p.control_applyReset inp.reset)).symm
        change t = ((p.beforeMessage inp).receive b inp).control.task at ht
        rcases Control.receive_reaction _ hreceive with hsame | ⟨_, -, hconn, hreaction⟩
        · rw [hsame, hfrom] at ht
          exact absurd ht hne
        · have hnot := hreaction.not_attaching hconn
          rw [hfrom, ← ht] at hnot
          exact absurd hst hnot
      · rw [beforeSwitch_eq hawake, ← hs] at ht
        exact absurd ht hne
      · exact ⟨hs.symm, ht.symm⟩
      · have hfits := (rests_runState (rests_beforeSwitch hrests b inp) b inp).fits
        rcases task_checkTimeout _ (inp.time .tail) with hsame | htimer
        · rw [hsame] at ht
          exact absurd (ht.trans hs.symm) hne
        · have hleads : ((p.beforeSwitch b inp).runState b inp).control.timeoutState = t :=
            (ht.trans htimer).symm
          rw [hleads, control_task, ← hs] at hfits
          rcases hfits with hoff | hresets | ⟨role, hmem⟩
          · exact absurd hoff hdisabled
          · exact absurd hresets hsoft
          · cases role with
            | sink => simp [hsink] at hmem
            | source => simp [hsource] at hmem
      · rcases task_detach ((p.beforeSwitch b inp).runState b inp) _ inp with hsame | hlost
        · exact absurd (ht.trans (hsame.trans hs.symm)) hne
        · exact absurd (ht.trans hlost) hdetached
  | _ => exact absurd h (hcall fun _ heq => by cases heq)

/-- Attach is debounced: when an event takes the port from a debounce state to the state
of an attached port, the CC lines said the same throughout the last part of its stay
in the debounce state, for at least `PD_T_CC_DEBOUNCE`. -/
theorem attach_debounced (b : Board) (es : List Event) (e : Event) :
    ((sampled b es).1.Moves b e .snkDisconnectedDebounce .snkDiscovery →
      Debounced [.dfpAttached, .debugAcc] ((sampled b es).1.samplesAt b e (sampled b es).2)) ∧
    ((sampled b es).1.Moves b e .srcDisconnectedDebounce .srcStartup →
      Debounced [.ufpAttached, .debugAcc] ((sampled b es).1.samplesAt b e (sampled b es).2)) := by
  have hsampled := sampled_after b es
  generalize sampled b es = s at hsampled ⊢
  obtain ⟨p, samples⟩ := s
  obtain ⟨hawake, hrests, htry, hdebouncing⟩ := hsampled
  refine ⟨fun hmoves => ?_, fun hmoves => ?_⟩
  · obtain ⟨inp, rfl, hfrom, hto⟩ := switch_of_moves hawake hrests b e (by decide) hmoves
    have hbefore := debouncing_beforeSwitch hdebouncing hawake b inp
    simp only [runState, hfrom] at hto
    have hattached := (debouncing_snk hbefore inp hfrom).2 hto
    simpa [samplesAt, attachStates, hfrom] using hattached
  · obtain ⟨inp, rfl, hfrom, hto⟩ := switch_of_moves hawake hrests b e (by decide) hmoves
    have hbefore := debouncing_beforeSwitch hdebouncing hawake b inp
    have htry' : (p.beforeSwitch b inp).pd.flags.trySrc = false :=
      ((p.does_beforeSwitch b inp).keeps .trySrc (by decide)).trans htry
    simp only [runState, hfrom] at hto
    have hattached := (debouncing_src hbefore htry' inp hfrom).2 hto
    simpa [samplesAt, attachStates, hfrom] using hattached

example : (after .shipped (attachAsSink.take 2)).Moves .shipped
    (iterateAt pdTCcDebounce rpOnCc1 none) .snkDisconnectedDebounce .snkDiscovery := by
  unfold Moves
  decide +kernel

end Port

end UsbPd
