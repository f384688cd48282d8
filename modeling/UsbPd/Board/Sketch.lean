import Mathlib.Data.Nat.Bits
import UsbPd.Board.Clock
import UsbPd.Frame.Step

/-!
# The sketch

The program of the board: `setup`, and `loop` over and over. A pass of `loop` looks at the
push button, calls `tcpc_alert` while the interrupt pin is low, and runs the state machine. A
press is a pass that finds the button down and the pass before, less than 100 ms earlier,
found it up.
-/

namespace UsbPd

/-- The variables of the sketch; a pin is `true` while it is high, as the one of the button is
unless it is pressed. -/
structure Sketch where
  port : Port
  debugLedCurrentState : Bool
  pushbuttonLastState : Bool
  pushbuttonLastTime : Int

/-- What a pass of `loop` finds. -/
structure Pass where
  /-- `digitalRead(pushbutton_pin)` -/
  pushbutton : Bool
  /-- the timer, in microseconds, when `millis` is called -/
  timer : Nat
  /-- the interrupts, while the interrupt pin is low -/
  irq : Option Interrupts
  now : Nat
  inp : Input

namespace Sketch

/-- `setup`. -/
def setup : Sketch where
  port := .setup
  debugLedCurrentState := false
  pushbuttonLastState := true
  pushbuttonLastTime := 0

/-- `(int) millis()`. -/
def time (u : Nat) : Int := toInt32 (millis u)

/-- The condition on the button; the difference is one of `int`s. -/
def pressed (s : Sketch) (pass : Pass) : Bool :=
  !pass.pushbutton && s.pushbuttonLastState &&
    decide (toInt32 (time pass.timer - s.pushbuttonLastTime) < 100)

/-- `loop`. -/
def loop (b : Board) (s : Sketch) (pass : Pass) : Sketch where
  port := Machine.run (Port.step b) s.port
    (Port.loop (s.pressed pass) pass.irq pass.now pass.inp)
  debugLedCurrentState := s.debugLedCurrentState ^^ s.pressed pass
  pushbuttonLastState := pass.pushbutton
  pushbuttonLastTime := time pass.timer

/-- The sketch after the passes, from `setup`. -/
def after (b : Board) (passes : List Pass) : Sketch := Machine.run (loop b) setup passes

end Sketch

/-- How often the level falls, from `last` on. -/
def falls : Bool → List Bool → Nat
  | _, [] => 0
  | last, level :: levels => (last && !level).toNat + falls level levels

/-- What the passes are for the port: a press where the level of the button falls. -/
def edgeEvents : Bool → List Pass → List Event
  | _, [] => []
  | last, pass :: passes =>
      Port.loop (last && !pass.pushbutton) pass.irq pass.now pass.inp ++
        edgeEvents pass.pushbutton passes

/-- Each pass reads the timer at most 99 ms after the one before. -/
def Prompt : Nat → List Pass → Prop
  | _, [] => True
  | u, pass :: passes => (u ≤ pass.timer ∧ pass.timer ≤ u + 99000) ∧ Prompt pass.timer passes

namespace Sketch

variable {b : Board} {s : Sketch}

/-- The wraps of the counter and of the difference cancel. -/
theorem toInt32_time_sub (u v : Nat) :
    toInt32 (time v - time u) = toInt32 ((v / 1000 : Nat) - (u / 1000 : Nat)) := by
  unfold time millis toInt32
  rw [Int.bmod_sub_bmod, Int.sub_bmod_bmod, Int.natCast_mod, Int.natCast_mod]
  exact (Int.emod_sub_bmod ..).trans (Int.sub_emod_bmod ..)

/-- Passes that follow each other promptly are less than 100 ms apart for the sketch. -/
theorem time_sub_lt {u v : Nat} (hle : u ≤ v) (hsoon : v ≤ u + 99000) :
    toInt32 (time v - time u) < 100 := by
  have hdiff : (0 : Int) ≤ (v / 1000 : Nat) - (u / 1000 : Nat) ∧
      ((v / 1000 : Nat) - (u / 1000 : Nat) : Int) < 100 := by omega
  have hsmall : toInt32 ((v / 1000 : Nat) - (u / 1000 : Nat)) =
      (v / 1000 : Nat) - (u / 1000 : Nat) := Int.bmod_eq_of_le (by omega) (by omega)
  rw [toInt32_time_sub, hsmall]
  exact hdiff.2

/-- The delays of `setup` keep the first pass from seeing a press. -/
theorem pressed_setup {pass : Pass} (hdelay : 150000 ≤ pass.timer)
    (hday : pass.timer < 2 ^ 31 * 1000) : setup.pressed pass = false := by
  have hmillis : millis pass.timer = pass.timer / 1000 := by
    unfold millis
    omega
  have htime : time pass.timer = (pass.timer / 1000 : Nat) := by
    rw [time, hmillis]
    exact Int.bmod_eq_of_le (by omega) (by omega)
  have hsame : toInt32 (time pass.timer - 0) = time pass.timer := by
    rw [Int.sub_zero, htime]
    exact Int.bmod_eq_of_le (by omega) (by omega)
  have hfar : ¬ toInt32 (time pass.timer - 0) < 100 := by
    rw [hsame, htime]
    omega
  unfold pressed setup
  rw [decide_eq_false hfar, Bool.and_false]

/-- A pass that follows promptly sees a press where the level falls. -/
theorem pressed_prompt {u : Nat} (htime : s.pushbuttonLastTime = time u) {pass : Pass}
    (hprompt : u ≤ pass.timer ∧ pass.timer ≤ u + 99000) :
    s.pressed pass = (s.pushbuttonLastState && !pass.pushbutton) := by
  unfold pressed
  rw [htime, decide_eq_true (time_sub_lt hprompt.1 hprompt.2), Bool.and_true, Bool.and_comm]

/-- The passes of a prompt run. -/
theorem run_prompt (b : Board) {s : Sketch} {u : Nat} (htime : s.pushbuttonLastTime = time u)
    {passes : List Pass} (hprompt : Prompt u passes) :
    (Machine.run (loop b) s passes).port =
        Machine.run (Port.step b) s.port (edgeEvents s.pushbuttonLastState passes) ∧
      (Machine.run (loop b) s passes).debugLedCurrentState = (s.debugLedCurrentState ^^
        (falls s.pushbuttonLastState (passes.map Pass.pushbutton)).bodd) := by
  induction passes generalizing s u with
  | nil => exact ⟨rfl, by simp [falls]⟩
  | cons pass passes ih =>
      obtain ⟨hfirst, hrest⟩ := hprompt
      have hpressed := pressed_prompt htime hfirst
      have hnext : (s.loop b pass).pushbuttonLastTime = time pass.timer := by rw [loop]
      obtain ⟨hport, hled⟩ := ih hnext hrest
      refine ⟨?_, ?_⟩
      · rw [Machine.run_cons, hport, edgeEvents, Machine.run_append, ← hpressed]
        rfl
      · rw [Machine.run_cons, hled, List.map_cons, falls, Nat.bodd_add]
        unfold loop
        rw [hpressed]
        cases s.debugLedCurrentState <;> cases s.pushbuttonLastState && !pass.pushbutton <;> simp

/-- A run of the sketch is a run of the port in which the button is pressed at the falling edges
of its level, and the LED shows whether their number is odd. -/
theorem after_edges (b : Board) {first : Pass} {passes : List Pass}
    (hdelay : 150000 ≤ first.timer) (hday : first.timer < 2 ^ 31 * 1000)
    (hprompt : Prompt first.timer passes) :
    (after b (first :: passes)).port = Port.after b
        (Port.loop false first.irq first.now first.inp ++ edgeEvents first.pushbutton passes) ∧
      (after b (first :: passes)).debugLedCurrentState =
        (falls first.pushbutton (passes.map Pass.pushbutton)).bodd := by
  have hquiet := pressed_setup hdelay hday
  have hfirst : (setup.loop b first).pushbuttonLastTime = time first.timer := by rw [loop]
  obtain ⟨hport, hled⟩ := run_prompt b hfirst hprompt
  unfold after
  refine ⟨?_, ?_⟩
  · rw [Machine.run_cons, hport, Port.after, Machine.run_append, ← hquiet]
    rfl
  · rw [Machine.run_cons, hled]
    unfold loop
    rw [hquiet]
    exact Bool.false_xor _

/-- A pass that finds the cable open, with the button up or down. -/
def openPass (pushbutton : Bool) (timer : Nat) : Pass where
  pushbutton := pushbutton
  timer := timer
  irq := none
  now := timer
  inp :=
    { reset := false, message := none, cc := Port.openCc, ccTail := Port.openCc,
      time := fun _ => timer }

/-- Two presses, the second one held. -/
theorem after_edges_twice :
    (after .shipped (openPass true 200000 :: [openPass false 204000, openPass true 208000,
      openPass false 212000, openPass false 216000])).debugLedCurrentState =
        (falls true [false, true, false, false]).bodd :=
  have hprompt : Prompt 200000 [openPass false 204000, openPass true 208000,
      openPass false 212000, openPass false 216000] := by
    simp [Prompt, openPass]
  (after_edges .shipped (by decide) (by decide) hprompt).2

end Sketch

/-! The capability that the button selects. -/

/-- No capabilities arrive. -/
def Input.noCaps (inp : Input) : Prop := ∀ m ∈ inp.message, m.isData .sourceCap = false

/-- Only capabilities change their number. -/
theorem PdMsg.maxIndex_notMem_writes {m : PdMsg} (h : m.isData .sourceCap = false) :
    .maxIndex ∉ m.writes := by
  unfold writes
  split_ifs with hcnt
  · cases htype : DataMsgType.ofField (headerType m.head) with
    | none => exact List.not_mem_nil
    | some type =>
        cases type with
        | sourceCap =>
            have hcaps : m.isData .sourceCap = true := decide_eq_true ⟨hcnt, htype⟩
            rw [h] at hcaps
            cases hcaps
        | _ => decide
  · cases CtrlMsgType.ofField (headerType m.head) with
    | none => exact List.not_mem_nil
    | some type => cases type <;> decide

theorem selection_notMem_stateWrites (s : PdState) :
    .index ∉ stateWrites s ∧ .maxIndex ∉ stateWrites s := by
  cases s <;> decide

namespace Port

/-- The index selected, and the largest one. -/
def indices (p : Port) : Nat × Nat := (p.st.sourceCapCurrentIndex, p.st.sourceCapMaxIndex)

variable {p q : Port}

theorem indices_of_does {W : List Part} {K : List CallKind} (h : Does W K p q)
    (hW : .index ∉ W ∧ .maxIndex ∉ W) : q.indices = p.indices :=
  Prod.ext (h.keeps .index hW.1) (h.keeps .maxIndex hW.2)

theorem indices_iterate (b : Board) (p : Port) {inp : Input} (h : inp.noCaps) :
    (p.pdRunStateMachine b inp).indices = p.indices := by
  have hreceive : ((p.beforeMessage inp).receive b inp).indices =
      (p.beforeMessage inp).indices := by
    unfold receive
    cases hm : inp.message with
    | none => rfl
    | some m =>
        have hdoes := does_handleRequest ((p.beforeMessage inp).record (.received m)) b
          (inp.time .message) m
        have hindex : .index ∉ m.writes := fun hmem => absurd (m.writes_subset hmem) (by decide)
        exact indices_of_does (p := (p.beforeMessage inp).record (.received m)) hdoes
          ⟨hindex, PdMsg.maxIndex_notMem_writes (h m hm)⟩
  have hswitch : (p.beforeSwitch b inp).indices = p.indices := by
    unfold beforeSwitch
    rw [indices_of_does (does_applySuspend _) (by decide), hreceive,
      indices_of_does (p.does_beforeMessage inp) (by decide)]
  unfold pdRunStateMachine
  simp only
  rw [indices_of_does (does_finish _ _ inp) (by decide),
    indices_of_does (does_runState _ b inp) (selection_notMem_stateWrites _), hswitch]

/-- A pass without capabilities moves the index by one press or not at all. -/
theorem indices_loop (b : Board) (p : Port) (pressed : Bool) (irq : Option Interrupts) (now : Nat)
    {inp : Input} (h : inp.noCaps) :
    (Machine.run (step b) p (loop pressed irq now inp)).indices =
      if pressed then p.pressButton.indices else p.indices := by
  have hiterate : ∀ q : Port, (q.step b (.iterate { inp with reset := pressed })).indices =
      q.indices := fun q => indices_iterate b q h
  have halert : ∀ (q : Port) (i : Interrupts), (q.step b (.alert i now)).indices = q.indices :=
    fun q i => indices_of_does (q.does_call b (e := .alert i now) rfl) (by simp [Event.writes])
  have hpress : p.step b .button = p.pressButton := rfl
  unfold loop
  cases pressed <;> cases irq <;> simp [hiterate, halert, hpress]

/-- The button steps through the indices in a cycle. -/
theorem indices_pressButton {i n : Nat} (h : p.indices = (i, n)) (hle : i ≤ n) :
    p.pressButton.indices = ((i + 1) % (n + 1), n) := by
  obtain ⟨rfl, rfl⟩ := Prod.mk.inj h
  refine Prod.ext ?_ rfl
  change (if p.st.sourceCapCurrentIndex < p.st.sourceCapMaxIndex then
    p.st.sourceCapCurrentIndex + 1 else 0) = _
  split_ifs with hlt
  · rw [Nat.mod_eq_of_lt (Nat.succ_lt_succ hlt)]
  · rw [Nat.le_antisymm hle (Nat.le_of_not_lt hlt), Nat.mod_self]

end Port

namespace Sketch

/-- While no capabilities arrive, the button steps through the known ones in a cycle. -/
theorem run_selects (b : Board) {s : Sketch} {u : Nat} (htime : s.pushbuttonLastTime = time u)
    {passes : List Pass} (hprompt : Prompt u passes) (hcaps : ∀ pass ∈ passes, pass.inp.noCaps)
    {i n : Nat} (hindices : s.port.indices = (i, n)) (hle : i ≤ n) :
    (Machine.run (loop b) s passes).port.indices =
      ((i + falls s.pushbuttonLastState (passes.map Pass.pushbutton)) % (n + 1), n) := by
  induction passes generalizing s u i with
  | nil => simp [falls, hindices, Nat.mod_eq_of_lt (Nat.lt_succ_of_le hle)]
  | cons pass passes ih =>
      obtain ⟨hfirst, hrest⟩ := hprompt
      have hpressed := pressed_prompt htime hfirst
      have hnext : (s.loop b pass).pushbuttonLastTime = time pass.timer := by rw [loop]
      have hpass := Port.indices_loop b s.port (s.pressed pass) pass.irq pass.now
        (hcaps pass (List.mem_cons_self ..))
      have hrestcaps := fun pass' hmem => hcaps pass' (List.mem_cons_of_mem pass hmem)
      rw [Machine.run_cons, List.map_cons, falls, ← hpressed]
      cases hp : s.pressed pass with
      | false =>
          rw [hp] at hpass
          have hsame : (s.loop b pass).port.indices = (i, n) := by
            rw [loop, hp]
            exact hpass.trans hindices
          rw [ih hnext hrest hrestcaps hsame hle]
          simp [loop]
      | true =>
          rw [hp] at hpass
          have hmoved : (s.loop b pass).port.indices = ((i + 1) % (n + 1), n) := by
            rw [loop, hp]
            exact hpass.trans (Port.indices_pressButton hindices hle)
          have hmod : (i + 1) % (n + 1) ≤ n := Nat.le_of_lt_succ (Nat.mod_lt _ (Nat.succ_pos n))
          rw [ih hnext hrest hrestcaps hmoved hmod, Nat.mod_add_mod, Nat.add_assoc]
          rfl

/-- A sink that knows two capabilities and has selected the first. -/
def twoOffers : Sketch where
  port := Port.after .shipped (Port.attachAsSink ++ [Port.iterateAt 200000 Port.rpOnCc1 (some
    (Port.dataMsg .sourceCap [Port.fiveVolts, pdoFixed 9000 2000 0] Port.two_objects_lt))])
  debugLedCurrentState := false
  pushbuttonLastState := true
  pushbuttonLastTime := time 200000

/-- Two presses return to the first capability. -/
theorem run_selects_twoOffers :
    (Machine.run (loop .shipped) twoOffers [openPass false 204000, openPass true 208000,
      openPass false 212000, openPass true 216000]).port.indices = (0, 1) := by
  have hoffers : twoOffers.port.indices = (0, 1) := by decide +kernel
  have hnone : ∀ down timer, (openPass down timer).inp.noCaps := by
    intro down timer m hm
    cases hm
  have hprompt : Prompt 200000 [openPass false 204000, openPass true 208000,
      openPass false 212000, openPass true 216000] := by
    simp [Prompt, openPass]
  have htime : twoOffers.pushbuttonLastTime = time 200000 := by rw [twoOffers]
  refine run_selects .shipped htime hprompt (fun pass hmem => ?_) hoffers (by decide)
  simp only [List.mem_cons, List.not_mem_nil, or_false] at hmem
  rcases hmem with rfl | rfl | rfl | rfl <;> exact hnone _ _

end Sketch

end UsbPd
