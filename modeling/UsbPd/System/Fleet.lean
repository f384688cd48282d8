import Mathlib.Data.List.FinRange
import UsbPd.Frame.Live
import UsbPd.Machine.Interleave

/-!
# Several ports

The functions of the protocol take the number of a port. What they keep in arrays is
kept for each port; the variables of `usb_pd_protocol.cpp` that are not arrays exist
once, and the wrappers of the I2C bus put the same slave address on the bus for every
port. The variables that an iteration assigns before it reads them are local to the
iterations of the model and need no place here.
-/

namespace UsbPd

/-- `fusb302_I2C_SLAVE_ADDR`. -/
def fusb302I2cSlaveAddr : Int := 0x22

/-- `struct tcpc_config_t`, as far as the bus is concerned. -/
structure TcpcConfig where
  i2cSlaveAddr : Int
  deriving DecidableEq

/-- The slave address of `tcpc_write`, `tcpc_read` and `tcpc_xfer` for a port. -/
def tcpcAddr {n : ℕ} (_config : Fin n → TcpcConfig) (_port : Fin n) : Int := fusb302I2cSlaveAddr

/-- The elements of a port in `pd`, `state`, `pd_src_caps` and `pd_src_cap_cnt`, and the
log of the port. -/
structure PortData where
  pd : PdProtocol
  state : ChipState
  srcCaps : List Word
  srcCapCnt : Nat
  log : List Call
  deriving DecidableEq

/-- What the ports share: the file-level variables and the chips on the bus. -/
structure FileData where
  cc1 : CcVoltage
  cc2 : CcVoltage
  hardResetCount : Int
  nextRoleSwap : Nat
  snkHardResetVbusOff : Bool
  typecCurr : Word
  typecCurrChange : Bool
  capsCount : Nat
  hardResetSent : Bool
  snkCapCount : Int
  drpState : DualRoleState
  maxRequestMv : Nat
  sourceCapCurrentIndex : Nat
  sourceCapMaxIndex : Nat
  bus : Int → Registers

namespace Port

/-- The port that a call for a port number works on. -/
def load (addr : Int) (own : PortData) (file : FileData) : Port where
  pd := own.pd
  st :=
    { cc1 := file.cc1
      cc2 := file.cc2
      hardResetCount := file.hardResetCount
      nextRoleSwap := file.nextRoleSwap
      snkHardResetVbusOff := file.snkHardResetVbusOff
      typecCurr := file.typecCurr
      typecCurrChange := file.typecCurrChange
      capsCount := file.capsCount
      hardResetSent := file.hardResetSent
      snkCapCount := file.snkCapCount
      drpState := file.drpState
      srcCaps := own.srcCaps
      srcCapCnt := own.srcCapCnt
      maxRequestMv := file.maxRequestMv
      sourceCapCurrentIndex := file.sourceCapCurrentIndex
      sourceCapMaxIndex := file.sourceCapMaxIndex }
  chip :=
    { regs := file.bus addr
      ccPolarity := own.state.ccPolarity
      vconnEnabled := own.state.vconnEnabled
      pullingUp := own.state.pullingUp
      rxEnable := own.state.rxEnable
      mdacVnc := own.state.mdacVnc
      mdacRd := own.state.mdacRd }
  log := own.log

/-- The elements of the port after the call. -/
def own (p : Port) : PortData where
  pd := p.pd
  state :=
    { ccPolarity := p.chip.ccPolarity
      vconnEnabled := p.chip.vconnEnabled
      pullingUp := p.chip.pullingUp
      rxEnable := p.chip.rxEnable
      mdacVnc := p.chip.mdacVnc
      mdacRd := p.chip.mdacRd }
  srcCaps := p.st.srcCaps
  srcCapCnt := p.st.srcCapCnt
  log := p.log

/-- What the ports share after the call, whose accesses went to `addr`. -/
def file (p : Port) (addr : Int) (bus : Int → Registers) : FileData where
  cc1 := p.st.cc1
  cc2 := p.st.cc2
  hardResetCount := p.st.hardResetCount
  nextRoleSwap := p.st.nextRoleSwap
  snkHardResetVbusOff := p.st.snkHardResetVbusOff
  typecCurr := p.st.typecCurr
  typecCurrChange := p.st.typecCurrChange
  capsCount := p.st.capsCount
  hardResetSent := p.st.hardResetSent
  snkCapCount := p.st.snkCapCount
  drpState := p.st.drpState
  maxRequestMv := p.st.maxRequestMv
  sourceCapCurrentIndex := p.st.sourceCapCurrentIndex
  sourceCapMaxIndex := p.st.sourceCapMaxIndex
  bus := Function.update bus addr p.chip.regs

theorem load_own_file (p : Port) (addr : Int) (bus : Int → Registers) :
    load addr p.own (p.file addr bus) = p := by
  unfold load own file
  simp only [Function.update_self]

/-- What one can tell of a port: its protocol state, its controller and its log. -/
structure Seen where
  pd : PdProtocol
  chip : Fusb302
  log : List Call
  deriving DecidableEq

def seen (p : Port) : Seen := ⟨p.pd, p.chip, p.log⟩

end Port

/-- The calls of a port's task: `pd_run_state_machine(port, .)` and `tcpc_alert(port)`. -/
inductive TaskCall where
  | run (inp : Input)
  | alert (irq : Interrupts) (now : Nat)

namespace TaskCall

def event : TaskCall → Event
  | .run inp => .iterate inp
  | .alert irq now => .alert irq now

end TaskCall

namespace Ports

open Machine

variable {n : ℕ}

/-- A call for the port `port`. -/
def call (config : Fin n → TcpcConfig) (f : Port → Port) (port : Fin n) (own : PortData)
    (file : FileData) : PortData × FileData :=
  let addr := tcpcAddr config port
  let p := f (Port.load addr own file)
  (p.own, p.file addr file.bus)

/-- A call of the task of `port`. -/
def act (b : Board) (config : Fin n → TcpcConfig) (port : Fin n) (own : PortData)
    (file : FileData) (e : TaskCall) : PortData × FileData :=
  call config (fun p => p.step b e.event) port own file

/-- All that the calls for `port` depend on. -/
def live (config : Fin n → TcpcConfig) (port : Fin n) (own : PortData) (file : FileData) : Port :=
  (Port.load (tcpcAddr config port) own file).live

def seen (config : Fin n → TcpcConfig) (port : Fin n) (own : PortData) (file : FileData) :
    Port.Seen :=
  (Port.load (tcpcAddr config port) own file).seen

theorem seen_eq (config : Fin n → TcpcConfig) :
    seen config = fun port own file => (live config port own file).seen := rfl

theorem live_enough (b : Board) (config : Fin n → TcpcConfig) :
    Fleet.Enough (act b config) (live config) := by
  intro port own own' file file' e h
  unfold live at h
  rw [Port.live_eq_iff] at h
  unfold live act call
  simp only [Port.load_own_file, Port.live_eq_iff]
  cases e with
  | run inp => exact h.pdRunStateMachine b inp
  | alert irq now => exact h.tcpcAlert irq now

/-- Before each of its steps port `j` finds all that the step depends on as its own last step
left it. -/
def LeftAlone (b : Board) (config : Fin n → TcpcConfig) (s : Fleet (Fin n) PortData FileData)
    (j : Fin n) (es : List (Fin n × TaskCall)) : Prop :=
  Along (observed (Fleet.step (act b config)) (Fleet.note (act b config) (live config) j))
    (Fleet.Undisturbed (live config) j) (s, Fleet.view (live config) j s) es

instance decidableLeftAlone (b : Board) (config : Fin n → TcpcConfig)
    (s : Fleet (Fin n) PortData FileData) (j : Fin n) (es : List (Fin n × TaskCall)) :
    Decidable (LeftAlone b config s j es) :=
  inferInstanceAs (Decidable (Along (observed (Fleet.step (act b config))
    (Fleet.note (act b config) (live config) j)) (Fleet.Undisturbed (live config) j)
    (s, Fleet.view (live config) j s) es))

/-- What one can tell of port `j` before and after each of its steps is the same with and
without the steps of port `i`, and the accesses of every step go to the address
that the configuration gives to its port. -/
structure Isolated (b : Board) (config : Fin n → TcpcConfig)
    (s : Fleet (Fin n) PortData FileData) (i j : Fin n) (es : List (Fin n × TaskCall)) : Prop where
  same : Fleet.trace (act b config) (seen config) j s (es.filter fun x => x.1 ≠ i) =
    Fleet.trace (act b config) (seen config) j s es
  addressed : ∀ x ∈ es, tcpcAddr config x.1 = (config x.1).i2cSlaveAddr

/-- A port that is left alone depends on nothing of the other ports, and only such a port. -/
theorem live_trace_alone_iff (b : Board) (config : Fin n → TcpcConfig)
    (s : Fleet (Fin n) PortData FileData) (j : Fin n) (es : List (Fin n × TaskCall)) :
    Fleet.trace (act b config) (live config) j s (es.filter fun x => x.1 = j) =
        Fleet.trace (act b config) (live config) j s es ↔
      LeftAlone b config s j es :=
  Fleet.trace_filter_eq_iff (live_enough b config) j s s es

/-- In an interleaving of `i` and `j`, the run without `i` is the run of `j`. -/
theorem filter_ne_eq {i j : Fin n} (hij : i ≠ j) {es : List (Fin n × TaskCall)}
    (hes : ∀ x ∈ es, x.1 = i ∨ x.1 = j) :
    (es.filter fun x => x.1 ≠ i) = es.filter fun x => x.1 = j := by
  refine List.filter_congr fun x hx => ?_
  rcases hes x hx with h | h
  · simp [h, hij]
  · simp [h, hij.symm]

/-- Ports interfere only through what they share: a port whose shared variables and chip
nobody else touches between its steps, at the one address that the driver
uses, does what it does alone. -/
theorem isolated_of_leftAlone (b : Board) (config : Fin n → TcpcConfig)
    (s : Fleet (Fin n) PortData FileData) {i j : Fin n} (hij : i ≠ j)
    {es : List (Fin n × TaskCall)} (hes : ∀ x ∈ es, x.1 = i ∨ x.1 = j)
    (halone : LeftAlone b config s j es)
    (haddr : ∀ x ∈ es, (config x.1).i2cSlaveAddr = fusb302I2cSlaveAddr) :
    Isolated b config s i j es where
  same := by
    have hlive := (live_trace_alone_iff b config s j es).2 halone
    rw [filter_ne_eq hij hes, seen_eq, Fleet.trace_map, Fleet.trace_map, hlive]
  addressed := fun x hx => (haddr x hx).symm

/-! Two ports with the configuration that the sketch gives to its one. -/

/-- The ports after `tcpm_init` and `pd_init` for each of them in turn. -/
def setup (config : Fin n → TcpcConfig) : Fleet (Fin n) PortData FileData :=
  (List.finRange n).foldl
    (fun s port => Fleet.step (fun i own file f => call config f i own file) s
      (port, fun p : Port => p.tcpmInit.2.pdInit))
    { own := fun _ => Port.powerOn.own
      shared := Port.powerOn.file fusb302I2cSlaveAddr fun _ => Registers.default }

/-- `{0, fusb302_I2C_SLAVE_ADDR, &fusb302_tcpm_drv}` twice. -/
def twoPorts : Fin 2 → TcpcConfig := fun _ => { i2cSlaveAddr := fusb302I2cSlaveAddr }

/-- An iteration of `port` at the time `now` without a message. -/
def runAt (port : Fin 2) (now : Nat) (cc : CcReading) : Fin 2 × TaskCall :=
  (port, .run { reset := false, message := none, cc := cc, ccTail := cc, time := fun _ => now })

/-- Port 1 attaches to a source while port 0 measures open lines, into the same `cc1` and
`cc2`. -/
def besideIdlePort : List (Fin 2 × TaskCall) :=
  [runAt 1 0 Port.rpOnCc1, runAt 0 0 Port.openCc, runAt 1 0 Port.rpOnCc1,
    runAt 0 pdTCcDebounce Port.openCc, runAt 1 pdTCcDebounce Port.rpOnCc1,
    runAt 0 pdTCcDebounce Port.openCc, runAt 1 pdTCcDebounce Port.rpOnCc1]

/-- Beside an idle port, port 1 attaches as it does alone. -/
theorem isolated_besideIdlePort :
    Isolated .shipped twoPorts (setup twoPorts) 0 1 besideIdlePort :=
  isolated_of_leftAlone .shipped twoPorts (setup twoPorts) (by decide) (by decide)
    (by decide +kernel) (by decide)

/-- Between the debounce of port 1 and its `PD_STATE_SNK_DISCOVERY`, port 0 sends the two
hard resets that `hard_reset_count` allows. -/
def besideResettingPort : List (Fin 2 × TaskCall) :=
  [runAt 1 0 Port.rpOnCc1, runAt 1 0 Port.rpOnCc1] ++
    ([0, 0, 100000, 200000, 800000, 800000, 800000, 800000, 1450000, 1450000].map fun now =>
      runAt 0 now Port.rpOnCc1) ++
    [runAt 1 1450000 Port.rpOnCc1, runAt 1 1450000 Port.rpOnCc1, runAt 1 2050000 Port.rpOnCc1]

/-- Alone, port 1 ends in `PD_STATE_HARD_RESET_SEND` when no capabilities arrive; beside a
port that has used up the hard resets it waits forever. -/
theorem not_isolated_hardResetCount :
    ¬ Isolated .shipped twoPorts (setup twoPorts) 0 1 besideResettingPort := by
  intro h
  have hstates := congrArg (List.map fun v => v.2.pd.taskState) h.same
  revert hstates
  decide +kernel

end Ports

end UsbPd
