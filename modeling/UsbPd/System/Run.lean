import UsbPd.Machine.Run
import UsbPd.Protocol.Iteration

/-!
# Runs of the system

The port is driven from outside by iterations of the state machine, by the
interrupt handler of the port controller, by the calls of the public interface
and by the push button of the sketch. A run is any sequence of these from the
state that `setup` leaves.
-/

namespace UsbPd

/-- What can happen to a port. -/
inductive Event where
  /-- `pd_run_state_machine(port, reset)` -/
  | iterate (inp : Input)
  /-- `fusb302_tcpc_alert`, with the interrupt bits it reads -/
  | alert (irq : Interrupts) (now : Nat)
  | softReset
  | requestPowerSwap
  | requestDataSwap
  | sendVdm (vid cmd : Word) (data : List Word)
  | setDualRole (state : DualRoleState)
  | pingEnable (enable : Bool)
  | setNewPowerRequest
  | vbusLow
  | setMaxVoltage (mv : Nat)
  /-- the push button of the sketch selects the next capability -/
  | button

namespace Interrupts

/-- `TCPC_REG_INTERRUPT_COLLISION`. -/
def collision (irq : Interrupts) : Bool := irq.interrupt.getLsbD 1

/-- `TCPC_REG_INTERRUPTA_TX_SUCCESS`. -/
def txSuccess (irq : Interrupts) : Bool := irq.interrupta.getLsbD 2

/-- `TCPC_REG_INTERRUPTA_RETRYFAIL`. -/
def retryFail (irq : Interrupts) : Bool := irq.interrupta.getLsbD 4

/-- `TCPC_REG_INTERRUPTA_HARDSENT`. -/
def hardSent (irq : Interrupts) : Bool := irq.interrupta.getLsbD 3

/-- `TCPC_REG_INTERRUPTA_HARDRESET`. -/
def hardReset (irq : Interrupts) : Bool := irq.interrupta.getLsbD 0

/-- `TCPC_REG_INTERRUPTB_GCRCSENT`. -/
def gcrcSent (irq : Interrupts) : Bool := irq.interruptb.getLsbD 0

end Interrupts

namespace Port

/-- The reports of `fusb302_tcpc_alert` to `pd_transmit_complete`, in order. -/
def completeTransmissions (p : Port) (irq : Interrupts) : Port :=
  let p := if irq.collision then p.pdTransmitComplete .failed else p
  let p := if irq.txSuccess then p.pdTransmitComplete .success else p
  let p := if irq.retryFail then p.pdTransmitComplete .failed else p
  if irq.hardSent then (p.modifyChip Fusb302.pdReset).pdTransmitComplete .success else p

/-- `fusb302_tcpc_alert`. -/
def tcpcAlert (p : Port) (irq : Interrupts) (now : Nat) : Port :=
  let p := (p.record (.alert irq)).completeTransmissions irq
  let p := if irq.hardReset then (p.modifyChip Fusb302.pdReset).pdExecuteHardReset now else p
  if irq.gcrcSent ∧ ¬ p.chip.rxEnable then p.modifyChip Fusb302.flushRxFifo else p

/-- `pd_soft_reset`. -/
def pdSoftReset (p : Port) : Port := if p.pdIsConnected then p.setState .softReset else p

/-- `pd_request_power_swap`. -/
def pdRequestPowerSwap (p : Port) : Port :=
  if p.pd.taskState = .srcReady then p.setState .srcSwapInit
  else if p.pd.taskState = .snkReady then p.setState .snkSwapInit
  else p

/-- `pd_request_data_swap`. -/
def pdRequestDataSwap (p : Port) : Port :=
  if p.pd.taskState = p.readyReturnState then p.setState .drSwap else p

/-- The button press of the sketch, less the reset it also asks for. -/
def pressButton (p : Port) : Port :=
  p.modifySt fun st => { st with
    sourceCapCurrentIndex :=
      if st.sourceCapCurrentIndex < st.sourceCapMaxIndex then st.sourceCapCurrentIndex + 1
      else 0 }

/-- One event. -/
def step (b : Board) (p : Port) : Event → Port
  | .iterate inp => p.pdRunStateMachine b inp
  | .alert irq now => p.tcpcAlert irq now
  | .softReset => p.pdSoftReset
  | .requestPowerSwap => p.pdRequestPowerSwap
  | .requestDataSwap => p.pdRequestDataSwap
  | .sendVdm vid cmd data => p.pdSendVdm vid cmd data
  | .setDualRole state => p.modifySt fun st => { st with drpState := state }
  | .pingEnable enable => p.setFlags { p.pd.flags with pingEnabled := enable }
  | .setNewPowerRequest => p.modifyPd fun pd => { pd with newPowerRequest := true }
  | .vbusLow => p.setFlags { p.pd.flags with vbusNeverLow := false }
  | .setMaxVoltage mv => p.modifySt fun st => { st with maxRequestMv := mv }
  | .button => p.pressButton

/-- `setup` of the sketch: `tcpm_init(0)` and `pd_init(0)` after power-on. -/
def setup : Port := Port.powerOn.tcpmInit.2.pdInit

/-- The port after the events `es`, first event first. -/
def after (b : Board) (es : List Event) : Port := Machine.run (step b) setup es

/-- Every step of the run `es` satisfies `C`. -/
def AllSteps (b : Board) (C : Port → Event → Prop) (es : List Event) : Prop :=
  Machine.Along (step b) C setup es

instance decidableAllSteps (b : Board) (C : Port → Event → Prop) [∀ p e, Decidable (C p e)]
    (es : List Event) : Decidable (AllSteps b C es) :=
  inferInstanceAs (Decidable (Machine.Along (step b) C setup es))

/-- One pass of the sketch's `loop` as a list of events: the button, which also
asks for a reset, an alert while the interrupt pin is low, the iteration. -/
def loop (pressed : Bool) (irq : Option Interrupts) (now : Nat) (inp : Input) : List Event :=
  (if pressed then [.button] else []) ++
    (match irq with
      | none => []
      | some irq => [.alert irq now]) ++
    [.iterate { inp with reset := pressed }]

/-! Inputs for concrete runs. -/

/-- Both CC lines open. -/
def openCc : CcReading where
  vnc1 := Fusb302.status0Comp
  rd1 := 0
  vnc2 := Fusb302.status0Comp
  rd2 := 0
  bcLvl1 := 0
  bcLvl2 := 0

/-- A partner with Rp on CC1, which a sink measures as 3.0 A. -/
def rpOnCc1 : CcReading := { openCc with bcLvl1 := 3 }

/-- A partner with Rd on CC1. -/
def rdOnCc1 : CcReading := { openCc with vnc1 := 0, rd1 := Fusb302.status0Comp }

/-- An iteration at the time `now`, with a message or none. -/
def iterateAt (now : Nat) (cc : CcReading) (message : Option PdMsg) : Event :=
  .iterate { reset := false, message := message, cc := cc, ccTail := cc, time := fun _ => now }

/-- A control message of a partner. -/
def ctrlMsg (type : CtrlMsgType) : PdMsg where
  head := pdHeader type.toNat .source .dfp 0 0 pdRev20
  payload := []
  length_payload := by cases type <;> decide

/-- A data message of a partner. -/
def dataMsg (type : DataMsgType) (objects : List Word) (h : objects.length < 8) : PdMsg where
  head := pdHeader type.toNat .source .dfp 0 objects.length pdRev20
  payload := objects
  length_payload :=
    (headerCnt_pdHeader .source .dfp _ type.toNat_lt (by decide) (by decide) h).symm

/-- One object fits the count field of a header. -/
theorem one_object_lt : 1 < 8 := by decide

/-- So do two. -/
theorem two_objects_lt : 2 < 8 := by decide

/-- The attach to a source: Rp is seen, debounced, and the port goes on to
`PD_STATE_SNK_DISCOVERY`. -/
def attachAsSink : List Event :=
  [iterateAt 0 rpOnCc1 none, iterateAt 0 rpOnCc1 none, iterateAt pdTCcDebounce rpOnCc1 none]

/-- The capability 5 V at 3 A. -/
def fiveVolts : Word := pdoFixed 5000 3000 0

/-- A sink with a contract: capabilities, Accept and PS_RDY after the attach. -/
def readyAsSink : List Event :=
  attachAsSink ++
    [iterateAt 200000 rpOnCc1 (some (dataMsg .sourceCap [fiveVolts] one_object_lt)),
      iterateAt 210000 rpOnCc1 (some (ctrlMsg .accept)),
      iterateAt 220000 rpOnCc1 (some (ctrlMsg .psRdy))]

/-- The attach to a sink: the port toggles to source, Rd is seen and debounced,
and the port goes on to `PD_STATE_SRC_STARTUP`. -/
def attachAsSource : List Event :=
  [.setDualRole .toggleOn, iterateAt pdTDrpSnk openCc none, iterateAt pdTDrpSnk rdOnCc1 none,
    iterateAt pdTDrpSnk rdOnCc1 none, iterateAt (pdTDrpSnk + pdTCcDebounce) rdOnCc1 none]

theorem after_append_singleton (b : Board) (es : List Event) (e : Event) :
    after b (es ++ [e]) = (after b es).step b e :=
  Machine.run_append_singleton (step b) setup es e

end Port

end UsbPd
