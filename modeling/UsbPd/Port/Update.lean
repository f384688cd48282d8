import UsbPd.Port.State

/-!
# Updates of a port

Every definition of the model changes a port through the updates of this
module: a function on `pd[port]`, a function on the statics, a new log entry.
-/

namespace UsbPd

namespace Port

/-- Assignments to fields of `pd[port]`. -/
def modifyPd (p : Port) (f : PdProtocol → PdProtocol) : Port := { p with pd := f p.pd }

/-- Assignments to static variables. -/
def modifySt (p : Port) (f : Statics → Statics) : Port := { p with st := f p.st }

/-- Accesses to the port controller. -/
def modifyChip (p : Port) (f : Fusb302 → Fusb302) : Port := { p with chip := f p.chip }

/-- Add an entry to the log. -/
def record (p : Port) (c : Call) : Port := { p with log := c :: p.log }

/-- `pd[port].flags` assigned. -/
def setFlags (p : Port) (flags : PdFlags) : Port := p.modifyPd fun pd => { pd with flags := flags }

/-- `pd[port].task_state` assigned. -/
def setTask (p : Port) (state : PdState) : Port :=
  p.modifyPd fun pd => { pd with taskState := state }

/-- `pd[port].last_state` assigned. -/
def setLast (p : Port) (state : PdState) : Port :=
  p.modifyPd fun pd => { pd with lastState := state }

/-- `pd[port].power_role` assigned. -/
def setPowerRole (p : Port) (role : PowerRole) : Port :=
  p.modifyPd fun pd => { pd with powerRole := role }

section

variable (p : Port) (f : PdProtocol → PdProtocol) (g : Statics → Statics) (h : Fusb302 → Fusb302)
  (c : Call)

@[simp] theorem modifyPd_pd : (p.modifyPd f).pd = f p.pd := rfl
@[simp] theorem modifyPd_st : (p.modifyPd f).st = p.st := rfl
@[simp] theorem modifyPd_chip : (p.modifyPd f).chip = p.chip := rfl
@[simp] theorem modifyPd_log : (p.modifyPd f).log = p.log := rfl

@[simp] theorem modifySt_pd : (p.modifySt g).pd = p.pd := rfl
@[simp] theorem modifySt_st : (p.modifySt g).st = g p.st := rfl
@[simp] theorem modifySt_chip : (p.modifySt g).chip = p.chip := rfl
@[simp] theorem modifySt_log : (p.modifySt g).log = p.log := rfl

@[simp] theorem modifyChip_pd : (p.modifyChip h).pd = p.pd := rfl
@[simp] theorem modifyChip_st : (p.modifyChip h).st = p.st := rfl
@[simp] theorem modifyChip_chip : (p.modifyChip h).chip = h p.chip := rfl
@[simp] theorem modifyChip_log : (p.modifyChip h).log = p.log := rfl

@[simp] theorem record_pd : (p.record c).pd = p.pd := rfl
@[simp] theorem record_st : (p.record c).st = p.st := rfl
@[simp] theorem record_chip : (p.record c).chip = p.chip := rfl
@[simp] theorem record_log : (p.record c).log = c :: p.log := rfl

@[simp] theorem setFlags_pd (flags : PdFlags) :
    (p.setFlags flags).pd = { p.pd with flags := flags } := rfl
@[simp] theorem setFlags_st (flags : PdFlags) : (p.setFlags flags).st = p.st := rfl
@[simp] theorem setFlags_chip (flags : PdFlags) : (p.setFlags flags).chip = p.chip := rfl
@[simp] theorem setFlags_log (flags : PdFlags) : (p.setFlags flags).log = p.log := rfl

@[simp] theorem setTask_pd (s : PdState) : (p.setTask s).pd = { p.pd with taskState := s } := rfl
@[simp] theorem setTask_st (s : PdState) : (p.setTask s).st = p.st := rfl
@[simp] theorem setTask_chip (s : PdState) : (p.setTask s).chip = p.chip := rfl
@[simp] theorem setTask_log (s : PdState) : (p.setTask s).log = p.log := rfl

@[simp] theorem setLast_pd (s : PdState) : (p.setLast s).pd = { p.pd with lastState := s } := rfl
@[simp] theorem setLast_st (s : PdState) : (p.setLast s).st = p.st := rfl
@[simp] theorem setLast_chip (s : PdState) : (p.setLast s).chip = p.chip := rfl
@[simp] theorem setLast_log (s : PdState) : (p.setLast s).log = p.log := rfl

@[simp] theorem setPowerRole_pd (role : PowerRole) :
    (p.setPowerRole role).pd = { p.pd with powerRole := role } := rfl
@[simp] theorem setPowerRole_st (role : PowerRole) : (p.setPowerRole role).st = p.st := rfl
@[simp] theorem setPowerRole_chip (role : PowerRole) : (p.setPowerRole role).chip = p.chip := rfl
@[simp] theorem setPowerRole_log (role : PowerRole) : (p.setPowerRole role).log = p.log := rfl

end

end Port

end UsbPd
