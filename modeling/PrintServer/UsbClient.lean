import PrintServer.Backend
import PrintServer.UsbEnumeration
import PrintServer.Lib.Runs
/-!
# The USB client task (usb_host_manager.cpp:392-429, 441-600, 787-811)

`g` says what is open, `state_` and `device_` say what the rest of the firmware sees. The client
task writes both, in different places; `begin()` writes `state_` once more after it has created that
task. One step is a statement of `begin()`, a stage of the client task up to the next call whose
answer it needs, or a flag set by another task.

| here | there |
| --- | --- |
| `ClientPc.fill` … `report`  | `scanExisting` (:401) and the enumeration of a new device (:534-545) |
| `ClientPc.events`           | `usb_host_client_handle_events`: its callbacks, then its result |
| `ClientPc.gone` … `newDevice` | the rest of the loop body (:513-546) |
| `BeginPc`                   | `begin` (:563) |

`statusOut` counts the GET_PORT_STATUS transfers that the driver has; `g.statusTransfer` forgets one
when its device is closed.
-/
namespace PrintServer

/-- Who enumerates, and goes on afterwards. -/
inductive ScanFrom where
  | start | recovery | retry | newDevice
deriving DecidableEq, Repr

inductive ClientPc where
  /-- The task is not created. -/
  | absent
  | register
  | fill (back : ScanFrom)
  | scan (rest : List UInt8) (back : ScanFrom)
  | enumerate (address : UInt8) (rest : List UInt8) (back : ScanFrom)
  | publish (d : UsbDeviceInfo) (back : ScanFrom)
  | report (error : String) (rest : List UInt8) (back : ScanFrom)
  /-- The iteration boundary. -/
  | events
  | gone
  | reset
  | rescan
  | status
  | newDevice
  /-- The task has deleted itself. -/
  | ended
deriving DecidableEq, Repr

inductive BeginPc where
  | start | installed | hostTask | clientTask | running
  | returned (result : Bool)
deriving DecidableEq, Repr

/-- The client task is not created yet. -/
def BeginPc.before : BeginPc → Bool
  | start | installed | hostTask => true
  | _ => false

structure UsbClient where
  g : UsbRuntime := {}
  host : UsbHostManager := {}
  client : ClientPc := .absent
  begun : BeginPc := .start
  statusOut : Nat := 0

inductive ClientAct where
  /-- `usb_host_install`. -/
  | install (answer : Except String Unit)
  | createHostTask (ok : Bool)
  | createClientTask (ok : Bool)
  /-- `state_ = RUNNING` (:596). -/
  | stateRunning
  | clearError
  /-- The Bulk OUT pipeline gives up. -/
  | requestReset
  /-- `UsbHostManager::poll`. -/
  | requestStatus
  | registered (answer : Except String Unit)
  | addresses (answer : Option (List UInt8))
  /-- A stage without an answer. -/
  | next (now : Nat)
  | enumerated (answers : EnumerationAnswers)
  | newDev (address : UInt8)
  | devGone (device : Nat)
  | statusCallback (now : Nat) (valid : Bool) (value : UInt8) (error : String)
  /-- `usb_host_client_handle_events` returns; an error other than a timeout is given by its text. -/
  | handled (error : Option String)
  | submitStatus (now : Nat) (answer : Except String Unit)

namespace UsbClient

/-- What follows `scanExisting`. -/
def resume (s : UsbClient) (now : Nat) : ScanFrom → UsbClient
  | .start | .newDevice => { s with client := .events }
  | .recovery => { s with
      g := { s.g with rescanAtMs := millis (now + 2000), rescanAttempts := 15 }, client := .rescan }
  | .retry => { s with client := .status }

/-- `publish` (:392). -/
def publish (s : UsbClient) (d : UsbDeviceInfo) : UsbClient :=
  { s with g := { s.g with rescanAttempts := 0 }, host := s.host.onEnumerated d }

/-- The stages that need no answer. -/
def nextStep (s : UsbClient) (now : Nat) : Option UsbClient :=
  match s.client with
  | .scan [] back => some (s.resume now back)
  | .scan (address :: rest) back =>
    if s.g.deviceOpen then some (s.resume now back)
    else some { s with host := s.host.onEnumerationStarted, client := .enumerate address rest back }
  | .publish d back => some ((s.publish d).resume now back)
  | .report error rest back => some { s with host := s.host.onEnumerationError error, client := .scan rest back }
  | .gone =>
    if s.g.deviceGone then
      some { s with
        g := { s.g with deviceGone := false }.closeDevice, host := s.host.onDetached, client := .reset }
    else some { s with client := .reset }
  | .reset =>
    if s.g.resetRequested then
      some { s with
        g := { s.g with resetRequested := false }.closeDevice, host := s.host.onDetached, client := .fill .recovery }
    else some { s with client := .rescan }
  | .rescan =>
    if !s.g.deviceOpen && s.g.rescanAttempts != 0 && sub32 (millis now) s.g.rescanAtMs < 2 ^ 31 then
      some { s with
        g := { s.g with rescanAtMs := millis (now + 2000), rescanAttempts := s.g.rescanAttempts - 1 },
        client := .fill .retry }
    else some { s with client := .status }
  | .newDevice =>
    if s.g.newDevice && !s.g.deviceOpen then
      some { s with
        g := { s.g with newDevice := false }, host := s.host.onEnumerationStarted,
        client := .enumerate s.g.newAddress [] .newDevice }
    else some { s with client := .events }
  | _ => none

/-- `submitPortStatusIfPending` (:453). -/
def submitStatus (s : UsbClient) (now : Nat) (answer : Except String Unit) : UsbClient :=
  if !s.g.statusPending || s.g.statusTransfer || !s.g.deviceOpen then s
  else if !s.host.device.attached || !s.host.device.statusInterface.found then s
  else match answer with
    | .error e => { s with
        g := { s.g with statusPending := false }, host := s.host.onPortStatusTransfer now false 0 e }
    | .ok _ => { s with g := { s.g with statusPending := false, statusTransfer := true }, statusOut := s.statusOut + 1 }

/-- A guard of the step: where `begin` or the client task stands. -/
def atPc (now : Bool) (s : UsbClient) : Option UsbClient := if now then some s else none

def step (s : UsbClient) : ClientAct → Option UsbClient
  | .install answer => atPc (s.begun = .start) <| match answer with
    | .error e => { s with
        host := { s.host with started := true, state := .error, error := "usb_host_install failed: " ++ e },
        begun := .returned false }
    | .ok _ => { s with host := { s.host with started := true }, begun := .installed }
  | .createHostTask ok => atPc (s.begun = .installed) <|
    if ok then { s with begun := .hostTask }
    else { s with
      host := { s.host with state := .error, error := "Failed to create USB host library task" },
      begun := .returned false }
  | .createClientTask ok => atPc (s.begun = .hostTask) <|
    if ok then { s with begun := .clientTask, client := .register }
    else { s with
      host := { s.host with state := .error, error := "Failed to create USB printer client task" },
      begun := .returned false }
  | .stateRunning => atPc (s.begun = .clientTask) { s with host := { s.host with state := .running }, begun := .running }
  | .clearError => atPc (s.begun = .running) { s with host := { s.host with error := "" }, begun := .returned true }
  | .requestReset => some { s with g := { s.g with resetRequested := true } }
  | .requestStatus =>
    some (if s.host.state = .printerReady ∧ s.host.device.attached = true ∧ s.host.device.statusInterface.found = true then
      { s with g := { s.g with statusPending := true } } else s)
  | .registered answer => atPc (s.client = .register) <| match answer with
    | .error e => { s with
        host := s.host.onEnumerationError ("usb_host_client_register failed: " ++ e), client := .ended }
    | .ok _ => { s with client := .fill .start }
  | .addresses answer => match s.client with
    | .fill back => some { s with client := .scan (answer.getD []) back }
    | _ => none
  | .next now => s.nextStep now
  | .enumerated answers => match s.client with
    | .enumerate address rest back =>
      let (g, result) := enumerateDevice s.g address answers
      match result with
      | .ok d => some { s with g, client := .publish d back }
      | .error e => some { s with g, client := .report e rest back }
    | _ => none
  -- `clientEvent` (:417)
  | .newDev address => atPc (s.client = .events) <|
    if !s.g.deviceOpen && !s.g.newDevice then { s with g := { s.g with newAddress := address, newDevice := true } } else s
  | .devGone device => atPc (s.client = .events) <|
    if s.g.deviceOpen && s.g.device == some device then { s with g := { s.g with deviceGone := true } } else s
  -- `statusTransferCallback` (:441)
  | .statusCallback now valid value error => atPc (s.client = .events && s.statusOut != 0)
    { s with
      g := { s.g with statusTransfer := false }, host := s.host.onPortStatusTransfer now valid value error,
      statusOut := s.statusOut - 1 }
  | .handled error => atPc (s.client = .events) <| match error with
    | some e => { s with
        host := s.host.onEnumerationError ("USB client event handling failed: " ++ e), client := .gone }
    | none => { s with client := .gone }
  | .submitStatus now answer => atPc (s.client = .status) { s.submitStatus now answer with client := .newDevice }

/-! ## What is seen of the device -/

/-- The published state says what is open. -/
structure Reflects (s : UsbClient) : Prop where
  ready_iff : s.host.state = .printerReady ↔ s.g.deviceOpen = true ∧ s.g.printInterfaceClaimed = true
  record : s.host.state = .printerReady →
    s.host.device.attached = true ∧ s.host.device.printer.found = true ∧ s.host.device.address = s.g.address
  cleared : s.g.deviceOpen = false → s.host.device = {}
  /-- The backend reports OFFLINE for a claimed printer only if the printer says that it is not ready. -/
  online : s.g.deviceOpen = true → s.g.printInterfaceClaimed = true → ∀ b : UsbPrinterBackend Unit,
    b.host = s.host → b.statusSaysReady = true → b.followHost.state ≠ .offline

/-- The steps that do not come between `g` and what is published. -/
def Undisturbed (s : UsbClient) : ClientAct → Prop
  -- the printer is published before `begin` has come to its last assignment
  | .stateRunning => s.host.state ≠ .printerReady
  -- the state is overwritten although the device stays open
  | .handled (some _) => s.g.deviceOpen = true → s.g.deviceGone = true ∨ s.g.resetRequested = true
  -- a status of a device that is closed
  | .statusCallback _ valid _ _ => valid = true → s.g.deviceOpen = true
  | _ => True

instance (s : UsbClient) (a : ClientAct) : Decidable (s.Undisturbed a) :=
  match a with
  | .stateRunning => inferInstanceAs (Decidable (_ ≠ _))
  | .handled (some _) => inferInstanceAs (Decidable (_ → _))
  | .statusCallback .. => inferInstanceAs (Decidable (_ → _))
  | .handled none | .install _ | .createHostTask _ | .createClientTask _ | .clearError | .requestReset
  | .requestStatus | .registered _ | .addresses _ | .next _ | .enumerated _ | .newDev _ | .devGone _
  | .submitStatus .. => inferInstanceAs (Decidable True)

/-- Nothing is open. -/
structure Closed (s : UsbClient) : Prop where
  deviceOpen : s.g.deviceOpen = false
  unclaimed : s.g.printInterfaceClaimed = false
  state : s.host.state ≠ .printerReady
  device : s.host.device = {}

/-- A printer is open, claimed and recorded. -/
structure Recorded (s : UsbClient) : Prop where
  deviceOpen : s.g.deviceOpen = true
  claimed : s.g.printInterfaceClaimed = true
  attached : s.host.device.attached = true
  found : s.host.device.printer.found = true
  address : s.host.device.address = s.g.address

/-- Nothing is open, or a printer is and is ready; `excused` where the state is set in a moment. -/
def Synced (s : UsbClient) (excused : Prop) : Prop := Closed s ∨ (Recorded s ∧ (s.host.state = .printerReady ∨ excused))

/-- What holds at each place of the client task. -/
def Phase (s : UsbClient) : ClientPc → Prop
  | .absent | .register | .fill _ | .scan .. | .enumerate .. | .report .. | .ended => Closed s
  | .publish d _ => s.g.deviceOpen = true ∧ s.g.printInterfaceClaimed = true ∧ d.attached = true ∧
    d.printer.found = true ∧ d.address = s.g.address
  | .gone => s.Synced (s.g.deviceGone = true ∨ s.g.resetRequested = true)
  | .reset => s.Synced (s.g.resetRequested = true)
  | .events | .rescan | .status | .newDevice => s.Synced False

section environment
variable {s s' : UsbClient} {c : ClientPc}

/-- What is not looked at may change, and an excuse may come. -/
theorem Phase.frame (h : s.Phase c) (hopen : s'.g.deviceOpen = s.g.deviceOpen)
    (hclaim : s'.g.printInterfaceClaimed = s.g.printInterfaceClaimed) (haddr : s'.g.address = s.g.address)
    (hstate : s'.host.state = s.host.state) (hdevice : s'.host.device = s.host.device)
    (hgone : s.g.deviceGone = true → s'.g.deviceGone = true)
    (hreset : s.g.resetRequested = true → s'.g.resetRequested = true) : s'.Phase c := by
  have hclosed : Closed s → Closed s' := fun h =>
    ⟨hopen.trans h.deviceOpen, hclaim.trans h.unclaimed, hstate ▸ h.state, hdevice.trans h.device⟩
  have hsynced : ∀ {e e' : Prop}, (e → e') → s.Synced e → s'.Synced e' := by
    intro e e' he h
    rcases h with h | ⟨h, hr⟩
    · exact Or.inl (hclosed h)
    · refine Or.inr ⟨⟨hopen.trans h.deviceOpen, hclaim.trans h.claimed, ?_, ?_, ?_⟩, hr.imp (hstate.trans ·) he⟩
      · rw [hdevice]
        exact h.attached
      · rw [hdevice]
        exact h.found
      · rw [hdevice, haddr]
        exact h.address
  cases c with
  | publish d back => exact ⟨hopen.trans h.1, hclaim.trans h.2.1, h.2.2.1, h.2.2.2.1, h.2.2.2.2.trans haddr.symm⟩
  | gone => exact hsynced (Or.imp hgone hreset) h
  | reset => exact hsynced hreset h
  | events | rescan | status | newDevice => exact hsynced id h
  | _ => exact hclosed h

/-- A state that is not READY may become another that is not. -/
theorem Phase.setState (h : s.Phase c) (hno : s.host.state ≠ .printerReady) {state : HostState} {error : String}
    {started : Bool} {begun : BeginPc} (hstate : state ≠ .printerReady) :
    Phase { s with host := { s.host with state, error, started }, begun } c := by
  have hclosed : Closed s → Closed { s with host := { s.host with state, error, started }, begun } := fun h =>
    ⟨h.deviceOpen, h.unclaimed, hstate, h.device⟩
  have hsynced : ∀ {e : Prop}, s.Synced e → Synced { s with host := { s.host with state, error, started }, begun } e := by
    intro e h
    rcases h with h | ⟨h, hr⟩
    · exact Or.inl (hclosed h)
    · exact Or.inr ⟨⟨h.deviceOpen, h.claimed, h.attached, h.found, h.address⟩, hr.imp (fun hr => absurd hr hno) id⟩
  cases c with
  | publish d back => exact h
  | gone | reset | events | rescan | status | newDevice => exact hsynced h
  | _ => exact hclosed h

theorem Closed.synced {e : Prop} (h : Closed s) : s.Synced e := Or.inl h

theorem Synced.closed {e : Prop} (h : s.Synced e) (hshut : s.g.deviceOpen = false) : Closed s := by
  rcases h with h | ⟨h, -⟩
  · exact h
  · cases hshut.symm.trans h.deviceOpen

/-- The device is closed and its record cleared. -/
theorem closed_onDetached (g : UsbRuntime) : Closed { s with g := g.closeDevice, host := s.host.onDetached, client := c } := by
  have hstate : s.host.onDetached.state ≠ .printerReady := by
    unfold UsbHostManager.onDetached
    split <;> simp
  rw [UsbRuntime.closeDevice_eq]
  exact ⟨rfl, rfl, hstate, rfl⟩

/-- While nothing is open the messages of an enumeration leave the rest as it is. -/
theorem Closed.onEnumerationStarted (h : Closed s) : Closed { s with host := s.host.onEnumerationStarted, client := c } := by
  unfold UsbHostManager.onEnumerationStarted
  split
  · exact ⟨h.deviceOpen, h.unclaimed, h.state, h.device⟩
  · exact ⟨h.deviceOpen, h.unclaimed, by simp, h.device⟩

theorem Closed.onEnumerationError (h : Closed s) (error : String) :
    Closed { s with host := s.host.onEnumerationError error, client := c } := by
  refine ⟨h.deviceOpen, h.unclaimed, ?_, h.device⟩
  show (if s.host.started && s.host.state != .error then HostState.running else s.host.state) ≠ .printerReady
  split
  · simp
  · exact h.state

/-- A successful enumeration is published. -/
theorem recorded_publish {d : UsbDeviceInfo} (h : s.Phase (.publish d .start)) :
    Recorded (s.publish d) ∧ (s.publish d).host.state = .printerReady := by
  obtain ⟨hopen, hclaim, hattached, hfound, haddr⟩ := h
  refine ⟨⟨hopen, hclaim, hattached, hfound, haddr⟩, ?_⟩
  show (if d.printer.found then HostState.printerReady else .deviceAttached) = .printerReady
  rw [hfound]
  rfl

/-- `scanExisting` returns, or the new device is done. -/
theorem Phase.resume (h : s.Synced False) (now : Nat) (back : ScanFrom) :
    (s.resume now back).Phase (s.resume now back).client := by
  have hevents : s.Phase .events := h
  cases back with
  | start | newDevice => exact hevents.frame rfl rfl rfl rfl rfl id id
  | recovery =>
    unfold UsbClient.resume
    generalize millis (now + 2000) = due
    exact Phase.frame (c := .rescan) hevents rfl rfl rfl rfl rfl id id
  | retry => exact Phase.frame (c := .status) hevents rfl rfl rfl rfl rfl id id

/-- The enumeration itself: the device is left open exactly if it succeeds. -/
theorem closed_enumerateDevice (h : Closed s) (address : UInt8) (answers : EnumerationAnswers) :
    (∃ g d, enumerateDevice s.g address answers = (g, .ok d) ∧ g.deviceOpen = true ∧ g.printInterfaceClaimed = true ∧
      d.attached = true ∧ d.printer.found = true ∧ d.address = g.address) ∨
    (∃ g e, enumerateDevice s.g address answers = (g, .error e) ∧ g.deviceOpen = false ∧ g.printInterfaceClaimed = false) := by
  by_cases he : ∃ ds, Enumerable answers ds
  · obtain ⟨ds, he⟩ := he
    obtain ⟨g, d, hrun, hopened⟩ := enumerateDevice_ok s.g address he
    obtain ⟨dev, hg⟩ := hopened.runtime
    obtain ⟨k, x, -, hp, -⟩ := hopened.best
    refine Or.inl ⟨g, d, hrun, hg.deviceOpen, hg.print, hopened.attached, ?_, hopened.address.trans hg.address.symm⟩
    rw [hp]
    exact (describes_filled x).found
  · obtain ⟨e, hrun⟩ := enumerateDevice_error s.g address (fun ds hds => he ⟨ds, hds⟩)
    refine Or.inr ⟨_, e, hrun, ?_⟩
    split
    · exact ⟨rfl, rfl⟩
    · exact ⟨h.deviceOpen, h.unclaimed⟩

theorem phase_at (h : s.Phase s.client) (hc : s.client = c) : s.Phase c := hc ▸ h

theorem some_of_atPc {now : Bool} (h : atPc now s = some s') : now = true ∧ s = s' := by
  unfold atPc at h
  split at h
  · exact ⟨‹_›, Option.some.inj h⟩
  · cases h

/-- A stage that needs no answer. -/
theorem phase_nextStep {now : Nat} (h : s.Phase s.client) (hs : s.nextStep now = some s') : s'.Phase s'.client := by
  unfold nextStep at hs
  cases hc : s.client with
  | absent | register | fill | enumerate | events | status | ended => rw [hc] at hs; cases hs
  | scan rest back =>
    rw [hc] at hs h
    have hclosed : Closed s := h
    cases rest with
    | nil =>
      cases hs
      exact Phase.resume hclosed.synced now back
    | cons address rest =>
      dsimp only at hs
      split at hs
      · cases hs
        exact Phase.resume hclosed.synced now back
      · cases hs
        exact hclosed.onEnumerationStarted
  | publish d back =>
    rw [hc] at hs h
    cases hs
    obtain ⟨hrec, hready⟩ := recorded_publish h
    exact Phase.resume (Or.inr ⟨hrec, Or.inl hready⟩) now back
  | report error rest back =>
    rw [hc] at hs h
    cases hs
    exact Closed.onEnumerationError h error
  | gone =>
    rw [hc] at hs h
    dsimp only at hs
    split at hs
    · cases hs
      exact (closed_onDetached _).synced
    · rename_i hno
      cases hs
      rcases h with h | ⟨h, hr⟩
      · exact Or.inl ⟨h.deviceOpen, h.unclaimed, h.state, h.device⟩
      · exact Or.inr ⟨⟨h.deviceOpen, h.claimed, h.attached, h.found, h.address⟩, hr.imp id (·.resolve_left hno)⟩
  | reset =>
    rw [hc] at hs h
    dsimp only at hs
    split at hs
    · cases hs
      exact closed_onDetached _
    · rename_i hno
      cases hs
      rcases h with h | ⟨h, hr⟩
      · exact Or.inl ⟨h.deviceOpen, h.unclaimed, h.state, h.device⟩
      · exact Or.inr ⟨⟨h.deviceOpen, h.claimed, h.attached, h.found, h.address⟩, hr.imp id hno⟩
  | rescan =>
    rw [hc] at hs h
    dsimp only at hs
    split at hs
    · rename_i hdue
      cases hs
      have hshut : s.g.deviceOpen = false := by
        simp only [Bool.and_eq_true, Bool.not_eq_true'] at hdue
        exact hdue.1.1
      have hclosed := h.closed hshut
      exact ⟨hclosed.deviceOpen, hclosed.unclaimed, hclosed.state, hclosed.device⟩
    · cases hs
      exact Phase.frame (c := .status) h rfl rfl rfl rfl rfl id id
  | newDevice =>
    rw [hc] at hs h
    dsimp only at hs
    split at hs
    · rename_i hnew
      cases hs
      have hshut : s.g.deviceOpen = false := by
        simp only [Bool.and_eq_true, Bool.not_eq_true'] at hnew
        exact hnew.2
      have hstarted := (h.closed hshut).onEnumerationStarted (c := .enumerate s.g.newAddress [] .newDevice)
      exact ⟨hstarted.deviceOpen, hstarted.unclaimed, hstarted.state, hstarted.device⟩
    · cases hs
      exact Phase.frame (c := .events) h rfl rfl rfl rfl rfl id id

/-- A status that arrives is stored in the record of the open device. -/
theorem synced_onPortStatusTransfer {e : Prop} (now : Nat) {statusOut : Nat} (valid : Bool) (value : UInt8) (error : String)
    (statusPending statusTransfer : Bool) (h : s.Synced e) (hopen : valid = true → s.g.deviceOpen = true) :
    Synced { s with
      g := { s.g with statusPending, statusTransfer }, host := s.host.onPortStatusTransfer now valid value error,
      statusOut, client := c } e := by
  have hstate : (s.host.onPortStatusTransfer now valid value error).state = s.host.state := by
    unfold UsbHostManager.onPortStatusTransfer
    split
    · split <;> rfl
    · rfl
  rcases h with h | ⟨h, hr⟩
  · refine Or.inl ⟨h.deviceOpen, h.unclaimed, ?_, ?_⟩
    · exact fun hready => h.state (hstate.symm.trans hready)
    · cases hv : valid with
      | true => cases h.deviceOpen.symm.trans (hopen hv)
      | false =>
        refine Eq.trans ?_ h.device
        unfold UsbHostManager.onPortStatusTransfer
        simp only [Bool.not_false, if_true]
        split <;> rfl
  · have hdevice : (s.host.onPortStatusTransfer now valid value error).device.attached = s.host.device.attached ∧
        (s.host.onPortStatusTransfer now valid value error).device.printer = s.host.device.printer ∧
        (s.host.onPortStatusTransfer now valid value error).device.address = s.host.device.address := by
      unfold UsbHostManager.onPortStatusTransfer
      split
      · split <;> exact ⟨rfl, rfl, rfl⟩
      · exact ⟨rfl, rfl, rfl⟩
    refine Or.inr ⟨⟨h.deviceOpen, h.claimed, hdevice.1.trans h.attached, ?_, hdevice.2.2.trans h.address⟩,
      hr.imp (hstate.trans ·) id⟩
    exact (congrArg UsbPrinterInterfaceInfo.found hdevice.2.1).trans h.found

theorem begun_resume (now : Nat) (back : ScanFrom) : (s.resume now back).begun = s.begun := by
  unfold resume
  generalize millis (now + 2000) = due
  cases back <;> rfl

theorem begun_nextStep {now : Nat} (hs : s.nextStep now = some s') : s'.begun = s.begun := by
  unfold nextStep at hs
  generalize millis (now + 2000) = due at hs
  split at hs
  · cases hs; exact begun_resume now _
  · split at hs
    · cases hs; exact begun_resume now _
    · cases hs; rfl
  · cases hs; exact begun_resume now _
  · cases hs; rfl
  · split at hs <;> cases hs <;> rfl
  · split at hs <;> cases hs <;> rfl
  · split at hs <;> cases hs <;> rfl
  · split at hs <;> cases hs <;> rfl
  · cases hs

/-- `usb_host_client_handle_events` returns. -/
theorem phase_handled {error : Option String} (h : s.Phase .events) (hu : s.Undisturbed (.handled error))
    (hs : s.step (.handled error) = some s') : s'.Phase s'.client := by
  cases error with
  | none =>
    obtain ⟨-, rfl⟩ := some_of_atPc hs
    exact Phase.frame (c := .gone) (h.imp id fun h => ⟨h.1, Or.inl (h.2.resolve_right id)⟩) rfl rfl rfl rfl rfl id id
  | some e =>
    obtain ⟨-, rfl⟩ := some_of_atPc hs
    rcases h with h | ⟨h, -⟩
    · exact (h.onEnumerationError _).synced
    · exact Or.inr ⟨⟨h.deviceOpen, h.claimed, h.attached, h.found, h.address⟩, Or.inr (hu h.deviceOpen)⟩

/-- Before `begin` has created the client task there is none. -/
structure ClientInv (s : UsbClient) : Prop where
  phase : s.Phase s.client
  absent : s.begun.before = true → s.client = .absent

/-- One step. -/
theorem client_step {a : ClientAct} (h : ClientInv s) (hu : s.Undisturbed a) (hs : s.step a = some s') :
    ClientInv s' := by
  -- a step of the client task: there is one
  have hthere : ∀ {c : ClientPc}, s.client = c → c ≠ .absent → s.begun.before = true → False :=
    fun hc hne hb => hne (hc.symm.trans (h.absent hb))
  cases a with
  | install answer =>
    obtain ⟨hp, rfl⟩ := some_of_atPc hs
    have hc := h.absent (by rw [of_decide_eq_true hp]; rfl)
    have hclosed : Closed s := phase_at h.phase hc
    cases answer with
    | error e => exact ⟨h.phase.setState hclosed.state (by simp), fun _ => hc⟩
    | ok => exact ⟨h.phase.setState hclosed.state hclosed.state, fun _ => hc⟩
  | createHostTask ok =>
    obtain ⟨hp, rfl⟩ := some_of_atPc hs
    have hc := h.absent (by rw [of_decide_eq_true hp]; rfl)
    have hclosed : Closed s := phase_at h.phase hc
    cases ok with
    | true => exact ⟨h.phase.frame rfl rfl rfl rfl rfl id id, fun _ => hc⟩
    | false => exact ⟨h.phase.setState hclosed.state (by simp), fun _ => hc⟩
  | createClientTask ok =>
    obtain ⟨hp, rfl⟩ := some_of_atPc hs
    have hc := h.absent (by rw [of_decide_eq_true hp]; rfl)
    have hclosed : Closed s := phase_at h.phase hc
    cases ok with
    | true => exact ⟨⟨hclosed.deviceOpen, hclosed.unclaimed, hclosed.state, hclosed.device⟩, fun hb => (by cases hb)⟩
    | false => exact ⟨h.phase.setState hclosed.state (by simp), fun _ => hc⟩
  | stateRunning =>
    obtain ⟨-, rfl⟩ := some_of_atPc hs
    exact ⟨h.phase.setState hu (by simp), fun hb => (by cases hb)⟩
  | clearError =>
    obtain ⟨-, rfl⟩ := some_of_atPc hs
    exact ⟨h.phase.frame rfl rfl rfl rfl rfl id id, fun hb => (by cases hb)⟩
  | requestReset =>
    cases hs
    exact ⟨h.phase.frame rfl rfl rfl rfl rfl id (fun _ => rfl), h.absent⟩
  | requestStatus =>
    simp only [step, Option.some.injEq] at hs
    subst hs
    split
    · exact ⟨h.phase.frame rfl rfl rfl rfl rfl id id, h.absent⟩
    · exact h
  | registered answer =>
    obtain ⟨hp, rfl⟩ := some_of_atPc hs
    have hc := of_decide_eq_true hp
    have hclosed : Closed s := phase_at h.phase hc
    cases answer with
    | error e => exact ⟨hclosed.onEnumerationError _, fun hb => (hthere hc (by simp) hb).elim⟩
    | ok =>
      exact ⟨⟨hclosed.deviceOpen, hclosed.unclaimed, hclosed.state, hclosed.device⟩,
        fun hb => (hthere hc (by simp) hb).elim⟩
  | addresses answer =>
    simp only [step] at hs
    cases hc : s.client with
    | fill back =>
      rw [hc] at hs
      cases hs
      have hclosed : Closed s := phase_at h.phase hc
      exact ⟨⟨hclosed.deviceOpen, hclosed.unclaimed, hclosed.state, hclosed.device⟩,
        fun hb => (hthere hc (by simp) hb).elim⟩
    | _ => rw [hc] at hs; cases hs
  | next now =>
    refine ⟨phase_nextStep h.phase hs, fun hb => ?_⟩
    have hbegun : s'.begun = s.begun := begun_nextStep hs
    rw [hbegun] at hb
    have hc := h.absent hb
    simp only [step, nextStep, hc] at hs
    cases hs
  | enumerated answers =>
    simp only [step] at hs
    cases hc : s.client with
    | enumerate address rest back =>
      rw [hc] at hs
      have hclosed : Closed s := phase_at h.phase hc
      dsimp only at hs
      rcases closed_enumerateDevice hclosed address answers with
        ⟨g, d, hrun, hopen, hclaim, hd⟩ | ⟨g, e, hrun, hopen, hclaim⟩
      · rw [hrun] at hs
        cases hs
        exact ⟨⟨hopen, hclaim, hd⟩, fun hb => (hthere hc (by simp) hb).elim⟩
      · rw [hrun] at hs
        cases hs
        exact ⟨⟨hopen, hclaim, hclosed.state, hclosed.device⟩, fun hb => (hthere hc (by simp) hb).elim⟩
    | _ => rw [hc] at hs; cases hs
  | newDev address =>
    obtain ⟨hp, rfl⟩ := some_of_atPc hs
    split
    · exact ⟨h.phase.frame rfl rfl rfl rfl rfl id id, h.absent⟩
    · exact h
  | devGone device =>
    obtain ⟨hp, rfl⟩ := some_of_atPc hs
    split
    · exact ⟨h.phase.frame rfl rfl rfl rfl rfl (fun _ => rfl) id, h.absent⟩
    · exact h
  | statusCallback now valid value error =>
    obtain ⟨hp, rfl⟩ := some_of_atPc hs
    have hc := of_decide_eq_true (Bool.and_eq_true_iff.1 hp).1
    have hph := phase_at h.phase hc
    refine ⟨?_, h.absent⟩
    show Phase _ s.client
    rw [hc]
    exact synced_onPortStatusTransfer now valid value error s.g.statusPending _ (c := .events) hph hu
  | handled error =>
    have hp := hs
    obtain ⟨hp, -⟩ := some_of_atPc hp
    have hc := of_decide_eq_true hp
    have hph := phase_at h.phase hc
    refine ⟨phase_handled hph hu hs, fun hb => ?_⟩
    cases error with
    | none => obtain ⟨-, rfl⟩ := some_of_atPc hs; exact (hthere hc (by simp) hb).elim
    | some e => obtain ⟨-, rfl⟩ := some_of_atPc hs; exact (hthere hc (by simp) hb).elim
  | submitStatus now answer =>
    obtain ⟨hp, rfl⟩ := some_of_atPc hs
    have hc := of_decide_eq_true hp
    have hph := phase_at h.phase hc
    refine ⟨?_, fun hb => ?_⟩
    · show Synced _ False
      unfold submitStatus
      split
      · exact Phase.frame (c := .newDevice) hph rfl rfl rfl rfl rfl id id
      · split
        · exact Phase.frame (c := .newDevice) hph rfl rfl rfl rfl rfl id id
        · cases answer with
          | error e =>
            exact synced_onPortStatusTransfer now false 0 e _ s.g.statusTransfer hph (fun hv => (by cases hv))
          | ok => exact Phase.frame (c := .newDevice) hph rfl rfl rfl rfl rfl id id
    · refine (hthere hc (by simp) ?_).elim
      have hbegun : (s.submitStatus now answer).begun = s.begun := by
        unfold submitStatus
        split
        · rfl
        · split
          · rfl
          · cases answer <;> rfl
      exact hbegun ▸ hb

theorem client_begin : ClientInv {} := ⟨⟨rfl, rfl, by simp, rfl⟩, fun _ => rfl⟩

/-- At the boundary everything that is open is published. -/
theorem Synced.reflects (h : s.Synced False) : Reflects s := by
  rcases h with h | ⟨h, hr⟩
  · refine ⟨⟨fun hr => absurd hr h.state, fun ho => ?_⟩, fun hr => absurd hr h.state, fun _ => h.device, fun ho _ => ?_⟩
    · cases h.deviceOpen.symm.trans ho.1
    · cases h.deviceOpen.symm.trans ho
  · have hready := hr.resolve_right id
    refine ⟨⟨fun _ => ⟨h.deviceOpen, h.claimed⟩, fun _ => hready⟩, fun _ => ⟨h.attached, h.found, h.address⟩,
      fun hshut => ?_, fun _ _ b hb htext => ?_⟩
    · cases hshut.symm.trans h.deviceOpen
    · unfold UsbPrinterBackend.followHost
      split
      · rename_i hp
        rw [hp]
        simp
      · rw [hb, hready]
        dsimp only
        rw [htext]
        split <;> simp

/-- **The host state reflects the device** at every iteration boundary of an undisturbed run. -/
theorem state_reflects {acts : List ClientAct} (hu : Lib.Meets step Undisturbed {} acts)
    (hr : Lib.run step {} acts = some s) (hc : s.client = .events) : Reflects s := by
  have h : ClientInv s := Lib.run_inv (fun _ _ _ => client_step) client_begin hu hr
  exact Synced.reflects (phase_at h.phase hc)

end environment

/-- A printer with one bidirectional RAW interface. -/
def smartTank : EnumerationAnswers :=
  { deviceOpen := .ok 1, deviceDescriptor := .ok (0x03F0, 0x0001), deviceInfo := none
    configDescriptor := .ok (1,
      [.interface ⟨0, 0, 0x07, 0x01, 0x02⟩, .endpoint ⟨0x01, 0x02, 64, 0⟩, .endpoint ⟨0x81, 0x02, 64, 0⟩])
    printClaim := .ok (), statusClaim := .ok () }

/-- `begin` up to the creation of the client task. -/
def begins : List ClientAct := [.install (.ok ()), .createHostTask true, .createClientTask true]

/-- The client task finds the printer that is plugged in already. -/
def findsPrinter : List ClientAct :=
  [.registered (.ok ()), .addresses (some [1]), .next 0, .enumerated smartTank, .next 0]

/-- `begin` goes on before the client task. -/
def beginFirst : List ClientAct := List.flatten [begins, [.stateRunning, .clearError], findsPrinter]

theorem state_reflects_beginFirst : ∃ s, Lib.run step {} beginFirst = some s ∧ s.host.state = .printerReady ∧
    Reflects s := by
  have hu : Lib.Meets step Undisturbed {} beginFirst := by decide +kernel
  have hr : (Lib.run step {} beginFirst).map (fun s => (s.client, s.host.state)) = some (.events, .printerReady) := by
    decide +kernel
  obtain ⟨s, hs, he⟩ := Option.map_eq_some_iff.1 hr
  obtain ⟨hc, hready⟩ := Prod.mk.inj he
  exact ⟨s, hs, hready, state_reflects hu hs hc⟩

/-- The client task, of higher priority, finds the printer first. -/
def clientFirst : List ClientAct := List.flatten [begins, findsPrinter, [.stateRunning, .clearError]]

/-- The printer is ready; then `usb_host_client_handle_events` fails once. -/
def eventsFail : List ClientAct :=
  List.flatten [beginFirst, [.handled (some "ESP_FAIL"), .next 0, .next 0, .next 0, .submitStatus 0 (.ok ()), .next 0]]

/-- The run leaves the printer open and claimed, and the backend reports it as offline. -/
def LeavesOffline (acts : List ClientAct) : Prop := ∃ s, Lib.run step {} acts = some s ∧
  s.client = .events ∧ s.begun = .returned true ∧ s.g.deviceOpen = true ∧ s.g.printInterfaceClaimed = true ∧
    (UsbPrinterBackend.begin s.host () 0).followHost.state = .offline ∧ ¬ Reflects s

theorem leavesOffline_of_run {acts : List ClientAct} (hr : (Lib.run step {} acts).map (fun s =>
    (s.client, s.begun, s.g.deviceOpen, s.g.printInterfaceClaimed, s.host.state,
      (UsbPrinterBackend.begin s.host () 0).followHost.state)) = some (.events, .returned true, true, true, .running, .offline)) :
    LeavesOffline acts := by
  obtain ⟨s, hs, he⟩ := Option.map_eq_some_iff.1 hr
  simp only [Prod.mk.injEq] at he
  obtain ⟨hc, hb, hopen, hclaim, hstate, hoffline⟩ := he
  refine ⟨s, hs, hc, hb, hopen, hclaim, hoffline, fun h => ?_⟩
  cases hstate.symm.trans (h.ready_iff.2 ⟨hopen, hclaim⟩)

theorem claimed_and_offline : LeavesOffline clientFirst ∧ LeavesOffline eventsFail :=
  ⟨leavesOffline_of_run (by decide +kernel), leavesOffline_of_run (by decide +kernel)⟩

end UsbClient
end PrintServer
