import PrintServer.Drain
import PrintServer.UsbEnumeration
/-!
# Drain decisions and the absolute clock (usb_host_manager.cpp:757-778, usb_printer_backend.cpp:494-577, 674-700)

`millis()` wraps. The age of a drain is a difference and does not notice; whether a status is fresh is
a direct comparison of two stamps, with 0 for "no status yet". Two runs are put side by side here, the
second with every `millis()` value shifted by `c`. `clock_shift_iff` says when they take the same
decisions: when each comparison that matters sees the two stamps on the same side of the wrap.
-/
namespace PrintServer

/-- A value of `millis()` in the shifted run. -/
def shiftMs (c t : Nat) : Nat := millis (t + c)

theorem millis_lt (now : Nat) : millis now < 2 ^ 32 := Nat.mod_lt _ (by decide)

theorem shiftMs_millis (c now : Nat) : shiftMs c (millis now) = millis (now + c) := by
  unfold shiftMs millis
  omega

/-- Differences do not notice. -/
theorem sub32_shiftMs (c now t : Nat) : sub32 (millis (now + c)) (shiftMs c t) = sub32 (millis now) t := by
  unfold sub32 shiftMs millis
  omega

/-- Comparisons do, unless both stamps pass the wrap or none does. -/
theorem shiftMs_lt_iff {c s t : Nat} (hs : s < 2 ^ 32) (ht : t < 2 ^ 32) :
    (shiftMs c s < shiftMs c t ↔ s < t) ↔ (s = t ∨ (2 ^ 32 ≤ s + c % 2 ^ 32 ↔ 2 ^ 32 ≤ t + c % 2 ^ 32)) := by
  unfold shiftMs millis
  omega

/-- A stamp against the 0 of "no status yet". -/
theorem zero_lt_shiftMs_iff {c t : Nat} : (0 < shiftMs c t ↔ 0 < t) ↔ (t = 0 ↔ shiftMs c t = 0) := by
  omega

/-- A record that is published has no port status yet. -/
def HostEvent.Fresh : HostEvent → Prop
  | .enumerated info => info.portStatus.valid = false
  | _ => True

/-- What enumeration reports is fresh. -/
theorem Opened.fresh {g g' : UsbRuntime} {address : UInt8} {ds : List UsbDescriptor} {out : UsbDeviceInfo}
    (h : Opened g address ds g' out) : (HostEvent.enumerated out).Fresh := h.noStatus

def Tick.Fresh (t : Tick) : Prop := ∀ e ∈ t.events, e.Fresh

structure Transport.Fresh {σ : Type} (T : Transport σ) : Prop where
  reset : ∀ l, (T.reset l).took.Fresh
  push : ∀ l data, (T.push l data).took.Fresh
  flush : ∀ l, (T.flush l).took.Fresh
  bulkWriteAll : ∀ l data, (T.bulkWriteAll l data).took.Fresh
  waitForBulkOut : ∀ l, (T.waitForBulkOut l).took.Fresh

namespace UsbHostManager

/-- The host of the shifted run. -/
def shift (c : Nat) (h : UsbHostManager) : UsbHostManager :=
  { h with
    device := { h.device with
      portStatus := { h.device.portStatus with
        updatedAt :=
          if h.device.portStatus.valid then shiftMs c h.device.portStatus.updatedAt
          else h.device.portStatus.updatedAt } } }

theorem shift_of_invalid {h : UsbHostManager} {c : Nat} (hv : h.device.portStatus.valid = false) : h.shift c = h := by
  unfold shift
  rw [if_neg (by simp [hv])]

theorem on_shift (c now : Nat) (h : UsbHostManager) {e : HostEvent} (he : e.Fresh) :
    (h.on now e).shift c = (h.shift c).on (now + c) e := by
  cases e with
  | portStatusTransfer valid value error =>
    unfold on onPortStatusTransfer
    cases valid with
    | true => simp only [shift, Bool.not_true, Bool.false_eq_true, if_false, if_true, shiftMs_millis]
    | false =>
      simp only [Bool.not_false, if_true]
      split <;> rfl
  | enumerationStarted =>
    have hstarted : (h.shift c).started = h.started := rfl
    unfold on onEnumerationStarted
    dsimp only
    rw [hstarted]
    split <;> rfl
  | enumerated info => exact shift_of_invalid he
  | detached => exact shift_of_invalid rfl
  | enumerationError error => rfl

theorem onAll_shift (c now : Nat) (es : List HostEvent) : ∀ h : UsbHostManager, (∀ e ∈ es, e.Fresh) →
    (h.onAll now es).shift c = (h.shift c).onAll (now + c) es := by
  induction es with
  | nil => exact fun _ _ => rfl
  | cons e es ih =>
    intro h hf
    have hstep := on_shift c now h (hf e List.mem_cons_self)
    show ((h.on now e).onAll now es).shift c = ((h.shift c).on (now + c) e).onAll (now + c) es
    rw [← hstep]
    exact ih _ fun e he => hf e (List.mem_cons_of_mem _ he)

/-- Stamps are 32 bits wide. -/
theorem onAll_stamp {now : Nat} (es : List HostEvent) : ∀ h : UsbHostManager, (∀ e ∈ es, e.Fresh) →
    (h.device.portStatus.valid = true → h.device.portStatus.updatedAt < 2 ^ 32) →
    (h.onAll now es).device.portStatus.valid = true → (h.onAll now es).device.portStatus.updatedAt < 2 ^ 32 := by
  induction es with
  | nil => exact fun _ _ hs => hs
  | cons e es ih =>
    intro h hf hs
    refine ih (h.on now e) (fun e he => hf e (List.mem_cons_of_mem _ he)) ?_
    have he := hf e List.mem_cons_self
    cases e with
    | portStatusTransfer valid value error =>
      unfold on onPortStatusTransfer
      cases valid with
      | true => exact fun _ => millis_lt now
      | false =>
        simp only [Bool.not_false, if_true]
        split <;> exact hs
    | enumerationStarted =>
      unfold on onEnumerationStarted
      dsimp only
      split <;> exact hs
    | enumerated info => exact fun hv => (by cases hv.symm.trans he)
    | detached => exact fun hv => (by cases hv)
    | enumerationError error => exact hs

end UsbHostManager
namespace UsbPrinterBackend
variable {σ : Type}

/-- What a drain decides. -/
def decisions (b : UsbPrinterBackend σ) : PrinterState × Bool × UInt32 × UInt32 :=
  (b.state, b.drainPending, b.jobsCompleted, b.jobsFailed)

/-- `age` (:498). -/
def age (b : UsbPrinterBackend σ) : Nat := sub32 (millis b.now) b.drainStartedMs

/-- `freshStatus` (:500). -/
def freshStatus (b : UsbPrinterBackend σ) : Bool :=
  b.usbStatusValid && decide (b.drainStatusAtStart < b.host.device.portStatus.updatedAt)

/-- The drain can end now or wait, and a fresh status decides (:563). -/
structure AsksForFresh (b : UsbPrinterBackend σ) : Prop where
  pending : b.drainPending = true
  printing : b.state = .printing
  valid : b.usbStatusValid = true
  ready : b.statusSaysReady = true
  guarded : postJobMinGuardMs ≤ b.age
  waiting : b.age < postJobStatusWaitMaxMs

instance (b : UsbPrinterBackend σ) : Decidable b.AsksForFresh :=
  decidable_of_iff (b.drainPending = true ∧ b.state = .printing ∧ b.usbStatusValid = true ∧ b.statusSaysReady = true ∧
      postJobMinGuardMs ≤ b.age ∧ b.age < postJobStatusWaitMaxMs)
    ⟨fun h => ⟨h.1, h.2.1, h.2.2.1, h.2.2.2.1, h.2.2.2.2.1, h.2.2.2.2.2⟩,
      fun h => ⟨h.pending, h.printing, h.valid, h.ready, h.guarded, h.waiting⟩⟩

/-- What `completeDrainIfReady` decides, and what it looks at. -/
theorem decisions_completeDrain (b : UsbPrinterBackend σ) : b.completeDrainIfReady.decisions =
    if !b.drainPending ∨ b.state ≠ .printing then b.decisions
    else if b.usbStatusValid && b.usbPaperEmpty then (.offline, false, b.jobsCompleted, b.jobsFailed + 1)
    else if b.usbStatusValid && b.usbStatusError then (.error, false, b.jobsCompleted, b.jobsFailed + 1)
    else if b.usbStatusValid && !b.usbStatusSelected then
      if b.age < postJobStatusWaitMaxMs then b.decisions else (.offline, false, b.jobsCompleted, b.jobsFailed)
    else if b.age < postJobMinGuardMs then b.decisions
    else if b.usbStatusValid && !b.freshStatus && b.age < postJobStatusWaitMaxMs then b.decisions
    else (.idle, false, b.jobsCompleted + 1, b.jobsFailed) := by
  unfold completeDrainIfReady
  simp only [apply_ite decisions]
  rfl

section twoRuns
variable {b b' : UsbPrinterBackend σ}

/-- Where the last `if` but one is reached, the status is ready. -/
theorem ready_of_valid (hp : ¬ (b.usbStatusValid && b.usbPaperEmpty) = true)
    (he : ¬ (b.usbStatusValid && b.usbStatusError) = true)
    (hs : ¬ (b.usbStatusValid && !b.usbStatusSelected) = true) (hv : b.usbStatusValid = true) :
    b.statusSaysReady = true := by
  rw [hv, Bool.true_and] at hp he hs
  unfold statusSaysReady
  rw [hv]
  simp only [Bool.not_eq_true, Bool.not_eq_false'] at hp he hs
  simp [hp, he, hs]

/-- Two backends that look the same but for the freshness decide the same, where that is not asked
for. -/
theorem decisions_congr (hd : b'.decisions = b.decisions) (hv : b'.usbStatusValid = b.usbStatusValid)
    (hvalue : b'.usbPortStatus = b.usbPortStatus) (hage : b'.age = b.age)
    (hfresh : b.AsksForFresh → b'.freshStatus = b.freshStatus) :
    b'.completeDrainIfReady.decisions = b.completeDrainIfReady.decisions := by
  have hpaper : b'.usbPaperEmpty = b.usbPaperEmpty := by rw [usbPaperEmpty, usbPaperEmpty, hv, hvalue]
  have herror : b'.usbStatusError = b.usbStatusError := by rw [usbStatusError, usbStatusError, hv, hvalue]
  have hselected : b'.usbStatusSelected = b.usbStatusSelected := by
    rw [usbStatusSelected, usbStatusSelected, hv, hvalue]
  have hparts := hd
  simp only [decisions, Prod.mk.injEq] at hparts
  obtain ⟨hstate, hpending, hcompleted, hfailed⟩ := hparts
  rw [decisions_completeDrain, decisions_completeDrain, hd, hstate, hpending, hcompleted, hfailed, hv, hpaper, herror,
    hselected, hage]
  by_cases hsame : b'.freshStatus = b.freshStatus
  · rw [hsame]
  have hno : ¬ b.AsksForFresh := fun h => hsame (hfresh h)
  by_cases h0 : (!b.drainPending) = true ∨ b.state ≠ .printing
  · rw [if_pos h0, if_pos h0]
  rw [if_neg h0, if_neg h0]
  by_cases h1 : (b.usbStatusValid && b.usbPaperEmpty) = true
  · rw [if_pos h1, if_pos h1]
  rw [if_neg h1, if_neg h1]
  by_cases h2 : (b.usbStatusValid && b.usbStatusError) = true
  · rw [if_pos h2, if_pos h2]
  rw [if_neg h2, if_neg h2]
  by_cases h3 : (b.usbStatusValid && !b.usbStatusSelected) = true
  · rw [if_pos h3, if_pos h3]
  rw [if_neg h3, if_neg h3]
  by_cases h4 : b.age < postJobMinGuardMs
  · rw [if_pos h4, if_pos h4]
  rw [if_neg h4, if_neg h4]
  obtain ⟨hpend, hprint⟩ := not_or.1 h0
  -- the freshness does not matter without a valid status or behind the longest wait
  cases hvalid : b.usbStatusValid with
  | false => rfl
  | true =>
    by_cases h5 : b.age < postJobStatusWaitMaxMs
    · exact absurd ⟨by simpa using hpend, Classical.not_not.1 hprint, hvalid, ready_of_valid h1 h2 h3 hvalid,
        Nat.le_of_not_lt h4, h5⟩ hno
    · simp [h5]

/-- A drain that asks for a fresh status ends exactly if there is one. -/
theorem decisions_asks (h : b.AsksForFresh) : b.completeDrainIfReady.decisions =
    if b.freshStatus then (.idle, false, b.jobsCompleted + 1, b.jobsFailed) else b.decisions := by
  have hready := h.ready
  unfold statusSaysReady at hready
  rw [h.valid, if_neg (by simp)] at hready
  simp only [Bool.and_eq_true, Bool.not_eq_true'] at hready
  rw [decisions_completeDrain, if_neg (by simp [h.pending, h.printing]), if_neg (by simp [hready]),
    if_neg (by simp [hready]), if_neg (by simp [hready]), if_neg (Nat.not_lt.2 h.guarded), h.valid]
  have hwaiting := h.waiting
  cases b.freshStatus <;> simp [hwaiting]

/-- What is no decision stays. -/
theorem completeDrain_frame (b : UsbPrinterBackend σ) :
    b.completeDrainIfReady.host = b.host ∧ b.completeDrainIfReady.link = b.link ∧
      b.completeDrainIfReady.now = b.now ∧ b.completeDrainIfReady.drainStartedMs = b.drainStartedMs ∧
      b.completeDrainIfReady.drainStatusAtStart = b.drainStatusAtStart ∧
      (b.completeDrainIfReady.drainPending = true → b.drainPending = true) := by
  unfold completeDrainIfReady
  split
  · exact ⟨rfl, rfl, rfl, rfl, rfl, id⟩
  · rename_i h0
    have hpend : b.drainPending = true := by simpa using (not_or.1 h0).1
    dsimp only
    split
    · exact ⟨rfl, rfl, rfl, rfl, rfl, fun _ => hpend⟩
    · split
      · exact ⟨rfl, rfl, rfl, rfl, rfl, fun _ => hpend⟩
      · split
        · split <;> exact ⟨rfl, rfl, rfl, rfl, rfl, fun _ => hpend⟩
        · split
          · exact ⟨rfl, rfl, rfl, rfl, rfl, id⟩
          · split <;> exact ⟨rfl, rfl, rfl, rfl, rfl, fun _ => hpend⟩

end twoRuns

/-! ## The two runs -/

/-- A backend, and whether a status was valid when its drain began (:694). -/
structure Watched (σ : Type) where
  backend : UsbPrinterBackend σ
  sampled : Bool := false

def Watched.call (T : Transport σ) (w : Watched σ) (c : Call) : Watched σ :=
  let b := w.backend.call T c
  { backend := b, sampled := if !w.backend.drainPending && b.drainPending then b.usbStatusValid else w.sampled }

/-- The backend `b'` of the shifted run beside the backend of the first. -/
structure Shifted (c : Nat) (w : Watched σ) (b' : UsbPrinterBackend σ) : Prop where
  host : b'.host = w.backend.host.shift c
  link : b'.link = w.backend.link
  now : b'.now = w.backend.now + c
  decisions : b'.decisions = w.backend.decisions
  started : w.backend.drainPending = true → b'.drainStartedMs = shiftMs c w.backend.drainStartedMs
  sampled : w.backend.drainPending = true → w.sampled = true →
    w.backend.drainStatusAtStart < 2 ^ 32 ∧ b'.drainStatusAtStart = shiftMs c w.backend.drainStatusAtStart
  unsampled : w.backend.drainPending = true → w.sampled = false →
    w.backend.drainStatusAtStart = 0 ∧ b'.drainStatusAtStart = 0
  stamp : w.backend.usbStatusValid = true → w.backend.host.device.portStatus.updatedAt < 2 ^ 32

/-- The stamp at the start of the drain and the newest one pass the wrap together. Without a stamp at
the start, the newest one is 0 in both runs or in none. -/
def StampsTogether (c : Nat) (w : Watched σ) : Prop :=
  let start := w.backend.drainStatusAtStart
  let newest := w.backend.host.device.portStatus.updatedAt
  if w.sampled then start = newest ∨ (2 ^ 32 ≤ start + c % 2 ^ 32 ↔ 2 ^ 32 ≤ newest + c % 2 ^ 32)
  else newest = 0 ↔ shiftMs c newest = 0

/-- The steps whose decision is the same in the shifted run. -/
def ClockBlind (c : Nat) (w : Watched σ) : Call → Prop
  | .completeDrainIfReady => w.backend.AsksForFresh → StampsTogether c w
  | _ => True

instance (c : Nat) (w : Watched σ) : Decidable (StampsTogether c w) :=
  inferInstanceAs (Decidable (if w.sampled then _ ∨ (_ ↔ _) else (_ ↔ _)))

instance (c : Nat) (w : Watched σ) (call : Call) : Decidable (ClockBlind c w call) :=
  match call with
  | .completeDrainIfReady => inferInstanceAs (Decidable (_ → _))
  | .sendDirect .. | .finishRawJob | .abortRawJob _ | .followHost | .pass _ => inferInstanceAs (Decidable True)

def Call.Fresh : Call → Prop
  | .pass t => t.Fresh
  | _ => True

section shifted
variable {T : Transport σ} {c : Nat} {w : Watched σ} {b b' : UsbPrinterBackend σ} {sampled : Bool}

theorem Shifted.fields (h : Shifted c w b') : b'.state = w.backend.state ∧ b'.drainPending = w.backend.drainPending ∧
    b'.jobsCompleted = w.backend.jobsCompleted ∧ b'.jobsFailed = w.backend.jobsFailed := by
  simpa only [UsbPrinterBackend.decisions, Prod.mk.injEq] using h.decisions

theorem Shifted.valid (h : Shifted c w b') : b'.usbStatusValid = w.backend.usbStatusValid := by
  rw [usbStatusValid, h.host]
  rfl

theorem Shifted.value (h : Shifted c w b') : b'.usbPortStatus = w.backend.usbPortStatus := by
  rw [usbPortStatus, h.host]
  rfl

theorem Shifted.newest (h : Shifted c w b') (hv : w.backend.usbStatusValid = true) :
    b'.host.device.portStatus.updatedAt = shiftMs c w.backend.host.device.portStatus.updatedAt := by
  rw [h.host]
  exact if_pos hv

/-- Time passes in both. -/
theorem Shifted.pass (h : Shifted c w b') {t : Tick} (ht : t.Fresh) :
    Shifted c { w with backend := w.backend.pass t } (b'.pass t) := by
  have hnow : b'.now + t.ms = w.backend.now + t.ms + c := by
    rw [h.now]
    omega
  refine ⟨?_, h.link, hnow, h.decisions, h.started, h.sampled, h.unsampled, ?_⟩
  · show b'.host.onAll (b'.now + t.ms) t.events = (w.backend.host.onAll (w.backend.now + t.ms) t.events).shift c
    rw [UsbHostManager.onAll_shift c _ _ _ ht, h.host, hnow]
  · exact UsbHostManager.onAll_stamp t.events w.backend.host ht h.stamp

/-- A call below answers the same in both. -/
theorem Shifted.after (h : Shifted c w b') {a : Answer σ} (ha : a.took.Fresh) :
    Shifted c { w with backend := w.backend.after a } (b'.after a) := by
  have hp := h.pass ha
  exact ⟨hp.host, rfl, hp.now, hp.decisions, hp.started, hp.sampled, hp.unsampled, hp.stamp⟩

/-- No drain is pending: nothing else is to be compared. -/
theorem Shifted.settled (h : Shifted c w b') {b₁ b₁' : UsbPrinterBackend σ} (hhost : b₁.host = w.backend.host)
    (hhost' : b₁'.host = b'.host) (hlink : b₁.link = w.backend.link) (hlink' : b₁'.link = b'.link)
    (hnow : b₁.now = w.backend.now) (hnow' : b₁'.now = b'.now) (hd : b₁'.decisions = b₁.decisions)
    (hidle : b₁.drainPending = false) : Shifted c ⟨b₁, sampled⟩ b₁' := by
  have hno : ∀ {p : Prop}, b₁.drainPending = true → p := fun hp => (by cases hidle.symm.trans hp)
  refine ⟨?_, ?_, ?_, hd, hno, hno, hno, ?_⟩
  · rw [hhost', h.host, ← hhost]
  · rw [hlink', h.link, ← hlink]
  · rw [hnow', h.now, ← hnow]
  · show b₁.usbStatusValid = true → b₁.host.device.portStatus.updatedAt < 2 ^ 32
    unfold usbStatusValid
    rw [hhost]
    exact h.stamp

theorem abortRawJob_frame (b : UsbPrinterBackend σ) (reason : String) :
    (b.abortRawJob reason).host = b.host ∧ (b.abortRawJob reason).link = b.link ∧
      (b.abortRawJob reason).now = b.now ∧ (b.abortRawJob reason).decisions =
        (.error, false, b.jobsCompleted, if b.state = .error then b.jobsFailed else b.jobsFailed + 1) := by
  unfold abortRawJob
  by_cases hp : b.state = .printing
  · simp [hp, record, decisions]
  · by_cases he : b.state = .error
    · simp [he, decisions]
    · simp [hp, he, decisions]

theorem Shifted.abort (h : Shifted c w b') (reason : String) :
    Shifted c ⟨w.backend.abortRawJob reason, sampled⟩ (b'.abortRawJob reason) := by
  obtain ⟨h1, h2, h3, h4⟩ := abortRawJob_frame w.backend reason
  obtain ⟨h1', h2', h3', h4'⟩ := abortRawJob_frame b' reason
  obtain ⟨hstate, -, hcompleted, hfailed⟩ := h.fields
  refine h.settled h1 h1' h2 h2' h3 h3' ?_ ?_
  · rw [h4, h4', hstate, hcompleted, hfailed]
  · exact congrArg (·.2.1) h4

theorem Shifted.startJob (hT : T.Fresh) (h : Shifted c w b') :
    Shifted c ⟨w.backend.startJob T, w.sampled⟩ (b'.startJob T) := by
  obtain ⟨hstate, -, hcompleted, hfailed⟩ := h.fields
  unfold UsbPrinterBackend.startJob
  rw [hstate, h.link]
  split
  · have hcleared : Shifted c ⟨{ w.backend with drainPending := false }, w.sampled⟩ { b' with drainPending := false } :=
      h.settled rfl rfl rfl rfl rfl rfl
        (by simp only [UsbPrinterBackend.decisions, hstate, hcompleted, hfailed]) rfl
    have hafter := hcleared.after (hT.reset w.backend.link)
    refine hafter.settled rfl rfl rfl rfl rfl rfl ?_ rfl
    show (PrinterState.printing, false, b'.jobsCompleted, b'.jobsFailed) = (_, false, _, _)
    rw [hcompleted, hfailed]
    rfl
  · exact h

/-- One attempt. -/
theorem Shifted.offer (hT : T.Fresh) (h : Shifted c w b') (data : Bytes) :
    (UsbPrinterBackend.offer T b' data).1 = (UsbPrinterBackend.offer T w.backend data).1 ∧
      Shifted c ⟨(UsbPrinterBackend.offer T w.backend data).2, w.sampled⟩ (UsbPrinterBackend.offer T b' data).2 := by
  unfold UsbPrinterBackend.offer
  rw [h.link]
  split
  · exact ⟨rfl, h.after (hT.push w.backend.link data)⟩
  · exact ⟨rfl, h.after (hT.bulkWriteAll w.backend.link data)⟩

/-- The three attempts. -/
theorem shifted_sendLoop (hT : T.Fresh) (job : JobKey) (data : Bytes) : ∀ (n : Nat) (error : String)
    (w : Watched σ) (b' : UsbPrinterBackend σ), Shifted c w b' →
    Shifted c ⟨(sendLoop T job data n error w.backend).2, w.sampled⟩ (sendLoop T job data n error b').2
  | 0, error, w, b', h => h.abort error
  | n + 1, error, w, b', h => by
    obtain ⟨h1, h2⟩ := h.offer hT data
    simp only [sendLoop]
    generalize hr : UsbPrinterBackend.offer T w.backend data = x at h1 h2
    generalize hr' : UsbPrinterBackend.offer T b' data = x' at h1 h2
    obtain ⟨r, m⟩ := x
    obtain ⟨r', m'⟩ := x'
    obtain rfl : r' = r := h1
    cases r' with
    | none => exact ⟨h2.host, h2.link, h2.now, h2.decisions, h2.started, h2.sampled, h2.unsampled, h2.stamp⟩
    | some e =>
      have hdelay : Shifted c ⟨{ m with now := m.now + 100 }, w.sampled⟩ { m' with now := m'.now + 100 } := by
        refine ⟨h2.host, h2.link, ?_, h2.decisions, h2.started, h2.sampled, h2.unsampled, h2.stamp⟩
        show m'.now + 100 = m.now + 100 + c
        have hnow : m'.now = m.now + c := h2.now
        omega
      exact shifted_sendLoop hT job data n e _ _ hdelay

/-- A call that starts no drain keeps the record of its sample. -/
theorem Shifted.keeps (call : Call) (h : Shifted c ⟨w.backend.call T call, w.sampled⟩ b')
    (hp : (w.backend.call T call).drainPending = true → w.backend.drainPending = true) :
    Shifted c (w.call T call) b' := by
  have hno : ¬ (!w.backend.drainPending && (w.backend.call T call).drainPending) = true := by
    simp only [Bool.and_eq_true, Bool.not_eq_true']
    rintro ⟨h1, h2⟩
    cases h1.symm.trans (hp h2)
  unfold Watched.call
  dsimp only
  rw [if_neg hno]
  exact h

theorem Shifted.sendDirect (hT : T.Fresh) (h : Shifted c w b') (job : JobKey) (data : Bytes) :
    Shifted c (w.call T (.sendDirect job data)) (b'.call T (.sendDirect job data)) := by
  have hpend : (w.backend.call T (.sendDirect job data)).drainPending = true → w.backend.drainPending = true := by
    intro hd
    have hd : (w.backend.sendDirect T job data).2.ledger.drainPending = true := hd
    have hstart : w.backend.ledger.start.drainPending = true → w.backend.drainPending = true := by
      unfold Ledger.start
      split
      · exact fun hd => (by cases hd)
      · exact id
    rcases sendDirect_cases T w.backend job data with ⟨-, e⟩ | ⟨-, -, ⟨-, e⟩ | ⟨-, e⟩⟩
    · rw [e] at hd
      exact hd
    · rw [e] at hd
      exact hstart hd
    · rw [e] at hd
      cases hd
  refine Shifted.keeps _ ?_ hpend
  show Shifted c ⟨(w.backend.sendDirect T job data).2, w.sampled⟩ (b'.sendDirect T job data).2
  have husable : b'.host.selectedInterfaceUsable = w.backend.host.selectedInterfaceUsable := by
    rw [h.host]
    rfl
  unfold UsbPrinterBackend.sendDirect
  rw [husable, h.fields.1]
  split
  · exact h
  · split
    · exact h
    · split
      · exact h
      · exact shifted_sendLoop hT job data 3 "" _ _ (h.startJob hT)

theorem Shifted.finishRawJob (hT : T.Fresh) (h : Shifted c w b') :
    Shifted c (w.call T .finishRawJob) (b'.call T .finishRawJob) := by
  obtain ⟨hstate, hpending, hcompleted, hfailed⟩ := h.fields
  show Shifted c ⟨w.backend.finishRawJob T,
    if !w.backend.drainPending && (w.backend.finishRawJob T).drainPending then (w.backend.finishRawJob T).usbStatusValid
    else w.sampled⟩ (b'.finishRawJob T)
  unfold UsbPrinterBackend.finishRawJob
  rw [hstate, hpending, h.link]
  by_cases h0 : w.backend.state ≠ .printing ∨ w.backend.drainPending = true
  · simp only [if_pos h0, Bool.not_and_self, Bool.false_eq_true, if_false]
    exact h
  · have hidle : w.backend.drainPending = false := by simpa using (not_or.1 h0).2
    simp only [if_neg h0]
    generalize ha : (if T.ready w.backend.link then T.flush w.backend.link else T.waitForBulkOut w.backend.link) = a
    have hfresh : a.took.Fresh := by
      rw [← ha]
      split
      · exact hT.flush w.backend.link
      · exact hT.waitForBulkOut w.backend.link
    have hafter := h.after hfresh
    split
    · exact hafter.abort a.error
    · -- the drain begins
      have hvalid := hafter.valid
      rw [hidle, hvalid]
      have hstarted : millis (b'.after a).now = shiftMs c (millis (w.backend.after a).now) := by
        rw [shiftMs_millis, ← hafter.now]
      refine ⟨hafter.host, hafter.link, hafter.now, ?_, fun _ => hstarted, fun _ hs => ?_, fun _ hs => ?_, hafter.stamp⟩
      · show (b'.state, true, b'.jobsCompleted, b'.jobsFailed) =
          (w.backend.state, true, w.backend.jobsCompleted, w.backend.jobsFailed)
        rw [hstate, hcompleted, hfailed]
      · have hs : (w.backend.after a).usbStatusValid = true := hs
        dsimp only
        rw [if_pos hs, if_pos hs]
        exact ⟨hafter.stamp hs, hafter.newest hs⟩
      · have hs : (w.backend.after a).usbStatusValid = false := hs
        dsimp only
        rw [if_neg (by simp [hs]), if_neg (by simp [hs])]
        exact ⟨rfl, rfl⟩

/-- The state that `followHost` sets. -/
def polled (b : UsbPrinterBackend σ) : PrinterState :=
  if b.state = .printing then .printing
  else match b.host.state with
    | .printerReady =>
      if !b.host.selectedInterfaceUsable then .error
      else if !b.statusSaysReady then if b.usbStatusError then .error else .offline
      else .idle
    | .error => .error
    | _ => .offline

theorem followHost_eq (b : UsbPrinterBackend σ) : ∃ r, b.followHost = { b with state := b.polled, reason := r } := by
  unfold UsbPrinterBackend.followHost polled
  by_cases hp : b.state = .printing
  · rw [if_pos hp, if_pos hp, ← hp]
    exact ⟨b.reason, rfl⟩
  · rw [if_neg hp, if_neg hp]
    cases b.host.state with
    | printerReady =>
      dsimp only
      split
      · exact ⟨_, rfl⟩
      · split <;> exact ⟨_, rfl⟩
    | _ => exact ⟨_, rfl⟩

theorem Shifted.followHost (h : Shifted c w b') : Shifted c (w.call T .followHost) (b'.call T .followHost) := by
  obtain ⟨hstate, hpending, hcompleted, hfailed⟩ := h.fields
  obtain ⟨r, hr⟩ := followHost_eq w.backend
  obtain ⟨r', hr'⟩ := followHost_eq b'
  have hpolled : b'.polled = w.backend.polled := by
    unfold polled statusSaysReady usbPaperEmpty usbStatusError usbStatusSelected
    rw [hstate, h.valid, h.value, h.host]
    rfl
  refine Shifted.keeps _ ?_ ?_
  · show Shifted c ⟨w.backend.followHost, w.sampled⟩ b'.followHost
    rw [hr, hr', hpolled]
    refine ⟨h.host, h.link, h.now, ?_, h.started, h.sampled, h.unsampled, h.stamp⟩
    show (w.backend.polled, b'.drainPending, b'.jobsCompleted, b'.jobsFailed) = (w.backend.polled, _, _, _)
    rw [hpending, hcompleted, hfailed]
  · show w.backend.followHost.drainPending = true → w.backend.drainPending = true
    rw [hr]
    exact id

/-- The two comparisons, where one is made. -/
theorem Shifted.fresh_iff (h : Shifted c w b') (ha : w.backend.AsksForFresh) :
    b'.freshStatus = w.backend.freshStatus ↔ StampsTogether c w := by
  have hv := ha.valid
  have hnewest := h.newest hv
  have hstamp := h.stamp hv
  unfold UsbPrinterBackend.freshStatus StampsTogether
  rw [h.valid, hv, Bool.true_and, Bool.true_and, decide_eq_decide, hnewest]
  dsimp only
  cases hs : w.sampled with
  | true =>
    obtain ⟨hlt, hstart⟩ := h.sampled ha.pending hs
    rw [if_pos rfl, hstart]
    exact shiftMs_lt_iff hlt hstamp
  | false =>
    obtain ⟨hzero, hzero'⟩ := h.unsampled ha.pending hs
    rw [if_neg (by simp), hzero, hzero']
    exact zero_lt_shiftMs_iff

theorem Shifted.age (h : Shifted c w b') (hd : w.backend.drainPending = true) : b'.age = w.backend.age := by
  unfold UsbPrinterBackend.age
  rw [h.now, h.started hd]
  exact sub32_shiftMs c _ _

theorem Shifted.asks (h : Shifted c w b') (ha : w.backend.AsksForFresh) : b'.AsksForFresh := by
  obtain ⟨hstate, hpending, -, -⟩ := h.fields
  have hready : b'.statusSaysReady = w.backend.statusSaysReady := by
    unfold statusSaysReady usbPaperEmpty usbStatusError usbStatusSelected
    rw [h.valid, h.value]
  refine ⟨hpending.trans ha.pending, hstate.trans ha.printing, h.valid.trans ha.valid, hready.trans ha.ready, ?_, ?_⟩
  · rw [h.age ha.pending]
    exact ha.guarded
  · rw [h.age ha.pending]
    exact ha.waiting

/-- The drain goes on together, or ends together. -/
theorem Shifted.completeDrain (h : Shifted c w b') (hc : w.backend.AsksForFresh → StampsTogether c w) :
    Shifted c (w.call T .completeDrainIfReady) (b'.call T .completeDrainIfReady) := by
  obtain ⟨h1, h2, h3, h4, h5, h6⟩ := completeDrain_frame w.backend
  obtain ⟨h1', h2', h3', h4', h5', -⟩ := completeDrain_frame b'
  have hd : b'.completeDrainIfReady.decisions = w.backend.completeDrainIfReady.decisions := by
    by_cases hp : w.backend.drainPending = true
    · exact decisions_congr h.decisions h.valid h.value (h.age hp) fun ha => (h.fresh_iff ha).2 (hc ha)
    · have hp' : ¬ b'.drainPending = true := by rwa [h.fields.2.1]
      rw [decisions_completeDrain, decisions_completeDrain, if_pos (Or.inl (by simpa using hp')),
        if_pos (Or.inl (by simpa using hp)), h.decisions]
  refine Shifted.keeps _ ?_ h6
  show Shifted c ⟨w.backend.completeDrainIfReady, w.sampled⟩ b'.completeDrainIfReady
  refine ⟨?_, ?_, ?_, hd, fun hp => ?_, fun hp hs => ?_, fun hp hs => ?_, ?_⟩
  · rw [h1', h1, h.host]
  · rw [h2', h2, h.link]
  · rw [h3', h3, h.now]
  · rw [h4', h4, h.started (h6 hp)]
  · rw [h5', h5]
    exact h.sampled (h6 hp) hs
  · rw [h5', h5]
    exact h.unsampled (h6 hp) hs
  · unfold usbStatusValid
    rw [h1]
    exact h.stamp

/-- Where the comparisons differ one drain ends and the other goes on. -/
theorem Shifted.completeDrain_ne (h : Shifted c w b') (ha : w.backend.AsksForFresh) (hno : ¬ StampsTogether c w) :
    w.backend.completeDrainIfReady.decisions ≠ b'.completeDrainIfReady.decisions := by
  have hne : b'.freshStatus ≠ w.backend.freshStatus := fun hf => hno ((h.fresh_iff ha).1 hf)
  have hprinting := ha.printing
  rw [decisions_asks ha, decisions_asks (h.asks ha), h.decisions]
  cases hf : w.backend.freshStatus with
  | true =>
    have hf' : b'.freshStatus = false := by simpa [hf] using hne
    rw [hf', if_pos rfl, if_neg (by simp)]
    intro he
    cases (congrArg Prod.fst he).trans hprinting
  | false =>
    have hf' : b'.freshStatus = true := by simpa [hf] using hne
    rw [hf', if_neg (by simp), if_pos rfl]
    intro he
    cases hprinting.symm.trans (congrArg Prod.fst he)

/-- One call. -/
theorem shifted_call (hT : T.Fresh) (h : Shifted c w b') (call : Call) (hf : call.Fresh) (hc : ClockBlind c w call) :
    Shifted c (w.call T call) (b'.call T call) := by
  cases call with
  | sendDirect job data => exact h.sendDirect hT job data
  | finishRawJob => exact h.finishRawJob hT
  | abortRawJob reason =>
    refine Shifted.keeps _ (h.abort reason) fun hd => ?_
    have hd : (w.backend.abortRawJob reason).drainPending = true := hd
    have hidle : (w.backend.abortRawJob reason).drainPending = false :=
      congrArg (·.2.1) (abortRawJob_frame w.backend reason).2.2.2
    cases hidle.symm.trans hd
  | completeDrainIfReady => exact h.completeDrain hc
  | followHost => exact h.followHost
  | pass t => exact Shifted.keeps _ (h.pass hf) id

/-- A step that is not the same shows. -/
theorem shifted_call_ne (h : Shifted c w b') (call : Call) (hno : ¬ ClockBlind c w call) :
    (w.backend.call T call).decisions ≠ (b'.call T call).decisions := by
  cases call with
  | completeDrainIfReady =>
    obtain ⟨ha, hno⟩ := Classical.not_imp.1 hno
    exact h.completeDrain_ne ha hno
  | _ => exact absurd trivial hno

theorem foldl_watched (T : Transport σ) (calls : List Call) : ∀ w : Watched σ,
    (calls.foldl (Watched.call T) w).backend = calls.foldl (call T) w.backend := by
  induction calls with
  | nil => exact fun _ => rfl
  | cons a calls ih => exact fun w => ih (w.call T a)

/-- **Drain decisions and the absolute clock.** The run with every `millis()` value shifted by `c` decides
the same after every step exactly if, wherever a drain asks for a fresh status, its two stamps pass the
wrap together. -/
theorem clock_shift_iff (hT : T.Fresh) (host : UsbHostManager) (link : σ) (now c : Nat)
    (hstamp : host.device.portStatus.valid = true → host.device.portStatus.updatedAt < 2 ^ 32)
    {calls : List Call} (hf : ∀ a ∈ calls, a.Fresh) :
    (∀ pre, pre <+: calls → (pre.foldl (call T) (begin host link now)).decisions =
        (pre.foldl (call T) (begin (host.shift c) link (now + c))).decisions) ↔
      Lib.Meets (fun w a => some (Watched.call T w a)) (ClockBlind c) { backend := begin host link now } calls := by
  have hno : ∀ {p : Prop}, (begin host link now).drainPending = true → p := fun h => (by cases h)
  have hstart : Shifted c { backend := begin host link now } (begin (host.shift c) link (now + c)) :=
    ⟨rfl, rfl, rfl, rfl, hno, hno, hno, hstamp⟩
  have h := Lib.lockstep_iff (Watched.call T) (call T) (fun w => w.backend.decisions) UsbPrinterBackend.decisions
    (P := Call.Fresh) (C := ClockBlind c)
    (fun _ _ hr => hr.decisions.symm) (fun _ _ a hr hp hc => shifted_call hT hr a hp hc)
    (fun _ _ a hr _ hc => shifted_call_ne hr a hc) calls _ _ hstart hf
  simp only [foldl_watched] at h
  exact h

end shifted

theorem fresh_immediate : Transport.immediate.Fresh :=
  have hno : ({} : Tick).Fresh := fun _ he => (by cases he)
  ⟨fun _ => hno, fun _ _ => hno, fun _ => hno, fun _ _ => hno, fun _ => hno⟩

/-- A RAW job with a status before its end and one 1.5 s after it. -/
def drainWithStatus : List Call :=
  [.followHost, .pass { ms := 100, events := [.portStatusTransfer true 0x18 ""] }, .sendDirect (.raw 1) [66],
    .finishRawJob, .pass { ms := 1500, events := [.portStatusTransfer true 0x18 ""] }, .completeDrainIfReady]

theorem fresh_drainWithStatus : ∀ a ∈ drainWithStatus, a.Fresh := by
  have hstatus : ∀ ms, ({ ms, events := [.portStatusTransfer true 0x18 ""] } : Tick).Fresh := by
    intro ms e he
    obtain rfl := List.mem_singleton.1 he
    trivial
  intro a ha
  simp only [drainWithStatus, List.mem_cons, List.not_mem_nil, or_false] at ha
  rcases ha with rfl | rfl | rfl | rfl | rfl | rfl
  · trivial
  · exact hstatus 100
  · trivial
  · trivial
  · exact hstatus 1500
  · trivial

/-- A shift that keeps the run away from the wrap. -/
theorem clock_shift_iff_drainWithStatus :
    (drainWithStatus.foldl (call .immediate) (begin .enumeratedPrinter () 0)).decisions =
      (drainWithStatus.foldl (call .immediate) (begin (UsbHostManager.enumeratedPrinter.shift 5000) () (0 + 5000))).decisions :=
  (clock_shift_iff fresh_immediate .enumeratedPrinter () 0 5000 (fun h => (by cases h)) fresh_drainWithStatus).2
    (by decide +kernel) drainWithStatus List.prefix_rfl

/-- The counter wraps between the end of the document and the next status: the job ends in the one run
and waits in the other. -/
theorem clock_seen :
    (drainWithStatus.foldl (call .immediate) (begin .enumeratedPrinter () 0)).decisions = (.idle, false, 1, 0) ∧
      (drainWithStatus.foldl (call .immediate)
        (begin (UsbHostManager.enumeratedPrinter.shift (2 ^ 32 - 1000)) () (0 + (2 ^ 32 - 1000)))).decisions =
        (.printing, true, 0, 0) := by
  decide +kernel

end UsbPrinterBackend
end PrintServer
