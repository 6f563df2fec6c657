import Mathlib.Data.List.DropRight
import Mathlib.Data.List.Forall2
import PrintServer.RawPassthrough
/-!
# The staging ring between the socket and `sendDirect` (usb_printer_backend.cpp:180-282, 321-426)

`Staging` is the server inside a call, with what the socket still holds for this poll (`rx`). What the
connection's reads have returned (`got`) and what `sendDirect` has taken of it (`given`) stand in the
log, behind the last accept or reset. `Stage` is one block of the code.

| here | there |
| --- | --- |
| `read`           | a read and what follows it (:334-351) |
| `give`, `refuse` | a turn of `drainRingToUsb` (:264-278) |
| `finish`         | `finishRawConnection` with a job (:225-228) |
| `reset`          | `resetRawTransportState`, after an abort or without a job |
| `accept`         | a new client (:310-315) |
| `note`           | other log lines, and the close guard (:238) |
-/
namespace PrintServer

/-! ## What the log says of a connection -/

namespace RawEvent

/-- A connection begins or is over. -/
def bounds : RawEvent → Bool
  | .connected | .closedWithoutData | .complete | .incomplete _ | .probeIdle => true
  | _ => false

/-- Nothing is moved, and the connection goes on. -/
def idle : RawEvent → Bool
  | .rejected | .eoj | .stalled => true
  | _ => false

end RawEvent

/-- The log of the connection that there is. -/
def ofConnection (log : List RawEvent) : List RawEvent := log.rtakeWhile fun e => !e.bounds

/-- What the reads returned, in order. -/
def readsOf (log : List RawEvent) : List Bytes :=
  log.filterMap fun e => match e with
    | .read data => some data
    | _ => none

theorem readsOf_append (l l' : List RawEvent) : readsOf (l ++ l') = readsOf l ++ readsOf l' := List.filterMap_append

theorem ofConnection_append {l l' : List RawEvent} (h : ∀ e ∈ l', e.bounds = false) :
    ofConnection (l ++ l') = ofConnection l ++ l' := by
  unfold ofConnection List.rtakeWhile
  rw [List.reverse_append, List.takeWhile_append_of_pos, List.reverse_append, List.reverse_reverse]
  intro e he
  rw [h e (List.mem_reverse.1 he)]
  rfl

theorem ofConnection_bound (l : List RawEvent) {e : RawEvent} (h : e.bounds = true) : ofConnection (l ++ [e]) = [] :=
  List.rtakeWhile_concat_neg _ _ _ (by rw [h]; exact Bool.false_ne_true)

theorem idle_spec {l : List RawEvent} (h : ∀ e ∈ l, e.idle = true) :
    (∀ e ∈ l, e.bounds = false) ∧ payload l = [] ∧ readsOf l = [] := by
  refine ⟨fun e he => ?_, ?_, ?_⟩
  · have := h e he
    cases e <;> first | rfl | cases this
  · unfold payload
    rw [List.filterMap_eq_nil_iff.2, List.flatten_nil]
    intro e he
    have := h e he
    cases e <;> first | rfl | cases this
  · refine List.filterMap_eq_nil_iff.2 fun e he => ?_
    have := h e he
    cases e <;> first | rfl | cases this

structure Staging (σ : Type) where
  serving : Serving σ
  rx : List Bytes := []

namespace Staging
variable {σ : Type}

def got (m : Staging σ) : Bytes := (readsOf (ofConnection m.serving.log)).flatten

def given (m : Staging σ) : Bytes := payload (ofConnection m.serving.log)

end Staging

namespace RawServer

/-- The length of one block of `drainRingToUsb` (:264-266). -/
def block (r : RawServer) : Nat := min (min r.dataLen bulkOutChunkSize) (usbBufferSize - r.readPos)

/-- What a block holds. -/
def front (r : RawServer) : Bytes := Lib.Ring.read r.mem r.readPos r.block

/-- The same ring, seen from the other fields. -/
structure SameRing (r r' : RawServer) : Prop where
  mem : r'.mem = r.mem
  writePos : r'.writePos = r.writePos
  readPos : r'.readPos = r.readPos
  dataLen : r'.dataLen = r.dataLen
  bytesReceived : r'.bytesReceived = r.bytesReceived

end RawServer

/-- One block of the code. -/
inductive Stage {σ : Type} (T : Transport σ) : Staging σ → Staging σ → Prop
  | read {s : Serving σ} {bs : Bytes} {rx : List Bytes} (pjl : PjlDetector)
      (ho : s.raw.isOpen = true) (hroom : s.raw.dataLen < usbBufferSize) (hne : bs.take s.raw.request ≠ []) :
    Stage T ⟨s, bs :: rx⟩
      ⟨({ s with raw := { s.raw.receive s.backend.now (bs.take s.raw.request) with pjl } } : Serving σ).note
        (.read (bs.take s.raw.request)), rx⟩
  | give {s : Serving σ} {rx : List Bytes} {b : UsbPrinterBackend σ} (ho : s.raw.isOpen = true) (hd : s.raw.dataLen ≠ 0)
      (hs : s.backend.sendDirect T (.raw s.raw.connection) s.raw.front = (none, b)) :
    Stage T ⟨s, rx⟩ ⟨({ s with backend := b, raw := s.raw.sent s.raw.block } : Serving σ).note (.sent s.raw.front true), rx⟩
  | refuse {s : Serving σ} {rx : List Bytes} {b : UsbPrinterBackend σ} {error : String}
      (ho : s.raw.isOpen = true) (hd : s.raw.dataLen ≠ 0)
      (hs : s.backend.sendDirect T (.raw s.raw.connection) s.raw.front = (some error, b)) :
    Stage T ⟨s, rx⟩ ⟨(({ s with backend := b } : Serving σ).note (.sent s.raw.front false)).abortRawConnection error, rx⟩
  | finish {s : Serving σ} {rx : List Bytes} (reason : String)
      (ho : s.raw.isOpen = true) (hd : s.raw.dataLen = 0) (h0 : s.raw.bytesReceived ≠ 0) :
    Stage T ⟨s, rx⟩ ⟨s.finishRawConnection T reason, rx⟩
  | reset {s s' : Serving σ} {rx : List Bytes} {e : RawEvent} (h : s'.raw = s.raw.reset)
      (hb : s'.backend = s.backend ∨ ∃ reason, s'.backend = s.backend.abortRawJob reason)
      (hl : s'.log = s.log ++ [e]) (he : e.bounds = true ∧ readsOf [e] = []) : Stage T ⟨s, rx⟩ ⟨s', rx⟩
  | accept {s : Serving σ} {rx : List Bytes} (hc : s.raw.rawClientConnected = false) :
    Stage T ⟨s, rx⟩
      ⟨({ s with
        raw := { s.raw with
          client := true, lastDataMs := millis s.backend.now, bytesReceived := 0
          connection := s.raw.connection + 1, pjl := .idle } } : Serving σ).note .connected, rx⟩
  | note {s s' : Serving σ} {rx : List Bytes} {l : List RawEvent} (h : s.raw.SameRing s'.raw)
      (hc : s'.raw.client = s.raw.client) (ht : s'.raw.transportClosing = s.raw.transportClosing)
      (hb : s'.backend = s.backend) (hl : s'.log = s.log ++ l) (hi : ∀ e ∈ l, e.idle = true) : Stage T ⟨s, rx⟩ ⟨s', rx⟩

/-- A row of blocks. -/
abbrev Stages {σ : Type} (T : Transport σ) : Staging σ → Staging σ → Prop := Relation.ReflTransGen (Stage T)

/-- Between two polls: the next one finds the backend and the socket as they are then. -/
def Staging.enter {σ : Type} (m : Staging σ) (v : Visit σ) : Staging σ :=
  ⟨⟨v.backend, m.serving.raw.startIfNeeded v.poll.network, m.serving.log⟩, v.poll.rx⟩

/-- The states the server goes through in the polls `vs`, from its start. -/
inductive Staged {σ : Type} (T : Transport σ) : List (Visit σ) → Staging σ → Prop
  | start (b : UsbPrinterBackend σ) : Staged T [] ⟨⟨b, {}, []⟩, []⟩
  | step {vs : List (Visit σ)} {m m' : Staging σ} (h : Staged T vs m) (hs : Stage T m m') : Staged T vs m'
  | poll {vs : List (Visit σ)} {m : Staging σ} (h : Staged T vs m) (v : Visit σ) : Staged T (vs ++ [v]) (m.enter v)

/-! ## The invariant -/

/-- What has been read is what has been given away and then what the ring holds. -/
structure Staging.Inv {σ : Type} (m : Staging σ) : Prop where
  ring : m.serving.raw.RingOk
  order : m.given ++ m.serving.raw.queue = m.got
  count : m.serving.raw.bytesReceived = m.given.length
  closing : m.serving.raw.transportClosing = true → m.serving.raw.dataLen = 0
  rest : m.serving.raw.Rest

namespace RawServer
variable {r r' : RawServer}

theorem block_le (r : RawServer) : r.block ≤ r.dataLen := Nat.le_trans (Nat.min_le_left _ _) (Nat.min_le_left _ _)

theorem front_eq (h : r.RingOk) : r.front = r.queue.take r.block :=
  read_front r.block_le (Nat.min_le_right _ _) h.readPos_lt

theorem SameRing.queue (h : r.SameRing r') : r'.queue = r.queue := by
  unfold RawServer.queue
  rw [h.mem, h.readPos, h.dataLen]

theorem SameRing.ringOk (h : r.SameRing r') (hr : r.RingOk) : r'.RingOk :=
  ⟨by rw [h.readPos]; exact hr.readPos_lt, by rw [h.dataLen]; exact hr.dataLen_le,
    by rw [h.writePos, h.readPos, h.dataLen]; exact hr.writePos_eq⟩

end RawServer

namespace Staging
variable {σ : Type} {T : Transport σ} {m m' : Staging σ}

/-- Without a connection, and at its accept, the ring is empty and the record is. -/
theorem inv_empty {s : Serving σ} (rx : List Bytes) (hl : ofConnection s.log = []) (hw : s.raw.writePos = 0)
    (hr : s.raw.readPos = 0) (hd : s.raw.dataLen = 0) (hb : s.raw.bytesReceived = 0) : Inv ⟨s, rx⟩ where
  ring := RawServer.ringOk_empty hw hr hd
  order := by
    unfold got given
    rw [hl, RawServer.queue_eq_nil.2 hd]
    rfl
  count := by
    unfold given
    rw [hl, hb]
    rfl
  closing := fun _ => hd
  rest := fun _ => ⟨hw, hr, hd⟩

theorem inv_reset {s : Serving σ} {r : RawServer} (rx : List Bytes) (h : s.raw = r.reset) (hl : ofConnection s.log = []) :
    Inv ⟨s, rx⟩ := by
  refine inv_empty rx hl ?_ ?_ ?_ ?_ <;> rw [h] <;> rfl

/-- A connection that is open. -/
theorem inv_open {s : Serving σ} {rx : List Bytes} (ho : s.raw.isOpen = true) (hr : s.raw.RingOk)
    (hq : given ⟨s, rx⟩ ++ s.raw.queue = got ⟨s, rx⟩) (hc : s.raw.bytesReceived = (given ⟨s, rx⟩).length) : Inv ⟨s, rx⟩ :=
  have hs := RawServer.sound_of_open ho hr
  ⟨hr, hq, hc, hs.closing, hs.rest⟩

/-- The record with events that do not bound it. -/
theorem record_append (s s' : Serving σ) (rx rx' : List Bytes) {l : List RawEvent} (hl : s'.log = s.log ++ l)
    (hb : ∀ e ∈ l, e.bounds = false) :
    got ⟨s', rx'⟩ = got ⟨s, rx⟩ ++ (readsOf l).flatten ∧ given ⟨s', rx'⟩ = given ⟨s, rx⟩ ++ payload l := by
  unfold got given
  rw [hl, ofConnection_append hb, readsOf_append, List.flatten_append, payload_append]
  exact ⟨rfl, rfl⟩

theorem bounds_singleton {e : RawEvent} (h : e.bounds = false) : ∀ x ∈ [e], x.bounds = false :=
  fun _ hx => List.mem_singleton.1 hx ▸ h

/-- Every block keeps it. -/
theorem Inv.stage (h : m.Inv) (hs : Stage T m m') : m'.Inv := by
  cases hs with
  | @read s bs rx pjl ho hroom hne =>
    have hle : (bs.take s.raw.request).length ≤ s.raw.request := List.length_take_le _ _
    obtain ⟨hgot, hgiven⟩ := record_append s (({ s with
      raw := { s.raw.receive s.backend.now (bs.take s.raw.request) with pjl } } : Serving σ).note
        (.read (bs.take s.raw.request))) (bs :: rx) rx rfl (bounds_singleton rfl)
    refine inv_open ho ((RawServer.ringOk_receive s.backend.now h.ring hle).scanned pjl) ?_ ?_
    · have hq := RawServer.queue_receive s.backend.now h.ring hle
      have horder : given ⟨s, bs :: rx⟩ ++ s.raw.queue = got ⟨s, bs :: rx⟩ := h.order
      rw [hgot, hgiven, ← horder]
      simp only [payload, readsOf, List.filterMap_cons, List.filterMap_nil, List.flatten_nil, List.flatten_cons,
        List.append_nil, List.append_assoc, ← hq]
      rfl
    · rw [hgiven]
      exact h.count.trans (congrArg List.length (List.append_nil _).symm)
  | @give s rx b ho hd hs =>
    have hfront : s.raw.front = s.raw.queue.take s.raw.block := RawServer.front_eq h.ring
    have horder : given ⟨s, rx⟩ ++ s.raw.queue = got ⟨s, rx⟩ := h.order
    obtain ⟨hgot, hgiven⟩ := record_append s (({ s with backend := b, raw := s.raw.sent s.raw.block } : Serving σ).note
      (.sent s.raw.front true)) rx rx rfl (bounds_singleton rfl)
    have hpay : payload [.sent s.raw.front true] = s.raw.front := List.append_nil _
    refine inv_open ho (RawServer.ringOk_sent h.ring s.raw.block_le) ?_ ?_
    · have hq := RawServer.queue_sent s.raw.block_le
      rw [hgot, hgiven, hpay, ← horder, hfront, List.append_assoc]
      refine (congrArg (given ⟨s, rx⟩ ++ ·) ((congrArg (s.raw.queue.take s.raw.block ++ ·) hq).trans
        (List.take_append_drop _ _))).trans (List.append_nil _).symm
    · have hlen : s.raw.front.length = s.raw.block := by
        rw [hfront, List.length_take, RawServer.length_queue, Nat.min_eq_left s.raw.block_le]
      have hc : s.raw.bytesReceived = (given ⟨s, rx⟩).length := h.count
      rw [hgiven, hpay, List.length_append, hlen, ← hc]
      rfl
  | refuse => exact inv_reset _ rfl (ofConnection_bound _ rfl)
  | @finish s rx reason ho hd h0 =>
    have hclosing : s.raw.transportClosing = false := (RawServer.isOpen_iff.1 ho).2
    unfold Serving.finishRawConnection
    rw [hclosing, if_neg Bool.false_ne_true, if_neg h0]
    obtain ⟨hgot, hgiven⟩ := record_append s (({ s with
      backend := s.backend.finishRawJob T
      raw := { s.raw with transportClosing := true, closeGuardStarted := false, transportCloseAtMs := 0 } } : Serving σ).note
        (.inputComplete reason)) rx rx rfl (bounds_singleton rfl)
    rw [show (readsOf [.inputComplete reason]).flatten = [] from rfl, List.append_nil] at hgot
    rw [show payload [.inputComplete reason] = [] from rfl, List.append_nil] at hgiven
    refine ⟨⟨h.ring.readPos_lt, h.ring.dataLen_le, h.ring.writePos_eq⟩, ?_, ?_, fun _ => hd, fun hc => ?_⟩
    · rw [hgot, hgiven]
      exact h.order
    · rw [hgiven]
      exact h.count
    · cases hc.symm.trans (RawServer.connected_of_closing rfl)
  | reset hr hb hl he => exact inv_reset _ hr (hl ▸ ofConnection_bound _ he.1)
  | @accept s rx hc =>
    obtain ⟨hw, hrp, hd⟩ := h.rest hc
    exact inv_empty rx (ofConnection_bound _ rfl) hw hrp hd rfl
  | @note s s' rx l hsame hc ht hback hl hi =>
    obtain ⟨hb, hpay, hreads⟩ := idle_spec hi
    obtain ⟨hgot, hgiven⟩ := record_append _ _ rx rx hl hb
    rw [hreads, List.flatten_nil, List.append_nil] at hgot
    rw [hpay, List.append_nil] at hgiven
    refine ⟨hsame.ringOk h.ring, ?_, ?_, ?_, ?_⟩
    · rw [hsame.queue, hgot, hgiven]
      exact h.order
    · rw [hgiven]
      exact hsame.bytesReceived.trans h.count
    · intro hcl
      exact hsame.dataLen.trans (h.closing (ht.symm.trans hcl))
    · intro hno
      have hfree : s.raw.rawClientConnected = false := by
        unfold RawServer.rawClientConnected at hno ⊢
        rwa [hc, ht] at hno
      obtain ⟨hw, hr, hd⟩ := h.rest hfree
      exact ⟨hsame.writePos.trans hw, hsame.readPos.trans hr, hsame.dataLen.trans hd⟩

theorem Inv.enter (h : m.Inv) (v : Visit σ) : (m.enter v).Inv :=
  ⟨⟨h.ring.readPos_lt, h.ring.dataLen_le, h.ring.writePos_eq⟩, h.order, h.count, h.closing, h.rest⟩

theorem inv_of_staged {vs : List (Visit σ)} (h : Staged T vs m) : m.Inv := by
  induction h with
  | start b => exact inv_empty [] (by rfl) rfl rfl rfl rfl
  | step _ hs ih => exact ih.stage hs
  | poll _ v ih => exact ih.enter v

/-- What the ring promises, at every moment. -/
structure Fifo (m : Staging σ) : Prop where
  positions : m.serving.raw.writePos = (m.serving.raw.readPos + m.serving.raw.dataLen) % usbBufferSize
  fits : m.serving.raw.dataLen ≤ usbBufferSize
  /-- The next read stays inside the buffer. -/
  inside : m.serving.raw.writePos + m.serving.raw.request ≤ usbBufferSize
  /-- It writes to no cell that holds a byte not sent yet. -/
  apart : ∀ i < m.serving.raw.request, ∀ j < m.serving.raw.dataLen,
    m.serving.raw.writePos + i ≠ (m.serving.raw.readPos + j) % usbBufferSize
  order : m.given ++ m.serving.raw.queue = m.got
  count : m.serving.raw.bytesReceived = m.given.length
  /-- An accept finds the ring empty. -/
  free : m.serving.raw.rawClientConnected = false → m.serving.raw.dataLen = 0
  /-- And so it is when `finishRawJob` gets the job, which sets the flag and leaves the ring alone. -/
  handed : m.serving.raw.transportClosing = true → m.serving.raw.dataLen = 0

theorem Inv.fifo (h : m.Inv) : m.Fifo where
  positions := h.ring.writePos_eq
  fits := h.ring.dataLen_le
  inside := by
    rw [RawServer.request_eq h.ring]
    have hw := h.ring.writePos_lt
    omega
  apart := by
    intro i hi j hj
    rw [RawServer.request_eq h.ring] at hi
    have hr := h.ring.readPos_lt
    have hd := h.ring.dataLen_le
    rw [h.ring.writePos_eq] at hi ⊢
    unfold usbBufferSize at *
    omega
  order := h.order
  count := h.count
  free := fun hc => (h.rest hc).2.2
  handed := h.closing

end Staging
/-! ## A call is a row of blocks -/

namespace Serving
variable {σ : Type} (T : Transport σ)

/-- From `s`, with `rx` still to read, the code gets to `s'` block by block. -/
def Leads (s : Serving σ) (rx : List Bytes) (s' : Serving σ) : Prop := ∃ rx', Stages T ⟨s, rx⟩ ⟨s', rx'⟩

variable {s m s' : Serving σ} {rx : List Bytes}

theorem leads_refl (s : Serving σ) (rx : List Bytes) : Leads T s rx s := ⟨rx, .refl⟩

variable {T} in
theorem Leads.trans (h : Leads T s rx m) (h' : ∀ rx, Leads T m rx s') : Leads T s rx s' := by
  obtain ⟨rx', h1⟩ := h
  obtain ⟨rx'', h2⟩ := h' rx'
  exact ⟨rx'', h1.trans h2⟩

variable {T} in
theorem Leads.head (h : Leads T m rx s') {rx' : List Bytes} (hs : Stage T ⟨s, rx'⟩ ⟨m, rx⟩) : Leads T s rx' s' := by
  obtain ⟨rx'', h⟩ := h
  exact ⟨rx'', .head hs h⟩

theorem leads_note {e : RawEvent} (he : e.idle = true) : Leads T s rx (s.note e) :=
  ⟨rx, .single (.note ⟨rfl, rfl, rfl, rfl, rfl⟩ rfl rfl rfl rfl fun _ hx => List.mem_singleton.1 hx ▸ he)⟩

theorem leads_reset {e : RawEvent} (h : s'.raw = s.raw.reset) (hb : s'.backend = s.backend)
    (hl : s'.log = s.log ++ [e]) (he : e.bounds = true ∧ readsOf [e] = []) : Leads T s rx s' :=
  ⟨rx, .single (.reset h (Or.inl hb) hl he)⟩

theorem leads_abortRawConnection (reason : String) : Leads T s rx (s.abortRawConnection reason) := by
  refine ⟨rx, .single (.reset rfl ?_ rfl ⟨rfl, rfl⟩)⟩
  by_cases h0 : 0 < s.raw.bytesReceived
  · exact Or.inr ⟨reason, if_pos h0⟩
  · exact Or.inl (if_neg h0)

/-- A connection is finished when the ring is empty. -/
theorem leads_finishRawConnection (reason : String) (ho : s.raw.isOpen = true) (hd : s.raw.dataLen = 0) :
    Leads T s rx (s.finishRawConnection T reason) := by
  by_cases h0 : s.raw.bytesReceived = 0
  · have hclosing : s.raw.transportClosing = false := (RawServer.isOpen_iff.1 ho).2
    unfold finishRawConnection
    rw [hclosing, if_neg Bool.false_ne_true, if_pos h0]
    exact leads_reset T rfl rfl rfl ⟨rfl, rfl⟩
  · exact ⟨rx, .single (.finish reason ho hd h0)⟩

/-- The drain gives block after block. The induction is on the fuel. -/
theorem leads_drainLoop : ∀ (fuel : Nat) (s : Serving σ) (rx : List Bytes), s.raw.isOpen = true →
    Leads T s rx (drainLoop T fuel s).2
  | 0, s, rx, _ => leads_refl T s rx
  | fuel + 1, s, rx, ho => by
    unfold drainLoop
    by_cases hd : s.raw.dataLen = 0
    · rw [if_pos hd]
      exact leads_refl T s rx
    rw [if_neg hd]
    dsimp only
    split
    · rename_i b hb
      have h := leads_drainLoop fuel
        (({ s with backend := b, raw := s.raw.sent s.raw.block } : Serving σ).note (.sent s.raw.front true)) rx ho
      exact h.head (.give ho hd hb)
    · rename_i error b hb
      exact ⟨rx, .single (.refuse ho hd hb)⟩

/-- The reads of a poll. -/
theorem leads_readLoop : ∀ (rx : List Bytes) (s : Serving σ), s.raw.RingOk → s.raw.isOpen = true →
    Leads T s rx (s.readLoop T rx).2
  | [], s, _, _ => leads_refl T s []
  | bs :: rx, s, hr, ho => by
    have hgot : (bs.take s.raw.request).length ≤ s.raw.request := List.length_take_le _ _
    unfold readLoop
    by_cases hfull : usbBufferSize ≤ s.raw.dataLen
    · rw [if_pos hfull]
      exact leads_refl T s _
    rw [if_neg hfull]
    dsimp only
    by_cases hempty : (bs.take s.raw.request).isEmpty = true
    · rw [if_pos hempty]
      exact leads_refl T s _
    rw [if_neg hempty]
    have hne : bs.take s.raw.request ≠ [] := fun h => hempty (List.isEmpty_iff.2 h)
    split
    · rename_i pjl hscan
      have hring := (RawServer.ringOk_receive s.backend.now hr hgot).scanned pjl
      have h := leads_readLoop rx (({ s with
        raw := { s.raw.receive s.backend.now (bs.take s.raw.request) with pjl } } : Serving σ).note
          (.read (bs.take s.raw.request))) hring ho
      exact h.head (.read pjl ho (Nat.lt_of_not_le hfull) hne)
    · -- the marker: everything goes out, and the connection is finished
      have hring := (RawServer.ringOk_receive s.backend.now hr hgot).scanned .idle
      refine Leads.head ?_ (.read .idle ho (Nat.lt_of_not_le hfull) hne)
      refine (leads_note T (e := .eoj) rfl).trans fun rx => ?_
      generalize hm : ((({ s with raw := { s.raw.receive s.backend.now (bs.take s.raw.request) with pjl := .idle } } :
        Serving σ).note (.read (bs.take s.raw.request))).note .eoj) = m
      have hopen : m.raw.isOpen = true := hm ▸ ho
      have hring' : m.raw.RingOk := hm ▸ hring
      have hd : ∀ rx, Leads T m rx (m.drainRingToUsb T).2 := fun rx => leads_drainLoop T _ m rx hopen
      have hend := drainRingToUsb_end T hring' hopen
      cases hs : m.drainRingToUsb T with
      | mk ok m' =>
        rw [hs] at hd hend
        cases ok with
        | false => exact hd rx
        | true =>
          obtain ⟨_, ho', hd'⟩ := hend.resolve_right fun h => (by cases h.1)
          exact (hd rx).trans fun rx => leads_finishRawConnection T _ ho' hd'

/-- After the drain: the connection is open, or was reset. -/
theorem leads_checkPeer (p : RawPoll) (hs : s.raw.isOpen = true ∨ ∃ r : RawServer, s.raw = r.reset) (rx : List Bytes) :
    Leads T s rx (s.checkPeer T p) := by
  obtain ⟨hbytes, hclient⟩ := RawServer.open_of_kept hs
  unfold checkPeer
  dsimp only
  split
  · exact (leads_note T (e := .stalled) rfl).trans fun rx => leads_abortRawConnection T _
  split
  · exact leads_reset T rfl rfl rfl ⟨rfl, rfl⟩
  split
  · exact leads_refl T s rx
  · rename_i hpeer
    split
    · rename_i hfin
      refine leads_finishRawConnection T _ (hclient ?_) hfin.2
      by_contra hno
      rw [if_neg hno] at hpeer
      cases hpeer
    · exact leads_refl T s rx
  · split
    · exact leads_refl T s rx
    split
    · rename_i h0
      exact leads_finishRawConnection T _ (hbytes h0.1) h0.2.1
    · exact leads_abortRawConnection T _

theorem leads_serviceRawTransportClose (s : Serving σ) (rx : List Bytes) : Leads T s rx s.serviceRawTransportClose := by
  unfold serviceRawTransportClose
  split
  · exact leads_refl T s rx
  split
  · refine ⟨rx, .single (.note (l := []) ⟨rfl, rfl, rfl, rfl, rfl⟩ rfl rfl rfl (List.append_nil _).symm ?_)⟩
    simp
  split
  · exact leads_refl T s rx
  · exact leads_reset T rfl rfl rfl ⟨rfl, rfl⟩

/-- **Every call of `handleRawServer` is a row of blocks.** -/
theorem leads_handleRawServer (p : RawPoll) (h : s.raw.Sound) : Leads T s p.rx (s.handleRawServer T p) := by
  unfold handleRawServer
  split
  · exact leads_refl T s _
  split
  · rename_i hclosing
    rw [if_neg (by rw [h.closing hclosing]; exact Nat.lt_irrefl 0)]
    exact leads_serviceRawTransportClose T s _
  rename_i hclosing
  split
  · rename_i hclient
    split
    · exact leads_refl T s _
    split
    · exact leads_note T rfl
    · have hc : s.raw.rawClientConnected = false := by
        unfold RawServer.rawClientConnected
        simpa using And.intro hclient hclosing
      exact ⟨_, .single (.accept hc)⟩
  · rename_i hclient
    have ho : s.raw.isOpen = true := RawServer.isOpen_iff.2 ⟨by simpa using hclient, by simpa using hclosing⟩
    have hl := leads_readLoop T p.rx s h.ring ho
    obtain ⟨_, hend⟩ := moves_readLoop T p.rx s h.ring ho
    split
    · rename_i s1 hs1
      rw [hs1] at hl
      exact hl
    · rename_i s1 hs1
      rw [hs1] at hl hend
      obtain ⟨hr1, ho1⟩ := hend rfl
      have hd : ∀ rx, Leads T s1 rx (s1.drainRingToUsb T).2 := fun rx => leads_drainLoop T _ s1 rx ho1
      refine (hl.trans hd).trans (leads_checkPeer T p ?_)
      exact (drainRingToUsb_end T hr1 ho1).imp (fun h => h.2.1) And.right

end Serving
/-! ## What a row of blocks reads -/

/-- Its reads are the first of `rx`, each of them what `read()` was given room for. -/
def Consumes {σ : Type} (m m' : Staging σ) : Prop :=
  ∃ used new, m.rx = used ++ m'.rx ∧ m'.serving.log = m.serving.log ++ new ∧
    List.Forall₂ (fun bs data => data ≠ [] ∧ data <+: bs) used (readsOf new)

section Consumes
variable {σ : Type} {T : Transport σ}

theorem consumes_none {s s' : Serving σ} {rx : List Bytes} {l : List RawEvent} (hl : s'.log = s.log ++ l)
    (h : readsOf l = []) : Consumes ⟨s, rx⟩ ⟨s', rx⟩ :=
  ⟨[], l, rfl, hl, by rw [h]; exact .nil⟩

theorem consumes_stage {m m' : Staging σ} (h : Stage T m m') : Consumes m m' := by
  cases h with
  | read pjl ho hroom hne => exact ⟨[_], [_], rfl, rfl, .cons ⟨hne, List.take_prefix _ _⟩ .nil⟩
  | give => exact consumes_none rfl rfl
  | refuse => exact consumes_none (List.append_assoc _ _ _) rfl
  | finish reason ho hd h0 =>
    have hclosing := (RawServer.isOpen_iff.1 ho).2
    unfold Serving.finishRawConnection
    rw [hclosing, if_neg Bool.false_ne_true, if_neg h0]
    exact consumes_none rfl rfl
  | reset hr hb hl he => exact consumes_none hl he.2
  | accept => exact consumes_none rfl rfl
  | note hs hc ht hb hl hi => exact consumes_none hl (idle_spec hi).2.2

theorem consumes_stages {m m' : Staging σ} (h : Stages T m m') : Consumes m m' := by
  induction h with
  | refl => exact ⟨[], [], rfl, (List.append_nil _).symm, .nil⟩
  | tail _ hs ih =>
    obtain ⟨used, new, hrx, hlog, hreads⟩ := ih
    obtain ⟨used', new', hrx', hlog', hreads'⟩ := consumes_stage hs
    refine ⟨used ++ used', new ++ new', by rw [hrx, hrx', List.append_assoc],
      by rw [hlog', hlog, List.append_assoc], ?_⟩
    rw [readsOf_append]
    exact List.rel_append hreads hreads'

end Consumes

section Polls
variable {σ : Type} (T : Transport σ)

/-- A poll after others, block by block. -/
theorem stages_visit {vs : List (Visit σ)} {m : Staging σ} (v : Visit σ)
    (hm : (m.serving.raw, m.serving.log) = visits T ({}, []) vs) :
    ∃ m', Stages T (m.enter v) m' ∧ m'.serving = (m.enter v).serving.handleRawServer T v.poll ∧
      (m'.serving.raw, m'.serving.log) = visits T ({}, []) (vs ++ [v]) := by
  have hs : (visits T ({}, []) vs).1.Sound := sound_visits T vs (RawServer.sound_empty rfl rfl rfl)
  rw [← hm] at hs
  obtain ⟨rx', h⟩ := Serving.leads_handleRawServer T
    (s := ⟨v.backend, m.serving.raw.startIfNeeded v.poll.network, m.serving.log⟩) v.poll (hs.startIfNeeded _)
  refine ⟨_, h, rfl, ?_⟩
  unfold visits at hm ⊢
  rw [List.foldl_append, ← hm]
  rfl

theorem staged_of_stages {vs : List (Visit σ)} {m m' : Staging σ} (h : Stages T m m') (hm : Staged T vs m) :
    Staged T vs m' := by
  induction h with
  | refl => exact hm
  | tail _ hs ih => exact ih.step hs

theorem staged_visits (b : UsbPrinterBackend σ) (vs : List (Visit σ)) :
    ∃ m, Staged T vs m ∧ (m.serving.raw, m.serving.log) = visits T ({}, []) vs := by
  induction vs using List.reverseRecOn with
  | nil => exact ⟨_, .start b, rfl⟩
  | append_singleton vs v ih =>
    obtain ⟨m, hm, hvs⟩ := ih
    obtain ⟨m', hrow, -, hv⟩ := stages_visit T v hvs
    exact ⟨m', staged_of_stages T hrow (hm.poll v), hv⟩

/-- **The ring neither loses, reorders nor duplicates a byte.** A poll `v` after any others is a row
of blocks that reads from `v.poll.rx` and ends as `handleRawServer` does, and `Fifo` holds before and
after each of them, whatever the socket and `sendDirect` answer. -/
theorem staging_fifo (b : UsbPrinterBackend σ) (vs : List (Visit σ)) (v : Visit σ) :
    (∀ m, Staged T (vs ++ [v]) m → m.Fifo) ∧
    ∃ m m', Staged T vs m ∧ (m.serving.raw, m.serving.log) = visits T ({}, []) vs ∧
      Stages T (m.enter v) m' ∧ Consumes (m.enter v) m' ∧ m'.serving = (m.enter v).serving.handleRawServer T v.poll ∧
      (m'.serving.raw, m'.serving.log) = visits T ({}, []) (vs ++ [v]) := by
  refine ⟨fun m hm => (Staging.inv_of_staged hm).fifo, ?_⟩
  obtain ⟨m, hm, hvs⟩ := staged_visits T b vs
  obtain ⟨m', hrow, hout, hv⟩ := stages_visit T v hvs
  exact ⟨m, m', hm, hvs, hrow, consumes_stages hrow, hout, hv⟩

end Polls
end PrintServer
