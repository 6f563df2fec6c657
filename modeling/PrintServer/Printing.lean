import PrintServer.IppDocument
import PrintServer.IppMessage
import PrintServer.IppService
import PrintServer.Loop
import PrintServer.Rejected
/-!
# A document that arrives is printed (ipp_pcl3_service.cpp:997-1052, 1121-1204)

The other direction of the error paths: a complete request, a transport that takes everything and a
client that is not slower than the deadline. `acceptAll` is what a row of accepted blocks makes of a
ledger, `Prints` the invariant of the streaming loop on its way to the last block.
-/
namespace PrintServer

/-- Below the backend every call succeeds at once. -/
structure Transport.Obliging {σ : Type} (T : Transport σ) : Prop where
  reset : ∀ l, (T.reset l).took = {}
  push : ∀ l data, T.ready l = true → (T.push l data).ok = true ∧ (T.push l data).took = {}
  bulkWriteAll : ∀ l data, T.ready l = false → (T.bulkWriteAll l data).ok = true ∧ (T.bulkWriteAll l data).took = {}
  flush : ∀ l, T.ready l = true → (T.flush l).ok = true ∧ (T.flush l).took = {}
  waitForBulkOut : ∀ l, T.ready l = false → (T.waitForBulkOut l).ok = true ∧ (T.waitForBulkOut l).took = {}

/-- The USB side stays as it is meanwhile, and the document comes in time. -/
structure IppClient.Timely (c : IppClient) : Prop where
  arrival : c.arrival.events = []
  answer : c.answer.events = []
  reads : ∀ t ∈ c.reads, t.events = []
  time : (c.reads.map (·.ms)).sum < ippJobDeadlineMs

namespace Ledger

/-- A row of blocks is accepted. -/
def acceptAll (l : Ledger) (job : JobKey) (blocks : List Bytes) : Ledger :=
  blocks.foldl (fun l data => l.start.accept job data) l

theorem acceptAll_concat (l : Ledger) (job : JobKey) (blocks : List Bytes) (data : Bytes) :
    l.acceptAll job (blocks ++ [data]) = (l.acceptAll job blocks).start.accept job data := by
  unfold acceptAll
  rw [List.foldl_append]
  rfl

theorem acceptAll_printing {l : Ledger} {e : Episode} {rest : List Episode} (job : JobKey) (hs : l.state = .printing)
    (hh : l.history = e :: rest) (hf : e.flushedAt = none) (blocks : List Bytes) :
    l.acceptAll job blocks = { l with history := { e with accepted := e.accepted ++ blocks.map (job, ·) } :: rest } := by
  induction blocks generalizing l e with
  | nil =>
    show l = _
    rw [List.map_nil, List.append_nil, ← hh]
  | cons data blocks ih =>
    have hstep : l.acceptAll job (data :: blocks) = (l.accept job data).acceptAll job blocks := by
      unfold acceptAll
      rw [List.foldl_cons, start_printing hs]
    have hacc : (l.accept job data).history = e.accept job data :: rest := by
      unfold accept
      rw [hh]
      rfl
    rw [hstep, ih (l := l.accept job data) (e := e.accept job data) hs hacc rfl]
    unfold accept Episode.accept
    rw [hf, List.map_cons, List.append_assoc, List.singleton_append]

/-- From `IDLE`, the blocks are one new episode. -/
theorem acceptAll_idle {l : Ledger} (job : JobKey) (hs : l.state = .idle) {blocks : List Bytes} (hne : blocks ≠ []) :
    l.acceptAll job blocks = { l with
      state := .printing, drainPending := false, history := { accepted := blocks.map (job, ·) } :: l.history } := by
  obtain ⟨data, blocks, rfl⟩ := List.exists_cons_of_ne_nil hne
  have hstep : l.acceptAll job (data :: blocks) = (l.start.accept job data).acceptAll job blocks := rfl
  have hstart := start_idle hs
  have hhist : (l.start.accept job data).history = { accepted := [(job, data)] } :: l.history := by
    unfold accept
    rw [hstart]
    rfl
  rw [hstep, acceptAll_printing (e := { accepted := [(job, data)] }) job (by rw [hstart]; rfl) hhist rfl]
  unfold accept
  rw [hstart]
  rfl

end Ledger

namespace UsbPrinterBackend
variable {σ : Type} {T : Transport σ} {b : UsbPrinterBackend σ}

theorem pass_quiet {t : Tick} (h : t.events = []) : (b.pass t).host = b.host := by
  unfold pass
  rw [h]
  rfl

theorem after_quiet {a : Answer σ} (h : a.took = {}) : (b.after a).host = b.host ∧ (b.after a).now = b.now := by
  unfold after pass
  rw [h]
  exact ⟨rfl, rfl⟩

/-- The first attempt succeeds. -/
theorem sendDirect_obliging (hT : T.Obliging) (job : JobKey) {data : Bytes} (hd : data ≠ [])
    (hu : b.host.selectedInterfaceUsable = true) (hs : b.state = .idle ∨ b.state = .printing) :
    (b.sendDirect T job data).1 = none ∧ (b.sendDirect T job data).2.ledger = b.ledger.start.accept job data ∧
      (b.sendDirect T job data).2.host = b.host ∧ (b.sendDirect T job data).2.now = b.now := by
  have hstart : (b.startJob T).host = b.host ∧ (b.startJob T).now = b.now := by
    unfold startJob
    split
    · exact after_quiet (b := { b with drainPending := false }) (hT.reset b.link)
    · exact ⟨rfl, rfl⟩
  have hledger := ledger_startJob T b
  generalize hm : b.startJob T = m at hstart hledger
  have hoffer : ∃ a : Answer σ, offer T m data = (none, m.after a) ∧ a.took = {} := by
    unfold offer
    cases hr : T.ready m.link with
    | true =>
      obtain ⟨hok, htook⟩ := hT.push m.link data hr
      exact ⟨T.push m.link data, by simp only [hok, if_true], htook⟩
    | false =>
      obtain ⟨hok, htook⟩ := hT.bulkWriteAll m.link data hr
      exact ⟨T.bulkWriteAll m.link data, by simp only [hok, if_true, Bool.false_eq_true, if_false], htook⟩
  obtain ⟨a, ha, htook⟩ := hoffer
  obtain ⟨hhost, hnow⟩ := after_quiet (b := m) htook
  have hsend : b.sendDirect T job data =
      (none, { (m.after a).record (Episode.accept job data) with reason := "raw-job-in-progress" }) := by
    have hempty : data.isEmpty = false := List.isEmpty_eq_false_iff.2 hd
    have hgo : ¬ (b.state ≠ .idle ∧ b.state ≠ .printing) := fun h => hs.elim h.1 h.2
    unfold sendDirect
    rw [if_neg (by rw [hempty]; exact Bool.false_ne_true), if_neg (by rw [hu]; exact Bool.false_ne_true), if_neg hgo, hm,
      sendLoop, ha]
  rw [hsend]
  refine ⟨rfl, ?_, hhost.trans hstart.1, hnow.trans hstart.2⟩
  rw [← hledger]
  rfl

/-- The flush succeeds. -/
theorem finishRawJob_obliging (hT : T.Obliging) (hs : b.state = .printing) (hd : b.drainPending = false) :
    (b.finishRawJob T).ledger = b.ledger.flush b.now ∧ (b.finishRawJob T).now = b.now := by
  have hflush : ∃ a : Answer σ, (if T.ready b.link then T.flush b.link else T.waitForBulkOut b.link) = a ∧
      a.ok = true ∧ a.took = {} := by
    refine ⟨_, rfl, ?_⟩
    cases hr : T.ready b.link with
    | true => exact hT.flush b.link hr
    | false => exact hT.waitForBulkOut b.link hr
  obtain ⟨a, ha, hok, htook⟩ := hflush
  obtain ⟨_, hnow⟩ := after_quiet (b := b) htook
  unfold finishRawJob
  rw [if_neg (by rw [hs, hd]; simp), ha]
  dsimp only
  rw [if_neg (by rw [hok]; exact Bool.false_ne_true)]
  refine ⟨?_, hnow⟩
  rw [← hnow]
  rfl

end UsbPrinterBackend

/-! ## The loop -/

namespace Streaming
variable {σ : Type} {T : Transport σ} {E : Ending} {doc : Bytes} {b0 : UsbPrinterBackend σ} {s0 : IppPcl3Service}

/-- On its way to the end of the document. -/
structure Prints (E : Ending) (doc : Bytes) (b0 : UsbPrinterBackend σ) (s0 : IppPcl3Service) (s : Streaming σ) : Prop where
  sound : Sound E doc b0 s
  host : s.backend.host = b0.host
  ledger : s.backend.ledger = b0.ledger.acceptAll (.ipp s0.serial) (s.calls.map Prod.fst)
  blocks : ∀ x ∈ s.calls, x.1 ≠ []
  job : s.service.serial = s0.serial ∧ s.service.lastJobId = s0.lastJobId ∧ s.service.lastJobName = s0.lastJobName
  state : s.calls ≠ [] → s.service.lastJobState = .processing
  fresh : s.calls = [] → s.service.jobStartedProcessing = false

theorem sent_job (s : IppPcl3Service) (now n : Nat) : (sent s now n).serial = s.serial ∧
    (sent s now n).lastJobId = s.lastJobId ∧ (sent s now n).lastJobName = s.lastJobName := by
  unfold sent
  split <;> exact ⟨rfl, rfl, rfl⟩

/-- The deadline is ten minutes off. -/
theorem not_expired {start now : Nat} (h1 : start ≤ now) (h2 : now < start + ippJobDeadlineMs) :
    expired now (millis (millis start + ippJobDeadlineMs)) = false := by
  unfold expired sub32 millis
  have hd : ippJobDeadlineMs = 600000 := rfl
  rw [decide_eq_false_iff_not]
  omega

/-- One more block. -/
theorem Prints.turn {s : Streaming σ} (h : Prints E doc b0 s0 s) {out left : Bytes} {b : UsbPrinterBackend σ} {r : BodyReader}
    (hout : out ≠ []) (hf : Follow E r left) (hdoc : doc = s.payload ++ (out ++ left)) (hhost : b.host = b0.host)
    (hl : b.ledger = s.backend.ledger.start.accept (.ipp s0.serial) out)
    (hs : s.backend.state = .idle ∨ s.backend.state = .printing) :
    Prints E doc b0 s0 { s with
      service := sent s.service b.now out.length, backend := b, reader := r, calls := s.calls ++ [(out, true)] } := by
  have hpayload : (s.calls ++ [(out, true)]).flatMap Prod.fst = s.payload ++ out := by simp [payload]
  have hstart := Ledger.start_state (l := s.backend.ledger) hs
  have hjobs : b.jobsFailed = b0.jobsFailed := by
    have hfailed : b.jobsFailed = s.backend.jobsFailed := by
      refine (congrArg Ledger.jobsFailed hl).trans ?_
      unfold Ledger.accept Ledger.start
      split <;> rfl
    by_cases hcalls : s.calls = []
    · have hsame := h.ledger
      rw [hcalls] at hsame
      exact hfailed.trans (congrArg Ledger.jobsFailed hsame)
    · exact hfailed.trans (h.sound.printing hcalls).2
  have hprocessing : (sent s.service b.now out.length).lastJobState = .processing := by
    unfold sent
    split
    · rename_i hp
      refine h.state fun hnil => ?_
      rw [h.fresh hnil] at hp
      cases hp
    · rfl
  obtain ⟨h1, h2, h3⟩ := sent_job s.service b.now out.length
  refine ⟨⟨h.sound.ok, ⟨left, hf, ?_⟩, ?_, ?_, fun _ => sent_started _ _ _, fun _ => ⟨?_, hjobs⟩⟩, hhost, ?_, ?_,
    ⟨h1.trans h.job.1, h2.trans h.job.2.1, h3.trans h.job.2.2⟩, fun _ => hprocessing, fun hnil => ?_⟩
  · rw [payload, hpayload, hdoc, List.append_assoc]
  · intro x hx
    rcases List.mem_append.1 hx with hx | hx
    · exact h.sound.sent x hx
    · rw [List.mem_singleton.1 hx]
  · rw [payload, hpayload, sent_bytes, h.sound.bytes, List.length_append]
  · exact (congrArg Ledger.state hl).trans hstart
  · rw [hl, h.ledger, List.map_append, List.map_singleton, Ledger.acceptAll_concat]
  · intro x hx
    rcases List.mem_append.1 hx with hx | hx
    · exact h.blocks x hx
    · rw [List.mem_singleton.1 hx]
      exact hout
  · exact absurd hnil (List.concat_ne_nil _ _)

/-- The loop ends with the document, if everything that it needs goes well. -/
theorem loop_prints (hT : T.Obliging) (hc : E.clean) (hm : E.miss = []) (hu : b0.host.selectedInterfaceUsable = true)
    (hb0 : b0.state = .idle) (start : Nat) : ∀ (n : Nat) (ticks : List Tick) (s : Streaming σ),
    Prints E doc b0 s0 s → (∀ t ∈ ticks, t.events = []) → start ≤ s.backend.now →
    s.backend.now + (ticks.map (·.ms)).sum < start + ippJobDeadlineMs → s.reader.client.size < n →
    Prints E doc b0 s0 (loop T (millis (millis start + ippJobDeadlineMs)) n ticks s) ∧
      (loop T (millis (millis start + ippJobDeadlineMs)) n ticks s).reader.done = true := by
  intro n
  induction n with
  | zero => exact fun _ _ _ _ _ _ hn => absurd hn (Nat.not_lt_zero _)
  | succ n ih =>
    intro ticks s h hq hle htime hn
    obtain ⟨left, hfol, hdoc⟩ := h.sound.follow
    have hcap : 0 < bodyBufferSize := by decide
    obtain ⟨out, left', r', er, hl, hfol', hprog⟩ := BodyReader.readBlock_follow hfol hcap
    have htick : (ticks.headD {}).events = [] ∧ (ticks.headD {}).ms + (ticks.tail.map (·.ms)).sum = (ticks.map (·.ms)).sum := by
      cases ticks with
      | nil => exact ⟨rfl, rfl⟩
      | cons t ticks => exact ⟨hq t List.mem_cons_self, by rw [List.map_cons, List.sum_cons]; rfl⟩
    have hexp := not_expired hle (Nat.lt_of_le_of_lt (Nat.le_add_right _ _) htime)
    rw [loop, hexp, if_neg Bool.false_ne_true, er]
    dsimp only
    by_cases hout : out = []
    · -- nothing more came: nothing was left
      have hleft : left = [] := by
        by_contra hne
        exact (hprog hc).1 hne hout
      rw [hleft] at hl
      obtain ⟨_, rfl⟩ := List.append_eq_nil_iff.1 hl.symm
      rw [hout, if_pos List.isEmpty_nil]
      refine ⟨⟨⟨h.sound.ok, ⟨[], hfol', ?_⟩, h.sound.sent, h.sound.bytes, h.sound.started, h.sound.printing⟩,
        (UsbPrinterBackend.pass_quiet htick.1).trans h.host, h.ledger, h.blocks, h.job, h.state, h.fresh⟩,
        (hprog hc).2 hleft hm⟩
      rw [hdoc, hleft]
      rfl
    · have hempty : out.isEmpty = false := List.isEmpty_eq_false_iff.2 hout
      rw [hempty, if_neg Bool.false_ne_true]
      have hhost : (s.backend.pass (ticks.headD {})).host = b0.host := (UsbPrinterBackend.pass_quiet htick.1).trans h.host
      have hnow : (s.backend.pass (ticks.headD {})).now = s.backend.now + (ticks.headD {}).ms := rfl
      have hledger : (s.backend.pass (ticks.headD {})).ledger = s.backend.ledger := rfl
      have hstate : s.backend.state = .idle ∨ s.backend.state = .printing := by
        by_cases hcalls : s.calls = []
        · have hsame := h.ledger
          rw [hcalls] at hsame
          exact Or.inl ((congrArg Ledger.state hsame).trans hb0)
        · exact Or.inr (h.sound.printing hcalls).1
      have hstate : (s.backend.pass (ticks.headD {})).state = .idle ∨
          (s.backend.pass (ticks.headD {})).state = .printing := hstate
      have hsend := UsbPrinterBackend.sendDirect_obliging hT (.ipp s.service.serial) hout (by rw [hhost]; exact hu) hstate
      generalize s.backend.pass (ticks.headD {}) = b at hhost hnow hledger hsend
      cases hres : b.sendDirect T (.ipp s.service.serial) out with
      | mk res b' =>
        rw [hres] at hsend
        obtain ⟨hnone, hl', hhost', hnow'⟩ := hsend
        have hnone : res = none := hnone
        have hnow' : b'.now = b.now := hnow'
        rw [h.job.1, hledger] at hl'
        rw [hl] at hdoc
        have hturn := h.turn hout hfol' hdoc (hhost'.trans hhost) hl' hstate
        have hsize : r'.client.size < n := by
          obtain ⟨x, hf, hx⟩ := s.reader.readBlock_fwd bodyBufferSize
          rw [er] at hf hx
          have hfwd := hf.size
          have hpos := List.length_pos_iff.2 hout
          dsimp only at hfwd hx
          omega
        rw [hnone]
        refine ih ticks.tail _ hturn (fun t ht => hq t (List.mem_of_mem_tail ht)) ?_ ?_ hsize
        · show start ≤ b'.now
          omega
        · show b'.now + (ticks.tail.map (·.ms)).sum < _
          omega

end Streaming

/-! ## The document of a job -/

namespace IppPcl3Service
variable {σ : Type} {T : Transport σ}

/-- The whole document is handed over as blocks of one new episode, and flushed. -/
structure Printed (serial : Nat) (jobId : UInt32) (jobName : Bytes) (b : UsbPrinterBackend σ) (doc : Bytes)
    (d : Served σ) : Prop where
  episode : ∃ blocks : List Bytes, blocks.flatten = doc ∧ (∀ x ∈ blocks, x ≠ []) ∧
    d.backend.history =
      { accepted := blocks.map (.ipp serial, ·), flushedAt := some d.backend.now } :: b.history
  state : d.backend.state = .printing
  draining : d.backend.drainPending = true ∧ d.backend.drainStartedMs = millis d.backend.now
  counters : d.backend.jobsCompleted = b.jobsCompleted ∧ d.backend.jobsFailed = b.jobsFailed
  job : d.service.lastJobId = jobId ∧ d.service.lastJobState = .processing ∧
    d.service.lastJobBytes = doc.length ∧ d.service.pendingJob = false
  /-- `successful-ok`, with the job as it is now. -/
  answered : ∃ report, d.answered = .job 0x0000 report ∧ report.jobId = jobId ∧
    report.jobState = .processing ∧ report.jobName = jobName

/-- The end of a row of blocks is flushed. -/
theorem finishRawJob_prints (hT : T.Obliging) {job : JobKey} {blocks : List Bytes} {b bp : UsbPrinterBackend σ}
    (hl : bp.ledger = { b.ledger with
      state := .printing, drainPending := false, history := { accepted := blocks.map (job, ·) } :: b.history }) :
    (bp.finishRawJob T).ledger = { b.ledger with
      state := .printing, drainPending := true, drainStartedMs := millis (bp.finishRawJob T).now
      history := { accepted := blocks.map (job, ·), flushedAt := some (bp.finishRawJob T).now } :: b.history } := by
  have hstate : bp.state = .printing := congrArg Ledger.state hl
  have hdrain : bp.drainPending = false := congrArg Ledger.drainPending hl
  obtain ⟨hflush, hnow⟩ := UsbPrinterBackend.finishRawJob_obliging hT hstate hdrain
  rw [hflush, hnow, hl]
  rfl

/-- The document is over, and everything was accepted. -/
theorem endDocument_prints (hT : T.Obliging) {E : Ending} (hc : E.clean) (hm : E.miss = []) {c : IppClient} {doc : Bytes}
    (hne : doc ≠ []) {s0 : IppPcl3Service} {b : UsbPrinterBackend σ} (hb : b.state = .idle) {d : Streaming σ}
    (h : Streaming.Prints E doc b s0 d) (hdone : d.reader.done = true) :
    Printed s0.serial s0.lastJobId s0.lastJobName b doc (endDocument T c (if d.accepted then d else d.reject)) := by
  obtain ⟨left, hfol, hdoc⟩ := h.sound.follow
  rw [hfol.left_nil hdone, List.append_nil] at hdoc
  have hpos := List.length_pos_iff.2 hne
  have hbytes : d.service.lastJobBytes = doc.length := by rw [h.sound.bytes, hdoc]
  have haccepted : d.accepted = true := by
    have herr := hfol.no_error hc (Or.inl hm)
    unfold Streaming.accepted
    rw [h.sound.ok, hdone, herr, hbytes]
    simpa using hpos
  have hcalls : d.calls ≠ [] := by
    intro hnil
    rw [hdoc, Streaming.payload, hnil] at hpos
    exact absurd hpos (Nat.lt_irrefl 0)
  have hidle : b.ledger.state = .idle := hb
  have hblocks : d.calls.map Prod.fst ≠ [] := fun hnil => hcalls (List.map_eq_nil_iff.1 hnil)
  have hledger := UsbPrinterBackend.ledger_pass d.backend c.answer
  rw [h.ledger, Ledger.acceptAll_idle _ hidle hblocks] at hledger
  have hflush := finishRawJob_prints hT hledger
  have hpayload : (d.calls.map Prod.fst).flatten = doc := by rw [hdoc, Streaming.payload, List.flatMap_def]
  rw [if_pos haccepted]
  unfold endDocument
  rw [h.sound.ok]
  refine ⟨⟨d.calls.map Prod.fst, hpayload, ?_, congrArg Ledger.history hflush⟩, congrArg Ledger.state hflush,
    ⟨congrArg Ledger.drainPending hflush, congrArg Ledger.drainStartedMs hflush⟩,
    ⟨congrArg Ledger.jobsCompleted hflush, congrArg Ledger.jobsFailed hflush⟩,
    ⟨h.job.2.1, h.state hcalls, hbytes, rfl⟩, ⟨_, rfl, h.job.2.1, h.state hcalls, h.job.2.2⟩⟩
  intro x hx
  obtain ⟨y, hy, rfl⟩ := List.mem_map.1 hx
  exact h.blocks y hy

theorem takeDocument_prints (hT : T.Obliging) {E : Ending} (hc : E.clean) (hm : E.miss = []) {c : IppClient} (hq : c.Timely)
    {body : BodyReader} {doc : Bytes} (hf : Follow E body doc) (hne : doc ≠ []) {s0 : IppPcl3Service}
    (h0 : s0.lastJobBytes = 0) (hj : s0.jobStartedProcessing = false) {b : UsbPrinterBackend σ} (hb : b.state = .idle)
    (hu : b.host.selectedInterfaceUsable = true) :
    Printed s0.serial s0.lastJobId s0.lastJobName b doc (takeDocument T c body s0 b) := by
  have hbegin : Streaming.Prints E doc b s0 { service := s0, backend := b, reader := body } :=
    ⟨⟨rfl, ⟨doc, hf, rfl⟩, fun _ hx => (by cases hx), h0, fun hno => absurd rfl hno, fun hno => absurd rfl hno⟩, rfl, rfl,
      fun _ hx => (by cases hx), ⟨rfl, rfl, rfl⟩, fun hno => absurd rfl hno, fun _ => hj⟩
  have hloop := Streaming.loop_prints hT hc hm hu hb b.now (body.client.size + 1) c.reads _ hbegin hq.reads
    (Nat.le_refl _) (Nat.add_lt_add_left hq.time _) (Nat.lt_succ_self _)
  rw [takeDocument, streamDocument, Streaming.stream]
  exact endDocument_prints hT hc hm hne hb hloop.1 hloop.2

/-- The service as a request finds it (:856-907, :925-928). -/
def refreshed (s : IppPcl3Service) (b : UsbPrinterBackend σ) : IppPcl3Service :=
  { (s.refreshJobState b).trackPrinterState b with lastError := "" }.refreshJobState b

/-- What a look at the printer leaves as it is. -/
structure Kept (s s' : IppPcl3Service) : Prop where
  started : s'.started = s.started
  serial : s'.serial = s.serial
  nextJobId : s'.nextJobId = s.nextJobId

theorem kept_refreshJobState (s : IppPcl3Service) (b : UsbPrinterBackend σ) : Kept s (s.refreshJobState b) := by
  unfold refreshJobState
  repeat' split
  all_goals exact ⟨rfl, rfl, rfl⟩

theorem kept_refreshed (s : IppPcl3Service) (b : UsbPrinterBackend σ) : Kept s (s.refreshed b) := by
  have htrack : Kept (s.refreshJobState b) ((s.refreshJobState b).trackPrinterState b) := by
    unfold trackPrinterState
    split <;> exact ⟨rfl, rfl, rfl⟩
  have h1 := kept_refreshJobState s b
  have h2 := kept_refreshJobState { (s.refreshJobState b).trackPrinterState b with lastError := "" } b
  exact ⟨h2.started.trans (htrack.started.trans h1.started), h2.serial.trans (htrack.serial.trans h1.serial),
    h2.nextJobId.trans (htrack.nextJobId.trans h1.nextJobId)⟩

/-- A request that is read is handled. -/
theorem poll_request {c : IppClient} {r : IppRequest} (hparse : parse c.client = .request r) {s : IppPcl3Service}
    (hs : s.started = true) (rawConnected : Bool) (b : UsbPrinterBackend σ) :
    s.poll T rawConnected (some c) b = ((operation T rawConnected c r (s.refreshed b) (b.pass c.arrival)).service,
      (operation T rawConnected c r (s.refreshed b) (b.pass c.arrival)).backend,
      some ⟨r.version, r.requestId, (operation T rawConnected c r (s.refreshed b) (b.pass c.arrival)).answered⟩) := by
  unfold poll
  rw [hs, if_neg (by decide)]
  dsimp only
  rw [handleClient_request hparse]
  rfl

/-- The checks of Print-Job let it through. -/
theorem printJob_accepts {c : IppClient} {r : IppRequest} {s : IppPcl3Service} {b : UsbPrinterBackend σ}
    (hf : formatOk r.attrs.documentFormat = true) (hb : b.state = .idle) :
    printJob T false c r s b = takeDocument T c r.body (s.newJob r.attrs.jobName false) b := by
  unfold printJob UsbPrinterBackend.online
  rw [hf, hb]
  rfl

/-- **A Print-Job is printed.** -/
theorem poll_printJob (hT : T.Obliging) {m : Message} {f : Framing} {c : IppClient} {rest : Bytes}
    (hm : m.Sent f c.client rest) (hop : m.op = 0x0002) (hformat : formatOk m.attrs.documentFormat = true)
    (hne : m.document ≠ []) (hq : c.Timely) {s : IppPcl3Service} (hs : s.started = true) {b : UsbPrinterBackend σ}
    (hb : b.state = .idle) (hu : b.host.selectedInterfaceUsable = true) :
    ∃ d : Served σ, s.poll T false (some c) b = (d.service, d.backend, some ⟨m.version, m.requestId, d.answered⟩) ∧
      Printed (s.serial + 1) s.nextJobId m.attrs.jobName b m.document d := by
  obtain ⟨body, E, hparse, hc, hmiss, _, hfol⟩ := Message.parse_follow hm
  have hpoll := poll_request (T := T) hparse hs false b
  have hkept := kept_refreshed s b
  have hpass := UsbPrinterBackend.pass_quiet (b := b) hq.arrival
  generalize s.refreshed b = s' at hpoll hkept
  refine ⟨_, hpoll, ?_⟩
  have hoperation : operation T false c ⟨m.version, m.op, m.requestId, m.attrs, body⟩ s' (b.pass c.arrival) =
      takeDocument T c body (s'.newJob m.attrs.jobName false) (b.pass c.arrival) := by
    unfold operation
    rw [hop]
    exact printJob_accepts hformat hb
  have hjob : (s'.newJob m.attrs.jobName false).serial = s.serial + 1 ∧
      (s'.newJob m.attrs.jobName false).lastJobId = s.nextJobId := by
    rw [← hkept.serial, ← hkept.nextJobId]
    exact ⟨rfl, rfl⟩
  have hbytes : (s'.newJob m.attrs.jobName false).lastJobBytes = 0 := rfl
  have hprinted := takeDocument_prints hT hc hmiss hq hfol hne hbytes rfl (b := b.pass c.arrival) hb (by rw [hpass]; exact hu)
  rw [hjob.1, hjob.2] at hprinted
  rw [hoperation]
  exact ⟨hprinted.episode, hprinted.state, hprinted.draining, hprinted.counters, hprinted.job, hprinted.answered⟩

theorem obliging_immediate : Transport.immediate.Obliging :=
  ⟨fun _ => rfl, fun _ _ _ => ⟨rfl, rfl⟩, fun _ _ h => (by cases h), fun _ _ => ⟨rfl, rfl⟩, fun _ h => (by cases h)⟩

/-- A printer that waits for a job. -/
def idlePrinter : UsbPrinterBackend Unit := (UsbPrinterBackend.begin .enumeratedPrinter () 0).followHost

theorem poll_printJob_hello : ∃ d : Served Unit,
    ({ started := true } : IppPcl3Service).poll .immediate false (some { client := Message.helloClient }) idlePrinter =
      (d.service, d.backend, some ⟨⟨2, 0⟩, 1, d.answered⟩) ∧ Printed 1 1 [] idlePrinter (ascii "hi") d := by
  have hformat : formatOk Message.hello.attrs.documentFormat = true := by decide +kernel
  exact poll_printJob obliging_immediate Message.hello_sent rfl hformat (by decide) ⟨rfl, rfl, by decide, by decide⟩
    (s := { started := true }) rfl (by decide +kernel) (by decide +kernel)

end IppPcl3Service

/-! ## Create-Job and Send-Document are Print-Job in two requests -/

namespace Streaming
variable {σ : Type} {T : Transport σ}

def withPending (p : Bool) (d : Streaming σ) : Streaming σ := { d with service := { d.service with pendingJob := p } }

theorem sent_pending (s : IppPcl3Service) (p : Bool) (now n : Nat) :
    sent { s with pendingJob := p } now n = { sent s now n with pendingJob := p } := by
  unfold sent
  split <;> rfl

/-- Nothing of the loop reads `pendingJob_`. -/
theorem loop_withPending (p : Bool) (deadline : Nat) : ∀ (n : Nat) (ticks : List Tick) (d : Streaming σ),
    loop T deadline n ticks (d.withPending p) = (loop T deadline n ticks d).withPending p := by
  intro n
  induction n with
  | zero => exact fun _ _ => rfl
  | succ n ih =>
    intro ticks d
    rw [loop, loop]
    have hbackend : (d.withPending p).backend = d.backend := rfl
    have hreader : (d.withPending p).reader = d.reader := rfl
    have hserial : (d.withPending p).service.serial = d.service.serial := rfl
    rw [hbackend, hreader, hserial]
    by_cases hexp : expired d.backend.now deadline = true
    · rw [if_pos hexp, if_pos hexp]
      rfl
    · rw [if_neg hexp, if_neg hexp]
      dsimp only
      by_cases hout : (d.reader.readBlock bodyBufferSize).1.isEmpty = true
      · rw [if_pos hout, if_pos hout]
        rfl
      · rw [if_neg hout, if_neg hout]
        cases (d.backend.pass (ticks.headD {})).sendDirect T (.ipp d.service.serial) (d.reader.readBlock bodyBufferSize).1 with
        | mk res b =>
          cases res with
          | some error => rfl
          | none =>
            dsimp only
            rw [← ih]
            unfold withPending
            dsimp only
            rw [sent_pending]

theorem verdict_withPending (p : Bool) (d : Streaming σ) :
    (if (d.withPending p).accepted then d.withPending p else (d.withPending p).reject) =
      (if d.accepted then d else d.reject).withPending p := by
  have haccepted : (d.withPending p).accepted = d.accepted := rfl
  rw [haccepted]
  split <;> rfl

end Streaming

namespace IppPcl3Service
variable {σ : Type} {T : Transport σ}

theorem endDocument_pending (p : Bool) (c : IppClient) (d : Streaming σ) :
    endDocument T c (d.withPending p) = endDocument T c d := rfl

theorem takeDocument_pending (p : Bool) (c : IppClient) (body : BodyReader) (s : IppPcl3Service) (b : UsbPrinterBackend σ) :
    takeDocument T c body { s with pendingJob := p } b = takeDocument T c body s b := by
  have hstart : ({ service := { s with pendingJob := p }, backend := b, reader := body } : Streaming σ) =
      Streaming.withPending p { service := s, backend := b, reader := body } := rfl
  unfold takeDocument streamDocument Streaming.stream
  rw [hstart, Streaming.loop_withPending]
  dsimp only
  rw [Streaming.verdict_withPending, endDocument_pending]

/-- **Create-Job and Send-Document end as Print-Job does**, whatever the USB side does with the document. -/
theorem sendDocument_createJob {r r' : IppRequest} {c : IppClient} {s : IppPcl3Service} {b b' : UsbPrinterBackend σ}
    (hb : b.state = .idle) (hb' : b'.state = .idle) (ha : (createJob r s b).service.acceptsDocument r'.attrs = true) :
    sendDocument T c r' (createJob r s b).service b' =
      printJob T false c { r' with attrs := { r'.attrs with jobName := r.attrs.jobName } } s b' := by
  have hcreated : (createJob r s b).service = s.newJob r.attrs.jobName true := by
    unfold createJob UsbPrinterBackend.online
    rw [hb]
    rfl
  rw [hcreated] at ha ⊢
  have hformat : formatOk r'.attrs.documentFormat = true := by
    unfold acceptsDocument at ha
    exact (Bool.and_eq_true_iff.1 ha).2
  rw [printJob_accepts (r := { r' with attrs := { r'.attrs with jobName := r.attrs.jobName } }) hformat hb',
    sendDocument_takes ha]
  exact takeDocument_pending true c r'.body (s.newJob r.attrs.jobName false) b'

/-- A Create-Job for "list", and the request with its document. -/
def createList : IppRequest := ⟨⟨2, 0⟩, 0x0005, 1, { jobName := ascii "list" }, (Framing.length []).reader Message.helloClient⟩

def sendList : IppRequest := ⟨⟨2, 0⟩, 0x0006, 2, { jobId := some 1 }, (Framing.length (ascii "hi")).reader Message.helloClient⟩

theorem sendDocument_createList :
    sendDocument .immediate { client := Message.helloClient } sendList (createJob createList {} idlePrinter).service idlePrinter =
      printJob .immediate false { client := Message.helloClient }
        { sendList with attrs := { sendList.attrs with jobName := ascii "list" } } {} idlePrinter :=
  sendDocument_createJob (by decide +kernel) (by decide +kernel) (by decide +kernel)

end IppPcl3Service

end PrintServer
