import PrintServer.IppAnswer
import PrintServer.JobStates
import PrintServer.Printing
/-!
# Create-Job, its answer, Send-Document (ipp_pcl3_service.cpp:855-907, 923-976, 1157-1204)

A client asks for a job, reads the answer from the socket, and some polls later sends the document with
what it has read. Between the two requests the printer may do anything, and other clients may ask for
anything that does not touch the job.
-/
namespace PrintServer

open Lib.Ipp

namespace IppPcl3Service
variable {σ : Type} {T : Transport σ}

/-- A job that was made waits for its document. -/
structure Awaits (serial : Nat) (jobId : UInt32) (jobName : Bytes) (s : IppPcl3Service) : Prop where
  started : s.started = true
  job : s.serial = serial ∧ s.lastJobId = jobId ∧ s.lastJobName = jobName
  pendingJob : s.pendingJob = true
  state : s.lastJobState = .pending
  fresh : s.jobStartedProcessing = false

/-- The operations that make, take or end a job. -/
def touching : List Nat := [0x0002, 0x0005, 0x0006, 0x0008, 0x003B]

/-- No such request comes from this client. -/
def Harmless (client : Option IppClient) : Prop :=
  ∀ c ∈ client, ∀ r, parse c.client = .request r → r.op ∉ touching

section Awaits
variable {serial : Nat} {jobId : UInt32} {jobName : Bytes} {s : IppPcl3Service}

theorem Awaits.error (h : s.Awaits serial jobId jobName) (text : String) :
    { s with lastError := text }.Awaits serial jobId jobName := ⟨h.started, h.job, h.pendingJob, h.state, h.fresh⟩

theorem Awaits.refreshJobState (h : s.Awaits serial jobId jobName) (b : UsbPrinterBackend σ) : s.refreshJobState b = s := by
  unfold IppPcl3Service.refreshJobState
  rw [h.state, h.fresh]
  split <;> rfl

theorem Awaits.trackPrinterState (h : s.Awaits serial jobId jobName) (b : UsbPrinterBackend σ) :
    (s.trackPrinterState b).Awaits serial jobId jobName := by
  unfold IppPcl3Service.trackPrinterState
  split
  · exact h
  · exact ⟨h.started, h.job, h.pendingJob, h.state, h.fresh⟩

theorem Awaits.getJobAttributes (h : s.Awaits serial jobId jobName) (r : IppRequest) (b : UsbPrinterBackend σ) :
    (getJobAttributes r s b).service.Awaits serial jobId jobName := by
  unfold IppPcl3Service.getJobAttributes
  rw [h.refreshJobState b]
  dsimp only
  split
  · exact h
  · split <;> exact h

/-- The other operations leave the job alone. -/
theorem Awaits.operation (h : s.Awaits serial jobId jobName) {r : IppRequest} (hr : r.op ∉ touching) (rawConnected : Bool)
    (c : IppClient) (b : UsbPrinterBackend σ) : (operation T rawConnected c r s b).service.Awaits serial jobId jobName := by
  have htouches : ∀ op ∈ touching, r.op ≠ op := fun op hop he => hr (he ▸ hop)
  unfold IppPcl3Service.operation
  split
  · exact h
  · exact h
  · exact absurd ‹r.op = 0x0002› (htouches _ (by decide))
  · exact absurd ‹r.op = 0x0005› (htouches _ (by decide))
  · exact absurd ‹r.op = 0x0006› (htouches _ (by decide))
  · exact absurd ‹r.op = 0x0008› (htouches _ (by decide))
  · exact absurd ‹r.op = 0x003B› (htouches _ (by decide))
  · exact h.getJobAttributes r b
  · exact h.getJobAttributes r b
  · exact h

/-- The job as a poll hands it to the operation. -/
theorem Awaits.refreshed (h : s.Awaits serial jobId jobName) (b : UsbPrinterBackend σ) :
    (s.refreshed b).Awaits serial jobId jobName := by
  unfold IppPcl3Service.refreshed
  rw [h.refreshJobState b]
  have htrack := (h.trackPrinterState b).error ""
  rw [htrack.refreshJobState b]
  exact htrack

theorem Awaits.poll (h : s.Awaits serial jobId jobName) {client : Option IppClient} (hc : Harmless client)
    (rawConnected : Bool) (b : UsbPrinterBackend σ) : (s.poll T rawConnected client b).1.Awaits serial jobId jobName := by
  have hrefreshed := h.refreshed b
  unfold IppPcl3Service.poll
  rw [h.started, if_neg (by decide)]
  cases client with
  | none =>
    dsimp only
    rw [h.refreshJobState b]
    exact h.trackPrinterState b
  | some c =>
    unfold IppPcl3Service.refreshed at hrefreshed
    unfold IppPcl3Service.handleClient
    dsimp only
    generalize { (s.refreshJobState b).trackPrinterState b with lastError := "" }.refreshJobState b = s' at hrefreshed
    cases hp : parse c.client with
    | dropped error => exact hrefreshed.error error
    | malformed version requestId => exact hrefreshed.error "malformed IPP attributes"
    | request r => exact hrefreshed.operation (hc c rfl r hp) rawConnected c (b.pass c.arrival)

/-- **The job waits through any polls that do not name it.** -/
theorem Awaits.visits {vs : List (Visit σ)} (hvs : ∀ v ∈ vs, Harmless v.client) (h : s.Awaits serial jobId jobName) :
    (s.visits T vs).Awaits serial jobId jobName := by
  induction vs generalizing s with
  | nil => exact h
  | cons v vs ih =>
    exact ih (fun x hx => hvs x (List.mem_cons_of_mem v hx)) (h.poll (hvs v List.mem_cons_self) v.rawConnected v.backend)

/-- Create-Job makes a job that waits, and shows it. -/
theorem poll_createJob {m : Message} {f : Framing} {c : IppClient} {rest : Bytes} (hm : m.Sent f c.client rest)
    (hop : m.op = 0x0005) (hs : s.started = true) (rawConnected : Bool) {b : UsbPrinterBackend σ} (hb : b.state = .idle) :
    ∃ report, (s.poll T rawConnected (some c) b).2.2 = some ⟨m.version, m.requestId, .job 0x0000 report⟩ ∧ report.Short ∧
      report.jobId = s.nextJobId ∧
      (s.poll T rawConnected (some c) b).1.Awaits (s.serial + 1) s.nextJobId m.attrs.jobName := by
  obtain ⟨body, E, hparse, _⟩ := Message.parse_follow hm
  have hname := jobName_lt hparse
  have hkept := kept_refreshed s b
  rw [poll_request hparse hs rawConnected b]
  generalize s.refreshed b = s' at hkept
  have hoperation : operation T rawConnected c ⟨m.version, m.op, m.requestId, m.attrs, body⟩ s' (b.pass c.arrival) =
      ⟨s'.newJob m.attrs.jobName true, b.pass c.arrival,
        .job 0x0000 ((s'.newJob m.attrs.jobName true).report (b.pass c.arrival).now)⟩ := by
    have hidle : (b.pass c.arrival).state = .idle := hb
    unfold operation
    rw [hop]
    dsimp only
    unfold createJob UsbPrinterBackend.online
    rw [hidle]
    rfl
  have hreason : "job-incoming" ∈ reasons := by decide
  rw [hoperation]
  refine ⟨_, rfl, ⟨hname, .inr hreason⟩, hkept.nextJobId, ?_⟩
  rw [← hkept.serial, ← hkept.nextJobId]
  exact ⟨hkept.started.trans hs, ⟨rfl, rfl, rfl⟩, rfl, rfl, rfl⟩

theorem sendDocument_begins {c : IppClient} {r : IppRequest} {s : IppPcl3Service} {b : UsbPrinterBackend σ}
    (ha : s.acceptsDocument r.attrs = true) : ∃ s0 : IppPcl3Service, s0.serial = s.serial ∧ s0.lastJobId = s.lastJobId ∧
      s0.lastJobName = s.lastJobName ∧ s0.lastJobBytes = 0 ∧ s0.jobStartedProcessing = false ∧
      sendDocument T c r s b = takeDocument T c r.body s0 b :=
  ⟨{ s with lastJobBytes := 0, jobStartedProcessing := false }, rfl, rfl, rfl, rfl, rfl, sendDocument_takes ha⟩

/-- Send-Document takes the document of the job that waits. -/
theorem poll_sendDocument (hT : T.Obliging) {m : Message} {f : Framing} {c : IppClient} {rest : Bytes}
    (hm : m.Sent f c.client rest) (hop : m.op = 0x0006) (hne : m.document ≠ []) (hq : c.Timely)
    (h : s.Awaits serial jobId jobName) (ha : ∀ s' : IppPcl3Service, s'.Awaits serial jobId jobName →
      s'.acceptsDocument m.attrs = true) (rawConnected : Bool) {b : UsbPrinterBackend σ} (hb : b.state = .idle)
    (hu : b.host.selectedInterfaceUsable = true) :
    ∃ d : Served σ, s.poll T rawConnected (some c) b =
        (d.service, d.backend, some ⟨m.version, m.requestId, d.answered⟩) ∧
      Printed serial jobId jobName b m.document d := by
  obtain ⟨body, E, hparse, hc, hmiss, _, hfol⟩ := Message.parse_follow hm
  have hpoll := poll_request (T := T) hparse h.started rawConnected b
  have hrefreshed := h.refreshed b
  have hpass := UsbPrinterBackend.pass_quiet (b := b) hq.arrival
  generalize s.refreshed b = s' at hpoll hrefreshed
  refine ⟨_, hpoll, ?_⟩
  have hoperation : operation T rawConnected c ⟨m.version, m.op, m.requestId, m.attrs, body⟩ s' (b.pass c.arrival) =
      sendDocument T c ⟨m.version, m.op, m.requestId, m.attrs, body⟩ s' (b.pass c.arrival) := by
    unfold operation
    rw [hop]
    rfl
  obtain ⟨s0, h1, h2, h3, hbytes, hfresh, htake⟩ := sendDocument_begins (T := T) (c := c)
    (r := ⟨m.version, m.op, m.requestId, m.attrs, body⟩) (b := b.pass c.arrival) (ha s' hrefreshed)
  obtain ⟨h4, h5, h6⟩ := hrefreshed.job
  have hprinted := takeDocument_prints hT hc hmiss hq hfol hne hbytes hfresh (b := b.pass c.arrival) hb
    (by rw [hpass]; exact hu)
  rw [h1, h2, h3, h4, h5, h6] at hprinted
  dsimp only at htake
  rw [hoperation, htake]
  exact ⟨hprinted.episode, hprinted.state, hprinted.draining, hprinted.counters, hprinted.job, hprinted.answered⟩

end Awaits

/-! ## Every answer is read -/

/-- The status of an answer is one of the texts' numbers. -/
theorem operation_status (T : Transport σ) (rawConnected : Bool) (c : IppClient) (r : IppRequest) (s : IppPcl3Service)
    (b : UsbPrinterBackend σ) {status : Nat} {j : Option JobReport}
    (h : (operation T rawConnected c r s b).answered.shown = some (status, j)) : status < 2 ^ 16 := by
  have hsimple : ∀ n, n < 2 ^ 16 → (Answered.simple n).shown = some (status, j) → status < 2 ^ 16 := by
    intro n hn he
    obtain ⟨rfl, _⟩ := Prod.mk.inj (Option.some.inj he)
    exact hn
  have hjob : ∀ n report, n < 2 ^ 16 → (Answered.job n report).shown = some (status, j) → status < 2 ^ 16 := by
    intro n report hn he
    obtain ⟨rfl, _⟩ := Prod.mk.inj (Option.some.inj he)
    exact hn
  have htake : ∀ body s b, (takeDocument T c body s b).answered.shown = some (status, j) → status < 2 ^ 16 := by
    intro body s b he
    refine hjob _ _ ?_ he
    split <;> decide
  have hget : (getJobAttributes r s b).answered.shown = some (status, j) → status < 2 ^ 16 := by
    unfold getJobAttributes
    dsimp only
    split
    · exact hsimple _ (by decide)
    split
    · exact hjob _ _ (by decide)
    · exact hsimple _ (by decide)
  revert h
  unfold operation
  split
  · exact fun he => by cases he
  · refine hsimple _ ?_
    split <;> decide
  · unfold printJob
    repeat' split
    · exact hsimple _ (by decide)
    · exact hsimple _ (by decide)
    · exact hsimple _ (by decide)
    · exact hsimple _ (by decide)
    · exact htake _ _ _
  · unfold createJob
    split
    · exact hsimple _ (by decide)
    split
    · exact hsimple _ (by decide)
    · exact hjob _ _ (by decide)
  · unfold sendDocument
    repeat' split
    · exact hsimple _ (by decide)
    · exact hsimple _ (by decide)
    · exact hsimple _ (by decide)
    · exact hsimple _ (by decide)
    · exact htake _ _ _
  · unfold cancelJob
    split
    · next st hst =>
      refine hsimple _ ?_
      unfold refusesCancel at hst
      repeat' split at hst
      all_goals cases hst
      all_goals decide
    · exact hjob _ _ (by decide)
  · unfold closeJob
    split
    · exact hsimple _ (by decide)
    · exact hjob _ _ (by decide)
  · exact hget
  · exact hget
  · exact hsimple _ (by decide)

theorem started_begin (now : Nat) : (({} : IppPcl3Service).begin now true).started = true := by
  unfold begin
  rw [if_neg (by decide)]
  split <;> rfl

theorem started_visits (T : Transport σ) (vs : List (Visit σ)) {s : IppPcl3Service} (h : s.started = true) :
    (s.visits T vs).started = true := by
  have hchange : ∀ {s s' : IppPcl3Service} {now : Nat}, s.started = true → Change now s s' → s'.started = true := by
    intro s s' now h hc
    cases hc with
    | block n =>
      unfold Streaming.sent
      split <;> exact h
    | _ => exact h
  induction vs generalizing s with
  | nil => exact h
  | cons v vs ih =>
    exact ih (Leads.keeps (I := fun s _ => s.started = true) (fun _ _ _ hi _ => hi) (fun _ _ _ hi hc => hchange hi hc)
      (leads_poll T v.rawConnected v.client s v.backend).1 h)

theorem isLine_nine : IsLine (ascii "Content-Length" ++ 58 :: ascii " 9") := by decide +kernel

/-- A Create-Job without attributes. -/
def createPlain : Message where
  head :=
    { requestLine := ascii "POST /ipp/print HTTP/1.1"
      fields := [⟨ascii "Content-Length", ascii " 9", HttpAnswer.noColon_length, isLine_nine⟩]
      isLine := Message.isLine_post }
  version := ⟨2, 0⟩
  op := 0x0005
  requestId := 1
  attributes := []
  document := []

/-- All of a message in one segment. -/
def inOne (m : Message) : IppClient := { client := ⟨WiFiClient.unread (m.head.encode ++ m.body) [], false⟩ }

theorem createPlain_sent : createPlain.Sent (.length createPlain.body) (inOne createPlain).client [] where
  requestLine_ne := by decide
  head_le := by decide +kernel
  transferEncoding := by
    unfold RequestHead.Clear
    decide +kernel
  contentLength := by
    unfold RequestHead.Clear
    decide +kernel
  announced := ⟨by decide +kernel, by decide +kernel, by decide +kernel⟩
  short := trivial
  op_lt := by decide
  attributes := fun _ hg => by cases hg
  plain := ⟨⟨fun _ hg => (by cases hg), fun _ hg => (by cases hg)⟩, fun _ hv => (by cases hv)⟩
  data := rfl
  smooth := by
    unfold Smooth
    decide +kernel
  bytes := by decide +kernel

/-- What is answered to `createPlain`. -/
def created : JobReport := (({ started := true } : IppPcl3Service).newJob [] true).report 0

def createdWire : WiFiClient :=
  ⟨WiFiClient.unread (sendHttpIpp (Reply.writer plainSite ⟨⟨2, 0⟩, 1, .job 0x0000 created⟩) false) [], false⟩

theorem createdWire_smooth : Smooth createdWire := by
  unfold Smooth
  decide +kernel

theorem createdWire_bytes : createdWire.bytes =
    sendHttpIpp (Reply.writer plainSite ⟨⟨2, 0⟩, 1, .job 0x0000 created⟩) false ++ [] := by
  decide +kernel

/-- **An answer is read as what was answered**, in every run: with the version (2.0 for a major version 0)
and the number of its request, the status, and the job that it shows. Answers about the printer are left out. -/
theorem poll_answer_read (T : Transport σ) (now : Nat) (vs : List (Visit σ)) (rawConnected : Bool) {m : Message} {f : Framing}
    {c : IppClient} {rest : Bytes} (hm : m.Sent f c.client rest) (b : UsbPrinterBackend σ) :
    ∃ answered, (((({} : IppPcl3Service).begin now true).visits T vs).poll T rawConnected (some c) b).2.2 =
        some ⟨m.version, m.requestId, answered⟩ ∧
      ∀ status j, answered.shown = some (status, j) → ∀ (site : Site) (keepAlive : Bool) (wire : WiFiClient) (more : Bytes),
        Smooth wire →
        wire.bytes = sendHttpIpp (Reply.writer site ⟨m.version, m.requestId, answered⟩) keepAlive ++ more →
        ∃ body, parse wire = .request
            ⟨⟨if m.version.major = 0 then 2 else m.version.major, if m.version.major = 0 then 0 else m.version.minor⟩,
              status, m.requestId, found site j, body⟩ ∧
          (body.readBlocks [1]).1 = [] ∧ (body.readBlocks [1]).2.client.bytes = more := by
  have hs := started_visits T vs (started_begin now)
  have hshort := short_visits T vs (short_begin now true)
  generalize (({} : IppPcl3Service).begin now true).visits T vs = s at hs hshort
  obtain ⟨body, E, hparse, _⟩ := Message.parse_follow hm
  have hpoll := congrArg (fun p => p.2.2) (poll_request (T := T) hparse hs rawConnected b)
  refine ⟨_, hpoll, fun status j hshown site keepAlive wire more hsmooth hwire => ?_⟩
  obtain ⟨k, hk, _, hshows⟩ := (leads_poll T rawConnected (some c) s b).2 _ hpoll
  have hk := hk.short hshort
  have hstatus := operation_status T rawConnected c _ _ _ hshown
  refine parse_sendHttpIpp hstatus hshown (fun r hr => ?_) keepAlive hsmooth hwire
  dsimp only at hshows
  generalize (operation T rawConnected c ⟨m.version, m.op, m.requestId, m.attrs, body⟩ (s.refreshed b)
    (b.pass c.arrival)).answered = answered at hshown hshows
  cases answered with
  | simple st =>
    obtain ⟨_, rfl⟩ := Prod.mk.inj (Option.some.inj hshown)
    cases hr
  | job st report =>
    obtain ⟨_, rfl⟩ := Prod.mk.inj (Option.some.inj hshown)
    split at hr
    · obtain rfl := Option.some.inj hr
      rw [show report = k.1.report k.2 from hshows]
      exact ⟨hk.lastJobName, hk.lastJobReason⟩
    · cases hr
  | printer attrs snap => cases hshown

/-- After a poll without a client, the Create-Job is answered and the answer decoded. -/
theorem poll_answer_read_created :
    (((({} : IppPcl3Service).begin 0 true).visits .immediate [⟨none, false, idlePrinter⟩]).poll .immediate false
      (some (inOne createPlain)) idlePrinter).2.2 = some ⟨⟨2, 0⟩, 1, .job 0x0000 created⟩ ∧
    ∃ body, parse createdWire = .request ⟨⟨2, 0⟩, 0x0000, 1, found plainSite (some created), body⟩ ∧
      (body.readBlocks [1]).1 = [] ∧ (body.readBlocks [1]).2.client.bytes = [] := by
  have hreply : (((({} : IppPcl3Service).begin 0 true).visits .immediate [⟨none, false, idlePrinter⟩]).poll .immediate false
      (some (inOne createPlain)) idlePrinter).2.2 = some ⟨⟨2, 0⟩, 1, .job 0x0000 created⟩ := by decide +kernel
  obtain ⟨answered, h, hread⟩ := poll_answer_read .immediate 0 [⟨none, false, idlePrinter⟩] false createPlain_sent idlePrinter
  obtain rfl : answered = .job 0x0000 created := congrArg Reply.answered (Option.some.inj (h.symm.trans hreply))
  exact ⟨hreply, hread 0x0000 (some created) (by decide) plainSite false createdWire [] createdWire_smooth createdWire_bytes⟩

/-- **A client that reads its ticket gets its document printed.** It makes a job, reads the answer, and
names the job in Send-Document by what it read there; `vs` is what the service does in between. -/
theorem poll_conversation (hT : T.Obliging) {s : IppPcl3Service} (hs : s.started = true) (hid : s.nextJobId ≠ 0)
    {create : Message} {f : Framing} {c : IppClient} {rest : Bytes} (hcreate : create.Sent f c.client rest)
    (hcreateOp : create.op = 0x0005) (rawConnected : Bool) {b : UsbPrinterBackend σ} (hb : b.state = .idle)
    {reply : Reply} (hreply : (s.poll T rawConnected (some c) b).2.2 = some reply)
    {site : Site} {keepAlive : Bool} {wire : WiFiClient} {more : Bytes} (hsmooth : Smooth wire)
    (hwire : wire.bytes = sendHttpIpp (reply.writer site) keepAlive ++ more)
    {vs : List (Visit σ)} (hvs : ∀ v ∈ vs, Harmless v.client)
    {send : Message} {f' : Framing} {c' : IppClient} {rest' : Bytes} (hsend : send.Sent f' c'.client rest')
    (hsendOp : send.op = 0x0006) (hticket : ∀ read, parse wire = .request read → Presents read.attrs send.attrs)
    (hformat : formatOk send.attrs.documentFormat = true) (hne : send.document ≠ []) (hq : c'.Timely)
    (rawConnected' : Bool) {b' : UsbPrinterBackend σ} (hb' : b'.state = .idle)
    (hu : b'.host.selectedInterfaceUsable = true) :
    ∃ d : Served σ, ((s.poll T rawConnected (some c) b).1.visits T vs).poll T rawConnected' (some c') b' =
        (d.service, d.backend, some ⟨send.version, send.requestId, d.answered⟩) ∧
      Printed (s.serial + 1) s.nextJobId create.attrs.jobName b' send.document d := by
  obtain ⟨report, hanswer, hshort, hjob, hawaits⟩ := poll_createJob (T := T) hcreate hcreateOp hs rawConnected hb
  rw [hanswer] at hreply
  obtain rfl := Option.some.inj hreply
  have hnonzero : report.jobId ≠ 0 := hjob ▸ hid
  have hshown : (Answered.job 0x0000 report).shown = some (0x0000, some report) := by
    rw [Answered.shown, if_pos ⟨rfl, hnonzero⟩]
  obtain ⟨_, hread, _⟩ :=
    parse_sendHttpIpp (by decide) hshown (fun r hr => Option.some.inj hr ▸ hshort) keepAlive hsmooth hwire
  have hpresents := hticket _ hread
  refine poll_sendDocument hT hsend hsendOp hne hq (hawaits.visits hvs) (fun s' h' => ?_) rawConnected' hb' hu
  refine (acceptsDocument_ticket hpresents hformat).2 ⟨h'.pendingJob, ?_, ?_⟩
  · rw [h'.job.2.1]
    exact hid
  · rw [h'.job.2.1]
    exact hjob

theorem isLine_twentySeven : IsLine (ascii "Content-Length" ++ 58 :: ascii " 27") := by decide +kernel

/-- The Send-Document of two bytes for job 1. -/
def sendPlain : Message where
  head :=
    { requestLine := ascii "POST /ipp/print HTTP/1.1"
      fields := [⟨ascii "Content-Length", ascii " 27", HttpAnswer.noColon_length, isLine_twentySeven⟩]
      isLine := Message.isLine_post }
  version := ⟨2, 0⟩
  op := 0x0006
  requestId := 2
  attributes := [⟨0x01, [⟨ascii "job-id", .simple 0x21 [0, 0, 0, 1], []⟩]⟩]
  document := ascii "hi"

theorem sendPlain_sent : sendPlain.Sent (.length sendPlain.body) (inOne sendPlain).client [] where
  requestLine_ne := by decide
  head_le := by decide +kernel
  transferEncoding := by
    unfold RequestHead.Clear
    decide +kernel
  contentLength := by
    unfold RequestHead.Clear
    decide +kernel
  announced := ⟨by decide +kernel, by decide +kernel, by decide +kernel⟩
  short := trivial
  op_lt := by decide
  attributes := by
    intro g hg
    obtain rfl := List.mem_singleton.1 hg
    refine ⟨by decide, by decide, fun a ha => ?_⟩
    obtain rfl := List.mem_singleton.1 ha
    refine ⟨by decide, by decide, by decide, fun v hv => ?_⟩
    obtain rfl := List.mem_singleton.1 hv
    exact ⟨by decide, by decide⟩
  plain := by
    refine ⟨⟨?_, ?_⟩, by decide⟩
    · simp [sendPlain, Attribute.values, Value.depth]
    · simp [sendPlain]
  data := rfl
  smooth := by
    unfold Smooth
    decide +kernel
  bytes := by decide +kernel

/-- The client reads that its job is number 1. -/
theorem createdWire_jobId {read : IppRequest} (h : parse createdWire = .request read) : read.attrs.jobId = some 1 := by
  have hshown : (Answered.job 0x0000 created).shown = some (0x0000, some created) := by decide
  have hshort : ∀ r ∈ some created, r.Short := fun r hr => Option.some.inj hr ▸ ⟨by decide, .inr (by decide)⟩
  obtain ⟨body, hparse, _⟩ := parse_sendHttpIpp (by decide) hshown hshort false createdWire_smooth createdWire_bytes
  rw [hparse] at h
  obtain rfl := Parsed.request.inj h
  rfl

theorem poll_conversation_plain : ∃ d : Served Unit,
    ((({ started := true } : IppPcl3Service).poll .immediate false (some (inOne createPlain)) idlePrinter).1.visits
        .immediate [⟨none, false, idlePrinter⟩]).poll .immediate false (some (inOne sendPlain)) idlePrinter =
      (d.service, d.backend, some ⟨⟨2, 0⟩, 2, d.answered⟩) ∧ Printed 1 1 [] idlePrinter (ascii "hi") d := by
  have hreply : (({ started := true } : IppPcl3Service).poll .immediate false (some (inOne createPlain)) idlePrinter).2.2 =
      some ⟨⟨2, 0⟩, 1, .job 0x0000 created⟩ := by decide +kernel
  have hid : sendPlain.attrs.jobId = some 1 ∧ sendPlain.attrs.jobUri = none := by decide +kernel
  refine poll_conversation obliging_immediate (s := { started := true }) rfl (by decide) createPlain_sent rfl false
    (by decide +kernel) hreply createdWire_smooth createdWire_bytes ?_ sendPlain_sent rfl ?_ (by decide +kernel) (by decide)
    ⟨rfl, rfl, by decide, by decide⟩ false
    (by decide +kernel) (by decide +kernel)
  · intro v hv
    obtain rfl := List.mem_singleton.1 hv
    exact fun c hc => by cases hc
  · intro read hread
    have hfound := createdWire_jobId hread
    refine ⟨.inr (hid.1.trans hfound.symm), .inl hid.2, .inl ?_⟩
    rw [hid.1]
    exact Option.some_ne_none 1

end IppPcl3Service

end PrintServer
