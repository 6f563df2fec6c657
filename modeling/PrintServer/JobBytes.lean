import PrintServer.LoopCalls
import PrintServer.StreamCall
/-!
# A job's bytes on their way through the stream (usb_printer_backend.cpp:628-711, usb_stream.cpp)

Here the transport of the backend is the stream with its writer task: each answer that the backend
gets is a call of the stream, with the writer working in between (`Drives`). `Delivered` says how far
the newest job has come, in every run of the firmware (`job_delivered`).
-/
namespace PrintServer

open UsbStream (Returns Rests)

/-- Each answer of `T` is a call of the stream that `view` shows. `known` is what can be relied on
between the calls. -/
structure Drives {σ : Type} (T : Transport σ) (view : σ → UsbStream) (known : σ → Prop) : Prop where
  ready : ∀ l, known l → T.ready l = true
  reset : ∀ l, known l → known (T.reset l).link ∧ Returns .reset true (view l) (view (T.reset l).link)
  push : ∀ l data, known l → data ≠ [] →
    known (T.push l data).link ∧ Returns (.push data) (T.push l data).ok (view l) (view (T.push l data).link)
  flush : ∀ l, known l → known (T.flush l).link ∧ Returns .flush (T.flush l).ok (view l) (view (T.flush l).link)

/-- What blocks leave in the stream: each one whole, behind the pieces of at most two attempts that failed. -/
inductive Fed : List Bytes → Bytes → Prop
  | nil : Fed [] []
  | block {blocks pieces : List Bytes} {data fed : Bytes} (h : Fed blocks fed) (hn : pieces.length ≤ 2)
      (hp : ∀ piece ∈ pieces, piece <+: data) : Fed (blocks ++ [data]) (fed ++ (pieces.flatten ++ data))

/-- How far the job of `e` has come in the stream. -/
structure Delivered (e : Episode) (s : UsbStream) : Prop where
  /-- What was pushed is the accepted blocks in order; only an abort leaves more than that. -/
  fed : ∃ fed, Fed (e.accepted.map Prod.snd) fed ∧ fed <+: s.pushed ∧ (e.ending ≠ some .aborted → s.pushed = fed) ∧
    -- after a flush, `bulkWriteAll` has returned for all of it
    (e.flushedAt.isSome = true → fed <+: s.through)
  /-- A write that failed is known, or will be. -/
  told : (∀ r ∈ s.returned, r.2 = true) ∨ s.failed = true ∨ s.writer.failing ≠ none

namespace Ledger

/-- The newest episode is the one whose bytes are in the stream. -/
structure Carries (l : Ledger) (s : UsbStream) : Prop where
  rests : s.Rests
  newest : ∀ e ∈ l.history.head?, Delivered e s
  printing : l.state = .printing → ∃ e ∈ l.history.head?, e.ending = none

/-- After `tries` attempts that failed. -/
structure Tries (data : Bytes) (tries : Nat) (l : Ledger) (s : UsbStream) : Prop where
  rests : s.Rests
  state : l.state = .printing
  newest : ∃ e rest, l.history = e :: rest ∧ e.ending = none ∧
    ∃ (fed : Bytes) (pieces : List Bytes), Fed (e.accepted.map Prod.snd) fed ∧ s.pushed = fed ++ pieces.flatten ∧
      pieces.length ≤ tries ∧ (∀ piece ∈ pieces, piece <+: data) ∧ (e.flushedAt.isSome = true → fed <+: s.through)

variable {l : Ledger} {s s' : UsbStream} {data : Bytes} {n : Nat}

theorem told_of_rests (h : s.Rests) : (∀ r ∈ s.returned, r.2 = true) ∨ s.failed = true ∨ s.writer.failing ≠ none := by
  refine h.inv.told fun hp => ?_
  have hi := h.idle
  rw [hp] at hi
  cases hi

theorem Carries.close (h : Carries l s) (hp : l.state = .printing) (how : JobEnding) {state : PrinterState}
    (hs : state ≠ .printing) : Carries (l.close how state) s where
  rests := h.rests
  newest := by
    obtain ⟨e, he, hend⟩ := h.printing hp
    intro e' he'
    have he' : e' ∈ (l.history.modifyHead (Episode.close how)).head? := he'
    rw [List.head?_modifyHead, Option.mem_def.1 he] at he'
    cases he'
    obtain ⟨fed, hfed, hle, hall, hthrough⟩ := (h.newest e he).fed
    exact ⟨⟨fed, hfed, hle, fun _ => hall (by rw [hend]; exact fun hc => (by cases hc)), hthrough⟩, (h.newest e he).told⟩
  printing := fun hc => absurd hc hs

theorem Carries.abort (h : Carries l s) : Carries l.abort s := by
  unfold Ledger.abort
  by_cases hp : l.state = .printing
  · have hc : Carries (l.close .aborted .error) s := h.close hp .aborted (fun he => (by cases he))
    rw [if_pos hp]
    exact ⟨hc.rests, hc.newest, fun he => (by cases he)⟩
  · rw [if_neg hp]
    exact ⟨h.rests, h.newest, fun he => (by cases he)⟩

/-- The stream is empty again. -/
theorem Carries.start (h : Carries l s) (hi : l.state = .idle) (hr : Returns .reset true s s') : Carries l.start s' := by
  obtain ⟨hrests, hpushed⟩ := hr.reset h.rests
  rw [start_idle hi]
  refine ⟨hrests, ?_, fun _ => ⟨{}, rfl, rfl⟩⟩
  rintro e ⟨⟩
  exact ⟨⟨[], .nil, List.nil_prefix, fun _ => hpushed, fun hf => (by cases hf)⟩, told_of_rests hrests⟩

theorem Carries.untried (h : Carries l s) (hp : l.state = .printing) : Tries data 0 l s := by
  obtain ⟨e, he, hend⟩ := h.printing hp
  obtain ⟨rest, hl⟩ : ∃ rest, l.history = e :: rest := List.head?_eq_some_iff.1 he
  obtain ⟨fed, hfed, hle, hall, hthrough⟩ := (h.newest e he).fed
  have hpushed : s.pushed = fed := hall (by rw [hend]; exact fun hc => (by cases hc))
  exact ⟨h.rests, hp, e, rest, hl, hend, fed, [], hfed, by rw [hpushed, List.flatten_nil, List.append_nil], Nat.le_refl 0,
    fun piece hm => (by cases hm), hthrough⟩

/-- An attempt fails: a piece of the block stays behind. -/
theorem Tries.fail (h : Tries data n l s) (hd : data ≠ []) (hr : Returns (.push data) false s s') :
    Tries data (n + 1) l s' := by
  obtain ⟨hrests, hthrough, queued, hq, hle, _⟩ := hr.push hd h.rests
  obtain ⟨e, rest, hl, hend, fed, pieces, hfed, hpushed, hn, hp, hflushed⟩ := h.newest
  refine ⟨hrests, h.state, e, rest, hl, hend, fed, pieces ++ [queued], hfed, ?_, ?_, ?_, ?_⟩
  · rw [hq, hpushed, List.flatten_append, List.flatten_singleton, List.append_assoc]
  · rw [List.length_append]
    exact Nat.succ_le_succ hn
  · intro piece hm
    rcases List.mem_append.1 hm with hm | hm
    · exact hp piece hm
    · rw [List.mem_singleton.1 hm]
      exact hle
  · exact fun hf => (hflushed hf).trans hthrough

/-- An attempt succeeds: the whole block follows. -/
theorem Tries.accept (h : Tries data n l s) (hn : n ≤ 2) (hd : data ≠ []) (hr : Returns (.push data) true s s')
    (job : JobKey) : Carries (l.accept job data) s' := by
  obtain ⟨hrests, hthrough, queued, hq, _, hall⟩ := hr.push hd h.rests
  obtain ⟨e, rest, hl, hend, fed, pieces, hfed, hpushed, hlen, hp, hflushed⟩ := h.newest
  have hhead : (l.accept job data).history = e.accept job data :: rest := by
    unfold Ledger.accept
    rw [hl]
    rfl
  have hfed' : Fed ((e.accept job data).accepted.map Prod.snd) s'.pushed := by
    have hmap : (e.accept job data).accepted.map Prod.snd = e.accepted.map Prod.snd ++ [data] := List.map_append
    rw [hmap, hq, hpushed, hall rfl, List.append_assoc]
    exact hfed.block (Nat.le_trans hlen hn) hp
  refine ⟨hrests, ?_, fun _ => ⟨e.accept job data, by rw [hhead]; rfl, hend⟩⟩
  rw [hhead]
  rintro e' ⟨⟩
  exact ⟨⟨s'.pushed, hfed', List.prefix_rfl, fun _ => rfl, fun hf => (by cases hf)⟩, told_of_rests hrests⟩

/-- All attempts have failed. -/
theorem Tries.abort (h : Tries data n l s) : Carries l.abort s := by
  obtain ⟨e, rest, hl, hend, fed, pieces, hfed, hpushed, hn, hp, hflushed⟩ := h.newest
  have hhead : l.abort.history = e.close .aborted :: rest := by
    unfold Ledger.abort
    rw [if_pos h.state, hl]
    rfl
  refine ⟨h.rests, ?_, fun he => (by cases he)⟩
  rw [hhead]
  rintro e' ⟨⟩
  exact ⟨⟨fed, hfed, ⟨pieces.flatten, hpushed.symm⟩, fun hne => absurd rfl hne, hflushed⟩, told_of_rests h.rests⟩

theorem Carries.flush {ok : Bool} (h : Carries l s) (hp : l.state = .printing) (hr : Returns .flush ok s s') (now : Nat) :
    (ok = true → Carries (l.flush now) s') ∧ Carries l.abort s' := by
  obtain ⟨hrests, hpushed, hthrough, hall⟩ := hr.flush h.rests
  obtain ⟨e, rest, hl, hend, fed, pieces, hfed, hpieces, hn, _, hflushed⟩ := (h.untried hp : Tries [] 0 l s).newest
  have hnil : pieces = [] := List.length_eq_zero_iff.1 (Nat.le_zero.1 hn)
  have hfed' : s'.pushed = fed := by
    rw [hpushed, hpieces, hnil, List.flatten_nil, List.append_nil]
  constructor
  · intro hok
    have hhead : (l.flush now).history = e.flush now :: rest := by
      unfold Ledger.flush
      rw [hl]
      rfl
    refine ⟨hrests, ?_, fun _ => ⟨e.flush now, by rw [hhead]; rfl, hend⟩⟩
    rw [hhead]
    rintro e' ⟨⟩
    refine ⟨⟨fed, hfed, by rw [hfed'], fun _ => hfed', fun _ => ?_⟩, told_of_rests hrests⟩
    rw [hall hok, hfed']
  · have hfailed : Tries [] 0 l s' := ⟨hrests, hp, e, rest, hl, hend, fed, [], hfed,
      by rw [hfed', List.flatten_nil, List.append_nil], Nat.le_refl 0, fun piece hm => (by cases hm),
      fun hf => (hflushed hf).trans hthrough⟩
    exact hfailed.abort

end Ledger

/-! ## Every call -/

namespace UsbPrinterBackend
variable {σ : Type} {T : Transport σ} {view : σ → UsbStream} {known : σ → Prop} {b : UsbPrinterBackend σ}

/-- The backend and its stream belong together. -/
def Carries (view : σ → UsbStream) (known : σ → Prop) (b : UsbPrinterBackend σ) : Prop :=
  known b.link ∧ b.ledger.Carries (view b.link)

theorem link_abortRawJob (b : UsbPrinterBackend σ) (reason : String) : (b.abortRawJob reason).link = b.link := by
  unfold abortRawJob record
  dsimp only
  split <;> split <;> rfl

theorem link_completeDrainIfReady (b : UsbPrinterBackend σ) : b.completeDrainIfReady.link = b.link := by
  unfold completeDrainIfReady record
  dsimp only
  split
  · rfl
  split
  · rfl
  split
  · rfl
  split
  · split <;> rfl
  split
  · rfl
  split <;> rfl

theorem link_followHost (b : UsbPrinterBackend σ) : b.followHost.link = b.link := by
  unfold followHost
  split
  · rfl
  split
  · split
    · rfl
    split <;> rfl
  · rfl
  · rfl
  · rfl
  · rfl

theorem Carries.abortRawJob (h : Carries view known b) (reason : String) : Carries view known (b.abortRawJob reason) := by
  unfold Carries
  rw [link_abortRawJob, ledger_abortRawJob]
  exact ⟨h.1, h.2.abort⟩

theorem Carries.startJob (hT : Drives T view known) (h : Carries view known b) (hs : b.state = .idle ∨ b.state = .printing) :
    Carries view known (b.startJob T) ∧ (b.startJob T).state = .printing := by
  have hstate : (b.startJob T).ledger.state = .printing := by
    rw [ledger_startJob]
    exact Ledger.start_state hs
  refine ⟨?_, hstate⟩
  unfold Carries
  rw [ledger_startJob]
  rcases hs with hi | hp
  · have hlink : (b.startJob T).link = (T.reset b.link).link := by
      unfold UsbPrinterBackend.startJob
      rw [if_pos hi]
      rfl
    obtain ⟨hknown, hreset⟩ := hT.reset b.link h.1
    rw [hlink]
    exact ⟨hknown, h.2.start hi hreset⟩
  · have hsame : b.startJob T = b := by
      unfold UsbPrinterBackend.startJob
      rw [if_neg (by rw [hp]; exact fun he => (by cases he))]
    rw [hsame, Ledger.start_printing hp]
    exact h

/-- The attempts, whatever each of them leaves in the stream. -/
theorem sendLoop_carries (hT : Drives T view known) (job : JobKey) {data : Bytes} (hd : data ≠ []) :
    ∀ (n : Nat) (error : String) (b : UsbPrinterBackend σ) (tries : Nat), n + tries = 3 → known b.link →
      b.ledger.Tries data tries (view b.link) → Carries view known (sendLoop T job data n error b).2
  | 0, error, b, tries, _, hknown, h => by
    show Carries view known (b.abortRawJob error)
    unfold Carries
    rw [link_abortRawJob, ledger_abortRawJob]
    exact ⟨hknown, h.abort⟩
  | n + 1, error, b, tries, hn, hknown, h => by
    obtain ⟨hknown', hpush⟩ := hT.push b.link data hknown hd
    have hoffer : offer T b data = (if (T.push b.link data).ok then none else
        some ((T.failed (T.push b.link data).link).getD "USB stream rejected print data"), b.after (T.push b.link data)) :=
      if_pos (hT.ready b.link hknown)
    rw [sendLoop]
    cases hok : (T.push b.link data).ok with
    | true =>
      rw [hok] at hpush
      rw [hok, if_pos rfl] at hoffer
      rw [hoffer]
      exact ⟨hknown', h.accept (by omega) hd hpush job⟩
    | false =>
      rw [hok] at hpush
      rw [hok, if_neg Bool.false_ne_true] at hoffer
      rw [hoffer]
      exact sendLoop_carries hT job hd n _ _ (tries + 1) (by omega) hknown' (h.fail hd hpush)

theorem Carries.sendDirect (hT : Drives T view known) (h : Carries view known b) (job : JobKey) (data : Bytes) :
    Carries view known (b.sendDirect T job data).2 := by
  unfold UsbPrinterBackend.sendDirect
  by_cases hd : data.isEmpty = true
  · rw [if_pos hd]
    exact h
  rw [if_neg hd]
  split
  · exact h
  split
  · exact h
  rename_i hs
  have hs : b.state = .idle ∨ b.state = .printing := by
    rcases not_and_or.1 hs with hs | hs
    · exact Or.inl (not_not.1 hs)
    · exact Or.inr (not_not.1 hs)
  obtain ⟨hstart, hprinting⟩ := h.startJob hT hs
  exact sendLoop_carries hT job (fun hnil => hd (by rw [hnil]; rfl)) 3 "" _ 0 rfl hstart.1 (hstart.2.untried hprinting)

theorem Carries.finishRawJob (hT : Drives T view known) (h : Carries view known b) : Carries view known (b.finishRawJob T) := by
  unfold UsbPrinterBackend.finishRawJob
  split
  · exact h
  rename_i hp
  have hp : b.state = .printing := not_not.1 (not_or.1 hp).1
  obtain ⟨hknown, hflush⟩ := hT.flush b.link h.1
  rw [if_pos (hT.ready b.link h.1)]
  dsimp only
  obtain ⟨hdone, hfailed⟩ := h.2.flush hp hflush (b.after (T.flush b.link)).now
  split
  · unfold Carries
    rw [link_abortRawJob, ledger_abortRawJob]
    exact ⟨hknown, hfailed⟩
  · rename_i hok
    exact ⟨hknown, hdone (by simpa using hok)⟩

theorem Carries.completeDrainIfReady (h : Carries view known b) : Carries view known b.completeDrainIfReady := by
  obtain ⟨_, _, hc⟩ := b.completeDrainIfReady_cases
  unfold Carries
  rw [link_completeDrainIfReady]
  refine ⟨h.1, ?_⟩
  rcases hc with hl | ⟨hp, _, ⟨_, hl⟩ | ⟨_, counted, s, hs, _, hl⟩⟩
  · rw [hl]
    exact h.2
  · have hclose : Ledger.Carries (b.ledger.close (.completed b.now) .idle) (view b.link) :=
      h.2.close hp _ (fun he => (by cases he))
    rw [hl]
    exact ⟨hclose.rests, hclose.newest, hclose.printing⟩
  · have hclose := h.2.close (l := b.ledger) hp .stopped hs
    rw [hl]
    exact ⟨hclose.rests, hclose.newest, hclose.printing⟩

theorem Carries.followHost (h : Carries view known b) : Carries view known b.followHost := by
  obtain ⟨_, _, hc⟩ := b.followHost_cases
  unfold Carries
  rw [link_followHost]
  refine ⟨h.1, ?_⟩
  rcases hc with ⟨_, he⟩ | ⟨_, s, hs, hl⟩
  · rw [he]
    exact h.2
  · rw [hl]
    exact ⟨h.2.rests, h.2.newest, fun hc => absurd hc hs⟩

/-- Every call keeps them together. -/
theorem Carries.call (hT : Drives T view known) (h : Carries view known b) (c : Call) : Carries view known (b.call T c) := by
  cases c with
  | sendDirect job data => exact h.sendDirect hT job data
  | finishRawJob => exact h.finishRawJob hT
  | abortRawJob reason => exact h.abortRawJob reason
  | completeDrainIfReady => exact h.completeDrainIfReady
  | followHost => exact h.followHost
  | pass t => exact h

end UsbPrinterBackend

namespace System
variable {σ : Type} {T : Transport σ} {view : σ → UsbStream} {known : σ → Prop}

/-- **What became of the newest job's bytes**, in every run of the loop over a stream that `reset` never
clears under its writer: every accepted block is in the stream, whole and in order, and a flush that
returned true means that all of them went through `bulkWriteAll`. -/
theorem job_delivered (hT : Drives T view known) (host : UsbHostManager) {link : σ} (now : Nat) (buffer : Bool)
    (hl : known link) {capacity : Nat} (h0 : 0 < capacity) (hc : capacity < 2 ^ 32)
    (hv : view link = UsbStream.begin capacity) {acts : List LoopAct} {s : System σ}
    (hr : Lib.run (step T) (begin host link now buffer) acts = some s) {e : Episode}
    (he : s.backend.history.head? = some e) : Delivered e (view s.backend.link) := by
  have hrests : (view link).Rests := by
    rw [hv]
    exact ⟨⟨.begin h0 hc, UsbStream.log_begin capacity⟩, rfl⟩
  have hbegin : (begin host link now buffer).backend.Carries view known :=
    ⟨hl, hrests, fun e he => (by cases he), fun hp => (by cases hp)⟩
  obtain ⟨_, hcalls⟩ := calls_run (RawServer.sound_empty rfl rfl rfl) hr
  have hend : s.backend.Carries view known := hcalls.inv (fun b c h => h.call hT c) hbegin
  exact hend.2.newest e he

end System

/-! ## A writer task that is always late -/

namespace UsbStream

/-- The block is queued if it fits; otherwise the ring fills up, and the wait for room times out. -/
def pushAlone (s : UsbStream) (data : Bytes) : List StreamAct :=
  if data.length ≤ s.space then List.replicate 5 (.producer false)
  else if s.space = 0 then List.replicate 3 (.producer true)
  else List.replicate 7 (.producer true)

/-- The writer empties the ring before `flush` looks. -/
def writeOut (s : UsbStream) : List StreamAct := if s.used = 0 then [] else List.replicate 8 (.writer none)

def answer (before : List StreamAct) (a : StreamAct) (during : List StreamAct) (s : UsbStream) : Answer UsbStream :=
  let s' := (Lib.run step s (before ++ a :: during)).getD s
  { ok := s'.producer = .idle true, error := s'.failure.getD "", link := s', took := {} }

end UsbStream

/-- The writer does nothing until `flush`, and then takes everything at once. -/
def Transport.lateWriter : Transport UsbStream :=
  { ready := fun _ => true
    reset := UsbStream.answer [] .reset (List.replicate 4 (.producer false))
    push := fun s data => UsbStream.answer [] (.push data) (s.pushAlone data) s
    failed := UsbStream.failure
    flush := fun s => UsbStream.answer s.writeOut .flush (List.replicate 3 (.producer false) ++ [.drained true]) s
    bulkWriteAll := fun s _ => { ok := false, error := "USB Bulk OUT endpoint is not available", link := s, took := {} }
    waitForBulkOut := fun s => { ok := true, error := "", link := s, took := {} } }

namespace UsbStream

/-- Between two calls: the writer has nothing under way, and the ring is no longer than one chunk. -/
structure Late (s : UsbStream) : Prop where
  rests : s.Rests
  writer : s.writer = .check
  failed : s.failed = false
  capacity_le : s.capacity ≤ bulkOutChunkSize

variable {s s' : UsbStream}

/-- While the writer stands at the top of its loop, no step of a call overtakes it. -/
theorem meets_inside {acts : List StreamAct} : ∀ {s : UsbStream}, s.writer = .check →
    (∀ a ∈ acts, a.inside = true ∧ a.byWriter = false) →
    Lib.Meets step (fun s a => a.inside = true ∧ s.Isolated a) s acts := by
  induction acts with
  | nil => exact fun _ _ => trivial
  | cons a acts ih =>
    intro s hw ha
    obtain ⟨hin, hby⟩ := ha a List.mem_cons_self
    refine ⟨⟨hin, ?_⟩, fun m hm => ih ((loop_step hby hm).1.trans hw) fun b hb => ha b (List.mem_cons_of_mem a hb)⟩
    cases a with
    | producer late =>
      refine ⟨fun _ => ?_, fun _ => ?_⟩
      · unfold settled
        rw [hw]
      · rw [hw]
        rfl
    | writer outcome => cases hby
    | _ => trivial

theorem meets_writer (n : Nat) : ∀ {s : UsbStream},
    Lib.Meets step (fun s a => a.byWriter = true ∧ s.Isolated a) s (List.replicate n (.writer none)) := by
  induction n with
  | zero => exact trivial
  | succ n ih => exact ⟨⟨rfl, Or.inr (Or.inl rfl)⟩, fun m _ => ih⟩

/-- A call that runs to its end while the writer stands still. -/
theorem returns_of_run {a : StreamAct} {ok : Bool} {during : List StreamAct} (hw : s.writer = .check)
    (ha : a.byWriter = false) (hd : ∀ a ∈ during, a.inside = true ∧ a.byWriter = false)
    (hr : Lib.run step s (a :: during) = some s') (hi : s'.producer = .idle ok) : Returns a ok s s' := by
  obtain ⟨entered, he, hr⟩ := Lib.run_cons hr
  exact ⟨[], s, entered, during, ⟨trivial, rfl⟩, he, ⟨meets_inside ((loop_step ha he).1.trans hw) hd, hr⟩, hi⟩

theorem inside_replicate {n : Nat} {late : Bool} :
    ∀ a ∈ List.replicate n (StreamAct.producer late), a.inside = true ∧ a.byWriter = false := by
  intro a ha
  rw [List.eq_of_mem_replicate ha]
  exact ⟨rfl, rfl⟩

theorem run_reset {ok : Bool} (hp : s.producer = .idle ok) (hb : s.busy = false) :
    Lib.run step s (.reset :: List.replicate 4 (.producer false)) =
      some { s.clear with failed := false, failedBy := none, wake := true, producer := .idle true } := by
  have hreset : s.step .reset = some { s with producer := .resetWait } := by
    simp only [step, enter, hp]
  have hwait : ({ s with producer := .resetWait } : UsbStream).step (.producer false) =
      some { s with producer := .resetClear } := by
    simp only [step, producerStep, hb, Bool.false_eq_true, false_and, if_false]
  exact (Lib.run_of_step hreset).trans (Lib.run_of_step hwait)

/-- What a call leaves as it is when it fails with the ring full. -/
def TimesOut (s s' : UsbStream) : Prop :=
  s'.producer = .idle false ∧ s'.writer = s.writer ∧ s'.failed = s.failed ∧ s'.capacity = s.capacity

/-- The ring is full, and the wait for room times out. -/
theorem run_full {rest : Bytes} (hp : s.producer = .pushCheck rest) (hf : s.failed = false) (hs : s.space = 0) :
    ∃ s', Lib.run step s (List.replicate 3 (.producer true)) = some s' ∧ s.TimesOut s' := by
  have hcheck : s.step (.producer true) = some { s with producer := .pushLook rest } := by
    simp only [step, producerStep, hp, hf, Bool.false_eq_true, if_false]
  have hlook : ({ s with producer := .pushLook rest } : UsbStream).step (.producer true) =
      some { s with producer := .pushTimeout } := by
    have hs : ({ s with producer := .pushLook rest } : UsbStream).space = 0 := hs
    simp only [step, producerStep, hs, if_true]
  exact ⟨_, (Lib.run_of_step hcheck).trans (Lib.run_of_step hlook), rfl, rfl, rfl, rfl⟩

/-- The piece that fits leaves no room. -/
theorem no_space_left {data : Bytes} (h : StreamFifo s) (hd : s.space ≤ data.length) :
    sub32 s.capacity ((s.used + (data.take s.space).length) % 2 ^ 32) = 0 := by
  have hle := h.used_le
  have hlt := h.capacity_lt
  rw [h.space_eq] at hd ⊢
  rw [List.length_take_of_le hd, Nat.add_sub_cancel' hle, Nat.mod_eq_of_lt hlt, sub32_of_le (Nat.le_refl _) hlt, Nat.sub_self]

/-- A block that does not fit fills the ring first. -/
theorem run_partly {data : Bytes} (h : StreamFifo s) (hp : s.producer = .pushCheck data) (hf : s.failed = false)
    (h0 : s.space ≠ 0) (hd : s.space < data.length) :
    ∃ s', Lib.run step s (List.replicate 7 (.producer true)) = some s' ∧ s.TimesOut s' := by
  have hcheck : s.step (.producer true) = some { s with producer := .pushLook data } := by
    simp only [step, producerStep, hp, hf, Bool.false_eq_true, if_false]
  have hlook : ({ s with producer := .pushLook data } : UsbStream).step (.producer true) =
      some { s with producer := .pushCopy data s.head s.space } :=
    @producerStep_look { s with producer := .pushLook data } true data _ rfl h0 (Nat.min_eq_left (Nat.le_of_lt hd))
  have hcopy : ({ s with producer := .pushCopy data s.head s.space } : UsbStream).step (.producer true) =
      some { s.copyIn s.head (data.take s.space) with producer := .pushPublish data s.head s.space } := rfl
  have hfront : Lib.run step s (List.replicate 7 (.producer true)) =
      Lib.run step { s.copyIn s.head (data.take s.space) with producer := .pushPublish data s.head s.space }
        (List.replicate 4 (.producer true)) :=
    (Lib.run_of_step hcheck).trans ((Lib.run_of_step hlook).trans (Lib.run_of_step hcopy))
  have hkept : ∀ t : UsbStream, t = s.copyIn s.head (data.take s.space) →
      t.capacity = s.capacity ∧ t.used = s.used ∧ t.writer = s.writer ∧ t.failed = s.failed := by
    rintro t rfl
    unfold copyIn
    exact ⟨rfl, rfl, rfl, rfl⟩
  obtain ⟨hcap, hused, hwriter, hfailed⟩ := hkept _ rfl
  rw [hfront]
  generalize s.copyIn s.head (data.take s.space) = t at hcap hused hwriter hfailed
  have hpublish : ({ t with producer := .pushPublish data s.head s.space } : UsbStream).step (.producer true) =
      some { t.publish s.head (data.take s.space) with producer := .pushCheck (data.drop s.space) } := by
    have hc : ({ t with producer := .pushPublish data s.head s.space } : UsbStream).producerStep true = _ :=
      producerStep_publish rfl
    rw [if_pos hd, publish_go] at hc
    exact hc
  have hspace : sub32 t.capacity ((t.used + (data.take s.space).length) % 2 ^ 32) = 0 := by
    rw [hcap, hused]
    exact no_space_left h (Nat.le_of_lt hd)
  obtain ⟨s', hr, hidle, hw, hf', hc⟩ := run_full
    (s := { t.publish s.head (data.take s.space) with producer := .pushCheck (data.drop s.space) }) rfl
    (hfailed.trans hf) hspace
  exact ⟨s', (Lib.run_of_step hpublish).trans hr, hidle, hw.trans hwriter, hf'.trans hfailed, hc.trans hcap⟩

/-- The writer empties the ring, and every write succeeds. -/
theorem run_writeOut (h : StreamFifo s) (hw : s.writer = .check) (hf : s.failed = false) (hu : s.used ≠ 0)
    (hfit : s.used ≤ bulkOutChunkSize) :
    ∃ s', Lib.run step s (List.replicate 8 (.writer none)) = some s' ∧ s'.writer = .check ∧ s'.failed = false ∧
      s'.busy = false ∧ s'.used = 0 ∧ s'.producer = s.producer ∧ s'.capacity = s.capacity := by
  refine ⟨{ s.take s.tail (Lib.Ring.readWrap s.mem s.capacity s.tail s.used) with
    submitted := s.submitted ++ [(s.epoch, Lib.Ring.readWrap s.mem s.capacity s.tail s.used)]
    returned := s.returned ++ [(Lib.Ring.readWrap s.mem s.capacity s.tail s.used, true)]
    busy := false, writer := .check }, ?_, ?_⟩
  · simp [List.replicate, Lib.run, step, writerStep, hw, hf, hu, Nat.min_eq_left hfit, take]
  · refine ⟨rfl, hf, rfl, ?_, rfl, rfl⟩
    show sub32 s.used _ = 0
    rw [Lib.Ring.length_readWrap, sub32_of_le (Nat.le_refl _) h.used_lt, Nat.sub_self]

/-- `flush` finds the ring empty and the writer idle. -/
theorem run_flush {ok : Bool} (hp : s.producer = .idle ok) (hf : s.failed = false) (hb : s.busy = false) (hu : s.used = 0) :
    Lib.run step s (.flush :: (List.replicate 3 (.producer false) ++ [.drained true])) =
      some { s with producer := .idle true } := by
  simp [List.replicate, Lib.run, step, enter, producerStep, leaveFlush, hp, hf, hb, hu]

theorem answer_of_run {b during : List StreamAct} {a : StreamAct} (hr : Lib.run step s (b ++ a :: during) = some s') :
    (answer b a during s).link = s' ∧ (answer b a during s).ok = decide (s'.producer = .idle true) := by
  unfold answer
  rw [hr]
  exact ⟨rfl, rfl⟩

theorem Late.busy (h : Late s) : s.busy = false := by
  rw [h.rests.inv.busy, h.writer]
  rfl

theorem Late.idle (h : Late s) : ∃ ok, s.producer = .idle ok := by
  have hi := h.rests.idle
  cases hp : s.producer with
  | idle ok => exact ⟨ok, rfl⟩
  | _ => rw [hp] at hi; cases hi

theorem Late.reset (h : Late s) : Late (Transport.lateWriter.reset s).link ∧
    Returns .reset true s (Transport.lateWriter.reset s).link := by
  obtain ⟨ok, hp⟩ := h.idle
  have hr := run_reset hp h.busy
  have hret := returns_of_run h.writer rfl inside_replicate hr rfl
  rw [show (Transport.lateWriter.reset s).link = _ from (answer_of_run hr).1]
  exact ⟨⟨(hret.reset h.rests).1, h.writer, rfl, h.capacity_le⟩, hret⟩

theorem Late.flush (h : Late s) : Late (Transport.lateWriter.flush s).link ∧
    Returns .flush (Transport.lateWriter.flush s).ok s (Transport.lateWriter.flush s).link := by
  obtain ⟨ok, hp⟩ := h.idle
  have hinside : ∀ a ∈ List.replicate 3 (StreamAct.producer false) ++ [.drained true],
      a.inside = true ∧ a.byWriter = false := by
    decide
  by_cases hu : s.used = 0
  · have hr := run_flush hp h.failed h.busy hu
    obtain ⟨hlink, hok⟩ := answer_of_run (b := []) hr
    have hret : Returns .flush true s { s with producer := .idle true } := returns_of_run h.writer rfl hinside hr rfl
    have hflush : Transport.lateWriter.flush s =
        answer [] .flush (List.replicate 3 (.producer false) ++ [.drained true]) s := by
      show answer s.writeOut .flush _ s = _
      rw [writeOut, if_pos hu]
    rw [hflush, hlink, hok]
    exact ⟨⟨(hret.flush h.rests).1, h.writer, h.failed, h.capacity_le⟩, hret⟩
  · have hfit : s.used ≤ bulkOutChunkSize := Nat.le_trans h.rests.inv.used_le h.capacity_le
    obtain ⟨m, hm, hw, hf, hb, hu', hp', hc⟩ := run_writeOut h.rests.inv.toStreamFifo h.writer h.failed hu hfit
    have hr := run_flush (hp'.trans hp) hf hb hu'
    obtain ⟨hlink, hok⟩ := answer_of_run ((Lib.run_append hm).trans hr)
    have hret : Returns .flush true s { m with producer := .idle true } := by
      obtain ⟨entered, he, hr⟩ := Lib.run_cons hr
      exact ⟨_, m, entered, _, ⟨meets_writer 8, hm⟩, he, ⟨meets_inside ((loop_step rfl he).1.trans hw) hinside, hr⟩, rfl⟩
    have hflush : Transport.lateWriter.flush s =
        answer (List.replicate 8 (.writer none)) .flush (List.replicate 3 (.producer false) ++ [.drained true]) s := by
      show answer s.writeOut .flush _ s = _
      rw [writeOut, if_neg hu]
    rw [hflush, hlink, hok]
    exact ⟨⟨(hret.flush h.rests).1, hw, hf, hc ▸ h.capacity_le⟩, hret⟩

/-- A block pushed while the writer stands still is queued, or the call times out. -/
theorem run_pushAlone {ok : Bool} {data : Bytes} (h : StreamFifo s) (hp : s.producer = .idle ok) (hf : s.failed = false)
    (hd : data ≠ []) : ∃ s', Lib.run step s (.push data :: s.pushAlone data) = some s' ∧ (∃ ok', s'.producer = .idle ok') ∧
      s'.writer = s.writer ∧ s'.failed = false ∧ s'.capacity = s.capacity := by
  have hempty : data.isEmpty = false := List.isEmpty_eq_false_iff.2 hd
  have hpush : s.step (.push data) = some { s with producer := .pushCheck data } := by
    simp only [step, enter, hp, hempty, if_false, Bool.false_eq_true]
  unfold pushAlone
  by_cases hfits : data.length ≤ s.space
  · rw [if_pos hfits]
    refine ⟨_, push_fits hp hf (List.length_pos_iff.2 hd) hfits, ⟨true, rfl⟩, ?_, ?_, ?_⟩
    · unfold UsbStream.publish copyIn
      rfl
    · unfold UsbStream.publish copyIn
      exact hf
    · unfold UsbStream.publish copyIn
      rfl
  rw [if_neg hfits]
  by_cases hfull : s.space = 0
  · rw [if_pos hfull]
    obtain ⟨s', hr, hi, hw, hf', hc⟩ := run_full (s := { s with producer := .pushCheck data }) rfl hf hfull
    exact ⟨s', (Lib.run_of_step hpush).trans hr, ⟨false, hi⟩, hw, hf'.trans hf, hc⟩
  · rw [if_neg hfull]
    have hfifo : StreamFifo { s with producer := .pushCheck data } := h.go (List.length_pos_iff.2 hd)
    obtain ⟨s', hr, hi, hw, hf', hc⟩ := run_partly hfifo rfl hf hfull (Nat.lt_of_not_le hfits)
    exact ⟨s', (Lib.run_of_step hpush).trans hr, ⟨false, hi⟩, hw, hf'.trans hf, hc⟩

theorem Late.push {data : Bytes} (h : Late s) (hd : data ≠ []) : Late (Transport.lateWriter.push s data).link ∧
    Returns (.push data) (Transport.lateWriter.push s data).ok s (Transport.lateWriter.push s data).link := by
  obtain ⟨ok, hp⟩ := h.idle
  obtain ⟨s', hr, ⟨ok', hi⟩, hw, hf, hc⟩ := run_pushAlone h.rests.inv.toStreamFifo hp h.failed hd
  obtain ⟨hlink, hok⟩ := answer_of_run (b := []) hr
  have hinside : ∀ a ∈ s.pushAlone data, a.inside = true ∧ a.byWriter = false := by
    unfold pushAlone
    split
    · exact inside_replicate
    split
    · exact inside_replicate
    · exact inside_replicate
  have hret : Returns (.push data) ok' s s' := returns_of_run h.writer rfl hinside hr hi
  have hanswer : decide (s'.producer = .idle true) = ok' := by
    rw [hi]
    cases ok' <;> rfl
  rw [show (Transport.lateWriter.push s data).link = s' from hlink, show (Transport.lateWriter.push s data).ok = _ from hok,
    hanswer]
  exact ⟨⟨(hret.push hd h.rests).1, hw.trans h.writer, hf, hc ▸ h.capacity_le⟩, hret⟩

end UsbStream

theorem drives_lateWriter : Drives .lateWriter id UsbStream.Late where
  ready _ _ := rfl
  reset _ h := h.reset
  push _ _ h hd := h.push hd
  flush _ h := h.flush

/-- A Print-Job of four bytes over a ring of eight. -/
theorem System.job_delivered_lateWriter : ∃ s e,
    Lib.run (System.step .lateWriter) (.begin .enumeratedPrinter (.begin 8) 0 true)
      [.pollBackend false {}, ippPost 0x02 [65, 66, 67, 68]] = some s ∧ s.backend.history.head? = some e ∧
    e.accepted = [(.ipp 1, [65, 66, 67, 68])] ∧ e.flushedAt.isSome = true ∧ Delivered e s.backend.link := by
  have hrun : (Lib.run (System.step .lateWriter) (.begin .enumeratedPrinter (.begin 8) 0 true)
      [.pollBackend false {}, ippPost 0x02 [65, 66, 67, 68]]).map (·.backend.history.head?) =
      some (some ⟨[(.ipp 1, [65, 66, 67, 68])], some 0, none⟩) := by decide +kernel
  have hlate : (UsbStream.begin 8).Late :=
    ⟨⟨⟨.begin (by decide) (by decide), UsbStream.log_begin 8⟩, rfl⟩, rfl, rfl, by decide⟩
  obtain ⟨s, hs, he⟩ := Option.map_eq_some_iff.1 hrun
  exact ⟨s, _, hs, he, rfl, rfl,
    job_delivered drives_lateWriter .enumeratedPrinter 0 true hlate (by decide) (by decide) rfl hs he⟩

end PrintServer
