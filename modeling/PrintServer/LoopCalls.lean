import PrintServer.Loop
/-!
# The loop works on the backend through its calls

`UsbPrinterBackend.call` takes the calls in any order. Here the loop is brought down to it: what a
run of `loop()` does to the backend is a row of calls (`calls_run`), so that whatever holds after
every row of calls holds in every run of the firmware.
-/
namespace PrintServer

namespace UsbPrinterBackend
variable {σ : Type} (T : Transport σ)

/-- `b'` is `b` after a row of calls. -/
def Calls (b b' : UsbPrinterBackend σ) : Prop := ∃ cs : List Call, cs.foldl (call T) b = b'

variable {T} {b b' b'' : UsbPrinterBackend σ}

theorem Calls.refl (b : UsbPrinterBackend σ) : Calls T b b := ⟨[], rfl⟩

theorem Calls.one (c : Call) : Calls T b (b.call T c) := ⟨[c], rfl⟩

theorem Calls.trans (h : Calls T b b') (h' : Calls T b' b'') : Calls T b b'' := by
  obtain ⟨cs, rfl⟩ := h
  obtain ⟨cs', rfl⟩ := h'
  exact ⟨cs ++ cs', List.foldl_append⟩

/-- **Call to run.** What every call keeps, every row of calls keeps. -/
theorem Calls.inv {I : UsbPrinterBackend σ → Prop} (hcall : ∀ b c, I b → I (b.call T c)) (h : Calls T b b') (hi : I b) :
    I b' := by
  obtain ⟨cs, rfl⟩ := h
  induction cs generalizing b with
  | nil => exact hi
  | cons c cs ih => exact ih (hcall b c hi)

theorem calls_sendDirect (job : JobKey) (data : Bytes) : Calls T b (b.sendDirect T job data).2 :=
  .one (.sendDirect job data)

end UsbPrinterBackend

open UsbPrinterBackend

/-! ## The RAW server -/

namespace Serving
variable {σ : Type} (T : Transport σ) {s s' : Serving σ}

theorem calls_move (h : Move T s s') : Calls T s.backend s'.backend := by
  cases h with
  | work _ hb =>
    rw [hb]
    exact .refl _
  | send _ _ data hb =>
    have h := calls_sendDirect (T := T) (b := s.backend) (.raw s.raw.connection) data
    rwa [hb] at h
  | refuse _ _ _ data error b hr hb =>
    have h := calls_sendDirect (T := T) (b := s.backend) (.raw s.raw.connection) data
    rw [hr] at h
    rcases hb with hb | hb
    · rwa [hb]
    · rw [hb]
      exact h.trans (.one (.abortRawJob error))
  | finish _ _ _ hb =>
    rw [hb]
    exact .one .finishRawJob
  | abort _ _ _ reason hb =>
    rw [hb]
    exact .one (.abortRawJob reason)

theorem calls_moves (h : Moves T s s') : Calls T s.backend s'.backend := by
  induction h with
  | refl => exact .refl _
  | tail _ hm ih => exact ih.trans (calls_move T hm)

theorem calls_handleRawServer (p : RawPoll) (h : s.raw.Sound) : Calls T s.backend (s.handleRawServer T p).backend := by
  rcases handleRawServer_cases T p h with ha | hm
  · rw [ha.backend]
    exact .refl _
  · exact calls_moves T hm

end Serving

/-! ## The IPP service -/

namespace Streaming
variable {σ : Type} (T : Transport σ)

theorem calls_loop (deadline : Nat) : ∀ (fuel : Nat) (ticks : List Tick) (s : Streaming σ),
    Calls T s.backend (loop T deadline fuel ticks s).backend
  | 0, _, s => .refl s.backend
  | fuel + 1, ticks, s => by
    have hpass : Calls T s.backend (s.backend.pass (ticks.headD {})) := .one (.pass _)
    rw [loop]
    split
    · exact .refl _
    dsimp only
    split
    · exact hpass
    have hsend := hpass.trans (calls_sendDirect (T := T) (.ipp s.service.serial) (s.reader.readBlock bodyBufferSize).1)
    split
    · rename_i error b hb
      rwa [hb] at hsend
    · rename_i b hb
      rw [hb] at hsend
      exact hsend.trans (calls_loop deadline fuel ticks.tail { s with
        service := sent s.service b.now (s.reader.readBlock bodyBufferSize).1.length, backend := b
        reader := (s.reader.readBlock bodyBufferSize).2
        calls := s.calls ++ [((s.reader.readBlock bodyBufferSize).1, true)] })

theorem calls_reject (s : Streaming σ) : Calls T s.backend s.reject.backend := by
  unfold reject
  dsimp only
  split
  · exact .one (.abortRawJob _)
  · exact .refl _

theorem calls_stream (ticks : List Tick) (s : IppPcl3Service) (b : UsbPrinterBackend σ) (r : BodyReader) :
    Calls T b (stream T ticks s b r).backend := by
  rw [stream]
  exact calls_loop T _ _ ticks { service := s, backend := b, reader := r }

theorem calls_streamDocument (ticks : List Tick) (s : IppPcl3Service) (b : UsbPrinterBackend σ) (r : BodyReader) :
    Calls T b (streamDocument T ticks s b r).backend := by
  have hloop := calls_stream T ticks s b r
  rw [streamDocument]
  generalize stream T ticks s b r = d at hloop
  split
  · exact hloop
  · exact hloop.trans (calls_reject T _)

end Streaming

namespace IppPcl3Service
variable {σ : Type} (T : Transport σ)

theorem calls_takeDocument (c : IppClient) (body : BodyReader) (s : IppPcl3Service) (b : UsbPrinterBackend σ) :
    Calls T b (takeDocument T c body s b).backend := by
  have hanswer : Calls T b ((streamDocument T c.reads s b body).backend.pass c.answer) :=
    (Streaming.calls_streamDocument T c.reads s b body).trans (.one (.pass _))
  unfold takeDocument endDocument
  dsimp only
  split
  · exact hanswer.trans (.one .finishRawJob)
  · exact hanswer

theorem calls_printJob (rawConnected : Bool) (c : IppClient) (r : IppRequest) (s : IppPcl3Service)
    (b : UsbPrinterBackend σ) : Calls T b (printJob T rawConnected c r s b).backend := by
  unfold printJob
  split
  · exact .refl _
  split
  · exact .refl _
  split
  · exact .refl _
  split
  · exact .refl _
  · exact calls_takeDocument T c r.body _ b

theorem calls_sendDocument (c : IppClient) (r : IppRequest) (s : IppPcl3Service) (b : UsbPrinterBackend σ) :
    Calls T b (sendDocument T c r s b).backend := by
  unfold sendDocument
  split
  · exact .refl _
  split
  · exact .refl _
  split
  · exact .refl _
  split
  · exact .refl _
  · exact calls_takeDocument T c r.body _ b

theorem calls_cancelJob (r : IppRequest) (s : IppPcl3Service) (b : UsbPrinterBackend σ) :
    Calls T b (cancelJob r s b).backend := by
  unfold cancelJob
  split
  · exact .refl _
  dsimp only
  split
  · exact .one (.abortRawJob _)
  · exact .refl _

theorem calls_operation (rawConnected : Bool) (c : IppClient) (r : IppRequest) (s : IppPcl3Service)
    (b : UsbPrinterBackend σ) : Calls T b (operation T rawConnected c r s b).backend := by
  have hcreate : (createJob r s b).backend = b := by
    unfold createJob
    split
    · rfl
    split <;> rfl
  have hclose : (closeJob s b).backend = b := by
    unfold closeJob
    split <;> rfl
  have hget : (getJobAttributes r s b).backend = b := by
    unfold getJobAttributes
    dsimp only
    split
    · rfl
    split <;> rfl
  unfold operation
  split
  · exact .refl _
  · exact .refl _
  · exact calls_printJob T rawConnected c r s b
  · rw [hcreate]
    exact .refl _
  · exact calls_sendDocument T c r s b
  · exact calls_cancelJob T r s b
  · rw [hclose]
    exact .refl _
  · rw [hget]
    exact .refl _
  · rw [hget]
    exact .refl _
  · exact .refl _

theorem calls_poll (rawConnected : Bool) (client : Option IppClient) (s : IppPcl3Service) (b : UsbPrinterBackend σ) :
    Calls T b (s.poll T rawConnected client b).2.1 := by
  unfold poll
  split
  · exact .refl _
  dsimp only
  cases client with
  | none => exact .refl _
  | some c =>
    have hpass : Calls T b (b.pass c.arrival) := .one (.pass _)
    dsimp only
    unfold handleClient
    dsimp only
    cases parse c.client with
    | dropped error => exact hpass
    | malformed version requestId => exact hpass
    | request r => exact hpass.trans (calls_operation T rawConnected c r _ _)

end IppPcl3Service

/-! ## The loop -/

namespace System
variable {σ : Type} {T : Transport σ} {s s' : System σ}

theorem calls_step {a : LoopAct} (h : s.raw.Sound) (hs : s.step T a = some s') :
    s'.raw.Sound ∧ Calls T s.backend s'.backend := by
  unfold step at hs
  cases a with
  | pass t =>
    cases hs
    exact ⟨h, .one (.pass t)⟩
  | pollBackend relisten p =>
    dsimp only at hs
    split at hs
    · cases hs
      rw [pollBackend_eq]
      have hdrain : Calls T s.backend s.backend.completeDrainIfReady := .one .completeDrainIfReady
      have hserve : Calls T s.backend.completeDrainIfReady (s.served T relisten p).backend :=
        Serving.calls_handleRawServer T
          (s := { backend := s.backend.completeDrainIfReady, raw := s.listening relisten p }) p
          (listening_frame relisten p h).1
      exact ⟨sound_served T relisten p h, (hdrain.trans hserve).trans (.one .followHost)⟩
    · cases hs
  | pollIpp client =>
    dsimp only at hs
    split at hs
    · cases hs
      exact ⟨h, IppPcl3Service.calls_poll T s.raw.rawClientConnected client s.service s.backend⟩
    · cases hs

/-- **Every run of the loop is, for the backend, a row of its calls.** -/
theorem calls_run {acts : List LoopAct} : ∀ {s : System σ}, s.raw.Sound → Lib.run (step T) s acts = some s' →
    s'.raw.Sound ∧ Calls T s.backend s'.backend := by
  induction acts with
  | nil =>
    intro s h hr
    cases hr
    exact ⟨h, .refl _⟩
  | cons a acts ih =>
    intro s h hr
    obtain ⟨m, hm, hr⟩ := Lib.run_cons hr
    obtain ⟨hsound, hfirst⟩ := calls_step h hm
    obtain ⟨hend, hrest⟩ := ih hsound hr
    exact ⟨hend, hfirst.trans hrest⟩

end System
end PrintServer
