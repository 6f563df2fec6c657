import PrintServer.StreamReset
/-!
# What `flush` may conclude (usb_stream.cpp:189-212, usb_stream.h:23-26)

The writer lowers `busy_` right after `bulkWriteAll` and sets `failed_` two steps later;
`flush` reads `failed_` first and `busy_` last. A write that fails in between, or after the look at
`failed_`, is not seen: `flush_iff`.
-/
namespace PrintServer
namespace UsbStream

/-- Every byte pushed since the indices were cleared went to `bulkWriteAll`, which took it. -/
structure Flushed (s : UsbStream) : Prop where
  taken : s.taken = s.pushed
  handed : s.handed = s.pushed
  returned : (s.returned.map Prod.fst).flatten = s.pushed
  ok : ∀ r ∈ s.returned, r.2 = true

/-- The loop is left with an empty ring and `busy_` low (:202). -/
theorem exit_cases {s s' : UsbStream} {late : Bool} (hs : s.producerStep late = some s')
    (he : s'.producer = .flushWait) :
    s.producer = .flushBusy 0 ∧ s.busy = false ∧ s' = { s with producer := .flushWait } := by
  unfold producerStep at hs
  cases hp : s.producer with
  | idle ok => rw [hp] at hs; cases hs
  | flushWait => rw [hp] at hs; cases hs
  | flushBusy used =>
    rw [hp] at hs
    cases hs
    by_cases hx : used = 0 ∧ s.busy = false
    · rw [if_pos hx, hx.1]
      exact ⟨rfl, hx.2, rfl⟩
    · dsimp only at he
      rw [if_neg hx] at he
      split at he <;> cases he
  | pushCheck data =>
    rw [hp] at hs
    cases hs
    dsimp only at he
    split at he <;> cases he
  | pushLook data =>
    rw [hp] at hs
    cases hs
    dsimp only at he
    split at he
    · split at he <;> cases he
    · cases he
  | pushPublish data head n =>
    rw [hp] at hs
    cases hs
    dsimp only at he
    split at he <;> cases he
  | flushCheck =>
    rw [hp] at hs
    cases hs
    dsimp only at he
    split at he <;> cases he
  | resetWait =>
    rw [hp] at hs
    cases hs
    dsimp only at he
    split at he <;> cases he
  | _ =>
    rw [hp] at hs
    cases hs
    cases he

namespace StreamInv
variable {s : UsbStream}

/-- With the ring empty and `busy_` low, everything pushed has been through `bulkWriteAll`. -/
theorem all_returned (h : StreamInv s) (hu : s.used = 0) (hb : s.busy = false) :
    s.taken = s.pushed ∧ s.handed = s.pushed ∧ (s.returned.map Prod.fst).flatten = s.pushed := by
  have hq : s.queue = [] := Lib.Ring.slice_eq_nil.2 hu
  have ht : s.pushed = s.taken := by
    rw [h.fifo, hq, List.append_nil]
  have hlow : s.writer.raised = false := by rw [← h.busy, hb]
  have hout : s.writer.held = [] ∧ s.writer.inside s.epoch = [] := by
    cases hw : s.writer with
    | call data e => rw [hw] at hlow; cases hlow
    | write data e => rw [hw] at hlow; cases hlow
    | _ => exact ⟨rfl, rfl⟩
  have hh : s.taken = s.handed := by
    rw [h.toStreamLog.taken, hout.1, List.append_nil]
  have hr : s.handed = (s.returned.map Prod.fst).flatten := by
    rw [h.toStreamLog.returned, hout.2, List.append_nil]
  exact ⟨ht.symm, (ht.trans hh).symm, (ht.trans (hh.trans hr)).symm⟩

/-- Whether a write of this job failed is known, or will be. -/
theorem all_ok_iff (h : StreamInv s) (hp : s.producer ≠ .resetUnfail) :
    (∀ r ∈ s.returned, r.2 = true) ↔ s.failed = false ∧ s.writer.failing = none := by
  have hno : (∀ r ∈ s.returned, r.2 = true) ↔ ¬ ∃ r ∈ s.returned, r.2 = false := by
    simp only [not_exists, not_and, Bool.not_eq_false]
  rw [hno, h.failures, not_or, not_and]
  refine and_congr ⟨fun hf => ?_, fun hf ht => ?_⟩ ⟨fun hw => ?_, fun hw => ?_⟩
  · by_contra ht
    have ht : s.failed = true := by simpa using ht
    exact hf ht ((h.blame ht).resolve_right hp)
  · rw [hf] at ht
    cases ht
  · cases he : s.writer.failing with
    | none => rfl
    | some e =>
      -- a write of an earlier job is not on its way any more
      by_cases heq : e = s.epoch
      · exact absurd (he.trans (congrArg some heq)) hw
      · exact absurd (h.stale e he heq) hp
  · rw [hw]
    exact fun he => (by cases he)

end StreamInv

/-- **When `flush` tells the truth.** Left through its empty-and-idle exit, the loop is right about
the job exactly if `failed_` is not set there and no failed write is about to set it. -/
theorem flush_iff {capacity : Nat} (h0 : 0 < capacity) (hc : capacity < 2 ^ 32) {acts : List StreamAct}
    {s s' : UsbStream} {late : Bool} (hi : Lib.Meets step Isolated (begin capacity) acts)
    (hr : Lib.run step (begin capacity) acts = some s) (hs : s.step (.producer late) = some s')
    (he : s'.producer = .flushWait) : Flushed s' ↔ s.failed = false ∧ s.writer.failing = none := by
  have h := inv_run h0 hc hi hr
  obtain ⟨hp, hb, rfl⟩ := exit_cases hs he
  have hu : s.used = 0 := by
    have hfit := h.producer
    rw [hp] at hfit
    exact hfit rfl
  obtain ⟨h1, h2, h3⟩ := h.all_returned hu hb
  rw [← h.all_ok_iff (by rw [hp]; exact fun he => (by cases he))]
  constructor
  · exact fun hf => hf.ok
  · exact fun hok => ⟨h1, h2, h3, hok⟩

/-- A job of three bytes up to the call of `bulkWriteAll`, and `flush` past its look at `failed_`. -/
def writing : List StreamAct :=
  [.push [1, 2, 3]] ++ List.replicate 5 (.producer false) ++ List.replicate 6 (.writer none) ++
    [.flush, .producer false]

/-- `bulkWriteAll` returns, `busy_` is lowered, `flush` looks at the ring. -/
def flushAfter (outcome : Option String) : List StreamAct :=
  writing ++ [.writer outcome, .writer none, .producer false]

theorem flush_iff_ok : ∃ s s', Lib.run step (begin usbStreamBufferSize) (flushAfter none) = some s ∧
    s.step (.producer false) = some s' ∧ Flushed s' := by
  have hi : Lib.Meets step Isolated (begin usbStreamBufferSize) (flushAfter none) := by decide +kernel
  have hrun : (Lib.run step (begin usbStreamBufferSize) (flushAfter none)).map
      (fun s => (s.failed, s.writer, s.producer, s.busy)) = some (false, .check, .flushBusy 0, false) := by decide +kernel
  obtain ⟨s, hs, hu⟩ := Option.map_eq_some_iff.1 hrun
  simp only [Prod.mk.injEq] at hu
  obtain ⟨hf, hw, hp, hb⟩ := hu
  have hstep : s.step (.producer false) = some { s with producer := .flushWait } := by
    simp [step, producerStep, hp, hb]
  refine ⟨s, _, hs, hstep, (flush_iff (by decide) (by decide) hi hs hstep rfl).2 ⟨hf, ?_⟩⟩
  rw [hw]
  rfl

/-- The write fails, and `flush` goes on to `waitForBulkOut` all the same. -/
theorem flush_missesFailure : ∃ s s',
    Lib.run step (begin usbStreamBufferSize) (flushAfter (some "stall")) = some s ∧ s.step (.producer false) = some s' ∧
    s'.producer = .flushWait ∧ ¬ Flushed s' := by
  have hrun : (Lib.run step (begin usbStreamBufferSize) (flushAfter (some "stall"))).map
      (fun s => (s.producer, s.busy, s.returned)) = some (.flushBusy 0, false, [([1, 2, 3], false)]) := by decide +kernel
  obtain ⟨s, hs, hu⟩ := Option.map_eq_some_iff.1 hrun
  simp only [Prod.mk.injEq] at hu
  obtain ⟨hp, hb, hret⟩ := hu
  have hstep : s.step (.producer false) = some { s with producer := .flushWait } := by
    simp [step, producerStep, hp, hb]
  refine ⟨s, _, hs, hstep, rfl, fun hf => ?_⟩
  have hok := hf.ok ([1, 2, 3], false) (by rw [show UsbStream.returned _ = _ from hret]; exact List.mem_singleton.2 rfl)
  cases hok

end UsbStream
end PrintServer
