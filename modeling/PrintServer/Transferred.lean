import PrintServer.JobBytes
import PrintServer.Pipe
/-!
# From the job to the USB transfers (usb_printer_backend.cpp:628-711, usb_stream.cpp, usb_host_manager.cpp:618-751)

`JobBytes` follows a job's bytes up to `bulkWriteAll`. Here the transport of the backend is the stream
with its writer on top of the Bulk OUT pipeline, so that they can be followed to the transfers that the
driver has completed.

- `Pipe.Returns.flush`: a `flush` that returns true has everything pushed transferred.
- `System.job_transferred`: so has a flushed job, in every run of the loop.
- `Transport.bench`: a transport that can be driven so.
-/
namespace PrintServer

theorem modify_append {α : Type} {done : List α} : ∀ {k : Nat} {rest : List α} {f : α → α}, done.length ≤ k →
    (done ++ rest).modify k f = done ++ rest.modify (k - done.length) f := by
  induction done with
  | nil => exact fun _ => rfl
  | cons x done ih =>
    intro k rest f hk
    obtain ⟨k, rfl⟩ : ∃ m, k = m + 1 :=
      ⟨k - 1, (Nat.succ_pred_eq_of_pos (Nat.lt_of_lt_of_le (Nat.succ_pos _) hk)).symm⟩
    rw [List.cons_append, List.modify_succ_cons, ih (Nat.le_of_succ_le_succ hk), List.length_cons, Nat.add_sub_add_right]
    rfl

/-! ## Completed transfers stay -/

namespace BulkOut
variable {s s' : BulkOut}

/-- `bytes` are the data of transfers that were completed in full, in order. -/
def Transferred (s : BulkOut) (bytes : Bytes) : Prop :=
  ∃ done rest earlier, s.submissions = done ++ rest ∧ (∀ x ∈ done, x.Good) ∧ (done.map (·.data)).flatten = earlier ++ bytes

/-- The driver has a transfer for one slot, until it calls back. -/
structure Outstanding (s : BulkOut) : Prop where
  pending : ∀ i k, (s.slots i).held = some k → ∃ x, s.submissions[k]? = some x ∧ x.result = none
  once : ∀ i j k, (s.slots i).held = some k → (s.slots j).held = some k → i = j

/-- What a step does to the driver's side. -/
inductive Sends (s s' : BulkOut) : Prop
  | rests (hheld : ∀ i, (s'.slots i).held = (s.slots i).held) (hs : s'.submissions = s.submissions)
  | submits (i : Nat) (data : Bytes) (hmine : (s'.slots i).held = some s.submissions.length)
      (hheld : ∀ j, j ≠ i → (s'.slots j).held = (s.slots j).held) (hs : s'.submissions = s.submissions ++ [{ data := data }])
  | callsBack (i k : Nat) (result : TransferStatus × Nat) (hk : (s.slots i).held = some k) (hnone : (s'.slots i).held = none)
      (hheld : ∀ j, j ≠ i → (s'.slots j).held = (s.slots j).held)
      (hs : s'.submissions = s.submissions.modify k ({ · with result := some result }))

theorem held_setSlot {i : Nat} {x : BulkSlot} (hx : x.held = (s.slots i).held) (j : Nat) :
    ((s.setSlot i x).slots j).held = (s.slots j).held := by
  by_cases hj : j = i
  · rw [hj, setSlot_self]
    exact hx
  · rw [setSlot_ne s i x j hj]

theorem sends_callerStep {answer : Bool} (hs : s.callerStep answer = some s') : Sends s s' := by
  unfold callerStep at hs
  cases hp : s.caller with
  | submit data r =>
    rw [hp] at hs
    dsimp only at hs
    split at hs
    · cases hs
      refine .submits s.next (part data) ?_ ?_ rfl
      · exact congrArg BulkSlot.held (setSlot_self s s.next _)
      · exact fun j hj => congrArg BulkSlot.held (setSlot_ne s s.next _ j hj)
    · cases hs
      exact .rests (fun _ => rfl) rfl
  | refused job i =>
    rw [hp] at hs
    cases job with
    | write data r =>
      cases hs
      exact .rests (held_setSlot rfl) rfl
    | drain =>
      cases hs
      exact .rests (held_setSlot rfl) rfl
  | _ =>
    rw [hp] at hs
    dsimp only at hs
    (repeat' split at hs) <;> first
      | cases hs; exact .rests (fun _ => rfl) rfl
      | cases hs; exact .rests (held_setSlot rfl) rfl
      | cases hs

theorem sends_step {a : BulkAct} (hs : s.step a = some s') : Sends s s' := by
  cases a with
  | caller answer => exact sends_callerStep hs
  | callback i status actual =>
    have hs : s.callback i status actual = some s' := hs
    unfold callback at hs
    split at hs
    · cases hs
    · rename_i k hk
      cases hs
      refine .callsBack i k (status, actual) hk ?_ ?_ rfl
      · exact congrArg BulkSlot.held (setSlot_self s i _)
      · exact fun j hj => congrArg BulkSlot.held (setSlot_ne s i _ j hj)
  | _ =>
    simp only [step] at hs
    (try split at hs) <;> first
      | cases hs; exact .rests (fun _ => rfl) rfl
      | cases hs

theorem Outstanding.begin : Outstanding {} := ⟨fun _ _ h => (by cases h), fun _ _ _ h => (by cases h)⟩

theorem Outstanding.step (h : Outstanding s) (hs : Sends s s') : Outstanding s' := by
  cases hs with
  | rests hheld hsub =>
    refine ⟨fun i k hk => ?_, fun i j k hi hj => h.once i j k (hheld i ▸ hi) (hheld j ▸ hj)⟩
    rw [hsub]
    exact h.pending i k (hheld i ▸ hk)
  | submits i data hmine hheld hsub =>
    have hold (j k : Nat) (hj : j ≠ i) (hk : (s'.slots j).held = some k) :
        (s.slots j).held = some k ∧ k < s.submissions.length := by
      have hk : (s.slots j).held = some k := hheld j hj ▸ hk
      obtain ⟨x, hx, -⟩ := h.pending j k hk
      exact ⟨hk, (List.getElem?_eq_some_iff.1 hx).1⟩
    have hnew (k : Nat) (hk : (s'.slots i).held = some k) : k = s.submissions.length :=
      (Option.some.inj (hmine.symm.trans hk)).symm
    constructor
    · intro j k hk
      rw [hsub]
      by_cases hj : j = i
      · rw [hnew k (hj ▸ hk)]
        exact ⟨{ data := data }, List.getElem?_concat_length, rfl⟩
      · obtain ⟨hk', hlt⟩ := hold j k hj hk
        obtain ⟨x, hx, hr⟩ := h.pending j k hk'
        exact ⟨x, (List.getElem?_append_left hlt).trans hx, hr⟩
    · intro j l k hj hl
      by_cases hji : j = i
      · by_cases hli : l = i
        · rw [hji, hli]
        · exact absurd (hnew k (hji ▸ hj)) (Nat.ne_of_lt (hold l k hli hl).2)
      · by_cases hli : l = i
        · exact absurd (hnew k (hli ▸ hl)) (Nat.ne_of_lt (hold j k hji hj).2)
        · exact h.once j l k (hold j k hji hj).1 (hold l k hli hl).1
  | callsBack i k result hk hnone hheld hsub =>
    have hold (j m : Nat) (hm : (s'.slots j).held = some m) : j ≠ i ∧ (s.slots j).held = some m := by
      have hj : j ≠ i := by
        rintro rfl
        rw [hnone] at hm
        cases hm
      exact ⟨hj, hheld j hj ▸ hm⟩
    constructor
    · intro j m hm
      obtain ⟨hj, hm⟩ := hold j m hm
      obtain ⟨x, hx, hr⟩ := h.pending j m hm
      have hne : k ≠ m := by
        rintro rfl
        exact hj (h.once j i k hm hk)
      rw [hsub]
      exact ⟨x, (List.getElem?_modify_ne _ _ hne).trans hx, hr⟩
    · intro j l m hj hl
      exact h.once j l m (hold j m hj).2 (hold l m hl).2

/-- What was transferred is not taken back. -/
theorem Transferred.step {bytes : Bytes} (h : Transferred s bytes) (ho : Outstanding s) (hs : Sends s s') :
    Transferred s' bytes := by
  obtain ⟨done, rest, earlier, hsub, hgood, hdata⟩ := h
  cases hs with
  | rests _ hsub' => exact ⟨done, rest, earlier, hsub'.trans hsub, hgood, hdata⟩
  | submits i data _ _ hsub' =>
    exact ⟨done, rest ++ [{ data := data }], earlier, by rw [hsub', hsub, List.append_assoc], hgood, hdata⟩
  | callsBack i k result hk _ _ hsub' =>
    obtain ⟨x, hx, hnone⟩ := ho.pending i k hk
    have hge : done.length ≤ k := by
      by_contra hlt
      rw [hsub, List.getElem?_append_left (Nat.lt_of_not_le hlt)] at hx
      have hr : x.result = some _ := hgood x (List.mem_of_getElem? hx)
      rw [hnone] at hr
      cases hr
    refine ⟨done, rest.modify (k - done.length) ({ · with result := some result }), earlier, ?_, hgood, hdata⟩
    rw [hsub', hsub, modify_append hge]

theorem allTrue_step {s s' : BulkOut} {a : BulkAct} (hs : s.step a = some s') (ht : s'.allTrue = true) : s.allTrue = true := by
  cases a with
  | caller answer => exact allTrue_callerStep hs ht
  | bulkWriteAll data =>
    simp only [step] at hs
    split at hs
    · cases hs
      exact ht
    · cases hs
  | waitForBulkOut =>
    simp only [step] at hs
    split at hs
    · cases hs
      exact ht
    · cases hs
  | _ =>
    have hsame := (step_frame hs (fun _ he => (by cases he)) (fun he => (by cases he)) (fun _ he => (by cases he))).2.1
    exact hsame.symm.trans ht

end BulkOut

/-! ## One call of the stream -/

/-- A step of the writer task, of the driver or of the client task. -/
def PipeAct.aside : PipeAct → Bool
  | writer _ | bulk _ => true
  | _ => false

/-- A step inside a call, of any task. -/
def PipeAct.inside : PipeAct → Bool
  | producer _ | writer _ | bulk _ => true
  | _ => false

namespace Pipe
variable {s s' : Pipe}

/-- The call `a` returns `ok` in `s'`. No step overtakes the writer, and no failure is overlooked. -/
def Returns (a : PipeAct) (ok : Bool) (s s' : Pipe) : Prop :=
  ∃ before m entered during,
    (Lib.Meets step (fun s a => a.aside = true ∧ s.Orderly a) s before ∧ Lib.run step s before = some m) ∧
    (m.Orderly a ∧ m.step a = some entered) ∧
    (Lib.Meets step (fun s a => a.inside = true ∧ s.Orderly a) entered during ∧ Lib.run step entered during = some s') ∧
    s'.stream.producer = .idle ok

/-- What each step keeps, the call keeps. -/
theorem Returns.inv {a : PipeAct} {ok : Bool} (h : Returns a ok s s') {I : Pipe → Prop}
    (hstep : ∀ s a s', I s → s.Orderly a → s.step a = some s' → I s') (hi : I s) : I s' := by
  obtain ⟨before, m, entered, during, ⟨hb, hbr⟩, ⟨hma, ha⟩, ⟨hd, hdr⟩, _⟩ := h
  have hm : I m := Lib.run_inv (fun s a s' hi hc hs => hstep s a s' hi hc.2 hs) hi hb hbr
  exact Lib.run_inv (fun s a s' hi hc hs => hstep s a s' hi hc.2 hs) (hstep m a entered hm hma ha) hd hdr

/-- The part of the stream in a run. -/
theorem stream_run {P : PipeAct → Prop} {Q : StreamAct → Prop} (hq : ∀ (s : Pipe) a, P a → ∀ b ∈ s.streamAct a, Q b) :
    ∀ {acts : List PipeAct} {s s' : Pipe}, Lib.Meets step (fun s a => P a ∧ s.Orderly a) s acts →
      Lib.run step s acts = some s' →
      ∃ parts, Lib.Meets UsbStream.step (fun s b => Q b ∧ s.Isolated b) s.stream parts ∧
        Lib.run UsbStream.step s.stream parts = some s'.stream
  | [], s, s', _, hr => by
    cases hr
    exact ⟨[], trivial, rfl⟩
  | a :: acts, s, s', hm, hr => by
    obtain ⟨m, hs, hr⟩ := Lib.run_cons hr
    obtain ⟨⟨hp, ho⟩, hrest⟩ := hm
    obtain ⟨parts, hparts, hrun⟩ := stream_run hq (hrest m hs) hr
    rcases stream_cases hs with hsame | ⟨b, hb, hstream⟩
    · rw [← hsame]
      exact ⟨parts, hparts, hrun⟩
    · refine ⟨b :: parts, (Lib.meets_cons hstream).2 ⟨⟨hq s a hp b hb, ho.1 b hb⟩, hparts⟩, ?_⟩
      rw [Lib.run_of_step hstream]
      exact hrun

/-- The stream sees a call of its own. -/
theorem Returns.stream {a : PipeAct} {b : StreamAct} {ok : Bool} (h : Returns a ok s s')
    (hb : ∀ m : Pipe, m.streamAct a = some b) :
    UsbStream.Returns b ok s.stream s'.stream := by
  obtain ⟨before, m, entered, during, ⟨hm, hmr⟩, ⟨-, ha⟩, ⟨hd, hdr⟩, hidle⟩ := h
  have haside (s : Pipe) (a : PipeAct) (h : a.aside = true) (b : StreamAct) (hb : b ∈ s.streamAct a) : b.byWriter = true := by
    cases a with
    | writer error => cases hb; rfl
    | bulk a => cases hb
    | _ => cases h
  have hinside (s : Pipe) (a : PipeAct) (h : a.inside = true) (b : StreamAct) (hb : b ∈ s.streamAct a) : b.inside = true := by
    cases a with
    | writer error => cases hb; rfl
    | bulk a => cases hb
    | producer late =>
      have hb : (if s.stream.producer = .flushWait then (if s.draining then some (StreamAct.drained s.result) else none)
        else some (.producer late)) = some b := hb
      split at hb
      · split at hb
        · cases hb; rfl
        · cases hb
      · cases hb; rfl
    | _ => cases h
  obtain ⟨before', hbefore, hbrun⟩ := stream_run (Q := fun b => b.byWriter = true) haside hm hmr
  obtain ⟨during', hduring, hdrun⟩ := stream_run (Q := fun b => b.inside = true) hinside hd hdr
  obtain ⟨-, hstream, -⟩ := step_parts ha
  rw [hb m] at hstream
  exact ⟨before', m.stream, entered.stream, during', ⟨hbefore, hbrun⟩, hstream, ⟨hduring, hdrun⟩, hidle⟩

/-- Between two calls. -/
structure Rests (s : Pipe) : Prop where
  inv : PipeInv s
  outstanding : s.bulk.Outstanding
  idle : s.stream.producer.isIdle = true

/-- A step of the pipeline, if there is one. -/
theorem sends_of_step {a : PipeAct} (hs : s.step a = some s') : BulkOut.Sends s.bulk s'.bulk := by
  rcases bulk_cases hs with hsame | ⟨b, -, hbulk⟩
  · rw [hsame]
    exact .rests (fun _ => rfl) rfl
  · exact BulkOut.sends_step hbulk

/-- What holds at every step of a call. -/
theorem inv_outstanding_step {a : PipeAct} (h : PipeInv s ∧ s.bulk.Outstanding) (ho : s.Orderly a) (hs : s.step a = some s') :
    PipeInv s' ∧ s'.bulk.Outstanding :=
  ⟨inv_step h.1 ho hs, h.2.step (sends_of_step hs)⟩

theorem Returns.rests {a : PipeAct} {ok : Bool} (h : Returns a ok s s') (hr : Rests s) : Rests s' := by
  have hkeep := h.inv (I := fun s => PipeInv s ∧ s.bulk.Outstanding) (fun _ _ _ hi ho hs => inv_outstanding_step hi ho hs)
    ⟨hr.inv, hr.outstanding⟩
  obtain ⟨_, _, _, _, _, _, _, hidle⟩ := h
  exact ⟨hkeep.1, hkeep.2, by rw [hidle]; rfl⟩

/-- What was transferred before the call is so behind it. -/
theorem Returns.transferred {a : PipeAct} {ok : Bool} (h : Returns a ok s s') (hr : Rests s) {bytes : Bytes}
    (ht : s.bulk.Transferred bytes) : s'.bulk.Transferred bytes :=
  (h.inv (I := fun s => s.bulk.Outstanding ∧ s.bulk.Transferred bytes)
    (fun _ _ _ hi _ hs => ⟨hi.1.step (sends_of_step hs), hi.2.step hi.1 (sends_of_step hs)⟩) ⟨hr.outstanding, ht⟩).2

theorem allTrue_step {a : PipeAct} (hs : s.step a = some s') (ht : s'.bulk.allTrue = true) : s.bulk.allTrue = true := by
  rcases bulk_cases hs with hsame | ⟨b, -, hbulk⟩
  · rw [← hsame]
    exact ht
  · exact BulkOut.allTrue_step hbulk ht

theorem Returns.allTrue {a : PipeAct} {ok : Bool} (h : Returns a ok s s') (ht : s'.bulk.allTrue = true) :
    s.bulk.allTrue = true := by
  by_contra hf
  exact h.inv (I := fun t => ¬ t.bulk.allTrue = true) (fun _ _ _ hi _ hs ht => hi (allTrue_step hs ht)) hf ht

/-! ## `flush` -/

/-- Every call has returned true, `waitForBulkOut` last: all that was handed over is transferred. -/
theorem transferred_of_drained (h : PipeInv s) (hp : s.stream.producer = .flushWait) (hd : s.bulk.caller = .drained)
    (ht : s.bulk.allTrue = true) : s.bulk.Transferred s.stream.pushed := by
  obtain ⟨earlier, hwritten⟩ := h.written
  have hhanded := UsbStream.handed_of_flushWait h.stream h.parted hp
  rcases h.bulk ht with ⟨-, hdoomed⟩ | ⟨-, hawake⟩
  · rw [hd] at hdoomed
    cases hdoomed
  · have hphase := hawake.phase
    have hdata := hawake.data
    rw [hd] at hphase hdata
    have hall : (s.bulk.submissions.map (·.data)).flatten = s.bulk.written := by
      rw [← hdata]
      exact (List.append_nil _).symm
    exact ⟨s.bulk.submissions, [], earlier, (List.append_nil _).symm, hphase.good, by rw [hall, hwritten, hhanded]⟩

/-- In a call of `flush`, or behind it. -/
structure Flushing (s : Pipe) : Prop where
  inv : PipeInv s
  outstanding : s.bulk.Outstanding
  flushing : s.stream.producer.flushing = true
  transferred : s.stream.producer = .idle true → s.bulk.allTrue = true → s.bulk.Transferred s.stream.pushed

/-- The loop task leaves `flush`. -/
theorem transferred_of_leaving (h : PipeInv s) {late : Bool} (hs : s.step (.producer late) = some s')
    (hp : s.stream.producer = .flushWait) (hidle : s'.stream.producer = .idle true) (ht : s'.bulk.allTrue = true) :
    s'.bulk.Transferred s'.stream.pushed := by
  obtain ⟨hret, hstream, hbulk, -⟩ := step_parts hs
  cases hd : s.draining with
  | false =>
    rw [(producer_waits late hp hd).1] at hstream
    have hsame : s.stream = s'.stream := Option.some.inj hstream
    rw [← hsame, hp] at hidle
    cases hidle
  | true =>
    obtain ⟨hact, hbact, -⟩ := producer_leaves late hp hd
    rw [hact] at hstream
    rw [hbact] at hbulk
    have hsame : s.bulk = s'.bulk := Option.some.inj hbulk
    obtain ⟨-, hleft⟩ := UsbStream.leaveFlush_eq hstream
    have hresult : s.result = true := by
      rw [hleft] at hidle
      exact Producer.idle.inj hidle
    have hout : s.bulk.outside = true := by simpa [returned, hd] using hret
    have hpushed : s'.stream.pushed = s.stream.pushed := by rw [hleft]
    rw [← hsame] at ht ⊢
    rw [hpushed]
    exact transferred_of_drained h hp (h.drained hd hout hresult) ht

/-- The other steps of `flush` do not return true. -/
theorem flushing_producerStep {t t' : UsbStream} {late : Bool} (hf : t.producer.flushing = true)
    (hs : t.producerStep late = some t') : t'.producer.flushing = true ∧ t'.producer ≠ .idle true := by
  unfold UsbStream.producerStep at hs
  cases hp : t.producer with
  | idle ok => rw [hp] at hs; cases hs
  | flushWait => rw [hp] at hs; cases hs
  | flushCheck =>
    rw [hp] at hs
    cases hs
    dsimp only
    split
    · exact ⟨rfl, fun he => (by cases he)⟩
    · exact ⟨rfl, fun he => (by cases he)⟩
  | flushLook =>
    rw [hp] at hs
    cases hs
    exact ⟨rfl, fun he => (by cases he)⟩
  | flushBusy used =>
    rw [hp] at hs
    cases hs
    dsimp only
    split
    · exact ⟨rfl, fun he => (by cases he)⟩
    split
    · exact ⟨rfl, fun he => (by cases he)⟩
    · exact ⟨rfl, fun he => (by cases he)⟩
  | _ => rw [hp] at hf; cases hf

theorem Flushing.step {a : PipeAct} (h : Flushing s) (ha : a.inside = true ∧ s.Orderly a) (hs : s.step a = some s') :
    Flushing s' := by
  have hinv := inv_step h.inv ha.2 hs
  have hsends := sends_of_step hs
  have hmono := allTrue_step hs
  obtain ⟨-, hstream, -⟩ := step_parts hs
  cases a with
  | push data => cases ha.1
  | flush => cases ha.1
  | reset => cases ha.1
  | bulk b =>
    have hsame : s.stream = s'.stream := Option.some.inj hstream
    refine ⟨hinv, h.outstanding.step hsends, hsame ▸ h.flushing, fun hidle ht => ?_⟩
    rw [← hsame] at hidle ⊢
    exact (h.transferred hidle (hmono ht)).step h.outstanding hsends
  | writer error =>
    obtain ⟨hp, hpushed⟩ := UsbStream.writer_frame hstream
    refine ⟨hinv, h.outstanding.step hsends, hp ▸ h.flushing, fun hidle ht => ?_⟩
    rw [hpushed]
    exact (h.transferred (hp ▸ hidle) (hmono ht)).step h.outstanding hsends
  | producer late =>
    by_cases hp : s.stream.producer = .flushWait
    · refine ⟨hinv, h.outstanding.step hsends, ?_, transferred_of_leaving h.inv hs hp⟩
      cases hd : s.draining with
      | false =>
        rw [(producer_waits late hp hd).1] at hstream
        have hsame : s.stream = s'.stream := Option.some.inj hstream
        rw [← hsame]
        exact h.flushing
      | true =>
        rw [(producer_leaves late hp hd).1] at hstream
        rw [(UsbStream.leaveFlush_eq hstream).2]
        rfl
    · rw [(producer_goes late hp).1] at hstream
      obtain ⟨hflushing, hne⟩ := flushing_producerStep h.flushing hstream
      exact ⟨hinv, h.outstanding.step hsends, hflushing, fun hidle => absurd hidle hne⟩

/-- A `flush` that returns true: everything pushed is transferred. -/
theorem Returns.flush (h : Returns .flush true s s') (hr : Rests s) (ht : s'.bulk.allTrue = true) :
    s'.bulk.Transferred s'.stream.pushed := by
  obtain ⟨before, m, entered, during, ⟨hb, hbr⟩, ⟨hma, ha⟩, ⟨hd, hdr⟩, hidle⟩ := h
  have hm := Lib.run_inv (I := fun s => PipeInv s ∧ s.bulk.Outstanding)
    (fun _ _ _ hi hc hs => inv_outstanding_step hi hc.2 hs) ⟨hr.inv, hr.outstanding⟩ hb hbr
  have hentered : Flushing entered := by
    obtain ⟨-, hstream, -⟩ := step_parts ha
    obtain ⟨-, henter⟩ := UsbStream.enter_eq hstream
    refine ⟨inv_step hm.1 hma ha, hm.2.step (sends_of_step ha), by rw [henter]; rfl, fun he => ?_⟩
    rw [henter] at he
    cases he
  exact (Lib.run_inv (fun _ _ _ h ha hs => Flushing.step h ha hs) hentered hd hdr).transferred hidle ht

end Pipe

/-! ## The newest job -/

namespace Ledger
variable {l l' : Ledger} {p p' : BulkOut}

/-- What was flushed of the newest job is transferred, if no call of the pipeline has failed. -/
def Sure (l : Ledger) (p : BulkOut) : Prop :=
  ∀ e ∈ l.history.head?, e.flushedAt.isSome = true → p.allTrue = true →
    ∃ fed, Fed (e.accepted.map Prod.snd) fed ∧ p.Transferred fed

/-- Nothing else is flushed of the newest job. -/
def Keeps (l l' : Ledger) : Prop :=
  ∀ e' ∈ l'.history.head?, e'.flushedAt.isSome = true →
    ∃ e ∈ l.history.head?, e.flushedAt = e'.flushedAt ∧ e.accepted = e'.accepted

theorem Keeps.of_history (h : l'.history = l.history) : Keeps l l' :=
  fun e' he' _ => ⟨e', h ▸ he', rfl, rfl⟩

theorem Keeps.of_close {how : JobEnding} (h : l'.history = l.history.modifyHead (Episode.close how)) : Keeps l l' := by
  intro e' he' _
  rw [h, List.head?_modifyHead] at he'
  obtain ⟨e, he, rfl⟩ := Option.map_eq_some_iff.1 he'
  exact ⟨e, he, rfl, rfl⟩

theorem keeps_abort (l : Ledger) : Keeps l l.abort := by
  by_cases hp : l.state = .printing
  · exact .of_close (if_pos hp)
  · exact .of_history (if_neg hp)

theorem keeps_start (l : Ledger) : Keeps l l.start := by
  unfold start
  split
  · intro e' he' hf
    cases he'
    cases hf
  · exact .of_history rfl

theorem keeps_accept (l : Ledger) (job : JobKey) (data : Bytes) : Keeps l (l.accept job data) := by
  intro e' he' hf
  have he' : e' ∈ (l.history.modifyHead (Episode.accept job data)).head? := he'
  rw [List.head?_modifyHead] at he'
  obtain ⟨e, he, rfl⟩ := Option.map_eq_some_iff.1 he'
  cases hf

theorem Sure.keeps (h : Sure l p) (hl : Keeps l l') (ht : p'.allTrue = true → p.allTrue = true)
    (hp : ∀ bytes, p.Transferred bytes → p'.Transferred bytes) : Sure l' p' := by
  intro e' he' hf hall
  obtain ⟨e, he, hflushed, haccepted⟩ := hl e' he' hf
  obtain ⟨fed, hfed, htransferred⟩ := h e he (hflushed ▸ hf) (ht hall)
  exact ⟨fed, haccepted ▸ hfed, hp fed htransferred⟩

end Ledger

/-- Each answer of `T` is a call of the stream in the `Pipe` that `view` shows. `known` is what can be
relied on between the calls. -/
structure DrivesPipe {σ : Type} (T : Transport σ) (view : σ → Pipe) (known : σ → Prop) : Prop where
  ready : ∀ l, known l → T.ready l = true
  reset : ∀ l, known l → known (T.reset l).link ∧ Pipe.Returns .reset true (view l) (view (T.reset l).link)
  push : ∀ l data, known l → data ≠ [] →
    known (T.push l data).link ∧ Pipe.Returns (.push data) (T.push l data).ok (view l) (view (T.push l data).link)
  flush : ∀ l, known l → known (T.flush l).link ∧ Pipe.Returns .flush (T.flush l).ok (view l) (view (T.flush l).link)

section DrivesPipe
variable {σ : Type} {T : Transport σ} {view : σ → Pipe} {known : σ → Prop}

/-- The stream alone is driven too. -/
theorem DrivesPipe.drives (hT : DrivesPipe T view known) :
    Drives T (fun l => (view l).stream) fun l => known l ∧ (view l).Rests where
  ready l h := hT.ready l h.1
  reset l h := by
    obtain ⟨hknown, hr⟩ := hT.reset l h.1
    exact ⟨⟨hknown, hr.rests h.2⟩, hr.stream fun _ => rfl⟩
  push l data h hd := by
    obtain ⟨hknown, hr⟩ := hT.push l data h.1 hd
    exact ⟨⟨hknown, hr.rests h.2⟩, hr.stream fun _ => rfl⟩
  flush l h := by
    obtain ⟨hknown, hr⟩ := hT.flush l h.1
    exact ⟨⟨hknown, hr.rests h.2⟩, hr.stream fun _ => rfl⟩

end DrivesPipe

namespace UsbPrinterBackend
variable {σ : Type} {T : Transport σ} {view : σ → Pipe} {known : σ → Prop} {b : UsbPrinterBackend σ}

/-- The backend, its stream and the pipeline belong together. -/
structure Transfers (view : σ → Pipe) (known : σ → Prop) (b : UsbPrinterBackend σ) : Prop where
  carries : b.Carries (fun l => (view l).stream) fun l => known l ∧ (view l).Rests
  sure : b.ledger.Sure (view b.link).bulk

theorem sure_same {b' : UsbPrinterBackend σ} (h : b.ledger.Sure (view b.link).bulk) (hlink : b'.link = b.link)
    (hl : Ledger.Keeps b.ledger b'.ledger) : b'.ledger.Sure (view b'.link).bulk := by
  rw [hlink]
  exact h.keeps hl id fun _ => id

theorem sure_sendLoop (hT : DrivesPipe T view known) (job : JobKey) {data : Bytes} (hd : data ≠ []) :
    ∀ (n : Nat) (error : String) (b : UsbPrinterBackend σ), known b.link ∧ (view b.link).Rests →
      b.ledger.Sure (view b.link).bulk →
      (sendLoop T job data n error b).2.ledger.Sure (view (sendLoop T job data n error b).2.link).bulk
  | 0, error, b, _, h => by
    show (b.abortRawJob error).ledger.Sure _
    refine sure_same h (link_abortRawJob b error) ?_
    rw [ledger_abortRawJob]
    exact Ledger.keeps_abort _
  | n + 1, error, b, hknown, h => by
    obtain ⟨hknown', hpush⟩ := hT.push b.link data hknown.1 hd
    have hoffer : offer T b data = (if (T.push b.link data).ok then none else
        some ((T.failed (T.push b.link data).link).getD "USB stream rejected print data"), b.after (T.push b.link data)) :=
      if_pos (hT.ready b.link hknown.1)
    rw [sendLoop]
    cases hok : (T.push b.link data).ok with
    | true =>
      rw [hok, if_pos rfl] at hoffer
      rw [hoffer]
      exact h.keeps (Ledger.keeps_accept _ job data) hpush.allTrue fun _ ht => hpush.transferred hknown.2 ht
    | false =>
      rw [hok, if_neg Bool.false_ne_true] at hoffer
      rw [hoffer]
      exact sure_sendLoop hT job hd n _ _ ⟨hknown', hpush.rests hknown.2⟩
        (h.keeps (.of_history rfl) hpush.allTrue fun _ ht => hpush.transferred hknown.2 ht)

/-- The stream is reset, or left as it is. -/
theorem sure_startJob (hT : DrivesPipe T view known) (hknown : known b.link ∧ (view b.link).Rests)
    (h : b.ledger.Sure (view b.link).bulk) :
    (known (b.startJob T).link ∧ (view (b.startJob T).link).Rests) ∧
      (b.startJob T).ledger.Sure (view (b.startJob T).link).bulk := by
  rw [ledger_startJob]
  by_cases hi : b.state = .idle
  · have hlink : (b.startJob T).link = (T.reset b.link).link := by
      unfold UsbPrinterBackend.startJob
      rw [if_pos hi]
      rfl
    obtain ⟨hknown', hreset⟩ := hT.reset b.link hknown.1
    rw [hlink]
    exact ⟨⟨hknown', hreset.rests hknown.2⟩,
      h.keeps (Ledger.keeps_start _) hreset.allTrue fun _ ht => hreset.transferred hknown.2 ht⟩
  · have hsame : b.startJob T = b := by
      unfold UsbPrinterBackend.startJob
      rw [if_neg hi]
    rw [hsame]
    exact ⟨hknown, h.keeps (Ledger.keeps_start _) id fun _ => id⟩

theorem sure_sendDirect (hT : DrivesPipe T view known) (hknown : known b.link ∧ (view b.link).Rests)
    (h : b.ledger.Sure (view b.link).bulk) (job : JobKey) (data : Bytes) :
    (b.sendDirect T job data).2.ledger.Sure (view (b.sendDirect T job data).2.link).bulk := by
  unfold UsbPrinterBackend.sendDirect
  by_cases hd : data.isEmpty = true
  · rw [if_pos hd]
    exact h
  rw [if_neg hd]
  split
  · exact h
  split
  · exact h
  obtain ⟨hknown', hstart⟩ := sure_startJob hT hknown h
  exact sure_sendLoop hT job (fun hnil => hd (by rw [hnil]; rfl)) 3 "" _ hknown' hstart

/-- The flush of the newest job. -/
theorem sure_finishRawJob (hT : DrivesPipe T view known) (h : Transfers view known b) :
    (b.finishRawJob T).ledger.Sure (view (b.finishRawJob T).link).bulk := by
  obtain ⟨hknown, hcarries⟩ := h.carries
  unfold UsbPrinterBackend.finishRawJob
  split
  · exact h.sure
  rename_i hp
  have hp : b.state = .printing := not_not.1 (not_or.1 hp).1
  obtain ⟨-, hflush⟩ := hT.flush b.link hknown.1
  rw [if_pos (hT.ready b.link hknown.1)]
  dsimp only
  split
  · refine sure_same (b := b.after (T.flush b.link)) ?_ (link_abortRawJob _ _) ?_
    · exact h.sure.keeps (.of_history rfl) hflush.allTrue fun _ ht => hflush.transferred hknown.2 ht
    · rw [ledger_abortRawJob]
      exact Ledger.keeps_abort _
  · rename_i hok
    have hok : (T.flush b.link).ok = true := by simpa using hok
    have hdone := (hcarries.flush hp (hflush.stream fun _ => rfl) (b.after (T.flush b.link)).now).1 hok
    rw [hok] at hflush
    intro e he _ hall
    obtain ⟨fed, hfed, -, hpushed, -⟩ := (hdone.newest e he).fed
    obtain ⟨e', he', hend⟩ := hdone.printing hp
    have hne : e.ending ≠ some .aborted := by
      rw [Option.some.inj (he.symm.trans he'), hend]
      exact fun h => (by cases h)
    exact ⟨fed, hfed, hpushed hne ▸ hflush.flush hknown.2 hall⟩

theorem sure_completeDrainIfReady (h : b.ledger.Sure (view b.link).bulk) :
    b.completeDrainIfReady.ledger.Sure (view b.completeDrainIfReady.link).bulk := by
  obtain ⟨_, _, hc⟩ := b.completeDrainIfReady_cases
  refine sure_same h (link_completeDrainIfReady b) ?_
  rcases hc with hl | ⟨_, _, ⟨_, hl⟩ | ⟨_, counted, s, _, _, hl⟩⟩
  · exact .of_history (congrArg Ledger.history hl)
  · exact .of_close (congrArg Ledger.history hl)
  · exact .of_close (congrArg Ledger.history hl)

theorem sure_followHost (h : b.ledger.Sure (view b.link).bulk) :
    b.followHost.ledger.Sure (view b.followHost.link).bulk := by
  obtain ⟨_, _, hc⟩ := b.followHost_cases
  refine sure_same h (link_followHost b) ?_
  rcases hc with ⟨_, he⟩ | ⟨_, s, _, hl⟩
  · exact .of_history (congrArg (Ledger.history ∘ ledger) he)
  · exact .of_history (by rw [hl])

theorem Transfers.call (hT : DrivesPipe T view known) (h : Transfers view known b) (c : Call) :
    Transfers view known (b.call T c) := by
  refine ⟨h.carries.call hT.drives c, ?_⟩
  cases c with
  | sendDirect job data => exact sure_sendDirect hT h.carries.1 h.sure job data
  | finishRawJob => exact sure_finishRawJob hT h
  | abortRawJob reason =>
    refine sure_same h.sure (link_abortRawJob b reason) ?_
    show Ledger.Keeps b.ledger (b.abortRawJob reason).ledger
    rw [ledger_abortRawJob]
    exact Ledger.keeps_abort _
  | completeDrainIfReady => exact sure_completeDrainIfReady h.sure
  | followHost => exact sure_followHost h.sure
  | pass t => exact h.sure

end UsbPrinterBackend
namespace System
variable {σ : Type} {T : Transport σ} {view : σ → Pipe} {known : σ → Prop}

/-- **A flushed job is printed**, in every run of the loop in which no step overtakes the writer, no failed
transfer is overlooked and no call of the pipeline has failed: the driver has completed transfers that
are, in order, the accepted blocks of the job, each one whole. -/
theorem job_transferred (hT : DrivesPipe T view known) (host : UsbHostManager) {link : σ} (now : Nat) (buffer : Bool)
    (hl : known link) {capacity : Nat} (h0 : 0 < capacity) (hc : capacity < 2 ^ 32) (hv : view link = Pipe.begin capacity)
    {acts : List LoopAct} {s : System σ} (hr : Lib.run (step T) (begin host link now buffer) acts = some s) {e : Episode}
    (he : s.backend.history.head? = some e) (hf : e.flushedAt.isSome = true)
    (hall : (view s.backend.link).bulk.allTrue = true) :
    ∃ fed, Fed (e.accepted.map Prod.snd) fed ∧ (view s.backend.link).bulk.Transferred fed := by
  have hrests : (view link).Rests := by
    rw [hv]
    exact ⟨.begin h0 hc, .begin, rfl⟩
  have hstream : (view link).stream.Rests := ⟨hrests.inv.stream, hrests.idle⟩
  have hbegin : (begin host link now buffer).backend.Transfers view known :=
    ⟨⟨⟨hl, hrests⟩, hstream, fun e he => (by cases he), fun hp => (by cases hp)⟩, fun e he => (by cases he)⟩
  obtain ⟨_, hcalls⟩ := calls_run (RawServer.sound_empty rfl rfl rfl) hr
  have hend : s.backend.Transfers view known := hcalls.inv (fun b c h => h.call hT c) hbegin
  exact hend.sure e he hf hall

end System

/-! ## A printer that can be driven -/

/-- A step of the loop task, in `flush` also inside the pipeline. -/
def PipeAct.alone : PipeAct → Bool
  | producer _ | bulk (.caller _) => true
  | _ => false

namespace Pipe
variable {s s' : Pipe}

/-- Between two calls, with the writer at the top of its loop and nobody in the pipeline. -/
structure AtEase (s : Pipe) : Prop where
  rests : Rests s
  writer : s.stream.writer = .check
  failed : s.stream.failed = false
  outside : s.bulk.outside = true

/-- What a call shows that has returned. -/
def answer (s : Pipe) : Answer Pipe :=
  { ok := s.stream.producer = .idle true, error := s.stream.failure.getD "", link := s, took := {} }

/-- The call with these steps around it, if it returns and leaves everything at ease. -/
def attempt (before : List PipeAct) (a : PipeAct) (during : List PipeAct) (s : Pipe) : Option (Answer Pipe) := do
  let m ← Lib.run step s before
  let entered ← m.step a
  let s' ← Lib.run step entered during
  if Lib.Meets step (fun s a => a.aside = true ∧ s.Orderly a) s before ∧ m.Orderly a ∧
      Lib.Meets step (fun s a => a.inside = true ∧ s.Orderly a) entered during ∧ s'.stream.producer.isIdle = true ∧
      s'.stream.writer = .check ∧ s'.stream.failed = false ∧ s'.bulk.outside = true then
    some s'.answer
  else none

theorem returns_of_attempt {before during : List PipeAct} {a : PipeAct} {r : Answer Pipe} (h : AtEase s)
    (ha : attempt before a during s = some r) : AtEase r.link ∧ Returns a r.ok s r.link := by
  simp only [attempt, Option.bind_eq_bind, Option.bind_eq_some_iff] at ha
  obtain ⟨m, hm, entered, he, s', hs', ha⟩ := ha
  split at ha
  · rename_i hc
    obtain ⟨hbefore, hma, hduring, hidle, hw, hf, ho⟩ := hc
    cases ha
    have hok : s'.stream.producer = .idle (decide (s'.stream.producer = .idle true)) := by
      cases hp : s'.stream.producer with
      | idle ok => cases ok <;> rfl
      | _ => rw [hp] at hidle; cases hidle
    have hret : Returns a (decide (s'.stream.producer = .idle true)) s s' :=
      ⟨before, m, entered, during, ⟨hbefore, hm⟩, ⟨hma, he⟩, ⟨hduring, hs'⟩, hok⟩
    exact ⟨⟨hret.rests h.rests, hw, hf, ho⟩, hret⟩
  · cases ha

/-- The writer stands still in the steps of another. -/
theorem writer_kept {a : PipeAct} (ha : ∀ b ∈ s.streamAct a, b.byWriter = false) (hs : s.step a = some s') :
    s'.stream.writer = s.stream.writer := by
  rcases stream_cases hs with hsame | ⟨b, hb, hstream⟩
  · rw [hsame]
  · exact (UsbStream.loop_step (ha b hb) hstream).1

/-- With the writer at the top of its loop, the loop task overtakes nobody. -/
theorem orderly_alone {a : PipeAct} (ha : a.alone = true) (hw : s.stream.writer = .check) :
    s.Orderly a ∧ ∀ b ∈ s.streamAct a, b.byWriter = false := by
  cases a with
  | producer late =>
    by_cases hp : s.stream.producer = .flushWait
    · simp only [Orderly, streamAct, bulkAct, if_pos hp]
      refine ⟨⟨?_, ?_⟩, ?_⟩
      · rintro b hb
        split at hb
        · cases hb
          trivial
        · cases hb
      · rintro b hb
        split at hb
        · cases hb
          trivial
        · cases hb
      · rintro b hb
        split at hb
        · cases hb
          rfl
        · cases hb
    · obtain ⟨hact, hbact, -⟩ := producer_goes late hp
      simp only [Orderly, hact, hbact]
      refine ⟨⟨?_, fun b hb => (by cases hb)⟩, fun b hb => (by cases hb; rfl)⟩
      rintro b ⟨⟩
      refine ⟨fun _ => ?_, fun _ => ?_⟩
      · unfold UsbStream.settled
        rw [hw]
      · rw [hw]
        rfl
  | bulk b =>
    cases b with
    | caller answer => exact ⟨⟨fun b hb => (by cases hb), fun b hb => (by cases hb; trivial)⟩, fun b hb => (by cases hb)⟩
    | _ => cases ha
  | _ => cases ha

theorem meets_alone : ∀ {acts : List PipeAct} {s : Pipe}, (∀ a ∈ acts, a.alone = true) → s.stream.writer = .check →
    Lib.Meets step (fun s a => a.inside = true ∧ s.Orderly a) s acts
  | [], _, _, _ => trivial
  | a :: acts, s, ha, hw => by
    have hhead := ha a List.mem_cons_self
    obtain ⟨horderly, hby⟩ := orderly_alone hhead hw
    have hinside : a.inside = true := by
      cases a with
      | producer late => rfl
      | bulk b => rfl
      | _ => cases hhead
    exact ⟨⟨hinside, horderly⟩, fun m hm =>
      meets_alone (fun b hb => ha b (List.mem_cons_of_mem _ hb)) ((writer_kept hby hm).trans hw)⟩

/-- A call that runs to its end while nobody else moves. -/
theorem attempt_of_run {during : List PipeAct} {a : PipeAct} (h : AtEase s) (ho : s.Orderly a)
    (ha : ∀ b ∈ s.streamAct a, b.byWriter = false) (hd : ∀ a ∈ during, a.alone = true)
    (hr : Lib.run step s (a :: during) = some s') (hidle : s'.stream.producer.isIdle = true)
    (hw : s'.stream.writer = .check) (hf : s'.stream.failed = false) (hout : s'.bulk.outside = true) :
    attempt [] a during s = some s'.answer := by
  obtain ⟨entered, he, hs'⟩ := Lib.run_cons hr
  have hentered : entered.stream.writer = .check := (writer_kept ha he).trans h.writer
  unfold attempt
  rw [show Lib.run step s [] = some s from rfl]
  simp only [Option.bind_eq_bind, Option.bind_some, he, hs']
  rw [if_pos ⟨trivial, ho, meets_alone hd hentered, hidle, hw, hf, hout⟩]

end Pipe

/-! ### The loop task alone -/

/-- Outside `flush`. -/
def Producer.calm : Producer → Bool
  | flushCheck | flushLook | flushBusy _ | flushWait => false
  | _ => true

theorem UsbStream.calm_producerStep {t t' : UsbStream} {late : Bool} (hc : t.producer.calm = true)
    (hs : t.producerStep late = some t') : t'.producer.calm = true := by
  unfold producerStep at hs
  cases hp : t.producer with
  | idle ok => rw [hp] at hs; cases hs
  | flushCheck => rw [hp] at hc; cases hc
  | flushLook => rw [hp] at hc; cases hc
  | flushBusy used => rw [hp] at hc; cases hc
  | flushWait => rw [hp] at hc; cases hc
  | pushTimeout => rw [hp] at hs; cases hs; rfl
  | pushCopy data head n => rw [hp] at hs; cases hs; rfl
  | pushGive => rw [hp] at hs; cases hs; rfl
  | resetClear => rw [hp] at hs; cases hs; rfl
  | resetUnfail => rw [hp] at hs; cases hs; rfl
  | resetGive => rw [hp] at hs; cases hs; rfl
  | pushLook data =>
    rw [hp] at hs
    cases hs
    dsimp only
    split
    · split <;> rfl
    · rfl
  | _ =>
    rw [hp] at hs
    cases hs
    dsimp only
    split <;> rfl

namespace Pipe
variable {s s' : Pipe}

/-- A step of the stream alone. -/
theorem lift_step {a : PipeAct} {b : StreamAct} {t : UsbStream} (hact : s.streamAct a = some b ∧ s.bulkAct a = none ∧
    s.drainingAfter a = s.draining ∧ s.resultAfter a = s.result ∧ s.returned a = true) (hs : s.stream.step b = some t) :
    s.step a = some { s with stream := t } := by
  obtain ⟨hsa, hba, hda, hra, hret⟩ := hact
  unfold step
  rw [if_pos hret, hsa, hba, hda, hra]
  simp only [Option.elim_some, Option.elim_none, hs]

theorem lift_producer {late : Bool} {t : UsbStream} (hp : s.stream.producer ≠ .flushWait) (hd : s.draining = false)
    (hs : s.stream.step (.producer late) = some t) : s.step (.producer late) = some { s with stream := t } := by
  obtain ⟨hact, hbact, hafter⟩ := producer_goes late hp
  exact lift_step ⟨hact, hbact, hafter.trans hd.symm, rfl, by simp [returned, hd]⟩ hs

/-- The steps of the loop task outside `flush` are those of the stream. -/
theorem lift_run : ∀ {lates : List Bool} {s : Pipe} {t : UsbStream}, s.stream.producer.calm = true → s.draining = false →
    Lib.run UsbStream.step s.stream (lates.map .producer) = some t →
    Lib.run step s (lates.map .producer) = some { s with stream := t }
  | [], s, t, _, _, hr => by
    cases hr
    rfl
  | late :: lates, s, t, hc, hd, hr => by
    obtain ⟨m, hm, hr⟩ := Lib.run_cons hr
    have hp : s.stream.producer ≠ .flushWait := by
      intro hp
      rw [hp] at hc
      cases hc
    have hrest := lift_run (s := { s with stream := m }) (UsbStream.calm_producerStep hc hm) hd hr
    exact (Lib.run_of_step (lift_producer hp hd hm)).trans hrest

theorem AtEase.idle (h : AtEase s) : ∃ ok, s.stream.producer = .idle ok := by
  have hi := h.rests.idle
  cases hp : s.stream.producer with
  | idle ok => exact ⟨ok, rfl⟩
  | _ => rw [hp] at hi; cases hi

theorem AtEase.draining (h : AtEase s) : s.draining = false := by
  obtain ⟨ok, hp⟩ := h.idle
  cases hd : s.draining with
  | false => rfl
  | true =>
    have hwait := h.rests.inv.draining hd
    rw [hp] at hwait
    cases hwait

theorem AtEase.busy (h : AtEase s) : s.stream.busy = false := by
  rw [h.rests.inv.stream.busy, h.writer]
  rfl

/-- A call of the stream that only the loop task works on. -/
theorem lift_call {a : PipeAct} {b : StreamAct} {lates : List Bool} {t : UsbStream} (h : AtEase s)
    (hact : ∀ m : Pipe, m.streamAct a = some b ∧ m.bulkAct a = none ∧ m.drainingAfter a = m.draining ∧
      m.resultAfter a = m.result ∧ m.returned a = true) (hi : s.stream.Isolated b) (hb : b.byWriter = false)
    (hcalm : ∀ m, s.stream.step b = some m → m.producer.calm = true)
    (hr : Lib.run UsbStream.step s.stream (b :: lates.map .producer) = some t) (hidle : t.producer.isIdle = true)
    (hf : t.failed = false) (hw : t.writer = s.stream.writer) :
    attempt [] a (lates.map .producer) s = some (answer { s with stream := t }) := by
  obtain ⟨m, hm, hr⟩ := Lib.run_cons hr
  obtain ⟨hsa, hba, -⟩ := hact s
  have hs := lift_step (hact s) hm
  have hrun := lift_run (s := { s with stream := m }) (hcalm m hm) h.draining hr
  have halone : ∀ a ∈ lates.map PipeAct.producer, a.alone = true := by
    intro a ha
    obtain ⟨late, -, rfl⟩ := List.mem_map.1 ha
    rfl
  refine attempt_of_run h ⟨fun b' hb' => ?_, fun b' hb' => ?_⟩ (fun b' hb' => ?_) halone ((Lib.run_of_step hs).trans hrun)
    hidle (hw.trans h.writer) hf h.outside
  · rw [hsa] at hb'
    cases hb'
    exact hi
  · rw [hba] at hb'
    cases hb'
  · rw [hsa] at hb'
    cases hb'
    exact hb

end Pipe

def UsbStream.pushLates (s : UsbStream) (data : Bytes) : List Bool :=
  if data.length ≤ s.space then List.replicate 5 false
  else if s.space = 0 then List.replicate 3 true
  else List.replicate 7 true

theorem UsbStream.pushAlone_eq (s : UsbStream) (data : Bytes) : s.pushAlone data = (s.pushLates data).map .producer := by
  unfold pushAlone pushLates
  split
  · rfl
  split
  · rfl
  · rfl

namespace Pipe

/-- The printer is enumerated, the writer hands over what is in the ring, and the driver completes it. -/
def writeOut (s : Pipe) : List PipeAct :=
  List.flatten [[.bulk .opened, .bulk (.enumerated true)], List.replicate 6 (.writer ""),
    List.replicate 9 (.bulk (.caller true)), [.bulk (.callback 0 .completed s.stream.used)], List.replicate 2 (.writer "")]

def drainOut : List PipeAct :=
  List.flatten [List.replicate 4 (.producer false), List.replicate 6 (.bulk (.caller true)), [.producer false]]

/-- The ring is not empty in time, or there is no memory for the transfers. -/
def giveUp (s : Pipe) : List PipeAct :=
  List.replicate 3 (.producer true) ++
    if s.stream.used = 0 then
      .producer true :: List.replicate (if s.bulk.wedged then 1 else 2) (.bulk (.caller false)) ++ [.producer true]
    else []

end Pipe

/-- Each call takes the loop task alone, but `flush` first lets the writer and the driver go on. It fails
where that does not empty the ring. -/
def Transport.bench : Transport Pipe :=
  let stay (s : Pipe) : Answer Pipe := { ok := false, error := "", link := s, took := {} }
  { ready := fun _ => true
    reset := fun s => (Pipe.attempt [] .reset ((List.replicate 4 false).map .producer) s).getD (stay s)
    push := fun s data => (Pipe.attempt [] (.push data) ((s.stream.pushLates data).map .producer) s).getD (stay s)
    failed := fun s => s.stream.failure
    flush := fun s =>
      ((Pipe.attempt s.writeOut .flush Pipe.drainOut s).orElse fun _ => Pipe.attempt [] .flush s.giveUp s).getD (stay s)
    bulkWriteAll := fun s _ => stay s
    waitForBulkOut := stay }

namespace Pipe
variable {s s' : Pipe}

theorem AtEase.reset (h : AtEase s) :
    AtEase (Transport.bench.reset s).link ∧ Returns .reset true s (Transport.bench.reset s).link := by
  obtain ⟨ok, hp⟩ := h.idle
  have hr := UsbStream.run_reset hp h.busy
  have hkept : ∀ t : UsbStream, t = { s.stream.clear with failed := false, failedBy := none, wake := true, producer := .idle true } →
      t.producer = .idle true ∧ t.failed = false ∧ t.writer = s.stream.writer := by
    rintro t rfl
    exact ⟨rfl, rfl, rfl⟩
  obtain ⟨hidle, hf, hw⟩ := hkept _ rfl
  generalize ({ s.stream.clear with failed := false, failedBy := none, wake := true, producer := .idle true } : UsbStream) = t
    at hr hidle hf hw
  have hcalm : ∀ m, s.stream.step .reset = some m → m.producer.calm = true := by
    intro m hm
    obtain ⟨-, rfl⟩ := UsbStream.enter_eq hm
    rfl
  have ha : attempt [] .reset ((List.replicate 4 false).map .producer) s = some (answer { s with stream := t }) :=
    lift_call h (fun _ => ⟨rfl, rfl, rfl, rfl, rfl⟩) trivial rfl hcalm hr (by rw [hidle]; rfl) hf hw
  have hcall : Transport.bench.reset s = answer { s with stream := t } := by
    show (attempt [] .reset _ s).getD _ = _
    rw [ha]
    rfl
  have hok : (answer { s with stream := t }).ok = true := decide_eq_true hidle
  have hret := returns_of_attempt h ha
  rw [hok] at hret
  rw [hcall]
  exact hret

theorem AtEase.push {data : Bytes} (h : AtEase s) (hd : data ≠ []) : AtEase (Transport.bench.push s data).link ∧
    Returns (.push data) (Transport.bench.push s data).ok s (Transport.bench.push s data).link := by
  obtain ⟨ok, hp⟩ := h.idle
  obtain ⟨t, hr, ⟨ok', hidle⟩, hw, hf, -⟩ := UsbStream.run_pushAlone h.rests.inv.stream.toStreamFifo hp h.failed hd
  rw [UsbStream.pushAlone_eq] at hr
  have hcalm : ∀ m, s.stream.step (.push data) = some m → m.producer.calm = true := by
    intro m hm
    obtain ⟨-, rfl⟩ := UsbStream.enter_eq hm
    dsimp only
    split
    · rfl
    · rfl
  have ha : attempt [] (.push data) ((s.stream.pushLates data).map .producer) s = some (answer { s with stream := t }) :=
    lift_call h (fun _ => ⟨rfl, rfl, rfl, rfl, rfl⟩) trivial rfl hcalm hr (by rw [hidle]; rfl) hf hw
  have hcall : Transport.bench.push s data = answer { s with stream := t } := by
    show (attempt [] (.push data) _ s).getD _ = _
    rw [ha]
    rfl
  rw [hcall]
  exact returns_of_attempt h ha

/-- `flush` finds out whether the ring is empty. -/
theorem run_look (h : AtEase s) : Lib.run step s (.flush :: List.replicate 3 (.producer true)) =
    some { s with stream := { s.stream with producer := if s.stream.used = 0 then .flushWait else .idle false } } := by
  obtain ⟨ok, hp⟩ := h.idle
  have hd := h.draining
  have hflush : s.step .flush = some { s with stream := { s.stream with producer := .flushCheck } } :=
    lift_step ⟨rfl, rfl, rfl, rfl, rfl⟩ (by simp only [UsbStream.step, UsbStream.enter, hp])
  have hcheck : ({ s with stream := { s.stream with producer := .flushCheck } } : Pipe).step (.producer true) =
      some { s with stream := { s.stream with producer := .flushLook } } :=
    lift_producer (fun hc => (by cases hc)) hd (by simp [UsbStream.step, UsbStream.producerStep, h.failed])
  have hlook : ({ s with stream := { s.stream with producer := .flushLook } } : Pipe).step (.producer true) =
      some { s with stream := { s.stream with producer := .flushBusy s.stream.used } } :=
    lift_producer (fun hc => (by cases hc)) hd rfl
  have hbusy : ({ s with stream := { s.stream with producer := .flushBusy s.stream.used } } : Pipe).step (.producer true) =
      some { s with stream := { s.stream with producer := if s.stream.used = 0 then .flushWait else .idle false } } :=
    lift_producer (fun hc => (by cases hc)) hd (by simp [UsbStream.step, UsbStream.producerStep, h.busy])
  exact (Lib.run_of_step hflush).trans ((Lib.run_of_step hcheck).trans ((Lib.run_of_step hlook).trans (Lib.run_of_step hbusy)))

/-- `waitForBulkOut` can always fail. -/
theorem run_refused (hp : s.stream.producer = .flushWait) (hd : s.draining = false) (ho : s.bulk.outside = true) :
    Lib.run step s (.producer true :: List.replicate (if s.bulk.wedged then 1 else 2) (.bulk (.caller false)) ++
        [.producer true]) =
      some ⟨{ s.stream with producer := .idle false }, { s.bulk with caller := .idle, allTrue := false }, false, false⟩ := by
  obtain ⟨hact, hbact, hafter⟩ := producer_waits true hp hd
  have hresult : s.resultAfter (.producer true) = s.result := rfl
  have henter : s.step (.producer true) = some ⟨s.stream, { s.bulk with caller := .drainCheck }, s.result, true⟩ := by
    unfold step
    rw [if_pos (by simp [returned, hd]), hact, hbact, hafter, hresult]
    simp only [Option.elim_some, Option.elim_none, BulkOut.step, ho, if_true]
  have hleave : ∀ bulk : BulkOut, bulk.outside = true → (⟨s.stream, bulk, false, true⟩ : Pipe).step (.producer true) =
      some ⟨{ s.stream with producer := .idle false }, bulk, false, false⟩ := by
    intro bulk hout
    obtain ⟨hact, hbact, hafter⟩ := producer_leaves (s := ⟨s.stream, bulk, false, true⟩) true hp rfl
    unfold step
    rw [if_pos (by simp [returned, hout]), hact, hbact, hafter]
    simp only [Option.elim_some, Option.elim_none, UsbStream.step, UsbStream.leaveFlush, hp]
    rfl
  refine (Lib.run_of_step henter).trans ?_
  cases hw : s.bulk.wedged with
  | true =>
    have hcheck : (⟨s.stream, { s.bulk with caller := .drainCheck }, s.result, true⟩ : Pipe).step (.bulk (.caller false)) =
        some ⟨s.stream, { s.bulk with caller := .idle, allTrue := false }, false, true⟩ := by
      simp [step, streamAct, bulkAct, returned, resultAfter, drainingAfter, BulkOut.step, BulkOut.callerStep, BulkOut.giveUp,
        BulkCaller.returnsTrue, hw]
    exact (Lib.run_of_step hcheck).trans (Lib.run_of_step (hleave _ rfl))
  | false =>
    have hcheck : (⟨s.stream, { s.bulk with caller := .drainCheck }, s.result, true⟩ : Pipe).step (.bulk (.caller false)) =
        some ⟨s.stream, { s.bulk with caller := .drainEnsure }, false, true⟩ := by
      simp [step, streamAct, bulkAct, returned, resultAfter, drainingAfter, BulkOut.step, BulkOut.callerStep,
        BulkCaller.returnsTrue, hw]
    have hensure : (⟨s.stream, { s.bulk with caller := .drainEnsure }, false, true⟩ : Pipe).step (.bulk (.caller false)) =
        some ⟨s.stream, { s.bulk with caller := .idle, allTrue := false }, false, true⟩ := by
      simp [step, streamAct, bulkAct, returned, resultAfter, drainingAfter, BulkOut.step, BulkOut.callerStep, BulkOut.giveUp,
        BulkCaller.returnsTrue]
    exact (Lib.run_of_step hcheck).trans ((Lib.run_of_step hensure).trans (Lib.run_of_step (hleave _ rfl)))

theorem alone_giveUp (s : Pipe) : ∀ a ∈ s.giveUp, a.alone = true := by
  have hreplicate : ∀ {n : Nat} {a b : PipeAct}, a.alone = true → b ∈ List.replicate n a → b.alone = true := by
    intro n a b ha hb
    rw [List.eq_of_mem_replicate hb]
    exact ha
  intro a ha
  unfold giveUp at ha
  rcases List.mem_append.1 ha with ha | ha
  · exact hreplicate rfl ha
  split at ha
  · rcases List.mem_append.1 ha with ha | ha
    · rcases List.mem_cons.1 ha with rfl | ha
      · rfl
      · exact hreplicate rfl ha
    · rw [List.mem_singleton.1 ha]
      rfl
  · cases ha

/-- `flush` can always fail. -/
theorem attempt_giveUp (h : AtEase s) : ∃ s' : Pipe, attempt [] .flush s.giveUp s = some s'.answer := by
  have horderly : s.Orderly .flush := ⟨fun b hb => (by cases hb; trivial), fun b hb => (by cases hb)⟩
  have hby : ∀ b ∈ s.streamAct .flush, b.byWriter = false := fun b hb => (by cases hb; rfl)
  have hlook := run_look h
  have halone := alone_giveUp s
  by_cases hu : s.stream.used = 0
  · rw [if_pos hu] at hlook
    have hrefused := run_refused (s := { s with stream := { s.stream with producer := .flushWait } }) rfl h.draining h.outside
    have hrun := (Lib.run_append hlook).trans hrefused
    unfold giveUp at halone ⊢
    rw [if_pos hu] at halone ⊢
    exact ⟨_, attempt_of_run h horderly hby halone hrun rfl h.writer h.failed rfl⟩
  · rw [if_neg hu] at hlook
    unfold giveUp at halone ⊢
    rw [if_neg hu, List.append_nil] at halone ⊢
    exact ⟨_, attempt_of_run h horderly hby halone hlook rfl h.writer h.failed h.outside⟩

theorem AtEase.flush (h : AtEase s) : AtEase (Transport.bench.flush s).link ∧
    Returns .flush (Transport.bench.flush s).ok s (Transport.bench.flush s).link := by
  have hcall : Transport.bench.flush s =
      ((attempt s.writeOut .flush drainOut s).orElse fun _ => attempt [] .flush s.giveUp s).getD ⟨false, "", s, {}⟩ := rfl
  obtain ⟨s', hgive⟩ := attempt_giveUp h
  cases hout : attempt s.writeOut .flush drainOut s with
  | some r =>
    rw [hcall, hout]
    exact returns_of_attempt h hout
  | none =>
    rw [hcall, hout]
    show AtEase ((attempt [] .flush s.giveUp s).getD _).link ∧ _
    have hanswer : ((none : Option (Answer Pipe)).orElse fun _ => attempt [] .flush s.giveUp s).getD ⟨false, "", s, {}⟩ =
        s'.answer := by
      rw [hgive]
      rfl
    rw [hanswer, hgive]
    exact returns_of_attempt h hgive

end Pipe

theorem drives_bench : DrivesPipe .bench id Pipe.AtEase where
  ready _ _ := rfl
  reset _ h := h.reset
  push _ _ h hd := h.push hd
  flush _ h := h.flush

/-- A Print-Job of four bytes over a ring of eight, and its one transfer. -/
theorem System.job_transferred_bench : ∃ s e fed,
    Lib.run (System.step .bench) (.begin .enumeratedPrinter (Pipe.begin 8) 0 true)
      [.pollBackend false {}, ippPost 0x02 [65, 66, 67, 68]] = some s ∧ s.backend.history.head? = some e ∧
    e.accepted = [(.ipp 1, [65, 66, 67, 68])] ∧ Fed [[65, 66, 67, 68]] fed ∧ s.backend.link.bulk.Transferred fed := by
  have hrun : (Lib.run (System.step .bench) (.begin .enumeratedPrinter (Pipe.begin 8) 0 true)
      [.pollBackend false {}, ippPost 0x02 [65, 66, 67, 68]]).map
        (fun s => (s.backend.history.head?, s.backend.link.bulk.allTrue)) =
      some (some ⟨[(.ipp 1, [65, 66, 67, 68])], some 0, none⟩, true) := by decide +kernel
  have hease : (Pipe.begin 8).AtEase := ⟨⟨.begin (by decide) (by decide), .begin, rfl⟩, rfl, rfl, rfl⟩
  obtain ⟨s, hs, hshown⟩ := Option.map_eq_some_iff.1 hrun
  obtain ⟨he, hall⟩ := Prod.mk.inj hshown
  obtain ⟨fed, hfed, htransferred⟩ :=
    job_transferred drives_bench .enumeratedPrinter 0 true hease (by decide) (by decide) rfl hs he rfl hall
  exact ⟨s, _, fed, hs, he, rfl, hfed, htransferred⟩

end PrintServer
