import PrintServer.Config
import PrintServer.Lib.Match
/-!
# The PJL end-of-job detector (usb_printer_backend.cpp:31-80)

`feed` is the state machine as written, one case per state. `feed_spec` says that it is the
matching automaton of `"@PJL EOJ"`, so that its verdicts are those of `Lib.Match`.
-/
namespace PrintServer

/-- `PJL_EOJ` (:32). -/
def pjlEoj : Bytes := [64, 80, 74, 76, 32, 69, 79, 74]

/-- `PjlDetector::State` (:35). -/
inductive PjlDetector where
  | idle | atSeen | atPSeen | atPjSeen | atPjlSeen | atPjlSpaceSeen | atPjlESeen | atPjlEoSeen | atPjlEojSeen
deriving DecidableEq, Repr

namespace PjlDetector

/-- The enumeration as a number. -/
def toNat : PjlDetector → Nat
  | idle => 0
  | atSeen => 1
  | atPSeen => 2
  | atPjSeen => 3
  | atPjlSeen => 4
  | atPjlSpaceSeen => 5
  | atPjlESeen => 6
  | atPjlEoSeen => 7
  | atPjlEojSeen => 8

/-- The three lines that most states share: go on with `c`, resync on `'@'`, or give up. -/
def expect (c : UInt8) (next : PjlDetector) (b : UInt8) : PjlDetector :=
  if b = c then next else if b = 64 then atSeen else idle

/-- `feed` (:39): whether the marker is complete, and the next state. -/
def feed (s : PjlDetector) (b : UInt8) : Bool × PjlDetector :=
  match s with
  | idle => (false, if b = 64 then atSeen else idle)
  | atSeen => (false, expect 80 atPSeen b)
  | atPSeen => (false, expect 74 atPjSeen b)
  | atPjSeen => (false, expect 76 atPjlSeen b)
  | atPjlSeen => (false, expect 32 atPjlSpaceSeen b)
  | atPjlSpaceSeen => (false, expect 69 atPjlESeen b)
  | atPjlESeen => (false, expect 79 atPjlEoSeen b)
  | atPjlEoSeen => (b = 74, expect 74 atPjlEojSeen b)
  | atPjlEojSeen => (false, if b = 64 then atSeen else idle)

/-- The scan of one read (:345-347): stop at the first complete marker. -/
def scan : PjlDetector → Bytes → Bool × PjlDetector
  | s, [] => (false, s)
  | s, b :: bs =>
    match s.feed b with
    | (true, s) => (true, s)
    | (false, s) => scan s bs

/-- A state between the first and the last byte of the marker. -/
theorem expect_spec {s next : PjlDetector} {c : UInt8} (h1 : pjlEoj[s.toNat]? = some c) (h2 : next.toNat = s.toNat + 1)
    (b : UInt8) : (expect c next b).toNat = Lib.Match.step pjlEoj s.toNat b := by
  unfold expect Lib.Match.step
  rw [h1]
  by_cases h : b = c
  · rw [if_pos h, if_pos (by rw [h]), h2]
  · have h' : ¬ some c = some b := fun e => h (Option.some.inj e).symm
    rw [if_neg h, if_neg h']
    by_cases h64 : b = 64 <;> simp [pjlEoj, h64, toNat, eq_comm]

/-- One byte, seen as a step of the matching automaton. -/
theorem feed_state (s : PjlDetector) (b : UInt8) : (s.feed b).2.toNat = Lib.Match.step pjlEoj s.toNat b := by
  cases s with
  | idle => by_cases h : b = 64 <;> simp [feed, toNat, Lib.Match.step, pjlEoj, h, eq_comm]
  | atPjlEojSeen => by_cases h : b = 64 <;> simp [feed, toNat, Lib.Match.step, pjlEoj, h, eq_comm]
  | _ => exact expect_spec rfl rfl b

/-- The verdict is that the last state is reached. -/
theorem feed_found (s : PjlDetector) (b : UInt8) : (s.feed b).1 = true ↔ (s.feed b).2.toNat = pjlEoj.length := by
  cases s with
  | atPjlEoSeen =>
    by_cases h : b = 74
    · simp [feed, expect, toNat, pjlEoj, h]
    · by_cases h64 : b = 64 <;> simp [feed, expect, toNat, pjlEoj, h, h64]
  | _ =>
    simp only [feed, expect]
    split_ifs <;> simp [toNat, pjlEoj]

/-- The detector has read `text`. -/
def Read (s : PjlDetector) (text : Bytes) : Prop := s.toNat = Lib.Match.state pjlEoj text

theorem read_nil : Read .idle [] := rfl

theorem Read.feed {s : PjlDetector} {text : Bytes} (h : s.Read text) (b : UInt8) : (s.feed b).2.Read (text ++ [b]) := by
  unfold Read
  rw [feed_state, Lib.Match.state_concat, h]

/-- A verdict after `text` means that `text` ends with the marker. -/
theorem Read.feed_found {s : PjlDetector} {text : Bytes} (h : s.Read text) (b : UInt8) :
    (s.feed b).1 = true ↔ pjlEoj <:+ text ++ [b] := by
  rw [PjlDetector.feed_found, h.feed b]
  exact Lib.Match.state_eq_length (by decide) _

/-- A verdict after a text that holds no marker so far: the marker is in the text now. -/
theorem infix_concat {text : Bytes} (h : ¬ pjlEoj <:+: text) (b : UInt8) :
    pjlEoj <:+: text ++ [b] ↔ pjlEoj <:+ text ++ [b] := by
  rw [List.infix_concat_iff]
  exact or_iff_left h

/-- **The detector finds the marker wherever the reads are cut.** A scan of one more read stops
exactly when the text so far holds `"@PJL EOJ"`. -/
theorem Read.scan {s : PjlDetector} {text : Bytes} (h : s.Read text) (hno : ¬ pjlEoj <:+: text) (bs : Bytes) :
    ((s.scan bs).1 = true ↔ pjlEoj <:+: text ++ bs) ∧
      ((s.scan bs).1 = false → (s.scan bs).2.Read (text ++ bs)) := by
  induction bs generalizing s text with
  | nil => simpa [PjlDetector.scan, hno] using h
  | cons b bs ih =>
    have hfound := h.feed_found b
    have hread := h.feed b
    rw [← infix_concat hno b] at hfound
    unfold PjlDetector.scan
    rcases hf : s.feed b with ⟨_ | _, s'⟩
    · rw [hf] at hfound hread
      have hno' : ¬ pjlEoj <:+: text ++ [b] := fun e => by simpa using hfound.2 e
      simpa using ih hread hno'
    · rw [hf] at hfound
      have hin : pjlEoj <:+: text ++ b :: bs := by
        rw [List.append_cons]
        exact List.infix_append_of_infix_left (hfound.1 rfl)
      simpa using hin

/-! ## Every verdict on a stream -/

/-- Verdict and state after each byte. -/
def trace : PjlDetector → Bytes → List (Bool × PjlDetector)
  | _, [] => []
  | s, b :: bs => s.feed b :: (s.feed b).2.trace bs

/-- The state that a chunk leaves. -/
def after (s : PjlDetector) (bs : Bytes) : PjlDetector := bs.foldl (fun s b => (s.feed b).2) s

/-- The chunks are fed one after the other; the detector is not reset in between. -/
def traceChunks : PjlDetector → List Bytes → List (Bool × PjlDetector)
  | _, [] => []
  | s, bs :: chunks => s.trace bs ++ (s.after bs).traceChunks chunks

theorem trace_append (s : PjlDetector) (bs cs : Bytes) : s.trace (bs ++ cs) = s.trace bs ++ (s.after bs).trace cs := by
  induction bs generalizing s with
  | nil => rfl
  | cons b bs ih => exact congrArg (s.feed b :: ·) (ih (s.feed b).2)

/-- Where the chunks end is all the same. -/
theorem traceChunks_eq (s : PjlDetector) (chunks : List Bytes) : s.traceChunks chunks = s.trace chunks.flatten := by
  induction chunks generalizing s with
  | nil => rfl
  | cons bs chunks ih =>
    rw [List.flatten_cons, trace_append, ← ih]
    rfl

/-- One entry of the trace, for a detector that has read `text`. -/
theorem Read.trace {s : PjlDetector} {text : Bytes} (h : s.Read text) {bs : Bytes} {i : Nat} (hi : i < bs.length) :
    ∃ found t, (s.trace bs)[i]? = some (found, t) ∧ (found = true ↔ pjlEoj <:+ text ++ bs.take (i + 1)) ∧
      t.Read (text ++ bs.take (i + 1)) := by
  induction bs generalizing s text i with
  | nil => exact absurd hi (Nat.not_lt_zero i)
  | cons b bs ih =>
    cases i with
    | zero => exact ⟨(s.feed b).1, (s.feed b).2, rfl, h.feed_found b, h.feed b⟩
    | succ i =>
      obtain ⟨found, t, ht, hfound, hread⟩ := ih (h.feed b) (Nat.lt_of_succ_lt_succ hi)
      rw [List.append_assoc, List.singleton_append, ← List.take_succ_cons] at hfound hread
      exact ⟨found, t, ht, hfound, hread⟩

/-- The marker ends with the byte at position `i`. -/
theorem suffix_take_iff {text : Bytes} {i : Nat} (hi : i < text.length) :
    pjlEoj <:+ text.take (i + 1) ↔ 7 ≤ i ∧ (text.drop (i - 7)).take 8 = pjlEoj := by
  have hlen : (text.take (i + 1)).length = i + 1 := List.length_take_of_le hi
  have hpos : pjlEoj.length = 8 := rfl
  by_cases h7 : 7 ≤ i
  · have hdrop : (text.take (i + 1)).drop (i + 1 - 8) = (text.drop (i - 7)).take 8 := by
      rw [List.drop_take, show i + 1 - 8 = i - 7 by omega, show i + 1 - (i - 7) = 8 by omega]
    rw [List.suffix_iff_eq_drop, hlen, hpos, hdrop]
    exact ⟨fun h => ⟨h7, h.symm⟩, fun h => h.2.symm⟩
  · constructor
    · intro h
      have hle := h.length_le
      omega
    · exact fun h => absurd h.1 h7

/-- **The detector recognises exactly the marker**, in any stream, however it is cut into chunks. -/
theorem feed_exact (chunks : List Bytes) (i : Nat) (hi : i < chunks.flatten.length) :
    ∃ found s, (traceChunks .idle chunks)[i]? = some (found, s) ∧
      (found = true ↔ 7 ≤ i ∧ (chunks.flatten.drop (i - 7)).take 8 = pjlEoj) ∧
      IsGreatest {k | ∃ u, u <:+ chunks.flatten.take (i + 1) ∧ u <+: pjlEoj ∧ u.length = k} s.toNat := by
  obtain ⟨found, s, hs, hfound, hread⟩ := read_nil.trace hi
  rw [List.nil_append] at hfound hread
  refine ⟨found, s, ?_, ?_, ?_⟩
  · rw [traceChunks_eq, hs]
  · rw [hfound, suffix_take_iff hi]
  · rw [show s.toNat = _ from hread]
    exact Lib.Match.state_isGreatest (by decide) _

/-- Two markers that share no byte, the second behind a false start and cut in two. -/
theorem feed_exact_falseStart : ∃ found s,
    (traceChunks .idle [pjlEoj ++ [64, 80], [64, 80, 74, 76, 32], [69, 79, 74]])[17]? = some (found, s) ∧
      found = true := by
  obtain ⟨found, s, hs, hfound, _⟩ := feed_exact [pjlEoj ++ [64, 80], [64, 80, 74, 76, 32], [69, 79, 74]] 17 (by decide)
  exact ⟨found, s, hs, hfound.2 (by decide)⟩

end PjlDetector
end PrintServer
