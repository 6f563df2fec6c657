import PrintServer.RawServer
/-!
# The staging ring of the RAW server

The ring holds what was read and not yet sent: `queue`. A read appends to it, one turn of
`drainRingToUsb` sends its front, and the whole drain either sends all of it in order or aborts
the connection.
-/
namespace PrintServer

/-- The payloads that `sendDirect` took, in order. -/
def payload (log : List RawEvent) : Bytes :=
  (log.filterMap fun e => match e with
    | .sent data true => some data
    | _ => none).flatten

theorem payload_append (l l' : List RawEvent) : payload (l ++ l') = payload l ++ payload l' := by
  simp only [payload, List.filterMap_append, List.flatten_append]

namespace RawServer

/-- What the ring holds. -/
def queue (r : RawServer) : Bytes := Lib.Ring.slice r.mem usbBufferSize r.readPos r.dataLen

/-- The three positions fit together. -/
structure RingOk (r : RawServer) : Prop where
  readPos_lt : r.readPos < usbBufferSize
  dataLen_le : r.dataLen ≤ usbBufferSize
  writePos_eq : r.writePos = (r.readPos + r.dataLen) % usbBufferSize

theorem RingOk.writePos_lt {r : RawServer} (h : r.RingOk) : r.writePos < usbBufferSize := by
  rw [h.writePos_eq]
  exact Nat.mod_lt _ (by decide)

theorem queue_eq_nil {r : RawServer} : r.queue = [] ↔ r.dataLen = 0 := Lib.Ring.slice_eq_nil

@[simp] theorem length_queue (r : RawServer) : r.queue.length = r.dataLen := Lib.Ring.length_slice ..

theorem ringOk_empty {r : RawServer} (hw : r.writePos = 0) (hr : r.readPos = 0) (hd : r.dataLen = 0) : r.RingOk :=
  ⟨by rw [hr]; decide, by rw [hd]; decide, by rw [hw, hr, hd]; rfl⟩

theorem request_eq {r : RawServer} (h : r.RingOk) :
    r.request = min (min bulkOutChunkSize (usbBufferSize - r.dataLen)) (usbBufferSize - r.writePos) := by
  have hw := h.writePos_lt
  simp only [request]
  split <;> omega

/-- The detector's state is not part of the ring. -/
theorem RingOk.scanned {r : RawServer} (h : r.RingOk) (pjl : PjlDetector) : ({ r with pjl } : RawServer).RingOk :=
  ⟨h.readPos_lt, h.dataLen_le, h.writePos_eq⟩

section receive
variable {r : RawServer} {got : Bytes} (now : Nat)

theorem ringOk_receive (h : r.RingOk) (hg : got.length ≤ r.request) : (r.receive now got).RingOk := by
  rw [request_eq h] at hg
  have hd := h.dataLen_le
  refine ⟨h.readPos_lt, ?_, ?_⟩
  · show r.dataLen + got.length ≤ usbBufferSize
    omega
  · show (r.writePos + got.length) % usbBufferSize = (r.readPos + (r.dataLen + got.length)) % usbBufferSize
    rw [h.writePos_eq, Nat.mod_add_mod, Nat.add_assoc]

/-- A read appends to the queue. -/
theorem queue_receive (h : r.RingOk) (hg : got.length ≤ r.request) : (r.receive now got).queue = r.queue ++ got := by
  rw [request_eq h] at hg
  have hd := h.dataLen_le
  have hw := h.writePos_eq
  show Lib.Ring.slice (Lib.Ring.write r.mem r.writePos got) usbBufferSize r.readPos (r.dataLen + got.length) = _
  rw [hw]
  exact Lib.Ring.slice_write h.readPos_lt (by omega) (by rw [← hw]; omega)

end receive

/-- One turn of the drain sends the front of the queue. -/
theorem ringOk_sent {r : RawServer} (h : r.RingOk) {n : Nat} (hn : n ≤ r.dataLen) : (r.sent n).RingOk := by
  have hd := h.dataLen_le
  refine ⟨Nat.mod_lt _ (by decide), ?_, ?_⟩
  · show r.dataLen - n ≤ usbBufferSize
    omega
  · show r.writePos = ((r.readPos + n) % usbBufferSize + (r.dataLen - n)) % usbBufferSize
    rw [h.writePos_eq, Nat.mod_add_mod, Nat.add_assoc, Nat.add_sub_cancel' hn]

theorem sent_zero {r : RawServer} (h : r.RingOk) : r.sent 0 = r := by
  unfold sent
  rw [Nat.add_zero, Nat.add_zero, Nat.mod_eq_of_lt h.readPos_lt, Nat.sub_zero]

/-- Sending `n` and then the rest is sending all. -/
theorem sent_sent {r : RawServer} {n : Nat} (hn : n ≤ r.dataLen) :
    (r.sent n).sent (r.sent n).dataLen = r.sent r.dataLen := by
  simp only [sent, Nat.mod_add_mod, Nat.add_assoc, Nat.add_sub_cancel' hn, Nat.sub_self]

theorem queue_sent {r : RawServer} {n : Nat} (hn : n ≤ r.dataLen) : (r.sent n).queue = r.queue.drop n :=
  (Lib.Ring.drop_slice r.mem usbBufferSize r.readPos hn).symm

theorem read_front {r : RawServer} {n : Nat} (hn : n ≤ r.dataLen) (he : n ≤ usbBufferSize - r.readPos)
    (hr : r.readPos < usbBufferSize) : Lib.Ring.read r.mem r.readPos n = r.queue.take n := by
  rw [Lib.Ring.read_eq_slice usbBufferSize (by omega)]
  exact (Lib.Ring.take_slice r.mem usbBufferSize r.readPos hn).symm

end RawServer

namespace Serving
variable {σ : Type} (T : Transport σ)

/-- The whole queue went out. -/
structure Drained (s s' : Serving σ) : Prop where
  raw : s'.raw = s.raw.sent s.raw.dataLen
  log : ∃ blocks : List Bytes, blocks.flatten = s.raw.queue ∧ s'.log = s.log ++ blocks.map fun d => .sent d true

/-- A block was refused, and the connection is aborted. -/
structure Refused (s s' : Serving σ) : Prop where
  raw : ∃ r : RawServer, s'.raw = r.reset
  log : ∃ l data reason, s'.log = s.log ++ l ++ [.sent data false, .incomplete reason]

theorem drained_empty {s : Serving σ} (h : s.raw.RingOk) (hd : s.raw.dataLen = 0) : Drained s s := by
  refine ⟨?_, [], ?_, (List.append_nil _).symm⟩
  · rw [hd, RawServer.sent_zero h]
  · rw [RawServer.queue_eq_nil.2 hd, List.flatten_nil]

/-- **The drain sends the queue in order, or aborts the connection.** The induction is on the fuel;
each turn takes at least one byte off the queue. -/
theorem drainLoop_cases : ∀ (fuel : Nat) (s : Serving σ), s.raw.RingOk → s.raw.dataLen ≤ fuel →
    ((drainLoop T fuel s).1 = true ∧ Drained s (drainLoop T fuel s).2) ∨
      ((drainLoop T fuel s).1 = false ∧ Refused s (drainLoop T fuel s).2)
  | 0, s, h, hf => Or.inl ⟨rfl, drained_empty h (Nat.le_zero.1 hf)⟩
  | fuel + 1, s, h, hf => by
    unfold drainLoop
    by_cases hd : s.raw.dataLen = 0
    · rw [if_pos hd]
      exact Or.inl ⟨rfl, drained_empty h hd⟩
    rw [if_neg hd]
    have hr := h.readPos_lt
    have hc : 0 < bulkOutChunkSize := by decide
    generalize hw : min (min s.raw.dataLen bulkOutChunkSize) (usbBufferSize - s.raw.readPos) = want
    have hle : want ≤ s.raw.dataLen := by omega
    have hpos : 0 < want := by omega
    have hfront : Lib.Ring.read s.raw.mem s.raw.readPos want = s.raw.queue.take want :=
      RawServer.read_front hle (by omega) hr
    simp only [hfront]
    cases hs : s.backend.sendDirect T (.raw s.raw.connection) (s.raw.queue.take want) with
    | mk e b =>
      cases e with
      | some reason =>
        refine Or.inr ⟨rfl, ⟨s.raw, rfl⟩, [], s.raw.queue.take want, reason, ?_⟩
        simp [note, abortRawConnection]
      | none =>
        simp only []
        generalize hm : ({ s with backend := b, raw := s.raw.sent want }.note
          (.sent (s.raw.queue.take want) true) : Serving σ) = m
        have hraw : m.raw = s.raw.sent want := by rw [← hm]; rfl
        have hlog : m.log = s.log ++ [.sent (s.raw.queue.take want) true] := by rw [← hm]; rfl
        have hok : m.raw.RingOk := hraw ▸ RawServer.ringOk_sent h hle
        have hfuel : m.raw.dataLen ≤ fuel := by
          rw [hraw]
          show s.raw.dataLen - want ≤ fuel
          omega
        rcases drainLoop_cases fuel m hok hfuel with ⟨h1, h2⟩ | ⟨h1, h2⟩
        · refine Or.inl ⟨h1, ?_, ?_⟩
          · rw [h2.raw, hraw, RawServer.sent_sent hle]
          · obtain ⟨blocks, hb, hl⟩ := h2.log
            refine ⟨s.raw.queue.take want :: blocks, ?_, ?_⟩
            · rw [List.flatten_cons, hb, hraw, RawServer.queue_sent hle, List.take_append_drop]
            · rw [hl, hlog, List.append_assoc, List.map_cons]
              rfl
        · obtain ⟨l, data, reason, hl⟩ := h2.log
          refine Or.inr ⟨h1, h2.raw, .sent (s.raw.queue.take want) true :: l, data, reason, ?_⟩
          rw [hl, hlog, List.append_assoc s.log, List.singleton_append]

theorem drainRingToUsb_cases {s : Serving σ} (h : s.raw.RingOk) :
    ((s.drainRingToUsb T).1 = true ∧ Drained s (s.drainRingToUsb T).2) ∨
      ((s.drainRingToUsb T).1 = false ∧ Refused s (s.drainRingToUsb T).2) :=
  drainLoop_cases T _ s h (Nat.le_refl _)

theorem Drained.payload {s s' : Serving σ} (h : Drained s s') : payload s'.log = payload s.log ++ s.raw.queue := by
  obtain ⟨blocks, hb, hl⟩ := h.log
  rw [hl, payload_append, ← hb]
  congr 1
  unfold PrintServer.payload
  rw [List.filterMap_map]
  congr 1
  exact List.filterMap_some

end Serving
end PrintServer
