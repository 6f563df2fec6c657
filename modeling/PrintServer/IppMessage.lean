import Mathlib
import PrintServer.HeaderValue
/-!
# From the socket to the operation (ipp_pcl3_service.cpp:57-67, 932-976)

A request passes three decoders before an operation sees it: the head is read byte by byte up to its
empty line, two of its fields choose the body framing, and the body gives header, attributes and
document. `Message` is a request as a client means it and `Sent` how it may arrive; `parse_message`
says that the operation gets exactly what the client meant.
-/
namespace PrintServer

open Lib.Ipp

/-! ## The empty line that ends the head -/

/-- Behind a text without CR LF, the first CR LF is the one that follows it. -/
theorem crlf_split {l u v t : Bytes} (hl : ¬ crlf <:+: l) (h : u ++ (crlf ++ v) = l ++ (crlf ++ t)) :
    (u = l ∧ v = t) ∨ ∃ w, u = l ++ (crlf ++ w) ∧ w ++ (crlf ++ v) = t := by
  have hends : ∀ {x : UInt8} {a b : Bytes}, crlf ++ a = x :: crlf ++ b → False := by
    intro x a b he
    have htail := (List.cons.inj he).2
    exact absurd (List.cons.inj htail).1 (by decide)
  rcases List.append_eq_append_iff.1 h with ⟨a, rfl, ha⟩ | ⟨a, rfl, ha⟩
  · match a with
    | [] =>
      exact Or.inl ⟨(List.append_nil u).symm, List.append_cancel_left ha⟩
    | [x] => exact (hends ha).elim
    | x :: y :: a =>
      obtain ⟨rfl, hy⟩ := List.cons.inj ha
      obtain ⟨rfl, _⟩ := List.cons.inj hy
      exact absurd ⟨u, a, List.append_assoc ..⟩ hl
  · match a with
    | [] => exact Or.inl ⟨List.append_nil l, (List.append_cancel_left ha).symm⟩
    | [x] => exact (hends ha).elim
    | x :: y :: a =>
      obtain ⟨rfl, hy⟩ := List.cons.inj ha
      obtain ⟨rfl, ht⟩ := List.cons.inj hy
      exact Or.inr ⟨a, rfl, ht.symm⟩

/-- In a row of lines that are not empty, two CR LF in a row are the end. -/
theorem lines_end : ∀ (ls : List Bytes), (∀ l ∈ ls, IsLine l ∧ l ≠ []) → ∀ q t : Bytes,
    q ++ (crlf ++ (crlf ++ t)) = (ls.map (· ++ crlf)).flatten ++ crlf → t = []
  | [], _, q, t, h => by
    have hlen := congrArg List.length h
    simp only [List.map_nil, List.flatten_nil, List.length_append, List.length_nil] at hlen
    have hc : crlf.length = 2 := rfl
    omega
  | l :: ls, hls, q, t, h => by
    have hrest := fun x hx => hls x (List.mem_cons_of_mem l hx)
    rw [List.map_cons, List.flatten_cons, List.append_assoc, List.append_assoc] at h
    rcases crlf_split (hls l List.mem_cons_self).1.2 h with ⟨_, hv⟩ | ⟨w, _, hw⟩
    · match ls with
      | [] =>
        have he : crlf ++ t = crlf ++ [] := hv
        exact List.append_cancel_left he
      | l' :: ls =>
        have hl' := hrest l' List.mem_cons_self
        rw [List.map_cons, List.flatten_cons, List.append_assoc, List.append_assoc] at hv
        rcases crlf_split (u := []) hl'.1.2 hv with ⟨hnil, _⟩ | ⟨w, hnil, _⟩
        · exact absurd hnil.symm hl'.2
        · exact absurd (List.append_eq_nil_iff.1 hnil.symm).1 hl'.2
    · exact lines_end ls hrest w t hw

theorem ends_twice : ∀ ls : List Bytes, ls ≠ [] → crlf ++ crlf <:+ (ls.map (· ++ crlf)).flatten ++ crlf
  | [], h => absurd rfl h
  | [l], _ =>
    ⟨l, by simp only [List.map_cons, List.map_nil, List.flatten_cons, List.flatten_nil, List.append_nil, List.append_assoc]⟩
  | l :: l' :: ls, _ => by
    obtain ⟨q, hq⟩ := ends_twice (l' :: ls) (List.cons_ne_nil _ _)
    exact ⟨l ++ crlf ++ q, by rw [List.map_cons, List.flatten_cons, List.append_assoc, List.append_assoc (l ++ crlf), hq]⟩

/-- The loop of `readHttpHeader` reads on to the first empty line. -/
theorem headerLoop_reads {rest : Bytes} : ∀ (todo acc : Bytes) (n : Nat) (c : WiFiClient), Smooth c →
    c.bytes = todo ++ rest → todo ≠ [] → todo.length ≤ n → crlf ++ crlf <:+ acc ++ todo →
    (∀ q t, q ++ (crlf ++ (crlf ++ t)) = acc ++ todo → t = []) →
    ∃ c', headerLoop n acc c = (some (acc ++ todo), c') ∧ Smooth c' ∧ c'.bytes = rest
  | [], _, _, _, _, _, hne, _, _, _ => absurd rfl hne
  | b :: todo, acc, 0, _, _, _, _, hn, _, _ => absurd hn (Nat.not_succ_le_zero _)
  | b :: todo, acc, n + 1, c, hs, hb, _, hn, hsuf, hend => by
    rcases readClientByte_cases c with ⟨b', c1, e, hf⟩ | ⟨_, _, _, hno⟩
    · have hcut : b' :: c1.bytes = b :: (todo ++ rest) := hf.bytes.symm.trans hb
      obtain ⟨rfl, hb1⟩ := List.cons.inj hcut
      have hacc : acc ++ b' :: todo = acc ++ [b'] ++ todo := by rw [List.append_assoc, List.singleton_append]
      rw [headerLoop, e]
      dsimp only
      by_cases hx : (crlf ++ crlf).isSuffixOf (acc ++ [b']) = true
      · -- the empty line is complete, so nothing of the head is left
        obtain ⟨q, hq⟩ := List.isSuffixOf_iff_suffix.1 hx
        have htodo : todo = [] := hend q todo (by rw [hacc, ← hq]; simp only [List.append_assoc])
        rw [if_pos hx, htodo]
        exact ⟨c1, rfl, hf.smooth hs, by rw [hb1, htodo]; rfl⟩
      · have htodo : todo ≠ [] := by
          rintro rfl
          exact hx (List.isSuffixOf_iff_suffix.2 hsuf)
        rw [if_neg hx, hacc]
        rw [hacc] at hsuf hend
        exact headerLoop_reads todo (acc ++ [b']) n c1 (hf.smooth hs) hb1 htodo (Nat.le_of_succ_le_succ hn) hsuf hend
    · rw [hno hs] at hb
      cases hb

namespace RequestHead

/-- `readHttpHeader` reads the head, and nothing behind it. -/
theorem readHttpHeader_encode {h : RequestHead} (hne : h.requestLine ≠ []) (hle : h.encode.length ≤ httpHeaderLimit)
    {c : WiFiClient} (hs : Smooth c) {rest : Bytes} (hb : c.bytes = h.encode ++ rest) :
    ∃ c', readHttpHeader c = (some h.encode, c') ∧ Smooth c' ∧ c'.bytes = rest := by
  have hlines : ∀ l ∈ h.lines, IsLine l ∧ l ≠ [] := by
    intro l hl
    rcases List.mem_cons.1 hl with rfl | hl
    · exact ⟨h.isLine, hne⟩
    · obtain ⟨f, _, rfl⟩ := List.mem_map.1 hl
      exact ⟨f.isLine, fun hnil => absurd (List.append_eq_nil_iff.1 hnil).2 (List.cons_ne_nil _ _)⟩
  have htwice : crlf ++ crlf <:+ h.encode := ends_twice h.lines (List.cons_ne_nil _ _)
  have hnil : h.encode ≠ [] := by
    intro hnil
    rw [hnil] at htwice
    exact absurd (List.suffix_nil.1 htwice) (by decide)
  exact headerLoop_reads h.encode [] httpHeaderLimit c hs hb hnil hle htwice (lines_end h.lines hlines)

/-- The fields announce this framing. -/
def Announces (h : RequestHead) : Framing → Prop
  | .length body => equalsIgnoreCase (h.field "Transfer-Encoding") (ascii "chunked") = false ∧
      h.field "Content-Length" ≠ [] ∧ toInt (h.field "Content-Length") = body.length
  | .chunked _ => equalsIgnoreCase (h.field "Transfer-Encoding") (ascii "chunked") = true

theorem Announces.sized {h : RequestHead} {f : Framing} (ha : h.Announces f) : f.Sized := by
  cases f with
  | length body =>
    have hle := toInt_lt (h.field "Content-Length")
    rw [ha.2.2] at hle
    exact Int.ofNat_lt.1 hle
  | chunked body => trivial

theorem bodyReader_announced {h : RequestHead} {f : Framing} (ha : h.Announces f) (c : WiFiClient) :
    h.bodyReader c = f.reader c := by
  unfold bodyReader
  cases f with
  | length body =>
    obtain ⟨hte, hne, hlen⟩ := ha
    have hempty : (h.field "Content-Length").isEmpty = false := List.isEmpty_eq_false_iff.2 hne
    have hle : body.length ≤ 2 ^ 31 - 1 := Nat.le_pred_of_lt (Announces.sized (f := .length body) ⟨hte, hne, hlen⟩)
    simp only [hte, hempty, hlen, Framing.reader, Nat.min_eq_left hle, Bool.or_self, Bool.false_eq_true, if_false]
  | chunked body =>
    have hte : equalsIgnoreCase (h.field "Transfer-Encoding") (ascii "chunked") = true := ha
    simp only [hte, Bool.true_or, if_true]
    rfl

end RequestHead

/-! ## Requests -/

/-- A request as a client means it. -/
structure Message where
  head : RequestHead
  version : IppVersion
  op : Nat
  requestId : UInt32
  attributes : Section
  document : Bytes

namespace Message

def be32Bytes (v : UInt32) : Bytes := [(v >>> 24).toUInt8, (v >>> 16).toUInt8, (v >>> 8).toUInt8, v.toUInt8]

def header (m : Message) : Bytes := [m.version.major, m.version.minor] ++ u16 m.op ++ be32Bytes m.requestId

def body (m : Message) : Bytes := m.header ++ (m.attributes.encode ++ m.document)

/-- What the attributes say. -/
def attrs (m : Message) : RequestAttrs := .reference (given m.attributes)

/-- The request arrives complete, in any segments; `rest` is what the client sends behind it. -/
structure Sent (m : Message) (f : Framing) (c : WiFiClient) (rest : Bytes) : Prop where
  requestLine_ne : m.head.requestLine ≠ []
  head_le : m.head.encode.length ≤ httpHeaderLimit
  transferEncoding : m.head.Clear "Transfer-Encoding"
  contentLength : m.head.Clear "Content-Length"
  announced : m.head.Announces f
  short : f.Short
  op_lt : m.op < 2 ^ 16
  attributes : m.attributes.Wf
  plain : Plain m.attributes
  data : f.data = m.body
  smooth : Smooth c
  bytes : c.bytes = m.head.encode ++ (f.encode ++ rest)

theorem be32_be32Bytes (v : UInt32) : be32 (be32Bytes v) = v := by
  apply UInt32.toNat_inj.1
  simp only [be32, be32Bytes, UInt32.toNat_ofNat', UInt32.toNat_toUInt8, UInt32.toNat_shiftRight]
  have hlt := v.toNat_lt
  have h24 : (24 : UInt32).toNat % 32 = 24 := rfl
  have h16 : (16 : UInt32).toNat % 32 = 16 := rfl
  have h8 : (8 : UInt32).toNat % 32 = 8 := rfl
  rw [h24, h16, h8, Nat.shiftRight_eq_div_pow, Nat.shiftRight_eq_div_pow, Nat.shiftRight_eq_div_pow]
  omega

/-- What the operation gets, up to a reader at the document. -/
theorem parse_follow {m : Message} {f : Framing} {c : WiFiClient} {rest : Bytes} (h : m.Sent f c rest) :
    ∃ body E, parse c = .request ⟨m.version, m.op, m.requestId, m.attrs, body⟩ ∧
      E.clean ∧ E.miss = [] ∧ E.rest = rest ∧ Follow E body m.document := by
  obtain ⟨c1, hhead, hs, hb⟩ := m.head.readHttpHeader_encode h.requestLine_ne h.head_le h.smooth h.bytes
  obtain ⟨E, hc, hm, hrest, hfol⟩ := h.announced.sized.follow h.short c1 rest hs hb
  rw [h.data] at hfol
  obtain ⟨r1, hexact, hfol⟩ := BodyReader.readExact_whole hc m.header hfol
  obtain ⟨r2, hattrs, hfol⟩ := BodyReader.parseAttributes_items hc hm h.attributes hfol
  rw [kept_of_plain h.attributes h.plain] at hattrs
  refine ⟨r2, E, ?_, hc, hm, hrest, hfol⟩
  have hreader : PrintServer.bodyReader m.head.encode c1 = f.reader c1 := by
    rw [bodyReader_encode h.transferEncoding h.contentLength, RequestHead.bodyReader_announced h.announced]
  have hop : be16 (u16 m.op) = m.op := ofU16_u16 h.op_lt
  unfold parse
  rw [hhead]
  dsimp only
  rw [hreader]
  have hexact : (f.reader c1).readExact 8 = (some [m.version.major, m.version.minor, UInt8.ofNat (m.op / 256), UInt8.ofNat m.op,
    (m.requestId >>> 24).toUInt8, (m.requestId >>> 16).toUInt8, (m.requestId >>> 8).toUInt8, m.requestId.toUInt8], r1) := hexact
  have hid := be32_be32Bytes m.requestId
  unfold be32Bytes at hid
  unfold u16 at hop
  rw [hexact]
  dsimp only
  rw [hattrs, hop, hid]
  rfl

/-- **Three decoders in a row give back the request.** The operation gets what the client meant, with a
reader from which any reads give the document, and then nothing of what was sent behind it. -/
theorem parse_message {m : Message} {f : Framing} {c : WiFiClient} {rest : Bytes} (h : m.Sent f c rest) :
    ∃ body, parse c = .request ⟨m.version, m.op, m.requestId, m.attrs, body⟩ ∧
      ∀ caps : List Nat, (∀ n ∈ caps, 0 < n) → m.document.length < caps.length →
        (body.readBlocks caps).1 = m.document ∧ (body.readBlocks caps).2.done = true ∧
          (body.readBlocks caps).2.client.bytes = rest := by
  obtain ⟨body, E, hparse, hc, hm, rfl, hfol⟩ := parse_follow h
  refine ⟨body, hparse, fun caps hcaps hlen => ?_⟩
  obtain ⟨left, hl, hend, hd⟩ := BodyReader.readBlocks_follow hc hm caps body m.document hcaps hfol
  have hdone : (body.readBlocks caps).2.done = true := hd.resolve_right (by omega)
  obtain ⟨rfl, hrest⟩ := hend.exact hc hm hdone
  exact ⟨by rw [hl, List.append_nil], hdone, hrest⟩

theorem isLine_post : IsLine (ascii "POST /ipp/print HTTP/1.1") := by decide +kernel

theorem hello_host : 58 ∉ ascii "Host" ∧ IsLine (ascii "Host" ++ 58 :: ascii " printer") := by decide +kernel

theorem hello_length : 58 ∉ ascii "content-length" ∧ IsLine (ascii "content-length" ++ 58 :: ascii " 56") := by
  decide +kernel

/-- A Print-Job of two bytes. -/
def hello : Message where
  head :=
    { requestLine := ascii "POST /ipp/print HTTP/1.1"
      fields := [⟨ascii "Host", ascii " printer", hello_host.1, hello_host.2⟩,
        ⟨ascii "content-length", ascii " 56", hello_length.1, hello_length.2⟩]
      isLine := isLine_post }
  version := ⟨2, 0⟩
  op := 0x0002
  requestId := 1
  attributes := [⟨0x01, [⟨ascii "document-format", .simple 0x49 (ascii "application/octet-stream"), []⟩]⟩]
  document := ascii "hi"

theorem hello_wf : hello.attributes.Wf := by
  intro g hg
  obtain rfl := List.mem_singleton.1 hg
  refine ⟨by decide, by decide, ?_⟩
  intro a ha
  obtain rfl := List.mem_singleton.1 ha
  refine ⟨by decide, by decide, by decide, ?_⟩
  intro v hv
  obtain rfl := List.mem_singleton.1 hv
  exact ⟨by decide, by decide⟩

theorem hello_plain : Plain hello.attributes := by
  refine ⟨⟨?_, ?_⟩, by decide⟩
  · simp [hello, Attribute.values, Value.depth]
  · simp [hello]

/-- It arrives in two segments, cut inside the attributes, and more bytes follow it. -/
def helloClient : WiFiClient :=
  let bytes := hello.head.encode ++ (hello.body ++ ascii "GET")
  ⟨WiFiClient.unread (bytes.take 100) (WiFiClient.unread (bytes.drop 100) []), false⟩

theorem hello_sent : hello.Sent (.length hello.body) helloClient (ascii "GET") where
  requestLine_ne := by decide
  head_le := by decide +kernel
  transferEncoding := by
    unfold RequestHead.Clear
    decide +kernel
  contentLength := by
    unfold RequestHead.Clear
    decide +kernel
  announced := by
    refine ⟨by decide +kernel, by decide +kernel, by decide +kernel⟩
  short := trivial
  op_lt := by decide
  attributes := hello_wf
  plain := hello_plain
  data := rfl
  smooth := by
    unfold Smooth
    decide +kernel
  bytes := by decide +kernel

theorem parse_message_hello : ∃ body, parse helloClient = .request ⟨⟨2, 0⟩, 0x0002, 1, hello.attrs, body⟩ ∧
    (body.readBlocks [1, 1, 1]).1 = ascii "hi" ∧ (body.readBlocks [1, 1, 1]).2.client.bytes = ascii "GET" := by
  obtain ⟨body, hparse, hread⟩ := parse_message hello_sent
  obtain ⟨hdoc, _, hrest⟩ := hread [1, 1, 1] (by decide) (by decide)
  exact ⟨body, hparse, hdoc, hrest⟩

end Message
end PrintServer
