import PrintServer.ConfigServer
import PrintServer.IppMessage
import PrintServer.IppResponse
import PrintServer.PrinterResponse
/-!
# What a client reads (ipp_pcl3_service.cpp:308-323, 388-410)

| here | there |
| --- | --- |
| `sendHttpIpp`   | `sendHttpIpp` (:313): the bytes that are sent |
| `jobAttributes` | the attributes that `addJobAttributes` (:388) writes |

A response is laid out as a request is, with the status where the operation stands. So the decoders of
`Message` read it: `parse_sendHttpIpp`. What a client finds there of a job is a ticket for it, and
`ticket_iff` says that a ticket opens its own job and no other.
-/
namespace PrintServer

open Lib.Ipp

/-! ## Numbers in text -/

/-- Where the symbol stands only once, a text can be cut there in one way. -/
theorem split_unique {xs xs' ys ys' : Bytes} {d : UInt8} (hx : d ∉ xs' ∨ d ∉ ys) (hy : d ∉ ys')
    (h : xs ++ d :: ys = xs' ++ d :: ys') : xs = xs' ∧ ys = ys' := by
  rcases List.append_eq_append_iff.1 h with ⟨a, rfl, ha⟩ | ⟨a, rfl, ha⟩
  · match a with
    | [] => exact ⟨(List.append_nil xs).symm, (List.cons.inj ha).2⟩
    | x :: a =>
      obtain ⟨rfl, rfl⟩ := List.cons.inj ha
      rcases hx with hx | hx
      · exact absurd (List.mem_append_right xs List.mem_cons_self) hx
      · exact absurd (List.mem_append_right a List.mem_cons_self) hx
  · match a with
    | [] => exact ⟨List.append_nil xs', (List.cons.inj ha).2.symm⟩
    | x :: a =>
      obtain ⟨_, rfl⟩ := List.cons.inj ha
      exact absurd (List.mem_append_right a List.mem_cons_self) hy

theorem digit_of_mem {n : Nat} {b : UInt8} (hb : b ∈ Site.decimal n) : 48 ≤ b ∧ b ≤ 57 := by
  have hdigit := (decimal_decimal n).digit hb
  unfold Lib.Json.isDigit at hdigit
  rw [Bool.and_eq_true, decide_eq_true_iff, decide_eq_true_iff] at hdigit
  exact hdigit

theorem notMem_decimal {n : Nat} {b : UInt8} (h : ¬ (48 ≤ b ∧ b ≤ 57)) : b ∉ Site.decimal n :=
  fun hb => h (digit_of_mem hb)

theorem decimal_ne_nil (n : Nat) : Site.decimal n ≠ [] := by
  unfold Site.decimal ascii
  rw [ne_eq, List.map_eq_nil_iff]
  exact Nat.toList_repr ▸ Nat.toDigits_ne_nil

/-- The value of a row of digits. -/
theorem foldl_decimal (n : Nat) : (Site.decimal n).foldl (fun n b => n * 10 + (b.toNat - 48)) 0 = n := by
  have hlist : (toString n).toList = Nat.toDigits 10 n := Nat.toList_repr
  unfold Site.decimal ascii
  rw [hlist, List.foldl_map]
  have hvalue := Nat.ofDigitChars_ten_toDigits (n := n)
  rw [Nat.ofDigitChars_eq_foldl] at hvalue
  refine (List.foldl_ext _ _ 0 fun a c hc => ?_).trans hvalue
  have hdigit := Nat.isDigit_of_mem_toDigits (by decide) (by decide) hc
  rw [Lib.Json.toNat_ofNat_digit hdigit, Nat.mul_comm]
  rfl

theorem decimal_injective {m n : Nat} (h : Site.decimal m = Site.decimal n) : m = n := by
  rw [← foldl_decimal m, ← foldl_decimal n, h]

theorem isHex_decimal {n : Nat} : ∀ b ∈ Site.decimal n, isHex b = true := by
  intro b hb
  have hdigit := digit_of_mem hb
  unfold isHex hexVal
  rw [if_pos hdigit]
  rfl

/-- `toInt` reads what `%u` writes. -/
theorem toInt_decimal {n : Nat} (hn : n < 2 ^ 31) : toInt (Site.decimal n) = n := by
  have hcstr : cstr (Site.decimal n) = Site.decimal n := cstr_text (notMem_decimal (by decide))
  have hdigits : (Site.decimal n).takeWhile isDigit = Site.decimal n := by
    refine List.takeWhile_eq_self_iff.2 fun b hb => ?_
    obtain ⟨h1, h2⟩ := digit_of_mem hb
    unfold isDigit
    rw [decide_eq_true h1, decide_eq_true h2]
    rfl
  have hvalue := foldl_decimal n
  obtain ⟨d, ds, hds⟩ := List.exists_cons_of_ne_nil (decimal_ne_nil n)
  have hd : 48 ≤ d ∧ d ≤ 57 := digit_of_mem (n := n) (hds ▸ List.mem_cons_self)
  have hspace : isSpace d = false := isHex_not_space (isHex_decimal (n := n) d (hds ▸ List.mem_cons_self))
  have hsign : ∀ c : UInt8, c < 48 → (some d == some c) = false := by
    intro c hc
    rw [beq_eq_false_iff_ne]
    rintro ⟨rfl⟩
    exact absurd hd.1 (UInt8.not_le.2 hc)
  unfold toInt
  rw [hcstr]
  rw [hds] at hdigits hvalue ⊢
  rw [List.dropWhile_cons_of_neg (by rw [hspace]; exact Bool.false_ne_true)]
  dsimp only
  rw [List.head?_cons, hsign 45 (by decide), hsign 43 (by decide), Bool.or_self, if_neg Bool.false_ne_true,
    if_neg Bool.false_ne_true, hdigits, hvalue]
  have hmin : min n (2 ^ 31 - 1) = n := by omega
  rw [hmin]

theorem trim_decimal (n : Nat) : trim (32 :: Site.decimal n) = Site.decimal n := by
  have hblank : ∀ b ∈ ([32] : Bytes), isBlank b = true := fun b hb => List.mem_singleton.1 hb ▸ rfl
  have h : trim (Site.decimal n ++ []) = Site.decimal n :=
    trim_hex_blanks isHex_decimal (decimal_ne_nil n) (fun _ hb => (by cases hb))
  rw [List.append_nil] at h
  exact (trim_blanks hblank).trans h

/-! ## The head -/

/-- `sendHttpIpp` (:313): what is sent. -/
def sendHttpIpp (w : IppWriter) (keepAlive : Bool) : Bytes :=
  ascii "HTTP/1.1 200 OK\r\nContent-Type: application/ipp\r\n" ++
    (if keepAlive then ascii "Connection: keep-alive\r\n" else ascii "Connection: close\r\n") ++
    (ascii "Content-Length: " ++ Site.decimal w.data.length ++ ascii "\r\n\r\n") ++ w.data

namespace HttpAnswer

def contentType : HeaderField := ⟨ascii "Content-Type", ascii " application/ipp", by decide +kernel, by decide +kernel⟩

def connection (keepAlive : Bool) : HeaderField :=
  if keepAlive then ⟨ascii "Connection", ascii " keep-alive", by decide +kernel, by decide +kernel⟩
  else ⟨ascii "Connection", ascii " close", by decide +kernel, by decide +kernel⟩

theorem isLine_length (n : Nat) : IsLine (ascii "Content-Length" ++ 58 :: 32 :: Site.decimal n) := by
  have hno : ∀ b : UInt8, b < 14 → b ∉ ascii "Content-Length" ++ 58 :: 32 :: Site.decimal n := by
    intro b hb hm
    have hname : ∀ c ∈ ascii "Content-Length", ¬ c < 14 := by decide +kernel
    rcases List.mem_append.1 hm with hm | hm
    · exact hname b hm hb
    · rcases List.mem_cons.1 hm with rfl | hm
      · exact absurd hb (by decide)
      · rcases List.mem_cons.1 hm with rfl | hm
        · exact absurd hb (by decide)
        · exact absurd (UInt8.lt_of_lt_of_le (by decide) (digit_of_mem hm).1) (UInt8.not_lt.2 (UInt8.le_of_lt hb))
  refine ⟨hno 0 (by decide), fun hi => hno 13 (by decide) (hi.subset (by decide))⟩

theorem noColon_length : 58 ∉ ascii "Content-Length" := by decide +kernel

def contentLength (n : Nat) : HeaderField := ⟨ascii "Content-Length", 32 :: Site.decimal n, noColon_length, isLine_length n⟩

/-- The head of a response with `n` bytes. -/
def head (keepAlive : Bool) (n : Nat) : RequestHead where
  requestLine := ascii "HTTP/1.1 200 OK"
  fields := [contentType, connection keepAlive, contentLength n]
  isLine := by decide +kernel

theorem sendHttpIpp_eq (w : IppWriter) (keepAlive : Bool) :
    sendHttpIpp w keepAlive = (head keepAlive w.data.length).encode ++ w.data := by
  have h1 : ascii "HTTP/1.1 200 OK\r\nContent-Type: application/ipp\r\n" =
      ascii "HTTP/1.1 200 OK" ++ crlf ++ (contentType.line ++ crlf) := by decide +kernel
  have h2 : (if keepAlive then ascii "Connection: keep-alive\r\n" else ascii "Connection: close\r\n") =
      (connection keepAlive).line ++ crlf := by
    cases keepAlive <;> decide +kernel
  have h3 : ascii "Content-Length: " = ascii "Content-Length" ++ [58, 32] := by decide +kernel
  have h4 : ascii "\r\n\r\n" = crlf ++ crlf := by decide +kernel
  unfold sendHttpIpp
  rw [h1, h2, h3, h4]
  simp only [RequestHead.encode, RequestHead.lines, head, contentLength, HeaderField.line, List.map_cons, List.map_nil,
    List.flatten_cons, List.flatten_nil, List.append_assoc, List.cons_append, List.nil_append, List.append_nil]

theorem colon_notMem_lower {s : Bytes} (h : 58 ∉ s) : 58 ∉ s.map toLower := by
  intro hm
  obtain ⟨b, hb, he⟩ := List.mem_map.1 hm
  exact h (toLower_colon he ▸ hb)

/-- A field whose text has no colon is not mistaken for one with another name. -/
theorem not_holds {name : String} {f : HeaderField} (hs : Searchable name) (ht : 58 ∉ f.text)
    (hn : ¬ (ascii name).map toLower <:+ f.name.map toLower) : ¬ Holds name f.line := by
  intro hh
  obtain ⟨i, hi⟩ := Option.isSome_iff_exists.1 hh
  obtain ⟨t, ht'⟩ := (strstr_some hi).2
  have hkey : headerKey name = (ascii name).map toLower ++ [58] := by
    unfold headerKey
    rw [toLowerCase_text hs.1]
  have hline : f.line.map toLower = f.name.map toLower ++ 58 :: f.text.map toLower := by
    rw [HeaderField.line, List.map_append, List.map_cons]
    rfl
  have hsplit : ((f.line.map toLower).take i ++ (ascii name).map toLower) ++ 58 :: t =
      f.name.map toLower ++ 58 :: f.text.map toLower := by
    rw [← hline]
    refine Eq.trans ?_ (List.take_append_drop i _)
    rw [← ht', hkey]
    simp only [List.append_assoc, List.singleton_append]
  obtain ⟨hname, -⟩ := split_unique (.inl (colon_notMem_lower f.noColon)) (colon_notMem_lower ht) hsplit
  exact hn ⟨_, hname⟩

theorem colon_notMem_text {keepAlive : Bool} {n : Nat} : ∀ f ∈ (head keepAlive n).fields, 58 ∉ f.text := by
  intro f hf
  have hfields : f = contentType ∨ f = connection keepAlive ∨ f = contentLength n := by
    simpa only [head, List.mem_cons, List.not_mem_nil, or_false] using hf
  rcases hfields with rfl | rfl | rfl
  · decide +kernel
  · cases keepAlive <;> decide +kernel
  · intro hm
    rcases List.mem_cons.1 hm with h | h
    · exact absurd h (by decide)
    · exact notMem_decimal (by decide) h

/-- The three names, in the head's order. -/
theorem names_eq (keepAlive : Bool) (n : Nat) :
    (head keepAlive n).fields.map (·.name) = [ascii "Content-Type", ascii "Connection", ascii "Content-Length"] := by
  cases keepAlive <;> rfl

/-- Each lookup of the server finds the field that it asks for. -/
theorem clear_head (keepAlive : Bool) (n : Nat) : ∀ name ∈ askedNames, (head keepAlive n).Clear name := by
  intro name hn
  have hs := searchable_asked name hn
  have hline : ∀ name ∈ askedNames, ¬ Holds name (head keepAlive n).requestLine :=
    have hall : ∀ name ∈ askedNames, ¬ Holds name (ascii "HTTP/1.1 200 OK") := by decide +kernel
    hall
  have hnames : ∀ name ∈ askedNames, ∀ x ∈ [ascii "Content-Type", ascii "Connection", ascii "Content-Length"],
      (ascii name).map toLower <:+ x.map toLower → x.map toLower = (ascii name).map toLower := by decide +kernel
  refine ⟨hline name hn, fun f hf => ?_⟩
  have hfound := Option.mem_def.1 hf
  have hmem := List.mem_of_find?_eq_some hfound
  have hfind := List.find?_some hfound
  have hholds : Holds name f.line := of_decide_eq_true hfind
  by_contra hno
  refine not_holds hs (colon_notMem_text f hmem) (fun hsuf => hno ?_) hholds
  refine hnames name hn f.name ?_ hsuf
  rw [← names_eq keepAlive n]
  exact List.mem_map_of_mem hmem

theorem requestLine_ne (keepAlive : Bool) (n : Nat) : (head keepAlive n).requestLine ≠ [] := by
  show ascii "HTTP/1.1 200 OK" ≠ []
  decide

theorem length_encode_le (keepAlive : Bool) {n : Nat} (hn : n ≤ ippResponseMax) :
    (head keepAlive n).encode.length ≤ httpHeaderLimit := by
  have hdecimal := length_decimal_le (n := n) (k := 5) (by decide) (Nat.lt_of_le_of_lt hn (by decide))
  have hconst : (ascii "HTTP/1.1 200 OK" ++ crlf ++ (contentType.line ++ crlf) ++ ((connection keepAlive).line ++ crlf) ++
      ascii "Content-Length: " ++ crlf ++ crlf).length ≤ 112 := by
    cases keepAlive <;> decide +kernel
  have hlength : (ascii "Content-Length: ").length = (ascii "Content-Length").length + 2 := by decide +kernel
  have hlimit : httpHeaderLimit = 4096 := rfl
  simp only [List.length_append, hlength] at hconst
  simp only [RequestHead.encode, RequestHead.lines, head, contentLength, HeaderField.line, List.map_cons, List.map_nil,
    List.flatten_cons, List.flatten_nil, List.length_append, List.length_cons, List.length_nil] at hconst ⊢
  omega

theorem announces_length (keepAlive : Bool) {body : Bytes} (hn : body.length ≤ ippResponseMax) :
    (head keepAlive body.length).Announces (.length body) := by
  have hte : (head keepAlive body.length).field "Transfer-Encoding" = [] := by
    have hnone : (head keepAlive body.length).fields.find? (fun f => f.Named "Transfer-Encoding") = none := by
      cases keepAlive <;> rfl
    unfold RequestHead.field
    rw [hnone]
    rfl
  have hcl : (head keepAlive body.length).field "Content-Length" = Site.decimal body.length := by
    have hsome : (head keepAlive body.length).fields.find? (fun f => f.Named "Content-Length") =
        some (contentLength body.length) := by
      cases keepAlive <;> rfl
    unfold RequestHead.field
    rw [hsome]
    exact trim_decimal body.length
  refine ⟨?_, ?_, ?_⟩
  · rw [hte]
    decide +kernel
  · rw [hcl]
    exact decimal_ne_nil _
  · rw [hcl]
    exact toInt_decimal (Nat.lt_of_le_of_lt hn (by decide))

end HttpAnswer

/-! ## The attributes of a job -/

/-- `job-uri` (:392). -/
def jobUri (site : Site) (jobId : UInt32) : Bytes := site.ippBaseUri ++ ascii "/job/" ++ Site.decimal jobId.toNat

/-- The attributes that `addJobAttributes` (:388) writes, each with its tag and value. -/
def jobValues (site : Site) (j : JobReport) : List (String × UInt8 × Bytes) :=
  List.flatten
    [[("job-id", 0x21, Written.be4 j.jobId.toNat), ("job-uri", 0x45, jobUri site j.jobId),
      ("job-printer-uri", 0x45, site.ippBaseUri), ("job-state", 0x23, Written.be4 j.jobState.code),
      ("job-state-reasons", 0x44, ascii (if j.reason ≠ "" then j.reason else "none"))],
     if j.jobName ≠ [] then [("job-name", 0x42, cstr j.jobName)] else [],
     [("job-printer-up-time", 0x21, Written.be4 j.upTime)],
     if j.processingUp ≠ 0 then [("time-at-processing", 0x21, Written.be4 j.processingUp)] else [],
     if j.completedUp ≠ 0 then [("time-at-completed", 0x21, Written.be4 j.completedUp)] else []]

def jobAttribute (x : String × UInt8 × Bytes) : Attribute := ⟨ascii x.1, .simple x.2.1 x.2.2, []⟩

def jobAttributes (site : Site) (j : JobReport) : List Attribute := (jobValues site j).map jobAttribute

theorem zero_notMem_ippBaseUri (site : Site) : 0 ∉ site.ippBaseUri := by
  have hdecimal : ∀ n, 0 ∉ Site.decimal n := fun n => notMem_decimal (by decide)
  have hdot : 0 ∉ ascii "." := by decide
  have hlocal : 0 ∉ ascii "printer.local" := by decide
  have hscheme : 0 ∉ ascii "ipp://" := by decide
  have hpath : 0 ∉ ascii ":631/ipp/print" := by decide
  have hhost : 0 ∉ site.host := by
    unfold Site.host
    cases site.ip with
    | none => exact hlocal
    | some ip => simp only [List.mem_append, hdecimal, hdot, or_self, not_false_eq_true]
  unfold Site.ippBaseUri
  simp only [List.mem_append, hscheme, hhost, hpath, or_self, not_false_eq_true]

theorem zero_notMem_jobUri (site : Site) (jobId : UInt32) : 0 ∉ jobUri site jobId := by
  have hpath : 0 ∉ ascii "/job/" := by decide
  unfold jobUri
  rw [List.mem_append, List.mem_append]
  rintro ((h | h) | h)
  · exact zero_notMem_ippBaseUri site h
  · exact hpath h
  · exact notMem_decimal (by decide) h

/-- The six reasons, and none, are texts. -/
theorem zero_notMem_reason {reason : String} (h : reason = "" ∨ reason ∈ IppPcl3Service.reasons) :
    0 ∉ ascii (if reason ≠ "" then reason else "none") := by
  have hall : ∀ t ∈ "none" :: IppPcl3Service.reasons, 0 ∉ ascii t := by decide
  apply hall
  rcases h with rfl | h
  · exact List.mem_cons_self
  · split
    · exact List.mem_cons_of_mem _ h
    · exact List.mem_cons_self

theorem addJobAttributes_eq (site : Site) {j : JobReport} (h : j.Short) :
    addJobAttributes site j = .b 0x02 :: (jobValues site j).map fun x => .attr x.2.1 (ascii x.1) x.2.2 := by
  have huri : cstr (jobUri site j.jobId) = jobUri site j.jobId := cstr_text (zero_notMem_jobUri _ _)
  have hbase : cstr site.ippBaseUri = site.ippBaseUri := cstr_text (zero_notMem_ippBaseUri _)
  have hreason := cstr_text (zero_notMem_reason h.reason)
  have hjob : site.ippBaseUri ++ ascii "/job/" ++ Site.decimal j.jobId.toNat = jobUri site j.jobId := rfl
  unfold addJobAttributes jobValues
  dsimp only
  rw [hjob]
  unfold WriterOp.str WriterOp.integer
  rw [huri, hbase, hreason]
  generalize ascii (if j.reason ≠ "" then j.reason else "none") = reason
  split <;> split <;> split <;> rfl

/-- An attribute that is written as it is. -/
structure FitsAttribute (x : String × UInt8 × Bytes) : Prop where
  name_ne : ascii x.1 ≠ []
  name_text : 0 ∉ ascii x.1
  name_length : (ascii x.1).length < 2 ^ 16
  tag : IsValueTag x.2.1
  value : x.2.2.length < 2 ^ 16

theorem octets_eq {s : Bytes} (h : s.length < 2 ^ 16) : octets s = s := by
  unfold octets
  rw [Nat.mod_eq_of_lt h, List.take_length]

theorem FitsAttribute.encode {x : String × UInt8 × Bytes} (h : FitsAttribute x) :
    (WriterOp.attr x.2.1 (ascii x.1) x.2.2).encode = (jobAttribute x).items.flatMap Item.encode := by
  rw [WriterOp.encode, cstr_text h.name_text, octets_eq h.name_length, octets_eq h.value]
  exact (List.append_nil _).symm

theorem FitsAttribute.wf {x : String × UInt8 × Bytes} (h : FitsAttribute x) : (jobAttribute x).Wf := by
  refine ⟨h.name_ne, h.name_text, h.name_length, ?_⟩
  intro v hv
  obtain rfl := List.mem_singleton.1 hv
  exact ⟨h.tag, h.value⟩

/-- The names, with their tags, that an answer can show. -/
def jobNames : List (String × UInt8) :=
  [("job-id", 0x21), ("job-uri", 0x45), ("job-printer-uri", 0x45), ("job-state", 0x23), ("job-state-reasons", 0x44),
    ("job-name", 0x42), ("job-printer-up-time", 0x21), ("time-at-processing", 0x21), ("time-at-completed", 0x21)]

theorem mem_jobValues {site : Site} {j : JobReport} (h : j.Short) {x : String × UInt8 × Bytes} (hx : x ∈ jobValues site j) :
    (x.1, x.2.1) ∈ jobNames ∧ x.2.2.length < 2 ^ 16 := by
  have hbase := length_ippBaseUri_le site
  have hdecimal := length_decimal_le (n := j.jobId.toNat) (k := 10) (by decide) (Nat.lt_trans j.jobId.toNat_lt (by decide))
  have hpath : (ascii "/job/").length = 5 := by decide
  have huri : (jobUri site j.jobId).length < 2 ^ 16 := by
    unfold jobUri
    rw [List.length_append, List.length_append]
    omega
  have hreason := length_reason_le h.reason
  have hname := length_cstr_le j.jobName
  have hshort := h.jobName
  have hbe4 : ∀ v, (Written.be4 v).length < 2 ^ 16 := fun _ => (by decide : 4 < 2 ^ 16)
  unfold jobValues at hx
  generalize ascii (if j.reason ≠ "" then j.reason else "none") = reason at hx hreason
  obtain ⟨l, hl, hx⟩ := List.mem_flatten.1 hx
  simp only [List.mem_cons, List.not_mem_nil, or_false] at hl
  rcases hl with rfl | rfl | rfl | rfl | rfl
  · simp only [List.mem_cons, List.not_mem_nil, or_false] at hx
    rcases hx with rfl | rfl | rfl | rfl | rfl
    · exact ⟨by dsimp only; decide, hbe4 _⟩
    · exact ⟨by dsimp only; decide, huri⟩
    · exact ⟨by dsimp only; decide, by dsimp only; omega⟩
    · exact ⟨by dsimp only; decide, hbe4 _⟩
    · exact ⟨by dsimp only; decide, by dsimp only; omega⟩
  · split at hx
    · obtain rfl := List.mem_singleton.1 hx
      exact ⟨by dsimp only; decide, by dsimp only; omega⟩
    · cases hx
  · obtain rfl := List.mem_singleton.1 hx
    exact ⟨by dsimp only; decide, hbe4 _⟩
  · split at hx
    · obtain rfl := List.mem_singleton.1 hx
      exact ⟨by dsimp only; decide, hbe4 _⟩
    · cases hx
  · split at hx
    · obtain rfl := List.mem_singleton.1 hx
      exact ⟨by dsimp only; decide, hbe4 _⟩
    · cases hx

theorem fits_jobValues (site : Site) {j : JobReport} (h : j.Short) : ∀ x ∈ jobValues site j, FitsAttribute x := by
  have hall : ∀ y ∈ jobNames, ascii y.1 ≠ [] ∧ 0 ∉ ascii y.1 ∧ (ascii y.1).length < 2 ^ 16 ∧ IsValueTag y.2 := by
    decide +kernel
  intro x hx
  obtain ⟨hmem, hvalue⟩ := mem_jobValues h hx
  obtain ⟨h1, h2, h3, h4⟩ := hall _ hmem
  exact ⟨h1, h2, h3, h4, hvalue⟩

/-- The calls write the group of the job. -/
theorem addJobAttributes_encode (site : Site) {j : JobReport} (h : j.Short) :
    (addJobAttributes site j).flatMap WriterOp.encode =
      (Lib.Ipp.Group.items ⟨0x02, jobAttributes site j⟩).flatMap Item.encode := by
  have hfits := fits_jobValues site h
  rw [addJobAttributes_eq site h, List.flatMap_cons, Lib.Ipp.Group.items, List.flatMap_cons]
  have hrest : ((jobValues site j).map fun x => WriterOp.attr x.2.1 (ascii x.1) x.2.2).flatMap WriterOp.encode =
      ((jobAttributes site j).flatMap Attribute.items).flatMap Item.encode := by
    unfold jobAttributes
    rw [List.flatMap_map, List.flatMap_assoc, List.flatMap_map]
    exact List.flatMap_congr fun x hx => (hfits x hx).encode
  rw [hrest]
  rfl


/-! ## The response as a message -/

/-- The status of an answer, and the job that it shows (:408). -/
def Answered.shown : Answered → Option (Nat × Option JobReport)
  | .simple status => some (status, none)
  | .job status j => some (status, if status = 0x0000 ∧ j.jobId ≠ 0 then some j else none)
  | .printer .. => none

def answerSection (site : Site) (j : Option JobReport) : Section :=
  ⟨0x01, operationAttributes⟩ :: j.toList.map fun j => ⟨0x02, jobAttributes site j⟩

/-- The response as a message, with the status for the operation. -/
def answerMessage (site : Site) (keepAlive : Bool) (version : IppVersion) (status : Nat) (requestId : UInt32)
    (j : Option JobReport) : Message where
  head := HttpAnswer.head keepAlive (8 + (answerSection site j).encode.length)
  version := ⟨if version.major = 0 then 2 else version.major, if version.major = 0 then 0 else version.minor⟩
  op := status
  requestId
  attributes := answerSection site j
  document := []

theorem jobAttributes_wf {site : Site} {j : JobReport} (h : j.Short) : ∀ a ∈ jobAttributes site j, a.Wf := by
  intro a ha
  obtain ⟨x, hx, rfl⟩ := List.mem_map.1 ha
  exact (fits_jobValues site h x hx).wf

theorem answerSection_wf {site : Site} {j : Option JobReport} (h : ∀ r ∈ j, r.Short) : (answerSection site j).Wf := by
  have htag : (0x02 : UInt8) ≤ 0x0F ∧ (0x02 : UInt8) ≠ 0x03 := by decide
  intro g hg
  rcases List.mem_cons.1 hg with rfl | hg
  · exact ⟨by decide, by decide, operationAttributes_wf⟩
  · obtain ⟨r, hr, rfl⟩ := List.mem_map.1 hg
    exact ⟨htag.1, htag.2, jobAttributes_wf (h r (Option.mem_toList.1 hr))⟩

theorem answerSection_encode (site : Site) (j : Option JobReport) : (answerSection site j).encode =
    (Item.delimiter 0x01 :: operationItems).flatMap Item.encode ++
      ((j.toList.flatMap fun j => (Lib.Ipp.Group.items ⟨0x02, jobAttributes site j⟩).flatMap Item.encode) ++ [0x03]) := by
  have hop : (Item.delimiter 0x01 :: operationItems) = Lib.Ipp.Group.items ⟨0x01, operationAttributes⟩ := rfl
  unfold Section.encode Section.items answerSection
  rw [List.flatMap_append, List.flatMap_cons, List.flatMap_append, hop, List.append_assoc, List.flatMap_assoc, List.flatMap_map]
  rfl

/-- What is written, up to the end tag. -/
theorem wrote_answer (site : Site) (version : IppVersion) (requestId : UInt32) {status : Nat} {answered : Answered}
    {j : Option JobReport} (hshown : answered.shown = some (status, j)) (h : ∀ r ∈ j, r.Short) :
    IppWriter.Wrote {} (Reply.writer site ⟨version, requestId, answered⟩)
      (responseHead version status requestId ++ (answerSection site j).encode) := by
  have hbegin := wrote_beginResponse {} version status requestId
  have hnone : IppWriter.Wrote {} ((beginResponse {} version status requestId).b 0x03)
      (responseHead version status requestId ++ (answerSection site none).encode) := by
    rw [answerSection_encode, ← List.append_assoc]
    exact hbegin.trans (IppWriter.wrote_b _ 0x03)
  cases answered with
  | simple status' =>
    obtain ⟨rfl, rfl⟩ := Prod.mk.inj (Option.some.inj hshown)
    exact hnone
  | job status' r =>
    obtain ⟨rfl, rfl⟩ := Prod.mk.inj (Option.some.inj hshown)
    unfold Reply.writer sendJobResponse
    dsimp only
    by_cases hshow : status' = 0x0000 ∧ r.jobId ≠ 0
    · rw [if_pos hshow] at h
      rw [if_pos hshow, if_pos hshow, answerSection_encode, ← List.append_assoc]
      have hcalls := hbegin.trans (IppWriter.wrote_calls _ (addJobAttributes site r))
      rw [addJobAttributes_encode site (h r rfl)] at hcalls
      have hend := hcalls.trans (IppWriter.wrote_b _ 0x03)
      simp only [Option.toList_some, List.flatMap_cons, List.flatMap_nil, List.append_nil] at hend ⊢
      rw [← List.append_assoc]
      exact hend
    · rw [if_neg hshow, if_neg hshow]
      exact hnone
  | printer attrs snap => cases hshown

theorem bounded_beginResponse (version : IppVersion) (status : Nat) (requestId : UInt32) :
    (beginResponse {} version status requestId).Bounded := by
  have hempty : ({} : IppWriter).Bounded := Nat.zero_le _
  have hitems : ∀ (is : List Item) (w : IppWriter), w.Bounded → (w.items is).Bounded := by
    intro is
    induction is with
    | nil => exact fun _ h => h
    | cons i is ih =>
      intro w h
      refine ih (w.item i) ?_
      cases i with
      | delimiter tag => exact h.b tag
      | value tag name bytes => exact h.attr tag name bytes
  exact hitems operationItems _ (((((hempty.b _).b _).u16 status).u32 requestId).b 0x01)

theorem bounded_answer (site : Site) (version : IppVersion) (requestId : UInt32) {answered : Answered}
    {shown : Nat × Option JobReport} (hshown : answered.shown = some shown) :
    (Reply.writer site ⟨version, requestId, answered⟩).Bounded := by
  have hbegin := bounded_beginResponse version
  cases answered with
  | simple status => exact (hbegin status requestId).b 0x03
  | job status r =>
    unfold Reply.writer sendJobResponse
    dsimp only
    split
    · exact ((hbegin status requestId).calls _).b 0x03
    · exact (hbegin status requestId).b 0x03
  | printer attrs snap => cases hshown

theorem ok_answer {site : Site} {version : IppVersion} {requestId : UInt32} {answered : Answered} {status : Nat}
    {j : Option JobReport} (hshown : answered.shown = some (status, j)) (h : ∀ r ∈ j, r.Short) :
    (Reply.writer site ⟨version, requestId, answered⟩).ok = true := by
  cases answered with
  | simple status' => exact ok_simpleResponse version status' requestId
  | job status' r =>
    obtain ⟨rfl, rfl⟩ := Prod.mk.inj (Option.some.inj hshown)
    by_cases hshow : status' = 0x0000 ∧ r.jobId ≠ 0
    · rw [if_pos hshow] at h
      exact ok_sendJobResponse version status' requestId site (h r rfl)
    · unfold Reply.writer sendJobResponse
      dsimp only
      rw [if_neg hshow]
      exact ok_simpleResponse version status' requestId
  | printer attrs snap => cases hshown

/-- **The bytes of an answer are its message.** -/
theorem answer_data (site : Site) (version : IppVersion) (requestId : UInt32) {answered : Answered} {status : Nat}
    {j : Option JobReport} (hshown : answered.shown = some (status, j)) (h : ∀ r ∈ j, r.Short) (keepAlive : Bool) :
    (Reply.writer site ⟨version, requestId, answered⟩).data =
        (answerMessage site keepAlive version status requestId j).body ∧
      (answerMessage site keepAlive version status requestId j).body.length ≤ ippResponseMax := by
  have hwrote := wrote_answer site version requestId hshown h
  have hdata := (hwrote.kept (ok_answer hshown h)).2
  have hbody : (answerMessage site keepAlive version status requestId j).body =
      responseHead version status requestId ++ (answerSection site j).encode := by
    unfold Message.body answerMessage
    dsimp only
    rw [List.append_nil]
    rfl
  have hcap := bounded_answer site version requestId hshown
  unfold IppWriter.Bounded at hcap
  rw [hwrote.cap] at hcap
  rw [hbody, ← List.nil_append (responseHead version status requestId ++ _)]
  exact ⟨hdata, hdata ▸ hcap⟩

theorem answerMessage_length (site : Site) (keepAlive : Bool) (version : IppVersion) (status : Nat) (requestId : UInt32)
    (j : Option JobReport) : (answerMessage site keepAlive version status requestId j).body.length =
      8 + (answerSection site j).encode.length := by
  unfold Message.body Message.header answerMessage
  simp only [List.length_append, List.length_cons, List.length_nil, length_u16, Message.be32Bytes]
  omega

theorem sendHttpIpp_message {site : Site} {version : IppVersion} {requestId : UInt32} {answered : Answered} {status : Nat}
    {j : Option JobReport} (hshown : answered.shown = some (status, j)) (h : ∀ r ∈ j, r.Short) (keepAlive : Bool) :
    sendHttpIpp (Reply.writer site ⟨version, requestId, answered⟩) keepAlive =
      (answerMessage site keepAlive version status requestId j).head.encode ++
        (answerMessage site keepAlive version status requestId j).body := by
  obtain ⟨hdata, _⟩ := answer_data site version requestId hshown h keepAlive
  rw [HttpAnswer.sendHttpIpp_eq, hdata, answerMessage_length]
  rfl

/-! ## What the decoders make of it -/

theorem valuesOf_none {name : String} {fits : Nat → Bool} {vs : List (Bytes × Bytes)} (h : ascii name ∉ vs.map Prod.fst) :
    valuesOf name fits vs = [] := by
  unfold valuesOf
  rw [List.map_eq_nil_iff, List.filter_eq_nil_iff]
  intro v hv hno
  rw [Bool.and_eq_true, beq_iff_eq] at hno
  exact h (hno.1 ▸ List.mem_map_of_mem hv)

/-- An attribute that is there once, and has a fitting length. -/
theorem valuesOf_once {name : String} {fits : Nat → Bool} : ∀ {vs : List (Bytes × Bytes)} {v : Bytes},
    (ascii name, v) ∈ vs → (vs.map Prod.fst).Nodup → fits v.length = true → valuesOf name fits vs = [v]
  | x :: vs, v, hv, hd, hf => by
    rw [List.map_cons, List.nodup_cons] at hd
    have hcons : valuesOf name fits (x :: vs) =
        if x.1 = ascii name ∧ fits x.2.length = true then x.2 :: valuesOf name fits vs else valuesOf name fits vs := by
      unfold valuesOf
      rw [List.filter_cons]
      simp only [Bool.and_eq_true, beq_iff_eq]
      split <;> rfl
    rw [hcons]
    rcases List.mem_cons.1 hv with rfl | hv
    · rw [if_pos ⟨rfl, hf⟩, valuesOf_none hd.1]
    · rw [if_neg, valuesOf_once hv hd.2 hf]
      rintro ⟨hx, _⟩
      exact hd.1 (hx ▸ List.mem_map_of_mem hv)

theorem names_jobValues (site : Site) (j : JobReport) : ((jobValues site j).map fun x => (x.1, x.2.1)).Sublist jobNames := by
  unfold jobValues
  generalize ascii (if j.reason ≠ "" then j.reason else "none") = reason
  split <;> split <;> split <;>
    simp only [List.flatten_cons, List.flatten_nil, List.map_append, List.map_cons, List.map_nil] <;> decide

theorem given_answerSection (site : Site) (j : Option JobReport) : given (answerSection site j) =
    [(ascii "attributes-charset", ascii "utf-8"), (ascii "attributes-natural-language", ascii "en")] ++
      j.toList.flatMap fun j => (jobValues site j).map fun x => (ascii x.1, x.2.2) := by
  have hjob : ∀ xs : List (String × UInt8 × Bytes), ((xs.map jobAttribute).flatMap fun a => givenOf a.name a.values) =
      xs.map fun x => (ascii x.1, x.2.2) := by
    intro xs
    induction xs with
    | nil => rfl
    | cons x xs ih =>
      rw [List.map_cons, List.flatMap_cons, ih]
      rfl
  cases j with
  | none => rfl
  | some j =>
    rw [Option.toList_some, List.flatMap_singleton, ← hjob]
    exact congrArg ([(ascii "attributes-charset", ascii "utf-8"), (ascii "attributes-natural-language", ascii "en")] ++ ·)
      (List.append_nil _)

/-- What the decoder keeps of a job. -/
def ticket (site : Site) (j : JobReport) : RequestAttrs :=
  { jobId := some j.jobId, jobUri := some (jobUri site j.jobId), jobName := cstr j.jobName }

theorem be32_be4 (v : UInt32) : be32 (Written.be4 v.toNat) = v := by
  apply UInt32.toNat_inj.1
  have hlt := v.toNat_lt
  have hmod : ((v.toNat : Int) % 2 ^ 32).toNat = v.toNat := by omega
  simp only [be32, Written.be4, hmod, UInt32.toNat_ofNat', UInt8.toNat_ofNat']
  omega

/-- The names in a job's answer, in order. -/
def shownNames (site : Site) (j : JobReport) : List String :=
  "attributes-charset" :: "attributes-natural-language" :: (jobValues site j).map fun x => x.1

theorem given_names (site : Site) (j : JobReport) :
    (given (answerSection site (some j))).map Prod.fst = (shownNames site j).map ascii := by
  rw [given_answerSection, Option.toList_some, List.flatMap_singleton, List.map_append, List.map_map]
  have hmap : ((jobValues site j).map fun x => x.1).map ascii = (jobValues site j).map fun x => ascii x.1 := List.map_map
  unfold shownNames
  rw [List.map_cons (f := ascii), List.map_cons (f := ascii), hmap]
  rfl

theorem shownNames_sublist (site : Site) (j : JobReport) :
    (shownNames site j).Sublist ("attributes-charset" :: "attributes-natural-language" :: jobNames.map Prod.fst) := by
  have h := (names_jobValues site j).map Prod.fst
  rw [List.map_map] at h
  exact (h.cons_cons "attributes-natural-language").cons_cons "attributes-charset"

theorem nodup_given (site : Site) (j : JobReport) : ((given (answerSection site (some j))).map Prod.fst).Nodup := by
  have hall : ("attributes-charset" :: "attributes-natural-language" :: jobNames.map Prod.fst).Pairwise
      fun s t => ascii s ≠ ascii t := by decide +kernel
  rw [given_names]
  exact List.pairwise_map.2 (hall.sublist (shownNames_sublist site j))

theorem mem_given {site : Site} {j : JobReport} {name : String} (tag : UInt8) {value : Bytes}
    (h : (name, tag, value) ∈ jobValues site j) : (ascii name, value) ∈ given (answerSection site (some j)) := by
  rw [given_answerSection, Option.toList_some, List.flatMap_singleton]
  exact List.mem_append_right _ (List.mem_map_of_mem (f := fun x : String × UInt8 × Bytes => (ascii x.1, x.2.2)) h)

/-- The name is shown if there is one. -/
theorem jobName_iff (site : Site) (j : JobReport) :
    (("job-name", 0x42, cstr j.jobName) ∈ jobValues site j ↔ j.jobName ≠ []) ∧
      ("job-name" ∈ shownNames site j → j.jobName ≠ []) := by
  by_cases hn : j.jobName = []
  · have hno : "job-name" ∉ shownNames site j := by
      unfold shownNames jobValues
      rw [if_neg (not_not.2 hn)]
      split <;> split <;> simp
    refine ⟨⟨fun h => absurd ?_ hno, fun h => absurd hn h⟩, fun h => absurd h hno⟩
    exact List.mem_cons_of_mem _ (List.mem_cons_of_mem _ (List.mem_map_of_mem (f := fun x : String × UInt8 × Bytes => x.1) h))
  · refine ⟨⟨fun _ => hn, fun _ => ?_⟩, fun _ => hn⟩
    unfold jobValues
    rw [if_pos hn]
    exact List.mem_flatten.2 ⟨_, List.mem_cons_of_mem _ List.mem_cons_self, List.mem_singleton.2 rfl⟩

theorem length_jobUri_lt (site : Site) (jobId : UInt32) : (jobUri site jobId).length < 256 := by
  have hbase := length_ippBaseUri_le site
  have hdecimal := length_decimal_le (n := jobId.toNat) (k := 10) (by decide) (Nat.lt_trans jobId.toNat_lt (by decide))
  have hpath : (ascii "/job/").length = 5 := by decide
  unfold jobUri
  rw [List.length_append, List.length_append]
  omega

/-- **What the decoder of requests keeps of a job's answer is its ticket.** -/
theorem reference_ticket (site : Site) {j : JobReport} (h : j.Short) :
    RequestAttrs.reference (given (answerSection site (some j))) = ticket site j := by
  have hnodup := nodup_given site j
  have hid : valuesOf "job-id" (· == 4) (given (answerSection site (some j))) = [Written.be4 j.jobId.toNat] :=
    valuesOf_once (mem_given 0x21 (List.mem_flatten.2 ⟨_, List.mem_cons_self, List.mem_cons_self⟩)) hnodup rfl
  have huri : valuesOf "job-uri" (· < 256) (given (answerSection site (some j))) = [jobUri site j.jobId] :=
    valuesOf_once (mem_given 0x45
      (List.mem_flatten.2 ⟨_, List.mem_cons_self, List.mem_cons_of_mem _ List.mem_cons_self⟩)) hnodup
      (decide_eq_true (length_jobUri_lt site j.jobId))
  have hname : (valuesOf "job-name" (· < 128) (given (answerSection site (some j)))).getLast?.getD [] = cstr j.jobName := by
    by_cases hn : j.jobName = []
    · have hno : ascii "job-name" ∉ (given (answerSection site (some j))).map Prod.fst := by
        have hall : ∀ x ∈ "attributes-charset" :: "attributes-natural-language" :: jobNames.map Prod.fst,
            ascii x = ascii "job-name" → x = "job-name" := by decide +kernel
        intro hm
        rw [given_names] at hm
        obtain ⟨x, hx, he⟩ := List.mem_map.1 hm
        have hsame := hall x ((shownNames_sublist site j).subset hx) he
        exact (jobName_iff site j).2 (hsame ▸ hx) hn
      rw [valuesOf_none hno, hn]
      rfl
    · have hlen : (cstr j.jobName).length < 128 := Nat.lt_of_le_of_lt (length_cstr_le j.jobName) h.jobName
      rw [valuesOf_once (mem_given _ ((jobName_iff site j).1.2 hn)) hnodup (decide_eq_true hlen)]
      rfl
  have hnone : ∀ name ∈ ["document-format", "last-document", "requested-attributes"], ∀ fits,
      valuesOf name fits (given (answerSection site (some j))) = [] := by
    have hall : ∀ name ∈ ["document-format", "last-document", "requested-attributes"],
        ∀ x ∈ "attributes-charset" :: "attributes-natural-language" :: jobNames.map Prod.fst, ascii x ≠ ascii name := by
      decide +kernel
    intro name hn fits
    refine valuesOf_none fun hm => ?_
    rw [given_names] at hm
    obtain ⟨x, hx, he⟩ := List.mem_map.1 hm
    exact hall name hn x ((shownNames_sublist site j).subset hx) he
  unfold RequestAttrs.reference ticket
  rw [hid, huri, hname, hnone "document-format" (by decide), hnone "last-document" (by decide),
    hnone "requested-attributes" (by decide), List.getLast?_singleton, List.getLast?_singleton, Option.map_some, be32_be4]
  rfl

/-- All values of an answer are plain. -/
theorem plain_answer (site : Site) (j : Option JobReport) : Plain (answerSection site j) := by
  have hsimple : ∀ g ∈ answerSection site j, ∀ a ∈ g.attributes, ∃ tag bytes, a.value = .simple tag bytes ∧ a.more = [] := by
    intro g hg a ha
    rcases List.mem_cons.1 hg with rfl | hg
    · simp only [operationAttributes, List.mem_cons, List.not_mem_nil, or_false] at ha
      rcases ha with rfl | rfl <;> exact ⟨_, _, rfl, rfl⟩
    · obtain ⟨r, _, rfl⟩ := List.mem_map.1 hg
      obtain ⟨x, _, rfl⟩ := List.mem_map.1 ha
      exact ⟨_, _, rfl, rfl⟩
  refine ⟨⟨fun g hg a ha v hv => ?_, fun g hg a ha ms he => ?_⟩, fun v hv hn => ?_⟩
  · obtain ⟨tag, bytes, h1, h2⟩ := hsimple g hg a ha
    unfold Attribute.values at hv
    rw [h1, h2] at hv
    obtain rfl := List.mem_singleton.1 hv
    exact Nat.zero_le _
  · obtain ⟨tag, bytes, h1, _⟩ := hsimple g hg a ha
    rw [h1] at he
    cases he
  · have hall : ∀ x ∈ "attributes-charset" :: "attributes-natural-language" :: jobNames.map Prod.fst,
        ascii x ≠ ascii "document-format" := by decide +kernel
    exfalso
    have hv := List.mem_map_of_mem (f := Prod.fst) hv
    rw [hn] at hv
    cases j with
    | none =>
      have hnames : ∀ x ∈ ["attributes-charset", "attributes-natural-language"], ascii x ≠ ascii "document-format" := by
        decide +kernel
      obtain ⟨x, hx, he⟩ := List.mem_map.1
        (show ascii "document-format" ∈ ["attributes-charset", "attributes-natural-language"].map ascii from hv)
      exact hnames x hx he
    | some j =>
      rw [given_names] at hv
      obtain ⟨x, hx, he⟩ := List.mem_map.1 hv
      exact hall x ((shownNames_sublist site j).subset hx) he

/-- A message behind the head of a response arrives as it was sent. -/
theorem Message.sent_of_head {m : Message} {keepAlive : Bool} (hhead : m.head = HttpAnswer.head keepAlive m.body.length)
    (hle : m.body.length ≤ ippResponseMax) (hop : m.op < 2 ^ 16) (hw : m.attributes.Wf) (hp : Plain m.attributes)
    {c : WiFiClient} (hs : Smooth c) {rest : Bytes} (hb : c.bytes = m.head.encode ++ (m.body ++ rest)) :
    m.Sent (.length m.body) c rest := by
  have hline := HttpAnswer.requestLine_ne keepAlive m.body.length
  have hlimit := HttpAnswer.length_encode_le keepAlive hle
  have hclear := HttpAnswer.clear_head keepAlive m.body.length
  have hannounces := HttpAnswer.announces_length keepAlive hle
  rw [← hhead] at hline hlimit hclear hannounces
  exact ⟨hline, hlimit, hclear _ (by decide), hclear _ (by decide), hannounces, trivial, hop, hw, hp, rfl, hs, hb⟩

/-- An answer arrives as it was sent. -/
theorem answer_sent {site : Site} {version : IppVersion} {requestId : UInt32} {answered : Answered} {status : Nat}
    {j : Option JobReport} (hstatus : status < 2 ^ 16) (hshown : answered.shown = some (status, j)) (h : ∀ r ∈ j, r.Short)
    (keepAlive : Bool) {c : WiFiClient} (hs : Smooth c) {rest : Bytes}
    (hb : c.bytes = sendHttpIpp (Reply.writer site ⟨version, requestId, answered⟩) keepAlive ++ rest) :
    (answerMessage site keepAlive version status requestId j).Sent
      (.length (answerMessage site keepAlive version status requestId j).body) c rest := by
  obtain ⟨_, hle⟩ := answer_data site version requestId hshown h keepAlive
  have hhead : (answerMessage site keepAlive version status requestId j).head =
      HttpAnswer.head keepAlive (answerMessage site keepAlive version status requestId j).body.length := by
    rw [answerMessage_length]
    rfl
  rw [sendHttpIpp_message hshown h, List.append_assoc] at hb
  exact Message.sent_of_head hhead hle hstatus (answerSection_wf h) (plain_answer site j) hs hb

/-- What a client finds in an answer: the attributes of a job, or none. -/
def found (site : Site) : Option JobReport → RequestAttrs
  | some j => ticket site j
  | none => {}

/-- **What a client reads is what was answered.** -/
theorem parse_sendHttpIpp {site : Site} {version : IppVersion} {requestId : UInt32} {answered : Answered} {status : Nat}
    {j : Option JobReport} (hstatus : status < 2 ^ 16) (hshown : answered.shown = some (status, j)) (h : ∀ r ∈ j, r.Short)
    (keepAlive : Bool) {c : WiFiClient} (hs : Smooth c) {rest : Bytes}
    (hb : c.bytes = sendHttpIpp (Reply.writer site ⟨version, requestId, answered⟩) keepAlive ++ rest) :
    ∃ body, parse c = .request
        ⟨⟨if version.major = 0 then 2 else version.major, if version.major = 0 then 0 else version.minor⟩, status, requestId,
          found site j, body⟩ ∧
      (body.readBlocks [1]).1 = [] ∧ (body.readBlocks [1]).2.client.bytes = rest := by
  have hsent := answer_sent hstatus hshown h keepAlive hs hb
  obtain ⟨body, E, hparse, hc, hm, hrest, hfol⟩ := Message.parse_follow hsent
  have hattrs : (answerMessage site keepAlive version status requestId j).attrs = found site j := by
    cases j with
    | none => rfl
    | some j => exact reference_ticket site (h j rfl)
  rw [hattrs] at hparse
  obtain ⟨left, hl, hend, hd⟩ := BodyReader.readBlocks_follow hc hm [1] body [] (by decide) hfol
  obtain ⟨hread, rfl⟩ := List.append_eq_nil_iff.1 hl.symm
  have hdone : (body.readBlocks [1]).2.done = true := hd.resolve_right (by decide)
  exact ⟨body, hparse, hread, hrest ▸ (hend.exact hc hm hdone).2⟩

/-! ## Tickets -/

namespace IppPcl3Service

/-- A job-uri ends in `/job/` and the number of its job. -/
theorem uriOk_jobUri (s : IppPcl3Service) (site : Site) (jobId : UInt32) {attrs : RequestAttrs}
    (hu : attrs.jobUri = some (jobUri site jobId)) : s.uriOk attrs = true ↔ jobId = s.lastJobId := by
  have htext : ∀ n : UInt32, ascii s!"/job/{n.toNat}" = ascii "/job" ++ 47 :: Site.decimal n.toNat := by
    intro n
    have happ : (s!"/job/{n.toNat}").toList = "/job/".toList ++ (toString n.toNat).toList := String.toList_append
    unfold Site.decimal ascii
    rw [happ, List.map_append]
    rfl
  have hdigits : ∀ n, (47 : UInt8) ∉ Site.decimal n := fun n => notMem_decimal (by decide)
  have huri : jobUri site jobId = site.ippBaseUri ++ ascii "/job" ++ 47 :: Site.decimal jobId.toNat := by
    have hslash : ascii "/job/" = ascii "/job" ++ [47] := by decide
    unfold jobUri
    rw [hslash]
    simp only [List.append_assoc, List.singleton_append]
  have hne : jobUri site jobId ≠ [] := by
    rw [huri]
    exact fun h => absurd (List.append_eq_nil_iff.1 h).2 (List.cons_ne_nil _ _)
  have hcheck : s.uriOk attrs = (ascii s!"/job/{s.lastJobId.toNat}").isSuffixOf (jobUri site jobId) := by
    unfold uriOk
    rw [hu]
    cases hj : jobUri site jobId with
    | nil => exact absurd hj hne
    | cons b bs => rfl
  rw [hcheck, List.isSuffixOf_iff_suffix, htext, huri]
  constructor
  · rintro ⟨p, hp⟩
    rw [← List.append_assoc] at hp
    obtain ⟨_, hn⟩ := split_unique (.inr (hdigits _)) (hdigits _) hp
    exact UInt32.toNat_inj.1 (decimal_injective hn).symm
  · rintro rfl
    exact ⟨site.ippBaseUri, by rw [List.append_assoc]⟩

theorem otherJob_eq_false (s : IppPcl3Service) {jobId : UInt32} {attrs : RequestAttrs} (hi : attrs.jobId = some jobId) :
    s.otherJob attrs = false ↔ jobId = s.lastJobId := by
  unfold otherJob
  rw [hi]
  exact bne_eq_false_iff_eq

/-- The request names a job by what an answer said of it: its id, its uri, or both. -/
structure Presents (ticket attrs : RequestAttrs) : Prop where
  jobId : attrs.jobId = none ∨ attrs.jobId = ticket.jobId
  jobUri : attrs.jobUri = none ∨ attrs.jobUri = ticket.jobUri
  named : attrs.jobId ≠ none ∨ attrs.jobUri ≠ none

/-- **A ticket opens its own job and no other.** -/
theorem acceptsDocument_ticket {s : IppPcl3Service} {site : Site} {j : JobReport} {attrs : RequestAttrs}
    (hp : Presents (ticket site j) attrs) (hformat : formatOk attrs.documentFormat = true) :
    s.acceptsDocument attrs = true ↔ s.pendingJob = true ∧ s.lastJobId ≠ 0 ∧ j.jobId = s.lastJobId := by
  have hnone : attrs.jobId = none → s.otherJob attrs = false := by
    intro h
    unfold otherJob
    rw [h]
  have hnoUri : attrs.jobUri = none → s.uriOk attrs = true := by
    intro h
    unfold uriOk
    rw [h]
  unfold acceptsDocument
  simp only [Bool.and_eq_true, Bool.not_eq_true', bne_iff_ne, hformat, and_true]
  constructor
  · rintro ⟨⟨⟨h1, h2⟩, h3⟩, h4⟩
    refine ⟨h1, h2, ?_⟩
    rcases hp.named with h | h
    · exact (s.otherJob_eq_false (hp.jobId.resolve_left h)).1 h3
    · exact (s.uriOk_jobUri site j.jobId (hp.jobUri.resolve_left h)).1 h4
  · rintro ⟨h1, h2, h3⟩
    refine ⟨⟨⟨h1, h2⟩, ?_⟩, ?_⟩
    · exact hp.jobId.elim hnone fun h => (s.otherJob_eq_false h).2 h3
    · exact hp.jobUri.elim hnoUri fun h => (s.uriOk_jobUri site j.jobId h).2 h3

end IppPcl3Service

end PrintServer
