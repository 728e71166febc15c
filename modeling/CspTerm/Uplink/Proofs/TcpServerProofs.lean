import CspTerm.Uplink.Proofs.SendPacketProofs
import CspTerm.Uplink.TcpServer

/-!
# When MCS uplinks survive TCP segmentation

Each `recv` result longer than a header becomes one request, whose length is read from its sixth
byte. If the requests are those of the messages whatever the packet buffers held before, no request
is longer than its `recv` result, so the `recv` results that become requests are together at least
as long as the stream; hence there are no others, and each is exactly one message.
-/

namespace CspTerm.Uplink

open CString CspTerm.Csp

variable {τ : Type}

/-- A request, as `send_packet_execute` gets it. -/
abbrev Request : Type := McsPacketHeader × List UInt8

/-- The requests that come of one `recv` result, given what the packet buffer held before. -/
def chunkRequests (chunk : List UInt8) (stale : CspData) : List Request :=
  if chunk.length ≤ mcsHeaderSize then []
  else [(decodedHeader chunk, (stale.store (chunk.drop mcsHeaderSize)).val.take (headerByte chunk 5))]

theorem McsMessage.length_header (m : McsMessage) : m.header.length = mcsHeaderSize := by
  simp [McsMessage.header, m.head_length, mcsHeaderSize]

theorem McsMessage.length_bytes (m : McsMessage) : m.bytes.length = 6 + m.payload.length := by
  simp only [McsMessage.bytes, List.length_append, m.length_header, mcsHeaderSize]

theorem tcpServerMessage_stored (s : Station τ) {d : Delivery τ} {p : CspPacket} (h : d.Stored)
    (hb : d.buffer = some p) (hmax : d.msg.length ≤ msgBufferSize) :
    ∃ r, tcpServerMessage s d = .returned r ∧ r.requests = chunkRequests d.msg p.data := by
  obtain ⟨ho, hw, -⟩ := h
  unfold tcpServerMessage chunkRequests
  rw [if_pos ho, List.take_of_length_le hw, hb]
  by_cases h6 : d.msg.length ≤ mcsHeaderSize
  · rw [if_pos h6]
    refine ⟨{ ret := -1, consumed := false, station := s, events := [.cspBufferFree] }, ?_, rfl⟩
    simp only [sendPacket, processMcsFile, if_pos h6]
  · rw [if_neg h6]
    have hhd : (d.msg.take mcsHeaderSize).length = mcsHeaderSize := by
      rw [List.length_take]
      omega
    have hdata : (d.msg.drop mcsHeaderSize).length ≤ cspBufferSize := by
      rw [List.length_drop]
      show d.msg.length - mcsHeaderSize ≤ 1024
      have : d.msg.length ≤ 1024 := hmax
      omega
    have hne : d.msg.drop mcsHeaderSize ≠ [] := by
      intro hnil
      have := List.drop_eq_nil_iff.mp hnil
      omega
    have hfile := sendPacket_file d.env s p hhd hne hdata
    rw [List.take_append_drop] at hfile
    refine ⟨_, hfile, ?_⟩
    have hheader : decodedHeader (d.msg.take mcsHeaderSize) = decodedHeader d.msg := by
      rw [← decodedHeader_append (d.msg.drop mcsHeaderSize) hhd, List.take_append_drop]
    have h5 : headerByte (d.msg.take mcsHeaderSize) 5 = headerByte d.msg 5 := by
      rw [← headerByte_append (d.msg.drop mcsHeaderSize) (by rw [hhd]; decide),
        List.take_append_drop]
    rw [UplinkResult.release_requests, sendPacketExecute_requests, hheader]
    show [(_, (p.data.store (d.msg.drop mcsHeaderSize)).val.take _)] = _
    rw [h5]

/-- **The requests of a run** are those of its `recv` results, one after the other. -/
theorem tcpServerRun_stored (s : Station τ) {ds : List (Delivery τ)} (h : ∀ d ∈ ds, d.Stored)
    (hmax : ∀ d ∈ ds, d.msg.length ≤ msgBufferSize) (ps : List CspPacket)
    (hps : ds.map (·.buffer) = ps.map some) :
    ∃ s', tcpServerRun s ds =
      .returned ((List.zipWith chunkRequests (ds.map (·.msg)) (ps.map (·.data))).flatten, s') := by
  induction ds generalizing s ps with
  | nil => exact ⟨s, by simp [tcpServerRun]⟩
  | cons d ds ih =>
    obtain ⟨p, ps, rfl⟩ : ∃ p ps', ps = p :: ps' := by
      cases ps with
      | nil => simp at hps
      | cons p ps => exact ⟨p, ps, rfl⟩
    simp only [List.map_cons, List.cons.injEq] at hps
    obtain ⟨r, hr, hreq⟩ := tcpServerMessage_stored s (h d (by simp)) hps.1 (hmax d (by simp))
    obtain ⟨s', hs'⟩ := ih r.station (fun e he => h e (by simp [he]))
      (fun e he => hmax e (by simp [he])) ps hps.2
    refine ⟨s', ?_⟩
    simp only [tcpServerRun, hr, hs', hreq, List.map_cons, List.zipWith_cons_cons,
      List.flatten_cons]

/-! ## One message in one piece -/

theorem McsMessage.headerByte_five (m : McsMessage) :
    headerByte m.bytes 5 = m.payload.length % 256 := by
  have h5 : headerByte m.bytes 5 = headerByte m.header 5 :=
    headerByte_append m.payload (by rw [m.length_header]; decide)
  rw [h5]
  unfold headerByte McsMessage.header
  rw [List.getD_eq_getElem?_getD, List.getElem?_append_right (by rw [m.head_length]; decide),
    m.head_length]
  show m.payload.length % 256 % 2 ^ 8 = _
  omega

/-- A message of 1 to 255 payload bytes that arrives in one piece becomes its request. -/
theorem chunkRequests_bytes {m : McsMessage} (h1 : 1 ≤ m.payload.length)
    (h255 : m.payload.length ≤ 255) (stale : CspData) :
    chunkRequests m.bytes stale = [m.request] := by
  have hlen := m.length_bytes
  have hdrop : m.bytes.drop mcsHeaderSize = m.payload := by
    rw [← m.length_header]
    exact List.drop_left
  unfold chunkRequests McsMessage.request
  rw [if_neg (by rw [hlen]; unfold mcsHeaderSize; omega), hdrop, m.headerByte_five,
    Nat.mod_eq_of_lt (by omega),
    stale.take_store (Nat.le_refl _) (by show m.payload.length ≤ 1024; omega), List.take_length,
    header_decodeParameters, McsMessage.bytes, decodedHeader_append _ m.length_header]

theorem zipWith_chunkRequests_bytes {ms : List McsMessage}
    (h : ∀ m ∈ ms, 1 ≤ m.payload.length ∧ m.payload.length ≤ 255) {stales : List CspData}
    (hlen : stales.length = ms.length) :
    (List.zipWith chunkRequests (ms.map (·.bytes)) stales).flatten = ms.map (·.request) := by
  induction ms generalizing stales with
  | nil => rfl
  | cons m ms ih =>
    obtain ⟨b, bs, rfl⟩ : ∃ b bs, stales = b :: bs := by
      cases stales with
      | nil => simp at hlen
      | cons b bs => exact ⟨b, bs, rfl⟩
    obtain ⟨h1, h255⟩ := h m (by simp)
    have hlen' : bs.length = ms.length := by simpa using hlen
    simp only [List.map_cons, List.zipWith_cons_cons, List.flatten_cons,
      chunkRequests_bytes h1 h255, ih (fun m' hm' => h m' (by simp [hm'])) hlen']
    rfl

/-! ## What the requests force -/

def filled (b : UInt8) : CspData := ⟨List.replicate cspBufferSize b, List.length_replicate⟩

/-- A request that does not depend on what the packet buffer held is no longer than what arrived. -/
theorem le_of_take_store_eq {data : List UInt8} {n : Nat} (hn : n ≤ 255)
    (h : ((filled 0).store data).val.take n = ((filled 1).store data).val.take n) :
    n ≤ data.length := by
  by_contra hlt
  have hget : ∀ b, (((filled b).store data).val.take n)[data.length]? = some b := fun b => by
    have h1024 : data.length < 1024 := by omega
    show (((data ++ (List.replicate 1024 b).drop data.length).take 1024).take n)[data.length]? = _
    rw [List.getElem?_take_of_lt (by omega), List.getElem?_take_of_lt h1024,
      List.getElem?_append_right (Nat.le_refl _), Nat.sub_self, List.getElem?_drop,
      List.getElem?_replicate, if_pos (by omega)]
  have hcontra : some (0 : UInt8) = some 1 := by rw [← hget 0, ← hget 1, h]
  exact absurd hcontra (by decide)

/-- Chunks that are counted with at most their own length sum up to at most the stream. -/
theorem sum_counted_le {α : Type} {counted : List α → Bool} {f : List α → Nat}
    {chunks : List (List α)} (hf : ∀ c ∈ chunks, counted c = true → f c ≤ c.length) :
    ((chunks.filter counted).map f).sum ≤ chunks.flatten.length := by
  induction chunks with
  | nil => simp
  | cons c cs ih =>
    have hrest := ih fun c' hc' => hf c' (by simp [hc'])
    by_cases hc : counted c
    · have := hf c (by simp) hc
      simp only [List.filter_cons, hc, if_true, List.map_cons, List.sum_cons, List.flatten_cons,
        List.length_append]
      omega
    · simp only [List.filter_cons, hc, Bool.false_eq_true, if_false, List.flatten_cons,
        List.length_append]
      omega

/-- If they sum up to the stream, every chunk is counted, with its own length. -/
theorem all_counted {α : Type} {counted : List α → Bool} {f : List α → Nat}
    {chunks : List (List α)} (hf : ∀ c ∈ chunks, counted c = true → f c ≤ c.length)
    (hne : ∀ c ∈ chunks, c ≠ [])
    (hsum : chunks.flatten.length ≤ ((chunks.filter counted).map f).sum) :
    ∀ c ∈ chunks, counted c = true ∧ f c = c.length := by
  induction chunks with
  | nil => simp
  | cons c cs ih =>
    have hrest := sum_counted_le fun c' hc' => hf c' (List.mem_cons_of_mem c hc')
    have hpos := List.length_pos_iff.mpr (hne c (by simp))
    simp only [List.flatten_cons, List.length_append] at hsum
    by_cases hc : counted c
    · have hfc := hf c (by simp) hc
      simp only [List.filter_cons, hc, if_true, List.map_cons, List.sum_cons] at hsum
      have htail := ih (fun c' hc' => hf c' (by simp [hc'])) (fun c' hc' => hne c' (by simp [hc']))
        (by omega)
      intro c' hc'
      rcases List.mem_cons.mp hc' with rfl | hc'
      · exact ⟨hc, by omega⟩
      · exact htail c' hc'
    · simp only [List.filter_cons, hc, Bool.false_eq_true, if_false] at hsum
      omega

/-- The chunk is long enough to become a request. -/
def isLong (chunk : List UInt8) : Bool := mcsHeaderSize < chunk.length

/-- With the same buffer contents everywhere, the requests come of the long chunks. -/
theorem flatMap_chunkRequests (chunks : List (List UInt8)) (stale : CspData) :
    chunks.flatMap (chunkRequests · stale) = (chunks.filter isLong).map fun c =>
      (decodedHeader c, (stale.store (c.drop mcsHeaderSize)).val.take (headerByte c 5)) := by
  induction chunks with
  | nil => rfl
  | cons c cs ih =>
    rw [List.flatMap_cons, ih]
    by_cases hc : c.length ≤ mcsHeaderSize
    · have hl : isLong c = false := by simp [isLong, hc]
      simp [chunkRequests, hc, hl]
    · have hl : isLong c = true := by simpa [isLong] using hc
      simp [chunkRequests, hc, hl]

/-- The length byte of a long chunk does not exceed what follows its header, if the request does not
show what was in the buffer. -/
theorem headerByte_le_of_request_eq {c : List UInt8} (hl : isLong c = true)
    (h : ((filled 0).store (c.drop mcsHeaderSize)).val.take (headerByte c 5) =
      ((filled 1).store (c.drop mcsHeaderSize)).val.take (headerByte c 5)) :
    6 + headerByte c 5 ≤ c.length := by
  have h5 := headerByte_lt c 5
  have hle := le_of_take_store_eq (by omega) h
  have hl' : mcsHeaderSize < c.length := by simpa [isLong] using hl
  rw [List.length_drop] at hle
  unfold mcsHeaderSize at *
  omega

/-- A request of a long chunk is as long as its length byte says. -/
theorem length_request (c : List UInt8) (b : UInt8) :
    (((filled b).store (c.drop mcsHeaderSize)).val.take (headerByte c 5)).length =
      headerByte c 5 := by
  have h5 := headerByte_lt c 5
  have hstore := ((filled b).store (c.drop mcsHeaderSize)).property
  rw [List.length_take, hstore, Nat.min_eq_left (by show _ ≤ 1024; omega)]

/-- If the requests are those of the messages for two different fillings of the buffer, the chunks
are the messages, each with a payload of 1 to 255 bytes. -/
theorem chunks_eq_of_requests {ms : List McsMessage} {chunks : List (List UInt8)}
    (hne : ∀ c ∈ chunks, c ≠ []) (hflat : chunks.flatten = ms.flatMap (·.bytes))
    (h : ∀ b, chunks.flatMap (chunkRequests · (filled b)) = ms.map (·.request)) :
    chunks = ms.map (·.bytes) ∧ ∀ m ∈ ms, 1 ≤ m.payload.length ∧ m.payload.length ≤ 255 := by
  have hreq := fun b => (flatMap_chunkRequests chunks (filled b)).symm.trans (h b)
  have hle : ∀ c ∈ chunks, isLong c = true → 6 + headerByte c 5 ≤ c.length := by
    intro c hc hl
    have h01 := List.map_inj_left.mp ((hreq 0).trans (hreq 1).symm) c (List.mem_filter.mpr ⟨hc, hl⟩)
    exact headerByte_le_of_request_eq hl (Prod.mk.inj h01).2
  -- the length byte is the length of the payload of the corresponding message
  have hlens : (chunks.filter isLong).map (fun c => 6 + headerByte c 5) =
      ms.map fun m => m.bytes.length := by
    have hmap := congrArg (List.map fun r : Request => 6 + r.2.length) (hreq 0)
    rw [List.map_map, List.map_map] at hmap
    calc (chunks.filter isLong).map (fun c => 6 + headerByte c 5)
        = (chunks.filter isLong).map ((fun r : Request => 6 + r.2.length) ∘ fun c =>
            (decodedHeader c,
              ((filled 0).store (c.drop mcsHeaderSize)).val.take (headerByte c 5))) := by
          refine List.map_congr_left ?_
          intro c _
          exact congrArg (6 + ·) (length_request c 0).symm
      _ = ms.map fun m => m.bytes.length := by
          rw [hmap]
          refine List.map_congr_left ?_
          intro m _
          rw [m.length_bytes]
          rfl
  have hsum : chunks.flatten.length ≤
      ((chunks.filter isLong).map fun c => 6 + headerByte c 5).sum := by
    rw [hlens, hflat, List.length_flatMap]
  have hall := all_counted hle hne hsum
  have hfilter : chunks.filter isLong = chunks := List.filter_eq_self.mpr fun c hc => (hall c hc).1
  have hchunks : chunks = ms.map (·.bytes) := by
    refine List.eq_iff_flatten_eq.mpr ⟨by rw [hflat, List.flatMap_def], ?_⟩
    rw [hfilter] at hlens
    rw [List.map_map, ← List.map_congr_left fun c hc => (hall c hc).2, hlens]
    rfl
  refine ⟨hchunks, ?_⟩
  intro m hm
  have hmem : m.bytes ∈ chunks := by
    rw [hchunks]
    exact List.mem_map.mpr ⟨m, hm, rfl⟩
  obtain ⟨hl, h5⟩ := hall m.bytes hmem
  have hl' : mcsHeaderSize < m.bytes.length := by simpa [isLong] using hl
  have hb := headerByte_lt m.bytes 5
  have hlen := m.length_bytes
  unfold mcsHeaderSize at hl'
  exact ⟨by omega, by omega⟩

/-! ## Segmentation -/

/-- A chunk delivered when all goes well, into a packet buffer with data area `stale`. -/
def delivered (τ : Type) (stale : CspData) (chunk : List UInt8) : Delivery τ where
  msg := chunk
  env := constEnv 0 1
  openReceived := true
  fwriteReceived := chunk.length
  buffer := some { CspPacket.zero with data := stale }

/-- **When MCS uplinks do not depend on TCP segmentation.** For every sequence of messages and every
way of cutting their bytes into `recv` results: the requests are those of the messages, whatever the
packet buffers held, if and only if each `recv` result is one message, with a payload of 1 to 255
bytes. -/
theorem segmentationSafe_iff (s : Station τ) {ms : List McsMessage} {chunks : List (List UInt8)}
    (hsize : ∀ c ∈ chunks, 1 ≤ c.length ∧ c.length ≤ msgBufferSize)
    (hflat : chunks.flatten = ms.flatMap (·.bytes)) :
    SegmentationSafe s ms chunks ↔
      chunks = ms.map (·.bytes) ∧ ∀ m ∈ ms, 1 ≤ m.payload.length ∧ m.payload.length ≤ 255 := by
  constructor
  · intro h
    refine chunks_eq_of_requests (fun c hc => List.length_pos_iff.mp (hsize c hc).1) hflat ?_
    intro b
    let ds := chunks.map (delivered τ (filled b))
    have hmsg : ds.map (·.msg) = chunks := by
      rw [List.map_map]
      exact List.map_id chunks
    have hstored : ∀ d ∈ ds, d.Stored := by
      intro d hd
      obtain ⟨c, -, rfl⟩ := List.mem_map.mp hd
      exact ⟨rfl, Nat.le_refl _, rfl⟩
    obtain ⟨s', hs'⟩ := h ds hmsg hstored
    obtain ⟨s'', hs''⟩ := tcpServerRun_stored s hstored
      (fun d hd => (hsize d.msg (by rw [← hmsg]; exact List.mem_map.mpr ⟨d, hd, rfl⟩)).2)
      (chunks.map fun _ => { CspPacket.zero with data := filled b })
      (by rw [List.map_map, List.map_map]; rfl)
    have hreq := (Prod.mk.inj (Ending.returned.inj (hs''.symm.trans hs'))).1
    rw [← hreq, hmsg, List.map_map, List.zipWith_map_right, List.zipWith_self, List.flatMap_def]
    rfl
  · rintro ⟨rfl, hpay⟩ ds hmsg hstored
    let ps := ds.map fun d => d.buffer.getD CspPacket.zero
    have hps : ds.map (·.buffer) = ps.map some := by
      rw [List.map_map]
      refine List.map_congr_left ?_
      intro d hd
      obtain ⟨p, hp⟩ := Option.isSome_iff_exists.mp (hstored d hd).2.2
      simp [hp]
    obtain ⟨s', hs'⟩ := tcpServerRun_stored s hstored
      (fun d hd => (hsize d.msg (by rw [← hmsg]; exact List.mem_map.mpr ⟨d, hd, rfl⟩)).2) ps hps
    refine ⟨s', ?_⟩
    have hlen : (ps.map (·.data)).length = ms.length := by
      have := congrArg List.length hmsg
      simpa [ps] using this
    rw [hs', hmsg, zipWith_chunkRequests_bytes hpay hlen]

def oneByteMessage : McsMessage :=
  { head := [0x94, 0x51, 0xC8, 0], payload := [0xAA], head_length := rfl,
    payload_length := by decide }

theorem segmentationSafe_one_by_one :
    SegmentationSafe (Station.init ()) [oneByteMessage, oneByteMessage]
      [oneByteMessage.bytes, oneByteMessage.bytes] :=
  (segmentationSafe_iff _ (by decide) (by decide)).mpr ⟨rfl, by decide⟩

/-- Two messages that arrive together: the second one is lost. -/
theorem coalesced_message_lost :
    ¬ SegmentationSafe (Station.init ()) [oneByteMessage, oneByteMessage]
      [oneByteMessage.bytes ++ oneByteMessage.bytes] := by
  intro h
  let d := delivered Unit (filled 0) (oneByteMessage.bytes ++ oneByteMessage.bytes)
  have hstored : ∀ e ∈ [d], e.Stored := by
    intro e he
    obtain rfl := List.mem_singleton.mp he
    exact ⟨rfl, Nat.le_refl _, rfl⟩
  obtain ⟨s', hs'⟩ := h [d] rfl hstored
  obtain ⟨s'', hs''⟩ := tcpServerRun_stored (Station.init ()) hstored
    (by intro e he; obtain rfl := List.mem_singleton.mp he; decide)
    [{ CspPacket.zero with data := filled 0 }] rfl
  have hreq := (Prod.mk.inj (Ending.returned.inj (hs''.symm.trans hs'))).1
  exact absurd (congrArg List.length hreq) (by decide)

end CspTerm.Uplink
