import CspTerm.Radio.Proofs.TleStoreProofs
import CspTerm.Uplink.FileErrors
import CspTerm.Uplink.Proofs.OwnershipProofs

/-!
# When a file error does not take the station down

Without a buffer `send_packet` touches no file. With one it stays up unless its file does not open,
which ends the process, or is too large for the buffer, or the request in it loses the buffer or
updates the element sets without a meaning.
-/

namespace CspTerm.Uplink

open CString CspTerm.Csp CspTerm.Radio CspTerm.Gui CspTerm.Archive Descriptors

theorem Traced.andThen_of_returned {α β : Type} {c : Traced α} {a : α}
    (h : c.ending = .returned a) (f : α → Traced β) :
    c.andThen f = { ending := (f a).ending, ops := c.ops ++ (f a).ops } := by
  unfold Traced.andThen
  rw [h]

/-! ## `process_mcs_file` -/

section ProcessMcsFile

variable {f : McsFileRead} (headerBuffer : List UInt8) (data : CspData)

theorem processMcsFileIo_refused (h : ¬ Processable (some f))
    (hfit : mcsHeaderSize < f.size → f.header ≠ [] → f.payload.length ≤ cspBufferSize) :
    processMcsFileIo (some f) headerBuffer data =
      { ending := .returned (0, none, data), ops := session (some f.fd) } := by
  unfold processMcsFileIo
  dsimp only
  split_ifs with hsize hheader hover hpayload
  · rfl
  · rfl
  · have hne : f.header ≠ [] := fun hnil => hheader (by rw [hnil]; decide)
    exact absurd (hfit (by omega) hne) (by omega)
  · rfl
  · have hne : f.header ≠ [] := fun hnil => hheader (by rw [hnil]; decide)
    have hne' : f.payload ≠ [] := fun hnil => hpayload (by rw [hnil]; decide)
    exact absurd ⟨f, rfl, by omega, hne, hne'⟩ h

theorem processMcsFileIo_overrun (hsize : mcsHeaderSize < f.size) (hheader : f.header ≠ [])
    (hover : cspBufferSize < f.payload.length) :
    processMcsFileIo (some f) headerBuffer data =
      { ending := .undefined, ops := [.opened (some f.fd), .used (some f.fd)] } := by
  have hpos := List.length_pos_iff.mpr hheader
  unfold processMcsFileIo
  dsimp only
  rw [if_neg (by omega), if_neg (by omega), if_pos hover]

theorem processMcsFileIo_processed (h : Processable (some f))
    (hfit : f.payload.length ≤ cspBufferSize) :
    processMcsFileIo (some f) headerBuffer data =
      { ending := .returned (1, some (decodeParameters (f.headerBuffer headerBuffer)),
          data.store f.payload)
        ops := session (some f.fd) } := by
  obtain ⟨_, ⟨⟩, hsize, hheader, hpayload⟩ := h
  have hpos := List.length_pos_iff.mpr hheader
  have hpos' := List.length_pos_iff.mpr hpayload
  unfold processMcsFileIo
  dsimp only
  rw [if_neg (by omega), if_neg (by omega), if_neg (by omega), if_neg (by omega)]

end ProcessMcsFile

/-! ## The update of the element sets -/

theorem setTLE_isSome_iff (sat : SatLines) (line1 line2 : List UInt8) :
    (setTLE sat line1 line2).isSome ↔ ReadsInTable line1 ∧ ReadsInTable line2 := by
  unfold setTLE kepCheck kepCheckWith
  by_cases h : ReadsInTable line1 ∧ ReadsInTable line2
  · simp [h]
  · simp [h]

/-- The end of `tleupdate`, behind the search. -/
theorem installed_isSome_iff (t : TleState) :
    (if t.tle1.val.takeWhile (· ≠ 0) = [] then some t
      else (setTLE t.sat t.tle1.val t.tle2.val).map fun r => { t with sat := r.2 }).isSome ↔
      (t.tle1.val.takeWhile (· ≠ 0) ≠ [] →
        ReadsInTable t.tle1.val ∧ ReadsInTable t.tle2.val) := by
  by_cases hnil : t.tle1.val.takeWhile (· ≠ 0) = []
  · rw [if_pos hnil]
    exact ⟨fun _ h => absurd hnil h, fun _ => rfl⟩
  · rw [if_neg hnil, Option.isSome_map, setTLE_isSome_iff]
    exact ⟨fun h _ => h, fun h => h hnil⟩

/-- `tleupdate` has a meaning exactly when its file, its lines and its characters let it. -/
theorem tleupdate_isSome_iff (dl : TleDownload) (elementId : Int) (t : TleState) :
    (tleupdate dl elementId t).isSome ↔ UpdateDefined dl (UInt32.ofInt elementId) t := by
  unfold tleupdate
  dsimp only
  by_cases hopen : dl.opened = true
  swap
  · rw [if_pos (by simpa using hopen)]
    exact ⟨fun h => absurd h (by decide), fun h => absurd h.opened hopen⟩
  rw [if_neg (by simpa using hopen)]
  by_cases herr : dl.err = true
  · rw [if_pos herr]
    refine ⟨fun _ => ⟨hopen, ?_, ?_⟩, fun _ => rfl⟩ <;> simp [herr]
  rw [if_neg herr]
  by_cases hzero : UInt32.ofInt elementId = 0
  · rw [if_pos hzero]
    refine ⟨fun _ => ⟨hopen, ?_, ?_⟩, fun _ => rfl⟩ <;> simp [hzero]
  rw [if_neg hzero]
  constructor
  · intro h
    obtain ⟨_, hsome⟩ := Option.isSome_iff_exists.mp h
    obtain ⟨t', ht', hinst⟩ := Option.bind_eq_some_iff.mp hsome
    refine ⟨hopen, fun _ _ => (searchLines_spec ht').2.2.2, ?_⟩
    intro _ _ t'' ht''
    obtain rfl := Option.some.inj (ht'.symm.trans ht'')
    exact (installed_isSome_iff t').mp (by rw [hinst]; rfl)
  · intro h
    have herr' : dl.err = false := by simpa using herr
    obtain ⟨t', ht'⟩ := searchLines_exists t (h.buffers herr' hzero)
    rw [ht', Option.bind_some]
    exact (installed_isSome_iff t').mpr (h.table herr' hzero t' ht')

/-! ## `send_packet_execute` -/

section Execute

variable (io : ExecuteIo) (s : DefinedStation) (origin : Option CStr) (header : McsPacketHeader)
  (packet : CspPacket) (payload : Payload) (payloadLen : Nat)

/-- The element id that a command has an update made for. -/
theorem GroundCommand.effect_tle (c : GroundCommand) :
    (c.effect io.env s.station).tle =
      (c.elementId s.station.doppler.satNo).elim s.station.doppler.tle fun elementId =>
        s.station.doppler.tle.bind (tleupdate io.tle elementId) := by
  cases c with
  | satSel no =>
    unfold GroundCommand.effect mcsSatSel
    dsimp only
    split_ifs <;> rfl
  | satRead | setRxFreq | setTxFreq | tleUpdate => rfl

/-- What a request leaves of the element sets. -/
theorem sendPacketExecute_tle :
    (sendPacketExecute io.env s.station origin (some header) (some packet) (some payload)
        payloadLen).station.doppler.tle =
      (updateRequested s.station.doppler.satNo header
        (payload.read (sized packet payloadLen) payloadLen)).elim s.station.doppler.tle
          fun elementId => s.station.doppler.tle.bind (tleupdate io.tle elementId) := by
  show (executed io.env s.station header packet payload payloadLen).station.doppler.tle = _
  unfold updateRequested executed
  by_cases hd : header.dst ≤ 15
  · rw [dispatch_of_le hd, if_pos hd]
    rfl
  · rw [dispatch_of_not_le hd, if_neg hd, groundCommand_station]
    cases requestedCommand (payload.read (sized packet payloadLen) payloadLen) with
    | none => rfl
    | some c => exact c.effect_tle io s

/-- The element sets keep a meaning exactly when the update that the request makes has one. -/
theorem sendPacketExecute_defined_iff :
    (sendPacketExecute io.env s.station origin (some header) (some packet) (some payload)
        payloadLen).station.doppler.tle.isSome ↔
      UpdateMeaningful io s header (payload.read (sized packet payloadLen) payloadLen) := by
  rw [sendPacketExecute_tle]
  obtain ⟨t, ht⟩ := Option.isSome_iff_exists.mp s.defined
  unfold UpdateMeaningful
  rw [ht]
  cases updateRequested s.station.doppler.satNo header
      (payload.read (sized packet payloadLen) payloadLen) with
  | none => simp
  | some elementId => simp [tleupdate_isSome_iff]

/-- The file operations of the update that a request makes, if it makes one. -/
abbrev updateOps (payload : List UInt8) : List (FileOp Int) :=
  (updateRequested s.station.doppler.satNo header payload).elim [] fun _ => tleupdateOps io

/-- An update that has a meaning opens its file, works on it and closes it. -/
theorem updateOps_cases {payload : List UInt8} (h : UpdateMeaningful io s header payload) :
    updateOps io s header payload = [] ∨
      updateOps io s header payload = session (some io.tleFd) := by
  unfold updateOps
  cases hupdate : updateRequested s.station.doppler.satNo header payload with
  | none => exact Or.inl rfl
  | some elementId =>
    obtain ⟨t, ht⟩ := Option.isSome_iff_exists.mp s.defined
    refine Or.inr ?_
    show tleupdateOps io = _
    unfold tleupdateOps
    rw [if_pos (h elementId hupdate t ht).opened]

theorem sendPacketExecuteIo_of_meaningful
    (h : UpdateMeaningful io s header (payload.read (sized packet payloadLen) payloadLen)) :
    sendPacketExecuteIo io s origin (some header) (some packet) (some payload) payloadLen =
      { ending := .returned (sendPacketExecute io.env s.station origin (some header) (some packet)
          (some payload) payloadLen)
        ops := updateOps io s header (payload.read (sized packet payloadLen) payloadLen) ++
          session io.sentFd } := by
  unfold sendPacketExecuteIo
  dsimp only
  rw [if_pos ((sendPacketExecute_defined_iff io s origin header packet payload payloadLen).mpr h)]

theorem sendPacketExecuteIo_of_not_meaningful
    (h : ¬ UpdateMeaningful io s header (payload.read (sized packet payloadLen) payloadLen)) :
    (sendPacketExecuteIo io s origin (some header) (some packet) (some payload)
      payloadLen).ending = .undefined := by
  unfold sendPacketExecuteIo
  dsimp only
  rw [if_neg fun hd => h
    ((sendPacketExecute_defined_iff io s origin header packet payload payloadLen).mp hd)]

/-- The request ends as before, apart from an update without a meaning. -/
theorem sendPacketExecuteIo_ending :
    (sendPacketExecuteIo io s origin (some header) (some packet) (some payload)
        payloadLen).ending.map UplinkResult.release =
      keepMeaning (.returned (sendPacketExecute io.env s.station origin (some header) (some packet)
        (some payload) payloadLen).release) := by
  have hstation : ∀ r : UplinkResult (Option TleState), r.release.station = r.station :=
    fun _ => rfl
  unfold sendPacketExecuteIo keepMeaning
  dsimp only
  rw [hstation]
  split_ifs <;> rfl

end Execute

/-! ## `send_packet` -/

/-- A call that does not return does not stay up. -/
theorem not_staysUp {io : SendPacketIo} {file : Option McsFileRead}
    {c : Traced (UplinkResult (Option TleState))} (h : ∀ r, c.ending ≠ .returned r) :
    ¬ StaysUp io file c := by
  intro hup
  obtain ⟨r, hr⟩ := hup.returns
  exact h r hr

section SendPacket

variable (io : SendPacketIo) (s : DefinedStation) (name : CStr)

theorem sized_packet (packet : CspPacket) : sized packet packet.length.toNat = packet := by
  unfold sized
  rw [Nat.toUInt16_eq, UInt16.ofNat_toNat]

/-- `send_packet` when its file has no request, but neither ends the process nor overruns the
buffer: the buffer is freed. -/
theorem sendPacketIo_refused {packet : CspPacket} {f : McsFileRead}
    (hbuffer : io.buffer = some packet) (hfile : fopenRead name io.file = some f)
    (h : ¬ Processable (some f))
    (hfit : mcsHeaderSize < f.size → f.header ≠ [] → f.payload.length ≤ cspBufferSize) :
    sendPacketIo io s name =
      { ending := .returned (refusedResult s [.cspBufferFree]), ops := session (some f.fd) } := by
  unfold sendPacketIo
  rw [hbuffer]
  dsimp only
  rw [hfile, processMcsFileIo_refused _ _ h hfit, Traced.andThen_of_returned rfl]
  rfl

theorem sendPacketIo_overrun {packet : CspPacket} {f : McsFileRead}
    (hbuffer : io.buffer = some packet) (hfile : fopenRead name io.file = some f)
    (hsize : mcsHeaderSize < f.size) (hheader : f.header ≠ [])
    (hover : cspBufferSize < f.payload.length) : (sendPacketIo io s name).ending = .undefined := by
  unfold sendPacketIo
  rw [hbuffer]
  dsimp only
  rw [hfile, processMcsFileIo_overrun _ _ hsize hheader hover]
  rfl

theorem sendPacketIo_no_file {packet : CspPacket} (hbuffer : io.buffer = some packet)
    (hfile : fopenRead name io.file = none) : (sendPacketIo io s name).ending = .exited := by
  unfold sendPacketIo
  rw [hbuffer]
  dsimp only
  rw [hfile]
  rfl

/-- The request that `send_packet` makes of the file. -/
abbrev requestIo (packet : CspPacket) (f : McsFileRead) : Traced (UplinkResult (Option TleState)) :=
  sendPacketExecuteIo io.toExecuteIo s (some (cstr "MCS"))
    (some (decodeParameters (f.headerBuffer io.headerBuffer)).header)
    (some (f.packet io.headerBuffer packet)) (some .packetData)
    (f.packet io.headerBuffer packet).length.toNat

theorem sendPacketIo_processed {packet : CspPacket} {f : McsFileRead}
    (hbuffer : io.buffer = some packet) (hfile : fopenRead name io.file = some f)
    (h : Processable (some f)) (hfit : f.payload.length ≤ cspBufferSize) :
    sendPacketIo io s name =
      { ending := (requestIo io s packet f).ending.map UplinkResult.release
        ops := session (some f.fd) ++ (requestIo io s packet f).ops } := by
  have hpacket : { packet with
      length := UInt16.ofInt (atoi (decodeParameters (f.headerBuffer io.headerBuffer)).dataLength)
      data := packet.data.store f.payload } = f.packet io.headerBuffer packet := by
    unfold McsFileRead.packet
    rw [atoi_dataLength, uint16_ofInt_natCast]
  have hsent : sendProcessed io s packet (1,
      some (decodeParameters (f.headerBuffer io.headerBuffer)), packet.data.store f.payload) =
      { ending := (requestIo io s packet f).ending.map UplinkResult.release
        ops := (requestIo io s packet f).ops } := by
    unfold requestIo
    rw [← hpacket]
    rfl
  unfold sendPacketIo
  rw [hbuffer]
  dsimp only
  rw [hfile, processMcsFileIo_processed _ _ h hfit, Traced.andThen_of_returned rfl, hsent]

/-- A request stays up when it loses no buffer and the update that it makes has a meaning. -/
theorem staysUp_request_iff {buffer : CspPacket} (hbuffer : io.buffer = some buffer)
    {file : Option McsFileRead} (hfile : Processable file) (fd : Int) (header : McsPacketHeader)
    (packet : CspPacket) :
    let c := sendPacketExecuteIo io.toExecuteIo s (some (cstr "MCS")) (some header) (some packet)
      (some .packetData) packet.length.toNat
    StaysUp io file
        { ending := c.ending.map UplinkResult.release, ops := session (some fd) ++ c.ops } ↔
      (header.dst ≤ 15 → FailsWithMinusOne io.env (sendtoCall header packet)) ∧
        UpdateMeaningful io.toExecuteIo s header packet.payload := by
  intro c
  have hpayload : Payload.packetData.read (sized packet packet.length.toNat)
      packet.length.toNat = packet.payload := by
    rw [sized_packet]
    rfl
  have hreleased := releases_executed_iff io.env s.station (some (cstr "MCS")) header packet
    .packetData packet.length.toNat
  rw [sized_packet] at hreleased
  by_cases hupdate : UpdateMeaningful io.toExecuteIo s header packet.payload
  · have hsent := sendPacketExecuteIo_of_meaningful io.toExecuteIo s (some (cstr "MCS")) header
      packet .packetData packet.length.toNat (by rw [hpayload]; exact hupdate)
    rw [hpayload] at hsent
    have hsound : Sound (updateOps io.toExecuteIo s header packet.payload) := by
      rcases updateOps_cases _ _ _ hupdate with hops | hops <;> rw [hops]
      · exact sound_nil
      · exact sound_session _
    have hc : c = _ := hsent
    rw [hc, ← hreleased]
    constructor
    · intro hup
      have honce := hup.buffers
      rw [hbuffer] at honce
      exact ⟨honce, hupdate⟩
    · rintro ⟨honce, -⟩
      refine ⟨⟨_, rfl⟩, sound_append.mpr ⟨sound_session (some fd),
        sound_append.mpr ⟨hsound, sound_session _⟩⟩, ?_, fun _ _ hnot => absurd hfile hnot⟩
      rw [hbuffer]
      exact honce
  · have hending : c.ending = .undefined := sendPacketExecuteIo_of_not_meaningful io.toExecuteIo s
      (some (cstr "MCS")) header packet .packetData packet.length.toNat
      (by rw [hpayload]; exact hupdate)
    rw [hending]
    exact iff_of_false (not_staysUp fun r hr => by cases hr) fun hsafe => hupdate hsafe.2

/-- Without a buffer nothing is done. -/
theorem staysUp_no_buffer (hbuffer : io.buffer = none) (file : Option McsFileRead) :
    StaysUp io file (sendPacketIo io s name) := by
  have hc : sendPacketIo io s name = { ending := .returned (refusedResult s []), ops := [] } := by
    unfold sendPacketIo
    rw [hbuffer]
  rw [hc]
  refine ⟨⟨_, rfl⟩, sound_nil, ?_, ?_⟩
  · rw [hbuffer]
    exact fun e he => absurd he List.not_mem_nil
  · rintro r ⟨⟩ -
    rfl

/-- A file that is refused leaves the buffer freed. -/
theorem staysUp_refused {packet : CspPacket} (hbuffer : io.buffer = some packet)
    (file : Option McsFileRead) (fd : Int) :
    StaysUp io file { ending := .returned (refusedResult s [.cspBufferFree])
                      ops := session (some fd) } := by
  refine ⟨⟨_, rfl⟩, sound_session (some fd), ?_, ?_⟩
  · rw [hbuffer]
    rfl
  · rintro r ⟨⟩ -
    rfl

/-- With a buffer and a file, `send_packet` stays up if the file can be sent. -/
theorem sendPacketIo_file_staysUp_iff {packet : CspPacket} {f : McsFileRead}
    (hbuffer : io.buffer = some packet) (hfile : fopenRead name io.file = some f) :
    StaysUp io (some f) (sendPacketIo io s name) ↔ Sendable io s (some f) packet := by
  by_cases hfit : mcsHeaderSize < f.size → f.header ≠ [] → f.payload.length ≤ cspBufferSize
  swap
  · -- the payload overruns the packet buffer
    obtain ⟨hsize, hheader, hover⟩ : mcsHeaderSize < f.size ∧ f.header ≠ [] ∧
        cspBufferSize < f.payload.length := by
      push Not at hfit
      exact hfit
    have hundefined := sendPacketIo_overrun io s name hbuffer hfile hsize hheader hover
    refine iff_of_false (not_staysUp fun r hr => ?_) fun h => hfit (h.fits f rfl)
    rw [hundefined] at hr
    cases hr
  by_cases hproc : Processable (some f)
  · have hprocfit : f.payload.length ≤ cspBufferSize := by
      obtain ⟨_, ⟨⟩, hsize, hheader, -⟩ := hproc
      exact hfit hsize hheader
    rw [sendPacketIo_processed io s name hbuffer hfile hproc hprocfit]
    refine (staysUp_request_iff io s hbuffer hproc f.fd _ _).trans ⟨?_, ?_⟩
    · intro h
      refine ⟨rfl, ?_, ?_⟩
      · rintro _ ⟨⟩
        exact hfit
      · rintro _ ⟨⟩ -
        exact h
    · intro h
      exact h.request f rfl hproc
  · rw [sendPacketIo_refused io s name hbuffer hfile hproc hfit]
    refine iff_of_true (staysUp_refused io s hbuffer (some f) f.fd)
      ⟨rfl, ?_, fun _ _ h => absurd h hproc⟩
    rintro _ ⟨⟩
    exact hfit

/-- **When `send_packet` stays up**: for every file name, every station and all surroundings. -/
theorem sendPacketIo_staysUp_iff :
    StaysUp io (fopenRead name io.file) (sendPacketIo io s name) ↔
      ∀ buffer, io.buffer = some buffer → Sendable io s (fopenRead name io.file) buffer := by
  cases hbuffer : io.buffer with
  | none => exact iff_of_true (staysUp_no_buffer io s name hbuffer _) fun _ h => (by cases h)
  | some packet =>
    simp only [Option.some.injEq, forall_eq']
    cases hfile : fopenRead name io.file with
    | none =>
      have hexit := sendPacketIo_no_file io s name hbuffer hfile
      refine iff_of_false (not_staysUp fun r hr => ?_) fun h => absurd h.opens (by decide)
      rw [hexit] at hr
      cases hr
    | some f => exact sendPacketIo_file_staysUp_iff io s name hbuffer hfile

/-- Without a file error the request is the one of the contents of the file. -/
theorem requestIo_ofBytes (fd : Int) {bytes : List UInt8} (hbytes : bytes.length < 2 ^ 31)
    (hsize : mcsHeaderSize ≤ bytes.length) (packet : CspPacket) :
    requestIo io s packet (.ofBytes fd bytes hbytes) =
      sendPacketExecuteIo io.toExecuteIo s (some (cstr "MCS")) (some (decodedHeader bytes))
        (some (filePacket (bytes.take mcsHeaderSize) (bytes.drop mcsHeaderSize) packet))
        (some .packetData) (headerByte bytes 5) := by
  have hbuffer : (McsFileRead.ofBytes fd bytes hbytes).headerBuffer io.headerBuffer =
      bytes.take mcsHeaderSize := by
    show bytes.take mcsHeaderSize ++ io.headerBuffer.drop (bytes.take mcsHeaderSize).length = _
    rw [List.length_take_of_le hsize, List.drop_of_length_le io.headerBuffer_length.le,
      List.append_nil]
  have hpacket : (McsFileRead.ofBytes fd bytes hbytes).packet io.headerBuffer packet =
      filePacket (bytes.take mcsHeaderSize) (bytes.drop mcsHeaderSize) packet := by
    unfold McsFileRead.packet filePacket
    rw [hbuffer]
    rfl
  have h5 := headerByte_lt bytes 5
  have hlength : ((headerByte bytes 5).toUInt16).toNat = headerByte bytes 5 := by
    show headerByte bytes 5 % 2 ^ 16 = _
    omega
  rw [requestIo, hbuffer, hpacket, filePacket_take_length, hlength, header_decodeParameters,
    decodedHeader_take hsize]

/-- **Files that can be read are sent as before**: without a file error, `send_packet` does what it
does on the contents of the file. -/
theorem sendPacketIo_ofBytes (fd : Int) {bytes : List UInt8} (hbytes : bytes.length < 2 ^ 31)
    (hfile : fopenRead name io.file = some (.ofBytes fd bytes hbytes)) :
    (sendPacketIo io s name).ending =
      keepMeaning (sendPacket io.env s.station (some bytes) io.buffer) := by
  have hrefused : ∀ events, keepMeaning (.returned (refusedResult s events)) =
      .returned (refusedResult s events) := fun events => if_pos s.defined
  have hsize : (McsFileRead.ofBytes fd bytes hbytes).size = bytes.length := by
    show toInt32 bytes.length = _
    exact toInt32_of_range (by omega) (by omega)
  cases hbuffer : io.buffer with
  | none =>
    unfold sendPacketIo
    rw [hbuffer]
    exact (hrefused []).symm
  | some packet =>
    by_cases hshort : bytes.length ≤ mcsHeaderSize
    · have hle : ¬ (mcsHeaderSize : Int) < (McsFileRead.ofBytes fd bytes hbytes).size := by
        rw [hsize]
        omega
      have hnot : ¬ Processable (some (.ofBytes fd bytes hbytes)) := by
        rintro ⟨_, ⟨⟩, h, -⟩
        exact hle h
      rw [sendPacketIo_refused io s name hbuffer hfile hnot fun h => absurd h hle,
        sendPacket_short _ _ _ hshort]
      exact (hrefused _).symm
    have hlarge : (mcsHeaderSize : Int) < (McsFileRead.ofBytes fd bytes hbytes).size := by
      rw [hsize]
      omega
    have hsix : mcsHeaderSize = 6 := rfl
    have hheader : bytes.take mcsHeaderSize ≠ [] :=
      List.ne_nil_of_length_pos (by rw [List.length_take]; omega)
    have hlength : (bytes.drop mcsHeaderSize).length = bytes.length - mcsHeaderSize :=
      List.length_drop
    by_cases hlong : mcsHeaderSize + cspBufferSize < bytes.length
    · have hover : cspBufferSize < (bytes.drop mcsHeaderSize).length := by
        rw [hlength]
        exact Nat.lt_sub_iff_add_lt'.mpr hlong
      rw [sendPacketIo_overrun io s name hbuffer hfile hlarge hheader hover,
        sendPacket_overrun _ _ _ hlong]
      rfl
    have hfit : (bytes.drop mcsHeaderSize).length ≤ cspBufferSize := by omega
    have hproc : Processable (some (.ofBytes fd bytes hbytes)) :=
      ⟨_, rfl, hlarge, hheader, List.ne_nil_of_length_pos (Nat.lt_of_lt_of_eq (by omega)
        hlength.symm)⟩
    rw [sendPacketIo_processed io s name hbuffer hfile hproc hfit,
      sendPacket_fits _ _ _ (by omega) (by omega), requestIo_ofBytes _ _ _ _ (by omega)]
    exact sendPacketExecuteIo_ending io.toExecuteIo s _ _ _ _ _

end SendPacket

/-! ## The server and the console -/

/-- **Messages that can be read back are handled as before**: `tcp_server` does what it does where
the file is a copy of the message. -/
theorem tcpServerMessageIo_storedBack (s : ServerState) (m : MessageIo) (fd : Int)
    (hstored : (m.msgBuffer.take m.fwriteReceived).length < 2 ^ 31)
    (hfile : m.file = some (.ofBytes fd (m.msgBuffer.take m.fwriteReceived) hstored)) :
    (tcpServerMessageIo s m).ending = keepMeaning (tcpServerMessage s.station m.delivery) := by
  unfold tcpServerMessageIo tcpServerMessage MessageIo.delivery
  cases m.receivedFd with
  | none => rfl
  | some received =>
    have hname : mcsFile m.time ≠ [] := List.append_ne_nil_of_right_ne_nil _ (by decide)
    dsimp only
    rw [if_pos (Option.isSome_some : (some received).isSome = true)]
    exact sendPacketIo_ofBytes m.toSendPacketIo s.toDefinedStation (mcsFile m.time) fd hstored
      (by rw [fopenRead, if_neg hname, hfile])

/-- A step stays up as the sending in it does, once the file for a message is open. -/
theorem staysUp_session_append {io : SendPacketIo} {file : Option McsFileRead} (f : Option Int)
    (c : Traced (UplinkResult (Option TleState))) :
    StaysUp io file { ending := c.ending, ops := session f ++ c.ops } ↔ StaysUp io file c :=
  ⟨fun h => ⟨h.returns, (sound_append.mp h.files).2, h.buffers, h.answers⟩,
    fun h => ⟨h.returns, sound_append.mpr ⟨sound_session f, h.files⟩, h.buffers, h.answers⟩⟩

/-- **When the station stays up.** For every prior state, every message and every retransmit command,
with every outcome of the operations on files. -/
theorem serverStep_staysUp_iff (s : ServerState) (a : ServerStep) :
    StaysUp a.io (a.file s) (serverStep s a) ↔ Survivable s a := by
  unfold Survivable
  cases a with
  | retransmit io =>
    refine (sendPacketIo_staysUp_iff io s.toDefinedStation s.frName).trans
      ⟨fun h => ⟨fun _ hm => (by cases hm), h⟩, fun h => h.2⟩
  | message m =>
    simp only [ServerStep.message.injEq, forall_eq']
    show StaysUp m.toSendPacketIo (fopenRead (mcsFile m.time) m.file) (tcpServerMessageIo s m) ↔ _
    unfold tcpServerMessageIo
    cases m.receivedFd with
    | none =>
      exact iff_of_false (not_staysUp fun r hr => by cases hr) fun h => absurd h.1 (by decide)
    | some fd =>
      dsimp only
      rw [staysUp_session_append]
      exact (sendPacketIo_staysUp_iff m.toSendPacketIo s.toDefinedStation _).trans
        ⟨fun h => ⟨rfl, h⟩, fun h => h.2⟩

/-- The console command before the first message has arrived: the file without a name does not open,
and the process ends. -/
theorem retransmit_before_first_message :
    let io : SendPacketIo :=
      { rparamSetUint32 := fun _ => 1, clock := ⟨0, 0⟩, cspSendto := fun _ => 0
        afterSendto := fun _ data => data, getTime := cstr "01-01-2024 00:00:00"
        sentFd := some 4, fwriteSent := 0, tleFd := 4
        tle := { opened := true, err := false, lines := [] }
        buffer := some CspPacket.zero, file := none
        headerBuffer := List.replicate mcsHeaderSize 0, headerBuffer_length := rfl }
    (serverStep ServerState.init (.retransmit io)).ending = .exited ∧
      ¬ StaysUp io ((ServerStep.retransmit io).file ServerState.init)
        (serverStep ServerState.init (.retransmit io)) := by
  intro io
  have hexit : (serverStep ServerState.init (.retransmit io)).ending = .exited := rfl
  refine ⟨hexit, not_staysUp ?_⟩
  intro r hr
  rw [hexit] at hr
  cases hr

end CspTerm.Uplink
