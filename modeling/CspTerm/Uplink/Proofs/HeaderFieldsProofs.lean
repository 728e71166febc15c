import CspTerm.Uplink.HeaderFields
import CspTerm.Uplink.Proofs.OwnershipProofs

/-!
# Which header fields of a file reach the interface

`send_packet_execute` gives `csp_sendto` no options and no source address, so the packet carries the
station's own address and no flag, whatever the header says.
-/

namespace CspTerm.Uplink

open CString CspTerm.Csp

variable {τ : Type}

/-! ## `csp_sendto` without options -/

/-- The identifier of a packet sent without options. -/
def plainId (net : SendEnv) (call : CspSendto) : CspId :=
  { pri := prioField call.prio, src := net.address, dst := addressField call.dest,
    dport := portField call.dport, sport := portField call.srcPort, flags := 0 }

theorem secured_zero (net : SendEnv) (packet : CspPacket) : secured net 0 packet = packet := rfl

/-- What `csp_send_direct` passes to an interface, of a packet of this node without flags. -/
theorem cspSendDirect_plain (net : SendEnv) {id : CspId} (hsrc : id.src = net.address)
    (hflags : id.flags = 0) (packet : CspPacket) {iface : CspIface}
    {nexthop : CspPacket → UInt32 → Int} (hnext : iface.nexthop = some nexthop)
    (timeout : UInt32) :
    (cspSendDirect net id packet (some iface) timeout).2 =
      if iface.mtu > 0 ∧ packet.length > iface.mtu then none
      else some { packet with id := id } := by
  unfold cspSendDirect
  simp only [hnext, if_pos hsrc, hflags, secured_zero]
  split_ifs <;> rfl

theorem CspSendto.run_plain (net : SendEnv) (rest : CspData) (call : CspSendto)
    (h : call.opts = 0) :
    call.run net rest =
      (if (cspSendDirect net (plainId net call) { sendtoPacket rest call with id := plainId net call }
          (net.rtableFindIface call.dest) call.timeout).1 ≠ cspErrNone then cspErrNotsup
        else cspErrNone,
        (cspSendDirect net (plainId net call) { sendtoPacket rest call with id := plainId net call }
          (net.rtableFindIface call.dest) call.timeout).2) := by
  unfold CspSendto.run
  rw [h]
  rfl

/-- Without options the only failure of `csp_sendto` is `CSP_ERR_NOTSUP`. -/
theorem CspSendto.run_plain_result (net : SendEnv) (rest : CspData) (call : CspSendto)
    (h : call.opts = 0) : (call.run net rest).1 = cspErrNotsup ∨
      (call.run net rest).1 = cspErrNone := by
  rw [CspSendto.run_plain net rest call h]
  dsimp only
  split_ifs
  · exact Or.inl rfl
  · exact Or.inr rfl

theorem CspSendto.run_passed (net : SendEnv) (rest : CspData) (call : CspSendto)
    (h : call.opts = 0) (hd : Deliverable net call.dest call.length) :
    (call.run net rest).2 = some { sendtoPacket rest call with id := plainId net call } := by
  obtain ⟨iface, hroute, hhop, hmtu⟩ := hd
  obtain ⟨nexthop, hnext⟩ := Option.isSome_iff_exists.mp hhop
  rw [CspSendto.run_plain net rest call h, hroute]
  dsimp only
  rw [cspSendDirect_plain net rfl rfl _ hnext]
  exact if_neg hmtu

theorem CspSendto.run_not_passed (net : SendEnv) (rest : CspData) (call : CspSendto)
    (h : call.opts = 0) (hd : ¬ Deliverable net call.dest call.length) :
    (call.run net rest).2 = none := by
  rw [CspSendto.run_plain net rest call h]
  dsimp only
  rcases hroute : net.rtableFindIface call.dest with _ | iface
  · rfl
  rcases hnext : iface.nexthop with _ | nexthop
  · unfold cspSendDirect
    simp only [hnext]
  · rw [cspSendDirect_plain net rfl rfl _ hnext]
    apply if_pos
    by_contra hmtu
    exact hd ⟨iface, hroute, by rw [hnext]; rfl, hmtu⟩

/-! ## The fields -/

theorem decodedHeader_fits (hexInput : List UInt8) : (decodedHeader hexInput).Fits := by
  have h0 := headerByte_lt hexInput 0
  have hval : ∀ {n m : Nat}, n < m → m ≤ 256 → n.toUInt8.toNat < m := fun {n m} h hm => by
    show n % 256 < m
    omega
  have hbit : ∀ n : Nat, (n % 2).toUInt8.toNat ≤ 1 := fun n =>
    Nat.le_of_lt_succ (hval (Nat.mod_lt _ (by omega)) (by omega))
  exact ⟨hval (by omega) (by omega), hval (Nat.mod_lt _ (by omega)) (by omega),
    hval (Nat.mod_lt _ (by omega)) (by omega), hval (Nat.mod_lt _ (by omega)) (by omega),
    hval (Nat.mod_lt _ (by omega)) (by omega), hbit _, hbit _, hbit _, hbit _⟩

/-- A packet sent without options carries a request exactly if that asks for the station's own
address and no option. -/
theorem carriesRequest_plainId_iff (net : SendEnv) {h : McsPacketHeader} (hf : h.Fits)
    (packet : CspPacket) :
    CarriesRequest h (plainId net (sendtoCall h packet)) ↔ PlainRequest net h := by
  have hflag : ∀ mask : UInt8, ((0 : UInt8) &&& mask ≠ 0) = False := fun mask => by simp
  constructor
  · intro hc
    have hz : ∀ {mask b : UInt8}, ((plainId net (sendtoCall h packet)).flags &&& mask ≠ 0 ↔ b ≠ 0) →
        b = 0 := fun {mask b} hb => by
      by_contra hne
      exact (hflag mask).mp (hb.mpr hne)
    exact ⟨hc.src.symm, hz hc.hmac, hz hc.xtea, hz hc.rdp, hz hc.crc⟩
  · intro hp
    have hz : ∀ {mask b : UInt8}, b = 0 →
        ((plainId net (sendtoCall h packet)).flags &&& mask ≠ 0 ↔ b ≠ 0) := fun {mask b} hb =>
      ⟨fun hne => ((hflag mask).mp hne).elim, fun hne => absurd hb hne⟩
    exact ⟨Nat.mod_eq_of_lt hf.priority, hp.src.symm, Nat.mod_eq_of_lt hf.dst,
      Nat.mod_eq_of_lt hf.dstPort, Nat.mod_eq_of_lt hf.srcPort, hz hp.hmac, hz hp.xtea, hz hp.rdp,
      hz hp.crc⟩

/-! ## Files -/

/-- A request without options, reported as successful, is honoured exactly if it is deliverable and
asks for what such a packet carries. -/
theorem fieldsHonoured_plain_iff (net : SendEnv) (rest : CspData) {h : McsPacketHeader}
    (hf : h.Fits) (packet : CspPacket) :
    FieldsHonoured h True (passedPackets net rest [sendtoCall h packet]) ↔
      Deliverable net h.dst packet.length ∧ PlainRequest net h := by
  unfold passedPackets
  by_cases hd : Deliverable net h.dst packet.length
  · have hp := CspSendto.run_passed net rest (sendtoCall h packet) rfl hd
    rw [List.filterMap_cons, hp, List.filterMap_nil]
    unfold FieldsHonoured
    rw [List.forall_mem_singleton, carriesRequest_plainId_iff net hf]
    exact ⟨fun hh => ⟨hd, hh.2⟩, fun hh => ⟨fun _ => List.cons_ne_nil _ _, hh.2⟩⟩
  · have hp := CspSendto.run_not_passed net rest (sendtoCall h packet) rfl hd
    rw [List.filterMap_cons, hp, List.filterMap_nil]
    exact ⟨fun hh => absurd rfl (hh.1 trivial), fun hh => absurd hh.1 hd⟩

/-- On a network, a request for the satellite is always reported as successful: `csp_sendto` does
not fail with the one code that is looked for. -/
theorem sendPacketExecute_onNetwork_ret (env : UplinkEnv τ) (net : SendEnv) (rest : CspData)
    (s : Station τ) (origin : Option CStr) {header : McsPacketHeader} (packet : CspPacket)
    (payload : Payload) (payloadLen : Nat) (hd : header.dst ≤ 15) :
    (sendPacketExecute (env.onNetwork net rest) s origin (some header) (some packet) (some payload)
      payloadLen).ret = 0 := by
  have hne : ¬ (env.onNetwork net rest).cspSendto
      (sendtoCall header (sized packet payloadLen)) = -1 := by
    show ¬ ((sendtoCall header (sized packet payloadLen)).run net rest).1 = -1
    rcases CspSendto.run_plain_result net rest
      (sendtoCall header (sized packet payloadLen)) rfl with h | h <;> rw [h] <;> decide
  rw [sendPacketExecute_ret, executed, dispatch_of_le hd]
  unfold sendToSatellite
  simp only [if_neg hne]
  rfl

/-- **Which files have their header fields honoured.** For every file with a request for the
satellite, every set of interfaces and every answer of `csp_buffer_get`: those that are refused for
want of a buffer or of a payload; and of the others those that an interface is there for, and that
ask for the station's own address and for no option. -/
theorem mcsHonoured_iff (env : UplinkEnv τ) (net : SendEnv) (rest : CspData) (s : Station τ)
    (bytes : List UInt8) (buffer : Option CspPacket) (hd : (decodedHeader bytes).dst ≤ 15) :
    McsHonoured env net rest s bytes buffer ↔
      buffer = none ∨ bytes.length ≤ mcsHeaderSize ∨
      (bytes.length ≤ mcsHeaderSize + cspBufferSize ∧
        Deliverable net (decodedHeader bytes).dst (headerByte bytes 5).toUInt16 ∧
        PlainRequest net (decodedHeader bytes)) := by
  have hne : ¬ (-1 : Int) = 0 := by decide
  unfold McsHonoured
  rw [header_decodeParameters]
  rcases buffer with _ | packet
  · refine ⟨fun _ => Or.inl rfl, fun _ => ⟨_, rfl, fun h => absurd h hne, ?_⟩⟩
    exact fun _ hp => (nomatch hp)
  by_cases hshort : bytes.length ≤ mcsHeaderSize
  · refine ⟨fun _ => Or.inr (Or.inl hshort), fun _ => ⟨_, sendPacket_short _ s packet hshort,
      fun h => absurd h hne, ?_⟩⟩
    exact fun _ hp => (nomatch hp)
  by_cases hlong : mcsHeaderSize + cspBufferSize < bytes.length
  · rw [sendPacket_overrun _ s packet hlong]
    refine ⟨fun ⟨_, h, _⟩ => (nomatch h), ?_⟩
    rintro (h | h | h)
    · cases h
    · exact absurd h hshort
    · exact absurd h.1 (Nat.not_le.mpr hlong)
  rw [sendPacket_fits _ s packet (by omega) (by omega)]
  have hplain := fieldsHonoured_plain_iff net rest (decodedHeader_fits bytes)
    (filePacket (bytes.take mcsHeaderSize) (bytes.drop mcsHeaderSize) packet)
  rw [filePacket_take_length] at hplain
  constructor
  · rintro ⟨r, hr, hh⟩
    obtain rfl := Ending.returned.inj hr
    rw [UplinkResult.release_sendtos, sendPacketExecute_sendtos, if_pos hd,
      sized_filePacket_take] at hh
    have hret := sendPacketExecute_onNetwork_ret env net rest s (some (cstr "MCS"))
      (filePacket (bytes.take mcsHeaderSize) (bytes.drop mcsHeaderSize) packet) .packetData
      (headerByte bytes 5) hd
    exact Or.inr (Or.inr ⟨by omega, hplain.mp ⟨fun _ => hh.1 hret, hh.2⟩⟩)
  · rintro (h | h | ⟨-, h⟩)
    · cases h
    · exact absurd h hshort
    · have hh := hplain.mpr h
      refine ⟨_, rfl, ?_⟩
      rw [UplinkResult.release_sendtos, sendPacketExecute_sendtos, if_pos hd, sized_filePacket_take]
      exact ⟨fun _ => hh.1 trivial, hh.2⟩

end CspTerm.Uplink
