import CspTerm.Uplink.Ownership
import CspTerm.Uplink.Proofs.SendPacketProofs

/-!
# When the packet buffer of an uplink is released exactly once

The callers of `send_packet_execute` free what was not consumed, and consumed is what `csp_sendto`
did not answer with `-1`. So a buffer is lost when `csp_sendto` fails with any other code.
`ping_sat_func` never frees, and it works on the buffer even if it got none.
-/

namespace CspTerm.Uplink

open CString CspTerm.Csp

variable {τ : Type}

/-! ## Counting releases -/

theorem releases_append (env : UplinkEnv τ) (es es' : List UplinkEvent) :
    releases env (es ++ es') = releases env es + releases env es' := List.countP_append

theorem releases_eq_zero {env : UplinkEnv τ} {es : List UplinkEvent}
    (h : ∀ e ∈ es, e.releases env = false) : releases env es = 0 :=
  List.countP_eq_zero.mpr fun e he => by rw [h e he]; decide

theorem releases_singleton (env : UplinkEnv τ) (e : UplinkEvent) :
    releases env [e] = (e.releases env).toNat := by
  unfold releases
  rw [List.countP_singleton]
  cases e.releases env <;> rfl

theorem groundCommand_consumed (env : UplinkEnv τ) (s : Station τ) (packet : CspPacket)
    (payload : List UInt8) : (groundCommand env s packet payload).consumed = false := by
  unfold groundCommand
  split
  · rfl
  · rename_i args
    rcases args with _ | ⟨no, args⟩ <;> rfl
  · rfl
  · rfl
  · split_ifs <;> rfl
  · split_ifs <;> rfl
  · rfl

theorem groundCommand_releases (env : UplinkEnv τ) (s : Station τ) (packet : CspPacket)
    (payload : List UInt8) : releases env (groundCommand env s packet payload).events = 0 := by
  rw [groundCommand_events]
  apply releases_eq_zero
  intro e he
  obtain ⟨c, -, rfl⟩ : ∃ c, requestedCommand payload = some c ∧ c.event = e := by simpa using he
  cases c <;> rfl

/-- Next to the dispatch, `send_packet_execute` releases nothing. -/
theorem sendPacketExecute_releases (env : UplinkEnv τ) (s : Station τ) (origin : Option CStr)
    (header : McsPacketHeader) (packet : CspPacket) (payload : Payload) (payloadLen : Nat) :
    releases env (sendPacketExecute env s origin (some header) (some packet) (some payload)
        payloadLen).events =
      releases env (executed env s header packet payload payloadLen).events := by
  have harch : ∀ path bytes, releases env (if env.openSent then
      [UplinkEvent.archive path bytes] else []) = 0 := fun path bytes => by
    split_ifs <;> rfl
  unfold sendPacketExecute
  simp only [releases_append, harch, releases_singleton, UplinkEvent.releases, Bool.toNat_false,
    Nat.zero_add, Nat.add_zero]

theorem sendPacketExecute_consumed (env : UplinkEnv τ) (s : Station τ) (origin : Option CStr)
    (header : McsPacketHeader) (packet : CspPacket) (payload : Payload) (payloadLen : Nat) :
    (sendPacketExecute env s origin (some header) (some packet) (some payload)
        payloadLen).consumed = (executed env s header packet payload payloadLen).consumed := rfl

theorem UplinkResult.releases_release (env : UplinkEnv τ) (r : UplinkResult τ) :
    releases env r.release.events = releases env r.events + if r.consumed then 0 else 1 := by
  unfold UplinkResult.release
  dsimp only
  split_ifs
  · rfl
  · rw [releases_append]
    rfl

/-- **The buffer of an executed request** is released once if the request is a ground command, or if
`csp_sendto` takes the packet or fails with the one code that is looked for. -/
theorem releases_executed_iff (env : UplinkEnv τ) (s : Station τ) (origin : Option CStr)
    (header : McsPacketHeader) (packet : CspPacket) (payload : Payload) (payloadLen : Nat) :
    releases env (sendPacketExecute env s origin (some header) (some packet) (some payload)
        payloadLen).release.events = 1 ↔
      (header.dst ≤ 15 → FailsWithMinusOne env (sendtoCall header (sized packet payloadLen))) := by
  rw [UplinkResult.releases_release, sendPacketExecute_releases, sendPacketExecute_consumed]
  by_cases hd : header.dst ≤ 15
  · rw [executed, dispatch_of_le hd]
    unfold sendToSatellite FailsWithMinusOne
    simp only [releases_singleton, UplinkEvent.releases]
    by_cases h0 : env.cspSendto (sendtoCall header (sized packet payloadLen)) = 0
    · simp [h0]
    · by_cases h1 : env.cspSendto (sendtoCall header (sized packet payloadLen)) = -1
      · simp [h1]
      · simp [hd, h0, h1]
  · rw [executed, dispatch_of_not_le hd, groundCommand_releases, groundCommand_consumed]
    simp [hd]

/-! ## The callers -/

/-- `send_packet` loses no buffer on this file: the file opens, and it is refused for its size, or
it fits the buffer and `csp_sendto` does not fail with a code that nobody looks for. -/
def FileReleased (env : UplinkEnv τ) (file : Option (List UInt8)) (packet : CspPacket) : Prop :=
  ∃ bytes, file = some bytes ∧ bytes.length ≤ mcsHeaderSize + cspBufferSize ∧
    (mcsHeaderSize < bytes.length → (decodedHeader bytes).dst ≤ 15 →
      FailsWithMinusOne env (sendtoCall (decodedHeader bytes)
        (filePacket (bytes.take mcsHeaderSize) (bytes.drop mcsHeaderSize) packet)))

/-- `send_packet_struct` loses no buffer on these arguments: an empty payload, the only one that it
sends, is not for the satellite, or `csp_sendto` does not fail with a code that nobody looks for. -/
def StructReleased (env : UplinkEnv τ) (header : McsPacketHeader) (payload : List UInt8)
    (packet : CspPacket) : Prop :=
  payload = [] → header.dst ≤ 15 →
    FailsWithMinusOne env (sendtoCall header { packet with length := 0 })

theorem sendPacket_releasedOnce_iff (env : UplinkEnv τ) (s : Station τ)
    (file : Option (List UInt8)) (packet : CspPacket) :
    ReleasedOnce env (some packet) ((sendPacket env s file (some packet)).map (·.events)) ↔
      FileReleased env file packet := by
  unfold FileReleased
  rcases file with _ | bytes
  · exact ⟨fun h => h.elim, fun ⟨_, h, _⟩ => (nomatch h)⟩
  simp only [Option.some.injEq, exists_eq_left']
  by_cases hshort : bytes.length ≤ mcsHeaderSize
  · rw [sendPacket_short env s packet hshort]
    exact ⟨fun _ => ⟨hshort.trans (Nat.le_add_right _ _), fun h => absurd hshort (Nat.not_le.mpr h)⟩,
      fun _ => rfl⟩
  by_cases hlong : mcsHeaderSize + cspBufferSize < bytes.length
  · rw [sendPacket_overrun env s packet hlong]
    exact ⟨fun h => h.elim, fun h => absurd h.1 (Nat.not_le.mpr hlong)⟩
  rw [sendPacket_fits env s packet (by omega) (by omega)]
  show releases env (UplinkResult.release _).events = 1 ↔ _
  rw [releases_executed_iff, sized_filePacket_take]
  exact ⟨fun h => ⟨by omega, fun _ => h⟩, fun h => h.2 (by omega)⟩

theorem sendPacketStruct_releasedOnce_iff (env : UplinkEnv τ) (s : Station τ)
    (origin : Option CStr) (header : McsPacketHeader) (payload : List UInt8)
    (packet : CspPacket) :
    ReleasedOnce env (some packet) (.returned
        (sendPacketStruct env s origin (some header) (some payload) (some packet)).events) ↔
      StructReleased env header payload packet := by
  unfold StructReleased
  rcases payload with _ | ⟨b, bs⟩
  · show releases env (UplinkResult.release _).events = 1 ↔ _
    rw [releases_executed_iff]
    exact ⟨fun h _ => h, fun h => h rfl⟩
  · rw [sendPacketStruct_refuses env s origin header packet (List.cons_ne_nil b bs)]
    exact ⟨fun _ h => (nomatch h), fun _ => rfl⟩

theorem pingSatFunc_releasedOnce_iff (env : UplinkEnv τ) (buffer : Option CspPacket) :
    ReleasedOnce env buffer ((pingSatFunc buffer).map Prod.snd) ↔
      ∃ packet, buffer = some packet ∧ env.cspSendto (pingSatCall packet) = 0 := by
  rcases buffer with _ | packet
  · exact ⟨fun h => h.elim, fun ⟨_, h, _⟩ => (nomatch h)⟩
  · show releases env [.cspSendto (pingSatCall packet)] = 1 ↔ _
    rw [releases_singleton]
    simp [UplinkEvent.releases]

/-- **When the packet buffer is released exactly once.** For every file, every request, every
answer of `csp_buffer_get` and every result of `csp_sendto`: `send_packet` and `send_packet_struct`
do so unless `csp_sendto` fails with a code other than `-1`, or the file does not open or overruns
the buffer; `ping_sat_func` does so only if it gets a buffer that `csp_sendto` then takes. -/
theorem releasedOnce_iff (env : UplinkEnv τ) (s : Station τ) :
    (∀ file buffer, ReleasedOnce env buffer ((sendPacket env s file buffer).map (·.events)) ↔
      ∀ packet, buffer = some packet → FileReleased env file packet) ∧
    (∀ origin header payload buffer,
      ReleasedOnce env (structBuffer header payload buffer)
          (.returned (sendPacketStruct env s origin header payload buffer).events) ↔
        ∀ h p packet, header = some h → payload = some p → buffer = some packet →
          StructReleased env h p packet) ∧
    (∀ buffer, ReleasedOnce env buffer ((pingSatFunc buffer).map Prod.snd) ↔
      ∃ packet, buffer = some packet ∧ env.cspSendto (pingSatCall packet) = 0) := by
  refine ⟨fun file buffer => ?_, fun origin header payload buffer => ?_,
    pingSatFunc_releasedOnce_iff env⟩
  · rcases buffer with _ | packet
    · exact ⟨fun _ _ h => (nomatch h), fun _ _ he => (nomatch he)⟩
    · rw [sendPacket_releasedOnce_iff]
      exact ⟨fun h _ hp => Option.some.inj hp ▸ h, fun h => h packet rfl⟩
  · rcases header with _ | header
    · exact ⟨fun _ _ _ _ h => (nomatch h), fun _ _ he => (nomatch he)⟩
    rcases payload with _ | payload
    · exact ⟨fun _ _ _ _ _ h => (nomatch h), fun _ _ he => (nomatch he)⟩
    rcases buffer with _ | packet
    · exact ⟨fun _ _ _ _ _ _ h => (nomatch h), fun _ _ he => (nomatch he)⟩
    · show ReleasedOnce env (some packet) _ ↔ _
      rw [sendPacketStruct_releasedOnce_iff]
      constructor
      · rintro h _ _ _ ⟨⟩ ⟨⟩ ⟨⟩
        exact h
      · exact fun h => h _ _ _ rfl rfl rfl

/-- `csp_sendto` fails with `CSP_ERR_NOTSUP`: the buffer of a one-byte file for the satellite is
lost. -/
theorem failed_uplink_keeps_buffer :
    ¬ ReleasedOnce (constEnv (-5) 1 : UplinkEnv Unit) (some CspPacket.zero)
      ((sendPacket (constEnv (-5) 1) (Station.init ())
        (some [0x94, 0x51, 0xC8, 0, 0, 1, 0xAA]) (some CspPacket.zero)).map (·.events)) := by
  intro h
  obtain ⟨bytes, hb, -, hd⟩ := (sendPacket_releasedOnce_iff _ _ _ _).mp h
  obtain rfl := Option.some.inj hb
  rcases hd (by decide) (by decide) with h0 | h1
  · exact absurd h0 (by show ¬ (-5 : Int) = 0; decide)
  · exact absurd h1 (by show ¬ (-5 : Int) = -1; decide)

end CspTerm.Uplink
