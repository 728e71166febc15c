import CspTerm.Gui.HeaderFields
import CspTerm.Gui.Proofs.EmergencyProofs
import CspTerm.Uplink.Proofs.HeaderFieldsProofs

/-!
# When the requested header fields are honoured

`SEND_PACKET` is always refused. A file is sent with the station's own address and without options,
so its header is honoured only if it asks for that.
-/

namespace CspTerm.Gui

open CString CspTerm.Uplink CspTerm.Csp

variable {τ δ : Type}

/-- The fields of `SEND_PACKET` are refused, whatever they are. -/
theorem guiHonoured (env : BackendEnv τ) (net : SendEnv) (rest : CspData) (b : GuiBackend τ δ)
    (tokens : List CStr) : GuiHonoured env net rest b tokens := by
  obtain ⟨message, hmem, hr⟩ := handleSendPacket_refused (env.onNetwork net rest) b tokens
  have herr : ¬ cstr "OK" <+: message := by
    simp only [List.mem_cons, List.not_mem_nil, or_false] at hmem
    rcases hmem with rfl | rfl | rfl | rfl <;> decide
  unfold GuiHonoured
  rw [hr]
  refine fun h _ _ => ⟨?_, fun _ hp => (nomatch hp)⟩
  rintro ⟨m, hm, hok⟩
  obtain rfl := List.mem_singleton.mp hm
  exact absurd hok herr

/-- **When the requested header fields are honoured or refused.** For every request for the
satellite, every set of interfaces and every state: always from `SEND_PACKET`, which refuses them
all; from a file if it is refused for want of a buffer or of a payload, or if an interface is there
for it and it asks for the station's own address and for no option. -/
theorem fieldsHonoured_iff (net : SendEnv) (rest : CspData) :
    (∀ (env : UplinkEnv τ) (s : Station τ) (bytes : List UInt8) (buffer : Option CspPacket),
      (decodedHeader bytes).dst ≤ 15 →
        (McsHonoured env net rest s bytes buffer ↔
          buffer = none ∨ bytes.length ≤ mcsHeaderSize ∨
          (bytes.length ≤ mcsHeaderSize + cspBufferSize ∧
            Deliverable net (decodedHeader bytes).dst (headerByte bytes 5).toUInt16 ∧
            PlainRequest net (decodedHeader bytes)))) ∧
    (∀ (env : BackendEnv τ) (b : GuiBackend τ δ) (tokens : List CStr),
      GuiHonoured env net rest b tokens) :=
  ⟨fun env s bytes buffer hd => mcsHonoured_iff env net rest s bytes buffer hd,
    fun env b tokens => guiHonoured env net rest b tokens⟩

/-- A file that asks for the station's own address 10 and no option. -/
theorem plain_file_honoured :
    McsHonoured (constEnv 0 1 : UplinkEnv Unit) (openNetwork ⟨10, by decide⟩) CspPacket.zero.data
      (Station.init ()) [0x94, 0x51, 0xC8, 0, 0, 1, 0xAA] (some CspPacket.zero) :=
  ((fieldsHonoured_iff (τ := Unit) (δ := Int) (openNetwork ⟨10, by decide⟩) CspPacket.zero.data).1 _ _
    _ _ (by decide)).mpr (Or.inr (Or.inr ⟨by decide, ⟨_, rfl, rfl, by decide⟩,
      ⟨by decide, by decide, by decide, by decide, by decide⟩⟩))

/-- The same file with HMAC requested: it is sent without, and reported as successful. -/
theorem hmac_dropped :
    ¬ McsHonoured (constEnv 0 1 : UplinkEnv Unit) (openNetwork ⟨10, by decide⟩) CspPacket.zero.data
      (Station.init ()) [0x94, 0x51, 0xC8, 0x08, 0, 1, 0xAA] (some CspPacket.zero) := by
  rw [mcsHonoured_iff _ _ _ _ _ _ (by decide)]
  rintro (h | h | ⟨-, -, h⟩)
  · cases h
  · exact absurd h (by decide)
  · exact absurd h.hmac (by decide)

end CspTerm.Gui
