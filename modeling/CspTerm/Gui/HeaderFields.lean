import CspTerm.Gui.HandleCommand
import CspTerm.Uplink.HeaderFields

/-!
# The header fields of `SEND_PACKET`

The command handler over `csp_sendto` on a set of interfaces.
-/

namespace CspTerm.Gui

open CString CspTerm.Uplink CspTerm.Csp

variable {τ δ : Type}

def BackendEnv.onNetwork (env : BackendEnv τ) (net : SendEnv) (rest : CspData) : BackendEnv τ :=
  { env with toUplinkEnv := env.toUplinkEnv.onNetwork net rest }

def Actuation.sendto? : Actuation → Option CspSendto
  | .uplink e => e.sendto?
  | .serialWrite _ | .mcsSatSel _ | .rparamSetUint32 _ => none

/-- The client is told that the request was carried out. -/
def AnswersOk (messages : List CStr) : Prop := ∃ m ∈ messages, cstr "OK" <+: m

/-- The fields of a `SEND_PACKET` for the satellite are honoured or refused. -/
def GuiHonoured (env : BackendEnv τ) (net : SendEnv) (rest : CspData) (b : GuiBackend τ δ)
    (tokens : List CStr) : Prop :=
  let r := b.handleSendPacket (env.onNetwork net rest) tokens
  ∀ h, packetHeader tokens = some h → h.dst ≤ 15 →
    FieldsHonoured h (AnswersOk r.messages)
      (passedPackets net rest (r.actuations.filterMap (·.sendto?)))

end CspTerm.Gui
