import CspTerm.Archive.Timestamp

/-!
# The names of archived files (`receive_packet.c`, `tcp_server.c`)

Every downlink packet and every MCS message is written to a file of its own, opened for truncating
write. A downlink file is named by the timestamp and two digits of a free-running counter, an MCS
file by the timestamp alone.
-/

namespace CspTerm.Archive

open CString

/-- `time_file_recv`; `count` is the counter before the packet. -/
def downlinkFile (time : CStr) (count : UInt32) : CStr :=
  cstr "/home/rai/Desktop/GS_Server_Folder/Sent_To_MCS/" ++ time ++
    (cstr "_" ++ fmtIntZeros 2 (count.toNat % 100) ++ cstr ".bin")

/-- `fr_name`. -/
def mcsFile (time : CStr) : CStr :=
  cstr "/home/rai/Desktop/GS_Server_Folder/Received_From_MCS/" ++ time ++ cstr ".bin"

/-- Something to be archived, and the clock when it is. -/
inductive Arrival where
  | downlink (now : ClockTime)
  | mcs (now : ClockTime)
deriving DecidableEq

/-- The files that are opened, with the counter at `count`. -/
def archiveFiles (count : UInt32) : List Arrival → List (Option CStr)
  | [] => []
  | .downlink now :: as =>
    (getTime now).map (downlinkFile · count) :: archiveFiles (count + 1) as
  | .mcs now :: as => (getTime now).map mcsFile :: archiveFiles count as

/-! ## Bursts -/

/-- The clock second of an arrival. -/
def Arrival.second : Arrival → Nat
  | .downlink now | .mcs now => now.tvSec.toNat

def Arrival.downlinkSecond? : Arrival → Option Nat
  | .downlink now => some now.tvSec.toNat
  | .mcs _ => none

def Arrival.mcsSecond? : Arrival → Option Nat
  | .downlink _ => none
  | .mcs now => some now.tvSec.toNat

/-- The seconds in which downlink packets are saved. -/
def downlinkSeconds (as : List Arrival) : List Nat := as.filterMap Arrival.downlinkSecond?

def mcsSeconds (as : List Arrival) : List Nat := as.filterMap Arrival.mcsSecond?

/-- The clock does not go back. -/
def ClockNondecreasing (as : List Arrival) : Prop := (as.map Arrival.second).Pairwise (· ≤ ·)

/-- No second sees more than 100 downlink packets. -/
def AtMostHundred (as : List Arrival) : Prop := ∀ t, (downlinkSeconds as).count t ≤ 100

/-- More than 96 of the packets are saved in one second in which the counter wraps around. -/
def WrapsInBurst (seconds : List Nat) : Prop :=
  ∃ i t, seconds[i]? = some t ∧ seconds[i + 96]? = some t ∧ i / 2 ^ 32 < (i + 96) / 2 ^ 32

end CspTerm.Archive
