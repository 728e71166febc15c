import CspTerm.Archive.Proofs.TimestampProofs
import CspTerm.Downlink.Descriptions
import CspTerm.Gui.Proofs.EventsProofs
import CspTerm.Gui.Proofs.StatusTextProofs

/-!
# What the descriptions of a downlink packet tell

The file and the first message tell the packet's addresses, ports, length and time. The second
message has `(null)` for its time, and the ports exchanged, if there is a message at all.
-/

namespace CspTerm.Downlink

open CString CspTerm.Csp CspTerm.Gui CspTerm.Archive

variable {τ δ : Type}

/-! ## The text of a timestamp -/

/-- What a timestamp consists of: printable characters, not too many of them, and a digit or a minus
sign at its front. -/
structure TimeText (time : CStr) : Prop where
  plain : Json.Plain time
  length : time.length ≤ 77
  head : time.head? ≠ some 40

theorem plain_replicate {b : UInt8} (h : 32 ≤ b ∧ b ≠ 34 ∧ b ≠ 92) (k : Nat) :
    Json.Plain (List.replicate k b) := by
  intro c hc
  rw [List.eq_of_mem_replicate hc]
  exact h

theorem plain_fmtIntZeros (width : Nat) (z : Int) : Json.Plain (fmtIntZeros width z) := by
  have hzeros := plain_replicate (b := 48) (by decide)
  unfold fmtIntZeros
  split_ifs
  · intro b hb
    rcases List.mem_cons.mp hb with rfl | h
    · decide
    · exact ((hzeros _).append (plain_fmtNat _)) b h
  · exact (hzeros _).append (plain_fmtNat _)

theorem plain_fmtIntSpaces (width : Nat) (z : Int) : Json.Plain (fmtIntSpaces width z) :=
  (plain_replicate (b := 32) (by decide) _).append (plain_fmtInt z)

theorem plain_dateText (day : Int) (mon : Nat) (year hour min s : Int) :
    Json.Plain (dateText day mon year hour min s) := by
  have hdash : Json.Plain (cstr "-") := plain_text rfl
  have hblank : Json.Plain (cstr " ") := plain_text rfl
  have hcolon : Json.Plain (cstr ":") := plain_text rfl
  have h := ((plain_fmtIntZeros 2 day).append hdash).append (plain_fmtIntZeros 2 mon)
  have h := ((h.append hdash).append (plain_fmtIntSpaces 4 year)).append hblank
  have h := ((h.append (plain_fmtIntZeros 2 hour)).append hcolon).append (plain_fmtIntZeros 2 min)
  exact (h.append hcolon).append (plain_fmtIntZeros 2 s)

theorem length_fmtIntZeros_le {z : Int} (h : z.natAbs < 10 ^ 11) :
    (fmtIntZeros 2 z).length ≤ 12 := by
  have hle := length_fmtNat_le (by decide) h
  unfold fmtIntZeros
  split_ifs
  · simp only [List.length_cons, List.length_append, List.length_replicate]
    omega
  · simp only [List.length_append, List.length_replicate]
    omega

theorem length_fmtIntSpaces_le {z : Int} (h : z.natAbs < 10 ^ 11) :
    (fmtIntSpaces 4 z).length ≤ 12 := by
  have hle := length_fmtInt_le (by decide) h
  unfold fmtIntSpaces
  rw [List.length_append, List.length_replicate]
  omega

theorem head?_fmtIntZeros (width : Nat) (z : Int) (r : CStr) :
    (fmtIntZeros width z ++ r).head? ≠ some 40 := by
  have hdigit : ∀ b, Json.IsDigit b → b ≠ 40 := by
    rintro b ⟨h48, -⟩ rfl
    exact absurd h48 (by decide)
  have hdigits : ∀ k n, ∀ b ∈ List.replicate k 48 ++ fmtNat n, b ≠ 40 := by
    intro k n b hb
    rcases List.mem_append.mp hb with hzero | hn
    · rw [List.eq_of_mem_replicate hzero]
      decide
    · exact hdigit b (fmtNat_isDigit b hn)
  unfold fmtIntZeros
  split_ifs
  · intro h
    exact absurd (Option.some.inj h) (by decide)
  · intro h
    have hne : List.replicate (width - (fmtNat z.natAbs).length) 48 ++ fmtNat z.natAbs ≠ [] :=
      List.append_ne_nil_of_right_ne_nil _ (isNatural_fmtNat _).ne_nil
    rw [List.head?_append_of_ne_nil _ hne] at h
    exact hdigits _ _ 40 (List.mem_of_head? h) rfl

theorem length_dateText_le {day : Int} {mon : Nat} {year hour min s : Int}
    (hday : day.natAbs < 10 ^ 11) (hmon : mon < 10 ^ 11) (hyear : year.natAbs < 10 ^ 11)
    (hhour : hour.natAbs < 10 ^ 11) (hmin : min.natAbs < 10 ^ 11) (hs : s.natAbs < 10 ^ 11) :
    (dateText day mon year hour min s).length ≤ 77 := by
  have h₁ := length_fmtIntZeros_le hday
  have h₂ : (fmtIntZeros 2 mon).length ≤ 12 := length_fmtIntZeros_le (by omega)
  have h₃ := length_fmtIntSpaces_le hyear
  have h₄ := length_fmtIntZeros_le hhour
  have h₅ := length_fmtIntZeros_le hmin
  have h₆ := length_fmtIntZeros_le hs
  have hdash : (cstr "-").length = 1 := rfl
  have hblank : (cstr " ").length = 1 := rfl
  have hcolon : (cstr ":").length = 1 := rfl
  simp only [dateText, List.length_append, hdash, hblank, hcolon]
  omega

/-- Division towards zero and its remainder stay within bounds. -/
theorem natAbs_tdiv_bounds (a k : Int) :
    (a.tdiv k).natAbs ≤ a.natAbs ∧ (a - a.tdiv k * k).natAbs ≤ 2 * a.natAbs := by
  have hq : (a.tdiv k).natAbs = a.natAbs / k.natAbs := Int.natAbs_tdiv a k
  have hdiv : (a.tdiv k * k).natAbs ≤ a.natAbs := by
    rw [Int.natAbs_mul, hq]
    exact Nat.div_mul_le_self _ _
  exact ⟨by rw [hq]; exact Nat.div_le_self _ _, by omega⟩

theorem timeText_monthText {year mon : Nat} {s : Int} (hyear : year < 10 ^ 11) (hmon : mon ≤ 12)
    (hs : s.natAbs ≤ 2 ^ 31) : TimeText (monthText year mon s) := by
  obtain ⟨hday, hrest⟩ := natAbs_tdiv_bounds s (24 * 60 * 60)
  unfold monthText
  dsimp only
  rw [show s.tdiv (24 * 60 * 60) * 24 * 60 * 60 = s.tdiv (24 * 60 * 60) * (24 * 60 * 60) by ring]
  generalize s - s.tdiv (24 * 60 * 60) * (24 * 60 * 60) = s₁ at hrest ⊢
  obtain ⟨hhour, hrest₁⟩ := natAbs_tdiv_bounds s₁ (60 * 60)
  rw [show s₁.tdiv (60 * 60) * 60 * 60 = s₁.tdiv (60 * 60) * (60 * 60) by ring]
  generalize s₁ - s₁.tdiv (60 * 60) * (60 * 60) = s₂ at hrest₁ ⊢
  obtain ⟨hmin, hrest₂⟩ := natAbs_tdiv_bounds s₂ 60
  refine ⟨plain_dateText _ _ _ _ _ _, length_dateText_le ?_ ?_ ?_ ?_ ?_ ?_, ?_⟩
  · omega
  · omega
  · omega
  · omega
  · omega
  · omega
  · unfold dateText
    simp only [List.append_assoc]
    exact head?_fmtIntZeros 2 _ _

theorem sub_le_daysBeforeYear {base year : Nat} (h : base ≤ year) :
    year - base ≤ Gregorian.daysBeforeYear base year := by
  induction year, h using Nat.le_induction with
  | base => omega
  | succ year h ih =>
    have hpos : 0 < Gregorian.yearLength year := by
      unfold Gregorian.yearLength
      split_ifs <;> decide
    rw [Gregorian.daysBeforeYear_succ h]
    omega

/-- **The timestamps of the station.** -/
theorem timeText_getTime {clock : ClockTime} {time : CStr} (h : getTime clock = some time) :
    TimeText time := by
  have hpos : 0 ≤ clock.converted + 28800 := by
    unfold ClockTime.converted
    omega
  obtain ⟨year, mon, s, htext, hyear, -, hmon, hsum, -, hp, hz⟩ := getFormatTimestamp_fields _ hpos
  have hint : -2 ^ 31 ≤ toInt32 (clock.converted + 28800) ∧
      toInt32 (clock.converted + 28800) < 2 ^ 31 := by
    unfold toInt32
    omega
  have hdays := sub_le_daysBeforeYear hyear
  obtain rfl : monthText year mon s = time := Option.some.inj (htext.symm.trans h)
  refine timeText_monthText ?_ hmon ?_
  · by_cases h0 : 0 < toInt32 (clock.converted + 28800)
    · have := hp h0
      omega
    · have := hz (by omega)
      omega
  · by_cases h0 : 0 < toInt32 (clock.converted + 28800)
    · have := hp h0
      omega
    · have := hz (by omega)
      omega

/-! ## The messages -/

section

variable {type timestamp : CStr} {src dst dport sport length : Nat}

theorem statusJson_eq_print (htype : type.length ≤ 9) (htime : timestamp.length ≤ 77)
    (hsrc : src < 10 ^ 2) (hdst : dst < 10 ^ 2) (hdport : dport < 10 ^ 2) (hsport : sport < 10 ^ 2)
    (hlength : length < 10 ^ 5) :
    statusJson type timestamp src dst dport sport length =
      Json.print (.object (PacketInfo.members type timestamp ⟨src, dst, dport, sport, length⟩)) := by
  have h₁ := length_fmtNat_le (by decide) hsrc
  have h₂ := length_fmtNat_le (by decide) hdst
  have h₃ := length_fmtNat_le (by decide) hdport
  have h₄ := length_fmtNat_le (by decide) hsport
  have h₅ := length_fmtNat_le (by decide) hlength
  have htext : cstr "\x7b\"type\":\"" ++ type ++ cstr "\",\"timestamp\":\"" ++ timestamp ++
      cstr "\",\"src\":" ++ fmtNat src ++ cstr ",\"dst\":" ++ fmtNat dst ++
      cstr ",\"dport\":" ++ fmtNat dport ++ cstr ",\"sport\":" ++ fmtNat sport ++
      cstr ",\"length\":" ++ fmtNat length ++ cstr "\x7d" =
      Json.print (.object
        (PacketInfo.members type timestamp ⟨src, dst, dport, sport, length⟩)) := by
    simp only [PacketInfo.members, Json.print, Json.printMembers, List.append_assoc,
      List.cons_append, List.nil_append]
    rfl
  rw [← htext, statusJson]
  refine List.take_of_length_le ?_
  have c₁ : (cstr "\x7b\"type\":\"").length = 9 := rfl
  have c₂ : (cstr "\",\"timestamp\":\"").length = 15 := rfl
  have c₃ : (cstr "\",\"src\":").length = 8 := rfl
  have c₄ : (cstr ",\"dst\":").length = 7 := rfl
  have c₅ : (cstr ",\"dport\":").length = 9 := rfl
  have c₆ : (cstr ",\"sport\":").length = 9 := rfl
  have c₇ : (cstr ",\"length\":").length = 10 := rfl
  have c₈ : (cstr "\x7d").length = 1 := rfl
  simp only [List.length_append, c₁, c₂, c₃, c₄, c₅, c₆, c₇, c₈]
  omega

theorem tells_print {i : PacketInfo} (htype : Json.Plain type) (htime : Json.Plain timestamp) :
    Tells (Json.print (.object (i.members type timestamp))) type timestamp i := by
  constructor
  · refine Json.denotes_print (.object ?_)
    have hnumber : ∀ n, Json.Printable (.number (fmtNat n)) := fun n =>
      .number (.natural (isNatural_fmtNat n))
    exact .cons (plain_text rfl) (.string htype) (.cons (plain_text rfl) (.string htime)
      (.cons (plain_text rfl) (hnumber _) (.cons (plain_text rfl) (hnumber _)
      (.cons (plain_text rfl) (hnumber _) (.cons (plain_text rfl) (hnumber _)
      (.cons (plain_text rfl) (hnumber _) .nil))))))
  · rw [Json.print, ← List.cons_append, List.getLast?_concat]

/-- A message tells the timestamp that was printed into it. -/
theorem Tells.timestamp_eq {type' timestamp' : CStr} {i i' : PacketInfo}
    (h : Tells (Json.print (.object (i.members type timestamp))) type' timestamp' i')
    (htype : Json.Plain type) (htime : Json.Plain timestamp) : timestamp' = timestamp := by
  have hkey : Json.Plain (cstr "type") := plain_text rfl
  have hkey' : Json.Plain (cstr "timestamp") := plain_text rfl
  have htext : ∃ r, Json.print (.object (i.members type timestamp)) =
      123 :: 34 :: (cstr "type" ++ 34 :: 58 :: 34 :: (type ++ 34 :: 44 :: 34 ::
        (cstr "timestamp" ++ 34 :: 58 :: 34 :: (timestamp ++ 34 :: r)))) := by
    simp only [PacketInfo.members, Json.print, Json.printMembers, List.append_assoc,
      List.cons_append, List.nil_append]
    exact ⟨_, rfl⟩
  obtain ⟨r, hr⟩ := htext
  exact h.1.second_string hr hkey htype hkey' htime

end

/-! ## Saved packets -/

/-- Numbers that fit the fields of the messages. -/
theorem packetInfo_bounds (headerValues : HeaderValues) (length : UInt16) :
    headerValues.src.val < 10 ^ 2 ∧ headerValues.dst.val < 10 ^ 2 ∧
      headerValues.dport.val < 10 ^ 2 ∧ headerValues.sport.val < 10 ^ 2 ∧
      length.toNat < 10 ^ 5 := by
  have := headerValues.src.isLt
  have := headerValues.dst.isLt
  have := headerValues.dport.isLt
  have := headerValues.sport.isLt
  have := length.toNat_lt
  omega

theorem receivePacket_saved {crc16 : List UInt8 → Int → UInt16} {env : ReceiveEnv}
    {count : UInt32} {headerValues : HeaderValues} {packet : CspPacket} {r : Received}
    (h : (receivePacket crc16 env count headerValues packet).1 = .saved r) :
    ∃ time, getTime env.clock = some time ∧ r = received env time count headerValues packet := by
  unfold receivePacket at h
  cases htime : getTime env.clock with
  | none =>
    rw [htime] at h
    cases h
  | some time =>
    rw [htime, Option.elim_some] at h
    unfold receivePacketAt at h
    split at h
    · cases h
    · split_ifs at h
      exact ⟨time, rfl, (Reception.saved.inj h).symm⟩

theorem receivePacket_eq_saved {crc16 : List UInt8 → Int → UInt16} {env : ReceiveEnv}
    {packet : CspPacket} {time : CStr} (htime : getTime env.clock = some time)
    (hcrc : receivedCrc packet = some (crc16 packet.data.val (packet.length.toNat - 2)))
    (hopened : env.opened = true) (hheader : env.fwriteHeader ≠ 0) (count : UInt32)
    (headerValues : HeaderValues) :
    (receivePacket crc16 env count headerValues packet).1 =
      .saved (received env time count headerValues packet) := by
  unfold receivePacket
  rw [htime, Option.elim_some]
  unfold receivePacketAt
  rw [hcrc]
  dsimp only
  rw [if_neg (not_not_intro rfl), if_neg (by simp [hopened, hheader])]

/-- **What the first message tells**: the packet's addresses, ports, length and time. -/
theorem tells_telemetry {time : CStr} (h : TimeText time) (headerValues : HeaderValues)
    (length : UInt16) :
    Tells (statusJson (cstr "telemetry") time headerValues.src headerValues.dst headerValues.dport
      headerValues.sport length.toNat) (cstr "telemetry") time
      (packetInfo headerValues length) := by
  obtain ⟨hsrc, hdst, hdport, hsport, hlength⟩ := packetInfo_bounds headerValues length
  rw [statusJson_eq_print (by decide) h.length hsrc hdst hdport hsport hlength]
  exact tells_print (plain_text rfl) h.plain

/-- **What the second message tells**, for a packet without flags: `(null)` for the time, and each
port as the other one. -/
theorem tells_packet (headerValues : HeaderValues) (length : UInt16) :
    Tells (statusJson (cstr "packet") (cstr "(null)") headerValues.src headerValues.dst
      headerValues.sport headerValues.dport length.toNat) (cstr "packet") (cstr "(null)")
      { packetInfo headerValues length with
        dport := headerValues.sport, sport := headerValues.dport } := by
  obtain ⟨hsrc, hdst, hdport, hsport, hlength⟩ := packetInfo_bounds headerValues length
  rw [statusJson_eq_print (by decide) (by decide) hsrc hdst hsport hdport hlength]
  exact tells_print (plain_text rfl) (plain_text rfl)

/-- The messages of a saved packet have no common timestamp. -/
theorem timestamps_differ {crc16 : List UInt8 → Int → UInt16} {env : ReceiveEnv} {count : UInt32}
    {headerValues : HeaderValues} {packet : CspPacket} {r : Received}
    (h : (receivePacket crc16 env count headerValues packet).1 = .saved r) {text timestamp : CStr}
    (htext : text ∈ r.packet) {i : PacketInfo}
    (h₁ : Tells r.telemetry (cstr "telemetry") timestamp i)
    (h₂ : Tells text (cstr "packet") timestamp i) : False := by
  obtain ⟨time, htime, rfl⟩ := receivePacket_saved h
  have hshape := timeText_getTime htime
  obtain ⟨hsrc, hdst, hdport, hsport, hlength⟩ := packetInfo_bounds headerValues packet.length
  unfold received at h₁ htext
  dsimp only at h₁ htext
  rw [statusJson_eq_print (by decide) hshape.length hsrc hdst hdport hsport hlength] at h₁
  obtain rfl := h₁.timestamp_eq (plain_text rfl) hshape.plain
  rw [printAsString] at htext
  split_ifs at htext
  · obtain rfl := Option.mem_some_iff.mp htext
    dsimp only at h₂
    rw [statusJson_eq_print (by decide) (by decide) hsrc hdst hsport hdport hlength] at h₂
    have hnull := h₂.timestamp_eq (plain_text rfl) (plain_text rfl)
    rw [hnull] at hshape
    exact hshape.head rfl
  · cases htext

/-- **The descriptions of a downlink packet never agree.** For every packet that the CRC-checking
`receive_packet` accepts and saves, every connection header, and whatever the GUI backend holds. -/
theorem descriptions_disagree {crc16 : List UInt8 → Int → UInt16} {env : ReceiveEnv}
    {count : UInt32} {headerValues : HeaderValues} {packet : CspPacket} {r : Received}
    (h : (receivePacket crc16 env count headerValues packet).1 = .saved r)
    (b : GuiBackend τ δ) : ¬ DescriptionsAgree r b := by
  rintro ⟨_, _, timestamp, -, h₁, ⟨text, htext, h₂⟩, -⟩
  exact timestamps_differ h htext h₁ h₂

/-! ## A packet of one byte -/

def epoch : ClockTime := { tvSec := 0, tvNsec := 0, tvNsec_lt := by decide }

theorem getTime_epoch : getTime epoch = some (cstr "01-01-1970 08:00:00") := by
  have hyears : countYears (toInt32 28800) 1970 = (28800, 1970) := by
    rw [countYears]
    rfl
  have hmonths : countMonths days 28800 (31 * 24 * 60 * 60) 1 = some (28800, 1) := by
    rw [countMonths]
    rfl
  show getFormatTimestamp 28800 1970 = _
  rw [getFormatTimestamp_eq (by decide) hyears hmonths]
  decide +kernel

/-- Zeros, with the CRC of the first one. -/
def zeroPacket : CspPacket := { CspPacket.zero with length := 3 }

theorem receivedCrc_zeroPacket : receivedCrc zeroPacket = some 0 := by
  unfold receivedCrc
  dsimp only
  rw [if_pos (by decide)]
  rfl

/-- From node 5 to node 10, from port 50 to port 20. -/
def ground : HeaderValues where
  dst := addressField 10
  src := addressField 5
  sport := portField 50
  dport := portField 20
  flags := 0

theorem receivePacket_zeroPacket :
    (receivePacket (fun _ _ => 0) ⟨epoch, true, 6, 3⟩ 0 ground zeroPacket).1 =
      .saved (received ⟨epoch, true, 6, 3⟩ (cstr "01-01-1970 08:00:00") 0 ground zeroPacket) := by
  apply receivePacket_eq_saved
  · exact getTime_epoch
  · exact receivedCrc_zeroPacket
  · rfl
  · exact Nat.succ_ne_zero 5

theorem descriptions_disagree_zeroPacket :
    ¬ DescriptionsAgree
      (received ⟨epoch, true, 6, 3⟩ (cstr "01-01-1970 08:00:00") 0 ground zeroPacket)
      (@GuiBackend.init Unit Unit ⟨fun _ => (), fun _ _ => []⟩ ()) :=
  descriptions_disagree receivePacket_zeroPacket _

theorem packet_zeroPacket :
    (received ⟨epoch, true, 6, 3⟩ (cstr "01-01-1970 08:00:00") 0 ground zeroPacket).packet =
      some (cstr ("\x7b\"type\":\"packet\",\"timestamp\":\"(null)\",\"src\":5,\"dst\":10," ++
        "\"dport\":50,\"sport\":20,\"length\":3\x7d")) := by
  decide +kernel

/-- The second message of the packet has `(null)` for the time, and the ports exchanged. -/
theorem descriptions_of_zeroPacket :
    (receivePacket (fun _ _ => 0) ⟨epoch, true, 6, 3⟩ 0 ground zeroPacket).1 =
        .saved (received ⟨epoch, true, 6, 3⟩ (cstr "01-01-1970 08:00:00") 0 ground zeroPacket) ∧
      (received ⟨epoch, true, 6, 3⟩ (cstr "01-01-1970 08:00:00") 0 ground zeroPacket).packet =
        some (cstr ("\x7b\"type\":\"packet\",\"timestamp\":\"(null)\",\"src\":5,\"dst\":10," ++
          "\"dport\":50,\"sport\":20,\"length\":3\x7d")) ∧
      ¬ DescriptionsAgree
        (received ⟨epoch, true, 6, 3⟩ (cstr "01-01-1970 08:00:00") 0 ground zeroPacket)
        (@GuiBackend.init Unit Unit ⟨fun _ => (), fun _ _ => []⟩ ()) := by
  refine ⟨receivePacket_zeroPacket, packet_zeroPacket, ?_⟩
  rintro ⟨_, _, timestamp, -, h₁, ⟨text, htext, h₂⟩, -⟩
  exact timestamps_differ receivePacket_zeroPacket htext h₁ h₂

end CspTerm.Downlink
