import CspTerm.Gui.HandleCommand

/-!
# What `GET_EVENTS` reports

The ring of events holds the newest events of the log of all that were pushed, so that the indices
that `GET_EVENTS` computes run over the end of the log. No event is longer than a message can be.
-/

namespace CspTerm.Gui

open CString Calendar

/-! ## The event log -/

/-- The arguments of a `gui_backend_push_event`, and the time it reads. -/
structure EventCall where
  now : Timespec
  type : GuiBackendEventType
  origin : CStr
  summary : CStr
  detail : CStr
deriving DecidableEq, Repr

def EventCall.push (g : GuiBackendState) (c : EventCall) : GuiBackendState :=
  guiBackendPushEvent g c.now c.type c.origin c.summary c.detail

/-- The event as pushed, cut to the widths of its fields. -/
def EventCall.event (c : EventCall) : GuiBackendEvent :=
  { type := c.type, timestamp := c.now, origin := strncpyCut 32 c.origin,
    summary := strncpyCut 128 c.summary, detail := strncpyCut 256 c.detail }

/-- The texts of the event are no longer than its fields. -/
structure GuiBackendEvent.Cut (e : GuiBackendEvent) : Prop where
  origin : e.origin.length < 32
  summary : e.summary.length < 128
  detail : e.detail.length < 256

theorem length_strncpyCut_lt {size : Nat} (s : CStr) (h : 0 < size) :
    (strncpyCut size s).length < size := by
  rw [strncpyCut, List.length_take]
  omega

theorem EventCall.event_cut (c : EventCall) : c.event.Cut :=
  ⟨length_strncpyCut_lt _ (by decide), length_strncpyCut_lt _ (by decide),
    length_strncpyCut_lt _ (by decide)⟩

/-- The ring holds the newest events of the log. -/
def GuiBackendState.Logs (g : GuiBackendState) (log : List GuiBackendEvent) : Prop :=
  have := guiBackendMaxEvents_neZero
  Ring.Holds g.events g.start g.count log

theorem logs_init : GuiBackendState.init.Logs [] := Ring.holds_nil _ _

/-- **Pushing an event logs it**, whether the ring is full or not. -/
theorem GuiBackendState.Logs.push {g : GuiBackendState} {log : List GuiBackendEvent}
    (h : g.Logs log) (c : EventCall) : (c.push g).Logs (log ++ [c.event]) := by
  have hle : g.count.val ≤ guiBackendMaxEvents := Nat.le_of_lt_succ g.count.isLt
  unfold EventCall.push guiBackendPushEvent
  dsimp only
  split_ifs with hc
  · exact Ring.Holds.push h hc c.event
  · have hfull : g.count.val = guiBackendMaxEvents := by omega
    have hstart : (g.start + 1).val = (g.start.val + 1) % guiBackendMaxEvents := Fin.val_add ..
    unfold GuiBackendState.Logs
    rw [hstart]
    exact Ring.Holds.push_full h hfull c.event

theorem logs_foldl {g : GuiBackendState} {log : List GuiBackendEvent} (h : g.Logs log)
    (calls : List EventCall) : (calls.foldl EventCall.push g).Logs (log ++ calls.map (·.event)) := by
  induction calls generalizing g log with
  | nil => simpa using h
  | cons c calls ih =>
    have hstep := ih (h.push c)
    rwa [List.append_assoc] at hstep

/-- The indices of `GET_EVENTS` run over the last events of the log. -/
theorem newestEvents_eq {g : GuiBackendState} {log : List GuiBackendEvent} (h : g.Logs log)
    (limit : Nat) :
    newestEvents g limit = log.drop (log.length - min limit (min log.length guiBackendMaxEvents)) := by
  have hcount : g.count.val = min log.length guiBackendMaxEvents := h.count_eq
  unfold newestEvents
  rw [← hcount]
  exact h.newest (Nat.min_le_right _ _)

/-! ## The length of an event -/

theorem length_fmtNat_le {n k : Nat} (hk : 0 < k) (h : n < 10 ^ k) : (fmtNat n).length ≤ k := by
  rw [fmtNat, List.length_map, Radix.digits]
  split_ifs with h0
  · exact hk
  · rw [List.length_reverse]
    exact (Nat.digits_length_le_iff (by decide) n).mpr h

theorem length_fmtInt_le {z : Int} {k : Nat} (hk : 0 < k) (h : z.natAbs < 10 ^ k) :
    (fmtInt z).length ≤ k + 1 := by
  have hle := length_fmtNat_le hk h
  unfold fmtInt
  split_ifs
  · rw [List.length_cons]
    omega
  · omega

theorem length_isoUtc_le (seconds : Int) : (isoUtc seconds).length ≤ 28 := by
  unfold isoUtc
  cases hg : gmtime seconds with
  | none => exact Nat.zero_le _
  | some tm =>
    have hyear : tm.year.natAbs < 10 ^ 10 := by
      unfold gmtime at hg
      dsimp only at hg
      split_ifs at hg with hrange
      obtain rfl := Option.some.inj hg
      dsimp only
      omega
    have hle := length_fmtInt_le (by decide) hyear
    have h1 : (cstr "-").length = 1 := rfl
    have h2 : (cstr "T").length = 1 := rfl
    have h3 : (cstr ":").length = 1 := rfl
    have h4 : (cstr "Z").length = 1 := rfl
    simp only [Option.elim_some, isoText, fmt02, List.length_append, List.length_cons,
      List.length_nil, h1, h2, h3, h4]
    omega

theorem length_eventLine_lt {e : GuiBackendEvent} (h : e.Cut) :
    (eventLine e).length < guiBackendBufferSize := by
  obtain ⟨ho, hs, hd⟩ := h
  have hiso := length_isoUtc_le e.timestamp.sec
  have htype : (guiBackendEventTypeToString e.type).length ≤ 8 := by
    cases e.type <;> decide
  have h1 : (cstr " ").length = 1 := rfl
  have h2 : (cstr " | ").length = 3 := rfl
  have h3 : (cstr " (").length = 2 := rfl
  have h4 : (cstr ")\n").length = 2 := rfl
  simp only [eventLine, List.length_append, h1, h2, h3, h4, guiBackendBufferSize]
  omega

theorem guiBackendSendFmt_of_lt {text : CStr} (h : text.length < guiBackendBufferSize) :
    guiBackendSendFmt text = text := List.take_of_length_le (by omega)

/-! ## `GET_EVENTS` -/

/-- The argument asks for `n` events: it is the number `n`, or it is missing and `n` is 64. -/
def AsksFor (token : Option CStr) (n : Nat) : Prop :=
  match token with
  | none => n = guiBackendMaxEvents
  | some token => guiBackendParseLong token 1 guiBackendMaxEvents = some (n : Int)

def okEvents (k : Nat) : CStr := cstr "OK EVENTS " ++ fmtNat k ++ cstr "\n"

/-- Every number up to 64 can be asked for. -/
theorem asksFor_fmtNat {n : Nat} (h1 : 1 ≤ n) (h2 : n ≤ guiBackendMaxEvents) :
    AsksFor (some (fmtNat n)) n := by
  have hall : ∀ n ∈ List.range 65, 1 ≤ n →
      guiBackendParseLong (fmtNat n) 1 guiBackendMaxEvents = some (n : Int) := by
    decide
  exact hall n (List.mem_range.mpr (Nat.lt_succ_of_le h2)) h1

theorem handleGetEvents_eq (g : GuiBackendState) {token : Option CStr} {n : Nat}
    (h : AsksFor token n) :
    guiBackendHandleGetEvents g token =
      [guiBackendSendFmt (okEvents (newestEvents g n).length)] ++
        (newestEvents g n).map (fun e => guiBackendSendFmt (eventLine e)) ++ [cstr "END\n"] := by
  cases token with
  | none =>
    obtain rfl : n = guiBackendMaxEvents := h
    rfl
  | some t =>
    have ht : guiBackendParseLong t 1 guiBackendMaxEvents = some (n : Int) := h
    simp only [guiBackendHandleGetEvents, Option.elim_some, ht, Option.map_some, Int.toNat_natCast]
    rfl

theorem okEvents_fits {k : Nat} (h : k ≤ guiBackendMaxEvents) :
    (okEvents k).length < guiBackendBufferSize := by
  have hk : k < 10 ^ 2 := Nat.lt_of_le_of_lt h (by decide)
  have hle := length_fmtNat_le (by decide) hk
  have h1 : (cstr "OK EVENTS ").length = 10 := rfl
  have h2 : (cstr "\n").length = 1 := rfl
  simp only [okEvents, List.length_append, h1, h2, guiBackendBufferSize]
  omega

/-- **`GET_EVENTS` reports exactly the newest events.** For every sequence of pushed events and
every number asked for: the last events of the sequence, as many as are asked for and there are,
oldest first, each with its texts as pushed. -/
theorem getEvents_newest (calls : List EventCall) {token : Option CStr} {n : Nat}
    (h : AsksFor token n) :
    let k := min n (min guiBackendMaxEvents calls.length)
    guiBackendHandleGetEvents (calls.foldl EventCall.push .init) token =
      [okEvents k] ++ ((calls.drop (calls.length - k)).map fun c => eventLine c.event) ++
        [cstr "END\n"] := by
  intro k
  have hlogs := logs_foldl logs_init calls
  have hnewest := newestEvents_eq hlogs n
  rw [List.nil_append, List.length_map, Nat.min_comm calls.length, ← List.map_drop] at hnewest
  have hlen : (newestEvents (calls.foldl EventCall.push .init) n).length = k := by
    rw [hnewest, List.length_map, List.length_drop]
    omega
  rw [handleGetEvents_eq _ h, hlen, guiBackendSendFmt_of_lt (okEvents_fits (by omega)), hnewest,
    List.map_map]
  have hlines : (fun e => guiBackendSendFmt (eventLine e)) ∘ EventCall.event =
      fun c : EventCall => eventLine c.event := by
    funext c
    exact guiBackendSendFmt_of_lt (length_eventLine_lt c.event_cut)
  rw [hlines]

/-- The last two of three events. -/
theorem getEvents_newest_two :
    let call (detail : String) : EventCall :=
      { now := ⟨0, 0⟩, type := .info, origin := cstr "GUI", summary := cstr "Station mode",
        detail := cstr detail }
    guiBackendHandleGetEvents
        ([call "TRACKING", call "MAINTENANCE", call "IDLE"].foldl EventCall.push .init)
        (some (fmtNat 2)) =
      [cstr "OK EVENTS 2\n",
       cstr "1970-01-01T00:00:00Z INFO GUI | Station mode (MAINTENANCE)\n",
       cstr "1970-01-01T00:00:00Z INFO GUI | Station mode (IDLE)\n",
       cstr "END\n"] := by
  intro call
  have h := getEvents_newest [call "TRACKING", call "MAINTENANCE", call "IDLE"]
    (asksFor_fmtNat (n := 2) (by decide) (by decide))
  rw [h]
  decide

end CspTerm.Gui
