import CspTerm.Downlink.DownlinkClient

/-!
# When forwarding to MCS is whole and goes to the current client

A call that forwards adds one whole file to a connection to the client that connected last, or the
first part of one, which closes the connection. The rest follows by induction on the run.
-/

namespace CspTerm.Downlink

/-! ## The blocks of a file -/

theorem flatten_freadBlocks (content : List UInt8) : (freadBlocks content).flatten = content := by
  induction content using freadBlocks.induct with
  | case1 => rw [freadBlocks, List.flatten_nil]
  | case2 b content ih => rw [freadBlocks, List.flatten_cons, ih, List.take_append_drop]

theorem freadBlocks_of_short {b : UInt8} {content : List UInt8}
    (h : (b :: content).length ≤ downlinkLength) : freadBlocks (b :: content) = [b :: content] := by
  rw [freadBlocks, List.take_of_length_le h, List.drop_of_length_le h, freadBlocks]

/-- **What a call puts on its connection**: all blocks, or the beginning of them if `send` fails. -/
theorem sendBlocks_spec {send : Nat → Option Nat} {i : Nat} {blocks : List (List UInt8)}
    (h : SendsInOrder send i blocks) :
    ((sendBlocks send i blocks).2 = false → (sendBlocks send i blocks).1 = blocks.flatten) ∧
      (sendBlocks send i blocks).1 <+: blocks.flatten := by
  induction blocks generalizing i with
  | nil => exact ⟨fun _ => rfl, List.prefix_rfl⟩
  | cons block blocks ih =>
    unfold sendBlocks
    cases htaken : send i with
    | none => exact ⟨fun hf => absurd hf.symm Bool.false_ne_true, List.nil_prefix⟩
    | some taken =>
      rw [List.flatten_cons]
      dsimp only
      rcases h taken htaken with ⟨hfull, hrest⟩ | ⟨hne, hfails⟩
      · obtain ⟨hall, hpart⟩ := ih hrest
        rw [List.take_of_length_le hfull]
        exact ⟨fun hf => by rw [hall hf], (List.prefix_append_right_inj block).mpr hpart⟩
      · obtain ⟨next, rest, rfl⟩ := List.exists_cons_of_ne_nil hne
        have hnext : sendBlocks send (i + 1) (next :: rest) = ([], true) := by
          rw [sendBlocks, hfails]
        rw [hnext, List.append_nil]
        exact ⟨fun hf => absurd hf.symm Bool.false_ne_true,
          (List.take_prefix taken block).trans (List.prefix_append block _)⟩

/-! ## One step -/

theorem opened_inUse (addr : UInt32) :
    (McsConnection.opened addr).Whole ∧ (McsConnection.opened addr).Addressed :=
  ⟨rfl, fun _ hf => absurd hf List.not_mem_nil⟩

/-- The connection of a call is the one in use, or a new one to the address that was copied. -/
theorem connectMcs_cases {s : Forwarding} {c : DownlinkCall} {conn : McsConnection}
    (h : connectMcs s c = some conn) :
    s.target = some conn.addr ∧
      (s.sock = some conn ∨ (s.sock = none ∧ conn = .opened conn.addr)) ∧
      (s.sock = none → c.socket ∧ s.clientAddr.isSome ∧ c.connect) := by
  unfold connectMcs at h
  unfold Forwarding.target
  cases hsock : s.sock with
  | some conn' =>
    rw [hsock] at h
    obtain rfl := Option.some.inj h
    exact ⟨rfl, Or.inl rfl, fun hnone => absurd hnone (Option.some_ne_none _)⟩
  | none =>
    rw [hsock] at h
    cases haddr : s.clientAddr with
    | none =>
      rw [haddr] at h
      dsimp only at h
      split_ifs at h
    | some addr =>
      rw [haddr] at h
      dsimp only at h
      split_ifs at h with hsocket hconnect
      obtain rfl := Option.some.inj h
      exact ⟨rfl, Or.inr ⟨rfl, rfl⟩, fun _ => ⟨hsocket, rfl, hconnect⟩⟩

theorem foldl_accept (s : Forwarding) (addrs : List UInt32) :
    addrs.foldl Forwarding.accept s = { s with clientAddr := addrs.getLast?.or s.clientAddr } := by
  induction addrs generalizing s with
  | nil => rfl
  | cons addr addrs ih =>
    rw [List.foldl_cons, ih, List.getLast?_cons]
    cases addrs.getLast? <;> rfl

/-- A file added to a connection of the client it is for. -/
theorem addressed_concat {conn : McsConnection} (h : conn.Addressed) {f : SentFile}
    (hf : f.client = some conn.addr) (bytes : List UInt8) :
    ({ conn with bytes := bytes, files := conn.files ++ [f] } : McsConnection).Addressed := by
  intro g hg
  rcases List.mem_append.mp hg with hold | hnew
  · exact h g hold
  · rw [List.mem_singleton.mp hnew]
    exact hf

theorem sendFile_faithful {s : Forwarding} (h : s.Faithful) {c : DownlinkCall}
    {conn : McsConnection} (hconn : conn.Whole ∧ conn.Addressed)
    (hforwards : ∀ content, c.file = some content →
      s.clientAddr = some conn.addr ∧ SendsInOrder c.send 0 (freadBlocks content)) :
    (sendFile s c conn).Faithful := by
  unfold sendFile
  cases hfile : c.file with
  | none =>
    refine ⟨fun conn' hsock => ?_, h.closed⟩
    obtain rfl := Option.some.inj hsock
    exact hconn
  | some content =>
    obtain ⟨haddr, hsends⟩ := hforwards content hfile
    obtain ⟨hall, hpart⟩ := sendBlocks_spec hsends
    rw [flatten_freadBlocks] at hall hpart
    have haddressed := addressed_concat (f := ⟨content, s.clientAddr⟩) hconn.2 haddr
      (conn.bytes ++ (sendBlocks c.send 0 (freadBlocks content)).1)
    have hcontents : ∀ bytes, ({ conn with
        bytes := bytes, files := conn.files ++ [⟨content, s.clientAddr⟩] } :
        McsConnection).contents = conn.contents ++ [content] := fun _ => List.map_append
    dsimp only
    split
    · refine ⟨fun _ hsock => absurd hsock.symm (Option.some_ne_none _), ?_⟩
      intro conn' hmem
      rcases List.mem_append.mp hmem with hold | hnew
      · exact h.closed conn' hold
      · obtain rfl := List.mem_singleton.mp hnew
        refine ⟨⟨conn.contents, content, _, hcontents _, hpart, ?_⟩, haddressed⟩
        rw [← hconn.1]
    · rename_i hok
      refine ⟨fun conn' hsock => ?_, h.closed⟩
      obtain rfl := Option.some.inj hsock
      refine ⟨?_, haddressed⟩
      unfold McsConnection.Whole
      rw [hcontents, List.flatten_append, List.flatten_singleton,
        hall (Bool.eq_false_iff.mpr hok), hconn.1]

theorem step_faithful {s : Forwarding} {a : ForwardingStep} (h : s.Faithful)
    (hforwards : s.Forwards a) : (s.step a).Faithful := by
  cases a with
  | accept addr => exact ⟨h.inUse, h.closed⟩
  | call c =>
    show (downlinkClient s c).Faithful
    unfold downlinkClient
    dsimp only
    rw [foldl_accept]
    have h' : ({ s with clientAddr := s.lastClient c } : Forwarding).Faithful :=
      ⟨h.inUse, h.closed⟩
    cases hconn : connectMcs s c with
    | none => exact h'
    | some conn =>
      obtain ⟨htarget, hcases, hsetup⟩ := connectMcs_cases hconn
      have hinUse : conn.Whole ∧ conn.Addressed := by
        rcases hcases with hold | ⟨-, hnew⟩
        · exact h.inUse conn hold
        · rw [hnew]
          exact opened_inUse conn.addr
      refine sendFile_faithful h' hinUse ?_
      intro content hfile
      obtain ⟨hclient, hsends⟩ := hforwards content ⟨hsetup, hfile⟩
      exact ⟨hclient.trans htarget, hsends⟩

theorem init_faithful : Forwarding.init.Faithful :=
  ⟨fun _ hsock => absurd hsock.symm (Option.some_ne_none _),
    fun _ hmem => absurd hmem List.not_mem_nil⟩

/-- **When forwarding is whole and goes to the current client.** In every run of `downlink_client`
calls and MCS clients connecting, if each call that sends a file has a connection to the client that
connected last and no short `send` goes unnoticed, then in every state the connections carry whole
files in call order, up to a part at a failed `send`, and each file went to the client of the
time. -/
theorem forwarding_faithful (steps : List ForwardingStep)
    (h : Run.Guarded Forwarding.step Forwarding.Forwards .init steps) :
    (steps.foldl Forwarding.step .init).Faithful :=
  Run.foldl_inv (fun _ _ hs hf => step_faithful hs hf) init_faithful h

/-- A file of one block, for one client. -/
theorem forwarding_faithful_one_file :
    ([.accept 1, .call ⟨true, true, [], some [10, 20, 30], fun _ => some 3⟩].foldl
      Forwarding.step .init).Faithful := by
  refine forwarding_faithful _ ⟨trivial, ?_, trivial⟩
  rintro content ⟨-, hfile⟩
  obtain rfl := Option.some.inj hfile
  rw [freadBlocks_of_short (by decide)]
  refine ⟨rfl, fun taken htaken => Or.inl ⟨?_, trivial⟩⟩
  obtain rfl := Option.some.inj htaken
  exact le_rfl

/-- A call that sends a file of one block. -/
theorem downlinkClient_of_short {s : Forwarding} {c : DownlinkCall} (conn : McsConnection)
    (b : UInt8) (content : List UInt8) (taken : Nat) (hconn : connectMcs s c = some conn)
    (harrivals : c.arrivals = []) (hfile : c.file = some (b :: content))
    (hlen : (b :: content).length ≤ downlinkLength) (hsend : c.send 0 = some taken) :
    downlinkClient s c = { s with sock := some { conn with
      bytes := conn.bytes ++ (b :: content).take taken
      files := conn.files ++ [{ content := b :: content, client := s.clientAddr }] } } := by
  unfold downlinkClient sendFile
  rw [hconn, harrivals, hfile]
  dsimp only [List.foldl_nil, Option.elim_some]
  rw [freadBlocks_of_short hlen, sendBlocks, hsend, sendBlocks]
  simp

/-- `send` takes two of the three bytes of a file, and the third one is lost. A client connects
while the connection to another one is in use, and the next file goes to the other one. -/
theorem forwarding_loses_and_misdirects :
    ¬ ([.accept 1, .call ⟨true, true, [], some [10, 20, 30], fun _ => some 2⟩].foldl
        Forwarding.step .init).Faithful ∧
      ¬ ([.accept 1, .call ⟨true, true, [], some [10], fun _ => some 1⟩, .accept 2,
        .call ⟨true, true, [], some [20], fun _ => some 1⟩].foldl
          Forwarding.step .init).Faithful := by
  constructor
  · intro h
    have hstate : downlinkClient ⟨some 1, none, []⟩
        ⟨true, true, [], some [10, 20, 30], fun _ => some 2⟩ =
        ⟨some 1, some ⟨1, [10, 20], [⟨[10, 20, 30], some 1⟩]⟩, []⟩ :=
      downlinkClient_of_short (.opened 1) 10 [20, 30] 2 rfl rfl rfl (by decide) rfl
    have hwhole := (h.inUse ⟨1, [10, 20], [⟨[10, 20, 30], some 1⟩]⟩
      (congrArg Forwarding.sock hstate)).1
    exact absurd hwhole (by unfold McsConnection.Whole; decide)
  · intro h
    have hfirst : downlinkClient ⟨some 1, none, []⟩ ⟨true, true, [], some [10], fun _ => some 1⟩ =
        ⟨some 1, some ⟨1, [10], [⟨[10], some 1⟩]⟩, []⟩ :=
      downlinkClient_of_short (.opened 1) 10 [] 1 rfl rfl rfl (by decide) rfl
    have hsecond : downlinkClient ⟨some 2, some ⟨1, [10], [⟨[10], some 1⟩]⟩, []⟩
        ⟨true, true, [], some [20], fun _ => some 1⟩ =
        ⟨some 2, some ⟨1, [10, 20], [⟨[10], some 1⟩, ⟨[20], some 2⟩]⟩, []⟩ :=
      downlinkClient_of_short ⟨1, [10], [⟨[10], some 1⟩]⟩ 20 [] 1 rfl rfl rfl (by decide) rfl
    have hrun : ([.accept 1, .call ⟨true, true, [], some [10], fun _ => some 1⟩, .accept 2,
        .call ⟨true, true, [], some [20], fun _ => some 1⟩].foldl Forwarding.step
          .init).sock = some ⟨1, [10, 20], [⟨[10], some 1⟩, ⟨[20], some 2⟩]⟩ := by
      show (downlinkClient (Forwarding.accept (downlinkClient _ _) 2) _).sock = _
      rw [show (Forwarding.init.step (.accept 1)) = ⟨some 1, none, []⟩ from rfl, hfirst]
      exact congrArg Forwarding.sock hsecond
    have haddr := (h.inUse _ hrun).2 ⟨[20], some 2⟩ (by decide)
    exact absurd haddr (by decide)

end CspTerm.Downlink
