import CspTerm.Csp.Rtable

/-!
# The route with the longest prefix

After any calls of `csp_rtable_set` the table stands for a function from networks to routes, and a
search finds the route of the longest network that the address belongs to.
-/

namespace CspTerm.Csp

variable {ι : Type}

/-! ## Networks -/

theorem hostbits_toBitVec (netmask : UInt8) :
    (hostbits netmask).toBitVec = Cidr.hostMask 8 (cspIdHostSize.toNat - netmask.toNat) := by
  have hle : cspIdHostSize.toNat - netmask.toNat ≤ 5 := Nat.sub_le ..
  rw [hostbits, Cidr.hostMask]
  generalize cspIdHostSize.toNat - netmask.toNat = k at hle
  interval_cases k <;> rfl

theorem sameNetwork_iff (netmask a b : UInt8) : sameNetwork netmask a b = true ↔
    Cidr.SameNet (cspIdHostSize.toNat - netmask.toNat) a.toBitVec b.toBitVec := by
  rw [sameNetwork, beq_iff_eq, Cidr.SameNet, ← hostbits_toBitVec, ← UInt8.toBitVec_inj]
  simp

/-- **Two networks of one length that share an address are the same.** -/
theorem RouteKey.Canonical.eq {k k' : RouteKey} {addr : UInt8} (h : k.Canonical)
    (h' : k'.Canonical) (hmask : k.netmask = k'.netmask) (hcovers : k.Covers addr)
    (hcovers' : k'.Covers addr) : k = k' := by
  obtain ⟨address, netmask⟩ := k
  obtain ⟨address', netmask'⟩ := k'
  simp only at hmask
  subst hmask
  have hzero {a : UInt8} (ha : a &&& hostbits netmask = 0) :
      a.toBitVec &&& Cidr.hostMask 8 (cspIdHostSize.toNat - netmask.toNat) = 0 := by
    rw [← hostbits_toBitVec, ← UInt8.toBitVec_and, ha]
    rfl
  have hsame := ((sameNetwork_iff ..).mp hcovers).trans ((sameNetwork_iff ..).mp hcovers').symm
  have heq : address = address' := UInt8.toBitVec_inj.mp (hsame.eq (hzero h.2) (hzero h'.2))
  rw [heq]

/-! ## Searching -/

/-- What the loop remembers of the entries that it has seen. -/
structure Best (addr : UInt8) (seen : List (CspRtable ι)) (best : Option Nat) (mask : UInt8) :
    Prop where
  missing : best = none → mask = 0 ∧ ∀ e ∈ seen, ¬ e.Covers addr
  found : ∀ k, best = some k → ∃ e, seen[k]? = some e ∧ e.Covers addr ∧ e.netmask = mask ∧
    ∀ e' ∈ seen, e'.Covers addr → e'.netmask ≤ mask

theorem best_nil (addr : UInt8) : Best addr ([] : List (CspRtable ι)) none 0 :=
  ⟨fun _ => ⟨rfl, fun _ h => nomatch h⟩, fun _ h => nomatch h⟩

variable {addr mask : UInt8} {seen : List (CspRtable ι)} {best : Option Nat}

theorem Best.covers_le (h : Best addr seen best mask) {e : CspRtable ι} (he : e ∈ seen)
    (hcovers : e.Covers addr) : e.netmask ≤ mask := by
  cases best with
  | none => exact absurd hcovers ((h.missing rfl).2 e he)
  | some k =>
    obtain ⟨_, _, _, _, hmax⟩ := h.found k rfl
    exact hmax e he hcovers

/-- An entry that is at least as good as the best one. -/
theorem Best.better (h : Best addr seen best mask) {i : CspRtable ι} (hcovers : i.Covers addr)
    (hmask : mask ≤ i.netmask) : Best addr (seen ++ [i]) (some seen.length) i.netmask where
  missing := nofun
  found k hk := by
    refine ⟨i, ?_, hcovers, rfl, fun e he hecovers => ?_⟩
    · rw [← Option.some.inj hk, List.getElem?_concat_length]
    · rcases List.mem_append.mp he with he | he
      · exact UInt8.le_trans (h.covers_le he hecovers) hmask
      · rw [List.mem_singleton.mp he]
        exact UInt8.le_refl _

theorem Best.worse (h : Best addr seen best mask) {i : CspRtable ι}
    (hi : i.Covers addr → i.netmask < mask) : Best addr (seen ++ [i]) best mask where
  missing hbest := by
    obtain ⟨hzero, hnone⟩ := h.missing hbest
    refine ⟨hzero, fun e he hcovers => ?_⟩
    rcases List.mem_append.mp he with he | he
    · exact hnone e he hcovers
    · rw [List.mem_singleton.mp he] at hcovers
      have hlt := hi hcovers
      rw [hzero] at hlt
      exact absurd hlt (UInt8.not_lt.mpr UInt8.zero_le)
  found k hk := by
    obtain ⟨e, he, hcovers, hmask, hmax⟩ := h.found k hk
    refine ⟨e, ?_, hcovers, hmask, fun e' he' hcovers' => ?_⟩
    · rw [List.getElem?_append_left (List.getElem?_eq_some_iff.mp he).1, he]
    · rcases List.mem_append.mp he' with he' | he'
      · exact hmax e' he' hcovers'
      · rw [List.mem_singleton.mp he'] at hcovers' ⊢
        exact UInt8.le_of_lt (hi hcovers')

/-- **The search for a node** finds an entry with the longest mask, or there is none. -/
theorem rtableFindFrom_best (rest : List (CspRtable ι)) (h : Best addr seen best mask)
    (hmasks : ∀ e ∈ seen ++ rest, e.netmask ≤ cspIdHostSize) :
    ∃ m, Best addr (seen ++ rest)
      (rtableFindFrom addr cspIdHostSize false rest seen.length best mask) m := by
  induction rest generalizing seen best mask with
  | nil =>
    rw [List.append_nil]
    exact ⟨mask, h⟩
  | cons i rest ih =>
    rw [List.append_cons] at hmasks ⊢
    have hlength : (seen ++ [i]).length = seen.length + 1 := by
      rw [List.length_append, List.length_singleton]
    rw [rtableFindFrom]
    split
    · next hexact =>
      have hcovers : i.Covers addr := by
        rw [RouteKey.Covers, hexact.1]
        exact beq_self_eq_true _
      refine ⟨i.netmask, nofun, fun k hk => ⟨i, ?_, hcovers, rfl, fun e he _ => ?_⟩⟩
      · rw [← Option.some.inj hk, List.getElem?_append_left (by rw [hlength]; omega),
          List.getElem?_concat_length]
      · rw [hexact.2]
        exact hmasks e he
    · split
      · next hbetter =>
        rw [← hlength]
        exact ih (h.better hbetter.2.1 hbetter.2.2) hmasks
      · next hworse =>
        rw [← hlength]
        exact ih (h.worse fun hcovers =>
          UInt8.not_le.mp fun hle => hworse ⟨rfl, hcovers, hle⟩) hmasks

/-- **The search for an entry of this key.** -/
theorem rtableFindFrom_exact (address netmask : UInt8) (rest : List (CspRtable ι)) (k : Nat)
    (best : Option Nat) (mask : UInt8) :
    rtableFindFrom address netmask true rest k best mask
      = ((rest.findIdx? fun e => e.toRouteKey = ⟨address, netmask⟩).map (· + k)).or best := by
  induction rest generalizing k with
  | nil => rfl
  | cons i rest ih =>
    have hkey : i.toRouteKey = ⟨address, netmask⟩ ↔ i.address = address ∧ i.netmask = netmask := by
      rw [RouteKey.mk.injEq]
    rw [rtableFindFrom, List.findIdx?_cons]
    split
    · next hexact => simp [hkey.mpr hexact]
    · next hother =>
      rw [if_neg (by simp), ih, decide_eq_false (hkey.not.mpr hother)]
      cases rest.findIdx? fun e => e.toRouteKey = ⟨address, netmask⟩ with
      | none => rfl
      | some j => simp [Nat.add_comm, Nat.add_left_comm]

/-! ## Runs -/

/-- The table stands for these routes. -/
structure Represents (rtable : List (CspRtable ι)) (routes : Routes ι) : Prop where
  nodup : (rtable.map CspRtable.toRouteKey).Nodup
  routes : ∀ e : CspRtable ι, e ∈ rtable ↔ routes e.toRouteKey = some (e.interface, e.mac)

theorem represents_nil : Represents ([] : List (CspRtable ι)) fun _ => none :=
  ⟨List.nodup_nil, fun _ => ⟨nofun, nofun⟩⟩

/-- The position of a key, or none. -/
theorem cspRtableFind_exact (rtable : List (CspRtable ι)) (key : RouteKey) :
    cspRtableFind rtable key.address key.netmask true
      = rtable.findIdx? fun e => e.toRouteKey = key := by
  rw [cspRtableFind, rtableFindFrom_exact]
  cases rtable.findIdx? fun e => e.toRouteKey = key <;> simp

/-- An entry takes the place of the one with its key. -/
theorem mem_set_iff {rtable : List (CspRtable ι)} (hnodup : (rtable.map CspRtable.toRouteKey).Nodup)
    {k : Nat} (hk : k < rtable.length) {entry : CspRtable ι}
    (hkey : rtable[k].toRouteKey = entry.toRouteKey) (e : CspRtable ι) :
    e ∈ rtable.set k entry ↔
      e = entry ∨ (e ∈ rtable ∧ e.toRouteKey ≠ entry.toRouteKey) := by
  rw [List.mem_iff_getElem]
  constructor
  · rintro ⟨j, hj, rfl⟩
    rw [List.length_set] at hj
    rw [List.getElem_set]
    split
    · exact Or.inl rfl
    · next hne =>
      refine Or.inr ⟨List.getElem_mem hj, fun hsame => hne ?_⟩
      refine (@List.getElem_inj _ _ _ _ (by simpa using hk) (by simpa using hj) hnodup).mp ?_
      simpa using hkey.trans hsame.symm
  · rintro (rfl | ⟨he, hne⟩)
    · exact ⟨k, by simpa using hk, List.getElem_set_self _⟩
    · obtain ⟨j, hj, rfl⟩ := List.mem_iff_getElem.mp he
      refine ⟨j, by simpa using hj, List.getElem_set_ne ?_ _⟩
      rintro rfl
      exact hne hkey

theorem Represents.isSome_iff {rtable : List (CspRtable ι)} {routes : Routes ι}
    (h : Represents rtable routes) (key : RouteKey) :
    (routes key).isSome ↔ ∃ e ∈ rtable, e.toRouteKey = key := by
  constructor
  · intro hsome
    obtain ⟨⟨ifc, mac⟩, hroute⟩ := Option.isSome_iff_exists.mp hsome
    exact ⟨{ toRouteKey := key, mac := mac, interface := ifc }, (h.routes _).mpr hroute, rfl⟩
  · rintro ⟨e, he, rfl⟩
    rw [(h.routes e).mp he]
    rfl

/-- The entries of the routes after one of them was set. -/
theorem Represents.update_iff {rtable : List (CspRtable ι)} {routes : Routes ι}
    (h : Represents rtable routes) (entry e : CspRtable ι) :
    (e = entry ∨ (e ∈ rtable ∧ e.toRouteKey ≠ entry.toRouteKey)) ↔
      (if e.toRouteKey = entry.toRouteKey then some (entry.interface, entry.mac)
        else routes e.toRouteKey) = some (e.interface, e.mac) := by
  split
  · next hkey =>
    obtain ⟨key, mac, ifc⟩ := e
    obtain ⟨key', mac', ifc'⟩ := entry
    simp only at hkey
    subst hkey
    simp [eq_comm, and_comm]
  · next hkey =>
    rw [← h.routes e]
    exact ⟨fun he => he.elim (fun heq => absurd (heq ▸ rfl) hkey) And.left,
      fun he => Or.inr ⟨he, hkey⟩⟩

/-- **One call** changes the route of one network. -/
theorem Represents.apply {rtable : List (CspRtable ι)} {routes : Routes ι}
    (h : Represents rtable routes) (c : RouteSet ι) :
    Represents (c.apply rtable) (routes.set c) := by
  rw [RouteSet.apply, cspRtableSet, Routes.set]
  simp only [cspRtableFind_exact]
  generalize hkey : routeKey c.address c.netmask = key
  set entry : CspRtable ι := { toRouteKey := key, mac := c.mac, interface := c.interface }
  cases hfind : rtable.findIdx? fun e => e.toRouteKey = key with
  | some k =>
    obtain ⟨hk, hat, -⟩ := List.findIdx?_eq_some_iff_getElem.mp hfind
    have hsame : rtable[k].toRouteKey = entry.toRouteKey := of_decide_eq_true hat
    rw [if_pos (Or.inr ((h.isSome_iff key).mpr ⟨_, List.getElem_mem hk, hsame⟩))]
    refine ⟨?_, fun e => (mem_set_iff h.nodup hk hsame e).trans (h.update_iff entry e)⟩
    have hkeys : (rtable.set k entry).map CspRtable.toRouteKey = rtable.map CspRtable.toRouteKey := by
      rw [List.map_set, ← hsame]
      apply List.ext_getElem (by simp)
      intro j _ _
      rw [List.getElem_set]
      split
      · next heq => simp [heq]
      · rfl
    rw [hkeys]
    exact h.nodup
  | none =>
    have hnone := List.findIdx?_eq_none_iff.mp hfind
    have hnew : ∀ e ∈ rtable, e.toRouteKey ≠ key := fun e he => of_decide_eq_false (hnone e he)
    have hroute : (routes key).isSome = false := by
      rw [← Bool.not_eq_true, h.isSome_iff]
      rintro ⟨e, he, heq⟩
      exact hnew e he heq
    rw [hroute]
    dsimp only
    split
    · next hmalloc =>
      rw [if_pos (Or.inl hmalloc)]
      refine ⟨?_, fun e => Iff.trans ?_ (h.update_iff entry e)⟩
      · rw [List.map_append, List.nodup_append]
        refine ⟨h.nodup, List.nodup_singleton _, fun a ha b hb => ?_⟩
        obtain ⟨e, he, rfl⟩ := List.mem_map.mp ha
        rw [List.mem_singleton.mp hb]
        exact hnew e he
      · rw [List.mem_append, List.mem_singleton, or_comm]
        exact or_congr_right ⟨fun he => ⟨he, hnew e he⟩, And.left⟩
    · next hmalloc =>
      rw [if_neg (by simpa using hmalloc)]
      exact h

theorem represents_run (calls : List (RouteSet ι)) {rtable : List (CspRtable ι)}
    {routes : Routes ι} (h : Represents rtable routes) :
    Represents (calls.foldl RouteSet.apply rtable) (calls.foldl Routes.set routes) := by
  induction calls generalizing rtable routes with
  | nil => exact h
  | cons c calls ih => exact ih (h.apply c)

/-- Only networks of the calls have routes. -/
theorem mem_keys_of_route {calls : List (RouteSet ι)} {routes : Routes ι} {key : RouteKey}
    (h : (calls.foldl Routes.set routes key).isSome) :
    (routes key).isSome ∨ ∃ c ∈ calls, routeKey c.address c.netmask = key := by
  induction calls generalizing routes with
  | nil => exact Or.inl h
  | cons c calls ih =>
    rcases ih h with hroute | ⟨c', hc', hkey⟩
    · by_cases hkey : routeKey c.address c.netmask = key
      · exact Or.inr ⟨c, List.mem_cons_self, hkey⟩
      · refine Or.inl ?_
        rw [Routes.set] at hroute
        split at hroute
        · dsimp only at hroute
          rwa [if_neg (Ne.symm hkey)] at hroute
        · exact hroute
    · exact Or.inr ⟨c', List.mem_cons_of_mem c hc', hkey⟩

/-- What a search for a node finds. -/
theorem Represents.rtableEntry_spec {rtable : List (CspRtable ι)} {routes : Routes ι}
    (hrep : Represents rtable routes) (hkeys : ∀ k, (routes k).isSome → k.Canonical) (addr : UInt8) :
    match rtableEntry rtable addr with
    | some e => Cidr.Chosen RouteKey.Covers (fun k => k.netmask.toNat) routes addr e.toRouteKey
        (e.interface, e.mac)
    | none => ∀ k : RouteKey, (routes k).isSome → ¬ k.Covers addr := by
  obtain ⟨m, hbest⟩ := rtableFindFrom_best rtable (best_nil addr) fun e he =>
    (hkeys _ ((hrep.isSome_iff _).mpr ⟨e, he, rfl⟩)).1
  rw [List.nil_append, List.length_nil, ← cspRtableFind] at hbest
  rw [rtableEntry]
  generalize cspRtableFind rtable addr cspIdHostSize false = best at hbest
  cases best with
  | none =>
    intro k hk hcovers
    obtain ⟨e, he, rfl⟩ := (hrep.isSome_iff k).mp hk
    exact (hbest.missing rfl).2 e he hcovers
  | some k =>
    obtain ⟨e, he, hcovers, hmask, hmax⟩ := hbest.found k rfl
    rw [Option.bind_some, he]
    refine ⟨(hrep.routes e).mp (List.mem_of_getElem? he), hcovers, fun k' hk' hcovers' => ?_⟩
    obtain ⟨e', he', rfl⟩ := (hrep.isSome_iff k').mp hk'
    rw [hmask]
    exact UInt8.le_iff_toNat_le.mp (hmax e' he' hcovers')

/-- **The longest prefix.** After any calls for networks without host bits, the search for a node finds
the route that was last set for the longest network of the node, and none just if the node is in no
network. -/
theorem rtableEntry_longest {calls : List (RouteSet ι)}
    (hcanonical : ∀ c ∈ calls, (routeKey c.address c.netmask).Canonical) (addr : UInt8) :
    (∀ e : CspRtable ι, rtableEntry (calls.foldl RouteSet.apply []) addr = some e ↔
      Cidr.Chosen RouteKey.Covers (fun k => k.netmask.toNat)
        (calls.foldl Routes.set fun _ => none) addr e.toRouteKey (e.interface, e.mac)) ∧
    (rtableEntry (calls.foldl RouteSet.apply []) addr = none ↔
      ∀ k : RouteKey, ((calls.foldl Routes.set fun _ => none) k).isSome → ¬ k.Covers addr) := by
  have hrep : Represents (calls.foldl RouteSet.apply []) (calls.foldl Routes.set fun _ => none) :=
    represents_run calls represents_nil
  have hkeys (k : RouteKey) (hk : ((calls.foldl Routes.set fun _ => none) k).isSome) :
      k.Canonical := by
    rcases mem_keys_of_route hk with hnone | ⟨c, hc, rfl⟩
    · cases hnone
    · exact hcanonical c hc
  have hspec := hrep.rtableEntry_spec hkeys addr
  generalize (calls.foldl Routes.set fun _ => none) = routes at hrep hkeys hspec
  cases hentry : rtableEntry (calls.foldl RouteSet.apply []) addr with
  | none =>
    rw [hentry] at hspec
    refine ⟨fun e => ⟨nofun, fun hchosen => ?_⟩, fun _ => hspec, fun _ => rfl⟩
    exact absurd hchosen.covers (hspec _ (by rw [hchosen.route]; rfl))
  | some e =>
    rw [hentry] at hspec
    refine ⟨fun e' => ⟨fun heq => Option.some.inj heq ▸ hspec, fun hchosen => ?_⟩, nofun,
      fun hnone => absurd hspec.covers (hnone _ (by rw [hspec.route]; rfl))⟩
    obtain ⟨hkey, hhop⟩ := hspec.unique hchosen fun k k' hk hk' hmask hcovers hcovers' =>
      (hkeys k hk).eq (hkeys k' hk') (UInt8.toNat_inj.mp hmask) hcovers hcovers'
    obtain ⟨key, mac, ifc⟩ := e
    obtain ⟨key', mac', ifc'⟩ := e'
    simp only [Prod.mk.injEq] at hkey hhop
    rw [hkey, hhop.1, hhop.2]

theorem rtableEntry_longest_two :
    let calls : List (RouteSet Bool) := [⟨true, 8, 2, true, 255⟩, ⟨true, 8, 5, false, 255⟩]
    (∀ e, rtableEntry (calls.foldl RouteSet.apply []) 9 = some e ↔
      Cidr.Chosen RouteKey.Covers (fun k => k.netmask.toNat)
        (calls.foldl Routes.set fun _ => none) 9 e.toRouteKey (e.interface, e.mac)) ∧
    (rtableEntry (calls.foldl RouteSet.apply []) 9 = none ↔
      ∀ k : RouteKey, ((calls.foldl Routes.set fun _ => none) k).isSome → ¬ k.Covers 9) := by
  intro calls
  have hcanonical : ∀ c ∈ calls, (routeKey c.address c.netmask).Canonical := by decide
  exact rtableEntry_longest hcanonical 9

end CspTerm.Csp
