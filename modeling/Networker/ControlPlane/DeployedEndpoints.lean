/-
The endpoint lists of an installer run, over every sequence of lines.

* `Denotes`, `Names`: an entry is an address or a cloud name that a line gave it; a host is an
  address or a name that a line gave it;
* `Aligned`: both lists have one length, and both entries of a position are of one address;
* `Distinct`: no address is at two positions;
* `Safe`: a line that adds no second entry for an address, over the lines before it;
* `Inv`: what the lists always keep; `Inv.bind` is its step lemma;
* `distinct_bind_iff`: a line keeps the addresses apart exactly when it is safe;
* `endpoints_distinct_iff`: the lists of a run are aligned, and distinct exactly when every line
  was safe.
-/
import Networker.ControlPlane.DeployOutput

namespace Networker

open Data

namespace DeployOutput

/-- An entry of the address list stands for an address. -/
def Denotes (past : List Reading) (entry addr : Line) : Prop :=
  entry = addr ∨ .fqdn entry addr ∈ past

/-- A host is a name of an address. -/
def Names (past : List Reading) (host addr : Line) : Prop :=
  host = addr ∨ .fqdn host addr ∈ past ∨ .host host addr ∈ past

/-- No address is denoted by both entries. -/
def Apart (past : List Reading) (a b : Line) : Prop :=
  ∀ addr, Denotes past a addr → Denotes past b addr → False

namespace EndpointLists

/-- Both lists have one length, and a host is a name of an address that its entry denotes. -/
structure Aligned (past : List Reading) (o : EndpointLists) : Prop where
  lengths : o.endpointIps.length = o.endpointHosts.length
  same : ∀ {i : ℕ} {entry}, o.endpointIps[i]? = some entry →
    ∃ addr, Denotes past entry addr ∧
      ∀ host, o.endpointHosts[i]? = some (some host) → Names past host addr

/-- Every address is at one position at most. -/
def Distinct (past : List Reading) (o : EndpointLists) : Prop :=
  o.endpointIps.Pairwise (Apart past)

/-- The line gives no address a second entry. -/
def Safe (past : List Reading) (o : EndpointLists) : Reading → Prop
  | .host name addr => (∃ f, .fqdn f addr ∈ past) → (o.hostEntry name addr).isSome
  | .fqdn name addr => (∀ g, .fqdn g addr ∈ past → g = name) ∧
      ¬ (addr ∈ o.endpointIps ∧ name ∈ o.endpointIps)
  | .ip addr => (∃ f, .fqdn f addr ∈ past) → addr ∈ o.endpointIps
  | .silent => True

/-- What the lists keep after any lines. -/
structure Inv (t : CharTables) (past : List Reading) (o : EndpointLists) : Prop where
  aligned : o.Aligned past
  kept : ∀ {f addr}, .fqdn f addr ∈ past → f ∈ o.endpointIps
  shape : ∀ {entry}, entry ∈ o.endpointIps → EndsInDigit t entry ∨ ∃ addr, .fqdn entry addr ∈ past
  wellFormed : ∀ {r}, r ∈ past → r.WellFormed t

end EndpointLists

open EndpointLists

/-! ### Entries and addresses -/

variable {t : CharTables} {past : List Reading} {o : EndpointLists} {r : Reading}
  {a b entry name addr : Line}

instance (past : List Reading) : Std.Symm (Apart past) :=
  ⟨fun _ _ h addr hb ha => h addr ha hb⟩

lemma denotes_self (past : List Reading) (addr : Line) : Denotes past addr addr := .inl rfl

lemma Denotes.mono (h : Denotes past entry addr) (r : Reading) : Denotes (past ++ [r]) entry addr :=
  h.imp_right (List.mem_append_left _)

lemma Names.mono (h : Names past entry addr) (r : Reading) : Names (past ++ [r]) entry addr :=
  h.imp_right fun h => h.imp (List.mem_append_left _) (List.mem_append_left _)

lemma Denotes.names (h : Denotes past entry addr) : Names past entry addr :=
  h.imp_right .inl

/-- A cloud line gives its name one more address. -/
lemma denotes_fqdn_iff : Denotes (past ++ [.fqdn name addr]) entry b ↔
    Denotes past entry b ∨ (entry = name ∧ b = addr) := by
  rw [Denotes, Denotes, List.mem_append, List.mem_singleton, Reading.fqdn.injEq, or_assoc]

/-- Another line changes what no entry denotes. -/
lemma denotes_append_iff (hr : ∀ f b, r ≠ .fqdn f b) :
    Denotes (past ++ [r]) entry b ↔ Denotes past entry b := by
  rw [Denotes, Denotes, List.mem_append, List.mem_singleton]
  simp [Ne.symm (hr entry b)]

lemma apart_append (hr : ∀ f b, r ≠ .fqdn f b) : Apart (past ++ [r]) = Apart past := by
  funext a b
  simp only [Apart, denotes_append_iff hr]

lemma Apart.of_append (h : Apart (past ++ [r]) a b) : Apart past a b :=
  fun addr ha hb => h addr (ha.mono r) (hb.mono r)

namespace EndpointLists

lemma distinct_append_iff (hr : ∀ f b, r ≠ .fqdn f b) :
    o.Distinct (past ++ [r]) ↔ o.Distinct past := by
  rw [Distinct, Distinct, apart_append hr]

/-- An address denotes itself alone. -/
lemma Inv.eq_of_denotes (h : o.Inv t past) (hdigit : EndsInDigit t entry)
    (hden : Denotes past entry addr) : entry = addr := by
  rcases hden with heq | hmem
  · exact heq
  · exact absurd hdigit (h.wellFormed hmem).1

/-- Nothing else denotes a cloud name. -/
lemma Inv.eq_of_denotes_name (h : o.Inv t past) (hname : ¬ EndsInDigit t name)
    (hden : Denotes past entry name) : entry = name := by
  rcases hden with heq | hmem
  · exact heq
  · exact absurd (h.wellFormed hmem).2 hname

/-- The entry at the first index of an address. -/
lemma getElem?_of_idxOf? {xs : List Line} {pos : ℕ} (h : xs.idxOf? a = some pos) :
    xs[pos]? = some a := by
  obtain ⟨hlt, heq, -⟩ := List.idxOf?_eq_some_iff.mp h
  rw [List.getElem?_eq_getElem hlt, heq]

/-- A list around the first index of an address, and with another entry there. -/
lemma split_of_idxOf? {xs : List Line} {pos : ℕ} (h : xs.idxOf? a = some pos) :
    ∃ front back, xs = front ++ a :: back ∧ ∀ b, xs.set pos b = front ++ b :: back := by
  obtain ⟨hlt, heq, -⟩ := List.idxOf?_eq_some_iff.mp h
  refine ⟨xs.take pos, xs.drop (pos + 1), ?_, fun b => List.set_eq_take_append_cons_drop.trans ?_⟩
  · rw [← heq, List.cons_getElem_drop_succ, List.take_append_drop]
  · rw [if_pos hlt]

/-! ### The lists stay aligned -/

lemma Aligned.mono (h : o.Aligned past) (r : Reading) : o.Aligned (past ++ [r]) := by
  refine ⟨h.lengths, fun hget => ?_⟩
  obtain ⟨addr, hden, hnames⟩ := h.same hget
  exact ⟨addr, hden.mono r, fun host hhost => (hnames host hhost).mono r⟩

lemma Aligned.add {host : Option Line} (h : o.Aligned past) (hden : Denotes past entry addr)
    (hnames : ∀ name, host = some name → Names past name addr) :
    (o.addEndpoint entry host).Aligned past := by
  refine ⟨?_, fun {i entry'} hget => ?_⟩
  · rw [addEndpoint, List.length_append, List.length_append, h.lengths]
    rfl
  · rw [addEndpoint, List.getElem?_append] at hget
    rw [addEndpoint, List.getElem?_append, ← h.lengths]
    by_cases hlt : i < o.endpointIps.length
    · rw [if_pos hlt] at hget ⊢
      exact h.same hget
    · rw [if_neg hlt] at hget ⊢
      obtain ⟨hi, rfl⟩ : i - o.endpointIps.length = 0 ∧ entry = entry' := by
        simpa [List.getElem?_singleton, Option.guard_eq_some_iff] using hget
      rw [hi]
      exact ⟨addr, hden, fun name hname => hnames name (by simpa using hname)⟩

/-- A position gets a new entry, or a new host. -/
lemma Aligned.set {ips : List Line} {pos : ℕ} (h : o.Aligned past)
    (hlen : ips.length = o.endpointIps.length)
    (hother : ∀ i, i ≠ pos → ips[i]? = o.endpointIps[i]?)
    (hpos : ∀ entry', ips[pos]? = some entry' →
      ∃ addr, Denotes past entry' addr ∧ Names past name addr) :
    (EndpointLists.mk ips (o.endpointHosts.set pos (some name))).Aligned past := by
  refine ⟨by rw [List.length_set, hlen, h.lengths], fun {i entry'} hget => ?_⟩
  dsimp only at hget ⊢
  by_cases hi : i = pos
  · subst hi
    obtain ⟨addr, hden, hnames⟩ := hpos entry' hget
    refine ⟨addr, hden, fun host hhost => ?_⟩
    rw [List.getElem?_set_self'] at hhost
    obtain ⟨_, -, hname⟩ := Option.map_eq_some_iff.mp hhost
    rwa [← Option.some.inj hname]
  · rw [hother i hi] at hget
    obtain ⟨addr, hden, hnames⟩ := h.same hget
    refine ⟨addr, hden, fun host hhost => hnames host ?_⟩
    rwa [List.getElem?_set_ne (Ne.symm hi)] at hhost

lemma Aligned.bind_host (h : o.Aligned past) :
    (o.bind (.host name addr)).Aligned (past ++ [.host name addr]) := by
  have hsaid : Names (past ++ [.host name addr]) name addr := .inr (.inr (by simp))
  rw [EndpointLists.bind]
  cases hentry : o.hostEntry name addr with
  | none =>
      exact (h.mono _).add (denotes_self _ addr) fun name' hname => by
        rwa [← Option.some.inj hname]
  | some pos =>
      refine (h.mono _).set rfl (fun _ _ => rfl) fun entry' hget => ?_
      rcases Option.or_eq_some_iff.mp hentry with hip | ⟨-, hentry⟩
      · -- the entry is the address
        obtain rfl := Option.some.inj ((getElem?_of_idxOf? hip).symm.trans hget)
        exact ⟨addr, denotes_self _ _, hsaid⟩
      · obtain ⟨addr', hden, hnames⟩ := (h.mono (.host name addr)).same hget
        rcases Option.or_eq_some_iff.mp hentry with hname | ⟨-, hhost⟩
        · -- the entry is the name itself
          obtain rfl := Option.some.inj ((getElem?_of_idxOf? hname).symm.trans hget)
          exact ⟨addr', hden, hden.names⟩
        · -- the host is the name already
          obtain ⟨hlt, heq, -⟩ := List.idxOf?_eq_some_iff.mp hhost
          exact ⟨addr', hden, hnames name (by rw [List.getElem?_eq_getElem hlt, heq])⟩

lemma Aligned.bind_fqdn (h : o.Aligned past) :
    (o.bind (.fqdn name addr)).Aligned (past ++ [.fqdn name addr]) := by
  have hden : Denotes (past ++ [.fqdn name addr]) name addr := .inr (by simp)
  have hadd : ∀ o' : EndpointLists, o'.Aligned (past ++ [.fqdn name addr]) →
      (if name ∈ o'.endpointIps then o' else o'.addEndpoint name (some name)).Aligned
        (past ++ [.fqdn name addr]) := by
    intro o' h'
    split_ifs
    · exact h'
    · exact h'.add hden fun name' hname => by
        rw [← Option.some.inj hname]
        exact hden.names
  rw [EndpointLists.bind]
  refine hadd _ ?_
  cases hentry : o.endpointIps.idxOf? addr with
  | none => exact h.mono _
  | some pos =>
      refine (h.mono _).set (List.length_set ..)
        (fun i hi => List.getElem?_set_ne (Ne.symm hi)) fun entry' hget => ?_
      rw [List.getElem?_set_self'] at hget
      obtain ⟨_, -, rfl⟩ := Option.map_eq_some_iff.mp hget
      exact ⟨addr, hden, hden.names⟩

lemma Aligned.bind_ip (h : o.Aligned past) :
    (o.bind (.ip addr)).Aligned (past ++ [.ip addr]) := by
  rw [EndpointLists.bind]
  split_ifs
  · exact h.mono _
  · exact (h.mono _).add (denotes_self _ addr) fun name hname => absurd hname (by simp)

lemma Aligned.bind (h : o.Aligned past) (r : Reading) : (o.bind r).Aligned (past ++ [r]) := by
  cases r with
  | host name addr => exact h.bind_host
  | fqdn name addr => exact h.bind_fqdn
  | ip addr => exact h.bind_ip
  | silent => exact h.mono _

/-! ### The invariant -/

/-- The address list after a cloud line whose address is listed, around that entry. -/
lemma bind_fqdn_of_mem (name : Line) (haddr : addr ∈ o.endpointIps) : ∃ front back,
    o.endpointIps = front ++ addr :: back ∧
    (o.bind (.fqdn name addr)).endpointIps = front ++ name :: back := by
  obtain ⟨pos, hpos⟩ := Option.isSome_iff_exists.mp (List.isSome_idxOf?.mpr haddr)
  obtain ⟨front, back, hsplit, hset⟩ := split_of_idxOf? hpos
  refine ⟨front, back, hsplit, ?_⟩
  have hmem : name ∈ o.endpointIps.set pos name := by
    rw [hset]
    simp
  rw [EndpointLists.bind]
  simp only [hpos, if_pos hmem]
  exact hset name

/-- The address list after a cloud line whose address is not listed. -/
lemma bind_fqdn_of_notMem (name : Line) (haddr : addr ∉ o.endpointIps) :
    (o.bind (.fqdn name addr)).endpointIps =
      if name ∈ o.endpointIps then o.endpointIps else o.endpointIps ++ [name] := by
  rw [EndpointLists.bind]
  simp only [List.idxOf?_eq_none_iff.mpr haddr]
  split_ifs <;> rfl

/-- The address list after a line that is not a cloud line. -/
lemma bind_of_not_fqdn (o : EndpointLists) (hr : ∀ f b, r ≠ .fqdn f b) :
    (o.bind r).endpointIps = o.endpointIps ∨
    ∃ addr, addr ∉ o.endpointIps ∧ (o.bind r).endpointIps = o.endpointIps ++ [addr] ∧
      (r = .ip addr ∨ ∃ name, r = .host name addr ∧ o.hostEntry name addr = none) := by
  cases r with
  | host name addr =>
      rw [EndpointLists.bind]
      cases hentry : o.hostEntry name addr with
      | some pos => exact .inl rfl
      | none =>
          have haddr := (Option.or_eq_none_iff.mp hentry).1
          exact .inr ⟨addr, List.idxOf?_eq_none_iff.mp haddr, rfl, .inr ⟨name, rfl, hentry⟩⟩
  | fqdn name addr => exact absurd rfl (hr name addr)
  | ip addr =>
      rw [EndpointLists.bind]
      split_ifs with haddr
      · exact .inl rfl
      · exact .inr ⟨addr, haddr, rfl, .inl rfl⟩
  | silent => exact .inl rfl

lemma kept_of_not_fqdn (h : o.Inv t past) (hr : ∀ f b, r ≠ .fqdn f b) {f b : Line}
    (hmem : .fqdn f b ∈ past ++ [r]) : .fqdn f b ∈ past ∧ f ∈ o.endpointIps := by
  rcases List.mem_append.mp hmem with hmem | hmem
  · exact ⟨hmem, h.kept hmem⟩
  · exact absurd (List.mem_singleton.mp hmem).symm (hr f b)

lemma Inv.wellFormed_append (h : o.Inv t past) (hwell : r.WellFormed t) {r' : Reading}
    (hmem : r' ∈ past ++ [r]) : r'.WellFormed t := by
  rcases List.mem_append.mp hmem with hmem | hmem
  · exact h.wellFormed hmem
  · rwa [List.mem_singleton.mp hmem]

lemma Inv.shape_append (h : o.Inv t past) (r : Reading) (hmem : entry ∈ o.endpointIps) :
    EndsInDigit t entry ∨ ∃ addr, .fqdn entry addr ∈ past ++ [r] :=
  (h.shape hmem).imp_right fun ⟨addr, hsaid⟩ => ⟨addr, List.mem_append_left _ hsaid⟩

/-- A line that is no cloud line. -/
lemma Inv.bind_of_not_fqdn (h : o.Inv t past) (hwell : r.WellFormed t)
    (hr : ∀ f b, r ≠ .fqdn f b) : (o.bind r).Inv t (past ++ [r]) := by
  rcases EndpointLists.bind_of_not_fqdn o hr with hsame | ⟨addr, -, hadd, hcause⟩
  · refine ⟨h.aligned.bind r, fun hmem => ?_, fun hmem => ?_, h.wellFormed_append hwell⟩
    · rw [hsame]
      exact (kept_of_not_fqdn h hr hmem).2
    · rw [hsame] at hmem
      exact h.shape_append r hmem
  · refine ⟨h.aligned.bind r, fun hmem => ?_, fun hmem => ?_, h.wellFormed_append hwell⟩
    · rw [hadd]
      exact List.mem_append_left _ (kept_of_not_fqdn h hr hmem).2
    · rw [hadd] at hmem
      rcases List.mem_append.mp hmem with hmem | hmem
      · exact h.shape_append r hmem
      · rw [List.mem_singleton.mp hmem]
        rcases hcause with rfl | ⟨name, rfl, -⟩ <;> exact .inl hwell

/-- A cloud line whose address is listed. -/
lemma Inv.bind_fqdn_of_mem (h : o.Inv t past) (hwell : (Reading.fqdn name addr).WellFormed t)
    (hmem : addr ∈ o.endpointIps) :
    (o.bind (.fqdn name addr)).Inv t (past ++ [.fqdn name addr]) := by
  obtain ⟨front, back, hsplit, hbind⟩ := EndpointLists.bind_fqdn_of_mem name hmem
  refine ⟨h.aligned.bind _, fun {f b} hf => ?_, fun {entry} hentry => ?_,
    h.wellFormed_append hwell⟩
  · rw [hbind]
    rcases List.mem_append.mp hf with hf | hf
    · -- a cloud name is not the replaced address
      have hin := h.kept hf
      have hne : f ≠ addr := fun heq => (h.wellFormed hf).1 (heq ▸ hwell.2)
      rw [hsplit] at hin
      simp only [List.mem_append, List.mem_cons, hne, false_or] at hin ⊢
      exact hin.imp_right .inr
    · obtain ⟨rfl, -⟩ := Reading.fqdn.inj (List.mem_singleton.mp hf)
      simp
  · rw [hbind] at hentry
    rcases List.mem_append.mp hentry with hentry | hentry
    · exact h.shape_append _ (by rw [hsplit]; exact List.mem_append_left _ hentry)
    · rcases List.mem_cons.mp hentry with rfl | hentry
      · exact .inr ⟨addr, by simp⟩
      · exact h.shape_append _ (by rw [hsplit]; simp [hentry])

/-- A cloud line whose address is not listed. -/
lemma Inv.bind_fqdn_of_notMem (h : o.Inv t past)
    (hwell : (Reading.fqdn name addr).WellFormed t) (hmem : addr ∉ o.endpointIps) :
    (o.bind (.fqdn name addr)).Inv t (past ++ [.fqdn name addr]) := by
  have hbind := EndpointLists.bind_fqdn_of_notMem name hmem
  refine ⟨h.aligned.bind _, fun {f b} hf => ?_, fun {entry} hentry => ?_,
    h.wellFormed_append hwell⟩
  · rw [hbind]
    rcases List.mem_append.mp hf with hf | hf
    · have hin := h.kept hf
      split_ifs
      · exact hin
      · exact List.mem_append_left _ hin
    · obtain ⟨rfl, rfl⟩ := Reading.fqdn.inj (List.mem_singleton.mp hf)
      split_ifs with hin
      · exact hin
      · simp
  · rw [hbind] at hentry
    split_ifs at hentry with hin
    · exact h.shape_append _ hentry
    · rcases List.mem_append.mp hentry with hentry | hentry
      · exact h.shape_append _ hentry
      · rw [List.mem_singleton.mp hentry]
        exact .inr ⟨addr, by simp⟩

/-- One line. -/
lemma Inv.bind (h : o.Inv t past) (hwell : r.WellFormed t) : (o.bind r).Inv t (past ++ [r]) := by
  cases r with
  | fqdn name addr =>
      by_cases hmem : addr ∈ o.endpointIps
      · exact h.bind_fqdn_of_mem hwell hmem
      · exact h.bind_fqdn_of_notMem hwell hmem
  | _ => exact h.bind_of_not_fqdn hwell nofun

/-! ### Distinct addresses -/

/-- A new entry for an address keeps the entries apart unless a cloud name stands for it. -/
lemma distinct_add_iff (h : o.Inv t past) (hdigit : EndsInDigit t addr)
    (hnot : addr ∉ o.endpointIps) : (o.endpointIps ++ [addr]).Pairwise (Apart past) ↔
      o.Distinct past ∧ ¬ ∃ f, .fqdn f addr ∈ past := by
  rw [List.pairwise_append]
  constructor
  · rintro ⟨hold, -, hnew⟩
    refine ⟨hold, fun ⟨f, hf⟩ => ?_⟩
    exact hnew f (h.kept hf) addr (by simp) addr (.inr hf) (denotes_self past addr)
  · rintro ⟨hold, hfree⟩
    refine ⟨hold, List.pairwise_singleton _ _, fun entry hentry new hnew b hb hb' => ?_⟩
    rw [List.mem_singleton.mp hnew] at hb'
    obtain rfl := h.eq_of_denotes hdigit hb'
    rcases hb with rfl | hb
    · exact hnot hentry
    · exact hfree ⟨entry, hb⟩

/-- A cloud line whose address is listed. -/
lemma distinct_fqdn_of_mem (h : o.Inv t past) (hname : ¬ EndsInDigit t name)
    (haddr : EndsInDigit t addr) (hmem : addr ∈ o.endpointIps) :
    (o.bind (.fqdn name addr)).Distinct (past ++ [.fqdn name addr]) ↔
      o.Distinct past ∧ o.Safe past (.fqdn name addr) := by
  obtain ⟨front, back, hsplit, hbind⟩ := bind_fqdn_of_mem name hmem
  have hne : ∀ {f b}, .fqdn f b ∈ past → f ≠ addr := fun hf heq =>
    (h.wellFormed hf).1 (heq ▸ haddr)
  have hrest : ∀ {f}, f ≠ addr → f ∈ o.endpointIps → f ∈ front ++ back := by
    intro f hf hin
    rw [hsplit] at hin
    simpa [hf] using hin
  have hperm : ∀ (R : Line → Line → Prop) [Std.Symm R] (x : Line),
      (front ++ x :: back).Pairwise R ↔ (∀ y ∈ front ++ back, R x y) ∧
        (front ++ back).Pairwise R := by
    intro R _ x
    rw [List.perm_middle.pairwise_iff fun h => Std.Symm.symm _ _ h, List.pairwise_cons]
  rw [Distinct, hbind, Distinct, hsplit, hperm, hperm]
  constructor
  · rintro ⟨hnew, hold⟩
    have hfresh : ∀ g, .fqdn g addr ∈ past → False := fun g hg =>
      hnew g (hrest (hne hg) (h.kept hg)) addr (.inr (by simp)) (.inr (List.mem_append_left _ hg))
    refine ⟨⟨fun y hy b hb hb' => ?_, hold.imp fun hy => hy.of_append⟩,
      fun g hg => (hfresh g hg).elim, fun hboth => ?_⟩
    · obtain rfl := h.eq_of_denotes haddr hb
      exact hnew y hy addr (.inr (by simp)) (hb'.mono _)
    · have hdiff : name ≠ addr := by
        rintro rfl
        exact hname haddr
      have hself := hrest hdiff hboth.2
      exact hnew name hself name (denotes_self _ _) (denotes_self _ _)
  · rintro ⟨⟨hnew, hold⟩, -, hfree⟩
    have hname' : name ∉ o.endpointIps := fun hin => hfree ⟨hmem, hin⟩
    have hother : ∀ {y}, y ∈ front ++ back → y ≠ name := by
      rintro y hy rfl
      refine hname' ?_
      rw [hsplit]
      simpa using (List.mem_append.mp hy).imp_right .inr
    have hden : ∀ {y b}, y ∈ front ++ back → Denotes (past ++ [.fqdn name addr]) y b →
        Denotes past y b := fun hy hb =>
      (denotes_fqdn_iff.mp hb).resolve_right fun heq => hother hy heq.1
    constructor
    · intro y hy b hb hb'
      have hb'' := hden hy hb'
      rcases denotes_fqdn_iff.mp hb with (rfl | hin) | ⟨-, heq⟩
      · exact hother hy (h.eq_of_denotes_name hname hb'')
      · exact hname' (h.kept hin)
      · rw [heq] at hb''
        exact hnew y hy addr (denotes_self _ _) hb''
    · refine hold.imp_of_mem fun hx hy hxy b hb hb' => hxy b (hden hx hb) (hden hy hb')

/-- A cloud line whose address is not listed. -/
lemma distinct_fqdn_of_notMem (h : o.Inv t past) (hname : ¬ EndsInDigit t name)
    (hmem : addr ∉ o.endpointIps) :
    (o.bind (.fqdn name addr)).Distinct (past ++ [.fqdn name addr]) ↔
      o.Distinct past ∧ o.Safe past (.fqdn name addr) := by
  have hsafe : o.Safe past (.fqdn name addr) ↔ ∀ g, .fqdn g addr ∈ past → g = name :=
    ⟨fun hs => hs.1, fun hs => ⟨hs, fun hboth => hmem hboth.1⟩⟩
  rw [hsafe, Distinct, bind_fqdn_of_notMem name hmem]
  split_ifs with hin
  · constructor
    · intro hold
      refine ⟨hold.imp fun hxy => hxy.of_append, fun g hg => ?_⟩
      by_contra hne
      exact List.Pairwise.forall hold (h.kept hg) hin hne addr (.inr (List.mem_append_left _ hg))
        (.inr (by simp))
    · rintro ⟨hold, hsame⟩
      -- the name denotes one address more, which no other entry denotes
      have hden : ∀ {x b}, x ∈ o.endpointIps → Denotes (past ++ [.fqdn name addr]) x b →
          Denotes past x b ∨ (x = name ∧ b = addr) := fun _ hb => denotes_fqdn_iff.mp hb
      have hother : ∀ {x}, x ∈ o.endpointIps → Denotes past x addr → x = name := by
        intro x hx hb
        rcases hb with rfl | hb
        · exact absurd hx hmem
        · exact hsame x hb
      refine hold.imp_of_mem fun {x y} hx hy hxy b hb hb' => ?_
      have hdiff : x ≠ y := by
        rintro rfl
        exact hxy x (denotes_self _ _) (denotes_self _ _)
      rcases hden hx hb with hbx | ⟨hxname, hbaddr⟩
      · rcases hden hy hb' with hby | ⟨hyname, hbaddr⟩
        · exact hxy b hbx hby
        · rw [hbaddr] at hbx
          exact hdiff ((hother hx hbx).trans hyname.symm)
      · rcases hden hy hb' with hby | ⟨hyname, -⟩
        · rw [hbaddr] at hby
          exact hdiff (hxname.trans (hother hy hby).symm)
        · exact hdiff (hxname.trans hyname.symm)
  · rw [List.pairwise_append]
    constructor
    · rintro ⟨hold, -, hnew⟩
      refine ⟨hold.imp fun hxy => hxy.of_append, fun g hg => ?_⟩
      exact (hnew g (h.kept hg) name (by simp) addr (.inr (List.mem_append_left _ hg))
        (.inr (by simp))).elim
    · rintro ⟨hold, hsame⟩
      have hden : ∀ {x b}, x ∈ o.endpointIps → Denotes (past ++ [.fqdn name addr]) x b →
          Denotes past x b := fun hx hb =>
        (denotes_fqdn_iff.mp hb).resolve_right fun heq => hin (heq.1 ▸ hx)
      refine ⟨hold.imp_of_mem fun hx hy hxy b hb hb' => hxy b (hden hx hb) (hden hy hb'),
        List.pairwise_singleton _ _, fun x hx new hnew b hb hb' => ?_⟩
      rw [List.mem_singleton.mp hnew] at hb'
      have hb'' := hden hx hb
      rcases denotes_fqdn_iff.mp hb' with (rfl | hsaid) | ⟨-, rfl⟩
      · exact hin (h.eq_of_denotes_name hname hb'' ▸ hx)
      · exact hin (h.kept hsaid)
      · rcases hb'' with rfl | hsaid
        · exact hmem hx
        · exact hin (hsame x hsaid ▸ h.kept hsaid)

/-- A line keeps the addresses apart exactly when it is safe. -/
theorem distinct_bind_iff (h : o.Inv t past) (hwell : r.WellFormed t) :
    (o.bind r).Distinct (past ++ [r]) ↔ o.Distinct past ∧ o.Safe past r := by
  cases r with
  | host name addr =>
      have hr : ∀ f b, Reading.host name addr ≠ .fqdn f b := fun f b heq => by cases heq
      rw [distinct_append_iff hr, Safe, EndpointLists.bind]
      cases hentry : o.hostEntry name addr with
      | some pos => simp [Distinct]
      | none =>
          have hnot := List.idxOf?_eq_none_iff.mp (Option.or_eq_none_iff.mp hentry).1
          have hadd := distinct_add_iff h hwell hnot
          simpa [Distinct, addEndpoint] using hadd
  | fqdn name addr =>
      by_cases hmem : addr ∈ o.endpointIps
      · exact distinct_fqdn_of_mem h hwell.1 hwell.2 hmem
      · exact distinct_fqdn_of_notMem h hwell.1 hmem
  | ip addr =>
      have hr : ∀ f b, Reading.ip addr ≠ .fqdn f b := fun f b heq => by cases heq
      rw [distinct_append_iff hr, Safe, EndpointLists.bind]
      split_ifs with hmem
      · simp [hmem]
      · have hadd := distinct_add_iff h hwell hmem
        simpa [Distinct, addEndpoint, hmem] using hadd
  | silent =>
      have hr : ∀ f b, Reading.silent ≠ .fqdn f b := fun f b heq => by cases heq
      rw [distinct_append_iff hr]
      exact (and_iff_left True.intro).symm

/-! ### The fallback scan -/

/-- An address that the scan finds keeps the invariant and the distinction. -/
lemma Inv.addFound (h : o.Inv t past) (hdistinct : o.Distinct past)
    (hfree : ∀ f b, .fqdn f b ∉ past) (hdigit : EndsInDigit t addr) :
    (o.addFound addr).Inv t past ∧ (o.addFound addr).Distinct past := by
  rw [EndpointLists.addFound]
  split_ifs with hskip
  · exact ⟨h, hdistinct⟩
  · have hnot : addr ∉ o.endpointIps := fun hmem => hskip (by simp [hmem])
    refine ⟨⟨?_, fun hf => absurd hf (hfree _ _), fun {entry} hmem => ?_, h.wellFormed⟩, ?_⟩
    · exact h.aligned.add (denotes_self past addr) fun name hname => absurd hname (by simp)
    · rcases List.mem_append.mp hmem with hmem | hmem
      · exact h.shape hmem
      · rw [List.mem_singleton.mp hmem]
        exact .inl hdigit
    · exact (distinct_add_iff h hdigit hnot).mpr ⟨hdistinct, fun ⟨f, hf⟩ => hfree f addr hf⟩

lemma Inv.foldl_addFound {found : List Line} (h : o.Inv t past) (hdistinct : o.Distinct past)
    (hfree : ∀ f b, .fqdn f b ∉ past) (hfound : ∀ addr ∈ found, EndsInDigit t addr) :
    (found.foldl EndpointLists.addFound o).Inv t past ∧
      (found.foldl EndpointLists.addFound o).Distinct past := by
  induction found generalizing o with
  | nil => exact ⟨h, hdistinct⟩
  | cons addr found ih =>
      obtain ⟨hinv, hdist⟩ := h.addFound hdistinct hfree (hfound addr List.mem_cons_self)
      exact ih hinv hdist fun addr' hmem => hfound addr' (List.mem_cons_of_mem addr hmem)

end EndpointLists

lemma endsInDigit_bareIps (t : CharTables) (log : Line) :
    ∀ addr ∈ bareIps t log, EndsInDigit t addr := by
  intro addr hmem
  obtain ⟨line, -, hmem⟩ := List.mem_flatMap.mp hmem
  obtain ⟨caps, hcaps, hhead⟩ := List.mem_filterMap.mp hmem
  obtain ⟨_, h⟩ := Pattern.matches_of_mem_searchAll hcaps
  obtain ⟨_, _, cs₁, _, -, rfl, h₁, h⟩ := Pattern.matches_seq h
  obtain ⟨_, _, cs₂, _, -, rfl, h₂, h₃⟩ := Pattern.matches_seq h
  obtain ⟨rfl, hdigit⟩ := address_of_capture h₂
  rw [Pattern.captures_of_plain rfl h₁] at hhead
  obtain rfl : _ = addr := by simpa using hhead
  exact hdigit

/-! ### Runs -/

/-- What a call says about an endpoint. -/
def reading? (t : CharTables) : Op → Option Reading
  | .line text => some (readLine t (scrub text))
  | _ => none

/-- What the lines of a run say. -/
def readings (t : CharTables) (ops : List Op) : List Reading := ops.filterMap (reading? t)

/-- Every line of a run is safe over the lines before it. -/
def AllSafe (t : CharTables) (ops : List Op) : Prop :=
  ∀ done text, done ++ [.line text] <+: ops →
    (run t done).Safe (readings t done) (readLine t (scrub text))

lemma lists_appendBounded (o : State) (text : Line) :
    (appendBounded o text).toEndpointLists = o.toEndpointLists := by
  rw [appendBounded]
  split_ifs <;> rfl

lemma lists_noteStep (t : CharTables) (o : State) (text : Line) :
    (noteStep t o text).toEndpointLists = o.toEndpointLists := by
  rw [noteStep]
  split_ifs <;> rfl

/-- A line does to the lists what its reading does. -/
lemma lists_processLine (t : CharTables) (o : State) (text : Line) :
    (processLine t o text).1.toEndpointLists =
      o.toEndpointLists.bind (readLine t (scrub text)) := by
  rw [processLine]
  dsimp only
  split_ifs <;> simp only [lists_noteStep, lists_appendBounded]

lemma run_append (t : CharTables) (ops : List Op) (op : Op) :
    run t (ops ++ [op]) = step t (run t ops) op := by
  rw [run, List.foldl_append]
  rfl

/-- What the lists keep, and when a call keeps the addresses apart. -/
lemma inv_step {o : State} (h : o.Inv t past) (op : Op) :
    (step t o op).Inv t (past ++ (reading? t op).toList) ∧
    ((step t o op).Distinct (past ++ (reading? t op).toList) ↔
      o.Distinct past ∧ ∀ text, op = .line text → o.Safe past (readLine t (scrub text))) := by
  cases op with
  | line text =>
      have hwell := read_spec t (scrub text)
      rw [step, lists_processLine]
      refine ⟨h.bind hwell, (distinct_bind_iff h hwell).trans (and_congr_right fun _ => ?_)⟩
      exact ⟨fun hs text' heq => by cases heq; exact hs, fun hs => hs text rfl⟩
  | fallback =>
      rw [step, runFallbackIpScan]
      simp only [reading?, Option.toList_none, List.append_nil, reduceCtorEq, false_implies,
        implies_true, and_true]
      split_ifs with hnil
      · have hempty : o.Distinct past := by
          rw [EndpointLists.Distinct, hnil]
          exact .nil
        have hfree : ∀ f b, .fqdn f b ∉ past := fun f b hf => by
          have hmem := h.kept hf
          rw [hnil] at hmem
          exact List.not_mem_nil hmem
        obtain ⟨hinv, hdistinct⟩ :=
          h.foldl_addFound hempty hfree (endsInDigit_bareIps t o.log)
        exact ⟨hinv, fun _ => hempty, fun _ => hdistinct⟩
      · exact ⟨h, Iff.rfl⟩
  | raw text =>
      rw [step, appendRaw, lists_appendBounded]
      simp only [reading?, Option.toList_none, List.append_nil, reduceCtorEq, false_implies,
        implies_true, and_true]
      exact h

lemma readings_append (t : CharTables) (ops : List Op) (op : Op) :
    readings t (ops ++ [op]) = readings t ops ++ (reading? t op).toList := by
  rw [readings, List.filterMap_append, ← readings]
  cases hread : reading? t op <;> simp [hread]

/-- The lists after any calls. -/
lemma inv_run (t : CharTables) (ops : List Op) : (run t ops).Inv t (readings t ops) := by
  induction ops using List.reverseRecOn with
  | nil =>
      refine ⟨⟨rfl, fun hget => ?_⟩, fun hf => absurd hf List.not_mem_nil,
        fun hmem => absurd hmem List.not_mem_nil, fun hmem => absurd hmem List.not_mem_nil⟩
      simp [run, new] at hget
  | append_singleton ops op ih =>
      rw [run_append, readings_append]
      exact (inv_step ih op).1

lemma allSafe_append_iff (t : CharTables) (ops : List Op) (op : Op) :
    AllSafe t (ops ++ [op]) ↔ AllSafe t ops ∧
      ∀ text, op = .line text →
        (run t ops).Safe (readings t ops) (readLine t (scrub text)) := by
  constructor
  · intro h
    refine ⟨fun done text hpre => h done text (hpre.trans (List.prefix_append ops [op])), ?_⟩
    rintro text rfl
    exact h ops text (List.prefix_rfl)
  · rintro ⟨hold, hnew⟩ done text hpre
    rcases List.prefix_concat_iff.mp hpre with heq | hpre
    · obtain ⟨rfl, hop⟩ := List.append_inj' heq rfl
      exact hnew text (List.cons.inj hop).1.symm
    · exact hold done text hpre

/-- The lists of a run are aligned, and every endpoint is in them once, exactly when every line
was safe over the lines before it. -/
theorem endpoints_distinct_iff (t : CharTables) (ops : List Op) :
    ((run t ops).Aligned (readings t ops) ∧ (run t ops).Distinct (readings t ops)) ↔
      AllSafe t ops := by
  rw [and_iff_right (inv_run t ops).aligned]
  induction ops using List.reverseRecOn with
  | nil =>
      refine ⟨fun _ done text hpre => ?_, fun _ => .nil⟩
      have hlen := hpre.length_le
      simp at hlen
  | append_singleton ops op ih =>
      rw [run_append, readings_append, (inv_step (inv_run t ops) op).2, ih, allSafe_append_iff]

/-- The address of a cloud name is listed again when it is reported after the name. -/
theorem address_after_name :
    ¬ (run .ascii [.line (lit "a.amazonaws.com (1.1.1.1)"),
      .line (lit "endpoint_ip: 1.1.1.1")]).Distinct
        (readings .ascii [.line (lit "a.amazonaws.com (1.1.1.1)"),
          .line (lit "endpoint_ip: 1.1.1.1")]) := by
  have hips : (run .ascii [.line (lit "a.amazonaws.com (1.1.1.1)"),
      .line (lit "endpoint_ip: 1.1.1.1")]).endpointIps =
      [lit "a.amazonaws.com", lit "1.1.1.1"] := by decide +kernel
  have hsaid : .fqdn (lit "a.amazonaws.com") (lit "1.1.1.1") ∈
      readings .ascii [.line (lit "a.amazonaws.com (1.1.1.1)"),
        .line (lit "endpoint_ip: 1.1.1.1")] := by decide +kernel
  intro h
  rw [EndpointLists.Distinct, hips] at h
  exact List.rel_of_pairwise_cons h List.mem_cons_self (lit "1.1.1.1") (.inr hsaid)
    (denotes_self _ _)

end DeployOutput

end Networker
