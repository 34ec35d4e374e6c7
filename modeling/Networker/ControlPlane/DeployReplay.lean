/-
A page that connects behind the end of its deployment.

* `foldl_numbered`: what a page takes in of lines under numbers of their own;
* `Replaying`: a page on its way through the replay from the row, kept by every chunk;
* `postMortem_shown`: the page adds the stored lines from its own number on, and reports the end
  if and only if its number is at most their number.
-/
import Networker.ControlPlane.DeployDelivery

namespace Networker

open Data Concurrency ServerSentEvents

variable {codec : EventCodec} {deploymentId : Guid} {st : DeployStream} {c : DeployConnection}
  {page : DeployPage}

/-- The buffer has no part in an event. -/
lemma handle_buffer (page : DeployPage) (b : List Char) (e : SeqEvent) :
    { page with buffer := b }.handle e = { page.handle e with buffer := b } := by
  by_cases hle : e.seq ≤ page.lastSeq
  · have hle' : e.seq ≤ { page with buffer := b }.lastSeq := hle
    rw [DeployPage.handle_of_le hle, DeployPage.handle_of_le hle']
  · have hlt := Nat.not_le.mp hle
    have hlt' : { page with buffer := b }.lastSeq < e.seq := hlt
    rw [DeployPage.handle_of_lt hlt, DeployPage.handle_of_lt hlt', DeployPage.apply,
      DeployPage.apply]
    split <;> rfl

lemma foldl_handle_buffer (Q : List SeqEvent) (page : DeployPage) (b : List Char) :
    Q.foldl DeployPage.handle { page with buffer := b } =
      { Q.foldl DeployPage.handle page with buffer := b } := by
  induction Q generalizing page with
  | nil => rfl
  | cons e Q ih => rw [List.foldl_cons, handle_buffer, ih, List.foldl_cons]

/-- Lines under the numbers behind `k`: the page takes in those above its own number. -/
lemma foldl_numbered (deploymentId : Guid) (ls : List String) (k : ℕ) (page : DeployPage) :
    let page' := (ls.mapIdx fun i line =>
      (⟨k + i + 1, .deployLog deploymentId line "stdout"⟩ : SeqEvent)).foldl DeployPage.handle page
    page'.lines = page.lines ++ ls.drop (page.lastSeq - k) ∧ page'.complete = page.complete ∧
      (page'.lastSeq ≤ k + ls.length ↔ page.lastSeq ≤ k + ls.length) := by
  induction ls generalizing k page with
  | nil => simp
  | cons l ls ih =>
      have hshift : (fun i line =>
          (⟨k + (i + 1) + 1, .deployLog deploymentId line "stdout"⟩ : SeqEvent)) =
          fun i line => ⟨k + 1 + i + 1, .deployLog deploymentId line "stdout"⟩ := by
        funext i line
        congr 1
        omega
      intro page'
      set first : SeqEvent := ⟨k + 0 + 1, .deployLog deploymentId l "stdout"⟩ with hfirst
      have hpage' : page' = (ls.mapIdx fun i line =>
          (⟨k + 1 + i + 1, .deployLog deploymentId line "stdout"⟩ : SeqEvent)).foldl
            DeployPage.handle (page.handle first) := by
        rw [← hshift]
        show List.foldl _ _ (List.mapIdx _ (l :: ls)) = _
        rw [List.mapIdx_cons]
        rfl
      obtain ⟨hlines, hcomplete, hlast⟩ := ih (k + 1) (page.handle first)
      rw [hpage', hlines, hcomplete, List.length_cons, ← Nat.add_assoc, Nat.add_right_comm k,
        hlast]
      by_cases hle : first.seq ≤ page.lastSeq
      · have hk : page.lastSeq - k = page.lastSeq - (k + 1) + 1 := by
          have hseq : k + 1 ≤ page.lastSeq := hle
          omega
        rw [DeployPage.handle_of_le hle, hk, List.drop_succ_cons]
        exact ⟨rfl, rfl, Iff.rfl⟩
      · have hlt := Nat.not_le.mp hle
        have hk : page.lastSeq ≤ k := Nat.lt_succ_iff.mp hlt
        rw [DeployPage.handle_of_lt hlt]
        have hzero : page.lastSeq - k = 0 := Nat.sub_eq_zero_of_le hk
        refine ⟨?_, ?_, iff_of_true ?_ ?_⟩
        · rw [DeployPage.lines_apply, DeployPage.lastSeq_apply, hzero]
          simp [hfirst, SeqEvent.line?]
        · rw [DeployPage.complete_apply]
          rfl
        · rw [DeployPage.lastSeq_apply]
          exact Nat.le_add_right _ _
        · omega

/-- A page on its way through the replay from the row. -/
structure Replaying (codec : EventCodec) (deploymentId : Guid) (row : DeployRow) (page : DeployPage)
    (st : DeployStream) (c : DeployConnection) : Prop where
  connection : st.connection = some c
  frames : c.frames = (row.postMortem deploymentId).map StreamFrame.event
  page : st.page = { (c.found codec).foldl DeployPage.handle page with
    buffer := (Text.cut ['\n', '\n'] (c.taken codec)).2 }

lemma Replaying.receive {row : DeployRow} (h : Replaying codec deploymentId row page st c) (n : ℕ) :
    ∃ c', Replaying codec deploymentId row page
      ((deployStream codec deploymentId).run st [.receive n]) c' := by
  set c' : DeployConnection := { c with received := c.received + (c.chunk codec n).length } with hc'
  have hbuffer : st.page.buffer = (Text.cut ['\n', '\n'] (c.taken codec)).2 := by rw [h.page]
  obtain ⟨Q, hfound, hreceive⟩ := DeployConnection.found_receive n hc' hbuffer
  have hstep : (deployStream codec deploymentId).run st [.receive n] = st.receive codec n := by
    have hmoves : (deployStream codec deploymentId).moves (.receive n) st = true := rfl
    rw [Machine.run_cons, Machine.run_nil, Machine.next, if_pos hmoves]
    rfl
  have hreceived : st.receive codec n =
      { st with connection := some c', page := st.page.receive codec (c.chunk codec n) } := by
    rw [DeployStream.receive, h.connection]
  refine ⟨c', ?_, h.frames, ?_⟩
  · rw [hstep, hreceived]
  · rw [hstep, hreceived]
    show st.page.receive codec (c.chunk codec n) = _
    rw [hreceive, hfound, List.foldl_append, h.page, foldl_handle_buffer]

lemma Replaying.run {row : DeployRow} (h : Replaying codec deploymentId row page st c)
    (ns : List ℕ) : ∃ c', Replaying codec deploymentId row page
      ((deployStream codec deploymentId).run st (ns.map .receive)) c' := by
  induction ns generalizing st c with
  | nil => exact ⟨c, h⟩
  | cons n ns ih =>
      obtain ⟨c₁, h₁⟩ := h.receive n
      rw [List.map_cons, ← List.singleton_append, Machine.run_append]
      exact ih h₁

/-- **A replay from the row only shows what lies above the page's number.**  A page that connects
behind the end of the deployment and gets the whole response: it adds the lines of the stored
log from its own number on, and reports the end if and only if that number is at most the number
of lines. -/
theorem postMortem_shown (codec : EventCodec) (deploymentId : Guid) (st : DeployStream)
    (hnone : st.connection = none) (hrow : st.row.terminal = true)
    (hreads : ∀ e ∈ st.row.postMortem deploymentId, codec.Reads e) (ns : List ℕ)
    (hdrained : ∀ c ∈ ((deployStream codec deploymentId).run st
      (.connect :: ns.map .receive)).connection, c.drained codec = true) :
    let page := ((deployStream codec deploymentId).run st (.connect :: ns.map .receive)).page
    page.lines = st.page.lines ++ st.row.logLines.drop st.page.lastSeq ∧
      page.complete = if st.page.lastSeq ≤ st.row.logLines.length then
        some (st.row.logLines.length + 1, st.row.status, st.row.endpointIps)
      else st.page.complete := by
  have hconnect : (deployStream codec deploymentId).next .connect st =
      DeployStream.exec codec deploymentId .connect st := by
    have hmoves : (deployStream codec deploymentId).moves .connect st = true :=
      congrArg Option.isNone hnone
    rw [Machine.next, if_pos hmoves]
    rfl
  have hrespond : DeployStream.respond deploymentId st.row =
      ⟨0, false, (st.row.postMortem deploymentId).map StreamFrame.event, 0⟩ := by
    rw [DeployStream.respond, if_pos hrow]
  have hstart : Replaying codec deploymentId st.row st.page
      (DeployStream.exec codec deploymentId .connect st)
      ⟨0, false, (st.row.postMortem deploymentId).map StreamFrame.event, 0⟩ :=
    ⟨congrArg some hrespond, rfl, rfl⟩
  rw [Machine.run_cons, hconnect] at hdrained ⊢
  obtain ⟨c, hc⟩ := hstart.run ns
  have hevents : c.events = st.row.postMortem deploymentId := by
    rw [DeployConnection.events, hc.frames, List.filterMap_map]
    exact List.filterMap_some
  have hfound : c.found codec = st.row.postMortem deploymentId := by
    rw [← hevents]
    exact (DeployConnection.found_prefix (hevents ▸ hreads)).2 (hdrained c hc.connection)
  intro page
  have hpage : page = { (st.row.postMortem deploymentId).foldl DeployPage.handle st.page with
      buffer := (Text.cut ['\n', '\n'] (c.taken codec)).2 } := by
    rw [← hfound]
    exact hc.page
  have hsplit : (st.row.postMortem deploymentId) =
      (st.row.logLines.mapIdx fun i line =>
        (⟨0 + i + 1, .deployLog deploymentId line "stdout"⟩ : SeqEvent)) ++
      [⟨st.row.logLines.length + 1, .deployComplete deploymentId st.row.status
        st.row.endpointIps⟩] := by
    simp only [DeployRow.postMortem, Nat.zero_add]
  obtain ⟨hlines, hcomplete, hlast⟩ := foldl_numbered deploymentId st.row.logLines 0 st.page
  rw [Nat.sub_zero] at hlines
  rw [Nat.zero_add] at hlast
  rw [hpage, hsplit, List.foldl_append, List.foldl_cons, List.foldl_nil]
  split_ifs with hle
  · have hlt := Nat.lt_succ_of_le (hlast.mpr hle)
    rw [DeployPage.handle_of_lt hlt]
    refine ⟨?_, ?_⟩
    · show (DeployPage.apply _ _).lines = _
      rw [DeployPage.lines_apply]
      simpa [SeqEvent.line?] using hlines
    · rfl
  · have hskip := Nat.succ_le_of_lt (Nat.lt_of_not_le fun h => hle (hlast.mp h))
    rw [DeployPage.handle_of_le hskip]
    exact ⟨hlines, hcomplete⟩

/-- A page that has seen number five of the live stream, when the deployment has ended without a
log. -/
def leftBehind : DeployStream :=
  ⟨Feed.started, ⟨"completed", none, []⟩, none, { DeployPage.opened with lastSeq := 5 }⟩

theorem postMortem_shown_of_leftBehind :
    ((deployStream reportedCodec 7).run leftBehind
      (.connect :: [100].map .receive)).page.complete = none := by
  refine (postMortem_shown reportedCodec 7 leftBehind rfl rfl ?_ [100] ?_).2
  · intro e he
    obtain rfl : e = reported := List.mem_singleton.mp he
    exact reads_reported
  · decide

end Networker
