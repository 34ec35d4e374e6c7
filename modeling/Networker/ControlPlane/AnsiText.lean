/-
Stripping of terminal escape sequences (`AnsiText`).

* `IsSequence`: the escape sequences of the pattern, alternative by alternative;
* `matchLength`: the alternatives as the scan tries them at one position;
* `ansiPattern`: both together, a matcher whose overlapping matches are nested;
* `strip`: the method;
* `strip_complete_iff`: what is left has no sequence, a second pass changes nothing and the
  characters outside the sequences are kept, exactly when no sequence is torn by another one.
-/
import Networker.Data.SinglePass
import Mathlib.Data.List.TakeWhile

namespace Networker

open Data

namespace AnsiText

/-- A UTF-16 code unit. -/
abbrev CodeUnit : Type := UInt16

def bel : CodeUnit := 0x07
def esc : CodeUnit := 0x1B
def bracket : CodeUnit := 0x5B
def backslash : CodeUnit := 0x5C
def closeBracket : CodeUnit := 0x5D
def csi8 : CodeUnit := 0x9B

/-- A parameter: a digit or one of `;:?`. -/
def isParam (c : CodeUnit) : Bool :=
  (0x30 ≤ c.toNat && c.toNat ≤ 0x39) || c.toNat == 0x3B || c.toNat == 0x3A || c.toNat == 0x3F

/-- An intermediate, from the space to the slash. -/
def isIntermediate (c : CodeUnit) : Bool := 0x20 ≤ c.toNat && c.toNat ≤ 0x2F

/-- A final byte, from `@` to the tilde. -/
def isFinal (c : CodeUnit) : Bool := 0x40 ≤ c.toNat && c.toNat ≤ 0x7E

/-- The second of two bytes, from `@` to `_` without the bracket. -/
def isTwoByte (c : CodeUnit) : Bool :=
  (0x40 ≤ c.toNat && c.toNat ≤ 0x5A) || (0x5C ≤ c.toNat && c.toNat ≤ 0x5F)

/-- A character of the body of an operating-system command. -/
def isOscBody (c : CodeUnit) : Bool := c != bel && c != esc

/-! ### The grammar -/

/-- Parameters, intermediates and a final byte. -/
inductive IsControl : List CodeUnit → Prop
  | mk {params intermediates final} (hparams : ∀ c ∈ params, isParam c = true)
      (hinter : ∀ c ∈ intermediates, isIntermediate c = true) (hfinal : isFinal final = true) :
      IsControl (params ++ (intermediates ++ [final]))

/-- The escape sequences of the pattern. -/
inductive IsSequence : List CodeUnit → Prop
  | oscBel {body} (hbody : ∀ c ∈ body, isOscBody c = true) :
      IsSequence (esc :: closeBracket :: (body ++ [bel]))
  | oscSt {body} (hbody : ∀ c ∈ body, isOscBody c = true) :
      IsSequence (esc :: closeBracket :: (body ++ [esc, backslash]))
  | csi {w} (h : IsControl w) : IsSequence (esc :: bracket :: w)
  | twoByte {c} (h : isTwoByte c = true) : IsSequence [esc, c]
  | csi8 {w} (h : IsControl w) : IsSequence (csi8 :: w)

/-! ### The scan at one position -/

/-- The length of a body with its terminator. -/
def oscLength (s : List CodeUnit) : Option ℕ :=
  match s.dropWhile isOscBody with
  | [] => none
  | c :: s' =>
      if c = bel then some ((s.takeWhile isOscBody).length + 1)
      else if s'.head? = some backslash then some ((s.takeWhile isOscBody).length + 2)
      else none

/-- The length of parameters, intermediates and a final byte. -/
def controlLength (s : List CodeUnit) : Option ℕ :=
  let rest := s.dropWhile isParam
  match rest.dropWhile isIntermediate with
  | [] => none
  | c :: _ =>
      if isFinal c then
        some ((s.takeWhile isParam).length + (rest.takeWhile isIntermediate).length + 1)
      else none

/-- The alternatives behind an escape character, in the order of the pattern. -/
def escapeLength : List CodeUnit → Option ℕ
  | [] => none
  | c :: s =>
      (if c = closeBracket then (oscLength s).map (· + 2) else none) <|>
      (if c = bracket then (controlLength s).map (· + 2) else none) <|>
      (if isTwoByte c then some 2 else none)

/-- The length of the sequence at the front of a text. -/
def matchLength : List CodeUnit → Option ℕ
  | [] => none
  | c :: s =>
      if c = esc then escapeLength s
      else if c = csi8 then (controlLength s).map (· + 1)
      else none

/-! ### The alternatives against the grammar -/

variable {s w : List CodeUnit} {c : CodeUnit} {n : ℕ}

/-- A run of a class ends where the text leaves the class. -/
lemma takeWhile_dropWhile_run {p : CodeUnit → Bool} {run rest : List CodeUnit}
    (hrun : ∀ c ∈ run, p c = true) (hrest : ∀ c ∈ rest.head?, p c = false) :
    (run ++ rest).takeWhile p = run ∧ (run ++ rest).dropWhile p = rest := by
  have hstop : rest.takeWhile p = [] ∧ rest.dropWhile p = rest := by
    cases rest with
    | nil => exact ⟨rfl, rfl⟩
    | cons c rest =>
        have hc : p c = false := hrest c rfl
        simp [hc]
  rw [List.takeWhile_append_of_pos hrun, List.dropWhile_append_of_pos hrun, hstop.1, hstop.2,
    List.append_nil]
  exact ⟨rfl, rfl⟩

lemma not_isParam_of_isIntermediate (h : isIntermediate c = true) : isParam c = false := by
  simp only [isIntermediate, isParam, Bool.and_eq_true, decide_eq_true_eq, Bool.or_eq_false_iff,
    Bool.and_eq_false_iff, decide_eq_false_iff_not, beq_eq_false_iff_ne] at *
  omega

lemma not_isParam_of_isFinal (h : isFinal c = true) : isParam c = false := by
  simp only [isFinal, isParam, Bool.and_eq_true, decide_eq_true_eq, Bool.or_eq_false_iff,
    Bool.and_eq_false_iff, decide_eq_false_iff_not, beq_eq_false_iff_ne] at *
  omega

lemma not_isIntermediate_of_isFinal (h : isFinal c = true) : isIntermediate c = false := by
  simp only [isFinal, isIntermediate, Bool.and_eq_true, decide_eq_true_eq,
    Bool.and_eq_false_iff, decide_eq_false_iff_not] at *
  omega

/-- The scan finds a control sequence at the front, and its length is the only one. -/
lemma controlLength_of_prefix (h : IsControl w) (hpre : w <+: s) :
    controlLength s = some w.length := by
  obtain ⟨rest, rfl⟩ := hpre
  obtain @⟨params, intermediates, final, hparams, hinter, hfinal⟩ := h
  have hsplit : params ++ (intermediates ++ [final]) ++ rest =
      params ++ (intermediates ++ (final :: rest)) := by simp
  have hhead : ∀ c ∈ (intermediates ++ (final :: rest)).head?, isParam c = false := by
    intro c hc
    cases intermediates with
    | nil =>
        obtain rfl : final = c := by simpa using hc
        exact not_isParam_of_isFinal hfinal
    | cons d ds =>
        obtain rfl : d = c := by simpa using hc
        exact not_isParam_of_isIntermediate (hinter d (by simp))
  have hstop : ∀ c ∈ (final :: rest).head?, isIntermediate c = false := by
    intro c hc
    obtain rfl : final = c := by simpa using hc
    exact not_isIntermediate_of_isFinal hfinal
  obtain ⟨htake, hdrop⟩ := takeWhile_dropWhile_run hparams hhead
  obtain ⟨htake', hdrop'⟩ := takeWhile_dropWhile_run hinter hstop
  simp only [controlLength, hsplit, htake, hdrop, htake', hdrop', if_pos hfinal,
    List.length_append, List.length_singleton, Nat.add_assoc]

lemma isControl_of_controlLength (h : controlLength s = some n) :
    n ≤ s.length ∧ IsControl (s.take n) := by
  have hparams := List.takeWhile_append_dropWhile (p := isParam) (l := s)
  have hinter := List.takeWhile_append_dropWhile (p := isIntermediate) (l := s.dropWhile isParam)
  rw [controlLength] at h
  cases hrest : (s.dropWhile isParam).dropWhile isIntermediate with
  | nil => simp [hrest] at h
  | cons c rest =>
      simp only [hrest] at h
      split_ifs at h with hfinal
      rw [hrest] at hinter
      have hs : s = s.takeWhile isParam ++
          ((s.dropWhile isParam).takeWhile isIntermediate ++ [c]) ++ rest := by
        rw [List.append_assoc, List.append_assoc, List.singleton_append, hinter, hparams]
      have hn : n = (s.takeWhile isParam ++
          ((s.dropWhile isParam).takeWhile isIntermediate ++ [c])).length := by
        simp only [List.length_append, List.length_singleton, ← Option.some.inj h]
        omega
      have htake : s.take n = s.takeWhile isParam ++
          ((s.dropWhile isParam).takeWhile isIntermediate ++ [c]) := by
        conv_lhs => rw [hs, hn]
        exact List.take_left
      refine ⟨?_, ?_⟩
      · have hlen := congrArg List.length hs
        rw [List.length_append, ← hn] at hlen
        omega
      · rw [htake]
        exact .mk (fun c hc => List.mem_takeWhile_imp hc) (fun c hc => List.mem_takeWhile_imp hc)
          hfinal

/-- The scan finds a body with its terminator at the front. -/
lemma oscLength_of_prefix {body final : List CodeUnit} (hbody : ∀ c ∈ body, isOscBody c = true)
    (hfinal : final = [bel] ∨ final = [esc, backslash]) (hpre : body ++ final <+: s) :
    oscLength s = some (body.length + final.length) := by
  obtain ⟨rest, rfl⟩ := hpre
  have hstop : ∀ c ∈ (final ++ rest).head?, isOscBody c = false := by
    intro c hc
    rcases hfinal with rfl | rfl
    · obtain rfl : bel = c := by simpa using hc
      rfl
    · obtain rfl : esc = c := by simpa using hc
      rfl
  obtain ⟨htake, hdrop⟩ := takeWhile_dropWhile_run hbody hstop
  rw [oscLength, List.append_assoc, htake, hdrop]
  rcases hfinal with rfl | rfl
  · rfl
  · rfl

lemma osc_of_oscLength (h : oscLength s = some n) : n ≤ s.length ∧
    ∃ body final, (∀ c ∈ body, isOscBody c = true) ∧ (final = [bel] ∨ final = [esc, backslash]) ∧
      s.take n = body ++ final := by
  have hsplit := List.takeWhile_append_dropWhile (p := isOscBody) (l := s)
  have hbody : ∀ c ∈ s.takeWhile isOscBody, isOscBody c = true :=
    fun c hc => List.mem_takeWhile_imp hc
  rw [oscLength] at h
  generalize hrun : s.takeWhile isOscBody = body at h hsplit hbody
  cases hrest : s.dropWhile isOscBody with
  | nil => simp [hrest] at h
  | cons c rest =>
      simp only [hrest] at h
      rw [hrest] at hsplit
      have hc : isOscBody c = false := by
        have hnot := List.head?_dropWhile_not isOscBody s
        rwa [hrest] at hnot
      have htake : ∀ final rest', c :: rest = final ++ rest' → n = body.length + final.length →
          n ≤ s.length ∧ s.take n = body ++ final := by
        intro final rest' hcons hn
        rw [← hsplit, hcons, ← List.append_assoc, hn, ← List.length_append]
        exact ⟨by simp, List.take_left⟩
      split_ifs at h with hbel hst
      · obtain ⟨hle, heq⟩ := htake [bel] rest (by rw [hbel]; rfl) (Option.some.inj h).symm
        exact ⟨hle, body, [bel], hbody, .inl rfl, heq⟩
      · have hesc : c = esc := by
          have hnot : c ≠ bel → ¬ c ≠ esc := by simpa [isOscBody] using hc
          exact not_not.mp (hnot hbel)
        obtain ⟨rest', rfl⟩ : ∃ rest', rest = backslash :: rest' := by
          cases rest with
          | nil => simp at hst
          | cons d rest' => exact ⟨rest', by rw [Option.some.inj hst]⟩
        obtain ⟨hle, heq⟩ := htake [esc, backslash] rest' (by rw [hesc]; rfl)
          (Option.some.inj h).symm
        exact ⟨hle, body, [esc, backslash], hbody, .inr rfl, heq⟩

/-! ### The matcher -/

lemma IsSequence.osc {body final : List CodeUnit} (hbody : ∀ c ∈ body, isOscBody c = true)
    (hfinal : final = [bel] ∨ final = [esc, backslash]) :
    IsSequence (esc :: closeBracket :: (body ++ final)) := by
  rcases hfinal with rfl | rfl
  · exact .oscBel hbody
  · exact .oscSt hbody

lemma escapeLength_sound (h : escapeLength s = some n) :
    n ≤ s.length + 1 ∧ IsSequence ((esc :: s).take n) := by
  cases s with
  | nil => simp [escapeLength] at h
  | cons c s =>
      rw [escapeLength, Option.orElse_eq_some, Option.orElse_eq_some] at h
      rcases h with hosc | ⟨-, hcsi | ⟨-, htwo⟩⟩
      · split_ifs at hosc with hc
        obtain ⟨k, hk, rfl⟩ := Option.map_eq_some_iff.mp hosc
        obtain ⟨hle, body, final, hbody, hfinal, htake⟩ := osc_of_oscLength hk
        refine ⟨by rw [List.length_cons]; omega, ?_⟩
        rw [List.take_succ_cons, List.take_succ_cons, htake, hc]
        exact .osc hbody hfinal
      · split_ifs at hcsi with hc
        obtain ⟨k, hk, rfl⟩ := Option.map_eq_some_iff.mp hcsi
        obtain ⟨hle, hcontrol⟩ := isControl_of_controlLength hk
        refine ⟨by rw [List.length_cons]; omega, ?_⟩
        rw [List.take_succ_cons, List.take_succ_cons, hc]
        exact .csi hcontrol
      · split_ifs at htwo with hc
        obtain rfl : 2 = n := Option.some.inj htwo
        exact ⟨by simp, by simpa using IsSequence.twoByte hc⟩

lemma matchLength_sound (h : matchLength s = some n) :
    n ≤ s.length ∧ IsSequence (s.take n) := by
  cases s with
  | nil => simp [matchLength] at h
  | cons c s =>
      rw [matchLength] at h
      split_ifs at h with hesc hcsi
      · rw [hesc]
        exact escapeLength_sound h
      · obtain ⟨k, hk, rfl⟩ := Option.map_eq_some_iff.mp h
        obtain ⟨hle, hcontrol⟩ := isControl_of_controlLength hk
        refine ⟨by rw [List.length_cons]; omega, ?_⟩
        rw [List.take_succ_cons, hcsi]
        exact .csi8 hcontrol

lemma escapeLength_twoByte (h : isTwoByte c = true) (s : List CodeUnit) :
    ∃ n, escapeLength (c :: s) = some n ∧ 2 ≤ n := by
  have hbracket : c ≠ bracket := by
    rintro rfl
    exact absurd h (by decide)
  rw [escapeLength, if_neg hbracket, if_pos h]
  by_cases hc : c = closeBracket
  · cases oscLength s with
    | none => exact ⟨2, by simp, le_rfl⟩
    | some k => exact ⟨k + 2, by simp [hc], by omega⟩
  · exact ⟨2, by simp [hc], le_rfl⟩

/-- The scan finds a sequence at the front, and none that is shorter. -/
lemma matchLength_longest (h : IsSequence w) (hpre : w <+: s) :
    ∃ n, matchLength s = some n ∧ w.length ≤ n := by
  obtain ⟨rest, rfl⟩ := hpre
  have hosc : ∀ {body final}, (∀ c ∈ body, isOscBody c = true) →
      (final = [bel] ∨ final = [esc, backslash]) →
      matchLength (esc :: closeBracket :: (body ++ final ++ rest)) =
        some (body.length + final.length + 2) := by
    intro body final hbody hfinal
    rw [matchLength, if_pos rfl, escapeLength, if_pos rfl,
      oscLength_of_prefix hbody hfinal (List.prefix_append _ rest)]
    rfl
  cases h with
  | oscBel hbody => exact ⟨_, hosc hbody (.inl rfl), by simp⟩
  | oscSt hbody => exact ⟨_, hosc hbody (.inr rfl), by simp⟩
  | @csi w hcontrol =>
      refine ⟨w.length + 2, ?_, le_rfl⟩
      rw [List.cons_append, List.cons_append, matchLength, if_pos rfl, escapeLength,
        if_neg (by decide), if_pos rfl, controlLength_of_prefix hcontrol (List.prefix_append w rest)]
      rfl
  | twoByte htwo =>
      rw [List.cons_append, matchLength, if_pos rfl]
      exact escapeLength_twoByte htwo _
  | @csi8 w hcontrol =>
      refine ⟨w.length + 1, ?_, le_rfl⟩
      rw [List.cons_append, matchLength, if_neg (by decide), if_pos rfl,
        controlLength_of_prefix hcontrol (List.prefix_append w rest)]
      rfl

/-! ### Overlapping sequences -/

/-- A character that can begin a sequence. -/
def Introduces (c : CodeUnit) : Prop := c = esc ∨ c = csi8

/-- The characters of a control sequence are printable. -/
lemma IsControl.printable (h : IsControl w) : ∀ c ∈ w, 0x20 ≤ c.toNat ∧ c.toNat ≤ 0x7E := by
  obtain @⟨params, intermediates, final, hparams, hinter, hfinal⟩ := h
  intro c hc
  rcases List.mem_append.mp hc with hc | hc
  · have hparam := hparams c hc
    simp only [isParam, Bool.or_eq_true, Bool.and_eq_true, decide_eq_true_eq, beq_iff_eq] at hparam
    omega
  · rcases List.mem_append.mp hc with hc | hc
    · have hint := hinter c hc
      simp only [isIntermediate, Bool.and_eq_true, decide_eq_true_eq] at hint
      omega
    · obtain rfl := List.mem_singleton.mp hc
      simp only [isFinal, Bool.and_eq_true, decide_eq_true_eq] at hfinal
      omega

lemma not_mem_control (h : IsControl w) (hc : Introduces c ∨ c = bel) : c ∉ w := by
  intro hmem
  have hprint := h.printable c hmem
  rcases hc with (rfl | rfl) | rfl
  · exact absurd hprint.1 (by decide)
  · exact absurd hprint.2 (by decide)
  · exact absurd hprint.1 (by decide)

lemma IsSequence.head (h : IsSequence w) : ∃ c u, w = c :: u ∧ Introduces c := by
  cases h with
  | oscBel _ => exact ⟨_, _, rfl, .inl rfl⟩
  | oscSt _ => exact ⟨_, _, rfl, .inl rfl⟩
  | csi _ => exact ⟨_, _, rfl, .inl rfl⟩
  | twoByte _ => exact ⟨_, _, rfl, .inl rfl⟩
  | csi8 _ => exact ⟨_, _, rfl, .inr rfl⟩

/-- What begins with the eight-bit introducer has neither a bell nor an escape character. -/
lemma control_of_csi8 {u : List CodeUnit} (h : IsSequence (csi8 :: u)) : IsControl u := by
  generalize hw : csi8 :: u = w at h
  cases h with
  | csi8 h =>
      rw [(List.cons.inj hw).2]
      exact h
  | _ => exact absurd (List.cons.inj hw).1 (by decide)

/-- What begins as a string terminator is that terminator. -/
lemma eq_of_terminator {u : List CodeUnit} (h : IsSequence (esc :: backslash :: u)) : u = [] := by
  generalize hw : esc :: backslash :: u = w at h
  cases h with
  | twoByte _ => exact (List.cons.inj (List.cons.inj hw).2).2
  | csi8 _ => exact absurd (List.cons.inj hw).1 (by decide)
  | _ => exact absurd (List.cons.inj (List.cons.inj hw).2).1 (by decide)

lemma esc_notMem_body {body : List CodeUnit} (hbody : ∀ c ∈ body, isOscBody c = true) :
    esc ∉ closeBracket :: body := by
  intro hmem
  rcases List.mem_cons.mp hmem with heq | hmem
  · exact absurd heq (by decide)
  · exact absurd (hbody _ hmem) (by decide)

/-- A suffix of two parts ends in the second part or begins in the first one. -/
lemma suffix_append_cases {d front back : List CodeUnit} (h : d <:+ front ++ back) :
    d <:+ back ∨ ∃ mid, mid ≠ [] ∧ mid <:+ front ∧ d = mid ++ back := by
  obtain ⟨pre, hpre⟩ := h
  rcases List.append_eq_append_iff.mp hpre with ⟨mid, hmid, hd⟩ | ⟨mid, -, hback⟩
  · cases mid with
    | nil => exact .inl (by rw [hd, List.nil_append])
    | cons y mid => exact .inr ⟨y :: mid, by simp, ⟨pre, hmid.symm⟩, hd⟩
  · exact .inl ⟨mid, hback.symm⟩

/-- Only the eight-bit introducer can stand in the body of an operating-system command. -/
lemma introduces_body {body mid : List CodeUnit} (hbody : ∀ c ∈ body, isOscBody c = true)
    (hmid : c :: mid <:+ closeBracket :: body) (hc : Introduces c) : c = csi8 := by
  refine hc.resolve_left ?_
  rintro rfl
  exact esc_notMem_body hbody (hmid.subset List.mem_cons_self)

/-- A sequence cannot run over the end of another one in which it begins. -/
lemma not_straddles {v d : List CodeUnit} (hv : IsSequence v) (hd : d <:+ v.tail) (hne : d ≠ [])
    (hw : IsSequence w) (hdw : d <+: w) : w.length ≤ d.length := by
  obtain ⟨x, u, rfl, hx⟩ := hw.head
  obtain ⟨d, rfl⟩ : ∃ d', d = x :: d' := by
    cases d with
    | nil => exact absurd rfl hne
    | cons y d => exact ⟨d, by rw [(List.cons_prefix_cons.mp hdw).1]⟩
  have hmem : x ∈ v.tail := hd.subset List.mem_cons_self
  have hdu : d <+: u := (List.cons_prefix_cons.mp hdw).2
  -- a terminator would be part of an eight-bit control sequence
  have hbody : ∀ {body mid final}, (∀ c ∈ body, isOscBody c = true) → mid ≠ [] →
      mid <:+ closeBracket :: body → x :: d = mid ++ final → ∀ c ∈ final,
      (Introduces c ∨ c = bel) → False := by
    intro body mid final hbody hmid hsuffix heq c hc hcontrol
    obtain ⟨y, mid, rfl⟩ := List.exists_cons_of_ne_nil hmid
    obtain ⟨rfl, rfl⟩ := List.cons.inj heq
    obtain rfl := introduces_body hbody hsuffix hx
    exact not_mem_control (control_of_csi8 hw) hcontrol
      (hdu.subset (List.mem_append.mpr (.inr hc)))
  cases hv with
  | csi h =>
      rcases List.mem_cons.mp hmem with rfl | hmem
      · rcases hx with hx | hx <;> exact absurd hx (by decide)
      · exact absurd hmem (not_mem_control h (.inl hx))
  | csi8 h => exact absurd hmem (not_mem_control h (.inl hx))
  | twoByte h =>
      obtain rfl := List.mem_singleton.mp hmem
      rcases hx with rfl | rfl <;> exact absurd h (by decide)
  | @oscBel body hchars =>
      rcases suffix_append_cases (show x :: d <:+ (closeBracket :: body) ++ [bel] from hd) with
        hfinal | ⟨mid, hmid, hsuffix, heq⟩
      · obtain rfl := List.mem_singleton.mp (hfinal.subset List.mem_cons_self)
        rcases hx with hx | hx <;> exact absurd hx (by decide)
      · exact (hbody hchars hmid hsuffix heq bel (by simp) (.inr rfl)).elim
  | @oscSt body hchars =>
      rcases suffix_append_cases
        (show x :: d <:+ (closeBracket :: body) ++ [esc, backslash] from hd) with
        hfinal | ⟨mid, hmid, hsuffix, heq⟩
      · rcases List.suffix_cons_iff.mp hfinal with heq | hfinal
        · obtain ⟨rfl, rfl⟩ := List.cons.inj heq
          obtain ⟨u', rfl⟩ := hdu
          rw [List.singleton_append] at hw ⊢
          rw [eq_of_terminator hw]
        · obtain rfl := List.mem_singleton.mp (hfinal.subset List.mem_cons_self)
          rcases hx with hx | hx <;> exact absurd hx (by decide)
      · exact (hbody hchars hmid hsuffix heq esc (by simp) (.inl (.inl rfl))).elim

lemma matchLength_nested {j : ℕ} (h : matchLength s = some n) (hpos : 0 < j) (hj : j < n)
    (hw : IsSequence w) (hpre : w <+: s.drop j) : j + w.length ≤ n := by
  obtain ⟨hle, hv⟩ := matchLength_sound h
  have hsplit : s.drop j = (s.take n).drop j ++ s.drop n := by
    conv_lhs => rw [← List.take_append_drop n s]
    rw [List.drop_append_of_le_length (by rw [List.length_take]; omega)]
  have hlen : ((s.take n).drop j).length = n - j := by
    rw [List.length_drop, List.length_take, min_eq_left hle]
  rw [hsplit] at hpre
  rcases List.prefix_or_prefix_of_prefix hpre (List.prefix_append _ _) with hwd | hdw
  · have hlt := hwd.length_le
    omega
  · have hsuffix : (s.take n).drop j <:+ (s.take n).tail := by
      rw [← List.drop_one]
      obtain ⟨k, rfl⟩ := Nat.exists_eq_add_of_le hpos
      rw [← List.drop_drop]
      exact List.drop_suffix k _
    have hne : (s.take n).drop j ≠ [] := by
      rw [← List.length_pos_iff]
      omega
    have hlt := not_straddles hv hsuffix hne hw hdw
    omega

/-- The pattern. -/
def ansiPattern : Matcher CodeUnit where
  IsMatch := IsSequence
  len := matchLength
  ne_nil h := by
    obtain ⟨c, u, rfl, -⟩ := h.head
    exact List.cons_ne_nil c u
  sound := matchLength_sound
  longest := matchLength_longest
  nested := matchLength_nested

/-- `Strip`: null and the empty text pass through. -/
def strip : Option (List CodeUnit) → Option (List CodeUnit)
  | none => none
  | some [] => some []
  | some (c :: s) => some (ansiPattern.remove (c :: s))

lemma strip_some (s : List CodeUnit) : strip (some s) = some (ansiPattern.remove s) := by
  cases s <;> rfl

/-- Stripping leaves no sequence, is idempotent and keeps the characters outside the sequences
in order, exactly when no sequence of the text is torn by another one. -/
theorem strip_complete_iff (s : List CodeUnit) :
    (∃ t, strip (some s) = some t ∧ (∀ w, IsSequence w → ¬ w <:+: t) ∧
      strip (some t) = some t ∧ t = ansiPattern.outside s) ↔ ¬ ansiPattern.Torn s := by
  have hfree := ansiPattern.no_match_remove_iff s
  constructor
  · rintro ⟨t, ht, hclean, -, -⟩
    rw [strip_some] at ht
    obtain rfl := Option.some.inj ht
    exact hfree.mp hclean
  · intro htorn
    refine ⟨ansiPattern.remove s, strip_some s, hfree.mpr htorn, ?_, Matcher.remove_eq_outside s⟩
    rw [strip_some, (Matcher.remove_remove_iff s).mpr (hfree.mpr htorn)]

/-- `ESC ESC[2m [2m`: the inner sequence is removed and the outer one appears. -/
theorem strip_nested :
    ¬ ∃ t, strip (some [0x1B, 0x1B, 0x5B, 0x32, 0x6D, 0x5B, 0x32, 0x6D]) = some t ∧
      ∀ w, IsSequence w → ¬ w <:+: t := by
  rintro ⟨t, ht, hclean⟩
  obtain rfl : [0x1B, 0x5B, 0x32, 0x6D] = t := by
    have hstrip : strip (some [0x1B, 0x1B, 0x5B, 0x32, 0x6D, 0x5B, 0x32, 0x6D]) =
        some [0x1B, 0x5B, 0x32, 0x6D] := by decide
    exact Option.some.inj (hstrip.symm.trans ht)
  have hcontrol : IsControl ([0x32] ++ ([] ++ [0x6D])) :=
    .mk (by simp [isParam]) (by simp) (by decide)
  exact hclean _ (.csi hcontrol) List.infix_rfl

end AnsiText

end Networker
