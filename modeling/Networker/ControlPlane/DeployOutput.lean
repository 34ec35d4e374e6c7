/-
The accumulated output of an installer run (`DeployRunner.DeployOutput`).

* `CharTables`: what the platform's character classes are beyond ASCII;
* `stepRe`, `fqdnRe`, `ipRe`, `endpointHostRe`, `bareIpRe`: the patterns of the source;
* `Reading`, `readLine`: what a line says about an endpoint;
* `EndpointLists`, `bind`: the two parallel lists and what a reading does to them;
* `DeployOutput`, `processLine`, `runFallbackIpScan`, `appendRaw`: the methods, and `run` for
  calls one after the other;
* `read_spec`: the address in a reading ends in a digit, a cloud name does not.
-/
import Networker.ControlPlane.AnsiText
import Networker.Data.Pattern

namespace Networker

open Data

namespace DeployOutput

open AnsiText (CodeUnit)

/-- A text of UTF-16 code units. -/
abbrev Line : Type := List CodeUnit

/-- The code units of a literal. -/
def lit (s : String) : Line := s.toList.map fun c => UInt16.ofNat c.toNat

/-- The code unit of a character. -/
def unit (c : Char) : CodeUnit := UInt16.ofNat c.toNat

/-! ### Character classes -/

/-- The character classes and case maps beyond ASCII. -/
structure CharTables where
  digit : CodeUnit → Bool
  space : CodeUnit → Bool
  word : CodeUnit → Bool
  fold : CodeUnit → CodeUnit
  lower : CodeUnit → CodeUnit

/-- The ASCII characters alone. -/
def CharTables.ascii : CharTables := ⟨fun _ => false, fun _ => false, fun _ => false, id, id⟩

section Classes

variable (t : CharTables) (c : CodeUnit)

def asciiDigit : Bool := 0x30 ≤ c.toNat && c.toNat ≤ 0x39
def asciiLower : Bool := 0x61 ≤ c.toNat && c.toNat ≤ 0x7A
def asciiUpper : Bool := 0x41 ≤ c.toNat && c.toNat ≤ 0x5A

/-- `\d`. -/
def isDigit : Bool := asciiDigit c || (0x80 ≤ c.toNat && t.digit c)

/-- `\s`, and what `Trim` removes. -/
def isSpace : Bool :=
  (9 ≤ c.toNat && c.toNat ≤ 13) || c.toNat == 0x20 || (0x80 ≤ c.toNat && t.space c)

/-- `\w`. -/
def isWord : Bool :=
  asciiDigit c || asciiLower c || asciiUpper c || c == unit '_' || (0x80 ≤ c.toNat && t.word c)

/-- The representative of a character among those equal to it when case is ignored. -/
def fold : CodeUnit :=
  if asciiUpper c then c + 0x20 else if c.toNat < 0x80 then c else t.fold c

/-- `ToLowerInvariant` on a character. -/
def toLower : CodeUnit :=
  if asciiUpper c then c + 0x20 else if c.toNat < 0x80 then c else t.lower c

end Classes

/-! ### The patterns -/

section Patterns

variable (t : CharTables)

/-- The text itself. -/
def exactly (s : String) : Pattern CodeUnit := Pattern.literal (fun a b => a == b) (lit s)

/-- The text in any case. -/
def anyCase (s : String) : Pattern CodeUnit := Pattern.literal (fun a b => fold t b == a) (lit s)

/-- One of some characters. -/
def oneOf (s : String) : Pattern CodeUnit := .one fun c => (lit s).contains c

/-- One to three digits. -/
def digits : Pattern CodeUnit :=
  .seq (.one (isDigit t)) (.opt (.seq (.one (isDigit t)) (.opt (.one (isDigit t)))))

/-- Four groups of digits with dots between them. -/
def address : Pattern CodeUnit :=
  .seq (digits t) (.seq (oneOf ".") (.seq (digits t) (.seq (oneOf ".") (.seq (digits t)
    (.seq (oneOf ".") (digits t))))))

/-- A captured address in parentheses, behind white space. -/
def parenthesized : Pattern CodeUnit :=
  .seq (.plus (.one (isSpace t)))
    (.seq (oneOf "(") (.seq (.capture (address t)) (oneOf ")")))

/-- `StepRe`. -/
def stepRe : Pattern CodeUnit :=
  .seq .atStart (.seq (exactly "Step ") (.seq (.plus (.one (isDigit t))) (exactly ": ")))

/-- A part of a cloud name. -/
def label : Pattern CodeUnit :=
  .plus (.one fun c => c == unit '-' || asciiLower c || asciiDigit c)

/-- A cloud name. -/
def cloudName : Pattern CodeUnit :=
  .seq label (.seq (.star (.seq (oneOf ".") label)) (.seq (oneOf ".")
    (.anyOf [exactly "cloudapp.azure.com", exactly "amazonaws.com",
      exactly "compute.googleapis.com"])))

/-- `FqdnRe`. -/
def fqdnRe : Pattern CodeUnit := .seq (.capture cloudName) (parenthesized t)

/-- The separator behind a key word. -/
def separator : Pattern CodeUnit := .plus (.one fun c => c == unit ':' || isSpace t c)

/-- `IpRe`. -/
def ipRe : Pattern CodeUnit :=
  .seq (.anyOf
      [.seq (anyCase t "endpoint") (.seq (oneOf "_ ") (.anyOf [anyCase t "ip", anyCase t "address"])),
        .seq (anyCase t "deployed") (.seq (oneOf "_ ") (.anyOf [anyCase t "to", anyCase t "at"])),
        .seq (anyCase t "public") (.seq (oneOf "_ ") (anyCase t "ip"))])
    (.seq (separator t) (.capture (address t)))

/-- A letter or a digit, in any case. -/
def alphanumeric (c : CodeUnit) : Bool := asciiLower (fold t c) || asciiDigit (fold t c)

/-- `EndpointHostRe`. -/
def endpointHostRe : Pattern CodeUnit :=
  .seq (anyCase t "endpoint") (.seq (oneOf "_ ") (.seq (anyCase t "host") (.seq (separator t)
    (.seq (.capture (.seq (.one (alphanumeric t)) (.opt (.seq
        (.star (.one fun c => alphanumeric t c || (lit "-.").contains c))
        (.one (alphanumeric t))))))
      (parenthesized t)))))

/-- `\b`. -/
def wordBoundary : Pattern CodeUnit :=
  .between fun before after => before.any (isWord t) != after.any (isWord t)

/-- `BareIpRe`. -/
def bareIpRe : Pattern CodeUnit :=
  .seq (wordBoundary t) (.seq (.capture (address t)) (wordBoundary t))

end Patterns

/-! ### What a line says -/

/-- What a line says about an endpoint. -/
inductive Reading where
  | host (name ip : Line)
  | fqdn (fqdn ip : Line)
  | ip (ip : Line)
  | silent
  deriving DecidableEq

/-- The first pattern of the three that a line matches. -/
def readLine (t : CharTables) (text : Line) : Reading :=
  match (endpointHostRe t).search text with
  | some [name, ip] => .host name ip
  | _ =>
      match (fqdnRe t).search text with
      | some [fqdn, ip] => .fqdn fqdn ip
      | _ =>
          match (ipRe t).search text with
          | some [ip] => .ip ip
          | _ => .silent

/-- `_endpointIps` and `_endpointHosts`. -/
structure EndpointLists where
  endpointIps : List Line
  endpointHosts : List (Option Line)

namespace EndpointLists

/-- `AddEndpoint`. -/
def addEndpoint (o : EndpointLists) (addr : Line) (host : Option Line) : EndpointLists :=
  ⟨o.endpointIps ++ [addr], o.endpointHosts ++ [host]⟩

/-- The entry that a host name is bound to. -/
def hostEntry (o : EndpointLists) (name ip : Line) : Option ℕ :=
  (o.endpointIps.idxOf? ip).or
    ((o.endpointIps.idxOf? name).or (o.endpointHosts.idxOf? (some name)))

/-- What a reading does to the lists. -/
def bind (o : EndpointLists) : Reading → EndpointLists
  | .host name ip =>
      match o.hostEntry name ip with
      | some pos => { o with endpointHosts := o.endpointHosts.set pos (some name) }
      | none => o.addEndpoint ip (some name)
  | .fqdn fqdn ip =>
      let o := match o.endpointIps.idxOf? ip with
        | some pos =>
            { endpointIps := o.endpointIps.set pos fqdn
              endpointHosts := o.endpointHosts.set pos (some fqdn) }
        | none => o
      if fqdn ∈ o.endpointIps then o else o.addEndpoint fqdn (some fqdn)
  | .ip ip => if ip ∈ o.endpointIps then o else o.addEndpoint ip none
  | .silent => o

/-- An address of the fallback scan is added once. -/
def addFound (o : EndpointLists) (ip : Line) : EndpointLists :=
  if (lit "127.").isPrefixOf ip || (lit "0.").isPrefixOf ip || o.endpointIps.contains ip then o
  else o.addEndpoint ip none

end EndpointLists

/-! ### The methods -/

/-- `MaxLogChars`. -/
def maxLogChars : ℕ := 256 * 1024

/-- The state of the output, without the start of the install phase. -/
structure State extends EndpointLists where
  log : Line
  truncated : Bool
  seen : List Line
  currentStep : Option Line
  lastErrorLine : Option Line

/-- A new output. -/
def new : State := ⟨⟨[], []⟩, [], false, [], none, none⟩

section Methods

variable (t : CharTables) (o : State) (text : Line)

/-- The line without escape sequences. -/
def scrub : Line := (AnsiText.strip (some text)).getD []

/-- `Trim`. -/
def trim : Line := ((text.dropWhile (isSpace t)).reverse.dropWhile (isSpace t)).reverse

/-- `AppendBounded`: whole lines are dropped from the front. -/
def appendBounded : State :=
  let log := o.log ++ text ++ [unit '\n']
  if log.length ≤ maxLogChars then { o with log := log }
  else
    -- the first line end at the cut or behind it
    { o with
      log := ((log.drop (log.length - maxLogChars - 1)).dropWhile fun c => c != unit '\n').drop 1
      truncated := true }

/-- The step or the error that a line reports. -/
def noteStep : State :=
  let stripped := trim t text
  if (stepRe t).isMatch stripped then { o with currentStep := some stripped }
  else if stripped.head? = some (unit '✗') then
    { o with lastErrorLine := some (trim t (stripped.dropWhile fun c => c == unit '✗')) }
  else if (lit "ERROR: ").isPrefixOf stripped then
    { o with lastErrorLine := some (trim t (stripped.drop (lit "ERROR: ").length)) }
  else o

/-- `ProcessLine`: the line as it is logged, and whether it is broadcast. -/
def processLine : State × Line × Bool :=
  let clean := scrub text
  let o := noteStep t (appendBounded o clean) clean
  let o := { o with toEndpointLists := o.bind (readLine t clean) }
  let trimmed := trim t clean
  if 0 < trimmed.length ∧ trimmed ∉ o.seen then
    ({ o with seen := trimmed :: o.seen }, clean, true)
  else (o, clean, false)

/-- The words that make the fallback scan look at a line. -/
def mentionsEndpoint (line : Line) : Bool :=
  ["endpoint", "deployed", "public ip"].any fun word =>
    (line.map (toLower t)).tails.any fun rest => (lit word).isPrefixOf rest

/-- The addresses that the fallback scan finds. -/
def bareIps (log : Line) : List Line :=
  ((log.splitOn (unit '\n')).filter (mentionsEndpoint t)).flatMap fun line =>
    ((bareIpRe t).searchAll line).filterMap List.head?

/-- `RunFallbackIpScan`. -/
def runFallbackIpScan : State :=
  if o.endpointIps = [] then
    { o with
      toEndpointLists := (bareIps t o.log).foldl EndpointLists.addFound o.toEndpointLists }
  else o

/-- `AppendRaw`. -/
def appendRaw : State := appendBounded o (scrub text)

end Methods

/-- A call. -/
inductive Op where
  | line (text : Line)
  | fallback
  | raw (text : Line)

/-- One call. -/
def step (t : CharTables) (o : State) : Op → State
  | .line text => (processLine t o text).1
  | .fallback => runFallbackIpScan t o
  | .raw text => appendRaw o text

/-- Calls one after the other. -/
def run (t : CharTables) (ops : List Op) : State := ops.foldl (step t) new

/-! ### The addresses in a reading -/

/-- The last character of a text is a digit. -/
def EndsInDigit (t : CharTables) (text : Line) : Prop :=
  ∃ front c, text = front ++ [c] ∧ isDigit t c = true

section Reads

variable {t : CharTables} {w : Line} {caps : Pattern.Captures CodeUnit}

lemma EndsInDigit.append {v : Line} (h : EndsInDigit t v) (u : Line) : EndsInDigit t (u ++ v) := by
  obtain ⟨front, c, rfl, hc⟩ := h
  exact ⟨u ++ front, c, (List.append_assoc _ _ _).symm, hc⟩

lemma endsInDigit_digits (h : (digits t).Matches w caps) : EndsInDigit t w := by
  have hone : ∀ {w caps}, (Pattern.one (isDigit t)).Matches w caps → EndsInDigit t w := by
    intro w caps h
    obtain ⟨c, hc, rfl, -⟩ := Pattern.matches_one h
    exact ⟨[], c, rfl, hc⟩
  have hopt : ∀ {a : Pattern CodeUnit}, (∀ {w caps}, a.Matches w caps → EndsInDigit t w) →
      ∀ {u v cs}, EndsInDigit t u → a.opt.Matches v cs → EndsInDigit t (u ++ v) := by
    intro a ha u v cs hu hv
    rcases Pattern.matches_alt hv with hv | hv
    · exact (ha hv).append u
    · cases hv
      rwa [List.append_nil]
  obtain ⟨u, v, cs, ds, rfl, -, hu, hv⟩ := Pattern.matches_seq h
  refine hopt (fun hw => ?_) (hone hu) hv
  obtain ⟨u', v', cs', ds', rfl, -, hu', hv'⟩ := Pattern.matches_seq hw
  exact hopt hone (hone hu') hv'

/-- An address ends in a digit, and has no groups. -/
lemma endsInDigit_address (h : (address t).Matches w caps) : EndsInDigit t w := by
  obtain ⟨u₁, v₁, _, _, rfl, -, -, h₁⟩ := Pattern.matches_seq h
  obtain ⟨u₂, v₂, _, _, rfl, -, -, h₂⟩ := Pattern.matches_seq h₁
  obtain ⟨u₃, v₃, _, _, rfl, -, -, h₃⟩ := Pattern.matches_seq h₂
  obtain ⟨u₄, v₄, _, _, rfl, -, -, h₄⟩ := Pattern.matches_seq h₃
  obtain ⟨u₅, v₅, _, _, rfl, -, -, h₅⟩ := Pattern.matches_seq h₄
  obtain ⟨u₆, v₆, _, _, rfl, -, -, h₆⟩ := Pattern.matches_seq h₅
  exact ((((((endsInDigit_digits h₆).append u₆).append u₅).append u₄).append u₃).append u₂).append u₁

/-- A captured address. -/
lemma address_of_capture (h : (Pattern.capture (address t)).Matches w caps) :
    caps = [w] ∧ EndsInDigit t w := by
  obtain ⟨cs, rfl, hin⟩ := Pattern.matches_capture h
  have hnil := Pattern.captures_of_plain rfl hin
  exact ⟨by rw [hnil], endsInDigit_address hin⟩

lemma address_of_parenthesized (h : (parenthesized t).Matches w caps) :
    ∃ ip, caps = [ip] ∧ EndsInDigit t ip := by
  obtain ⟨_, _, cs₁, _, -, rfl, hspace, h⟩ := Pattern.matches_seq h
  obtain ⟨_, _, cs₂, _, -, rfl, hopen, h⟩ := Pattern.matches_seq h
  obtain ⟨ip, _, cs₃, cs₄, -, rfl, hip, hclose⟩ := Pattern.matches_seq h
  obtain ⟨rfl, hdigit⟩ := address_of_capture hip
  have h₁ := Pattern.captures_of_plain rfl hspace
  have h₂ := Pattern.captures_of_plain rfl hopen
  have h₄ := Pattern.captures_of_plain rfl hclose
  exact ⟨ip, by rw [h₁, h₂, h₄]; rfl, hdigit⟩

/-- A text that ends in a literal ends in its last character. -/
lemma not_endsInDigit_of_literal {s : String} {c : CodeUnit} (front : Line)
    (hs : lit s = front ++ [c]) (hc : isDigit t c = false)
    (h : (exactly s).Matches w caps) (u : Line) : ¬ EndsInDigit t (u ++ w) := by
  have hw : lit s = w := by
    have hall := Pattern.matches_literal h
    simpa using hall
  rintro ⟨front', d, hd, hdigit⟩
  rw [← hw, hs, ← List.append_assoc] at hd
  have hlast := congrArg List.getLast? hd
  rw [List.getLast?_concat, List.getLast?_concat] at hlast
  rw [← Option.some.inj hlast, hc] at hdigit
  exact absurd hdigit (by decide)

/-- A cloud name does not end in a digit. -/
lemma not_endsInDigit_cloudName (h : cloudName.Matches w caps) : ¬ EndsInDigit t w := by
  obtain ⟨u₁, v₁, _, _, rfl, -, -, h⟩ := Pattern.matches_seq h
  obtain ⟨u₂, v₂, _, _, rfl, -, -, h⟩ := Pattern.matches_seq h
  obtain ⟨u₃, v₃, _, _, rfl, -, -, h⟩ := Pattern.matches_seq h
  rw [← List.append_assoc, ← List.append_assoc]
  have hm : isDigit t (unit 'm') = false := by
    simp [isDigit, asciiDigit, unit]
  rcases Pattern.matches_alt h with h | h
  · exact not_endsInDigit_of_literal (lit "cloudapp.azure.co") rfl hm h _
  · rcases Pattern.matches_alt h with h | h
    · exact not_endsInDigit_of_literal (lit "amazonaws.co") rfl hm h _
    · exact not_endsInDigit_of_literal (lit "compute.googleapis.co") rfl hm h _

end Reads

/-- What the pattern of a reading says about its texts. -/
def Reading.WellFormed (t : CharTables) : Reading → Prop
  | .host _ addr => EndsInDigit t addr
  | .fqdn name addr => ¬ EndsInDigit t name ∧ EndsInDigit t addr
  | .ip addr => EndsInDigit t addr
  | .silent => True

/-- The address in a reading ends in a digit, a cloud name does not. -/
lemma read_spec (t : CharTables) (text : Line) : (readLine t text).WellFormed t := by
  rw [readLine]
  split
  · next name addr hfound =>
      obtain ⟨_, h⟩ := Pattern.matches_of_search hfound
      obtain ⟨_, _, cs₁, _, -, heq, h₁, h⟩ := Pattern.matches_seq h
      obtain ⟨_, _, cs₂, _, -, rfl, h₂, h⟩ := Pattern.matches_seq h
      obtain ⟨_, _, cs₃, _, -, rfl, h₃, h⟩ := Pattern.matches_seq h
      obtain ⟨_, _, cs₄, _, -, rfl, h₄, h⟩ := Pattern.matches_seq h
      obtain ⟨_, _, cs₅, _, -, rfl, h₅, h⟩ := Pattern.matches_seq h
      obtain ⟨ip, rfl, hdigit⟩ := address_of_parenthesized h
      obtain ⟨cs, rfl, hin⟩ := Pattern.matches_capture h₅
      rw [Pattern.captures_of_plain (Pattern.plain_literal _ _) h₁,
        Pattern.captures_of_plain rfl h₂, Pattern.captures_of_plain (Pattern.plain_literal _ _) h₃,
        Pattern.captures_of_plain rfl h₄, Pattern.captures_of_plain rfl hin] at heq
      obtain rfl : addr = ip := by simpa using congrArg List.getLast? heq
      exact hdigit
  · split
    · next name addr hfound =>
        obtain ⟨_, h⟩ := Pattern.matches_of_search hfound
        obtain ⟨_, _, cs₁, _, -, heq, h₁, h⟩ := Pattern.matches_seq h
        obtain ⟨ip, rfl, hdigit⟩ := address_of_parenthesized h
        obtain ⟨cs, rfl, hin⟩ := Pattern.matches_capture h₁
        have hname : ¬ EndsInDigit t _ := not_endsInDigit_cloudName hin
        rw [Pattern.captures_of_plain rfl hin] at heq
        obtain ⟨rfl, rfl⟩ : name = _ ∧ addr = ip := by simpa using heq
        exact ⟨hname, hdigit⟩
    · split
      · next addr hfound =>
          obtain ⟨_, h⟩ := Pattern.matches_of_search hfound
          obtain ⟨_, _, cs₁, _, -, heq, h₁, h⟩ := Pattern.matches_seq h
          obtain ⟨_, _, cs₂, _, -, rfl, h₂, h⟩ := Pattern.matches_seq h
          obtain ⟨rfl, hdigit⟩ := address_of_capture h
          obtain rfl : addr = _ := by simpa using congrArg List.getLast? heq
          exact hdigit
      · exact True.intro

end DeployOutput

end Networker
