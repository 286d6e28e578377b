/-
What the log of the cloud quotes.

Most of a log line is fixed text of the program, and so are the messages of the
exceptions that the program raises itself.  `quotes` lists the rest of what a step of a
handler logs: the strings that a client or the operating system has supplied.  The label
that the provisioning script looks for is in none of the fixed texts, and
`handlerStep_log` says that a step whose quoted strings avoid the label logs nothing but
lines that avoid it.
-/
import PqcBridge.Cloud.Moves
import PqcBridge.Scripts.DockerBootstrap

namespace PqcBridge.Cloud

open Python Protocol Crypto TextSearch DockerBootstrap

variable {B : Type} {P : Primitives B} {cfg : CloudConfig P}

/-! ### The quoted strings -/

/-- What is quoted after `read_message`: the text of an `OSError` or of a malformed
message, and what `f` finds in a message. -/
def readQuotes (f : JsonDict → List PyStr) : ReadOutcome → List PyStr
  | .message m => f m
  | .malformed msg => [msg]
  | .closed => []
  | .osError msg => [msg]

variable (cfg) in
/-- The strings, other than the address of the peer, that the log lines of one step of a
handler quote. -/
def quotes : Phase B → ConnEvent → List PyStr
  | .request, .recv o => readQuotes (fun m =>
      match parseMlkemRequest m with
      | .ok gatewayId => if cfg.gatewayKeys.keys gatewayId = none then [gatewayId] else []
      | .error _ => []) o
  | .encaps gatewayId, .recv o => readQuotes (fun m =>
      match deriveSession cfg m with
      | .ok (sessionId, _) => [sessionId, gatewayId]
      | .error _ => []) o
  | .receiving _ sessionId sessionKey, .recv o => readQuotes (fun m =>
      match decryptProtectedReading P m sessionKey sessionId with
      | .ok reading => [fieldText P (reading.field "device_id")]
      | .error _ => []) o
  | .sendPubkey _, .sendError msg => [msg]
  | .sendEstablished _ _ _, .sendError msg => [msg]
  | .reporting _ _ _ reading, .report =>
    [fieldText P (reading.field "device_id"), fieldText P (reading.field "sequence"),
      P.tempText ((reading.field "temperature_c").getD .null)]
  | .leaving (some sessionId) _, .finish => [sessionId]
  | _, _ => []

/-! ### The texts of the exceptions -/

/-- The message of the exception has no `H`, which the label has. -/
def Plain (e : PyExc) : Prop := PyChar.char 'H' ∉ e.msg

lemma avoids_of_plain {s : PyStr} (h : PyChar.char 'H' ∉ s) : Avoids label s :=
  avoids_of_notMem (by decide) h

lemma onlyRaises_text {α : Type} {cls : ExcClass} {msg : PyStr} (h : PyChar.char 'H' ∉ msg) :
    OnlyRaises (raise cls msg : Py α) Plain :=
  onlyRaises_raise h

lemma requireStr_plain {f : String} (hf : PyChar.char 'H' ∉ lit f) (m : JsonDict) :
    OnlyRaises (requireStr m f) Plain := by
  have hmsg : PyChar.char 'H' ∉
      lit "message missing required string field '" ++ lit f ++ lit "'" := by
    have hbefore : PyChar.char 'H' ∉ lit "message missing required string field '" := by
      decide
    have hafter : PyChar.char 'H' ∉ lit "'" := by decide
    simp [hbefore, hf, hafter]
  unfold requireStr
  split
  · exact .ite (fun _ => onlyRaises_text hmsg) fun _ => onlyRaises_ok _
  · exact onlyRaises_text hmsg

lemma item_plain {f : String} (hf : PyChar.char 'H' ∉ lit f) (m : JsonDict) :
    OnlyRaises (m.item f) Plain := by
  unfold JsonDict.item
  split
  · exact onlyRaises_ok _
  · exact onlyRaises_text hf

lemma hashKey_plain (v : Json) : OnlyRaises v.hashKey Plain := by
  unfold Json.hashKey
  split
  case h_9 => exact onlyRaises_text (by decide)
  case h_10 => exact onlyRaises_text (by decide)
  all_goals exact onlyRaises_ok _

variable (P) in
lemma b64d_plain (v : Json) : OnlyRaises (b64d P v) Plain := by
  unfold b64d
  split
  · split
    · exact onlyRaises_ok _
    · exact onlyRaises_text (by decide)
  · exact onlyRaises_text (by decide)

variable (P) in
lemma chacha_plain (key : B) : OnlyRaises (chacha P key) Plain :=
  .ite (fun _ => onlyRaises_ok _) fun _ => onlyRaises_text (by decide)

variable (P) in
lemma envelopeField_plain (cls : ExcClass) (m : JsonDict) (f : String) :
    OnlyRaises (envelopeField P cls m f) Plain := by
  unfold envelopeField
  split
  · exact b64d_plain P _
  · exact onlyRaises_text (by decide)

variable (P) in
lemma aeadDecrypt_plain (key aad : B) (m : JsonDict) (cls : ExcClass) :
    OnlyRaises (aeadDecrypt P key m aad cls) Plain := by
  refine (envelopeField_plain P cls m _).bind fun nonce _ => ?_
  refine (envelopeField_plain P cls m _).bind fun ciphertext _ => ?_
  refine .ite (fun _ => onlyRaises_text ?_) fun _ => (chacha_plain P key).bind fun _ _ => ?_
  · have hbefore : PyChar.char 'H' ∉ lit "invalid nonce length (" := by decide
    have hlen := notMem_decimal (c := 'H') (by decide) (by decide) (P.len nonce)
    have hafter : PyChar.char 'H' ∉ lit ")" := by decide
    simp only [List.mem_append, hbefore, hlen, hafter, or_self, not_false_eq_true]
  · split
    · exact onlyRaises_ok _
    · exact onlyRaises_text (by decide)

variable (P) in
lemma verifyGatewayAuth_plain (key : B) (gatewayId authNonce authTag : Json) :
    OnlyRaises (verifyGatewayAuth P key gatewayId authNonce authTag) Plain := by
  unfold verifyGatewayAuth verifyAuth
  split
  · exact onlyRaises_text (by decide)
  · refine (chacha_plain P key).bind fun _ _ => ?_
    split
    · exact onlyRaises_ok _
    · exact onlyRaises_text (by decide)

variable (P) in
lemma parseDecrypted_plain (b : B) : OnlyRaises (parseDecrypted P b) Plain := by
  have hparse : OnlyRaises (parseReadingBytes P b) Plain := by
    unfold parseReadingBytes
    split
    · exact onlyRaises_text (by decide)
    · exact onlyRaises_text (by decide)
    · exact .ite (fun _ => onlyRaises_ok _) fun _ => onlyRaises_text (by decide)
    · exact onlyRaises_text (by decide)
  unfold parseDecrypted
  split
  · next e he =>
    refine .ite (fun _ => onlyRaises_text (hparse e he)) fun _ e' he' => ?_
    cases he'
    exact hparse e he
  · exact onlyRaises_ok _

variable (P) in
lemma decryptProtectedReading_plain (m : JsonDict) (key : B) (sid : PyStr) :
    OnlyRaises (decryptProtectedReading P m key sid) Plain := by
  refine .ite (fun _ => onlyRaises_text (by decide)) fun _ => ?_
  refine (requireStr_plain (by decide) m).bind fun named _ => ?_
  refine .ite (fun _ => onlyRaises_text (by decide)) fun _ => ?_
  have haad : OnlyRaises (sessionMessageAad P sid) Plain :=
    .ite (fun _ => onlyRaises_ok _) fun _ => onlyRaises_text (by decide)
  refine haad.bind fun aad _ => (aeadDecrypt_plain P key aad m _).bind fun plaintext _ => ?_
  exact parseDecrypted_plain P plaintext

variable (cfg) in
lemma deriveSession_plain (m : JsonDict) : OnlyRaises (deriveSession cfg m) Plain := by
  have hparse : OnlyRaises (parseMlkemEncaps P m) Plain := by
    refine .ite (fun _ => onlyRaises_text (by decide)) fun _ => ?_
    refine (requireStr_plain (by decide) m).bind fun _ _ => ?_
    refine (requireStr_plain (by decide) m).bind fun _ _ => ?_
    refine (b64d_plain P _).bind fun _ _ => ?_
    exact .ite (fun _ => onlyRaises_text (by decide)) fun _ => onlyRaises_ok _
  refine hparse.bind fun x _ => ?_
  have hdecaps : OnlyRaises (mlkemDecapsulate P cfg.privateKey x.2) Plain := by
    unfold mlkemDecapsulate
    split
    · exact onlyRaises_ok _
    · exact onlyRaises_text (by decide)
  exact hdecaps.bind fun _ _ => onlyRaises_ok _

/-- The text of an exception avoids the label. -/
def Clean (e : PyExc) : Prop := Avoids label e.msg

/-- A request is refused without a quotation, unless the gateway is unknown. -/
lemma authenticateRequest_clean {m : JsonDict}
    (hq : ∀ q ∈ quotes cfg .request (.recv (.message m)), Avoids label q) :
    OnlyRaises (authenticateRequest cfg m) Clean := by
  have hparse : OnlyRaises (parseMlkemRequest m) Plain := by
    refine .ite (fun _ => onlyRaises_text (by decide)) fun _ => ?_
    refine (requireStr_plain (by decide) m).bind fun _ _ => ?_
    refine (requireStr_plain (by decide) m).bind fun _ _ => ?_
    exact (requireStr_plain (by decide) m).bind fun _ _ => onlyRaises_ok _
  -- from here on the gateway id is the one that the request names
  refine (hparse.mono fun _ => avoids_of_plain).bind fun gid hgid => ?_
  simp only [quotes, readQuotes, hgid] at hq
  split
  · next hkey =>
    refine onlyRaises_raise ?_
    have hbefore : Separates label (lit "unknown gateway identity '") := by decide
    have hafter : Separates label (lit "'") := by decide
    rw [if_pos hkey] at hq
    exact ((hq gid (by simp)).sep_append hbefore label_ne_nil).append_sep_nil hafter label_ne_nil
  · next key hkey =>
    -- the message does not quote the gateway id
    have hverify : OnlyRaises (verifyGatewayRequestAuth P m key) Plain := by
      refine (item_plain (by decide) m).bind fun _ _ => ?_
      refine (item_plain (by decide) m).bind fun _ _ => ?_
      refine (item_plain (by decide) m).bind fun _ _ => ?_
      exact verifyGatewayAuth_plain P key _ _ _
    exact (hverify.mono fun _ => avoids_of_plain).bind fun _ _ => onlyRaises_ok _

/-- `read_message` raises what it is given, or the text for the end of the stream. -/
lemma readOutcome_clean {f : JsonDict → List PyStr} {o : ReadOutcome}
    (hq : ∀ q ∈ readQuotes f o, Avoids label q) : OnlyRaises o.result Clean := by
  cases o with
  | message m => exact onlyRaises_ok _
  | malformed msg => exact onlyRaises_raise (hq msg (by simp [readQuotes]))
  | closed => exact onlyRaises_raise (avoids_of_plain (by decide))
  | osError msg => exact onlyRaises_raise (hq msg (by simp [readQuotes]))

/-! ### The lines of one step -/

/-- What was logged between the two states avoids the label. -/
def LogsClean (st st' : CloudState B) : Prop :=
  ∃ texts, st'.log = st.log ++ texts ∧ ∀ t ∈ texts, Avoids label t

lemma logsClean_of_eq {st st' : CloudState B} (h : st'.log = st.log) : LogsClean st st' :=
  ⟨[], by simp [h], by simp⟩

lemma logsClean_of_append {st st' : CloudState B} {t : PyStr} (h : st'.log = st.log ++ [t])
    (ht : Avoids label t) : LogsClean st st' :=
  ⟨[t], h, by simpa using ht⟩

lemma avoids_addr {addr : Addr} (h : Avoids label addr.host) : Avoids label addr.text := by
  have hcolon : Separates label (lit ":") := by decide
  have hport : Avoids label (decimal addr.port) :=
    avoids_of_plain (notMem_decimal (by decide) (by decide) _)
  rw [Addr.text]
  exact h.append_sep hcolon hport

lemma onException_logsClean {addr : Addr} {e : PyExc} (haddr : Avoids label addr.host)
    (he : Clean e) (st : CloudState B) (sid : Option PyStr) :
    LogsClean st (onException st addr sid e).1 := by
  unfold onException
  split_ifs
  · have hbefore : Separates label (lit "gateway ") := by decide
    have hafter : Separates label (lit " disconnected") := by decide
    exact logsClean_of_append rfl
      (((avoids_addr haddr).sep_append hbefore label_ne_nil).append_sep_nil hafter label_ne_nil)
  · have hbefore : Separates label (lit "rejecting gateway connection ") := by decide
    exact logsClean_of_append rfl
      (((avoids_addr haddr).sep_append hbefore label_ne_nil).append_sep separates_colon he)
  · have hbefore : Separates label (lit "closing gateway connection ") := by decide
    exact logsClean_of_append rfl
      (((avoids_addr haddr).sep_append hbefore label_ne_nil).append_sep separates_colon he)
  · have hbefore : Separates label (lit "Exception in handler thread: ") := by decide
    exact logsClean_of_append rfl (he.sep_append hbefore label_ne_nil)

/-- One message that is read in the loop. -/
lemma acceptReading_logsClean {m : JsonDict} {key : B} {gid sid : PyStr}
    (hq : ∀ q ∈ quotes cfg (.receiving gid sid key) (.recv (.message m)), Avoids label q)
    (st : CloudState B) :
    LogsClean st (acceptReading P st m key sid).1 ∧
      OnlyRaises (acceptReading P st m key sid).2 Clean := by
  unfold acceptReading
  rcases hd : decryptProtectedReading P m key sid with e | reading
  · have he : Plain e := decryptProtectedReading_plain P m key sid e hd
    have hbefore : Separates label (lit "dropping protected message: ") := by decide
    simp only
    split
    · exact ⟨logsClean_of_append rfl ((avoids_of_plain he).sep_append hbefore label_ne_nil),
        onlyRaises_ok _⟩
    · refine ⟨logsClean_of_eq rfl, fun e' he' => ?_⟩
      cases he'
      exact avoids_of_plain he
  · simp only [quotes, readQuotes, hd, List.mem_singleton, forall_eq] at hq
    simp only
    split
    · next sequence hsequence =>
      have hkey : OnlyRaises (reading.item "device_id" >>= Json.hashKey) Plain :=
        (item_plain (by decide) reading).bind fun v _ => hashKey_plain v
      split
      · next e he =>
        refine ⟨logsClean_of_eq rfl, fun e' he' => ?_⟩
        cases he'
        exact avoids_of_plain (hkey e he)
      · split
        · exact ⟨logsClean_of_eq rfl, onlyRaises_ok _⟩
        · -- the replay warning quotes the device and the sequence
          have hbefore : Separates label (lit "REPLAY REJECTED for ") := by decide
          have hmiddle : Separates label (lit ": sequence ") := by decide
          have hafter : Separates label (lit " is not newer than the last accepted one") := by
            decide
          have hnumber : Avoids label (decimal sequence) :=
            avoids_of_plain (notMem_decimal (by decide) (by decide) _)
          refine ⟨logsClean_of_append rfl ?_, onlyRaises_ok _⟩
          exact ((hq.sep_append hbefore label_ne_nil).append_sep hmiddle hnumber).append_sep_nil
            hafter label_ne_nil
    · exact ⟨logsClean_of_append rfl (avoids_of_plain (by decide)), onlyRaises_ok _⟩

/-- A step of a handler whose quoted strings avoid the label logs lines that avoid it. -/
theorem handlerStep_logsClean {c : ℕ} {addr : Addr} {p : Phase B} {ev : ConnEvent}
    (haddr : Avoids label addr.host) (hq : ∀ q ∈ quotes cfg p ev, Avoids label q)
    (st : CloudState B) : LogsClean st (handlerStep cfg c addr st p ev).1 := by
  have hm := handlerStep_moves cfg c addr st p ev
  generalize (handlerStep cfg c addr st p ev).1 = st' at hm ⊢
  generalize (handlerStep cfg c addr st p ev).2 = p' at hm
  -- one line of the log for each kind of move; what it quotes avoids the label by `hq`, and
  -- the fixed texts around it do not complete one
  cases hm with
  | idle | authenticated | pubkeySent | establishedSent | accepted | stored | counted =>
    exact logsClean_of_eq rfl
  | accept =>
    have hbefore : Separates label (lit "gateway connection from ") := by decide
    exact logsClean_of_append rfl ((avoids_addr haddr).sep_append hbefore label_ne_nil)
  | @refuse o e he =>
    refine onException_logsClean haddr ?_ _ _
    rcases bind_eq_error.1 he with he | ⟨m, ho, he⟩
    · exact readOutcome_clean hq _ he
    · rw [readOutcome_eq_ok ho] at hq
      exact authenticateRequest_clean hq _ he
  | @unregistered o gid e he =>
    refine onException_logsClean haddr ?_ _ _
    rcases bind_eq_error.1 he with he | ⟨m, ho, he⟩
    · exact readOutcome_clean hq _ he
    · exact avoids_of_plain (deriveSession_plain cfg m _ he)
  | @registered o gid sid key he =>
    obtain ⟨m, ho, hderive⟩ := bind_eq_ok.1 he
    rw [readOutcome_eq_ok ho] at hq
    simp only [quotes, readQuotes, hderive, List.mem_cons, List.not_mem_nil, or_false,
      forall_eq_or_imp, forall_eq] at hq
    have hbefore : Separates label (lit "ML-KEM-768 session ") := by decide
    have hmiddle : Separates label (lit " established with gateway ") := by decide
    exact logsClean_of_append rfl
      ((hq.1.sep_append hbefore label_ne_nil).append_sep hmiddle hq.2)
  | pubkeyLost | establishedLost =>
    exact onException_logsClean haddr (hq _ (by simp [quotes])) _ _
  | @readFailed o gid sid key e he =>
    exact onException_logsClean haddr (readOutcome_clean hq _ he) _ _
  | @dropped o gid sid key m text ho hdrop =>
    rw [readOutcome_eq_ok ho] at hq
    -- a reading that is dropped has been logged by the body of the loop
    have hlog := (acceptReading_logsClean hq st).1
    rwa [hdrop] at hlog
  | @raised o gid sid key m e ho hraise =>
    rw [readOutcome_eq_ok ho] at hq
    have he : Clean e := (acceptReading_logsClean hq st).2 e (by rw [hraise])
    exact onException_logsClean haddr he _ _
  | @reported gid sid key reading =>
    simp only [quotes, List.mem_cons, List.not_mem_nil, or_false, forall_eq_or_imp,
      forall_eq] at hq
    obtain ⟨hdevice, hsequence, htemp⟩ := hq
    have hbefore : Separates label (lit "stored reading from ") := by decide
    have hseq : Separates label (lit ": seq=") := by decide
    have htempSep : Separates label (lit " temp=") := by decide
    have hafter : Separates label (lit " C") := by decide
    exact logsClean_of_append rfl
      ((((hdevice.sep_append hbefore label_ne_nil).append_sep hseq hsequence).append_sep htempSep
        htemp).append_sep_nil hafter label_ne_nil)
  | @left sid =>
    cases sid with
    | none => exact logsClean_of_eq rfl
    | some sid =>
      have hbefore : Separates label (lit "session ") := by decide
      have hafter : Separates label (lit " evicted") := by decide
      exact logsClean_of_append rfl
        (((hq sid (by simp [quotes])).sep_append hbefore label_ne_nil).append_sep_nil hafter
          label_ne_nil)

end PqcBridge.Cloud
