/-
How the provisioning script reads the fingerprint of the cloud
(`scripts/docker_bootstrap.py`).

The script runs `docker compose logs cloud` and looks for the fingerprint in what that
prints.  Between a log record and the script stand the formatter of `logging`, which puts
the time, the level and the name of the logger before the text, and `docker compose`,
which puts the name of the container before every line.  `LogFormat` is what they add;
that reading the text in text mode may turn a carriage return into a newline changes
neither search.

* `Announces`: the log holds a label that no later line repeats, with a fingerprint after
  it;
* `Announces.extractFingerprint`: the script then finds this fingerprint;
* `Announces.append`: it still does when records that avoid the label are added.
-/
import PqcBridge.Lib.TextSearch
import PqcBridge.Python.Value

namespace PqcBridge.DockerBootstrap

open Python TextSearch

/-- The label that `extract_fingerprint` looks for. -/
def label : PyStr := lit "ML-KEM public key SHA-256 fingerprint"

/-- `[0-9a-f]`. -/
def isHex : PyChar → Bool
  | .char c => ('0' ≤ c && c ≤ '9') || ('a' ≤ c && c ≤ 'f')
  | .surrogate _ => false

/-- `extract_fingerprint`; `none` is `sys.exit`. -/
def extractFingerprint (logs : PyStr) : Option PyStr :=
  firstRun isHex 64 (afterLast label logs)

/-! ### What the script is given to read -/

def newline : PyChar := .char (Char.ofNat 10)

/-- What is put before the text of a record. -/
structure LogFormat where
  /-- What `docker compose logs` puts before line `k` of record `n`, up to a bar. -/
  tag : ℕ → ℕ → PyStr
  /-- `%(asctime)s %(levelname)-7s %(name)s` of record `n`. -/
  stamp : ℕ → PyStr
  tag_avoids : ∀ n k, Avoids label (tag n k)
  tag_noRun : ∀ n k, firstRun isHex 64 (tag n k) = none
  stamp_avoids : ∀ n, Avoids label (stamp n)
  stamp_noRun : ∀ n, firstRun isHex 64 (stamp n) = none
  stamp_line : ∀ n, newline ∉ stamp n

namespace LogFormat

variable (f : LogFormat)

/-- The lines of record `n`. -/
def record (n : ℕ) (text : PyStr) : PyStr :=
  f.tag n 0 ++ lit "| " ++ tagLines newline (fun k => f.tag n k ++ lit "| ") 0
    (f.stamp n ++ lit ": " ++ text)

/-- The lines of the records from number `n` on. -/
def logsFrom : ℕ → List PyStr → PyStr
  | _, [] => []
  | n, text :: log => f.record n text ++ logsFrom (n + 1) log

/-- `compose_logs("cloud")`. -/
def logs (log : List PyStr) : PyStr := f.logsFrom 0 log

end LogFormat

/-! ### Records that avoid the label -/

lemma label_ne_nil : label ≠ [] := by decide

lemma separates_newline : Separates label [newline] := by decide

lemma separates_bar : Separates label (lit "| ") := by decide

lemma separates_colon : Separates label (lit ": ") := by decide

namespace LogFormat

variable {f : LogFormat} {n : ℕ} {text : PyStr} {log log' : List PyStr}

lemma logsFrom_append (n : ℕ) (log log' : List PyStr) :
    f.logsFrom n (log ++ log') = f.logsFrom n log ++ f.logsFrom (n + log.length) log' := by
  induction log generalizing n with
  | nil => rfl
  | cons text log ih =>
    have hlen : n + 1 + log.length = n + (log.length + 1) := by omega
    simp [logsFrom, ih, hlen]

lemma logs_append (log log' : List PyStr) :
    f.logs (log ++ log') = f.logs log ++ f.logsFrom log.length log' := by
  rw [logs, logs, logsFrom_append, Nat.zero_add]

/-- The last line of a record. -/
lemma record_append {t : PyStr} (h : newline ∉ t) (s : PyStr) :
    ∃ x, f.record n (s ++ t) = x ++ (t ++ [newline]) := by
  obtain ⟨x, hx⟩ := tagLines_append (fun k => f.tag n k ++ lit "| ") h
    (f.stamp n ++ lit ": " ++ s) 0
  refine ⟨f.tag n 0 ++ lit "| " ++ x, ?_⟩
  rw [record, ← List.append_assoc _ s t, hx]
  simp

/-- A record of one line. -/
lemma record_of_line (h : newline ∉ text) :
    f.record n text
      = f.tag n 0 ++ lit "| " ++ (f.stamp n ++ lit ": " ++ text ++ [newline]) := by
  have hline : newline ∉ f.stamp n ++ lit ": " ++ text := by
    have hcolon : newline ∉ lit ": " := by decide
    simp [f.stamp_line n, hcolon, h]
  rw [record, tagLines_of_notMem _ hline]

lemma avoids_record (h : Avoids label text) : Avoids label (f.record n text) := by
  have htag : ∀ k x, Avoids label x → Avoids label (f.tag n k ++ lit "| " ++ x) :=
    fun k x hx => (f.tag_avoids n k).append_sep separates_bar hx
  exact avoids_tagLines (fun k => f.tag n k ++ lit "| ") separates_newline
    label_ne_nil htag 0 [] _ ((f.stamp_avoids n).append_sep separates_colon h)

lemma avoids_logsFrom (h : ∀ t ∈ log, Avoids label t) (n : ℕ) :
    Avoids label (f.logsFrom n log) := by
  induction log generalizing n with
  | nil => exact avoids_nil label_ne_nil
  | cons text log ih =>
    obtain ⟨x, hx⟩ := f.record_append (n := n) (List.not_mem_nil (a := newline)) text
    have hrecord : Avoids label (f.record n text) := avoids_record (h text (by simp))
    rw [List.append_nil, List.nil_append] at hx
    rw [hx] at hrecord
    rw [logsFrom, hx]
    exact (hrecord.of_infix (List.prefix_append _ _).isInfix).append_sep separates_newline
      (ih (fun t ht => h t (by simp [ht])) (n + 1))

/-- Every record ends with a newline. -/
lemma append_logsFrom (x : PyStr) (n : ℕ) (log : List PyStr) :
    ∃ y, x ++ [newline] ++ f.logsFrom n log = y ++ [newline] := by
  induction log generalizing x n with
  | nil => exact ⟨x, by simp [logsFrom]⟩
  | cons text log ih =>
    obtain ⟨r, hr⟩ := f.record_append (n := n) (List.not_mem_nil (a := newline)) text
    obtain ⟨y, hy⟩ := ih (x ++ [newline] ++ r) (n + 1)
    rw [List.append_nil, List.nil_append] at hr
    refine ⟨y, ?_⟩
    rw [logsFrom, hr, ← hy]
    simp only [List.append_assoc]

end LogFormat

/-! ### The fingerprint that the script finds -/

/-- No line after the last label repeats it, and `fingerprint` is the first run of 64
digits there. -/
def Announces (f : LogFormat) (log : List PyStr) (fingerprint : PyStr) : Prop :=
  ∃ x y, f.logs log = x ++ (label ++ (y ++ [newline])) ∧
    Avoids label (label.tail ++ (y ++ [newline])) ∧
    firstRun isHex 64 (y ++ [newline]) = some fingerprint

variable {f : LogFormat} {log texts : List PyStr} {fingerprint : PyStr}

lemma Announces.extractFingerprint (h : Announces f log fingerprint) :
    extractFingerprint (f.logs log) = some fingerprint := by
  obtain ⟨x, y, hlog, havoids, hrun⟩ := h
  rw [DockerBootstrap.extractFingerprint, hlog, afterLast_append label_ne_nil havoids, hrun]

/-- Records that avoid the label do not change what the script finds. -/
lemma Announces.append (h : Announces f log fingerprint) (htexts : ∀ t ∈ texts, Avoids label t) :
    Announces f (log ++ texts) fingerprint := by
  obtain ⟨x, y, hlog, havoids, hrun⟩ := h
  obtain ⟨z, hz⟩ := f.append_logsFrom y log.length texts
  have hsuffix : Avoids label (f.logsFrom log.length texts) := f.avoids_logsFrom htexts _
  refine ⟨x, z, ?_, ?_, ?_⟩
  · rw [LogFormat.logs_append, hlog, ← hz]
    simp only [List.append_assoc]
  · have hbefore : Avoids label (label.tail ++ y) := by
      refine havoids.of_infix ?_
      rw [← List.append_assoc]
      exact (List.prefix_append _ _).isInfix
    have hall := hbefore.append_sep separates_newline hsuffix
    rw [← hz]
    simpa only [List.append_assoc] using hall
  · rw [← hz]
    exact firstRun_append hrun _

/-- The two records that a start writes. -/
lemma announces_of_label (hlen : fingerprint.length = 64)
    (hhex : ∀ a ∈ fingerprint, isHex a = true) (f : LogFormat) (log : List PyStr) (s : PyStr) :
    Announces f (log ++ [s ++ (label ++ lit ":"), lit "  " ++ fingerprint]) fingerprint := by
  -- the fingerprint is made of hexadecimal digits alone
  have hdigits : ∀ c, isHex c = false → c ∉ fingerprint := by
    intro c hc hmem
    have htrue := hhex c hmem
    rw [hc] at htrue
    cases htrue
  have hline : newline ∉ lit "  " ++ fingerprint := by
    rw [List.mem_append]
    rintro (h | h)
    · revert h
      decide
    · exact hdigits _ (by decide) h
  have hsecond : Avoids label (lit "  " ++ fingerprint) := by
    refine avoids_of_notMem (c := .char 'M') (by decide) ?_
    rw [List.mem_append]
    rintro (h | h)
    · revert h
      decide
    · exact hdigits _ (by decide) h
  have hcolon : newline ∉ label ++ lit ":" := by decide
  obtain ⟨x, hx⟩ := f.record_append (n := log.length) hcolon s
  refine ⟨f.logs log ++ x, lit ":" ++ [newline] ++ f.tag (log.length + 1) 0 ++ lit "| "
    ++ f.stamp (log.length + 1) ++ lit ": " ++ (lit "  " ++ fingerprint), ?_, ?_, ?_⟩
  · rw [LogFormat.logs_append, LogFormat.logsFrom, LogFormat.logsFrom, LogFormat.logsFrom, hx,
      f.record_of_line hline]
    simp only [List.append_assoc, List.append_nil]
  -- the label does not come again behind the fingerprint
  · have hrecord := f.avoids_record (n := log.length + 1) hsecond
    have htail : Avoids label (label.tail ++ lit ":") := by decide
    rw [f.record_of_line hline] at hrecord
    have hall := htail.append_sep separates_newline hrecord
    simpa only [List.append_assoc] using hall
  -- tag and time stamp hold no run of 64 digits
  · have htext : lit ":" ++ [newline] ++ f.tag (log.length + 1) 0 ++ lit "| "
          ++ f.stamp (log.length + 1) ++ lit ": " ++ (lit "  " ++ fingerprint) ++ [newline]
        = .char ':' :: newline :: (f.tag (log.length + 1) 0 ++ .char '|' :: .char ' ' ::
          (f.stamp (log.length + 1) ++ .char ':' :: .char ' ' :: .char ' ' :: .char ' ' ::
            (fingerprint ++ [newline]))) := by
      simp [lit]
    have hn : (64 : ℕ) ≠ 0 := by decide
    rw [htext, firstRun_cons hn (by decide), firstRun_cons hn (by decide),
      firstRun_append_cons hn (by decide) (f.tag_noRun _ _), firstRun_cons hn (by decide),
      firstRun_append_cons hn (by decide) (f.stamp_noRun _), firstRun_cons hn (by decide),
      firstRun_cons hn (by decide), firstRun_cons hn (by decide)]
    exact firstRun_run hlen hn hhex _

end PqcBridge.DockerBootstrap
