import LanternRuntime.ProgLib.Text
import LanternRuntime.Confined.Probing
import LanternRuntime.Guests.Probe
/-!
# Reports and verdicts

A guest's report is text, and `run_probe` looks for markers in it. `Reports`
lists, for each guest, every report with the calls and answers that it comes
from. `verdicts_agree` shows that the markers tell the answers apart, whatever
lengths and signatures stand in the text.
-/
open ProgLib

namespace LanternRuntime.Guests
open Host Confined

/-! ## The tests of a report -/

section Text
variable {report s t : String} {required : List String} {marker : String}

theorem starts_with_iff : starts_with s t = true ↔ t.toList <+: s.toList := List.isPrefixOf_iff_prefix

theorem contains_iff : contains s marker = true ↔ marker.toList <:+: s.toList := decide_eq_true_iff

theorem starts_with_append {p : String} (h : starts_with s p = true) : starts_with (s ++ t) p = true := by
  rw [starts_with_iff] at *
  rw [String.toList_append]
  exact h.trans (List.prefix_append _ _)

/-- No report is both. -/
theorem ok_not_error (hok : starts_with report "ok: " = true) : starts_with report "error: " = false := by
  cases herror : starts_with report "error: " with
  | false => rfl
  | true =>
    rw [starts_with_iff] at hok herror
    obtain ⟨rest, hrest⟩ := hok
    rw [← hrest] at herror
    cases (List.cons_prefix_cons.1 herror).1

theorem error_fails (h : starts_with report "error: " = true) : check_report report required ≠ .ok () := by
  intro hpasses
  rw [ok_not_error (check_report_ok.1 hpasses).1] at h
  cases h

theorem ok_no_refusal (h : starts_with report "ok: " = true) : refusal report marker ≠ true := by
  rw [refusal, ok_not_error h, Bool.false_and]
  exact nofun

/-- A marker in quotes is not in a text without any. -/
theorem unquoted {q : List Char} (hmarker : marker.toList = '"' :: q) (h : '"' ∉ s.toList) :
    refusal s marker ≠ true := by
  intro hrefusal
  have hcontains : contains s marker = true := (Bool.and_eq_true_iff.1 hrefusal).2
  rw [contains_iff, hmarker] at hcontains
  exact h (hcontains.subset List.mem_cons_self)

/-- What stands before the text of an error code has no quotes. -/
theorem refusal_quoted {q : List Char} (hmarker : marker.toList = '"' :: q)
    (herror : starts_with s "error: " = true) (h : '"' ∉ s.toList) : refusal (s ++ t) marker = contains t marker := by
  have hcontains : contains (s ++ t) marker = contains t marker := by
    rw [Bool.eq_iff_iff, contains_iff, contains_iff, String.toList_append, hmarker]
    exact infix_append_iff h
  rw [refusal, starts_with_append herror, hcontains, Bool.true_and]

theorem notMem_length {n : Nat} {x : Char} (hx : x.isDigit = false) (hs : x ∉ s.toList) (ht : x ∉ t.toList) :
    x ∉ (s ++ toString n ++ t).toList := by
  rw [String.toList_append, String.toList_append]
  exact List.not_mem_append (List.not_mem_append hs (notMem_repr hx)) ht

end Text

/-! ## `confined-probe-guest` -/

namespace confined_probe_guest

/-- What `probe` asked and heard, and what it reports then. -/
inductive Reports : Events → String → Prop
  | no_key : Reports [⟨.keystoreOpen 0, none⟩] "error: the manifest granted no key at keystore slot 0"
  | denied {key} : Reports [⟨.keystoreOpen 0, some key⟩, ⟨.sign key MESSAGE, .error .Access⟩, ⟨.keyDrop key, ()⟩]
      "error: keystore denied `sign` (badge not scoped to that op)"
  | rejected {key} : Reports [⟨.keystoreOpen 0, some key⟩, ⟨.sign key MESSAGE, .error .Invalid⟩, ⟨.keyDrop key, ()⟩]
      "error: keystore rejected the sign request as invalid"
  | signed {key signature} : Reports [⟨.keystoreOpen 0, some key⟩, ⟨.sign key MESSAGE, .ok signature⟩,
      ⟨.keystoreOpen 1, none⟩, ⟨.keyDrop key, ()⟩] (signed signature "none")
  | leaked {key signature other} : Reports [⟨.keystoreOpen 0, some key⟩, ⟨.sign key MESSAGE, .ok signature⟩,
      ⟨.keystoreOpen 1, some other⟩, ⟨.keyDrop other, ()⟩, ⟨.keyDrop key, ()⟩] (signed signature "LEAKED")

theorem runs_probe {tr : Events} {o : Outcome String} :
    Runs probe tr o ↔ ∃ report, o = .ret report ∧ Reports tr report := by
  constructor
  · intro h
    obtain ⟨opened, tr₁, rfl, h₁⟩ := runs_call.1 h
    rcases opened with _ | key
    · obtain ⟨rfl, rfl⟩ := runs_ret.1 h₁
      exact ⟨_, rfl, .no_key⟩
    · obtain ⟨answer, tr₂, rfl, h₂⟩ := runs_call.1 h₁
      rcases answer with (_ | _) | signature
      · obtain ⟨⟨⟩, tr₃, rfl, h₃⟩ := runs_call.1 h₂
        obtain ⟨rfl, rfl⟩ := runs_ret.1 h₃
        exact ⟨_, rfl, .denied⟩
      · obtain ⟨⟨⟩, tr₃, rfl, h₃⟩ := runs_call.1 h₂
        obtain ⟨rfl, rfl⟩ := runs_ret.1 h₃
        exact ⟨_, rfl, .rejected⟩
      · obtain ⟨second, tr₃, rfl, h₃⟩ := runs_call.1 h₂
        rcases second with _ | other
        · obtain ⟨⟨⟩, tr₄, rfl, h₄⟩ := runs_call.1 h₃
          obtain ⟨rfl, rfl⟩ := runs_ret.1 h₄
          exact ⟨_, rfl, .signed⟩
        · obtain ⟨⟨⟩, tr₄, rfl, h₄⟩ := runs_call.1 h₃
          obtain ⟨⟨⟩, tr₅, rfl, h₅⟩ := runs_call.1 h₄
          obtain ⟨rfl, rfl⟩ := runs_ret.1 h₅
          exact ⟨_, rfl, .leaked⟩
  · rintro ⟨report, rfl, h⟩
    cases h with
    | no_key => exact .call _ _ _ (.ret _)
    | denied => exact .call _ _ _ (.call _ _ _ (.call _ _ _ (.ret _)))
    | rejected => exact .call _ _ _ (.call _ _ _ (.call _ _ _ (.ret _)))
    | signed => exact .call _ _ _ (.call _ _ _ (.call _ _ _ (.call _ _ _ (.ret _))))
    | leaked => exact .call _ _ _ (.call _ _ _ (.call _ _ _ (.call _ _ _ (.call _ _ _ (.ret _)))))

/-- What was written before the `.` of the slot's marker. -/
def beforeSlot (signature : Bytes) : List Char :=
  "ok: signed ".toList ++ (MESSAGE.val.length.repr.toList ++
    (" bytes with the granted key — ed25519 sig = ".toList ++ ((String.join ((signature.take 6).map hex)).toList ++
      ("… ".toList ++ ("(".toList ++ (signature.length.repr.toList ++ " bytes); keystore".toList))))))

theorem signed_toList (signature : Bytes) (ungranted : String) :
    (signed signature ungranted).toList = beforeSlot signature ++ '.' :: ("open(1)=" ++ ungranted).toList := by
  unfold signed beforeSlot
  simp only [String.toList_append, toString, List.append_assoc]
  rfl

theorem notMem_beforeSlot (signature : Bytes) : '.' ∉ beforeSlot signature := by
  have hhex : '.' ∉ (String.join ((signature.take 6).map hex)).toList := by
    intro h
    obtain ⟨s, hs, hdot⟩ := List.mem_flatMap.1 (String.toList_join ▸ h)
    obtain ⟨byte, -, rfl⟩ := List.mem_map.1 hs
    simp [hex] at hdot
  have hmessage : '.' ∉ MESSAGE.val.length.repr.toList := notMem_repr rfl
  have hlength : '.' ∉ signature.length.repr.toList := notMem_repr rfl
  have hsigned : '.' ∉ "ok: signed ".toList := by decide
  have hwith : '.' ∉ " bytes with the granted key — ed25519 sig = ".toList := by decide
  have hcut : '.' ∉ "… ".toList := by decide
  have hopening : '.' ∉ "(".toList := by decide
  have hclosing : '.' ∉ " bytes); keystore".toList := by decide
  exact List.not_mem_append hsigned (List.not_mem_append hmessage (List.not_mem_append hwith
    (List.not_mem_append hhex (List.not_mem_append hcut (List.not_mem_append hopening
      (List.not_mem_append hlength hclosing))))))

theorem suffix_beforeSlot (signature : Bytes) : "keystore".toList <:+ beforeSlot signature := by
  have h : "keystore".toList <:+ " bytes); keystore".toList := by decide
  unfold beforeSlot
  iterate 7 apply List.suffix_append_of_suffix
  exact h

/-- The slot's marker is in the report where the report speaks of the slot, or nowhere. -/
theorem signed_contains (signature : Bytes) {ungranted : String} (hdot : '.' ∉ ("open(1)=" ++ ungranted).toList) :
    contains (signed signature ungranted) "keystore.open(1)=none" = true ↔
      "open(1)=none".toList <+: ("open(1)=" ++ ungranted).toList := by
  have hmarker : "keystore.open(1)=none".toList = "keystore".toList ++ '.' :: "open(1)=none".toList := rfl
  rw [contains_iff, signed_toList, hmarker, infix_around_iff (notMem_beforeSlot signature) hdot,
    and_iff_right (suffix_beforeSlot signature)]

theorem signed_ok (signature : Bytes) (ungranted : String) :
    starts_with (signed signature ungranted) "ok: " = true := by
  have hok : "ok: ".toList <+: "ok: signed ".toList := by decide
  have hsigned : "ok: signed ".toList <+: beforeSlot signature := List.prefix_append _ _
  rw [starts_with_iff, signed_toList]
  exact (hok.trans hsigned).trans (List.prefix_append _ _)

/-- A key at slot 0, a signature for the message, and nothing at slot 1. -/
def Signed (tr : Events) : Prop := ∃ key signature, tr = [⟨.keystoreOpen 0, some key⟩,
  ⟨.sign key MESSAGE, .ok signature⟩, ⟨.keystoreOpen 1, none⟩, ⟨.keyDrop key, ()⟩]

/-- A key at slot 0, and no access to a signature with it. -/
def Denied (tr : Events) : Prop :=
  ∃ key, tr = [⟨.keystoreOpen 0, some key⟩, ⟨.sign key MESSAGE, .error .Access⟩, ⟨.keyDrop key, ()⟩]

section Verdicts
variable [Crates] {tr : Events} {report : String}

theorem Reports.passes (h : Reports tr report) : check_report report keystore_checks.required = .ok () ↔ Signed tr := by
  cases h with
  | no_key => exact iff_of_false (error_fails (by decide)) nofun
  | denied => exact iff_of_false (error_fails (by decide)) nofun
  | rejected => exact iff_of_false (error_fails (by decide)) nofun
  | @signed key signature =>
    refine iff_of_true (check_report_ok.2 ⟨signed_ok _ _, ?_⟩) ⟨key, signature, rfl⟩
    exact List.forall_mem_singleton.2 ((signed_contains signature (by decide)).2 (by decide))
  | @leaked key signature other =>
    refine iff_of_false (fun hp => ?_) nofun
    have hmarker := (check_report_ok.1 hp).2 _ List.mem_cons_self
    exact absurd ((signed_contains signature (by decide)).1 hmarker) (by decide)

theorem Reports.refuses (h : Reports tr report) : refusal report keystore_checks.refused = true ↔ Denied tr := by
  change refusal report "keystore denied" = true ↔ _
  cases h with
  | no_key => exact iff_of_false (by decide) nofun
  | denied => exact iff_of_true (by decide) ⟨_, rfl⟩
  | rejected => exact iff_of_false (by decide) nofun
  | signed => exact iff_of_false (ok_no_refusal (signed_ok _ _)) nofun
  | leaked => exact iff_of_false (ok_no_refusal (signed_ok _ _)) nofun

end Verdicts

end confined_probe_guest

/-! ## `confined-fs-guest` -/

namespace confined_fs_guest

def opened (file : Handle) : Events := [⟨.filesystemOpen 0, some file⟩]

def fresh (file : Handle) : Events := opened file ++ [⟨.read file, .ok []⟩]

def written (file : Handle) : Events := fresh file ++ [⟨.write file CONTENT, .ok ()⟩]

def readBack (file : Handle) : Events := written file ++ [⟨.read file, .ok CONTENT⟩]

def refused (file : Handle) : Events := readBack file ++ [⟨.write file OVERSIZED, .error .Invalid⟩]

def kept (file : Handle) : Events := refused file ++ [⟨.read file, .ok CONTENT⟩]

/-- After `pre` an answer was not as required: the report says so. -/
inductive Rejected (debug : ErrorCode → String) (file : Handle) : Events → Event Wit → String → Prop
  | not_fresh {bytes : Bytes} : bytes ≠ [] → Rejected debug file (opened file) ⟨.read file, .ok bytes⟩
      s!"error: a fresh file read back {bytes.length} bytes, not 0"
  | fresh_failed {e} : Rejected debug file (opened file) ⟨.read file, .error e⟩
      s!"error: reading the fresh file failed: {debug e}"
  | write_failed {e} : Rejected debug file (fresh file) ⟨.write file CONTENT, .error e⟩
      s!"error: write failed: {debug e}"
  | mismatch {bytes : Bytes} : bytes ≠ CONTENT → Rejected debug file (written file) ⟨.read file, .ok bytes⟩
      s!"error: read back {bytes.length} bytes that don't match what was written"
  | read_back_failed {e} : Rejected debug file (written file) ⟨.read file, .error e⟩
      s!"error: read-back failed: {debug e}"
  | oversized_denied : Rejected debug file (readBack file) ⟨.write file OVERSIZED, .error .Access⟩
      "error: oversized write denied as access, not invalid"
  | oversized_accepted : Rejected debug file (readBack file) ⟨.write file OVERSIZED, .ok ()⟩
      "error: an oversized write was accepted"
  | changed {bytes : Bytes} : bytes ≠ CONTENT → Rejected debug file (refused file) ⟨.read file, .ok bytes⟩
      "error: a refused oversized write still changed the file"
  | lost {e} : Rejected debug file (refused file) ⟨.read file, .error e⟩
      s!"error: read after the refused write failed: {debug e}"

/-- What `probe` asked and heard, and what it reports then. -/
inductive Reports (debug : ErrorCode → String) : Events → String → Prop
  | no_file : Reports debug [⟨.filesystemOpen 0, none⟩] "error: the manifest granted no file at filesystem slot 0"
  | rejected {file pre e report} : Rejected debug file pre e report →
      Reports debug (pre ++ [e, ⟨.fileDrop file, ()⟩]) report
  | intact {file} : Reports debug (kept file ++ [⟨.filesystemOpen 1, none⟩, ⟨.fileDrop file, ()⟩])
      (intact "invalid" "none")
  | leaked {file other} : Reports debug
      (kept file ++ [⟨.filesystemOpen 1, some other⟩, ⟨.fileDrop other, ()⟩, ⟨.fileDrop file, ()⟩])
      (intact "invalid" "LEAKED")

section Runs
variable {debug : ErrorCode → String} {file : Handle} {tr : Events} {o : Outcome String}

/-- A report that is returned early. -/
theorem runs_early {report : String} (h : Runs (dropping (ask (.fileDrop file)) (return report)) tr o) :
    tr = [⟨.fileDrop file, ()⟩] ∧ o = .ret report := by
  obtain ⟨⟨⟩, tr', rfl, h'⟩ := runs_call.1 h
  obtain ⟨rfl, rfl⟩ := runs_ret.1 h'
  exact ⟨rfl, rfl⟩

theorem runs_if {c : Prop} [Decidable c] {p q : Prog Wit String}
    (h : Runs (dropping (ask (.fileDrop file)) (if c then p else q)) tr o) :
    (c ∧ Runs (dropping (ask (.fileDrop file)) p) tr o) ∨ (¬ c ∧ Runs (dropping (ask (.fileDrop file)) q) tr o) := by
  by_cases hc : c
  · rw [if_pos hc] at h
    exact .inl ⟨hc, h⟩
  · rw [if_neg hc] at h
    exact .inr ⟨hc, h⟩

theorem runs_probe (h : Runs (probe debug) tr o) : ∃ report, o = .ret report ∧ Reports debug tr report := by
  obtain ⟨_ | file, tr₁, rfl, h₁⟩ := runs_call.1 h
  · obtain ⟨rfl, rfl⟩ := runs_ret.1 h₁
    exact ⟨_, rfl, .no_file⟩
  obtain ⟨e | bytes, tr₂, rfl, h₂⟩ := runs_call.1 h₁
  · obtain ⟨rfl, rfl⟩ := runs_early h₂
    exact ⟨_, rfl, .rejected .fresh_failed⟩
  rcases runs_if h₂ with ⟨hne, h₃⟩ | ⟨hempty, h₃⟩
  · obtain ⟨rfl, rfl⟩ := runs_early h₃
    exact ⟨_, rfl, .rejected (.not_fresh hne)⟩
  obtain rfl := not_not.1 hempty
  obtain ⟨e | ⟨⟩, tr₃, rfl, h₄⟩ := runs_call.1 h₃
  · obtain ⟨rfl, rfl⟩ := runs_early h₄
    exact ⟨_, rfl, .rejected .write_failed⟩
  obtain ⟨e | bytes, tr₄, rfl, h₅⟩ := runs_call.1 h₄
  · obtain ⟨rfl, rfl⟩ := runs_early h₅
    exact ⟨_, rfl, .rejected .read_back_failed⟩
  rcases runs_if h₅ with ⟨hne, h₆⟩ | ⟨hsame, h₆⟩
  · obtain ⟨rfl, rfl⟩ := runs_early h₆
    exact ⟨_, rfl, .rejected (.mismatch hne)⟩
  obtain rfl := not_not.1 hsame
  obtain ⟨(_ | _) | ⟨⟩, tr₅, rfl, h₇⟩ := runs_call.1 h₆
  · obtain ⟨rfl, rfl⟩ := runs_early h₇
    exact ⟨_, rfl, .rejected .oversized_denied⟩
  · obtain ⟨e | bytes, tr₆, rfl, h₈⟩ := runs_call.1 h₇
    · obtain ⟨rfl, rfl⟩ := runs_early h₈
      exact ⟨_, rfl, .rejected .lost⟩
    rcases runs_if h₈ with ⟨hne, h₉⟩ | ⟨hsame, h₉⟩
    · obtain ⟨rfl, rfl⟩ := runs_early h₉
      exact ⟨_, rfl, .rejected (.changed hne)⟩
    obtain rfl := not_not.1 hsame
    obtain ⟨_ | other, tr₇, rfl, h₁₀⟩ := runs_call.1 h₉
    · obtain ⟨rfl, rfl⟩ := runs_early h₁₀
      exact ⟨_, rfl, .intact⟩
    · obtain ⟨⟨⟩, tr₈, rfl, h₁₁⟩ := runs_call.1 h₁₀
      obtain ⟨rfl, rfl⟩ := runs_early h₁₁
      exact ⟨_, rfl, .leaked⟩
  · obtain ⟨rfl, rfl⟩ := runs_early h₇
    exact ⟨_, rfl, .rejected .oversized_accepted⟩

end Runs

section Verdicts
variable {debug : ErrorCode → String} {file : Handle} {pre tr : Events} {e : Event Wit} {report : String}

/-- The calls of a guest that read what it wrote, before and after an oversized write. -/
def Intact (tr : Events) : Prop := ∃ file, tr = [⟨.filesystemOpen 0, some file⟩, ⟨.read file, .ok []⟩,
  ⟨.write file CONTENT, .ok ()⟩, ⟨.read file, .ok CONTENT⟩, ⟨.write file OVERSIZED, .error .Invalid⟩,
  ⟨.read file, .ok CONTENT⟩, ⟨.filesystemOpen 1, none⟩, ⟨.fileDrop file, ()⟩]

/-- A read, or the write that was to be accepted, was denied. -/
def AccessDenied (file : Handle) (e : Event Wit) : Prop :=
  e = ⟨.read file, .error .Access⟩ ∨ e = ⟨.write file CONTENT, .error .Access⟩

/-- That was the last thing before the file was dropped. -/
def Denied (tr : Events) : Prop := ∃ pre file e, tr = pre ++ [e, ⟨.fileDrop file, ()⟩] ∧ AccessDenied file e

theorem Rejected.error (h : Rejected debug file pre e report) : starts_with report "error: " = true := by
  cases h with
  | not_fresh _ => exact starts_with_append (starts_with_append (by decide))
  | fresh_failed => exact starts_with_append (by decide)
  | write_failed => exact starts_with_append (by decide)
  | mismatch _ => exact starts_with_append (starts_with_append (by decide))
  | read_back_failed => exact starts_with_append (by decide)
  | oversized_denied => decide
  | oversized_accepted => decide
  | changed _ => decide
  | lost => exact starts_with_append (by decide)

/-- Of the texts that end in an error code, those of `access` are refusals. -/
theorem failed_refuses (haccess : contains (debug .Access) "\"access\"" = true)
    (hinvalid : contains (debug .Invalid) "\"access\"" = false) {s : String} {code : ErrorCode}
    (herror : starts_with s "error: " = true) (hquote : '"' ∉ s.toList) :
    refusal (s ++ debug code) "\"access\"" = true ↔ code = .Access := by
  rw [refusal_quoted rfl herror hquote]
  cases code with
  | Access => exact iff_of_true haccess rfl
  | Invalid =>
    rw [hinvalid]
    exact ⟨nofun, nofun⟩

theorem read_denied {code : ErrorCode} : AccessDenied file ⟨.read file, .error code⟩ ↔ code = .Access := by
  constructor
  · rintro (h | h) <;> cases h
    rfl
  · rintro rfl
    exact .inl rfl

theorem write_denied {code : ErrorCode} : AccessDenied file ⟨.write file CONTENT, .error code⟩ ↔ code = .Access := by
  constructor
  · rintro (h | h) <;> cases h
    rfl
  · rintro rfl
    exact .inr rfl

theorem oversized_ne : OVERSIZED ≠ CONTENT := by
  intro h
  have hlength : OVERSIZED.val.length = CONTENT.val.length := congrArg (fun list => list.val.length) h
  rw [OVERSIZED, List.length_replicate] at hlength
  exact absurd hlength (by decide)

theorem Rejected.refuses (haccess : contains (debug .Access) "\"access\"" = true)
    (hinvalid : contains (debug .Invalid) "\"access\"" = false) (h : Rejected debug file pre e report) :
    refusal report "\"access\"" = true ↔ AccessDenied file e := by
  cases h with
  | not_fresh _ =>
    exact iff_of_false (unquoted rfl (notMem_length rfl (by decide) (by decide))) (by rintro (h | h) <;> cases h)
  | fresh_failed => exact (failed_refuses haccess hinvalid (by decide) (by decide)).trans read_denied.symm
  | write_failed => exact (failed_refuses haccess hinvalid (by decide) (by decide)).trans write_denied.symm
  | mismatch _ =>
    exact iff_of_false (unquoted rfl (notMem_length rfl (by decide) (by decide))) (by rintro (h | h) <;> cases h)
  | read_back_failed => exact (failed_refuses haccess hinvalid (by decide) (by decide)).trans read_denied.symm
  | oversized_denied =>
    -- Its report names the code without quotes: this is no refusal, although it was `access`.
    refine iff_of_false (unquoted rfl (by decide)) ?_
    rintro (h | h)
    · cases h
    · exact oversized_ne (GuestCall.write.inj (congrArg Event.call h)).2
  | oversized_accepted => exact iff_of_false (unquoted rfl (by decide)) (by rintro (h | h) <;> cases h)
  | changed _ => exact iff_of_false (unquoted rfl (by decide)) (by rintro (h | h) <;> cases h)
  | lost => exact (failed_refuses haccess hinvalid (by decide) (by decide)).trans read_denied.symm

theorem intact_iff : Intact tr ↔ ∃ file, tr = kept file ++ [⟨.filesystemOpen 1, none⟩, ⟨.fileDrop file, ()⟩] := Iff.rfl

/-- The last two calls of a run. -/
theorem last_two {a a' b b' : Event Wit} {pre' : Events} (h : pre ++ [a, b] = pre' ++ [a', b']) : a = a' ∧ b = b' := by
  have hlast := List.append_inj_right' h rfl
  cases hlast
  exact ⟨rfl, rfl⟩

theorem denied_iff : Denied (pre ++ [e, ⟨.fileDrop file, ()⟩]) ↔ AccessDenied file e := by
  constructor
  · rintro ⟨pre', file', e', he, hdenied⟩
    obtain ⟨rfl, hdrop⟩ := last_two he
    cases hdrop
    exact hdenied
  · exact fun hdenied => ⟨pre, file, e, rfl, hdenied⟩

theorem Rejected.not_intact (h : Rejected debug file pre e report) : ¬ Intact (pre ++ [e, ⟨.fileDrop file, ()⟩]) := by
  intro hintact
  obtain ⟨file', he⟩ := intact_iff.1 hintact
  have hopen := (last_two he).1
  cases h <;> cases hopen

theorem intact_ok (oversized ungranted : String) : starts_with (intact oversized ungranted) "ok: " = true := by
  unfold intact
  iterate 5 apply starts_with_append
  decide

variable [Crates]

theorem Reports.passes (h : Reports debug tr report) :
    check_report report filesystem_checks.required = .ok () ↔ Intact tr := by
  change check_report report ["oversized write=invalid", "content intact", "filesystem.open(1)=none"] = .ok () ↔ _
  cases h with
  | no_file => exact iff_of_false (error_fails (by decide)) nofun
  | rejected h => exact iff_of_false (error_fails h.error) h.not_intact
  | intact => exact iff_of_true (check_report_ok.2 ⟨intact_ok _ _, by decide +kernel⟩) (intact_iff.2 ⟨_, rfl⟩)
  | leaked =>
    have hmarker : contains (confined_fs_guest.intact "invalid" "LEAKED") "filesystem.open(1)=none" = false := by
      decide +kernel
    refine iff_of_false (fun hp => ?_) nofun
    rw [(check_report_ok.1 hp).2 "filesystem.open(1)=none" (by decide)] at hmarker
    cases hmarker

theorem Reports.refuses (haccess : contains (debug .Access) "\"access\"" = true)
    (hinvalid : contains (debug .Invalid) "\"access\"" = false) (h : Reports debug tr report) :
    refusal report filesystem_checks.refused = true ↔ Denied tr := by
  change refusal report "\"access\"" = true ↔ _
  cases h with
  | no_file =>
    refine iff_of_false (unquoted rfl (by decide)) ?_
    rintro ⟨pre, file, e, he, -⟩
    have hlength := congrArg List.length he
    simp at hlength
  | rejected h => rw [h.refuses haccess hinvalid, denied_iff]
  | intact =>
    rw [denied_iff]
    exact iff_of_false (ok_no_refusal (intact_ok _ _)) (by rintro (h | h) <;> cases h)
  | leaked =>
    rw [List.append_cons, denied_iff]
    exact iff_of_false (ok_no_refusal (intact_ok _ _)) (by rintro (h | h) <;> cases h)

end Verdicts

end confined_fs_guest

/-! ## The verdicts -/

/-- Both reports pass or are read as refusals exactly when the answers were those, whatever `debug` writes around
the name of an error code. -/
theorem verdicts_agree [Crates] {debug : ErrorCode → String}
    (haccess : contains (debug .Access) "\"access\"" = true)
    (hinvalid : contains (debug .Invalid) "\"access\"" = false)
    {tr₁ tr₂ : Events} {o₁ o₂ : Outcome String}
    (h₁ : Runs confined_probe_guest.probe tr₁ o₁) (h₂ : Runs (confined_fs_guest.probe debug) tr₂ o₂) :
    (∃ report, o₁ = .ret report ∧
      (check_report report keystore_checks.required = .ok () ↔ confined_probe_guest.Signed tr₁) ∧
      (refusal report keystore_checks.refused = true ↔ confined_probe_guest.Denied tr₁)) ∧
    (∃ report, o₂ = .ret report ∧
      (check_report report filesystem_checks.required = .ok () ↔ confined_fs_guest.Intact tr₂) ∧
      (refusal report filesystem_checks.refused = true ↔ confined_fs_guest.Denied tr₂)) := by
  obtain ⟨report₁, rfl, hreport₁⟩ := confined_probe_guest.runs_probe.1 h₁
  obtain ⟨report₂, rfl, hreport₂⟩ := confined_fs_guest.runs_probe h₂
  exact ⟨⟨report₁, rfl, hreport₁.passes, hreport₁.refuses⟩,
    ⟨report₂, rfl, hreport₂.passes, hreport₂.refuses haccess hinvalid⟩⟩

/-- The derived text names the code and says what it is documented as. -/
def demoDebug : ErrorCode → String
  | .Access => "ErrorCode \x7b code: 0, name: \"access\", message: \"The badge behind this handle was denied by the " ++
      "store: unknown, revoked,\\n            scoped to a different file, or not granted this operation.\" \x7d"
  | .Invalid => "ErrorCode \x7b code: 1, name: \"invalid\", message: \"The arguments were malformed (e.g. a write " ++
      "past the store's block size) or\\n            the store's own AEAD layer rejected them.\" \x7d"

/-- A key that signed, and a file that may not be read any more. -/
theorem verdicts_agree_demo : letI := lengthPrefixed
    (∃ report, Outcome.ret (confined_probe_guest.signed [0xed] "none") = .ret report ∧
      (check_report report keystore_checks.required = .ok () ↔ confined_probe_guest.Signed
        [⟨.keystoreOpen 0, some 7⟩, ⟨.sign 7 confined_probe_guest.MESSAGE, .ok [0xed]⟩, ⟨.keystoreOpen 1, none⟩,
          ⟨.keyDrop 7, ()⟩]) ∧
      (refusal report keystore_checks.refused = true ↔ confined_probe_guest.Denied
        [⟨.keystoreOpen 0, some 7⟩, ⟨.sign 7 confined_probe_guest.MESSAGE, .ok [0xed]⟩, ⟨.keystoreOpen 1, none⟩,
          ⟨.keyDrop 7, ()⟩])) ∧
    (∃ report, Outcome.ret s!"error: reading the fresh file failed: {demoDebug .Access}" = .ret report ∧
      (check_report report filesystem_checks.required = .ok () ↔ confined_fs_guest.Intact
        [⟨.filesystemOpen 0, some 3⟩, ⟨.read 3, .error .Access⟩, ⟨.fileDrop 3, ()⟩]) ∧
      (refusal report filesystem_checks.refused = true ↔ confined_fs_guest.Denied
        [⟨.filesystemOpen 0, some 3⟩, ⟨.read 3, .error .Access⟩, ⟨.fileDrop 3, ()⟩])) :=
  letI := lengthPrefixed
  verdicts_agree (by decide +kernel) (by decide +kernel) (confined_probe_guest.runs_probe.2 ⟨_, rfl, .signed⟩)
    (.call _ _ _ (.call _ _ _ (.call _ _ _ (.ret _))))

end LanternRuntime.Guests
