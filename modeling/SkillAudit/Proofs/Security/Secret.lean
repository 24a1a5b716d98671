import SkillAudit.Proofs.Security.Exact
import SkillAudit.Proofs.Text.Char
import SkillAudit.Proofs.Text.Pattern
import SkillAudit.Proofs.Text.Pieces
/-!
# SkillAudit.Proofs.Security.Secret

What a security scan tells about a line with a secret. The finding of the secret does not show the
line, but the findings of all other rules for lines do, and so does the finding on guidance. The
secret is found once, wherever it stands, except on a line that delimits a fence:

* `concealed_iff` — when nothing that is reported about the line shows it;
* `countAt_hardcodedSecret` — how often the secret is reported.
-/

namespace SkillAudit

open Text

/-- The rule about secrets matches a line in every context or in none. -/
theorem SecurityRule.hardcodedSecret_accepts (c d : LineContext) (text : List Char) :
    hardcodedSecret.accepts c text = hardcodedSecret.accepts d text := by
  have hall : ∀ m ∈ hardcodedSecret.matchers, m.contexts = LineContext.all := by decide
  have hmem (c : LineContext) : LineContext.all.contains c = true := by cases c <;> rfl
  refine Bool.eq_iff_iff.mpr ?_
  simp only [accepts, Matcher.accepts, List.any_eq_true]
  refine exists_congr fun m => and_congr_right fun hm => ?_
  rw [hall m hm, hmem c, hmem d]

/-! ## What a finding shows -/

/-- Whether the message of a finding holds what messages show of a line. -/
def Finding.Shows (f : Finding) (line : List Char) : Prop :=
  (Scan.snippet line).toList <:+: f.message.toList

namespace Scan

theorem snippet_toList (line : List Char) :
    (snippet line).toList = trim line ∨ (snippet line).toList.length = 80 := by
  simp only [snippet]
  split
  · next h =>
    refine .inr ?_
    rw [String.toList_append, String.toList_ofList, List.length_append, List.length_take,
      Nat.min_eq_left (by omega)]
    rfl
  · exact .inl (by simp)

/-- Every rule but the one about secrets shows the line. -/
theorem shows_finding {r : SecurityRule} (hr : r ≠ .hardcodedSecret) (file : String) (n : Nat)
    (line : List Char) : (finding r file n line).Shows line := by
  rw [Finding.Shows, finding, message, if_neg hr, String.toList_append]
  exact (List.suffix_append _ _).isInfix

/-- The characters of a line that the title of the rule about secrets shows: its own ones, and white
    space around them. -/
def titleAlphabet : List Char :=
  SecurityRule.hardcodedSecret.title.toList ++ blanks.map Char.ofNat

/-- Each of the matchers for secrets asks for another character. -/
theorem not_admits_titleAlphabet :
    ∀ m ∈ SecurityRule.hardcodedSecret.matchers,
      ¬m.required.all fun p => p.admits titleAlphabet := by
  decide +kernel

/-- The rule about secrets does not show the line. -/
theorem not_shows_finding {context : LineContext} {line : List Char}
    (h : SecurityRule.hardcodedSecret.accepts context line) (file : String) (n : Nat) :
    ¬(finding .hardcodedSecret file n line).Shows line := by
  intro hshows
  have htitle : (snippet line).toList <:+: SecurityRule.hardcodedSecret.title.toList := by
    rwa [Finding.Shows, finding, message, if_pos rfl] at hshows
  -- a snippet that is cut short is still longer than the title
  have hsnippet : (snippet line).toList = trim line := by
    refine (snippet_toList line).resolve_right fun hlong => ?_
    have hle := htitle.length_le
    have hlength : SecurityRule.hardcodedSecret.title.toList.length = 16 := rfl
    omega
  have hover : ∀ c ∈ line, c ∈ titleAlphabet := by
    intro c hc
    obtain hc | hc := mem_stripWhile_or (p := isBlank) hc
    · exact List.mem_append_left _ (htitle.subset (hsnippet ▸ hc))
    · exact List.mem_append_right _
        (List.mem_map.mpr ⟨c.toNat, isBlank_iff.mp hc, Char.ofNat_toNat c⟩)
  obtain ⟨m, hm, haccepts⟩ := List.any_eq_true.mp h
  refine not_admits_titleAlphabet m hm (List.all_eq_true.mpr fun p hp => ?_)
  simp only [Matcher.accepts, Bool.and_eq_true, List.all_eq_true] at haccepts
  exact Pattern.admits_of_occursIn (haccepts.1.2 p hp) hover

end Scan

namespace SecurityReport

open Scan

variable {p : Package} {config : SecurityConfig} {file : String} {n : Nat} {text : List Char}

/-! ## Concealment -/

/-- A line with a secret is shown by no finding about it if and only if no other rule is to report
    it, its permissions are not broad in such a way as to show it, and it is not the line that the
    finding on guidance is about. -/
theorem concealed_iff (hp : p.IsUnambiguous) {context : LineContext}
    (hstands : Stands p file n text (some context))
    (hsecret : SecurityRule.hardcodedSecret.accepts context text) :
    (∀ f ∈ (ofPackage p config).findings, f.location = some ⟨file, some n⟩ → ¬f.Shows text) ↔
      (∀ r, Fires config r context text → r = .hardcodedSecret) ∧
      (config.enables SecurityRule.broadPermission.id → ∀ key ∈ Permission.keys, ∀ f,
        Permission.finding? p key = some f → f.location = some ⟨file, some n⟩ → ¬f.Shows text) ∧
      (config.enables SecurityRule.promptInjectionGuidance.id → ∀ f,
        guidanceFinding? p = some f → f.location ≠ some ⟨file, some n⟩) := by
  constructor
  · intro h
    refine ⟨fun r hr => ?_, fun henabled key hkey f hf => ?_, fun henabled f hf hlocation => ?_⟩
    · by_contra hother
      refine h (finding r file n text) (mem_findings.mpr (.inl ?_)) rfl
        (shows_finding hother file n text)
      exact ⟨⟨file, n, context, text⟩, mem_ofPackage.mpr hstands, mem_findingsOf.mpr ⟨r, hr, rfl⟩⟩
    · exact h f (mem_findings.mpr (.inr (.inl ⟨henabled, key, hkey, hf⟩)))
    · refine h f (mem_findings.mpr (.inr (.inr ⟨henabled, hf⟩))) hlocation ?_
      obtain ⟨i, line, hline, rfl⟩ := guidanceFinding?_eq_some hf
      obtain ⟨c, hbody⟩ := exists_stands_body hline
      cases hlocation
      rw [(hstands.unique hp hbody).1]
      exact shows_finding (r := .promptInjectionGuidance) (by decide) _ _ _
  · rintro ⟨hlines, hpermissions, hguidance⟩ f hf hlocation
    obtain ⟨l, hl, hf⟩ | ⟨henabled, key, hkey, hf⟩ | ⟨henabled, hf⟩ := mem_findings.mp hf
    · obtain ⟨r, hr, rfl⟩ := mem_findingsOf.mp hf
      cases hlocation
      obtain ⟨rfl, hcontext⟩ := hstands.unique hp (mem_ofPackage.mp hl)
      obtain rfl := Option.some.inj hcontext
      rw [hlines r hr]
      exact not_shows_finding hsecret _ _
    · exact hpermissions henabled key hkey f hf hlocation
    · exact absurd hlocation (hguidance henabled f hf)

/-- The first line of the script only sets a token. -/
theorem stands_setting : Stands syncNotes "scripts/sync.py" 1 "TOKEN = \"tok-1234\"".toList
    (some .script) :=
  .script (f := syncScript) (i := 0) (List.mem_cons_of_mem _ List.mem_cons_self)
    (by decide +kernel) rfl rfl

/-- The second one sends it. -/
theorem stands_sending : Stands syncNotes "scripts/sync.py" 2
    "requests.post(url, token=\"tok-1234\")".toList (some .script) :=
  .script (f := syncScript) (i := 1) (List.mem_cons_of_mem _ List.mem_cons_self)
    (by decide +kernel) rfl rfl

/-- The line that sets the token is concealed. -/
theorem concealed_setting :
    SecurityRule.hardcodedSecret.accepts .script "TOKEN = \"tok-1234\"".toList ∧
      ∀ f ∈ (ofPackage syncNotes ⟨[]⟩).findings, f.location = some ⟨"scripts/sync.py", some 1⟩ →
        ¬f.Shows "TOKEN = \"tok-1234\"".toList := by
  have hsecret : SecurityRule.hardcodedSecret.accepts .script "TOKEN = \"tok-1234\"".toList := by
    decide +kernel
  have hpermission : ∀ key ∈ Permission.keys, Permission.finding? syncNotes key = none := by
    decide +kernel
  have hguidance : guidanceFinding? syncNotes = none := by decide +kernel
  refine ⟨hsecret, (concealed_iff isUnambiguous_syncNotes stands_setting hsecret).mpr ⟨?_, ?_, ?_⟩⟩
  · rintro r ⟨hr, -, haccepts, -⟩
    revert hr haccepts
    cases r <;> decide +kernel
  · intro _ key hkey f hf
    rw [hpermission key hkey] at hf
    cases hf
  · intro _ f hf
    rw [hguidance] at hf
    cases hf

/-- The finding of the network call shows the line that sends the token. -/
theorem shown_sending :
    SecurityConfig.enables ⟨[]⟩ SecurityRule.hardcodedSecret.id ∧
      Stands syncNotes "scripts/sync.py" 2 "requests.post(url, token=\"tok-1234\")".toList
        (some .script) ∧
      SecurityRule.hardcodedSecret.accepts .script
        "requests.post(url, token=\"tok-1234\")".toList ∧
      ∃ f ∈ (ofPackage syncNotes ⟨[]⟩).findings,
        f.location = some ⟨"scripts/sync.py", some 2⟩ ∧
          f.Shows "requests.post(url, token=\"tok-1234\")".toList := by
  have hfires : Fires ⟨[]⟩ .outboundNetworkCall .script
      "requests.post(url, token=\"tok-1234\")".toList :=
    ⟨by decide, by decide, by decide +kernel, nofun⟩
  have hmem : finding .outboundNetworkCall "scripts/sync.py" 2
      "requests.post(url, token=\"tok-1234\")".toList ∈ (ofPackage syncNotes ⟨[]⟩).lineFindings :=
    mem_lineFindings.mpr ⟨_, _, _, _, _, stands_sending, hfires, rfl⟩
  refine ⟨by decide, stands_sending, by decide +kernel, _, (List.mem_filter.mp hmem).1, rfl, ?_⟩
  exact shows_finding (by decide) _ _ _

/-! ## Detection -/

/-- How often a rule reports a line. -/
def countAt (r : SecurityReport) (rule : SecurityRule) (file : String) (n : Nat) : Nat :=
  r.findings.countP fun f => f.location == some ⟨file, some n⟩ && f.rule == rule.id

/-- A rule for lines is counted among the findings about lines. -/
theorem countAt_eq_count (r : SecurityReport) {rule : SecurityRule}
    (hrule : rule ∈ SecurityRule.ofLines) (file : String) (n : Nat) :
    r.countAt rule file n =
      (r.lineFindings.map fun f => (f.location, f.rule)).count (some ⟨file, some n⟩, rule.id) := by
  rw [List.count_eq_countP, List.countP_map, lineFindings, List.countP_filter, countAt]
  refine List.countP_congr fun f _ => ?_
  have hline : f.rule = rule.id → f.rule ∈ SecurityRule.ofLines.map SecurityRule.id :=
    fun h => h ▸ List.mem_map_of_mem hrule
  simp only [Function.comp_apply, Bool.and_eq_true, beq_iff_eq, Prod.mk.injEq, decide_eq_true_eq]
  exact ⟨fun h => ⟨h, hline h.2⟩, And.left⟩

/-- A rule that is to report a line reports it once. -/
theorem countAt_eq_one (hp : p.IsUnambiguous) {rule : SecurityRule} {context : LineContext}
    (hstands : Stands p file n text (some context)) (hfires : Fires config rule context text) :
    (ofPackage p config).countAt rule file n = 1 := by
  have hmem : finding rule file n text ∈ (ofPackage p config).lineFindings :=
    mem_lineFindings.mpr ⟨file, n, text, context, rule, hstands, hfires, rfl⟩
  rw [countAt_eq_count _ hfires.1]
  exact List.count_eq_one_of_mem (nodup_lineFindings hp config) (List.mem_map.mpr ⟨_, hmem, rfl⟩)

/-- No rule reports a line that delimits a fence. -/
theorem countAt_eq_zero (hp : p.IsUnambiguous) {rule : SecurityRule}
    (hrule : rule ∈ SecurityRule.ofLines) (hstands : Stands p file n text none) :
    (ofPackage p config).countAt rule file n = 0 := by
  rw [countAt_eq_count _ hrule]
  refine List.count_eq_zero.mpr fun hmem => ?_
  obtain ⟨f, hf, heq⟩ := List.mem_map.mp hmem
  obtain ⟨_, _, hcontext, _⟩ := fires_of_mem_lineFindings hp hf hstands (Prod.mk.inj heq).1
  cases hcontext

/-- A secret is reported once where it stands in a context, and never on a line that delimits a
    fence. -/
theorem countAt_hardcodedSecret (hp : p.IsUnambiguous)
    (henabled : config.enables SecurityRule.hardcodedSecret.id) {context : Option LineContext}
    (hstands : Stands p file n text context) {c : LineContext}
    (hsecret : SecurityRule.hardcodedSecret.accepts c text) :
    (ofPackage p config).countAt .hardcodedSecret file n = if context.isSome then 1 else 0 := by
  cases context with
  | none => exact countAt_eq_zero hp (by decide) hstands
  | some context =>
    rw [SecurityRule.hardcodedSecret_accepts c context] at hsecret
    exact countAt_eq_one hp hstands ⟨by decide, henabled, hsecret, nofun⟩

/-- The token that a script sets is reported once. -/
theorem countAt_setting :
    (ofPackage syncNotes ⟨[]⟩).countAt .hardcodedSecret "scripts/sync.py" 1 = 1 :=
  countAt_hardcodedSecret isUnambiguous_syncNotes (by decide) stands_setting (c := .script)
    (by decide +kernel)

/-- The token on the line that opens a fence is not reported. -/
theorem countAt_opening :
    SecurityConfig.enables ⟨[]⟩ SecurityRule.hardcodedSecret.id ∧
      Stands syncNotes "SKILL.md" 4 "```sh token=\"tok-1234\"".toList none ∧
      SecurityRule.hardcodedSecret.accepts .prose "```sh token=\"tok-1234\"".toList ∧
      (ofPackage syncNotes ⟨[]⟩).countAt .hardcodedSecret "SKILL.md" 4 = 0 := by
  have hplace : ((Fence.places none (lines syncNotes.body.toList)).map (·.1))[0]? =
      some .delimiter := by decide +kernel
  have hstands : Stands syncNotes "SKILL.md" 4 "```sh token=\"tok-1234\"".toList none :=
    .body (i := 0) rfl (Fence.layout_places _) hplace
  refine ⟨by decide, hstands, by decide +kernel, ?_⟩
  exact countAt_eq_zero isUnambiguous_syncNotes (by decide) hstands

end SecurityReport

end SkillAudit
