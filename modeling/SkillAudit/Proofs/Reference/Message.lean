import SkillAudit.Proofs.Finding.Order
import SkillAudit.Proofs.Reference.Graph
import SkillAudit.Proofs.Reference.Link
import SkillAudit.Proofs.Reference.Lookup
/-!
# SkillAudit.Proofs.Reference.Message

What the message about a reference tells. Targets hold no white space, however they are written, so
that the target can be read off the message about an ambiguous reference; and the target alone
decides which files its path is the end of. So findings about references that say the same thing
suggest the same thing.
-/

namespace SkillAudit

open Text

/-! ## Targets -/

namespace Mention

/-- The target of a link ends at white space. -/
theorem isBlank_of_linkAt? {s target : List Char} {n : Nat} (h : linkAt? s = some (target, n)) :
    ∀ c ∈ target, isBlank c = false := by
  obtain ⟨-, r, behind, -, -, hlink⟩ := exists_of_linkAt? h
  rw [eq_takeWhile_of_linkTarget? hlink]
  intro c hc
  have htarget : isTargetChar c := List.all_eq_true.mp List.all_takeWhile c hc
  simp only [isTargetChar, Bool.and_eq_true, Bool.not_eq_true'] at htarget
  exact htarget.2

/-- No end of what looks like a path holds white space. -/
theorem isBlank_of_looksLikePath {word target : List Char} (h : Target.looksLikePath word)
    (hsub : target <:+ word) : ∀ c ∈ target, isBlank c = false := fun c hc =>
  Target.isBlank_eq_false_of_isPathChar ((Target.of_looksLikePath h).2.2 c (hsub.subset hc))

/-- The file of a command looks like a path, up to leading `./`. -/
theorem isBlank_of_commandFile? {line path : List Char} (h : commandFile? line = some path) :
    ∀ c ∈ path, isBlank c = false := by
  simp only [commandFile?] at h
  split at h
  · split at h
    · next hpath =>
      cases h
      exact isBlank_of_looksLikePath hpath (List.suffix_refl _)
    · cases h
  · split at h
    · cases h
    · obtain ⟨word, hword, rfl⟩ := Option.map_eq_some_iff.mp h
      exact isBlank_of_looksLikePath (List.find?_some hword) (dropRepeated_suffix _ _)

/-- No target holds white space. -/
theorem isBlank_of_mem_ofLine {place : Fence.Place} {number : Nat} {line : List Char} {m : Mention}
    (h : m ∈ ofLine place number line) : ∀ c ∈ m.target.toList, isBlank c = false := by
  cases place with
  | outside =>
    obtain h | h := List.mem_append.mp h
    · obtain ⟨target, htarget, hm⟩ := List.mem_filterMap.mp h
      obtain ⟨s, n, -, hlink⟩ := take_of_mem_findAll htarget
      rw [(ofLink?_eq_some hm).2.1, String.toList_ofList]
      exact isBlank_of_linkAt? hlink
    · obtain ⟨span, -, hm⟩ := List.mem_filterMap.mp h
      rw [(ofCodeSpan?_eq_some hm).2.1, String.toList_ofList]
      unfold ofCodeSpan? at hm
      split at hm
      · next hpath => exact isBlank_of_looksLikePath hpath (dropRepeated_suffix _ _)
      · cases hm
  | delimiter => simp [ofLine] at h
  | inside =>
    obtain ⟨path, hpath, rfl⟩ := by simpa [ofLine, ofCode] using h
    rw [String.toList_ofList]
    exact isBlank_of_commandFile? hpath

end Mention

/-! ## Messages -/

namespace Citation

variable {p : Package} {c d : Citation} {f g : Finding}

theorem isBlank_of_mem_ofPackage (h : c ∈ ofPackage p) :
    ∀ ch ∈ c.mention.target.toList, isBlank ch = false := by
  obtain ⟨place, number, line, hline⟩ := exists_mem_ofLine h
  exact Mention.isBlank_of_mem_ofLine hline

/-- What is reported about a citation: that it leads nowhere, or that several files would do, and
    then the message quotes the target and goes on behind a space. -/
theorem finding?_eq_some (h : c.finding? p = some f) :
    f.category = .reference ∧
      (f.rule = "broken-reference" ∧ f.suggestion = none ∨
        ∃ first others tail, c.resolution p = .ending first others ∧
          f.rule = "ambiguous-reference" ∧
          f.message = "Ambiguous reference '" ++ c.mention.target ++ "' " ++ tail ∧
          f.suggestion = some s!"Use the full package path, e.g. '{first}'") := by
  unfold finding? at h
  split at h
  · cases h
    exact ⟨rfl, .inl ⟨rfl, rfl⟩⟩
  · next first others hres =>
    split at h
    · cases h
    · cases h
      have hquote : "' matches " = "' " ++ "matches " := rfl
      refine ⟨rfl, .inr ⟨first, others, "matches " ++ String.intercalate ", " (first :: others) ++
        "; resolved to '" ++ first ++ "'", hres, rfl, ?_, rfl⟩⟩
      simp only [toString, hquote, String.append_assoc]
  · cases h

/-- A finding about a citation is under one of two rules. -/
theorem rule_of_finding? (h : c.finding? p = some f) :
    f.rule = "broken-reference" ∨ f.rule = "ambiguous-reference" := by
  obtain ⟨-, ⟨hrule, -⟩ | ⟨-, -, -, -, hrule, -, -⟩⟩ := finding?_eq_some h
  · exact .inl hrule
  · exact .inr hrule

/-- A target that is the end of paths is so whatever file makes the reference. -/
theorem endingIn_of_resolution {first : String} {others : List String}
    (h : c.resolution p = .ending first others) : p.endingIn c.path = first :: others :=
  (Package.resolve_eq_ending_iff.mp h).2.2.2

/-- The target can be read off the message, for it ends in front of the first space. -/
theorem target_eq_of_quote {s t : String} (hc : c ∈ ofPackage p) (hd : d ∈ ofPackage p)
    (h : "Ambiguous reference '" ++ c.mention.target ++ "' " ++ s =
      "Ambiguous reference '" ++ d.mention.target ++ "' " ++ t) :
    c.mention.target = d.mention.target := by
  have hquoted {e : Citation} (he : e ∈ ofPackage p) : ' ' ∉ e.mention.target.toList ++ ['\''] := by
    intro hmem
    obtain hmem | hmem := List.mem_append.mp hmem
    · exact absurd (isBlank_of_mem_ofPackage he ' ' hmem) (by decide)
    · exact absurd hmem (by decide)
  have hcut {e : Citation} (he : e ∈ ofPackage p) (r : String) :
      cutFirst? ' ' (e.mention.target ++ "' " ++ r).toList =
        some (e.mention.target.toList ++ ['\''], r.toList) :=
    cutFirst?_eq_some.mpr ⟨by simp, hquoted he⟩
  have hrest : (c.mention.target ++ "' " ++ s).toList = (d.mention.target ++ "' " ++ t).toList := by
    simpa [String.append_assoc, ← String.toList_inj] using h
  have hpair := (hcut hc s).symm.trans ((congrArg _ hrest).trans (hcut hd t))
  simp only [Option.some.injEq, Prod.mk.injEq, List.append_cancel_right_eq, String.toList_inj]
    at hpair
  exact hpair.1

/-- Findings about citations that say the same thing suggest the same thing. -/
theorem suggestion_eq_of_message (hc : c ∈ ofPackage p) (hd : d ∈ ofPackage p)
    (hf : c.finding? p = some f) (hg : d.finding? p = some g) (hrule : f.rule = g.rule)
    (hmessage : f.message = g.message) : f.suggestion = g.suggestion := by
  obtain ⟨-, ⟨hfrule, hfnone⟩ | ⟨first, others, s, hcres, hfrule, hfmessage, hfsome⟩⟩ :=
    finding?_eq_some hf
  all_goals
    obtain ⟨-, ⟨hgrule, hgnone⟩ | ⟨first', others', t, hdres, hgrule, hgmessage, hgsome⟩⟩ :=
      finding?_eq_some hg
  · rw [hfnone, hgnone]
  · rw [hfrule, hgrule] at hrule
    exact absurd hrule (by decide)
  · rw [hfrule, hgrule] at hrule
    exact absurd hrule (by decide)
  · -- one message quotes one target, and that target has one list of candidates
    rw [hfmessage, hgmessage] at hmessage
    have hpath : c.path = d.path := congrArg FilePath.ofTarget (target_eq_of_quote hc hd hmessage)
    have hfiles : first :: others = first' :: others' := by
      rw [← endingIn_of_resolution hcres, ← endingIn_of_resolution hdres, hpath]
    rw [hfsome, hgsome, (List.cons.inj hfiles).1]

end Citation

/-! ## Findings -/

namespace ReferenceGraph

variable {p : Package} {config : ReferencesConfig}

/-- The rules of the findings about references. -/
def rules : List String := ["broken-reference", "ambiguous-reference", "orphan-file"]

/-- A finding about references is about a citation or about a file that nothing refers to. -/
theorem mem_findings {f : Finding} (h : f ∈ (ofPackage p config).findings) :
    (∃ c ∈ Citation.ofPackage p, c.finding? p = some f) ∨ ∃ path, f = orphanFinding path := by
  obtain h | h := List.mem_append.mp h
  · obtain ⟨c, hc, hf⟩ := List.mem_filterMap.mp h
    exact .inl ⟨c, Citation.mem_of_mem_distinct hc, hf⟩
  · obtain ⟨path, -, rfl⟩ := List.mem_map.mp h
    exact .inr ⟨path, rfl⟩

theorem rule_and_category_of_mem {f : Finding} (h : f ∈ (ofPackage p config).findings) :
    f.rule ∈ rules ∧ f.category = .reference := by
  obtain ⟨c, -, hf⟩ | ⟨path, rfl⟩ := mem_findings h
  · refine ⟨?_, (Citation.finding?_eq_some hf).1⟩
    obtain hrule | hrule := Citation.rule_of_finding? hf <;> simp [rules, hrule]
  · exact ⟨by simp [rules, orphanFinding], rfl⟩

/-- Findings about references that say the same thing suggest the same thing. -/
theorem under_rules (p : Package) (config : ReferencesConfig) :
    Finding.Under rules (ofPackage p config).findings where
  rule_mem _ hf := (rule_and_category_of_mem hf).1
  consistent f hf g hg hrule hmessage := by
    have hcited {c : Citation} {f : Finding} (hf : c.finding? p = some f) :
        f.rule ≠ "orphan-file" := by
      obtain hrule | hrule := Citation.rule_of_finding? hf <;> simp [hrule]
    refine ⟨(rule_and_category_of_mem hf).2.trans (rule_and_category_of_mem hg).2.symm, ?_⟩
    obtain ⟨c, hc, hf⟩ | ⟨path, rfl⟩ := mem_findings hf <;>
      obtain ⟨d, hd, hg⟩ | ⟨path', rfl⟩ := mem_findings hg
    · exact Citation.suggestion_eq_of_message hc hd hf hg hrule hmessage
    · exact absurd hrule (hcited hf)
    · exact absurd hrule.symm (hcited hg)
    · rfl

end ReferenceGraph

end SkillAudit
