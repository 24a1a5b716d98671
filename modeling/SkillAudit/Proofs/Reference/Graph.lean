import SkillAudit.Proofs.Reference.Distinct
import SkillAudit.Proofs.Reference.Mention
import SkillAudit.Proofs.Reference.Resolution
import SkillAudit.Proofs.Reference.Target
import SkillAudit.Reference.Graph
/-!
# SkillAudit.Proofs.Reference.Graph

Where the citations of a package come from, and how edges and findings go together: an edge is
broken exactly when its citation resolves to nothing, and then, and only then, the citation is
reported as a broken reference. So broken edges and broken references are equally many.
-/

namespace SkillAudit

/-! ## Citations -/

namespace Citation

variable {p : Package} {c : Citation}

theorem mem_ofMentions {source : String} {mentions : List Mention} :
    c ∈ ofMentions source mentions ↔ c.source = source ∧ c.mention ∈ mentions := by
  rw [ofMentions, List.mem_map]
  constructor
  · rintro ⟨m, hm, rfl⟩
    exact ⟨rfl, hm⟩
  · rintro ⟨rfl, hm⟩
    exact ⟨c.mention, hm, rfl⟩

/-- A citation stands in a block of the manifest or in a reference file. -/
theorem mem_ofPackage :
    c ∈ ofPackage p ↔
      (c.source = p.manifestPath ∧ ∃ b ∈ p.blocks, c.mention ∈ Mention.ofText b.startLine b.text) ∨
        ∃ f ∈ p.files, f.role = .reference ∧ c.source = f.path ∧
          ∃ t, f.text = some t ∧ c.mention ∈ Mention.ofText 1 t := by
  simp only [ofPackage, List.mem_append, mem_ofMentions, List.mem_flatMap, Package.filesOf,
    List.mem_filter, beq_iff_eq]
  refine or_congr Iff.rfl ⟨?_, ?_⟩
  · rintro ⟨f, ⟨hf, hrole⟩, hsource, hm⟩
    cases ht : f.text with
    | none => simp [ht] at hm
    | some t => exact ⟨f, hf, hrole, hsource, t, ht, by simpa [ht] using hm⟩
  · rintro ⟨f, hf, hrole, hsource, t, ht, hm⟩
    exact ⟨f, ⟨hf, hrole⟩, hsource, by simpa [ht] using hm⟩

/-- A citation is the reference of a line in its place. -/
theorem exists_mem_ofLine (h : c ∈ ofPackage p) :
    ∃ place number line, c.mention ∈ Mention.ofLine place number line := by
  have htext : ∃ n t, c.mention ∈ Mention.ofText n t := by
    obtain ⟨-, b, -, hm⟩ | ⟨f, -, -, -, t, -, hm⟩ := mem_ofPackage.mp h
    · exact ⟨_, _, hm⟩
    · exact ⟨_, _, hm⟩
  obtain ⟨n, t, hm⟩ := htext
  obtain ⟨i, line, -, hline⟩ := Mention.mem_ofLines hm
  exact ⟨_, _, line, hline⟩

/-- A citation that is a mention in prose names a path with a scheme. -/
theorem hasScheme_path (h : c ∈ ofPackage p) (hkind : c.mention.kind = .proseMention) :
    Target.hasScheme c.path.toList := by
  obtain ⟨place, number, line, hline⟩ := exists_mem_ofLine h
  rw [path, FilePath.ofTarget, String.toList_ofList]
  exact Target.hasScheme_clean (Mention.hasScheme_of_proseMention hline hkind)

/-! ## Broken references -/

/-- A citation is reported as a broken reference exactly when it leads nowhere. -/
theorem finding?_rule (p : Package) (c : Citation) :
    ((c.finding? p).any fun f => f.rule == "broken-reference") =
      decide (c.resolution p = .broken) := by
  unfold finding?
  cases c.resolution p with
  | ending first others =>
    simp only
    split <;> rfl
  | _ => rfl

/-- What is reported about a citation is reported at its line. -/
theorem finding?_location {f : Finding} (h : c.finding? p = some f) :
    f.location = some ⟨c.source, some c.mention.line⟩ := by
  unfold finding? at h
  split at h
  · cases h
    rfl
  · split at h
    · cases h
    · cases h
      rfl
  · cases h

end Citation

/-! ## Edges -/

/-- The edge of a citation of the package is broken exactly when the citation leads nowhere. -/
theorem Edge.isBroken_ofCitation {p : Package} {c : Citation} (h : c ∈ Citation.ofPackage p) :
    (Edge.ofCitation p c).isBroken = decide (c.resolution p = .broken) := by
  by_cases hscheme : Target.hasScheme c.path.toList
  · have hext : c.resolution p = .external := Package.resolve_eq_external_iff.mpr hscheme
    simp [isBroken, ofCitation, hscheme, hext]
  · have hext : c.resolution p ≠ .external := fun hr =>
      hscheme (Package.resolve_eq_external_iff.mp hr)
    have hkind : c.mention.kind ≠ .proseMention := fun hk => hscheme (c.hasScheme_path h hk)
    have hnone : (c.resolution p).path?.isNone ↔ c.resolution p = .broken := by
      rw [Option.isNone_iff_eq_none, Resolution.path?_eq_none_iff]
      simp [hext]
    rw [Bool.eq_iff_iff, decide_eq_true_iff, ← hnone]
    simp [isBroken, ofCitation, hscheme, hkind]

/-! ## The graph -/

namespace ReferenceGraph

/-- There are as many findings about broken references as there are broken edges. -/
theorem brokenCount_ofPackage (p : Package) (config : ReferencesConfig) :
    (ofPackage p config).brokenCount =
      (ofPackage p config).findings.countP fun f => f.rule == "broken-reference" := by
  have horphans (paths : List String) :
      (paths.map orphanFinding).countP (fun f => f.rule == "broken-reference") = 0 := by
    rw [List.countP_eq_zero]
    intro f hf
    obtain ⟨path, -, rfl⟩ := List.mem_map.mp hf
    simp [orphanFinding]
  simp only [brokenCount, ofPackage, List.countP_append, horphans, Nat.add_zero, List.countP_map,
    List.countP_filterMap]
  refine List.countP_congr fun c hc => ?_
  have hbroken := Edge.isBroken_ofCitation (Citation.mem_of_mem_distinct hc)
  rw [Function.comp_apply, hbroken, ← Citation.finding?_rule]
  cases c.finding? p <;> rfl

end ReferenceGraph

end SkillAudit
