import SkillAudit.Proofs.Reference.Message
/-!
# SkillAudit.Proofs.Reference.Correspondence

How the references of a package, the edges of its graph and the findings about them go together.
There is one edge for every reference that repeats none in front of it. What an edge tells is enough
to look its target up again, and this decides what is reported about it: the broken edges, and those
that could mean several files, are reported one by one, in order and on their lines, and no others.
An edge is a mention in prose by the scheme of the path that it names, however it is written, for
cleaning a target takes no scheme away.
-/

namespace SkillAudit

/-- The kind of a reference does not matter for what is reported about it. -/
theorem Citation.finding?_congr {p : Package} {c d : Citation} (hsource : c.source = d.source)
    (hline : c.mention.line = d.mention.line) (htarget : c.mention.target = d.mention.target) :
    c.finding? p = d.finding? p := by
  have hresolution : c.resolution p = d.resolution p := by
    rw [resolution, resolution, path, path, hsource, htarget]
  unfold finding?
  rw [hresolution, hsource, hline, htarget]

/-! ## Edges -/

namespace Edge

/-- Where the path that an edge names leads from the folder of its source. -/
def resolution (p : Package) (e : Edge) : Resolution :=
  p.resolve (FilePath.folder e.source) (FilePath.ofTarget e.target)

/-- The line on which an edge stands. -/
def location (e : Edge) : Location := ⟨e.source, some e.line⟩

/-- What is reported about an edge. -/
def finding? (p : Package) (e : Edge) : Option Finding :=
  Citation.finding? p ⟨e.source, e.line, e.target, e.kind⟩

variable {p : Package} {c : Citation}

theorem resolution_ofCitation : (ofCitation p c).resolution p = c.resolution p := rfl

theorem finding?_ofCitation : (ofCitation p c).finding? p = c.finding? p :=
  Citation.finding?_congr rfl rfl rfl

/-- An edge is a mention in prose exactly when the path that it names has a scheme. -/
theorem kind_ofCitation_iff (h : c ∈ Citation.ofPackage p) :
    (ofCitation p c).kind = .proseMention ↔ Target.hasScheme c.path.toList := by
  simp only [ofCitation]
  split
  · next hscheme => simp [hscheme]
  · next hscheme =>
    have hkind : c.mention.kind ≠ .proseMention := fun hk => hscheme (c.hasScheme_path h hk)
    simp [hscheme, hkind]

/-- Nothing is looked up or reported for a path with a scheme. -/
theorem of_hasScheme (h : Target.hasScheme c.path.toList) :
    (ofCitation p c).resolved = none ∧ (ofCitation p c).finding? p = none := by
  have hexternal : c.resolution p = .external := Package.resolve_eq_external_iff.mpr h
  constructor
  · rw [ofCitation, hexternal]
    rfl
  · rw [finding?_ofCitation]
    unfold Citation.finding?
    rw [hexternal]

end Edge

/-! ## Findings -/

/-- A reference is reported as ambiguous exactly when several files would do. -/
theorem Citation.finding?_rule_ambiguous (p : Package) (c : Citation) :
    ((c.finding? p).any fun f => f.rule == "ambiguous-reference") =
      (c.resolution p).isAmbiguous := by
  unfold finding?
  cases c.resolution p with
  | ending first others => cases others <;> rfl
  | _ => rfl

namespace ReferenceGraph

variable {p : Package} {config : ReferencesConfig}

/-- If a rule reports the references whose edges have a property, its findings are on the lines of
    these edges, one for each, in their order. -/
theorem map_location_citations {rule : String} {q : Edge → Bool} {citations : List Citation}
    (h : ∀ c ∈ citations, ((c.finding? p).any (·.rule == rule)) = q (Edge.ofCitation p c)) :
    ((citations.filterMap (Citation.finding? p)).filter (·.rule == rule)).map (·.location) =
      ((citations.map (Edge.ofCitation p)).filter q).map fun e => some e.location := by
  induction citations with
  | nil => rfl
  | cons c rest ih =>
    have hc := h c List.mem_cons_self
    have hrest := ih fun d hd => h d (List.mem_cons_of_mem c hd)
    rw [List.map_cons, List.filter_cons, ← hc]
    cases hf : c.finding? p with
    | none =>
      rw [List.filterMap_cons_none hf, hrest]
      rfl
    | some f =>
      have hlocation : f.location = some (Edge.ofCitation p c).location :=
        Citation.finding?_location hf
      rw [List.filterMap_cons_some hf, List.filter_cons, Option.any_some]
      split
      · rw [List.map_cons, List.map_cons, hrest, hlocation]
      · exact hrest

/-- So are its findings among all, unless it is the rule about files that nothing refers to. -/
theorem map_location_findings {rule : String} {q : Edge → Bool} (hrule : rule ≠ "orphan-file")
    (h : ∀ c ∈ Citation.ofPackage p,
      ((c.finding? p).any (·.rule == rule)) = q (Edge.ofCitation p c)) :
    ((ofPackage p config).findings.filter (·.rule == rule)).map (·.location) =
      ((ofPackage p config).edges.filter q).map fun e => some e.location := by
  have horphans (paths : List String) :
      (paths.map orphanFinding).filter (·.rule == rule) = [] := by
    rw [List.filter_eq_nil_iff]
    intro f hf
    obtain ⟨path, -, rfl⟩ := List.mem_map.mp hf
    simpa [orphanFinding] using hrule.symm
  simp only [ofPackage, List.filter_append, horphans, List.append_nil]
  exact map_location_citations fun c hc => h c (Citation.mem_of_mem_distinct hc)

/-- The edges tell everything that is reported about references. -/
theorem findings_eq_edges (p : Package) (config : ReferencesConfig) :
    (ofPackage p config).findings =
      (ofPackage p config).edges.filterMap (Edge.finding? p) ++
        (ofPackage p config).orphans.map orphanFinding := by
  have hfinding : Edge.finding? p ∘ Edge.ofCitation p = Citation.finding? p := by
    funext c
    rw [Function.comp_apply, Edge.finding?_ofCitation]
  simp only [ofPackage, List.filterMap_map, hfinding]

/-! ## One to one -/

/-- What it means for the edges and findings of a graph to go with the references of a package. -/
structure Corresponds (g : ReferenceGraph) (p : Package) : Prop where
  /-- There is an edge for every reference that repeats none in front of it. -/
  edges_eq : g.edges = (Citation.firsts (Citation.ofPackage p)).map (Edge.ofCitation p)
  /-- An edge is broken if its target leads nowhere. -/
  isBroken_iff : ∀ e ∈ g.edges, e.isBroken ↔ e.resolution p = .broken
  /-- The broken edges are reported, each one on its line. -/
  broken : (g.findings.filter (·.rule == "broken-reference")).map (·.location) =
    (g.edges.filter (·.isBroken)).map fun e => some e.location
  /-- So are the edges that lead to the first of several files. -/
  ambiguous : (g.findings.filter (·.rule == "ambiguous-reference")).map (·.location) =
    (g.edges.filter fun e => (e.resolution p).isAmbiguous).map fun e => some e.location
  /-- Nothing is reported but edges and files that nothing refers to. -/
  findings_eq : g.findings = g.edges.filterMap (Edge.finding? p) ++ g.orphans.map orphanFinding
  /-- A mention in prose is an edge to a path with a scheme. -/
  kind_iff : ∀ e ∈ g.edges,
    e.kind = .proseMention ↔ Target.hasScheme (FilePath.ofTarget e.target).toList
  /-- It leads to nothing in the package, and nothing is reported about it. -/
  prose : ∀ e ∈ g.edges, e.kind = .proseMention → e.resolved = none ∧ e.finding? p = none

/-- The edges and findings of the graph of a package go with its references. -/
theorem corresponds_ofPackage (p : Package) (config : ReferencesConfig) :
    (ofPackage p config).Corresponds p where
  edges_eq := by rw [← Citation.distinct_eq_firsts]; rfl
  isBroken_iff := by
    intro e he
    obtain ⟨c, hc, rfl⟩ := List.mem_map.mp he
    rw [Edge.isBroken_ofCitation (Citation.mem_of_mem_distinct hc), Edge.resolution_ofCitation,
      decide_eq_true_iff]
  broken := by
    refine map_location_findings (by decide) fun c hc => ?_
    rw [Citation.finding?_rule, Edge.isBroken_ofCitation hc]
  ambiguous := by
    refine map_location_findings (by decide) fun c _ => ?_
    rw [Citation.finding?_rule_ambiguous, Edge.resolution_ofCitation]
  findings_eq := findings_eq_edges p config
  kind_iff := by
    intro e he
    obtain ⟨c, hc, rfl⟩ := List.mem_map.mp he
    exact Edge.kind_ofCitation_iff (Citation.mem_of_mem_distinct hc)
  prose := by
    intro e he hkind
    obtain ⟨c, hc, rfl⟩ := List.mem_map.mp he
    exact Edge.of_hasScheme ((Edge.kind_ofCitation_iff (Citation.mem_of_mem_distinct hc)).mp hkind)

end ReferenceGraph

end SkillAudit
