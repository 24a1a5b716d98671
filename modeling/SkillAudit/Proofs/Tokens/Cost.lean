import Mathlib.Algebra.Order.BigOperators.Group.List
import SkillAudit.Proofs.Number.Rounding
import SkillAudit.Proofs.Tokens.Estimate
/-!
# SkillAudit.Proofs.Tokens.Cost

The four uses of a package in order. Each reads at least as many tokens as the one before, and where
no price is negative it costs at least as much: output is estimated from what is read, and rounding
keeps the order. Costs also grow with every price and with the monthly volume.

* `getD_min?_eq_sum_iff` — when the smallest reference is all of them;
* `cost_mono` — more tokens at higher prices;
* `isOrdered_ofPackage` — the uses of a package and what they cost.
-/

namespace SkillAudit

open Quantity

/-! ## The smallest reference -/

section Least

variable {l : List Nat}

/-- The least of several numbers is at most their sum. -/
theorem getD_min?_le_sum (l : List Nat) : l.min?.getD 0 ≤ l.sum := by
  cases hmin : l.min? with
  | none => exact Nat.zero_le _
  | some m => exact List.le_sum_of_mem (List.min?_mem hmin)

/-- The least of several numbers is their sum only if all of them are zero; that of one number
    always is. -/
theorem getD_min?_eq_sum_iff :
    l.min?.getD 0 = l.sum ↔ l.length ≤ 1 ∨ ∀ n ∈ l, n = 0 := by
  constructor
  · intro heq
    cases l with
    | nil => exact .inl (Nat.zero_le 1)
    | cons a rest =>
      obtain ⟨m, hm⟩ : ∃ m, (a :: rest).min? = some m := ⟨_, List.min?_cons⟩
      obtain ⟨-, hleast⟩ := List.min?_eq_some_iff.mp hm
      have hma : m ≤ a := hleast a List.mem_cons_self
      rw [hm, Option.getD_some, List.sum_cons] at heq
      -- the other numbers add nothing to the first one
      have hrest : ∀ n ∈ rest, n = 0 := List.sum_eq_zero_iff_forall_eq_nat.mp (by omega)
      cases rest with
      | nil => exact .inl (Nat.le_refl 1)
      | cons b rest =>
        have hb : b = 0 := hrest b List.mem_cons_self
        have hmb : m ≤ b := hleast b (by simp)
        have ha : a = 0 := by omega
        exact .inr (List.forall_mem_cons.mpr ⟨ha, hrest⟩)
  · rintro (hlength | hzero)
    · match l with
      | [] => rfl
      | [a] => simp
    · have hsum : l.sum = 0 := List.sum_eq_zero_iff_forall_eq_nat.mpr hzero
      have hle := getD_min?_le_sum l
      omega

end Least

/-! ## Prices -/

/-- Whether one use costs at most as much as another one, in every respect. -/
structure Cost.AtMost (a b : Cost Rat) : Prop where
  tokens : a.tokens ≤ b.tokens
  outputTokens : a.outputTokens ≤ b.outputTokens
  perUse : a.perUse ≤ b.perUse
  monthly : a.monthly ≤ b.monthly

namespace TokenConfig

/-- Whether no price is negative, nor the number of tokens written. -/
structure IsNonneg (c : TokenConfig Rat) : Prop where
  inputRate : 0 ≤ c.inputRate
  outputRate : 0 ≤ c.outputRate
  outputRatio : 0 ≤ c.outputRatio

/-- Whether the prices and the monthly volume are at most those of another configuration. What is
    written is estimated in the same way. -/
structure AtMost (c c' : TokenConfig Rat) : Prop where
  monthlyVolume : c.monthlyVolume ≤ c'.monthlyVolume
  inputRate : c.inputRate ≤ c'.inputRate
  outputRate : c.outputRate ≤ c'.outputRate
  outputRatio : c.outputRatio ≤ c'.outputRatio
  outputTokens : c.outputTokens = c'.outputTokens

/-- Prices are at most themselves. -/
theorem AtMost.refl (c : TokenConfig Rat) : c.AtMost c :=
  ⟨le_refl _, le_refl _, le_refl _, le_refl _, rfl⟩

variable {c c' : TokenConfig Rat} {m n : Nat}

/-- More is written for more tokens, and at a higher ratio. -/
theorem outputFor_mono (hc : c.IsNonneg) (h : c.AtMost c') (hmn : m ≤ n) :
    c.outputFor m ≤ c'.outputFor n := by
  rw [outputFor, outputFor, ← h.outputTokens]
  cases c.outputTokens with
  | some output => exact le_refl output
  | none =>
    have htokens : (m : Rat) ≤ n := Nat.cast_le.mpr hmn
    have hproduct : (m : Rat) * c.outputRatio ≤ n * c'.outputRatio :=
      mul_le_mul htokens h.outputRatio hc.outputRatio (Nat.cast_nonneg n)
    exact toCount_mono (roundHalfAway_mono hproduct)

/-- Where no price is negative, nothing has a negative one. -/
theorem price_nonneg (hc : c.IsNonneg) (tokens output : Nat) : 0 ≤ c.price tokens output := by
  have hinput := mul_nonneg (Nat.cast_nonneg (α := Rat) tokens) hc.inputRate
  have houtput := mul_nonneg (Nat.cast_nonneg (α := Rat) output) hc.outputRate
  exact div_nonneg (add_nonneg hinput houtput) (Nat.cast_nonneg 1000000)

/-- More tokens that are read and written cost more, and so do higher prices. -/
theorem price_mono (hc : c.IsNonneg) (h : c.AtMost c') (hmn : m ≤ n) {a b : Nat} (hab : a ≤ b) :
    c.price m a ≤ c'.price n b := by
  have htokens : (m : Rat) ≤ n := Nat.cast_le.mpr hmn
  have houtput : (a : Rat) ≤ b := Nat.cast_le.mpr hab
  have hread := mul_le_mul htokens h.inputRate hc.inputRate (Nat.cast_nonneg n)
  have hwritten := mul_le_mul houtput h.outputRate hc.outputRate (Nat.cast_nonneg b)
  exact div_le_div_of_nonneg_right (add_le_add hread hwritten) (Nat.cast_nonneg 1000000)

/-- More tokens at higher prices cost at least as much. -/
theorem cost_mono (hc : c.IsNonneg) (h : c.AtMost c') (hmn : m ≤ n) :
    (c.cost m).AtMost (c'.cost n) := by
  have houtput := outputFor_mono hc h hmn
  have hprice := price_mono hc h hmn houtput
  have hvolume : (c.monthlyVolume : Rat) ≤ c'.monthlyVolume := Nat.cast_le.mpr h.monthlyVolume
  have hmonthly := mul_le_mul hprice hvolume (Nat.cast_nonneg _)
    ((price_nonneg hc m _).trans hprice)
  exact ⟨hmn, houtput, roundTo_mono hprice, roundTo_mono hmonthly⟩

end TokenConfig

/-! ## The four uses -/

/-- Whether each use costs at most as much as the next one. -/
structure CostTable.IsOrdered (t : CostTable Rat) : Prop where
  idle : t.idle.AtMost t.typical
  typical : t.typical.AtMost t.withReference
  withReference : t.withReference.AtMost t.worst

/-- Whether each use costs at most as much as in another table. -/
structure CostTable.AtMost (t t' : CostTable Rat) : Prop where
  idle : t.idle.AtMost t'.idle
  typical : t.typical.AtMost t'.typical
  withReference : t.withReference.AtMost t'.withReference
  worst : t.worst.AtMost t'.worst

/-- Whether each use reads at most as much as the next one. -/
structure Scenarios.IsOrdered (s : Scenarios) : Prop where
  idle : s.idle ≤ s.typical
  typical : s.typical ≤ s.withReference
  withReference : s.withReference ≤ s.worst

/-- Each use reads what the one before it reads, and more. -/
theorem TokenReport.isOrdered_scenariosOf (metadata body : Nat) (references : List Nat) :
    (scenariosOf metadata body references).IsOrdered where
  idle := Nat.le_add_right _ _
  typical := Nat.le_add_right _ _
  withReference := Nat.add_le_add_left (getD_min?_le_sum references) _

namespace TokenConfig

variable {c c' : TokenConfig Rat}

/-- Uses in order have costs in order. -/
theorem isOrdered_costs (hc : c.IsNonneg) {s : Scenarios} (hs : s.IsOrdered) :
    (c.costs s).IsOrdered where
  idle := cost_mono hc (AtMost.refl c) hs.idle
  typical := cost_mono hc (AtMost.refl c) hs.typical
  withReference := cost_mono hc (AtMost.refl c) hs.withReference

/-- Higher prices make every use cost more. -/
theorem costs_atMost (hc : c.IsNonneg) (h : c.AtMost c') (s : Scenarios) :
    (c.costs s).AtMost (c'.costs s) where
  idle := cost_mono hc h (le_refl _)
  typical := cost_mono hc h (le_refl _)
  withReference := cost_mono hc h (le_refl _)
  worst := cost_mono hc h (le_refl _)

end TokenConfig

/-! ## Packages -/

namespace TokenReport

variable {α : Type} [Quantity α]

/-- What the tokens of a package add up to. -/
structure AddsUp (p : Package) (r : TokenReport α) : Prop where
  /-- The reference files are counted by their paths, in order. -/
  inOrder : PathMap.InOrder r.references
  /-- A path has the tokens of the last text in a reference file there. -/
  mem_references_iff : ∀ e : String × Nat,
    e ∈ r.references ↔ (p.referenceTokens.filter (·.1 == e.1)).getLast? = some e
  /-- Where no two files share a path, each reference file that is text has its tokens. -/
  references_perm : (p.files.map (·.path)).Nodup → r.references.Perm p.referenceTokens
  /-- In a package that is read they also stand in the order of the files. -/
  references_of_load : ∀ {top : FileTree} {root : String} {priorities : Priorities},
    top.IsProper → Package.load top root priorities = .ok p → r.references = p.referenceTokens
  referencesTotal : r.referencesTotal = (r.references.map (·.2)).sum
  scenarios : r.scenarios.IsOrdered
  /-- The smallest reference is all there is to read. -/
  withReference_eq_iff : r.scenarios.withReference = r.scenarios.worst ↔
    r.references.length ≤ 1 ∨ ∀ e ∈ r.references, e.2 = 0

/-- The tokens of a package add up. -/
theorem addsUp_ofPackage (p : Package) (config : TokenConfig α) :
    (ofPackage p config).AddsUp p := by
  have hreferences := references_ofPackage p config
  have hscenarios := scenarios_ofPackage p config
  rw [← hreferences] at hscenarios
  constructor
  · exact hreferences ▸ PathMap.inOrder_ofEntries _
  · exact fun e => hreferences ▸ PathMap.mem_ofEntries_iff
  · intro hpaths
    have hnodup := Package.pairwise_referenceTokens (R := (· ≠ ·)) (List.pairwise_map.mp hpaths)
    exact hreferences ▸ PathMap.ofEntries_perm (List.pairwise_map.mpr hnodup)
  · intro top root priorities htop h
    have hpairwise := Package.pairwise_path_of_load htop h
    exact hreferences.trans (PathMap.ofEntries_eq_self (Package.pairwise_referenceTokens hpairwise))
  · exact hreferences ▸ referencesTotal_ofPackage p config
  · exact hscenarios ▸ isOrdered_scenariosOf _ _ _
  · have hleast := getD_min?_eq_sum_iff (l := (ofPackage p config).references.map (·.2))
    rw [List.length_map, List.forall_mem_map] at hleast
    rw [hscenarios, ← hleast]
    exact Nat.add_left_cancel_iff

/-- The uses of a package are in order, and so are their costs where no price is negative. Higher
    prices and more uses a month cost at least as much. -/
theorem isOrdered_ofPackage (p : Package) (c : TokenConfig Rat) :
    (ofPackage p c).AddsUp p ∧
      (c.IsNonneg → (ofPackage p c).costs.IsOrdered ∧
        ∀ c' : TokenConfig Rat, c.AtMost c' →
          (ofPackage p c).costs.AtMost (ofPackage p c').costs) := by
  have hadds := addsUp_ofPackage p c
  refine ⟨hadds, fun hc => ⟨TokenConfig.isOrdered_costs hc hadds.scenarios, fun c' h => ?_⟩⟩
  exact TokenConfig.costs_atMost hc h _

/-- The smallest reference adds nothing to what is read. At the default prices the costs of the four
    uses are in order, and twice the monthly volume costs at least as much. -/
theorem isOrdered_sparseNotes :
    let prices : TokenConfig Rat := .default
    let doubled : TokenConfig Rat := { prices with monthlyVolume := 2000 }
    (ofPackage sparseNotes prices).scenarios = ⟨3, 9, 9, 13⟩ ∧
      prices.IsNonneg ∧ (ofPackage sparseNotes prices).costs.IsOrdered ∧
      prices.AtMost doubled ∧
      (ofPackage sparseNotes prices).costs.AtMost (ofPackage sparseNotes doubled).costs := by
  intro prices doubled
  have hprices : prices.IsNonneg := ⟨by decide +kernel, by decide +kernel, by decide +kernel⟩
  have hdoubled : prices.AtMost doubled :=
    { TokenConfig.AtMost.refl prices with monthlyVolume := by decide }
  obtain ⟨-, hcosts⟩ := isOrdered_ofPackage sparseNotes prices
  obtain ⟨hordered, hatMost⟩ := hcosts hprices
  exact ⟨by decide +kernel, hprices, hordered, hdoubled, hatMost doubled hdoubled⟩

end TokenReport

end SkillAudit
