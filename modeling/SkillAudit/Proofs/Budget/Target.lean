import Mathlib.Algebra.BigOperators.Group.List.Basic
import Mathlib.Algebra.Order.Ring.Rat
import SkillAudit.Proofs.Budget
import SkillAudit.Proofs.Package.Notes
/-!
# SkillAudit.Proofs.Budget.Target

The number of tokens that the front matter declares, and what is paid against it. Three keys are
searched for a number, and only then is it asked whether the number is positive: a number that is
not, declared under an earlier key, hides one under a later key that is.

* `target?_eq_firstPositive?_iff` — when the first positive number is found;
* `paid_eq_sum` — what is paid, file by file;
* `countP_exceeded` — the finding, which there is at most once.
-/

namespace SkillAudit.BudgetReport

/-! ## Declared numbers -/

section

variable {α : Type} [Quantity α] {p : Package}

/-- The numbers that the front matter declares, in the order of their keys. -/
def declared (p : Package) : List Numeral := targetKeys.filterMap p.frontMatter.numeralAt?

/-- The number that a numeral stands for, if it is positive. -/
def positive? (x : Numeral) : Option α :=
  (Quantity.ofNumeral? x).filter (Quantity.lt (Quantity.ofNat 0))

/-- The first positive number that is declared. -/
def firstPositive? (p : Package) : Option α := (declared p).findSome? positive?

/-- Only the first number is looked at. -/
theorem target?_eq (p : Package) : (target? p : Option α) = (declared p).head?.bind positive? := by
  rw [target?, declared, List.head?_filterMap]
  cases targetKeys.findSome? p.frontMatter.numeralAt? <;> rfl

/-- The first positive number is found unless the first number is not positive and a later one
    is. -/
theorem target?_eq_firstPositive?_iff (p : Package) :
    (target? p : Option α) = firstPositive? p ↔
      ∀ x xs, declared p = x :: xs → (positive? x : Option α) = none →
        ∀ y ∈ xs, (positive? y : Option α) = none := by
  rw [target?_eq, firstPositive?]
  cases hdeclared : declared p with
  | nil => simp
  | cons x xs =>
    rw [List.head?_cons, Option.bind_some, List.findSome?_cons]
    cases hx : (positive? x : Option α) with
    | some t =>
      have hsome : ∀ y ys, x :: xs = y :: ys → (positive? y : Option α) ≠ none := by
        rintro y ys heq
        obtain ⟨rfl, -⟩ := List.cons.inj heq
        rw [hx]
        exact Option.some_ne_none t
      exact ⟨fun _ y ys heq hnone => absurd hnone (hsome y ys heq), fun _ => rfl⟩
    | none =>
      rw [eq_comm, List.findSome?_eq_none_iff]
      constructor
      · rintro hxs y ys heq -
        obtain ⟨-, rfl⟩ := List.cons.inj heq
        exact hxs
      · intro h
        exact h x xs rfl hx

/-- The findings about the declared number are those under their rule. -/
theorem countP_exceeded (p : Package) (config : BudgetConfig α) :
    (ofPackage p config).findings.countP (·.rule == "reference-budget-exceeded") =
      ((ofPackage p config).tokenTarget.bind
        (targetFinding? p config (ofPackage p config).paidTokens)).toList.length := by
  have hresults : ((ofPackage p config).results.filterMap (·.finding?)).countP
      (·.rule == "reference-budget-exceeded") = 0 := by
    rw [List.countP_eq_zero]
    intro f hf
    obtain hrule | hrule := rule_of_result hf <;> simp [hrule]
  have hlength : (lengthFinding? p config).toList.countP
      (·.rule == "reference-budget-exceeded") = 0 := by
    rw [List.countP_eq_zero]
    intro f hf
    simp [rule_of_length hf]
  rw [findings_ofPackage, List.countP_append, List.countP_append, hresults, hlength, zero_add,
    add_zero, List.countP_eq_length]
  intro f hf
  simp [rule_of_target hf]

end

/-! ## Paid tokens -/

variable {p : Package}

/-- What is paid for a file: its tokens, by the weight of its tier. -/
theorem paid_eq_sum (p : Package) (config : BudgetConfig Rat) :
    (ofPackage p config).paidTokens =
      (p.budgetedFiles.map fun f => config.paidWeights.get f.tier * p.tokensOf f).sum := by
  have hpaid : (ofPackage p config).paidTokens = paid config (ofPackage p config).results := rfl
  rw [hpaid, results_ofPackage, paid, List.foldl_map, List.sum_eq_foldl, List.foldl_map]
  rfl

/-- What it means for the tokens of a package to be held to the number that it declares. -/
structure HoldsToTarget (p : Package) : Prop where
  /-- The target is the first number that is declared, if it is positive. -/
  tokenTarget_eq : ∀ {α : Type} [Quantity α] (config : BudgetConfig α),
    (ofPackage p config).tokenTarget = (declared p).head?.bind positive?
  /-- It is the first positive one exactly if none is hidden. -/
  tokenTarget_iff : ∀ {α : Type} [Quantity α] (config : BudgetConfig α),
    (ofPackage p config).tokenTarget = firstPositive? p ↔
      ∀ x xs, declared p = x :: xs → (positive? x : Option α) = none →
        ∀ y ∈ xs, (positive? y : Option α) = none
  /-- All text is paid but assets. -/
  paidTokens_eq : ∀ config : BudgetConfig Rat, (ofPackage p config).paidTokens =
    ((p.files.filter fun f => f.role != .asset && f.text.isSome).map fun f =>
      config.paidWeights.get f.tier * p.tokensOf f).sum
  /-- The tier of a file is the one that it is given, or else that of its role. -/
  tier_eq : ∀ top root priorities, Package.load top root priorities = .ok p → ∀ f ∈ p.files,
    f.tier = (priorities.tier? f.path).getD f.role.tier
  /-- There is one finding if the target is exceeded, and none if it is not or there is no target. -/
  countP_eq : ∀ config : BudgetConfig Rat,
    (ofPackage p config).findings.countP (·.rule == "reference-budget-exceeded") =
      if ∃ t, (ofPackage p config).tokenTarget = some t ∧
          t * config.aggregateFraction < (ofPackage p config).paidTokens
        then 1 else 0

theorem holdsToTarget (p : Package) : HoldsToTarget p where
  tokenTarget_eq _ := target?_eq p
  tokenTarget_iff _ := target?_eq_firstPositive?_iff p
  paidTokens_eq := paid_eq_sum p
  tier_eq _ _ _ h _ hf := Package.tier_of_load h hf
  countP_eq := by
    intro config
    rw [countP_exceeded]
    cases htarget : (ofPackage p config).tokenTarget with
    | none => simp
    | some t =>
      have hlt : Quantity.lt (t * config.aggregateFraction) (ofPackage p config).paidTokens =
          true ↔ t * config.aggregateFraction < (ofPackage p config).paidTokens :=
        decide_eq_true_iff
      rw [Option.bind_some, targetFinding?]
      split <;> simp_all

/-! ### A number that hides another -/

/-- A manifest that declares no tokens under one key, and a single token under the next. -/
def zeroedNotes : Package :=
  .notes
    ⟨"name: notes\ntoken_budget: 0\ntoken_target: 1\n",
      [(.str "name", .str "notes"), (.str "token_budget", .int 0), (.str "token_target", .int 1)]⟩
    "Read it.\n" []

/-- Its first positive number is exceeded, but it has no target, and no finding says so. -/
theorem hides_zeroedNotes :
    (firstPositive? zeroedNotes : Option Rat) = some 1 ∧
      1 * (.default : BudgetConfig Rat).aggregateFraction <
        (ofPackage zeroedNotes (.default : BudgetConfig Rat)).paidTokens ∧
      (ofPackage zeroedNotes (.default : BudgetConfig Rat)).tokenTarget = none ∧
      (ofPackage zeroedNotes (.default : BudgetConfig Rat)).findings.countP
        (·.rule == "reference-budget-exceeded") = 0 := by
  have htarget : (ofPackage zeroedNotes (.default : BudgetConfig Rat)).tokenTarget = none := by
    decide +kernel
  refine ⟨by decide +kernel, by decide +kernel, htarget, ?_⟩
  rw [countP_exceeded, htarget]
  rfl

end SkillAudit.BudgetReport
