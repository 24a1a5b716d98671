import SkillAudit.Proofs.Config.Normalize
import SkillAudit.Validation
/-!
# SkillAudit.Proofs.Config.Prepare

Preparing settings. What comes out of it is left alone by a second time, since scaled weights can be
used as they are; it looks at nothing that a caller sets, so that the caller's settings may be put in
before or after; and so a request fails for its settings only if it brings settings that have not
been prepared.
-/

namespace SkillAudit

open Quantity (ofNat)

/-! ## Settling weights -/

namespace Weights

variable {α : Type} [Quantity α]

/-- The weights that a package is scored with: as they are if they can be used so, else scaled. -/
def settled (w : Weights α) : Weights α := if w.isValid then w else w.normalize

/-- Weights that can be used as they are stay so. -/
theorem settled_of_isValid {w : Weights α} (hw : w.isValid = true) : w.settled = w := if_pos hw

/-- Whether weights can be settled: none is negative and they do not sum to nothing. -/
def IsUsable (w : Weights α) : Prop :=
  w.allNonNegative = true ∧ Quantity.le w.sum (ofNat 0) = false

theorem isUsable_iff {w : Weights Rat} : w.IsUsable ↔ (∀ a, 0 ≤ w.get a) ∧ 0 < w.sum := by
  have hle : Quantity.le w.sum (ofNat 0) = false ↔ 0 < w.sum :=
    decide_eq_false_iff_not.trans not_le
  rw [IsUsable, allNonNegative_iff, hle]

/-- Settled weights can be used as they are. -/
theorem isValid_settled {w : Weights Rat} (hw : w.IsUsable) : w.settled.isValid = true := by
  obtain ⟨hget, hsum⟩ := isUsable_iff.mp hw
  unfold settled
  split
  · next h => exact h
  · exact isValid_normalize hsum hget

theorem isUsable_of_isValid {w : Weights Rat} (hw : w.isValid = true) : w.IsUsable := by
  obtain ⟨hget, hsum⟩ := isValid_iff.mp hw
  refine isUsable_iff.mpr ⟨hget, ?_⟩
  linarith [(abs_lt.mp hsum).1]

end Weights

/-! ## Prepared settings -/

namespace Config

variable {α : Type} [Quantity α]

/-- Settings with settled weights. -/
def settle (c : Config α) : Config α :=
  { c with scoring := { c.scoring with weights := c.scoring.weights.settled } }

/-- The checks in their order. -/
theorem prepare_eq (c : Config α) :
    c.prepare =
      if c.scoring.weights.allNonNegative = false then .error .negativeWeights
      else if Quantity.le c.scoring.weights.sum (ofNat 0) = true then .error .zeroWeights
      else
        match c.badShare? with
        | some s => .error (.notAShare s (s.get c))
        | none =>
          if Quantity.lt c.style.fullThreshold c.style.partialThreshold = true then
            .error (.crossedThresholds c.style.partialThreshold c.style.fullThreshold)
          else .ok c.settle := by
  cases hneg : c.scoring.weights.allNonNegative <;> simp only [prepare, hneg] <;> rfl

/-- Settings can be prepared exactly when the weights can be settled, every share is one and the
    thresholds do not cross, and then only the weights change. -/
theorem prepare_eq_ok {c c' : Config α} :
    c.prepare = .ok c' ↔
      c.scoring.weights.IsUsable ∧ c.badShare? = none ∧
        Quantity.lt c.style.fullThreshold c.style.partialThreshold = false ∧ c' = c.settle := by
  rw [prepare_eq]
  constructor
  · intro h
    split at h
    · cases h
    · next hneg =>
      split at h
      · cases h
      · next hzero =>
        split at h
        · cases h
        · next hshare =>
          split at h
          · cases h
          · next hcross =>
            cases h
            exact ⟨⟨by simpa using hneg, by simpa using hzero⟩, hshare, by simpa using hcross, rfl⟩
  · rintro ⟨⟨hneg, hzero⟩, hshare, hcross, rfl⟩
    simp [hneg, hzero, hshare, hcross]

/-- What is prepared has the settled weights. -/
theorem weights_eq_of_prepare {c c' : Config α} (h : c.prepare = .ok c') :
    c'.scoring.weights = c.scoring.weights.settled := by
  obtain ⟨-, -, -, rfl⟩ := prepare_eq_ok.mp h
  rfl

/-- The weights of prepared settings are not negative, and sum to 100 up to a thousandth. -/
theorem weights_of_prepare {c c' : Config Rat} (h : c.prepare = .ok c') :
    (∀ a, 0 ≤ c'.scoring.weights.get a) ∧ |c'.scoring.weights.sum - 100| < 1 / 1000 := by
  rw [weights_eq_of_prepare h]
  exact Weights.isValid_iff.mp (Weights.isValid_settled (prepare_eq_ok.mp h).1)

/-- Settings whose weights can be used as they are need no preparation. -/
theorem prepare_of_isValid {c : Config Rat} (hvalid : c.scoring.weights.isValid = true)
    (hshare : c.badShare? = none)
    (hcross : Quantity.lt c.style.fullThreshold c.style.partialThreshold = false) :
    c.prepare = .ok c := by
  refine prepare_eq_ok.mpr ⟨Weights.isUsable_of_isValid hvalid, hshare, hcross, ?_⟩
  rw [settle, Weights.settled_of_isValid hvalid]

/-- Prepared settings are left as they are. -/
theorem prepare_prepared {c c' : Config Rat} (h : c.prepare = .ok c') : c'.prepare = .ok c' := by
  obtain ⟨hw, hshare, hcross, rfl⟩ := prepare_eq_ok.mp h
  exact prepare_of_isValid (Weights.isValid_settled hw) hshare hcross

/-! ## The settings of a caller -/

omit [Quantity α] in
theorem get_apply (o : Overrides α) (c : Config α) (s : ShareSetting) :
    s.get (o.apply c) = s.get c := by
  cases s <;> rfl

/-- What a caller sets is neither looked at nor changed. -/
theorem prepare_apply (o : Overrides α) (c : Config α) :
    (o.apply c).prepare = c.prepare.map o.apply := by
  have hshare : (o.apply c).badShare? = c.badShare? := by
    simp only [badShare?, get_apply]
  have hweights : (o.apply c).scoring.weights = c.scoring.weights := rfl
  have hstyle : (o.apply c).style = c.style := rfl
  have hsettle : (o.apply c).settle = o.apply c.settle := rfl
  simp only [prepare_eq, hshare, get_apply, hweights, hstyle, hsettle]
  split
  · rfl
  · split
    · rfl
    · split
      · rfl
      · split <;> rfl

/-! ## Files of settings -/

/-- The settings of a file are prepared. -/
theorem prepare_of_load {top : FileTree} {path : String} {c : Config Rat}
    (h : load top path = .ok c) : c.prepare = .ok c := by
  unfold load at h
  split at h
  · cases h
  · next text _ =>
    cases htext : (ofText path (String.ofList text) : Except (ConfigError Rat) (Config Rat)) with
    | error e =>
      rw [htext] at h
      cases h
    | ok raw =>
      rw [htext] at h
      exact prepare_prepared (c := raw) h

/-- The default settings are prepared as they are. -/
theorem prepare_default : (default : Config Rat).prepare = .ok default :=
  prepare_of_isValid (by decide +kernel) (by decide +kernel) (by decide +kernel)

/-- The settings that a package holds are prepared, whatever its files are. -/
theorem prepare_discover (top : FileTree) (root : String) :
    (discover top root : Config Rat).prepare = .ok (discover top root) := by
  unfold discover
  cases hfound : fileNames.findSome? fun name =>
      (load top (FileTree.join root name) : Except (ConfigError Rat) (Config Rat)).toOption with
  | none => exact prepare_default
  | some c =>
    obtain ⟨name, -, hload⟩ := List.exists_of_findSome?_eq_some hfound
    cases hc : (load top (FileTree.join root name) : Except (ConfigError Rat) (Config Rat)) with
    | error e =>
      rw [hc] at hload
      cases hload
    | ok c' =>
      rw [hc] at hload
      cases hload
      exact prepare_of_load hc

end Config

/-! ## Requests -/

namespace Request

/-- A request with prepared settings has these settings, with those of the caller put in. -/
theorem settings_eq {top : FileTree} {r : Request Rat}
    (h : ∀ c, r.config = some c → c.prepare = .ok c) :
    r.settings top = .ok (r.overrides.apply (r.config.getD (Config.discover top r.root))) := by
  have hbase : (r.config.getD (Config.discover top r.root)).prepare =
      .ok (r.config.getD (Config.discover top r.root)) := by
    cases hconfig : r.config with
    | none => exact Config.prepare_discover top r.root
    | some c => exact h c hconfig
  rw [settings, Config.prepare_apply, hbase]
  rfl

/-- Such a request does not fail for its settings. -/
theorem kind_ne_configError {top : FileTree} {r : Request Rat} {e : ValidationError Rat}
    (h : ∀ c, r.config = some c → c.prepare = .ok c) (he : r.run top = .error e) :
    e.kind ≠ "ConfigError" := by
  unfold run at he
  rw [settings_eq h] at he
  split at he
  · next hsettings => cases hsettings
  · split at he
    · cases he
      next e' _ => cases e' <;> simp [ValidationError.kind, LoadError.kind]
    · cases he

end Request

/-! ## The laws of preparation -/

/-- What is true of preparing settings twice, around the settings of a caller, and behind the files
    that they are read from. -/
structure Config.PreparesLawfully (α : Type) [Quantity α] : Prop where
  /-- Prepared settings are left as they are. -/
  prepare_again : ∀ c c' : Config α, c.prepare = .ok c' → c'.prepare = .ok c'
  /-- The settings of a caller change neither whether settings can be prepared nor what becomes of
      them, but for themselves. -/
  apply_before : ∀ (o : Overrides α) (c : Config α), (o.apply c).prepare = c.prepare.map o.apply
  /-- A request without settings does not fail for those that the package holds. -/
  run_discovered : ∀ (top : FileTree) (root : String) (o : Overrides α) (e : ValidationError α),
    Request.run top ⟨root, none, o⟩ = .error e → e.kind ≠ "ConfigError"
  /-- A request with the settings of a file that can be used does not fail for them. -/
  run_loaded : ∀ (top : FileTree) (path : String) (c : Config α), Config.load top path = .ok c →
    ∀ (here : FileTree) (root : String) (o : Overrides α) (e : ValidationError α),
      Request.run here ⟨root, some c, o⟩ = .error e → e.kind ≠ "ConfigError"

/-- In the rationals the laws hold. -/
theorem Config.preparesLawfully_rat : Config.PreparesLawfully Rat where
  prepare_again _ _ := Config.prepare_prepared
  apply_before := Config.prepare_apply
  run_discovered := by
    intro top root o e he
    refine Request.kind_ne_configError ?_ he
    intro c hc
    cases hc
  run_loaded := by
    intro top path c hload here root o e he
    refine Request.kind_ne_configError ?_ he
    intro c' hc'
    cases hc'
    exact Config.prepare_of_load hload

/-- Settings with three equal weights, which do not divide 100 points. -/
def Config.thirds : Config Rat :=
  { Config.default with scoring := { ScoringConfig.default with weights := ⟨1, 1, 1, 0, 0⟩ } }

/-- Preparing these settings scales their weights. -/
theorem Config.prepare_thirds : Config.thirds.prepare = .ok Config.thirds.settle :=
  Config.prepare_eq_ok.mpr ⟨⟨by decide +kernel, by decide +kernel⟩, by decide +kernel,
    by decide +kernel, rfl⟩

/-- They are scaled once: the first area takes the hundredth that the rounding leaves over, and a
    second time changes nothing. -/
theorem Config.prepare_again_thirds :
    ∃ c, Config.thirds.prepare = .ok c ∧
      c.scoring.weights = ⟨3334 / 100, 3333 / 100, 3333 / 100, 0, 0⟩ ∧ c.prepare = .ok c :=
  ⟨Config.thirds.settle, Config.prepare_thirds, by decide +kernel,
    Config.preparesLawfully_rat.prepare_again _ _ Config.prepare_thirds⟩

end SkillAudit
