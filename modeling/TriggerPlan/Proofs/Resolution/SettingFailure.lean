import TriggerPlan.Proofs.Declaration.Place
import TriggerPlan.Proofs.Resolution.Success
import TriggerPlan.Proofs.Settings.Failure

/-!
# Errors about settings in a declaration

The error in which the settings of a level end is about one of the nodes of the level, and this node
is not acceptable there.
-/

namespace TriggerPlan

/-! ## Nodes -/

theorem Node.settingValue_reports (n : Node) (path : String) :
    Reports (n.settingValue path) (·.IsAbout path n.name) := by
  unfold settingValue
  split
  · exact Reports.ok _
  · exact Reports.error (Error.isAbout ..)

section Level

variable {κ : Type} {name : κ → String} {Accepts : κ → Value → Prop} {key? : Node → Option κ}
  {n : Node}

/-- A node with a value but without a key has no place on a level. -/
theorem not_fits_of_key?_eq_none (hkey : ∀ n k, key? n = some k ↔ n.sets (name k) = true)
    (hnone : key? n = none) (hvalues : n.hasValues = true) :
    ¬n.Fits (Node.IsSettingOf name Accepts) := by
  rw [Node.fits_iff_isSetting hvalues]
  rintro ⟨k, hname, -⟩
  have hk : key? n = some k := (hkey n k).2 (Node.sets_iff.2 ⟨hvalues, hname⟩)
  rw [hnone] at hk
  exact nomatch hk

/-- Nor has a node with a key that does not carry a value for it. -/
theorem not_fits_of_not_carries (hkey : ∀ n k, key? n = some k ↔ n.sets (name k) = true) {k : κ}
    (hk : key? n = some k) (hcarries : ¬n.Carries (Accepts k)) :
    ¬n.Fits (Node.IsSettingOf name Accepts) := by
  rw [Node.fits_iff_isSetting (Node.sets_iff.1 ((hkey n k).1 hk)).1, isSettingOf_iff_carries hkey hk]
  exact hcarries

end Level

/-! ## Settings of a level -/

namespace Layer

theorem applyNode_reports (l : Layer) (path : String) {key : SettingKey} {n : Node}
    (hname : n.name = key.name) : Reports (l.applyNode path key n) (·.IsAbout path n.name) := by
  refine (n.settingValue_reports path).bind fun v _ => ?_
  rw [hname]
  exact l.assign_reports path key v

/-- An error about the settings of a level is about one of the nodes with a value. -/
theorem applySettings_reports (l : Layer) (path : String) (ns : List Node) :
    Reports (l.applySettings path ns) fun e =>
      ∃ n ∈ ns, e.IsAbout path n.name ∧ ¬n.Fits Node.IsSetting := by
  refine Reports.foldlM fun pre n post t hns _ => ?_
  have hn : n ∈ ns := hns ▸ List.mem_append_cons_self
  cases hk : n.setting? with
  | none => exact Reports.ok t
  | some key =>
    have hname : n.name = key.name := (Node.sets_iff.1 (Node.setting?_eq_some_iff.1 hk)).2
    refine ((t.applyNode_reports path hname).and_not (t.applyNode_yields path key n)).mono ?_
    rintro e ⟨habout, hcarries⟩
    refine ⟨n, hn, habout, ?_⟩
    rw [Node.isSetting_eq]
    exact not_fits_of_not_carries (fun _ _ => Node.setting?_eq_some_iff) hk hcarries

/-- An error about the nodes of a host is about one that is no setting. -/
theorem applyHostNodes_reports (l : Layer) (path : String) (ns : List Node) :
    Reports (l.applyHostNodes path ns) fun e =>
      ∃ n ∈ ns, e.IsAbout path n.name ∧ ¬n.IsSetting := by
  refine Reports.foldlM fun pre n post t hns _ => ?_
  have hn : n ∈ ns := hns ▸ List.mem_append_cons_self
  cases hk : SettingKey.ofName? n.name with
  | none =>
    refine Reports.error ⟨n, hn, Error.isAbout .., ?_⟩
    rw [Node.isSetting_iff]
    rintro ⟨key, hname, -⟩
    rw [SettingKey.ofName?_eq_some_iff.2 hname.symm] at hk
    exact nomatch hk
  | some key =>
    have hname : key.name = n.name := SettingKey.ofName?_eq_some_iff.1 hk
    refine ((t.applyNode_reports path hname.symm).and_not (t.applyNode_yields path key n)).mono ?_
    rintro e ⟨habout, hcarries⟩
    refine ⟨n, hn, habout, ?_⟩
    rw [Node.isSetting_iff]
    rintro ⟨key', hname', hcarries'⟩
    obtain rfl := SettingKey.name_injective (hname.trans hname')
    exact hcarries hcarries'

end Layer

namespace Repository

theorem applyNode_reports (r : Repository) {key : RepositoryKey} {n : Node}
    (hname : n.name = key.name) : Reports (r.applyNode key n) (·.IsAbout r.path n.name) := by
  refine (n.settingValue_reports r.path).bind fun v _ => ?_
  have htext := Layer.textOfValue_reports r.path n.name v
  cases key with
  | contextUrl => exact htext.bind fun t _ => Reports.ok _
  | repoKey => exact htext.bind fun t _ => Reports.ok _
  | setting key =>
    have hassign := r.settings.assign_reports r.path key v
    rw [hname]
    exact hassign.bind fun l _ => Reports.ok _

theorem path_putAll (r : Repository) (ns : List Node) : (r.putAll ns).path = r.path := by
  rw [putAll_eq]
  rfl

/-- An error about the settings of a repository is about one of the nodes with a value. -/
theorem applySettings_reports (r : Repository) (ns : List Node) :
    Reports (r.applySettings ns) fun e =>
      ∃ n ∈ ns, e.IsAbout r.path n.name ∧ ¬n.Fits Node.IsRepositorySetting := by
  refine Reports.foldlM fun pre n post t hns hpre => ?_
  have hn : n ∈ ns := hns ▸ List.mem_append_cons_self
  -- the settings before the node have not changed the path
  have hpath : t.path = r.path := by
    obtain ⟨-, rfl⟩ := (r.applySettings_yields pre t).1 hpre
    exact r.path_putAll pre
  cases hk : n.repositorySetting? with
  | none => exact Reports.ok t
  | some key =>
    have hname : n.name = key.name := (Node.sets_iff.1 (Node.repositorySetting?_eq_some_iff.1 hk)).2
    refine ((t.applyNode_reports hname).and_not (t.applyNode_yields key n)).mono ?_
    rintro e ⟨habout, hcarries⟩
    rw [hpath] at habout
    refine ⟨n, hn, habout, ?_⟩
    rw [Node.isRepositorySetting_eq]
    exact not_fits_of_not_carries (fun _ _ => Node.repositorySetting?_eq_some_iff) hk hcarries

end Repository

end TriggerPlan
