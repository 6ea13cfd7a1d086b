import NetBridge.Config.Load
import NetBridge.Proofs.Config.Consistency
import NetBridge.Proofs.Topology.Drafting

namespace NetBridge.Config

open Dialogue NetBridge.Topology

variable {meaning : Meaning} {path : String} {content : FileContent} {config : Config}

theorem validate_default : default.validate = .ok () := by decide

theorem validate_of_loadAs (loaded : (loadAs meaning path content).result = .ok config) :
    config.validate = .ok () := by
  unfold loadAs at loaded
  cases read : fileText content with
  | error source =>
    rw [read] at loaded
    cases loaded
  | ok text =>
    rw [read] at loaded
    dsimp only at loaded
    cases said : meaning text with
    | error fault =>
      rw [said] at loaded
      cases loaded
    | ok meant =>
      rw [said] at loaded
      obtain ⟨_, checked, same⟩ := Reported.result_bind_eq_ok_iff.mp loaded
      obtain rfl := Except.ok.inj same
      rw [validate]
      cases done : meant.inspect.result with
      | ok passed => rfl
      | error fault =>
        rw [Reported.mapError, done] at checked
        cases checked

/-- The default stands in for a file that does not exist, and for nothing else. -/
theorem loadOrDefaultAs_eq (meaning : Meaning) (path : String) (content : FileContent) :
    loadOrDefaultAs meaning path content =
      if content = .error (.errno .ENOENT) then pure default else loadAs meaning path content := by
  unfold loadOrDefaultAs
  split
  · simp only [Except.error.injEq, SystemError.errno.injEq]
  · next other => exact (if_neg (other _)).symm

theorem validate_of_loadOrDefaultAs
    (loaded : (loadOrDefaultAs meaning path content).result = .ok config) :
    config.validate = .ok () := by
  rw [loadOrDefaultAs_eq] at loaded
  split at loaded
  · exact Except.ok.inj loaded ▸ validate_default
  · exact validate_of_loadAs loaded

/-- The procedure ends with a plan of this kind, or with an error that finds no fault with a name; and
so does carrying the plan out. -/
def Plans (config : Config) (planning : Procedure (List Action)) (kind : List Action → Prop) : Prop :=
  planning.Yields fun plan => kind plan ∧ (execute config.policy plan).Yields fun _ => True

theorem plans_up (valid : config.validate = .ok ()) :
    config.Plans (planUp config.policy config.bridges) UpOrdered := by
  obtain ⟨-, blueprints, denoted, consistent⟩ := validate_eq_ok_iff.mp valid
  exact (yields_planUp denoted consistent).mono fun _ ordered =>
    ⟨ordered, yields_execute ordered.canonical⟩

theorem plans_down (valid : config.validate = .ok ()) :
    config.Plans (planDown config.policy config.bridges) DownOrdered := by
  obtain ⟨-, blueprints, denoted, consistent⟩ := validate_eq_ok_iff.mp valid
  exact (yields_planDown denoted consistent).mono fun _ ordered =>
    ⟨ordered, yields_execute ordered.canonical⟩

/-- A configuration that is loaded has passed its check, and only for a file that does not exist it is
the default. Whatever a control plane answers, plans made of it are well-named and well-ordered, and
neither making them nor carrying them out finds fault with a name. -/
theorem loaded_plans_ordered (meaning : Meaning) (path : String) (content : FileContent) :
    loadOrDefaultAs meaning path content =
      (if content = .error (.errno .ENOENT) then pure default else loadAs meaning path content) ∧
    ∀ config, ((loadAs meaning path content).result = .ok config ∨
        (loadOrDefaultAs meaning path content).result = .ok config) →
      config.validate = .ok () ∧
      config.Plans (planUp config.policy config.bridges) UpOrdered ∧
      config.Plans (planDown config.policy config.bridges) DownOrdered := by
  refine ⟨loadOrDefaultAs_eq meaning path content, fun config loaded => ?_⟩
  have valid : config.validate = .ok () := by
    rcases loaded with loaded | loaded
    · exact validate_of_loadAs loaded
    · exact validate_of_loadOrDefaultAs loaded
  exact ⟨valid, plans_up valid, plans_down valid⟩

/-- A configuration that the file's text declares, with a member name that is too long. -/
theorem loaded_plans_ordered_cut :
    let content : FileContent := .ok (("[[bridges]]\nname = \"br0\"\nup = true\n" ++
      "members = [\"eth0\", \"averylongportname0\"]\n").toUTF8.toList)
    let config : Config := ⟨.truncate, "info", [⟨"br0", ["eth0", "averylongportname0"], true⟩]⟩
    (load "bridgewire.toml" content).result = .ok config ∧ config.validate = .ok () ∧
      config.Plans (planUp config.policy config.bridges) UpOrdered ∧
      config.Plans (planDown config.policy config.bridges) DownOrdered := by
  intro content config
  have loaded : (load "bridgewire.toml" content).result = .ok config := by decide +kernel
  obtain ⟨-, each⟩ := loaded_plans_ordered ofText? "bridgewire.toml" content
  exact ⟨loaded, each config (.inl loaded)⟩

end NetBridge.Config
