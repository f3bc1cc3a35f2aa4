import AssetExchange.Config.Loading

/-!
# Accepting a configuration

A configuration that was read is accepted if it is valid, with its placeholders replaced
(`accept_eq`).  Replacing them changes nothing that is looked at to decide whether it is valid
(`validate_expand`); it changes string settings alone (`get?_settings_expand`).
-/

namespace AssetExchange

def PropertyValue.expandIn (directory : Option String) (value : PropertyValue) :
    PropertyValue :=
  match directory with
  | none => value
  | some directory => value.expand directory

def ManagerConfig.expandIn (directory : Option String) (config : ManagerConfig) :
    ManagerConfig :=
  match directory with
  | none => config
  | some directory => config.expand directory

def mentionsDirectory (text : String) : Bool :=
  Text.occurs directoryPlaceholder.toList text.toList

@[simp] theorem ManagerConfig.identifier_expandIn (directory : Option String)
    (config : ManagerConfig) : (config.expandIn directory).identifier = config.identifier := by
  cases directory <;> rfl

theorem ManagerConfig.get?_settings_expandIn (directory : Option String)
    (config : ManagerConfig) (key : String) :
    (config.expandIn directory).settings.get? key =
      (config.settings.get? key).map (PropertyValue.expandIn directory) := by
  cases directory with
  | none =>
      exact Option.map_id'.symm
  | some directory =>
      exact Dictionary.get?_map _ _ key

namespace AppConfig

variable {config : AppConfig} {directory : Option String}

@[simp] theorem logging_expand (directory : Option String) (config : AppConfig) :
    (config.expand directory).logging = config.logging := by
  cases directory <;> rfl

@[simp] theorem manager_expand (directory : Option String) (config : AppConfig) :
    (config.expand directory).manager =
      config.manager.map (ManagerConfig.expandIn directory) := by
  cases directory with
  | none =>
      cases held : config.manager with
      | none =>
          exact held
      | some manager =>
          exact held
  | some directory =>
      rfl

theorem problem?_expand (directory : Option String) (config : AppConfig) :
    (config.expand directory).problem? = config.problem? := by
  unfold problem?
  rw [manager_expand, logging_expand, Option.any_map]
  simp only [ManagerConfig.identifier_expandIn]

theorem validate_expand (directory : Option String) (config : AppConfig) :
    (config.expand directory).validate = config.validate := by
  unfold validate
  rw [problem?_expand]

/-- What is valid is accepted; otherwise the problem is reported. -/
theorem accept_eq (directory : Option String) (config : AppConfig) :
    config.accept directory =
      match config.validate with
      | .ok () => .ok (config.expand directory)
      | .error problem => .error (.invalid problem) := by
  unfold accept
  dsimp only
  rw [validate_expand]
  cases config.validate with
  | ok checked =>
      rfl
  | error problem =>
      rfl

theorem accept_of_valid (valid : config.validate = .ok ()) (directory : Option String) :
    config.accept directory = .ok (config.expand directory) := by
  rw [accept_eq, valid]

theorem accept_of_invalid {problem : ConfigProblem} (invalid : config.validate = .error problem)
    (directory : Option String) : config.accept directory = .error (.invalid problem) := by
  rw [accept_eq, invalid]

theorem accept_eq_ok {loaded : AppConfig} (accepted : config.accept directory = .ok loaded) :
    config.validate = .ok () ∧ loaded = config.expand directory := by
  rw [accept_eq] at accepted
  cases valid : config.validate with
  | ok checked =>
      rw [valid] at accepted
      cases accepted
      exact ⟨rfl, rfl⟩
  | error problem =>
      rw [valid] at accepted
      cases accepted

end AppConfig
end AssetExchange
