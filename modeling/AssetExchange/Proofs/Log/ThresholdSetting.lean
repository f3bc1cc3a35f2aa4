import AssetExchange.Log.FilterStack
import AssetExchange.Proofs.Text.Numerals
import AssetExchange.Proofs.Text.Trimming

/-!
# Thresholds from a setting

A setting stands for a number if it is a decimal numeral of it, with blanks allowed around
the numeral (`StandsFor`).  A setting for the number of a severity gives a new filter that
threshold, and nothing is said.  With any other setting the filter has the default
threshold, and the layers behind it are given one warning that quotes the setting as it is;
their own thresholds alone decide whether it is recorded (`pushFromSetting_law`).
-/

namespace AssetExchange

namespace Text

theorem isBlank_of_mem_spell {digits : List (Fin 10)} {character : Char}
    (member : character ∈ spell digits) : isBlank character = false := by
  obtain ⟨digit, _, rfl⟩ := List.mem_map.1 member
  have each : ∀ digit : Fin 10, isBlank (Nat.digitChar digit) = false := by
    decide
  exact each digit

/-- A numeral neither begins nor ends with a blank. -/
theorem trimmed_sign_spell {sign : List Char} (optional : sign = [] ∨ sign = ['+'])
    (digits : List (Fin 10)) : Trimmed (sign ++ spell digits) := by
  apply trimmed_of_forall
  intro character member
  rcases List.mem_append.1 member with inSign | inDigits
  · rcases optional with rfl | rfl
    · cases inSign
    · rw [List.mem_singleton.1 inSign]
      decide
  · exact isBlank_of_mem_spell inDigits

end Text

open Text

/-- A setting is a numeral of a number: blanks, one optional plus sign, one or more decimal
digits with any number of zeros in front, and blanks. -/
def StandsFor (setting : String) (number : Nat) : Prop :=
  ∃ before sign digits after, Blanks before ∧ Blanks after ∧
    (sign = [] ∨ sign = ['+']) ∧ digits ≠ [] ∧
    setting.toList = before ++ (sign ++ spell digits) ++ after ∧ numberOf digits = number

theorem unsigned?_trimBlanks_eq_some_iff (bound : Nat) (setting : String) (number : Nat) :
    unsigned? bound (trimBlanks setting.toList) = some number ↔
      StandsFor setting number ∧ number < bound := by
  rw [unsigned?_eq_some_iff_spell]
  constructor
  · rintro ⟨sign, digits, optional, nonempty, spelled, value, fits⟩
    obtain ⟨_, before, after, blanks, others, split⟩ := trimBlanks_eq_iff.1 spelled
    exact ⟨⟨before, sign, digits, after, blanks, others, optional, nonempty, split, value⟩,
      fits⟩
  · rintro ⟨⟨before, sign, digits, after, blanks, others, optional, nonempty, split, value⟩,
      fits⟩
    have spelled : trimBlanks setting.toList = sign ++ spell digits :=
      trimBlanks_eq_iff.2
        ⟨trimmed_sign_spell optional digits, before, after, blanks, others, split⟩
    exact ⟨sign, digits, optional, nonempty, spelled, value, fits⟩

namespace Severity

theorem level_le (severity : Severity) : severity.level ≤ 6 := by
  cases severity <;> decide

theorem exists_level_eq {number : Nat} (among : number ≤ 6) :
    ∃ severity : Severity, severity.level = number := by
  have found : ∀ number ≤ 6, (ofLevel? number).isSome = true := by
    decide
  obtain ⟨severity, same⟩ := Option.isSome_iff_exists.1 (found number among)
  exact ⟨severity, (ofLevel?_eq_some_iff number severity).1 same⟩

end Severity

namespace FilterStack

/-! ## Reading a setting -/

theorem thresholdOfSetting?_eq_some_iff (setting : String) (severity : Severity) :
    thresholdOfSetting? setting = some severity ↔ StandsFor setting severity.level := by
  rw [thresholdOfSetting?, Option.bind_eq_some_iff]
  constructor
  · rintro ⟨number, read, found⟩
    rw [(Severity.ofLevel?_eq_some_iff number severity).1 found]
    exact ((unsigned?_trimBlanks_eq_some_iff _ _ _).1 read).1
  · intro standsFor
    have fits : severity.level < 256 := Nat.lt_of_le_of_lt severity.level_le (by decide)
    exact ⟨severity.level, (unsigned?_trimBlanks_eq_some_iff _ _ _).2 ⟨standsFor, fits⟩,
      Severity.ofLevel?_level severity⟩

theorem thresholdOfSetting?_eq_none_iff (setting : String) :
    thresholdOfSetting? setting = none ↔ ∀ number ≤ 6, ¬ StandsFor setting number := by
  rw [Option.eq_none_iff_forall_ne_some]
  constructor
  · intro unread number among standsFor
    obtain ⟨severity, rfl⟩ := Severity.exists_level_eq among
    exact unread severity ((thresholdOfSetting?_eq_some_iff setting severity).2 standsFor)
  · intro none severity read
    exact none severity.level severity.level_le
      ((thresholdOfSetting?_eq_some_iff setting severity).1 read)

/-! ## The new filter -/

theorem pushFromSetting_of_some {setting : String} {threshold : Severity}
    (read : thresholdOfSetting? setting = some threshold) (stack : FilterStack) :
    stack.pushFromSetting (some setting) = stack.push threshold := by
  rw [pushFromSetting, read]

theorem pushFromSetting_of_none {setting : String} (read : thresholdOfSetting? setting = none)
    (stack : FilterStack) :
    stack.pushFromSetting (some setting) =
      (stack.log .warning (settingWarning setting)).push .warning := by
  rw [pushFromSetting, read]
  rfl

theorem entries_push_log (stack : FilterStack) (severity threshold : Severity)
    (text : String) :
    ((stack.log severity text).push threshold).entries =
      stack.entries ++ if stack.thresholds.all severity.passes then [⟨severity, text⟩] else [] :=
  stack.entries_logAt 0 severity text

/-- What is recorded tells a filter that was made with a warning from one made without. -/
theorem push_log_ne_push (stack : FilterStack) (severity threshold other : Severity)
    (text : String) (passes : stack.thresholds.all severity.passes = true) :
    (stack.log severity text).push threshold ≠ stack.push other := by
  intro same
  have recorded := congrArg entries same
  rw [entries_push_log, if_pos passes] at recorded
  exact absurd recorded (List.append_right_eq_self.not.2 (List.cons_ne_nil _ _))

/-- What a setting does to a new filter and to the layers behind it. -/
structure SettingLaw (setting : String) : Prop where
  /-- The filter has the threshold that the setting stands for, and nothing is logged. -/
  level_iff : ∀ severity : Severity, StandsFor setting severity.level ↔
    ∀ stack : FilterStack, stack.pushFromSetting (some setting) = stack.push severity
  /-- Otherwise it has the default threshold, and the layers behind it are given one
  warning, which quotes the setting with its blanks. -/
  warned_iff : (∀ number ≤ 6, ¬ StandsFor setting number) ↔
    ∀ stack : FilterStack, stack.pushFromSetting (some setting) =
      (stack.log .warning ("ASSETIO_LOGGING_SEVERITY has an invalid value '" ++ setting ++
        "': must be an integer from 0 to 6")).push .warning
  /-- The thresholds behind the new filter decide whether the warning is recorded. -/
  recorded : (∀ number ≤ 6, ¬ StandsFor setting number) → ∀ stack : FilterStack,
    (stack.pushFromSetting (some setting)).entries =
      stack.entries ++
        if ∀ threshold ∈ stack.thresholds, threshold.level ≤ Severity.warning.level then
          [⟨.warning, "ASSETIO_LOGGING_SEVERITY has an invalid value '" ++ setting ++
            "': must be an integer from 0 to 6"⟩]
        else []

theorem settingWarning_eq (setting : String) :
    settingWarning setting = "ASSETIO_LOGGING_SEVERITY has an invalid value '" ++ setting ++
      "': must be an integer from 0 to 6" := rfl

theorem settingLaw (setting : String) : SettingLaw setting := by
  constructor
  case level_iff =>
    intro severity
    rw [← thresholdOfSetting?_eq_some_iff]
    constructor
    · exact pushFromSetting_of_some
    · intro pushed
      cases read : thresholdOfSetting? setting with
      | none =>
          -- In front of a bare recorder the warning would show.
          have warned := pushed recorder
          rw [pushFromSetting_of_none read] at warned
          exact absurd warned (push_log_ne_push recorder .warning .warning severity _ rfl)
      | some threshold =>
          have same := pushed recorder
          rw [pushFromSetting_of_some read] at same
          have thresholds : [threshold] = [severity] := congrArg thresholds same
          rw [List.singleton_inj.1 thresholds]
  case warned_iff =>
    rw [← thresholdOfSetting?_eq_none_iff, ← settingWarning_eq]
    constructor
    · exact pushFromSetting_of_none
    · intro warned
      cases read : thresholdOfSetting? setting with
      | none =>
          rfl
      | some threshold =>
          have pushed := warned recorder
          rw [pushFromSetting_of_some read] at pushed
          exact absurd pushed.symm (push_log_ne_push recorder .warning .warning threshold _ rfl)
  case recorded =>
    intro invalid stack
    rw [pushFromSetting_of_none ((thresholdOfSetting?_eq_none_iff setting).2 invalid),
      entries_push_log, settingWarning_eq]
    simp only [List.all_eq_true, Severity.passes, decide_eq_true_eq]

/-- A new filter takes its threshold from a setting exactly if the setting is a numeral for
the number of a severity, from 0 to 6, and then nothing is logged.  Every other text leaves
the default, `warning`, and the layers behind the new filter are given one warning, whatever
the new filter would let through.  Without a setting the default applies and nothing is
logged. -/
theorem pushFromSetting_law :
    (∀ stack : FilterStack, stack.pushFromSetting none = stack.push .warning) ∧
      ∀ setting : String, SettingLaw setting :=
  ⟨fun _ => rfl, settingLaw⟩

example : recorder.pushFromSetting (some "\u2003+006\n") = recorder.push .critical := by
  decide

/-- A number that has the last eight bits of six is no six. -/
example : (recorder.pushFromSetting (some "262")).threshold? = some .warning := by
  decide

end FilterStack
end AssetExchange
