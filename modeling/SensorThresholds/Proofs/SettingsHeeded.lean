import SensorThresholds.Proofs.SettingsAccepted

/-!
Whether each variable that is set is heeded. The text of a variable makes its setting, or is refused.
Bytes that are no text are neither: they are passed over as if the variable were not set, so that
exactly the variables set to texts are heeded.
-/

namespace SensorThresholds

/-- The variables that the settings come from. -/
inductive Variable where
  | scheme
  | timeout
  | verifyTls
  | reportBase
  deriving DecidableEq, Repr

namespace Variable

def name : Variable → String
  | scheme => "REDFISH_SCHEME"
  | timeout => "REDFISH_TIMEOUT_SECS"
  | verifyTls => "REDFISH_VERIFY_TLS"
  | reportBase => "REDFISH_REPORT_BASE"

theorem name_injective : ∀ v w : Variable, v.name = w.name → v = w := by
  rintro (_ | _ | _ | _) (_ | _ | _ | _) <;> decide

/-- The setting is the one that comes of the value of its variable, or of none. -/
def Makes (v : Variable) (value : Option String) (settings : Settings) : Prop :=
  match v with
  | scheme => Settings.IsScheme value settings.scheme
  | timeout => Settings.IsTimeout value settings.timeoutSeconds
  | verifyTls => Settings.IsVerifyTls value settings.verifyTls
  | reportBase => Settings.IsReportBase value settings.reportBase

/-- The bytes are a text that makes the setting. -/
def Heeds (v : Variable) (bytes : List UInt8) (settings : Settings) : Prop :=
  ∃ text, Utf8.encode text = bytes ∧ v.Makes (some text) settings

theorem exists_makes_none (v : Variable) : ∃ settings, v.Makes none settings := by
  refine ⟨⟨"https", 30, false, Settings.defaultReportBase⟩, ?_⟩
  cases v with
  | reportBase =>
      have slash : Settings.EndsInSlash Settings.defaultReportBase :=
        (Settings.endsInSlash_iff _).mpr (by decide)
      exact ⟨slash, .inl ⟨slash, rfl⟩⟩
  | _ => rfl

end Variable

namespace Environment

variable {env : Environment} {name other : String} {bytes : List UInt8}

theorem get?_eq_some_iff {text : String} :
    env.get? name = some text ↔ env.bytes? name = some (Utf8.encode text) := by
  rw [get?_eq, Option.bind_eq_some_iff]
  constructor
  · rintro ⟨bytes, bound, read⟩
    rw [bound, Utf8.read?_eq_some_iff.mp read]
  · intro bound
    exact ⟨_, bound, Utf8.read?_eq_some_iff.mpr rfl⟩

theorem get?_of_noText (bound : env.bytes? name = some bytes)
    (noText : ¬ ∃ text, Utf8.encode text = bytes) : env.get? name = none := by
  rw [Option.eq_none_iff_forall_ne_some]
  intro text read
  rw [get?_eq_some_iff, bound] at read
  exact noText ⟨text, (Option.some.inj read).symm⟩

/-- The environment in which the variable is not set. -/
def unset (env : Environment) (name : String) : Environment :=
  ⟨env.bindings.filter (·.1 != name)⟩

theorem get?_unset (env : Environment) (name : String) : (env.unset name).get? name = none := by
  have absent : (env.bindings.filter (·.1 != name)).find? (·.1 == name) = none := by
    simp
  rw [get?_eq, bytes?, unset, absent]
  rfl

theorem get?_unset_of_ne (different : other ≠ name) :
    (env.unset name).get? other = env.get? other := by
  have same : (env.bindings.filter (·.1 != name)).find? (·.1 == other) =
      env.bindings.find? (·.1 == other) := by
    rw [List.find?_filter]
    congr 1
    funext binding
    by_cases found : binding.1 = other
    · simp [found, different]
    · simp [found]
  rw [get?_eq, bytes?, unset, same, get?_eq, bytes?]

end Environment

namespace Settings

variable {env other : Environment} {settings : Settings}

/-- Only the texts of the four variables are looked at. -/
theorem ofEnvironment_congr (same : ∀ v : Variable, env.get? v.name = other.get? v.name) :
    ofEnvironment env = ofEnvironment other := by
  have scheme : env.get? "REDFISH_SCHEME" = _ := same .scheme
  have timeout : env.get? "REDFISH_TIMEOUT_SECS" = _ := same .timeout
  have verifyTls : env.get? "REDFISH_VERIFY_TLS" = _ := same .verifyTls
  have reportBase : env.get? "REDFISH_REPORT_BASE" = _ := same .reportBase
  rw [ofEnvironment, readScheme, readTimeout, readVerifyTls, scheme, timeout, verifyTls, reportBase]
  rfl

/-- Either every variable makes its setting, or there is one that makes none. -/
theorem ofEnvironment_cases (env : Environment) :
    (∃ settings, ofEnvironment env = .ok settings ∧
        ∀ v : Variable, v.Makes (env.get? v.name) settings) ∨
      ∃ fault, ofEnvironment env = .error fault ∧
        ∃ v : Variable, ¬ ∃ settings, v.Makes (env.get? v.name) settings := by
  rcases (isReader_readScheme env).cases with ⟨word, scheme, isScheme⟩ | ⟨fault, failed, -, none⟩
  · rcases (isReader_readTimeout env).cases with
      ⟨seconds, timeout, isTimeout⟩ | ⟨fault, failed, -, none⟩
    · rcases (isReader_readVerifyTls env).cases with
        ⟨choice, verify, isVerifyTls⟩ | ⟨fault, failed, -, none⟩
      · refine .inl ⟨_, ofEnvironment_eq_ok scheme timeout verify, ?_⟩
        rintro (_ | _ | _ | _)
        · exact isScheme
        · exact isTimeout
        · exact isVerifyTls
        · exact isReportBase_withSlash _
      · refine .inr ⟨fault, ?_, .verifyTls, ?_⟩
        · rw [ofEnvironment, scheme, timeout, failed]
          rfl
        · rintro ⟨settings, made⟩
          exact none ⟨_, made⟩
    · refine .inr ⟨fault, ?_, .timeout, ?_⟩
      · rw [ofEnvironment, scheme, failed]
        rfl
      · rintro ⟨settings, made⟩
        exact none ⟨_, made⟩
  · refine .inr ⟨fault, ?_, .scheme, ?_⟩
    · rw [ofEnvironment, failed]
      rfl
    · rintro ⟨settings, made⟩
      exact none ⟨_, made⟩

theorem makes_of_ok (made : ofEnvironment env = .ok settings) (v : Variable) :
    v.Makes (env.get? v.name) settings := by
  rcases ofEnvironment_cases env with ⟨_, accepted, makes⟩ | ⟨_, refused, -⟩
  · obtain rfl := Except.ok.inj (made.symm.trans accepted)
    exact makes v
  · cases made.symm.trans refused

/-- A variable makes a setting exactly if its bytes are a text. The environment is refused exactly if
there is a text among them that makes none, and bytes that are no text count as not set at all. -/
theorem heeded_iff_text (env : Environment) :
    (∀ settings, ofEnvironment env = .ok settings →
        ∀ (v : Variable) (bytes : List UInt8), env.bytes? v.name = some bytes →
          (v.Heeds bytes settings ↔ ∃ text, Utf8.encode text = bytes)) ∧
      ((∃ fault, ofEnvironment env = .error fault) ↔
        ∃ (v : Variable) (text : String), env.bytes? v.name = some (Utf8.encode text) ∧
          ¬ ∃ settings, v.Makes (some text) settings) ∧
      ∀ (v : Variable) (bytes : List UInt8), env.bytes? v.name = some bytes →
        (¬ ∃ text, Utf8.encode text = bytes) →
          ofEnvironment (env.unset v.name) = ofEnvironment env := by
  refine ⟨?_, ⟨?_, ?_⟩, ?_⟩
  · intro settings made v bytes bound
    constructor
    · rintro ⟨text, encoded, -⟩
      exact ⟨text, encoded⟩
    · rintro ⟨text, rfl⟩
      exact ⟨text, rfl, Environment.get?_eq_some_iff.mpr bound ▸ makes_of_ok made v⟩
  · rintro ⟨fault, failed⟩
    rcases ofEnvironment_cases env with ⟨_, accepted, -⟩ | ⟨_, -, v, none⟩
    · cases failed.symm.trans accepted
    · cases value : env.get? v.name with
      | none => exact absurd (value ▸ v.exists_makes_none) none
      | some text => exact ⟨v, text, Environment.get?_eq_some_iff.mp value, value ▸ none⟩
  · rintro ⟨v, text, bound, none⟩
    cases ended : ofEnvironment env with
    | error fault => exact ⟨fault, rfl⟩
    | ok settings =>
        have makes := makes_of_ok ended v
        rw [Environment.get?_eq_some_iff.mpr bound] at makes
        exact absurd ⟨settings, makes⟩ none
  · intro v bytes bound noText
    apply ofEnvironment_congr
    intro w
    by_cases same : w = v
    · rw [same, env.get?_unset, Environment.get?_of_noText bound noText]
    · exact Environment.get?_unset_of_ne fun names => same (Variable.name_injective w v names)

/-- A byte too many in the request to check certificates, and they are not checked. -/
theorem damaged_value_ignored :
    let bytes : List UInt8 := Utf8.encode "true" ++ [0xFF]
    let damaged : Environment := ⟨[("REDFISH_VERIFY_TLS", bytes)]⟩
    let intact : Environment := ⟨[("REDFISH_VERIFY_TLS", Utf8.encode "true")]⟩
    damaged.bytes? Variable.verifyTls.name = some bytes ∧
      (¬ ∃ settings, Variable.verifyTls.Heeds bytes settings) ∧
      ofEnvironment damaged = .ok ⟨"https", 30, false, defaultReportBase⟩ ∧
      ofEnvironment intact = .ok ⟨"https", 30, true, defaultReportBase⟩ := by
  intro bytes damaged intact
  have unread : Utf8.read? bytes = none := by decide +kernel
  refine ⟨rfl, ?_, ?_, ?_⟩
  · rintro ⟨settings, text, encoded, -⟩
    rw [Utf8.read?_eq_some_iff.mpr encoded] at unread
    cases unread
  · decide +kernel
  · decide +kernel

end Settings
end SensorThresholds
