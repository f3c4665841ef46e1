import SensorThresholds.Settings
import SensorThresholds.Proofs.LowerCase
import SensorThresholds.Proofs.Numerals
import SensorThresholds.Proofs.Utf8Reading

/-!
Which environments make settings, and which settings they make. Each variable is judged on its own,
and where several are refused the first one is the error.
-/

namespace SensorThresholds

namespace Environment

/-- The bytes that a variable is set to. -/
def bytes? (env : Environment) (name : String) : Option (List UInt8) :=
  (env.bindings.find? (·.1 == name)).map (·.2)

/-- What a variable counts as: the text that its bytes encode, and nothing where it is not set or
where its bytes encode none. -/
inductive CountsAs (env : Environment) (name : String) : Option String → Prop where
  | unset (absent : env.bytes? name = none) : CountsAs env name none
  | text (text : String) (bound : env.bytes? name = some (Utf8.encode text)) :
      CountsAs env name (some text)
  | noText {bytes : List UInt8} (bound : env.bytes? name = some bytes)
      (other : ∀ text, Utf8.encode text ≠ bytes) : CountsAs env name none

theorem get?_eq (env : Environment) (name : String) :
    env.get? name = (env.bytes? name).bind Utf8.read? := by
  rw [get?, bytes?, Option.bind_map]
  rfl

theorem countsAs_get? (env : Environment) (name : String) : env.CountsAs name (env.get? name) := by
  rw [get?_eq]
  cases bound : env.bytes? name with
  | none => exact .unset bound
  | some bytes =>
      rw [Option.bind_some]
      cases read : Utf8.read? bytes with
      | none =>
          refine .noText bound ?_
          intro text encoded
          rw [Utf8.read?_eq_some_iff.mpr encoded] at read
          cases read
      | some text =>
          rw [← Utf8.read?_eq_some_iff.mp read] at bound
          exact .text text bound

theorem get?_set (env : Environment) (name value : String) :
    (env.set name value).get? name = some value := by
  rw [get?_eq, bytes?, set, List.find?_cons_of_pos (by simp), Option.map_some, Option.bind_some]
  exact Utf8.read?_eq_some_iff.mpr rfl

theorem get?_set_of_ne (env : Environment) {name other : String} (value : String)
    (different : name ≠ other) : (env.set name value).get? other = env.get? other := by
  rw [get?_eq, bytes?, set, List.find?_cons_of_neg (by simpa using different), get?_eq, bytes?]

end Environment

/-- The variable that a fault is about, if it is about one. -/
def SettingsFault.setting? : SettingsFault → Option String
  | scheme _ => some "REDFISH_SCHEME"
  | timeout _ => some "REDFISH_TIMEOUT_SECS"
  | zeroTimeout => some "REDFISH_TIMEOUT_SECS"
  | verifyTls _ => some "REDFISH_VERIFY_TLS"
  | client _ => none

theorem SettingsFault.exists_message {fault : SettingsFault} {name : String}
    (about : fault.setting? = some name) :
    ∃ detail : String, fault.message = s!"Invalid {name}: {detail}" := by
  have quoted (name words value : String) :
      "Invalid " ++ name ++ ": " ++ words ++ value ++ "'" =
        "Invalid " ++ name ++ ": " ++ (words ++ value ++ "'") := by
    simp only [String.append_assoc]
  cases fault with
  | scheme lowered =>
      obtain rfl := Option.some.inj about
      have words : "Invalid REDFISH_SCHEME: expected https or http, got '" =
          "Invalid " ++ "REDFISH_SCHEME" ++ ": " ++ "expected https or http, got '" := by decide
      exact ⟨_, (congrArg (· ++ lowered ++ "'") words).trans (quoted _ _ _)⟩
  | timeout fault =>
      obtain rfl := Option.some.inj about
      have words : "Invalid REDFISH_TIMEOUT_SECS: " =
          "Invalid " ++ "REDFISH_TIMEOUT_SECS" ++ ": " := by decide
      exact ⟨fault.message, congrArg (· ++ fault.message) words⟩
  | zeroTimeout =>
      obtain rfl := Option.some.inj about
      exact ⟨"must be greater than zero", by decide⟩
  | verifyTls value =>
      obtain rfl := Option.some.inj about
      have words : "Invalid REDFISH_VERIFY_TLS: expected true/false, got '" =
          "Invalid " ++ "REDFISH_VERIFY_TLS" ++ ": " ++ "expected true/false, got '" := by decide
      exact ⟨_, (congrArg (· ++ value ++ "'") words).trans (quoted _ _ _)⟩
  | client reason => cases about

namespace Settings

def IsScheme (value : Option String) (scheme : String) : Prop :=
  match value with
  | none => scheme = "https"
  | some text => text.toLower = scheme ∧ (scheme = "http" ∨ scheme = "https")

/-- Digits after an optional plus sign, for a positive number of 64 bits. -/
def IsTimeout (value : Option String) (seconds : Nat) : Prop :=
  match value with
  | none => seconds = 30
  | some text =>
    ∃ digits, (text.toList = digits ∨ text.toList = '+' :: digits) ∧ digits ≠ [] ∧
      decimal? digits = some seconds ∧ 1 ≤ seconds ∧ seconds < 2 ^ 64

def IsVerifyTls (value : Option String) (verify : Bool) : Prop :=
  match value with
  | none => verify = false
  | some text => text ∈ if verify then ["1", "true", "yes"] else ["0", "false", "no"]

def EndsInSlash (path : String) : Prop := ∃ stem, path = stem ++ "/"

/-- The path that is given, with a slash after it unless it ends in one. -/
def IsReportBase (value : Option String) (base : String) : Prop :=
  let given := value.getD defaultReportBase
  EndsInSlash base ∧
    (EndsInSlash given ∧ base = given ∨ ¬ EndsInSlash given ∧ base = given ++ "/")

/-- The name of the first variable whose value is refused. -/
def FirstRefused (scheme timeout verify : Option String) (name : String) : Prop :=
  (¬ ∃ word, IsScheme scheme word) ∧ name = "REDFISH_SCHEME" ∨
    (∃ word, IsScheme scheme word) ∧ (¬ ∃ seconds, IsTimeout timeout seconds) ∧
        name = "REDFISH_TIMEOUT_SECS" ∨
      (∃ word, IsScheme scheme word) ∧ (∃ seconds, IsTimeout timeout seconds) ∧
        (¬ ∃ choice, IsVerifyTls verify choice) ∧ name = "REDFISH_VERIFY_TLS"

theorem le_ofDigitChars (digits : List Char) (n : Nat) : n ≤ Nat.ofDigitChars 10 digits n := by
  rw [ofDigitChars_eq_add]
  exact Nat.le_add_right_of_le (Nat.le_mul_of_pos_right n (Nat.pow_pos (by decide)))

/-- Digits are read as the number that they denote, if it has 64 bits. The numbers on the way are
smaller, so that none of them stops the reading before. -/
theorem readDigits_eq_ok_iff {digits : List Char} {n m : Nat} (small : n < 2 ^ 64) :
    readDigits n digits = .ok m ↔
      (digits.all Char.isDigit = true ∧ Nat.ofDigitChars 10 digits n = m) ∧ m < 2 ^ 64 := by
  induction digits generalizing n with
  | nil =>
      simp only [readDigits, pure, Except.pure, Except.ok.injEq, List.all_nil, true_and,
        Nat.ofDigitChars_nil]
      exact ⟨fun same => ⟨same, same ▸ small⟩, And.left⟩
  | cons c digits ih =>
      rw [readDigits, List.all_cons, Nat.ofDigitChars_cons, Nat.mul_comm 10 n]
      split
      · next digit =>
          rw [digit, Bool.true_and]
          dsimp only
          split
          · next fits => exact ih fits
          · next large =>
              refine iff_of_false nofun ?_
              rintro ⟨⟨-, rfl⟩, fits⟩
              exact large (Nat.lt_of_le_of_lt (le_ofDigitChars _ _) fits)
      · next other => simp [other]

theorem readNumeral_eq_ok_iff {text : String} {m : Nat} :
    readNumeral text = .ok m ↔
      ∃ digits, (text.toList = digits ∨ text.toList = '+' :: digits) ∧ digits ≠ [] ∧
        decimal? digits = some m ∧ m < 2 ^ 64 := by
  have read (digits : List Char) :
      readDigits 0 digits = .ok m ↔ decimal? digits = some m ∧ m < 2 ^ 64 := by
    rw [readDigits_eq_ok_iff (by decide), decimal?_eq_some_iff]
  unfold readNumeral
  generalize text.toList = cs
  split
  · refine iff_of_false nofun ?_
    rintro ⟨digits, rfl | same, ne_nil, -⟩
    · exact ne_nil rfl
    · cases same
  · refine iff_of_false nofun ?_
    rintro ⟨digits, rfl | same, ne_nil, value, -⟩
    · cases value
    · exact ne_nil (List.cons.inj same).2.symm
  · next rest bare =>
      rw [read]
      constructor
      · exact fun value => ⟨rest, .inr rfl, fun none => bare none, value⟩
      · rintro ⟨digits, rfl | same, -, value⟩
        · cases value.1
        · rwa [(List.cons.inj same).2]
  · next ne_nil _ unsigned =>
      rw [read]
      constructor
      · exact fun value => ⟨cs, .inl rfl, ne_nil, value⟩
      · rintro ⟨digits, rfl | same, -, value⟩
        · exact value
        · exact absurd same (unsigned digits)

/-- A setting is read as it has to be, and a fault is about its variable. -/
structure IsReader {α : Type} (accepted : α → Prop) (name : String)
    (read : Except SettingsFault α) : Prop where
  ok : ∀ a, read = .ok a ↔ accepted a
  error : ∀ fault, read = .error fault → fault.setting? = some name

namespace IsReader

variable {α : Type} {accepted : α → Prop} {name : String}

theorem pure {a : α} (only : ∀ b, accepted b ↔ a = b) :
    IsReader accepted name (pure a : Except SettingsFault α) where
  ok b := (Iff.of_eq (Except.ok.injEq a b)).trans (only b).symm
  error := nofun

theorem throw {fault : SettingsFault} (about : fault.setting? = some name)
    (none : ∀ a, ¬ accepted a) :
    IsReader accepted name (throw fault : Except SettingsFault α) where
  ok a := iff_of_false nofun (none a)
  error := by
    rintro _ ⟨rfl⟩
    exact about

theorem cases {read : Except SettingsFault α} (reader : IsReader accepted name read) :
    (∃ a, read = .ok a ∧ accepted a) ∨
      ∃ fault, read = .error fault ∧ fault.setting? = some name ∧ ¬ ∃ a, accepted a := by
  cases ended : read with
  | ok a => exact .inl ⟨a, rfl, (reader.ok a).mp ended⟩
  | error fault =>
      refine .inr ⟨fault, rfl, reader.error fault ended, ?_⟩
      rintro ⟨a, accepted⟩
      cases ended.symm.trans ((reader.ok a).mpr accepted)

end IsReader

theorem isReader_readScheme (env : Environment) :
    IsReader (IsScheme (env.get? "REDFISH_SCHEME")) "REDFISH_SCHEME" (readScheme env) := by
  have plain : ∀ scheme : String, scheme = "https" ∨ scheme = "http" →
      scheme.toList.all (fun c => isAscii c && c != 'k') = true := by
    rintro scheme (rfl | rfl) <;> decide
  unfold readScheme IsScheme
  cases env.get? "REDFISH_SCHEME" with
  | none =>
      have unset : lowerCase "https" = "https" := by decide +kernel
      rw [Option.getD_none, unset, if_pos (.inl rfl)]
      exact .pure fun _ => eq_comm
  | some text =>
      have lowered {scheme : String} (known : scheme = "http" ∨ scheme = "https") :
          text.toLower = scheme ↔ lowerCase text = scheme :=
        (lowerCase_eq_iff (plain scheme known.symm)).symm
      rw [Option.getD_some]
      dsimp only
      split
      · next known =>
          refine .pure fun scheme => ⟨fun accepted => (lowered accepted.2).mp accepted.1, ?_⟩
          rintro rfl
          exact ⟨(lowered known.symm).mpr rfl, known.symm⟩
      · next other =>
          refine .throw rfl ?_
          rintro scheme ⟨same, known⟩
          rw [(lowered known).mp same] at other
          exact other known.symm

theorem isReader_readTimeout (env : Environment) :
    IsReader (IsTimeout (env.get? "REDFISH_TIMEOUT_SECS")) "REDFISH_TIMEOUT_SECS"
      (readTimeout env) := by
  unfold readTimeout
  cases env.get? "REDFISH_TIMEOUT_SECS" with
  | none => exact .pure fun _ => eq_comm
  | some text =>
      have accepted (seconds : Nat) :
          IsTimeout (some text) seconds ↔ readNumeral text = .ok seconds ∧ 1 ≤ seconds := by
        rw [readNumeral_eq_ok_iff]
        unfold IsTimeout
        constructor
        · rintro ⟨digits, shape, ne_nil, value, least, most⟩
          exact ⟨⟨digits, shape, ne_nil, value, most⟩, least⟩
        · rintro ⟨⟨digits, shape, ne_nil, value, most⟩, least⟩
          exact ⟨digits, shape, ne_nil, value, least, most⟩
      dsimp only
      split
      · next zero =>
          refine .throw rfl ?_
          intro seconds timeout
          obtain ⟨read, least⟩ := (accepted seconds).mp timeout
          cases zero.symm.trans read
          cases least
      · next n positive read =>
          refine .pure fun seconds => ?_
          rw [accepted, read, Except.ok.injEq]
          refine ⟨And.left, ?_⟩
          rintro rfl
          exact ⟨rfl, Nat.pos_of_ne_zero positive⟩
      · next fault failed =>
          refine .throw rfl ?_
          intro seconds timeout
          cases failed.symm.trans ((accepted seconds).mp timeout).1

theorem isReader_readVerifyTls (env : Environment) :
    IsReader (IsVerifyTls (env.get? "REDFISH_VERIFY_TLS")) "REDFISH_VERIFY_TLS"
      (readVerifyTls env) := by
  unfold readVerifyTls IsVerifyTls
  cases env.get? "REDFISH_VERIFY_TLS" with
  | none => exact .pure fun _ => eq_comm
  | some text =>
      have apart : ∀ word ∈ ["1", "true", "yes"], word ∉ ["0", "false", "no"] := by decide
      dsimp only
      split
      · next on =>
          refine .pure ?_
          rintro (_ | _)
          · exact iff_of_false (apart text on) nofun
          · exact iff_of_true on rfl
      · next notOn =>
          split
          · next off =>
              refine .pure ?_
              rintro (_ | _)
              · exact iff_of_true off rfl
              · exact iff_of_false notOn nofun
          · next notOff =>
              refine .throw rfl ?_
              rintro (_ | _)
              · exact notOff
              · exact notOn

theorem endsInSlash_iff (path : String) : EndsInSlash path ↔ path.toList.getLast? = some '/' := by
  rw [List.getLast?_eq_some_iff]
  constructor
  · rintro ⟨stem, rfl⟩
    exact ⟨stem.toList, String.toList_append⟩
  · rintro ⟨stem, parts⟩
    refine ⟨.ofList stem, String.toList_inj.mp ?_⟩
    rw [parts, String.toList_append, String.toList_ofList]
    rfl

theorem isReportBase_withSlash (value : Option String) :
    IsReportBase value (withSlash (value.getD defaultReportBase)) := by
  unfold withSlash
  split
  · next slash =>
      rw [← endsInSlash_iff] at slash
      exact ⟨slash, .inl ⟨slash, rfl⟩⟩
  · next bare =>
      rw [← endsInSlash_iff] at bare
      exact ⟨⟨_, rfl⟩, .inr ⟨bare, rfl⟩⟩

theorem withSlash_of_endsInSlash {path : String} (slash : EndsInSlash path) :
    withSlash path = path :=
  if_pos ((endsInSlash_iff path).mp slash)

theorem ofEnvironment_eq_ok {env : Environment} {scheme : String} {timeout : Nat} {verify : Bool}
    (schemeRead : readScheme env = .ok scheme) (timeoutRead : readTimeout env = .ok timeout)
    (verifyRead : readVerifyTls env = .ok verify) :
    ofEnvironment env = .ok ⟨scheme, timeout, verify,
      withSlash ((env.get? "REDFISH_REPORT_BASE").getD defaultReportBase)⟩ := by
  rw [ofEnvironment, schemeRead, timeoutRead, verifyRead]
  rfl

/-- Another path for the collection changes nothing else. -/
theorem ofEnvironment_set_reportBase {env : Environment} {scheme : String} {timeout : Nat}
    {verify : Bool} (schemeRead : readScheme env = .ok scheme)
    (timeoutRead : readTimeout env = .ok timeout) (verifyRead : readVerifyTls env = .ok verify)
    {base : String} (slash : EndsInSlash base) :
    ofEnvironment (env.set "REDFISH_REPORT_BASE" base) = .ok ⟨scheme, timeout, verify, base⟩ := by
  have kept {name : String} (other : "REDFISH_REPORT_BASE" ≠ name) :=
    env.get?_set_of_ne base other
  rw [readScheme, ← kept (by decide), ← readScheme] at schemeRead
  rw [readTimeout, ← kept (by decide), ← readTimeout] at timeoutRead
  rw [readVerifyTls, ← kept (by decide), ← readVerifyTls] at verifyRead
  rw [ofEnvironment_eq_ok schemeRead timeoutRead verifyRead, env.get?_set, Option.getD_some,
    withSlash_of_endsInSlash slash]

/-- Which environments make settings, and which. The settings stay when the path of the collection
that they have is given for it, and what is refused is said of the first variable that it is true
of. -/
theorem ofEnvironment_acceptance (env : Environment) :
    ∃ scheme timeout verify base,
      (env.CountsAs "REDFISH_SCHEME" scheme ∧ env.CountsAs "REDFISH_TIMEOUT_SECS" timeout ∧
        env.CountsAs "REDFISH_VERIFY_TLS" verify ∧ env.CountsAs "REDFISH_REPORT_BASE" base) ∧
      ((∃ settings, ofEnvironment env = .ok settings) ↔
        (∃ word, IsScheme scheme word) ∧ (∃ seconds, IsTimeout timeout seconds) ∧
          ∃ choice, IsVerifyTls verify choice) ∧
      match ofEnvironment env with
      | .ok settings =>
          IsScheme scheme settings.scheme ∧ IsTimeout timeout settings.timeoutSeconds ∧
            IsVerifyTls verify settings.verifyTls ∧ IsReportBase base settings.reportBase ∧
            ofEnvironment (env.set "REDFISH_REPORT_BASE" settings.reportBase) = .ok settings
      | .error fault =>
          ∃ name detail : String, fault.message = s!"Invalid {name}: {detail}" ∧
            FirstRefused scheme timeout verify name := by
  refine ⟨_, _, _, _, ⟨env.countsAs_get? _, env.countsAs_get? _, env.countsAs_get? _,
    env.countsAs_get? _⟩, ?_⟩
  rcases (isReader_readScheme env).cases with
    ⟨word, scheme, isScheme⟩ | ⟨fault, scheme, about, none⟩
  · rcases (isReader_readTimeout env).cases with
      ⟨seconds, timeout, isTimeout⟩ | ⟨fault, timeout, about, none⟩
    · rcases (isReader_readVerifyTls env).cases with
        ⟨choice, verify, isVerifyTls⟩ | ⟨fault, verify, about, none⟩
      · have base := isReportBase_withSlash (env.get? "REDFISH_REPORT_BASE")
        have again := ofEnvironment_set_reportBase scheme timeout verify base.1
        rw [ofEnvironment_eq_ok scheme timeout verify]
        exact ⟨iff_of_true ⟨_, rfl⟩ ⟨⟨_, isScheme⟩, ⟨_, isTimeout⟩, _, isVerifyTls⟩, isScheme,
          isTimeout, isVerifyTls, base, again⟩
      · have failed : ofEnvironment env = .error fault := by
          rw [ofEnvironment, scheme, timeout, verify]
          rfl
        obtain ⟨detail, message⟩ := SettingsFault.exists_message about
        rw [failed]
        exact ⟨iff_of_false nofun fun accepted => none accepted.2.2, _, detail, message,
          .inr (.inr ⟨⟨_, isScheme⟩, ⟨_, isTimeout⟩, none, rfl⟩)⟩
    · have failed : ofEnvironment env = .error fault := by
        rw [ofEnvironment, scheme, timeout]
        rfl
      obtain ⟨detail, message⟩ := SettingsFault.exists_message about
      rw [failed]
      exact ⟨iff_of_false nofun fun accepted => none accepted.2.1, _, detail, message,
        .inr (.inl ⟨⟨_, isScheme⟩, none, rfl⟩)⟩
  · have failed : ofEnvironment env = .error fault := by
      rw [ofEnvironment, scheme]
      rfl
    obtain ⟨detail, message⟩ := SettingsFault.exists_message about
    rw [failed]
    exact ⟨iff_of_false nofun fun accepted => none accepted.1, _, detail, message,
      .inl ⟨none, rfl⟩⟩

end Settings
end SensorThresholds
