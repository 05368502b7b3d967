import SqlxSqlserver.Driver.Options
import SqlxSqlserver.Foundation.Fallible

/-! What a URL says about a connection. Its query is a list of settings, the last of which holds, over
the parts in front of it and the defaults; what is wrong with it first is its error. -/

namespace SqlxSqlserver.Driver
open Foundation Protocol

inductive UrlField where
  | instanceName | encrypt | sslRootCert | trustServerCertificate | hostnameInCertificate
  | requestedPacketSize | clientProgramVersion | clientPid
  | hostname | appName | serverName | clientInterfaceName | language
  deriving DecidableEq, Repr

namespace UrlField

def Value : UrlField → Type
  | .instanceName | .sslRootCert | .hostnameInCertificate => Option String
  | .encrypt => Encrypt
  | .trustServerCertificate => Bool
  | .requestedPacketSize | .clientProgramVersion | .clientPid => UInt32
  | .hostname | .appName | .serverName | .clientInterfaceName | .language => String

def get : (field : UrlField) → MssqlConnectOptions → field.Value
  | .instanceName, options => options.instanceName
  | .encrypt, options => options.encrypt
  | .sslRootCert, options => options.sslRootCert
  | .trustServerCertificate, options => options.trustServerCertificate
  | .hostnameInCertificate, options => options.hostnameInCertificate
  | .requestedPacketSize, options => options.requestedPacketSize
  | .clientProgramVersion, options => options.clientProgramVersion
  | .clientPid, options => options.clientPid
  | .hostname, options => options.hostname
  | .appName, options => options.appName
  | .serverName, options => options.serverName
  | .clientInterfaceName, options => options.clientInterfaceName
  | .language, options => options.language

def set (options : MssqlConnectOptions) : (field : UrlField) → field.Value → MssqlConnectOptions
  | .instanceName, value => { options with instanceName := value }
  | .encrypt, value => { options with encrypt := value }
  | .sslRootCert, value => { options with sslRootCert := value }
  | .trustServerCertificate, value => { options with trustServerCertificate := value }
  | .hostnameInCertificate, value => { options with hostnameInCertificate := value }
  | .requestedPacketSize, value => { options with requestedPacketSize := value }
  | .clientProgramVersion, value => { options with clientProgramVersion := value }
  | .clientPid, value => { options with clientPid := value }
  | .hostname, value => { options with hostname := value }
  | .appName, value => { options with appName := value }
  | .serverName, value => { options with serverName := value }
  | .clientInterfaceName, value => { options with clientInterfaceName := value }
  | .language, value => { options with language := value }

theorem get_set (options : MssqlConnectOptions) (field : UrlField) (value : field.Value) :
    field.get (field.set options value) = value := by
  cases field <;> rfl

theorem get_set_of_ne (options : MssqlConnectOptions) {field other : UrlField} (differs : other ≠ field)
    (value : other.Value) : field.get (other.set options value) = field.get options := by
  cases other <;> cases field <;> first | rfl | exact absurd rfl differs

end UrlField

/-- What one query pair asks for. -/
structure Setting where
  field : UrlField
  value : field.Value

namespace Setting

def apply (options : MssqlConnectOptions) (self : Setting) : MssqlConnectOptions :=
  self.field.set options self.value

def saying (field : UrlField) (self : Setting) : Option field.Value :=
  if same : self.field = field then some (same ▸ self.value) else none

theorem get_apply (field : UrlField) (options : MssqlConnectOptions) (self : Setting) :
    field.get (self.apply options) = (self.saying field).getD (field.get options) := by
  obtain ⟨other, value⟩ := self
  by_cases same : other = field
  · subst same
    simp [apply, saying, UrlField.get_set]
  · simp [apply, saying, same, UrlField.get_set_of_ne options same]

end Setting

section settings
variable {ε υ : Type}

def checkedPacketSize (size : UInt32) : Except (MssqlInvalidOption ε υ) UInt32 :=
  if size.toNat < 512 then
    .error (.invalidValue "packet_size" (toString size.toNat)
      "packet_size must be at least 512 bytes")
  else .ok size

def settingOf (pair : String × String) : Except (MssqlInvalidOption ε υ) Setting :=
  match pair.1 with
  | "hostname" => .ok ⟨.hostname, pair.2⟩
  | "app_name" => .ok ⟨.appName, pair.2⟩
  | "server_name" => .ok ⟨.serverName, pair.2⟩
  | "client_interface_name" => .ok ⟨.clientInterfaceName, pair.2⟩
  | "language" => .ok ⟨.language, pair.2⟩
  | "instance" => .ok ⟨.instanceName, some pair.2⟩
  | "encrypt" => (orInvalid "encrypt" pair.2
      "expected strict, mandatory, optional, not_supported, true, false, yes, or no"
      (parseEncrypt pair.2)).map (⟨.encrypt, ·⟩)
  | "sslrootcert" | "ssl-root-cert" | "ssl-ca" => .ok ⟨.sslRootCert, some pair.2⟩
  | "trust_server_certificate" => (orInvalid pair.1 pair.2 "expected true, false, yes, or no"
      (parseBool pair.2)).map (⟨.trustServerCertificate, ·⟩)
  | "hostname_in_certificate" => .ok ⟨.hostnameInCertificate, some pair.2⟩
  | "packet_size" =>
    (parseU32Option "packet_size" pair.2 >>= checkedPacketSize).map (⟨.requestedPacketSize, ·⟩)
  | "client_program_version" => (parseU32Option pair.1 pair.2).map (⟨.clientProgramVersion, ·⟩)
  | "client_pid" => (parseU32Option pair.1 pair.2).map (⟨.clientPid, ·⟩)
  | _ => .error (.unknownOption pair.1)

theorem setOption_eq (options : MssqlConnectOptions) (pair : String × String) :
    (setOption options pair : Except (MssqlInvalidOption ε υ) _) =
      (settingOf pair).map (Setting.apply options) := by
  obtain ⟨key, value⟩ := pair
  unfold setOption settingOf
  dsimp only
  split
  case h_2 => cases parseEncrypt value <;> rfl
  case h_6 => cases parseBool value <;> rfl
  case h_8 =>
    simp only [parseU32Option]
    cases parseU32 value with
    | none => rfl
    | some size =>
      change options.setRequestedPacketSize size = Except.map (Setting.apply options)
        (Except.map (fun size => ⟨.requestedPacketSize, size⟩) (checkedPacketSize size))
      rw [MssqlConnectOptions.setRequestedPacketSize, checkedPacketSize]
      split_ifs <;> rfl
  case h_9 =>
    simp only [parseU32Option]
    cases parseU32 value <;> rfl
  case h_10 =>
    simp only [parseU32Option]
    cases parseU32 value <;> rfl
  all_goals try rfl
  -- A key that is none of the options.
  split <;> first | rfl | contradiction

theorem setOptions_eq (options : MssqlConnectOptions) (pairs : List (String × String)) :
    (pairs.foldlM setOption options : Except (MssqlInvalidOption ε υ) _) =
      pairs.foldlM (fun options pair => (settingOf pair).map (Setting.apply options)) options := by
  congr 1
  funext options pair
  exact setOption_eq options pair

end settings

section applied

def MssqlConnectOptions.front (self : MssqlConnectOptions) :
    String × Option UInt16 × String × Option String × String :=
  (self.host, self.port, self.username, self.password, self.database)

theorem front_apply (options : MssqlConnectOptions) (setting : Setting) :
    (setting.apply options).front = options.front := by
  obtain ⟨field, value⟩ := setting
  cases field <;> rfl

theorem front_foldl (settings : List Setting) (options : MssqlConnectOptions) :
    (settings.foldl Setting.apply options).front = options.front := by
  induction settings generalizing options with
  | nil => rfl
  | cons setting settings ih => exact (ih _).trans (front_apply options setting)

theorem get_foldl (field : UrlField) (settings : List Setting) (options : MssqlConnectOptions) :
    field.get (settings.foldl Setting.apply options) =
      lastOr (Setting.saying field) settings (field.get options) :=
  foldl_settings (Setting.get_apply field) settings options

theorem options_ext {one two : MssqlConnectOptions} (front : one.front = two.front)
    (fields : ∀ field : UrlField, field.get one = field.get two) : one = two := by
  simp only [MssqlConnectOptions.front, Prod.mk.injEq] at front
  obtain ⟨host, port, username, password, database⟩ := front
  have instanceName := fields .instanceName
  have encrypt := fields .encrypt
  have sslRootCert := fields .sslRootCert
  have trusts := fields .trustServerCertificate
  have certificate := fields .hostnameInCertificate
  have size := fields .requestedPacketSize
  have version := fields .clientProgramVersion
  have pid := fields .clientPid
  have hostname := fields .hostname
  have appName := fields .appName
  have serverName := fields .serverName
  have interfaceName := fields .clientInterfaceName
  have language := fields .language
  cases one
  cases two
  simp only [UrlField.get] at *
  simp only [*]

end applied

section url
variable {ε υ : Type} (library : UrlLibrary ε υ)

def Url.database (self : Url) : String :=
  String.ofList (self.path.toList.dropWhile fun char => char == '/')

def part (component : String) : List String := if component.isEmpty then [] else [component]

def Url.components (self : Url) : List String :=
  part self.username ++ (self.password.toList ++ part self.database)

def KnownScheme (url : Url) : Prop := url.scheme = "mssql" ∨ url.scheme = "sqlserver"

instance (url : Url) : Decidable (KnownScheme url) := inferInstanceAs (Decidable (_ ∨ _))

def PartDecodes (default component value : String) : Prop :=
  if component.isEmpty then value = default else library.percentDecode component = .ok value

/-- The options that a URL with these settings stands for. -/
structure Url.Means (url : Url) (settings : List Setting) (options : MssqlConnectOptions) : Prop where
  scheme : KnownScheme url
  read : AllRead (settingOf (ε := ε) (υ := υ)) url.queryPairs settings
  host : options.host = url.hostStr.getD "localhost"
  port : options.port = url.port
  username : PartDecodes library "sa" url.username options.username
  password : Option.Rel (fun component value => library.percentDecode component = .ok value)
    url.password options.password
  database : PartDecodes library "master" url.database options.database
  fields : ∀ field : UrlField,
    field.get options = lastOr (Setting.saying field) settings (field.get .new)

/-- What is wrong with a text first. -/
inductive UrlRefused (input : String) : MssqlInvalidOption ε υ → Prop where
  | url {error : ε} : library.parse input = .error error → UrlRefused input (.url error)
  | scheme {url : Url} : library.parse input = .ok url → ¬KnownScheme url →
      UrlRefused input (.unsupportedScheme url.scheme)
  | component {url : Url} {error : υ} : library.parse input = .ok url → KnownScheme url →
      FirstError library.percentDecode url.components error → UrlRefused input (.utf8 error)
  | setting {url : Url} {error : MssqlInvalidOption ε υ} : library.parse input = .ok url →
      KnownScheme url → (∀ component ∈ url.components, ∃ text, library.percentDecode component = .ok text) →
      FirstError settingOf url.queryPairs error → UrlRefused input error

variable {library} {url : Url} {options : MssqlConnectOptions}

theorem decodeOr_ok_iff {default component value : String} :
    decodeOr library default component = .ok value ↔ PartDecodes library default component value := by
  rw [decodeOr, PartDecodes]
  split_ifs
  · rw [Except.ok.injEq, eq_comm]
  · exact mapError_ok_iff

theorem password_ok_iff {password decoded : Option String} :
    password.mapM (decodeComponent library) = .ok decoded ↔
      Option.Rel (fun component value => library.percentDecode component = .ok value)
        password decoded := by
  cases password with
  | none =>
    change Except.ok none = .ok decoded ↔ _
    cases decoded <;> simp
  | some component =>
    change (decodeComponent library component >>= fun text => pure (some text)) = .ok decoded ↔ _
    simp only [bind_ok_iff, decodeComponent, mapError_ok_iff, pure, Except.pure, Except.ok.injEq]
    cases decoded <;> simp

theorem baseOptions_ok_iff : baseOptions library url = .ok options ↔
    ∃ username password database, PartDecodes library "sa" url.username username ∧
      Option.Rel (fun component value => library.percentDecode component = .ok value)
        url.password password ∧
      PartDecodes library "master" url.database database ∧
      { MssqlConnectOptions.new with
        host := url.hostStr.getD "localhost", port := url.port, username, password, database } =
        options := by
  simp only [baseOptions, bind_ok_iff, decodeOr_ok_iff, password_ok_iff, pure, Except.pure,
    Except.ok.injEq, MssqlConnectOptions.new, Url.database, exists_and_left]

theorem mapError_error_iff {α ε δ : Type} {convert : ε → δ} {result : Except ε α} {error : δ} :
    result.mapError convert = .error error ↔ ∃ source, error = convert source ∧ result = .error source := by
  cases result with
  | ok value => simp [Except.mapError]
  | error source => simp [Except.mapError, eq_comm]

theorem decodeComponent_fails (component : String) :
    FailsAs library.percentDecode .utf8 [component]
      (decodeComponent library component : Except (MssqlInvalidOption ε υ) _) := by
  intro error
  simp [decodeComponent, mapError_error_iff]

theorem decodeOr_fails (default component : String) :
    FailsAs library.percentDecode .utf8 (part component)
      (decodeOr library default component : Except (MssqlInvalidOption ε υ) _) := by
  rw [decodeOr, part]
  split_ifs
  · exact failsAs_ok default
  · exact decodeComponent_fails component

theorem password_fails (password : Option String) :
    FailsAs library.percentDecode .utf8 password.toList
      (password.mapM (decodeComponent library) : Except (MssqlInvalidOption ε υ) _) := by
  cases password with
  | none => exact failsAs_ok none
  | some component => exact (decodeComponent_fails component).bind fun text => failsAs_ok (some text)

theorem baseOptions_fails :
    FailsAs library.percentDecode .utf8 url.components
      (baseOptions library url : Except (MssqlInvalidOption ε υ) _) := by
  have user : FailsAs library.percentDecode .utf8 (part url.username)
      (decodeOr library "sa" url.username : Except (MssqlInvalidOption ε υ) _) :=
    decodeOr_fails "sa" url.username
  have parts := user.bind fun username =>
    (password_fails url.password).bind fun password =>
      (decodeOr_fails "master" url.database).bind fun database => failsAs_ok
        { MssqlConnectOptions.new with
          host := url.hostStr.getD "localhost", port := url.port, username, password, database }
  rw [List.append_nil] at parts
  exact parts

theorem means_iff {settings : List Setting} : url.Means library settings options ↔
    KnownScheme url ∧ AllRead (settingOf (ε := ε) (υ := υ)) url.queryPairs settings ∧
      ∃ base, baseOptions library url = .ok base ∧ options = settings.foldl Setting.apply base := by
  constructor
  · intro means
    refine ⟨means.scheme, means.read, _, baseOptions_ok_iff.mpr
      ⟨_, _, _, means.username, means.password, means.database, rfl⟩, options_ext ?_ fun field => ?_⟩
    · rw [front_foldl]
      simp [MssqlConnectOptions.front, means.host, means.port]
    · rw [get_foldl, means.fields]
      cases field <;> rfl
  · rintro ⟨scheme, read, base, based, rfl⟩
    obtain ⟨username, password, database, user, secret, path, rfl⟩ := baseOptions_ok_iff.mp based
    have front := front_foldl settings { MssqlConnectOptions.new with
      host := url.hostStr.getD "localhost", port := url.port, username, password, database }
    simp only [MssqlConnectOptions.front, Prod.mk.injEq] at front
    obtain ⟨host, port, usernames, passwords, databases⟩ := front
    refine ⟨scheme, read, host, port, ?_, ?_, ?_, fun field => ?_⟩
    · rwa [usernames]
    · rwa [passwords]
    · rwa [databases]
    · rw [get_foldl]
      cases field <;> rfl

section parsed
variable {input : String} {error : MssqlInvalidOption ε υ} (parsed : library.parse input = .ok url)
include parsed

theorem parseUrl_of_known (known : KnownScheme url) : parseUrl library input =
    baseOptions library url >>= fun base => url.queryPairs.foldlM
      (fun options pair => (settingOf pair).map (Setting.apply options)) base := by
  rw [parseUrl, parsed]
  change (if KnownScheme url then baseOptions library url >>= fun base =>
    url.queryPairs.foldlM setOption base else _) = _
  rw [if_pos known]
  congr 1
  funext base
  exact setOptions_eq base url.queryPairs

theorem parseUrl_of_unknown (unknown : ¬KnownScheme url) :
    parseUrl library input = .error (.unsupportedScheme url.scheme) := by
  rw [parseUrl, parsed]
  exact if_neg unknown

theorem refused_iff_of_unknown (unknown : ¬KnownScheme url) :
    UrlRefused library input error ↔ error = .unsupportedScheme url.scheme := by
  constructor
  · intro refused
    cases refused with
    | url failed => exact absurd (parsed.symm.trans failed) (by simp)
    | scheme found _ =>
      cases parsed.symm.trans found
      rfl
    | component found known _ =>
      cases parsed.symm.trans found
      exact absurd known unknown
    | setting found known _ _ =>
      cases parsed.symm.trans found
      exact absurd known unknown
  · rintro rfl
    exact .scheme parsed unknown

theorem refused_iff_of_known (known : KnownScheme url) : UrlRefused library input error ↔
    baseOptions library url = .error error ∨
      (∃ base, baseOptions library url = .ok base) ∧ FirstError settingOf url.queryPairs error := by
  rw [baseOptions_fails error, baseOptions_fails.reads]
  constructor
  · intro refused
    cases refused with
    | url failed => exact absurd (parsed.symm.trans failed) (by simp)
    | scheme found unknown =>
      cases parsed.symm.trans found
      exact absurd known unknown
    | component found _ fails =>
      cases parsed.symm.trans found
      exact .inl ⟨_, rfl, fails⟩
    | setting found _ decodes fails =>
      cases parsed.symm.trans found
      exact .inr ⟨decodes, fails⟩
  · rintro (⟨utf8, rfl, fails⟩ | ⟨decodes, fails⟩)
    · exact .component parsed known fails
    · exact .setting parsed known decodes fails

end parsed

section parsing
variable {input : String}

theorem parseUrl_of_failed {error : ε} (failed : library.parse input = .error error) :
    parseUrl library input = .error (.url error) := by
  rw [parseUrl, failed]
  rfl

theorem refused_iff_of_failed {source : ε} {error : MssqlInvalidOption ε υ}
    (failed : library.parse input = .error source) :
    UrlRefused library input error ↔ error = .url source := by
  constructor
  · intro refused
    cases refused with
    | url found =>
      cases failed.symm.trans found
      rfl
    | scheme found _ => exact absurd (failed.symm.trans found) (by simp)
    | component found _ _ => exact absurd (failed.symm.trans found) (by simp)
    | setting found _ _ _ => exact absurd (failed.symm.trans found) (by simp)
  · rintro rfl
    exact .url failed

theorem parseUrl_ok_iff : parseUrl library input = .ok options ↔
    ∃ url settings, library.parse input = .ok url ∧ url.Means library settings options := by
  cases parsed : library.parse input with
  | error error => simp [parseUrl_of_failed parsed]
  | ok url =>
    simp only [Except.ok.injEq, means_iff]
    by_cases known : KnownScheme url
    · rw [parseUrl_of_known parsed known, bind_ok_iff]
      simp only [foldlM_settings_ok_iff]
      constructor
      · rintro ⟨base, based, settings, read, same⟩
        exact ⟨url, settings, rfl, known, read, base, based, same⟩
      · rintro ⟨_, settings, rfl, _, read, base, based, same⟩
        exact ⟨base, based, settings, read, same⟩
    · rw [parseUrl_of_unknown parsed known]
      refine iff_of_false (by simp) ?_
      rintro ⟨_, settings, rfl, scheme, _⟩
      exact known scheme

theorem parseUrl_error_iff {error : MssqlInvalidOption ε υ} :
    parseUrl library input = .error error ↔ UrlRefused library input error := by
  cases parsed : library.parse input with
  | error source => rw [parseUrl_of_failed parsed, refused_iff_of_failed parsed, Except.error.injEq, eq_comm]
  | ok url =>
    by_cases known : KnownScheme url
    · rw [parseUrl_of_known parsed known, refused_iff_of_known parsed known]
      cases baseOptions library url with
      | error other =>
        change Except.error other = .error error ↔ _
        simp
      | ok base =>
        change (url.queryPairs.foldlM _ base : Except (MssqlInvalidOption ε υ) _) = .error error ↔ _
        simp [foldlM_settings_error_iff]
    · rw [parseUrl_of_unknown parsed known, refused_iff_of_unknown parsed known, Except.error.injEq,
        eq_comm]

end parsing

/-- The options of a text are those that its URL stands for, where the last setting of each field
holds over the default; a text without options is refused for what is wrong with it first. -/
theorem parseUrl_reads (library : UrlLibrary ε υ) (input : String) :
    (∀ options, parseUrl library input = .ok options ↔
      ∃ url settings, library.parse input = .ok url ∧ url.Means library settings options) ∧
    ∀ error, parseUrl library input = .error error ↔ UrlRefused library input error :=
  ⟨fun _ => parseUrl_ok_iff, fun _ => parseUrl_error_iff⟩

end url
end SqlxSqlserver.Driver
