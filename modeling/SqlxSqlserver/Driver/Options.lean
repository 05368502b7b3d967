import SqlxSqlserver.Foundation.Fallible
import SqlxSqlserver.Foundation.LittleEndian
import SqlxSqlserver.Protocol.Token

/-! The options of a connection, and how a URL is read as them. How a text is taken apart into the parts
of a URL, and how its percent signs are decoded, is left to the libraries that do it. -/

namespace SqlxSqlserver.Driver
open Foundation Protocol

inductive Encrypt where
  | notSupported
  | off
  | on
  | required
  deriving DecidableEq, Repr

structure MssqlConnectOptions where
  host : String := "localhost"
  port : Option UInt16 := none
  username : String := "sa"
  password : Option String := none
  database : String := "master"
  instanceName : Option String := none
  encrypt : Encrypt := .on
  trustServerCertificate : Bool := true
  hostnameInCertificate : Option String := none
  sslRootCert : Option String := none
  requestedPacketSize : UInt32 := 4096
  clientProgramVersion : UInt32 := 0
  clientPid : UInt32 := 0
  hostname : String := ""
  appName : String := ""
  serverName : String := ""
  clientInterfaceName : String := ""
  language : String := ""
  deriving DecidableEq, Repr

def MssqlConnectOptions.new : MssqlConnectOptions := {}

structure Url where
  scheme : String
  hostStr : Option String := none
  port : Option UInt16 := none
  username : String := ""
  password : Option String := none
  path : String := ""
  queryPairs : List (String × String) := []
  deriving DecidableEq, Repr

/-- `Url::parse`, and `decode_utf8` behind `percent_decode_str`. -/
structure UrlLibrary (ε υ : Type) where
  parse : String → Except ε Url
  percentDecode : String → Except υ String

inductive MssqlInvalidOption (ε υ : Type) where
  | url (error : ε)
  | utf8 (error : υ)
  | unsupportedScheme (scheme : String)
  | unknownOption (key : String)
  | invalidValue (key value message : String)
  deriving DecidableEq, Repr

section parsing
variable {ε υ : Type}

def MssqlInvalidOption.message (displayUrl : ε → String) (displayUtf8 : υ → String) :
    MssqlInvalidOption ε υ → String
  | .url error => "invalid SQL Server URL: " ++ displayUrl error
  | .utf8 error => "invalid UTF-8 in SQL Server URL component: " ++ displayUtf8 error
  | .unsupportedScheme scheme => s!"unsupported SQL Server URL scheme `{scheme}`"
  | .unknownOption key => s!"unknown SQL Server connection option `{key}`"
  | .invalidValue key value message =>
    s!"invalid value `{value}` for SQL Server connection option `{key}`: {message}"

def MssqlConnectOptions.setRequestedPacketSize (self : MssqlConnectOptions) (size : UInt32) :
    Except (MssqlInvalidOption ε υ) MssqlConnectOptions :=
  if size.toNat < 512 then
    .error (.invalidValue "packet_size" (toString size.toNat)
      "packet_size must be at least 512 bytes")
  else .ok { self with requestedPacketSize := size }

def parseEncrypt (value : String) : Option Encrypt :=
  match value.toLower with
  | "strict" => some .required
  | "mandatory" | "true" | "yes" => some .on
  | "optional" | "false" | "no" => some .off
  | "not_supported" => some .notSupported
  | _ => none

def parseBool (value : String) : Option Bool :=
  match value.toLower with
  | "true" | "yes" => some true
  | "false" | "no" => some false
  | _ => none

def orInvalid {α : Type} (key value message : String) :
    Option α → Except (MssqlInvalidOption ε υ) α
  | some result => .ok result
  | none => .error (.invalidValue key value message)

def parseU32Option (key value : String) : Except (MssqlInvalidOption ε υ) UInt32 :=
  orInvalid key value "expected an integer" (parseU32 value)

def setOption (options : MssqlConnectOptions) (pair : String × String) :
    Except (MssqlInvalidOption ε υ) MssqlConnectOptions :=
  let key := pair.1
  let value := pair.2
  match key with
  | "instance" => .ok { options with instanceName := some value }
  | "encrypt" => do
    let encrypt ← orInvalid "encrypt" value
      "expected strict, mandatory, optional, not_supported, true, false, yes, or no"
      (parseEncrypt value)
    return { options with encrypt }
  | "sslrootcert" | "ssl-root-cert" | "ssl-ca" => .ok { options with sslRootCert := some value }
  | "trust_server_certificate" => do
    let trustServerCertificate ← orInvalid key value "expected true, false, yes, or no"
      (parseBool value)
    return { options with trustServerCertificate }
  | "hostname_in_certificate" => .ok { options with hostnameInCertificate := some value }
  | "packet_size" => do
    options.setRequestedPacketSize (← parseU32Option "packet_size" value)
  | "client_program_version" => do
    return { options with clientProgramVersion := ← parseU32Option key value }
  | "client_pid" => do
    return { options with clientPid := ← parseU32Option key value }
  | "hostname" => .ok { options with hostname := value }
  | "app_name" => .ok { options with appName := value }
  | "server_name" => .ok { options with serverName := value }
  | "client_interface_name" => .ok { options with clientInterfaceName := value }
  | "language" => .ok { options with language := value }
  | _ => .error (.unknownOption key)

variable (library : UrlLibrary ε υ)

def decodeComponent (component : String) : Except (MssqlInvalidOption ε υ) String :=
  (library.percentDecode component).mapError .utf8

/-- An empty component leaves the option as it is. -/
def decodeOr (option component : String) : Except (MssqlInvalidOption ε υ) String :=
  if component.isEmpty then .ok option else decodeComponent library component

def baseOptions (url : Url) : Except (MssqlInvalidOption ε υ) MssqlConnectOptions := do
  let new := MssqlConnectOptions.new
  let username ← decodeOr library new.username url.username
  let password ← url.password.mapM (decodeComponent library)
  let database ← decodeOr library new.database
    (String.ofList (url.path.toList.dropWhile fun char => char == '/'))
  return { new with host := url.hostStr.getD new.host, port := url.port, username, password, database }

def parseUrl (input : String) : Except (MssqlInvalidOption ε υ) MssqlConnectOptions := do
  let url ← (library.parse input).mapError .url
  if url.scheme = "mssql" ∨ url.scheme = "sqlserver" then
    let options ← baseOptions library url
    url.queryPairs.foldlM setOption options
  else .error (.unsupportedScheme url.scheme)

end parsing

section sizes
variable {ε υ : Type} {library : UrlLibrary ε υ} {options next : MssqlConnectOptions}

def LastValue (pairs : List (String × String)) (key value : String) : Prop :=
  ∃ before after, pairs = before ++ (key, value) :: after ∧ ∀ pair ∈ after, pair.1 ≠ key

theorem absent_or_lastValue (pairs : List (String × String)) (key : String) :
    (∀ pair ∈ pairs, pair.1 ≠ key) ∨ ∃ value, LastValue pairs key value := by
  induction pairs with
  | nil => exact .inl fun pair member => absurd member List.not_mem_nil
  | cons pair pairs ih =>
    rcases ih with absent | ⟨value, before, after, rfl, last⟩
    · by_cases here : pair.1 = key
      · exact .inr ⟨pair.2, [], pairs, by rw [← here]; rfl, absent⟩
      · exact .inl (List.forall_mem_cons.mpr ⟨here, absent⟩)
    · exact .inr ⟨value, pair :: before, after, rfl, last⟩

theorem value_of_split {key value other : String} {after more behind : List (String × String)}
    (split : (key, value) :: after = more ++ (key, other) :: behind)
    (last : ∀ pair ∈ after, pair.1 ≠ key) : value = other := by
  cases more with
  | nil => exact (Prod.mk.inj (List.cons.inj split).1).2
  | cons pair more =>
    have member : (key, other) ∈ after := by
      rw [(List.cons.inj split).2]
      exact List.mem_append_right _ List.mem_cons_self
    exact absurd rfl (last _ member)

theorem LastValue.unique {pairs : List (String × String)} {key value other : String}
    (one : LastValue pairs key value) (two : LastValue pairs key other) : value = other := by
  obtain ⟨before, after, rfl, last⟩ := one
  obtain ⟨front, behind, same, final⟩ := two
  rcases List.append_eq_append_iff.mp same with ⟨more, _, split⟩ | ⟨more, _, split⟩
  · exact value_of_split split last
  · exact (value_of_split split final).symm

theorem orInvalid_ok_iff {α : Type} {key value message : String} {parsed : Option α} {result : α} :
    (orInvalid key value message parsed : Except (MssqlInvalidOption ε υ) α) = .ok result ↔
      parsed = some result := by
  cases parsed with
  | none => exact iff_of_false (by simp [orInvalid]) (by simp)
  | some found => simp [orInvalid]

theorem setOption_packetSize {value : String} :
    (setOption options ("packet_size", value) : Except (MssqlInvalidOption ε υ) _) = .ok next ↔
      ∃ size, parseU32 value = some size ∧ 512 ≤ size.toNat ∧
        next = { options with requestedPacketSize := size } := by
  change (parseU32Option "packet_size" value >>= options.setRequestedPacketSize) = .ok next ↔ _
  rw [bind_ok_iff]
  simp only [parseU32Option, orInvalid_ok_iff, MssqlConnectOptions.setRequestedPacketSize]
  constructor
  · rintro ⟨size, parsed, set⟩
    split at set
    next => cases set
    next large =>
      cases set
      exact ⟨size, parsed, Nat.not_lt.mp large, rfl⟩
  · rintro ⟨size, parsed, large, rfl⟩
    exact ⟨size, parsed, if_neg (Nat.not_lt.mpr large)⟩

theorem setOption_keeps {pair : String × String} (other : pair.1 ≠ "packet_size")
    (accepted : (setOption options pair : Except (MssqlInvalidOption ε υ) _) = .ok next) :
    next.requestedPacketSize = options.requestedPacketSize := by
  unfold setOption at accepted
  dsimp only at accepted
  split at accepted
  case h_8 same => exact absurd same other
  case h_16 => cases accepted
  -- What is left sets another field, some of it from a value that is parsed first.
  all_goals first
    | cases accepted; rfl
    | obtain ⟨parsed, -, set⟩ := bind_ok_iff.mp accepted; cases set; rfl

/-- The loop leaves the last packet size behind, which is at least 512, or the one it began with. -/
theorem setOptions_requestedPacketSize {pairs : List (String × String)}
    (accepted : (pairs.foldlM setOption options : Except (MssqlInvalidOption ε υ) _) = .ok next) :
    (∀ pair ∈ pairs, pair.1 ≠ "packet_size") ∧
        next.requestedPacketSize = options.requestedPacketSize ∨
      ∃ value, LastValue pairs "packet_size" value ∧
        parseU32 value = some next.requestedPacketSize ∧ 512 ≤ next.requestedPacketSize.toNat := by
  have others : ∀ rest : List (String × String), (∀ pair ∈ rest, pair.1 ≠ "packet_size") →
      ∀ {start}, (rest.foldlM setOption start : Except (MssqlInvalidOption ε υ) _) = .ok next →
      next.requestedPacketSize = start.requestedPacketSize := fun rest absent start =>
    foldlM_keeps MssqlConnectOptions.requestedPacketSize fun options pair member next =>
      setOption_keeps (absent pair member)
  rcases absent_or_lastValue pairs "packet_size" with absent | ⟨value, before, after, rfl, last⟩
  · exact .inl ⟨absent, others pairs absent accepted⟩
  · rw [List.foldlM_append, bind_ok_iff] at accepted
    obtain ⟨front, -, accepted⟩ := accepted
    rw [List.foldlM_cons, bind_ok_iff] at accepted
    obtain ⟨middle, set, rest⟩ := accepted
    obtain ⟨size, parsed, large, rfl⟩ := setOption_packetSize.mp set
    have kept : next.requestedPacketSize = size := others after last rest
    rw [kept]
    exact .inr ⟨value, ⟨before, after, rfl, last⟩, parsed, large⟩

theorem baseOptions_requestedPacketSize {url : Url} (base : baseOptions library url = .ok options) :
    options.requestedPacketSize = 4096 := by
  obtain ⟨username, -, base⟩ := bind_ok_iff.mp base
  obtain ⟨password, -, base⟩ := bind_ok_iff.mp base
  obtain ⟨database, -, base⟩ := bind_ok_iff.mp base
  cases base
  rfl

theorem parseUrl_requestedPacketSize {input : String} (accepted : parseUrl library input = .ok options) :
    ∃ url, library.parse input = .ok url ∧
      ((∀ pair ∈ url.queryPairs, pair.1 ≠ "packet_size") ∧ options.requestedPacketSize = 4096 ∨
        ∃ value, LastValue url.queryPairs "packet_size" value ∧
          parseU32 value = some options.requestedPacketSize ∧
          512 ≤ options.requestedPacketSize.toNat) := by
  obtain ⟨url, parsed, accepted⟩ := bind_ok_iff.mp accepted
  split at accepted
  next known =>
    obtain ⟨base, start, folded⟩ := bind_ok_iff.mp accepted
    have sizes := setOptions_requestedPacketSize folded
    rw [baseOptions_requestedPacketSize start] at sizes
    exact ⟨url, mapError_ok_iff.mp parsed, sizes⟩
  next => cases accepted

end sizes

end SqlxSqlserver.Driver
