import SqlxSqlserver.Foundation.Splitting
import SqlxSqlserver.Foundation.Unicode
import SqlxSqlserver.Protocol.Token

/-! The reply of the SQL Server browser: which TCP port a named instance listens on. -/

namespace SqlxSqlserver.Driver
open Foundation Protocol Splitting

def svrResp : UInt8 := 0x05

def parseU16 (text : String) : Option UInt16 :=
  (parseU32 text).bind fun value =>
    if value.toNat < 2 ^ 16 then some (UInt16.ofNat value.toNat) else none

def eqIgnoreAsciiCase (one two : List Char) : Bool := one.map Char.toLower == two.map Char.toLower

structure FoundInstance where
  instanceName : Option (List Char) := none
  tcpPort : Option UInt16 := none
  deriving DecidableEq, Repr

def FoundInstance.set (self : FoundInstance) (key : List Char) (value : Option (List Char)) :
    FoundInstance :=
  if key = "InstanceName".toList then { self with instanceName := value }
  else if key = "tcp".toList then
    { self with tcpPort := value.bind fun value => parseU16 (String.ofList value) }
  else self

def FoundInstance.read (self : FoundInstance) : List (List Char) → FoundInstance
  | [] => self
  | [key] => self.set key none
  | key :: value :: tokens => (self.set key (some value)).read tokens

def noTcpPort (instanceName : String) : Error :=
  .protocol s!"SQL Server instance `{instanceName}` found but no TCP port was advertised"

def instanceNotFound (instanceName : String) : Error :=
  .protocol s!"SQL Server instance `{instanceName}` was not found in SSRP response"

def findAmong (instanceName : String) : List (List Char) → Except Error UInt16
  | [] => .error (instanceNotFound instanceName)
  | instanceData :: rest =>
    let found := FoundInstance.read {} (instanceData.splitOn ';')
    if found.instanceName.any (eqIgnoreAsciiCase · instanceName.toList) then
      match found.tcpPort with
      | some port => .ok port
      | none => .error (noTcpPort instanceName)
    else findAmong instanceName rest

def findInstanceTcpPort (data instanceName : String) : Except Error UInt16 :=
  findAmong instanceName ((pieces [';', ';'] data.toList).filter fun segment => !segment.isEmpty)

example : findInstanceTcpPort "ServerName;SRV;InstanceName;FIRST;tcp;1433;;InstanceName;Second;tcp;1434;;"
    "SECOND" = .ok 1434 := by
  decide

/-- The length and the three bytes in front of the body cannot overflow a `usize`. -/
def parseSsrpResponse (input : Bytes) (instanceName : String) : Except Error UInt16 :=
  match input with
  | responseType :: low :: high :: rest =>
    if responseType ≠ svrResp then
      .error (.protocol ("invalid SSRP response type: expected 0x05, got 0x" ++ hexByte responseType))
    else
      let responseSize := leNat [low, high]
      if responseSize ≤ rest.length then
        findInstanceTcpPort (fromUtf8Lossy (rest.take responseSize)) instanceName
      else
        .error (.protocol (s!"SSRP response size mismatch: expected {responseSize + 3} bytes, got " ++
          toString input.length))
  | _ => .error (.protocol s!"SSRP response too short: {input.length} bytes")

section replies

structure SsrpToken where
  chars : List Char
  field : IsField ';' chars
  ascii : ∀ char ∈ chars, char.toNat < 128

def pairTokens (pairs : List (SsrpToken × SsrpToken)) : List (List Char) :=
  pairs.flatMap fun pair => [pair.1.chars, pair.2.chars]

/-- An instance as a server describes it. -/
structure SsrpInstance where
  pairs : List (SsrpToken × SsrpToken)
  some : pairs ≠ []
  distinct : (pairs.map fun pair => pair.1.chars).Nodup

namespace SsrpInstance

def tokens (self : SsrpInstance) : List (List Char) := pairTokens self.pairs

def Has (self : SsrpInstance) (key : String) (value : List Char) : Prop :=
  ∃ pair ∈ self.pairs, pair.1.chars = key.toList ∧ pair.2.chars = value

def IsNamed (self : SsrpInstance) (name : String) : Prop :=
  ∃ value, self.Has "InstanceName" value ∧ eqIgnoreAsciiCase value name.toList = true

def HasPort (self : SsrpInstance) (port : UInt16) : Prop :=
  ∃ value, self.Has "tcp" value ∧ parseU16 (String.ofList value) = Option.some port

end SsrpInstance

def ssrpBody (instances : List SsrpInstance) : List Char :=
  records ';' (instances.map SsrpInstance.tokens)

def ssrpFrame (instances : List SsrpInstance) (further : Bytes) : Bytes :=
  svrResp :: (leBytes 2 (ssrpBody instances).length ++ asciiBytes (ssrpBody instances) ++ further)

/-- `found` is the first of the instances with the name. -/
structure FirstNamed (instances : List SsrpInstance) (name : String) (before : List SsrpInstance)
    (found : SsrpInstance) (after : List SsrpInstance) : Prop where
  split : instances = before ++ found :: after
  named : found.IsNamed name
  others : ∀ other ∈ before, ¬other.IsNamed name

end replies

section cells

structure Cell (γ : Type) where
  key : String
  view : FoundInstance → Option γ
  write : List Char → Option γ
  empty : view {} = none
  sets : ∀ (self : FoundInstance) value, view (self.set key.toList (some value)) = write value
  keeps : ∀ (self : FoundInstance) other value, other ≠ key.toList →
    view (self.set other value) = view self

def nameCell : Cell (List Char) where
  key := "InstanceName"
  view := FoundInstance.instanceName
  write := some
  empty := rfl
  sets _ _ := rfl
  keeps self other value different := by
    rw [FoundInstance.set, if_neg different]
    split
    next => rfl
    next => rfl

def portCell : Cell UInt16 where
  key := "tcp"
  view := FoundInstance.tcpPort
  write value := parseU16 (String.ofList value)
  empty := rfl
  sets self value := by
    have other : "tcp".toList ≠ "InstanceName".toList := by decide
    rw [FoundInstance.set, if_neg other, if_pos rfl]
    rfl
  keeps self other value different := by
    rw [FoundInstance.set, if_neg different]
    split
    next => rfl
    next => rfl

variable {γ : Type} (cell : Cell γ) {pairs : List (SsrpToken × SsrpToken)}

theorem read_of_absent (absent : cell.key.toList ∉ pairs.map fun pair => pair.1.chars)
    (self : FoundInstance) : cell.view (self.read (pairTokens pairs)) = cell.view self := by
  induction pairs generalizing self with
  | nil => rfl
  | cons pair pairs ih =>
    rw [List.map_cons, List.mem_cons, not_or] at absent
    have rest := ih absent.2 (self.set pair.1.chars (some pair.2.chars))
    exact rest.trans (cell.keeps self _ _ (Ne.symm absent.1))

theorem read_of_mem {pair : SsrpToken × SsrpToken} (member : pair ∈ pairs)
    (named : pair.1.chars = cell.key.toList) (distinct : (pairs.map fun pair => pair.1.chars).Nodup)
    (self : FoundInstance) :
    cell.view (self.read (pairTokens pairs)) = cell.write pair.2.chars := by
  induction pairs generalizing self with
  | nil => cases member
  | cons first pairs ih =>
    rw [List.map_cons, List.nodup_cons] at distinct
    rcases List.mem_cons.mp member with rfl | later
    · have absent := distinct.1
      rw [named] at absent
      have rest := read_of_absent cell absent (self.set pair.1.chars (some pair.2.chars))
      rw [named, cell.sets] at rest
      rw [← rest, ← named]
      rfl
    · exact ih later distinct.2 (self.set first.1.chars (some first.2.chars))

end cells

namespace SsrpInstance
variable {γ : Type} (self : SsrpInstance)

theorem view_read_iff (cell : Cell γ) (result : γ) :
    cell.view (FoundInstance.read {} self.tokens) = Option.some result ↔
      ∃ value, self.Has cell.key value ∧ cell.write value = Option.some result := by
  constructor
  · intro found
    by_cases present : cell.key.toList ∈ self.pairs.map fun pair => pair.1.chars
    · obtain ⟨pair, member, named⟩ := List.mem_map.mp present
      have written := read_of_mem cell member named self.distinct {}
      exact ⟨_, ⟨pair, member, named, rfl⟩, written.symm.trans found⟩
    · have kept := (read_of_absent cell present {}).trans cell.empty
      have both := kept.symm.trans found
      cases both
  · rintro ⟨value, ⟨pair, member, named, rfl⟩, written⟩
    exact (read_of_mem cell member named self.distinct {}).trans written

theorem tokens_ne_nil : self.tokens ≠ [] := by
  obtain ⟨pair, pairs, same⟩ := List.exists_cons_of_ne_nil self.some
  rw [tokens, same, pairTokens, List.flatMap_cons]
  exact List.cons_ne_nil _ _

theorem isField_tokens : ∀ token ∈ self.tokens, IsField ';' token := by
  intro token member
  obtain ⟨pair, -, inside⟩ := List.mem_flatMap.mp member
  rcases List.mem_pair.mp inside with rfl | rfl
  · exact pair.1.field
  · exact pair.2.field

theorem splitOn_tokens : (record ';' self.tokens).splitOn ';' = self.tokens :=
  splitOn_record self.tokens_ne_nil self.isField_tokens

end SsrpInstance

section finding
variable {instances before after : List SsrpInstance} {found : SsrpInstance} {name : String}

theorem any_name_iff (self : SsrpInstance) (name : String) :
    (FoundInstance.read {} self.tokens).instanceName.any (eqIgnoreAsciiCase · name.toList) = true ↔
      self.IsNamed name := by
  have names := self.view_read_iff nameCell
  rw [Option.any_eq_true]
  constructor
  · rintro ⟨value, read, same⟩
    obtain ⟨written, has, kept⟩ := (names value).mp read
    have named : written = value := Option.some.inj kept
    exact ⟨value, named ▸ has, same⟩
  · rintro ⟨value, has, same⟩
    exact ⟨value, (names value).mpr ⟨value, has, rfl⟩, same⟩

theorem findAmong_other (other : ¬found.IsNamed name) (rest : List (List Char)) :
    findAmong name (record ';' found.tokens :: rest) = findAmong name rest := by
  rw [findAmong, found.splitOn_tokens]
  exact if_neg (mt (any_name_iff found name).mp other)

theorem findAmong_port (named : found.IsNamed name) {port : UInt16} (has : found.HasPort port)
    (rest : List (List Char)) : findAmong name (record ';' found.tokens :: rest) = .ok port := by
  have read : (FoundInstance.read {} found.tokens).tcpPort = some port :=
    (found.view_read_iff portCell port).mpr has
  rw [findAmong, found.splitOn_tokens]
  rw [if_pos ((any_name_iff found name).mpr named), read]

theorem findAmong_noPort (named : found.IsNamed name) (hasNone : ∀ port, ¬found.HasPort port)
    (rest : List (List Char)) :
    findAmong name (record ';' found.tokens :: rest) = .error (noTcpPort name) := by
  have read : (FoundInstance.read {} found.tokens).tcpPort = none :=
    Option.eq_none_iff_forall_ne_some.mpr fun port same =>
      hasNone port ((found.view_read_iff portCell port).mp same)
  rw [findAmong, found.splitOn_tokens]
  rw [if_pos ((any_name_iff found name).mpr named), read]

theorem findAmong_append (others : ∀ other ∈ before, ¬other.IsNamed name)
    (rest : List (List Char)) :
    findAmong name ((before.map SsrpInstance.tokens).map (record ';') ++ rest) =
      findAmong name rest := by
  induction before with
  | nil => rfl
  | cons first before ih =>
    rw [List.map_cons, List.map_cons, List.cons_append,
      findAmong_other (others first List.mem_cons_self)]
    exact ih fun other member => others other (List.mem_cons_of_mem _ member)

theorem segments_body (instances : List SsrpInstance) :
    (pieces [';', ';'] (ssrpBody instances)).filter (fun segment => !segment.isEmpty) =
      (instances.map SsrpInstance.tokens).map (record ';') := by
  have fields : ∀ tokens ∈ instances.map SsrpInstance.tokens, ∀ token ∈ tokens,
      IsField ';' token := by
    intro tokens member
    obtain ⟨self, -, rfl⟩ := List.mem_map.mp member
    exact self.isField_tokens
  rw [ssrpBody, pieces_records fields, List.filter_append]
  have kept : ∀ segment ∈ (instances.map SsrpInstance.tokens).map (record ';'),
      (!segment.isEmpty) = true := by
    intro segment member
    obtain ⟨tokens, inside, rfl⟩ := List.mem_map.mp member
    obtain ⟨self, -, rfl⟩ := List.mem_map.mp inside
    have some := record_ne_nil self.tokens_ne_nil self.isField_tokens
    simp [some]
  rw [List.filter_eq_self.mpr kept]
  exact List.append_nil _

theorem body_ascii (instances : List SsrpInstance) :
    ∀ char ∈ ssrpBody instances, char.toNat < 128 := by
  intro char member
  rcases mem_records member with rfl | ⟨tokens, listed, token, inside, here⟩
  · decide
  · obtain ⟨self, -, rfl⟩ := List.mem_map.mp listed
    obtain ⟨pair, -, either⟩ := List.mem_flatMap.mp inside
    rcases List.mem_pair.mp either with rfl | rfl
    · exact pair.1.ascii char here
    · exact pair.2.ascii char here

theorem parseSsrpResponse_body {low high : UInt8} {body : Bytes}
    (size : leNat [low, high] = body.length) (further : Bytes) (name : String) :
    parseSsrpResponse (svrResp :: low :: high :: (body ++ further)) name =
      findInstanceTcpPort (fromUtf8Lossy body) name := by
  have inside : body.length ≤ (body ++ further).length := by
    rw [List.length_append]
    exact Nat.le_add_right _ _
  have taken : (body ++ further).take body.length = body := List.take_left
  rw [parseSsrpResponse, if_neg (not_not_intro rfl), size]
  dsimp only
  rw [if_pos inside, taken]

theorem parseSsrpResponse_frame (fits : (ssrpBody instances).length < 65536) (further : Bytes)
    (name : String) : parseSsrpResponse (ssrpFrame instances further) name =
      findAmong name ((instances.map SsrpInstance.tokens).map (record ';')) := by
  obtain ⟨low, high, bytes⟩ := List.length_eq_two.mp (leBytes_length 2 (ssrpBody instances).length)
  have size : leNat [low, high] = (ssrpBody instances).length := by
    rw [← bytes]
    exact leNat_leBytes_of_lt fits
  have text : fromUtf8Lossy (asciiBytes (ssrpBody instances)) = String.ofList (ssrpBody instances) :=
    congrArg String.ofList (decodeUtf8From_asciiBytes (body_ascii instances))
  have framed : ssrpFrame instances further =
      svrResp :: low :: high :: (asciiBytes (ssrpBody instances) ++ further) := by
    rw [ssrpFrame, bytes]
    rfl
  rw [framed, parseSsrpResponse_body (size.trans (asciiBytes_length _).symm), text,
    findInstanceTcpPort, String.toList_ofList, segments_body]

theorem findAmong_first (first : FirstNamed instances name before found after) :
    ∃ rest, findAmong name ((instances.map SsrpInstance.tokens).map (record ';')) =
      findAmong name (record ';' found.tokens :: rest) := by
  refine ⟨(after.map SsrpInstance.tokens).map (record ';'), ?_⟩
  rw [first.split, List.map_append, List.map_append, findAmong_append first.others]
  rfl

/-- Either no instance has the name, or there is a first one that has it. -/
theorem named_or_first (instances : List SsrpInstance) (name : String) :
    (∀ other ∈ instances, ¬other.IsNamed name) ∨
      ∃ before found after, FirstNamed instances name before found after := by
  induction instances with
  | nil => exact .inl fun other member => absurd member List.not_mem_nil
  | cons self instances ih =>
    by_cases named : self.IsNamed name
    · exact .inr ⟨[], self, instances, rfl, named, fun other member =>
        absurd member List.not_mem_nil⟩
    · rcases ih with none | ⟨before, found, after, first⟩
      · exact .inl (List.forall_mem_cons.mpr ⟨named, none⟩)
      · exact .inr ⟨self :: before, found, after, congrArg (self :: ·) first.split, first.named,
          List.forall_mem_cons.mpr ⟨named, first.others⟩⟩

theorem findAmong_none (none : ∀ other ∈ instances, ¬other.IsNamed name) :
    findAmong name ((instances.map SsrpInstance.tokens).map (record ';')) =
      .error (instanceNotFound name) := by
  have searched := findAmong_append none []
  rwa [List.append_nil] at searched

end finding

/-- A reply is answered by the first instance of the name, and by no other. -/
theorem ssrp_finds_port (instances : List SsrpInstance) (further : Bytes) (name : String)
    (fits : (ssrpBody instances).length < 65536) :
    (∀ port, parseSsrpResponse (ssrpFrame instances further) name = .ok port ↔
      ∃ before found after, FirstNamed instances name before found after ∧ found.HasPort port) ∧
    (∀ before found after, FirstNamed instances name before found after →
      (∀ port, ¬found.HasPort port) →
      parseSsrpResponse (ssrpFrame instances further) name = .error (noTcpPort name)) ∧
    ((∀ other ∈ instances, ¬other.IsNamed name) →
      parseSsrpResponse (ssrpFrame instances further) name = .error (instanceNotFound name)) := by
  rw [parseSsrpResponse_frame fits]
  refine ⟨?_, ?_, findAmong_none⟩
  · intro port
    constructor
    · intro answered
      rcases named_or_first instances name with none | ⟨before, found, after, first⟩
      · rw [findAmong_none none] at answered
        cases answered
      · refine ⟨before, found, after, first, ?_⟩
        obtain ⟨rest, same⟩ := findAmong_first first
        by_cases has : ∃ port, found.HasPort port
        · obtain ⟨advertised, here⟩ := has
          rw [same, findAmong_port first.named here] at answered
          cases answered
          exact here
        · rw [same, findAmong_noPort first.named (not_exists.mp has)] at answered
          cases answered
    · rintro ⟨before, found, after, first, has⟩
      obtain ⟨rest, same⟩ := findAmong_first first
      rw [same, findAmong_port first.named has]
  · intro before found after first hasNone
    obtain ⟨rest, same⟩ := findAmong_first first
    rw [same, findAmong_noPort first.named hasNone]

section server

def SsrpToken.ofString (text : String) (some : text.toList ≠ []) (free : ';' ∉ text.toList)
    (ascii : text.toList.all (fun char => decide (char.toNat < 128)) = true) : SsrpToken :=
  ⟨text.toList, ⟨some, free⟩, fun char member => of_decide_eq_true (List.all_eq_true.mp ascii char member)⟩

def tcpInstance : SsrpInstance where
  pairs := [
    (.ofString "tcp" (by decide) (by decide) (by decide),
      .ofString "1433" (by decide) (by decide) (by decide)),
    (.ofString "InstanceName" (by decide) (by decide) (by decide),
      .ofString "tcp" (by decide) (by decide) (by decide))]
  some := by simp
  distinct := by decide

def expressInstance : SsrpInstance where
  pairs := [
    (.ofString "InstanceName" (by decide) (by decide) (by decide),
      .ofString "SQLEXPRESS" (by decide) (by decide) (by decide)),
    (.ofString "tcp" (by decide) (by decide) (by decide),
      .ofString "1435" (by decide) (by decide) (by decide))]
  some := by simp
  distinct := by decide

theorem ssrp_finds_port_express : parseSsrpResponse
    (ssrpFrame [tcpInstance, expressInstance] [0xff]) "sqlexpress" = .ok 1435 := by
  have named : expressInstance.IsNamed "sqlexpress" :=
    ⟨"SQLEXPRESS".toList, ⟨_, List.mem_cons_self, rfl, rfl⟩, by decide⟩
  have other : ¬tcpInstance.IsNamed "sqlexpress" := by
    rw [← any_name_iff]
    decide
  have port : expressInstance.HasPort 1435 :=
    ⟨"1435".toList, ⟨_, List.mem_cons_of_mem _ List.mem_cons_self, rfl, rfl⟩, by decide⟩
  have found := ssrp_finds_port [tcpInstance, expressInstance] [0xff] "sqlexpress" (by decide)
  exact (found.1 1435).mpr ⟨[tcpInstance], expressInstance, [],
    ⟨rfl, named, List.forall_mem_singleton.mpr other⟩, port⟩

end server

end SqlxSqlserver.Driver
