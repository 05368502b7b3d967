import SqlxSqlserver.Driver.Arguments

/-! TYPE_INFO as it is written, and what is left of a TYPE_INFO that was read. A collation keeps six
of its eight flags, so two bits of it are cleared. -/

namespace SqlxSqlserver.Protocol
open Foundation Reader Driver

def Collation.localeSortVersion (self : Collation) : Nat :=
  self.locale ||| (self.flags.bits.toNat <<< 20) ||| (self.version.toNat <<< 28) % 2 ^ 32

def Collation.put (self : Collation) : Put BoxDynError Unit := do
  .emit (leBytes 4 self.localeSortVersion)
  .emit [self.sort]

namespace TypeInfo

def putScaled (self : TypeInfo) : Put BoxDynError Unit := .emit [self.scale]

def putByteSized (self : TypeInfo) : Put BoxDynError Unit := do
  let size ← .lift (u8TryFrom self.size)
  .emit [size]

def putDecimal (self : TypeInfo) : Put BoxDynError Unit := do
  let size ← .lift (u8TryFrom self.size)
  .emit [size]
  .emit [self.precision]
  .emit [self.scale]

def putShortSized (self : TypeInfo) : Put BoxDynError Unit := do
  let size ← .lift (u16TryFrom self.size)
  .emit (leBytes 2 size.toNat)

def putCollated (self : TypeInfo) : Put BoxDynError Unit := do
  let size ← .lift (u16TryFrom self.size)
  .emit (leBytes 2 size.toNat)
  match self.collation with
  | some collation => collation.put
  | none => do
    .emit (leBytes 4 0)
    .emit [0]

/-- What `TypeInfo::put` writes behind the type byte. A DATE is written with a size, which `get` does
not read; an unsupported type is only logged. -/
def putBody (self : TypeInfo) : Put BoxDynError Unit :=
  match self.ty with
  | .null | .tinyInt | .bit | .smallInt | .int | .smallDateTime | .real | .smallMoney | .bigInt
  | .money | .dateTime | .float => pure ()
  | .timeN | .dateTime2N | .dateTimeOffsetN => self.putScaled
  | .guid | .intN | .bitN | .floatN | .moneyN | .dateTimeN | .dateN | .char | .varChar | .binary
  | .varBinary => self.putByteSized
  | .decimal | .numeric | .decimalN | .numericN => self.putDecimal
  | .bigVarBinary | .bigBinary => self.putShortSized
  | .bigVarChar | .bigChar | .nVarChar | .nChar => self.putCollated
  | .xml | .userDefined | .text | .image | .nText | .variant => pure ()

def put (self : TypeInfo) : Put BoxDynError Unit := do
  .emit [self.ty.code]
  self.putBody

end TypeInfo

/-- A TYPE_INFO with the bits 26 and 27 of its collation word cleared. They are in its seventh byte,
and a TYPE_INFO without a collation is shorter. -/
def withoutReserved (bytes : Bytes) : Bytes := bytes.modify 6 (· &&& 0xf3)

/-- The body that is read for a type, and what is written for it. -/
structure Kept (ty : DataType) (body written : Bytes) (typeInfo : TypeInfo) : Prop where
  same : typeInfo.ty = ty
  put : typeInfo.putBody.Writes written ()
  get : Reads (TypeInfo.getBody ty) written typeInfo
  cleared : ty.code :: written = withoutReserved (ty.code :: body)

section collation

theorem and_0x3f (bits : UInt8) : (bits &&& 0x3f).toNat = bits.toNat % 64 := by
  rw [UInt8.toNat_and]
  exact Nat.and_two_pow_sub_one_eq_mod bits.toNat 6

theorem and_0xf3 (byte : UInt8) :
    (byte &&& 0xf3).toNat = byte.toNat / 16 * 16 + byte.toNat % 4 := by
  have every : ∀ value : Fin 256, value.val &&& 0xf3 = value.val / 16 * 16 + value.val % 4 := by
    decide +kernel
  have mask : (0xf3 : UInt8).toNat = 0xf3 := rfl
  have small := byte.toNat_lt
  rw [UInt8.toNat_and, mask]
  generalize byte.toNat = value at *
  exact every ⟨value, small⟩

structure WordParts (word locale flags version : Nat) : Prop where
  word_eq : word = locale + 2 ^ 20 * flags + 2 ^ 28 * version
  locale_lt : locale < 2 ^ 20
  flags_lt : flags < 2 ^ 8
  version_lt : version < 2 ^ 4

theorem Collation.localeSortVersion_parts (self : Collation) (locale : self.locale < 2 ^ 20)
    (version : self.version.toNat < 2 ^ 4) :
    WordParts self.localeSortVersion self.locale self.flags.bits.toNat self.version.toNat := by
  have flags := self.flags.bits.toNat_lt
  have low : self.locale ||| self.flags.bits.toNat <<< 20 =
      self.locale + 2 ^ 20 * self.flags.bits.toNat := by
    rw [Nat.or_comm, ← Nat.shiftLeft_add_eq_or_of_lt locale, Nat.shiftLeft_eq]
    omega
  have inside : self.version.toNat <<< 28 % 2 ^ 32 = self.version.toNat <<< 28 := by
    apply Nat.mod_eq_of_lt
    rw [Nat.shiftLeft_eq]
    omega
  have below : self.locale + 2 ^ 20 * self.flags.bits.toNat < 2 ^ 28 := by omega
  constructor
  · rw [localeSortVersion, low, inside, Nat.or_comm, ← Nat.shiftLeft_add_eq_or_of_lt below,
      Nat.shiftLeft_eq]
    omega
  · exact locale
  · exact flags
  · exact version

def Collation.ofWord (word : Nat) (sort : UInt8) : Collation where
  locale := word % 0x100000
  flags := CollationFlags.fromBitsTruncate (UInt8.ofNat (word / 0x100000))
  sort
  version := UInt8.ofNat (word / 0x10000000)

theorem Collation.reads_get_iff {bytes : Bytes} {collation : Collation} :
    Reads Collation.get bytes collation ↔ ∃ word sort, word.length = 4 ∧
      bytes = word ++ [sort] ∧ collation = ofWord (leNat word) sort := by
  have tail : ∀ word : Nat, Local (do
      let sort ← TypeInfo.readU8
      return ofWord word sort : Reader TypeInfoError Collation) :=
    fun word => (local_byte _).bind fun _ => local_pure _
  apply (Reads.bind_iff (local_le _ _) tail bytes collation).trans
  constructor
  · rintro ⟨first, number, second, rfl, head, rest⟩
    obtain ⟨rfl, fits⟩ := reads_le_iff.mp head
    obtain ⟨sort, last, rfl⟩ := (Reads.map_iff (local_byte _)).mp rest
    refine ⟨_, sort, leBytes_length 4 number, ?_, ?_⟩
    · rw [reads_byte_iff.mp last]
    · rw [leNat_leBytes_of_lt fits]
  · rintro ⟨word, sort, four, rfl, rfl⟩
    refine ⟨word, leNat word, [sort], rfl, four ▸ reads_le _ word, ?_⟩
    exact (Reads.map_iff (local_byte _)).mpr ⟨sort, reads_byte _ sort, rfl⟩

section word
variable (first second third last : UInt8)

theorem Collation.localeSortVersion_ofWord (sort : UInt8) :
    (ofWord (leNat [first, second, third, last]) sort).localeSortVersion =
      leNat [first, second, third, last &&& 0xf3] := by
  have bytes := And.intro first.toNat_lt (And.intro second.toNat_lt
    (And.intro third.toNat_lt last.toNat_lt))
  have version : (ofWord (leNat [first, second, third, last]) sort).version.toNat =
      last.toNat / 16 := by
    simp only [ofWord, leNat, UInt8.toNat_ofNat']
    omega
  have flags : (ofWord (leNat [first, second, third, last]) sort).flags.bits.toNat =
      third.toNat / 16 + last.toNat % 4 * 16 := by
    simp only [ofWord, CollationFlags.fromBitsTruncate, and_0x3f, leNat, UInt8.toNat_ofNat']
    omega
  have locale : (ofWord (leNat [first, second, third, last]) sort).locale =
      first.toNat + 256 * second.toNat + 65536 * (third.toNat % 16) := by
    simp only [ofWord, leNat]
    omega
  have parts := localeSortVersion_parts (ofWord (leNat [first, second, third, last]) sort)
    (by rw [locale]; omega) (by rw [version]; omega)
  rw [parts.word_eq, version, flags, locale]
  simp only [leNat, and_0xf3]
  omega

theorem Collation.ofWord_cleared (sort : UInt8) :
    ofWord (leNat [first, second, third, last &&& 0xf3]) sort =
      ofWord (leNat [first, second, third, last]) sort := by
  have bytes := And.intro first.toNat_lt (And.intro second.toNat_lt
    (And.intro third.toNat_lt last.toNat_lt))
  have flags : CollationFlags.fromBitsTruncate
      (UInt8.ofNat (leNat [first, second, third, last &&& 0xf3] / 0x100000)) =
      CollationFlags.fromBitsTruncate
        (UInt8.ofNat (leNat [first, second, third, last] / 0x100000)) := by
    apply congrArg CollationFlags.mk
    apply UInt8.toNat_inj.mp
    simp only [and_0x3f, leNat, and_0xf3, UInt8.toNat_ofNat']
    omega
  have version : UInt8.ofNat (leNat [first, second, third, last &&& 0xf3] / 0x10000000) =
      UInt8.ofNat (leNat [first, second, third, last] / 0x10000000) := by
    apply UInt8.toNat_inj.mp
    simp only [leNat, and_0xf3, UInt8.toNat_ofNat']
    omega
  have locale : leNat [first, second, third, last &&& 0xf3] % 0x100000 =
      leNat [first, second, third, last] % 0x100000 := by
    simp only [leNat, and_0xf3]
    omega
  rw [ofWord, flags, version, locale, ofWord]

end word

end collation

section bodies
variable {ty : DataType} {body : Bytes} {typeInfo : TypeInfo}

theorem u8TryFrom_toNat (size : UInt8) : u8TryFrom size.toNat = .ok size := by
  rw [u8TryFrom, if_pos size.toNat_lt, UInt8.ofNat_toNat]

theorem u16TryFrom_ofNat {size : Nat} (fits : size < 65536) :
    u16TryFrom size = .ok (UInt16.ofNat size) := if_pos fits

theorem Kept.whole (same : typeInfo.ty = ty) (put : typeInfo.putBody.Writes body ())
    (get : Reads (TypeInfo.getBody ty) body typeInfo) (short : body.length < 6) :
    Kept ty body body typeInfo := by
  constructor
  · exact same
  · exact put
  · exact get
  · rw [withoutReserved, List.modify_eq_self]
    rw [List.length_cons]
    omega

theorem reads_getScaled_iff : Reads (TypeInfo.getScaled ty) body typeInfo ↔
    ∃ scale size, body = [scale] ∧ TypeInfo.scaledSize scale = some size ∧
      typeInfo = ⟨ty, size + (match ty with
        | .dateTime2N => 3
        | .dateTimeOffsetN => 5
        | _ => 0), scale, 0, none⟩ := by
  apply (Reads.bind_iff (local_byte _) _ body typeInfo).trans
  swap
  · intro scale
    split
    · exact local_fail _
    · exact local_pure _
  constructor
  · rintro ⟨first, scale, second, rfl, head, rest⟩
    rw [reads_byte_iff.mp head]
    split at rest
    next => exact absurd rest not_reads_fail
    next size sized =>
      obtain ⟨rfl, rfl⟩ := reads_pure_iff.mp rest
      exact ⟨scale, size, rfl, sized, rfl⟩
  · rintro ⟨scale, size, rfl, sized, rfl⟩
    refine ⟨[scale], scale, [], rfl, reads_byte _ scale, ?_⟩
    rw [sized]
    exact reads_pure _

theorem reads_getByteSized_iff : Reads (TypeInfo.getByteSized ty) body typeInfo ↔
    ∃ size : UInt8, body = [size] ∧ typeInfo = TypeInfo.new ty size.toNat := by
  rw [TypeInfo.getByteSized, TypeInfo.readU8, Reads.map_iff (local_byte _)]
  simp only [reads_byte_iff]

theorem reads_getDecimal_iff : Reads (TypeInfo.getDecimal ty) body typeInfo ↔
    ∃ size precision scale : UInt8, body = [size, precision, scale] ∧
      typeInfo = ⟨ty, size.toNat, scale, precision, none⟩ := by
  have inner : ∀ size : UInt8, Local (do
      let precision ← TypeInfo.readU8
      let scale ← TypeInfo.readU8
      return ⟨ty, size.toNat, scale, precision, none⟩ : Reader TypeInfoError TypeInfo) :=
    fun size => (local_byte _).bind fun _ => (local_byte _).bind fun _ => local_pure _
  apply (Reads.bind_iff (local_byte _) inner body typeInfo).trans
  constructor
  · rintro ⟨first, size, second, rfl, head, rest⟩
    obtain ⟨middle, precision, last, rfl, next, other⟩ :=
      (Reads.bind_iff (local_byte _) (fun _ => (local_byte _).bind fun _ => local_pure _) _ _).mp rest
    obtain ⟨scale, found, rfl⟩ := (Reads.map_iff (local_byte _)).mp other
    rw [reads_byte_iff.mp head, reads_byte_iff.mp next, reads_byte_iff.mp found]
    exact ⟨size, precision, scale, rfl, rfl⟩
  · rintro ⟨size, precision, scale, rfl, rfl⟩
    refine ⟨[size], size, [precision] ++ [scale], rfl, reads_byte _ size, ?_⟩
    apply (reads_byte _ precision).bind
    exact (Reads.map_iff (local_byte _)).mpr ⟨scale, reads_byte _ scale, rfl⟩

theorem reads_getShortSized_iff : Reads (TypeInfo.getShortSized ty) body typeInfo ↔
    body.length = 2 ∧ typeInfo = TypeInfo.new ty (leNat body) := by
  rw [TypeInfo.getShortSized, TypeInfo.readU16Le, Reads.map_iff (local_le _ _)]
  constructor
  · rintro ⟨size, digits, rfl⟩
    obtain ⟨rfl, fits⟩ := reads_le_iff.mp digits
    rw [leNat_leBytes_of_lt fits]
    exact ⟨leBytes_length 2 size, rfl⟩
  · rintro ⟨two, rfl⟩
    exact ⟨leNat body, two ▸ reads_le _ body, rfl⟩

theorem reads_getCollated_iff : Reads (TypeInfo.getCollated ty) body typeInfo ↔
    ∃ size word sort, size.length = 2 ∧ word.length = 4 ∧ body = size ++ (word ++ [sort]) ∧
      typeInfo = ⟨ty, leNat size, 0, 0, some (Collation.ofWord (leNat word) sort)⟩ := by
  have inner : ∀ size : Nat, Local (do
      let collation ← Collation.get
      return ⟨ty, size, 0, 0, some collation⟩ : Reader TypeInfoError TypeInfo) :=
    fun size => Collation.local_get.bind fun _ => local_pure _
  apply (Reads.bind_iff (local_le _ _) inner body typeInfo).trans
  constructor
  · rintro ⟨first, size, second, rfl, head, rest⟩
    obtain ⟨rfl, fits⟩ := reads_le_iff.mp head
    obtain ⟨collation, found, rfl⟩ := (Reads.map_iff Collation.local_get).mp rest
    obtain ⟨word, sort, four, rfl, rfl⟩ := Collation.reads_get_iff.mp found
    refine ⟨_, word, sort, leBytes_length 2 size, four, rfl, ?_⟩
    rw [leNat_leBytes_of_lt fits]
  · rintro ⟨size, word, sort, two, four, rfl, rfl⟩
    refine ⟨size, leNat size, word ++ [sort], rfl, two ▸ reads_le _ size, ?_⟩
    apply (Reads.map_iff Collation.local_get).mpr
    exact ⟨_, Collation.reads_get_iff.mpr ⟨word, sort, four, rfl, rfl⟩, rfl⟩

theorem putByteSized_writes (ty : DataType) (size : UInt8) :
    (TypeInfo.new ty size.toNat).putByteSized.Writes [size] () := by
  rw [TypeInfo.putByteSized, TypeInfo.new, u8TryFrom_toNat]
  rfl

theorem putDecimal_writes (ty : DataType) (size precision scale : UInt8) :
    (⟨ty, size.toNat, scale, precision, none⟩ : TypeInfo).putDecimal.Writes
      [size, precision, scale] () := by
  rw [TypeInfo.putDecimal, u8TryFrom_toNat]
  rfl

theorem leBytes_u16 {size : Bytes} (two : size.length = 2) :
    u16TryFrom (leNat size) = .ok (UInt16.ofNat (leNat size)) ∧
      leBytes 2 (UInt16.ofNat (leNat size)).toNat = size := by
  have fits : leNat size < 65536 := by
    have digits := leNat_lt size
    rwa [two] at digits
  refine ⟨u16TryFrom_ofNat fits, ?_⟩
  rw [UInt16.toNat_ofNat_of_lt' fits, ← two, leBytes_leNat]

theorem putShortSized_writes (ty : DataType) {size : Bytes} (two : size.length = 2) :
    (TypeInfo.new ty (leNat size)).putShortSized.Writes size () := by
  obtain ⟨narrowed, digits⟩ := leBytes_u16 two
  rw [TypeInfo.putShortSized, TypeInfo.new, narrowed]
  exact Put.writes_iff.mpr ⟨digits, rfl⟩

theorem putCollated_writes (ty : DataType) {size : Bytes} (two : size.length = 2)
    (collation : Collation) :
    (⟨ty, leNat size, 0, 0, some collation⟩ : TypeInfo).putCollated.Writes
      (size ++ (leBytes 4 collation.localeSortVersion ++ [collation.sort])) () := by
  obtain ⟨narrowed, digits⟩ := leBytes_u16 two
  rw [TypeInfo.putCollated, narrowed]
  exact Put.writes_iff.mpr ⟨congrArg (· ++ _) digits, rfl⟩

theorem kept_of_getCollated (collated : TypeInfo.getBody ty = TypeInfo.getCollated ty)
    (put : ∀ typeInfo : TypeInfo, typeInfo.ty = ty → typeInfo.putBody = typeInfo.putCollated)
    (reads : Reads (TypeInfo.getCollated ty) body typeInfo) :
    ∃ written, Kept ty body written typeInfo := by
  obtain ⟨size, word, sort, two, four, rfl, rfl⟩ := reads_getCollated_iff.mp reads
  obtain _ | ⟨low, _ | ⟨high, _ | ⟨more, rest⟩⟩⟩ := size
  case nil | cons.nil | cons.cons.cons => simp at two
  obtain _ | ⟨first, _ | ⟨second, _ | ⟨third, _ | ⟨last, _ | ⟨more, rest⟩⟩⟩⟩⟩ := word
  case nil | cons.nil | cons.cons.nil | cons.cons.cons.nil | cons.cons.cons.cons.cons => simp at four
  have written := putCollated_writes ty two (Collation.ofWord (leNat [first, second, third, last]) sort)
  have digits := leBytes_leNat [first, second, third, last &&& 0xf3]
  rw [Collation.localeSortVersion_ofWord, show (4 : Nat) =
    [first, second, third, last &&& 0xf3].length from rfl, digits] at written
  refine ⟨[low, high] ++ ([first, second, third, last &&& 0xf3] ++ [sort]), rfl, ?_, ?_, rfl⟩
  · rw [put _ rfl]
    exact written
  · rw [collated, ← Collation.ofWord_cleared]
    exact reads_getCollated_iff.mpr ⟨[low, high], _, sort, two, rfl, rfl, rfl⟩

/-- Every type that is read is kept, except DATE: what is written for it has a size. -/
theorem kept_of_reads (other : ty ≠ .dateN) (reads : Reads (TypeInfo.getBody ty) body typeInfo) :
    ∃ written, Kept ty body written typeInfo := by
  cases ty
  case dateN => exact absurd rfl other
  case xml | userDefined | text | image | nText | variant => exact absurd reads not_reads_fail
  case null | tinyInt | bit | smallInt | int | smallDateTime | real | smallMoney | bigInt | money
      | dateTime | float =>
    obtain ⟨rfl, rfl⟩ := reads_pure_iff.mp reads
    exact ⟨[], .whole rfl rfl reads (by decide)⟩
  case timeN | dateTime2N | dateTimeOffsetN =>
    obtain ⟨scale, size, rfl, sized, rfl⟩ := reads_getScaled_iff.mp reads
    exact ⟨[scale], .whole rfl rfl reads (by simp)⟩
  case guid | intN | bitN | floatN | moneyN | dateTimeN | char | varChar | binary | varBinary =>
    obtain ⟨size, rfl, rfl⟩ := reads_getByteSized_iff.mp reads
    exact ⟨[size], .whole rfl (putByteSized_writes _ size) reads (by simp)⟩
  case decimal | numeric | decimalN | numericN =>
    obtain ⟨size, precision, scale, rfl, rfl⟩ := reads_getDecimal_iff.mp reads
    exact ⟨_, .whole rfl (putDecimal_writes _ size precision scale) reads (by simp)⟩
  case bigVarBinary | bigBinary =>
    obtain ⟨two, rfl⟩ := reads_getShortSized_iff.mp reads
    exact ⟨body, .whole rfl (putShortSized_writes _ two) reads (by omega)⟩
  case bigVarChar | bigChar | nVarChar | nChar =>
    apply kept_of_getCollated rfl _ reads
    rintro ⟨ty, size, scale, precision, collation⟩ rfl
    rfl

end bodies

theorem ty_of_reads {ty : DataType} {body : Bytes} {typeInfo : TypeInfo}
    (reads : Reads (TypeInfo.getBody ty) body typeInfo) : typeInfo.ty = ty := by
  by_cases date : ty = .dateN
  · rw [date] at reads ⊢
    exact congrArg TypeInfo.ty (reads_pure_iff.mp reads).2
  · obtain ⟨written, kept⟩ := kept_of_reads date reads
    exact kept.same

theorem scale_le_of_get {input rest : Bytes} {typeInfo : TypeInfo}
    (got : TypeInfo.get input = .ok (typeInfo, rest))
    (scaled : typeInfo.ty ∈ [.timeN, .dateTime2N, .dateTimeOffsetN]) :
    typeInfo.scale.toNat ≤ 7 := by
  obtain ⟨consumed, rfl, reads⟩ := TypeInfo.local_get _ _ _ got
  obtain ⟨ty, body, rfl, bodyReads⟩ := TypeInfo.reads_get_iff.mp reads
  rw [ty_of_reads bodyReads] at scaled
  have getter : TypeInfo.getBody ty = TypeInfo.getScaled ty := by
    simp only [List.mem_cons, List.not_mem_nil, or_false] at scaled
    rcases scaled with rfl | rfl | rfl <;> rfl
  rw [getter] at bodyReads
  obtain ⟨scale, size, rfl, sized, rfl⟩ := reads_getScaled_iff.mp bodyReads
  have widths := TypeInfo.scaledSize_cases sized
  dsimp only
  omega

/-- The TYPE_INFO of a type other than DATE is written as it was read, without the reserved bits of
its collation, and is read back the same. -/
theorem put_of_get (input rest : Bytes) (typeInfo : TypeInfo)
    (got : TypeInfo.get input = .ok (typeInfo, rest)) (other : typeInfo.ty ≠ .dateN) :
    ∃ consumed, input = consumed ++ rest ∧
      typeInfo.put.Writes (withoutReserved consumed) () ∧
      ∀ more, TypeInfo.get (withoutReserved consumed ++ more) = .ok (typeInfo, more) := by
  obtain ⟨consumed, rfl, reads⟩ := TypeInfo.local_get _ _ _ got
  obtain ⟨ty, body, rfl, bodyReads⟩ := TypeInfo.reads_get_iff.mp reads
  refine ⟨_, rfl, ?_⟩
  rw [ty_of_reads bodyReads] at other
  obtain ⟨written, kept⟩ := kept_of_reads other bodyReads
  rw [← kept.cleared]
  constructor
  · have head : (Put.emit [ty.code] : Put BoxDynError Unit).Writes [ty.code] () := rfl
    rw [TypeInfo.put, kept.same]
    exact head.bind kept.put
  · exact TypeInfo.reads_get_iff.mpr ⟨ty, written, rfl, kept.get⟩

/-- An NVARCHAR(4) with one reserved bit of its collation set. -/
theorem put_of_get_nvarchar :
    ∃ consumed, [0xe7, 8, 0, 0x09, 0x04, 0, 0x04, 52, 1, 2] = consumed ++ [1, 2] ∧
      (⟨.nVarChar, 8, 0, 0, some ⟨0x0409, ⟨0⟩, 52, 0⟩⟩ : TypeInfo).put.Writes
        (withoutReserved consumed) () ∧
      ∀ more, TypeInfo.get (withoutReserved consumed ++ more) =
        .ok (⟨.nVarChar, 8, 0, 0, some ⟨0x0409, ⟨0⟩, 52, 0⟩⟩, more) :=
  put_of_get [0xe7, 8, 0, 0x09, 0x04, 0, 0x04, 52, 1, 2] [1, 2] _ (by decide +kernel) (by decide)

/-- A DATE is not read back from what is written for it, and a reserved bit is not written back. -/
theorem not_put_of_get :
    (¬∀ (input rest written more : Bytes) (typeInfo : TypeInfo),
      TypeInfo.get input = .ok (typeInfo, rest) → typeInfo.put.Writes written () →
      TypeInfo.get (written ++ more) = .ok (typeInfo, more)) ∧
    ¬∀ (input rest : Bytes) (typeInfo : TypeInfo), TypeInfo.get input = .ok (typeInfo, rest) →
      ∃ consumed, input = consumed ++ rest ∧ typeInfo.put.Writes consumed () := by
  constructor
  · intro always
    have again := always [0x28] [] [0x28, 3] [] (.new .dateN 3) (by decide +kernel) rfl
    revert again
    decide +kernel
  · intro always
    obtain ⟨consumed, split, writes⟩ := always [0xe7, 8, 0, 0x09, 0x04, 0, 0x04, 52] []
      ⟨.nVarChar, 8, 0, 0, some ⟨0x0409, ⟨0⟩, 52, 0⟩⟩ (by decide +kernel)
    rw [List.append_nil] at split
    rw [← split] at writes
    have bytes := (Put.writes_iff.mp writes).1
    revert bytes
    decide +kernel

end SqlxSqlserver.Protocol
