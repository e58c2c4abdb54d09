import RelayPool.Bytes
import RelayPool.Formats
import RelayPool.Portable.Bounds
import RelayPool.Portable.Canonical

/-! The frame of a portable migration (`services/portable_migration/format.rs`).

A frame is the magic, the manifest behind its length, the transport key, the database behind
its length, and the digest of the database. The reader takes exactly the frames whose parts
agree with one another, however its reads are cut (`framed_payload_accepted_iff`); what the
writer writes is read back, its strict prefixes are truncated and what follows it is trailing
(`framed_payload_round_trip`). -/
namespace RelayPool.Portable
open Formats Bytes Fallible
open Protocol (Bytes)

/-! ### Reads in pieces -/

/-- Reading `remaining` bytes at most `chunk` at a time, until a read yields nothing. -/
def Feed.fill (chunk : Nat) : (fuel remaining : Nat) → Feed → Bytes × Feed
  | fuel + 1, remaining + 1, f =>
    let (bytes, rest) := f.read (min chunk (remaining + 1))
    if bytes = [] then ([], rest)
    else
      let (more, last) := rest.fill chunk fuel (remaining + 1 - bytes.length)
      (bytes ++ more, last)
  | _, _, f => ([], f)

/-- The pieces make up what was asked for, as far as there is any. -/
theorem Feed.fill_eq {chunk fuel : Nat} (remaining : Nat) (f : Feed)
    (pieces : 0 < chunk ∨ remaining = 0) (enough : remaining ≤ fuel) :
    ∃ cuts, f.fill chunk fuel remaining =
      (f.bytes.take remaining, ⟨f.bytes.drop remaining, cuts⟩) := by
  induction fuel generalizing remaining f with
  | zero =>
    obtain rfl : remaining = 0 := Nat.le_zero.mp enough
    exact ⟨f.cuts, rfl⟩
  | succ fuel ih =>
    cases remaining with
    | zero => exact ⟨f.cuts, rfl⟩
    | succ remaining =>
      have asked : 0 < min chunk (remaining + 1) := by omega
      rw [fill, Feed.read]
      generalize most : atMost f.cuts (min chunk (remaining + 1)) = taken
      have some : 0 < taken := most ▸ atMost_pos f.cuts asked
      have few : taken ≤ remaining + 1 :=
        most ▸ (atMost_le f.cuts _).trans (Nat.min_le_right _ _)
      simp only
      split
      · rename_i ended
        have none : f.bytes = [] := (List.take_eq_nil_iff.mp ended).resolve_left (by omega)
        exact ⟨f.cuts.tail, by rw [none, List.drop_nil, List.take_nil, List.drop_nil]⟩
      · rename_i goes
        have length : (f.bytes.take taken).length = min taken f.bytes.length := List.length_take
        have positive := List.length_pos_iff.mpr goes
        obtain ⟨cuts, rest⟩ := ih (remaining + 1 - (f.bytes.take taken).length)
          ⟨f.bytes.drop taken, f.cuts.tail⟩ (by omega) (by omega)
        refine ⟨cuts, ?_⟩
        rw [rest]
        rcases Nat.le_total taken f.bytes.length with inside | outside
        · rw [length, Nat.min_eq_left inside, List.drop_drop, Nat.add_sub_cancel' few,
            ← List.take_append_drop taken (f.bytes.take (remaining + 1)), List.take_take,
            Nat.min_eq_left few, List.drop_take]
        · rw [List.drop_eq_nil_of_le outside, List.take_nil, List.append_nil, List.drop_nil,
            List.take_of_length_le outside, List.take_of_length_le (by omega),
            List.drop_eq_nil_of_le (by omega)]

abbrev Reading := StateT Feed (Except PortableFormatError)

/-- So many bytes, read in pieces. -/
def readChunks (chunk n : Nat) : Reading { bytes : Bytes // bytes.length = n } := fun f =>
  let (bytes, rest) := f.fill chunk n n
  if length : bytes.length = n then .ok (⟨bytes, length⟩, rest) else .error .truncated

def readExactOrTruncated (n : Nat) : Reading { bytes : Bytes // bytes.length = n } :=
  readChunks n n

def readU32Be : Reading UInt32 := do return .ofNat (beNat (← readExactOrTruncated 4).val)

def readU64Be : Reading UInt64 := do return .ofNat (beNat (← readExactOrTruncated 8).val)

/-- An action of the reader reads a format. -/
abbrev Parses {α : Type} (r : Reading α) (format : Bytes → α → Prop) : Prop :=
  Reads Feed.bytes PortableFormatError.truncated r format

theorem readChunks_parses {chunk : Nat} (n : Nat) (pieces : 0 < chunk ∨ n = 0) :
    Parses (readChunks chunk n) fun text bytes => text = bytes.val where
  sound {s bytes s'} ran := by
    obtain ⟨cuts, filled⟩ := Feed.fill_eq n s pieces (Nat.le_refl n)
    rw [readChunks, filled] at ran
    simp only at ran
    split at ran
    · cases ran
      exact ⟨_, (List.take_append_drop n s.bytes).symm, rfl⟩
    · cases ran
  complete := by
    rintro text bytes rfl
    refine ⟨?_, ?_⟩
    · intro s rest starts
      obtain ⟨cuts, filled⟩ := Feed.fill_eq n s pieces (Nat.le_refl n)
      refine ⟨⟨rest, cuts⟩, ?_, rfl⟩
      rw [readChunks, filled, starts]
      simp only [List.take_left' bytes.property, List.drop_left' bytes.property]
      exact dif_pos bytes.property
    · intro s rest nonempty starts
      obtain ⟨cuts, filled⟩ := Feed.fill_eq n s pieces (Nat.le_refl n)
      have lengths := congrArg List.length starts
      rw [bytes.property, List.length_append] at lengths
      have more := List.length_pos_iff.mpr nonempty
      rw [readChunks, filled, List.take_of_length_le (by omega)]
      exact dif_neg (by omega)

theorem readExactOrTruncated_parses (n : Nat) :
    Parses (readExactOrTruncated n) fun text bytes => text = bytes.val :=
  readChunks_parses n (Nat.eq_zero_or_pos n).symm

/-- A number of so many bytes, the high ones first. -/
theorem readBe_parses {α : Type} {ofNat : Nat → α} {toNat : α → Nat} (width : Nat)
    (below : ∀ a, toNat a < 256 ^ width) (toNat_ofNat : ∀ n < 256 ^ width, toNat (ofNat n) = n)
    (ofNat_toNat : ∀ a, ofNat (toNat a) = a) :
    Parses (do return ofNat (beNat (← readExactOrTruncated width).val))
      fun text a => text = beBytes width (toNat a) := by
  refine (readExactOrTruncated_parses width).map.congr fun text a => ⟨?_, ?_⟩
  · rintro ⟨bytes, rfl, rfl⟩
    have small := beNat_lt bytes.val
    have back := beBytes_beNat bytes.val
    rw [bytes.property] at small back
    rw [toNat_ofNat _ small, back]
  · rintro rfl
    refine ⟨⟨beBytes width (toNat a), length_beBytes ..⟩, rfl, ?_⟩
    rw [beNat_beBytes (below a), ofNat_toNat]

theorem readU32Be_parses : Parses readU32Be fun text n => text = beBytes 4 n.toNat :=
  readBe_parses 4 UInt32.toNat_lt (fun _ => UInt32.toNat_ofNat_of_lt')
    fun _ => UInt32.ofNat_toNat

theorem readU64Be_parses : Parses readU64Be fun text n => text = beBytes 8 n.toNat :=
  readBe_parses 8 UInt64.toNat_lt (fun _ => UInt64.toNat_ofNat_of_lt')
    fun _ => UInt64.ofNat_toNat

/-! ### The reader -/

def portableMigrationMagic : Bytes := utf8 "RPDMOVE1"

def sqliteBuffer : Nat := 64 * 1024

structure ParsedPortablePayloadInfo where
  manifest : PortableMigrationManifest
  transportKey : Bytes32
  sqliteSha256 : Bytes32
deriving DecidableEq

/-- The body of `read_framed_payload_to_writer` up to the look for trailing bytes, with what
it has written. -/
def readFrame (codecs : Codecs) (expectedRecordCountKeys : List String)
    (limits : PortableMigrationLimitsV1) : Reading (ParsedPortablePayloadInfo × Bytes) := do
  let magic ← readExactOrTruncated 8
  StateT.lift (require (magic.val = portableMigrationMagic) .unsupportedFraming)
  let manifestLen ← readU32Be
  StateT.lift (require (manifestLen.toNat ≤ limits.maxManifestBytes) .lengthLimitExceeded)
  let manifestBytes ← readExactOrTruncated manifestLen.toNat
  let manifest ←
    StateT.lift (parseManifest codecs manifestBytes.val expectedRecordCountKeys limits)
  let transportKey ← readExactOrTruncated 32
  let sqliteLen ← readU64Be
  StateT.lift (require (sqliteLen.toNat ≤ limits.maxSqliteBytes ∧
    manifest.sqliteSizeBytes = sqliteLen) .lengthLimitExceeded)
  let bound ← StateT.lift (orError .lengthOverflow
    (limits.decryptedPayloadUpperBound manifestLen.toNat sqliteLen.toNat))
  StateT.lift (require (bound ≤ limits.maxAgeFileBytes) .lengthLimitExceeded)
  let sqlite ← readChunks sqliteBuffer sqliteLen.toNat
  let tailDigest ← readExactOrTruncated 32
  let actualDigest := codecs.sha256 sqlite.val
  let manifestDigest ← StateT.lift (decodeSha256Digest codecs.standard manifest.sqliteSha256)
  StateT.lift (require (tailDigest = actualDigest ∧ manifestDigest = actualDigest) .digestMismatch)
  return (⟨manifest, transportKey, actualDigest⟩, sqlite.val)

def readFramedPayloadToWriter (codecs : Codecs) (reader : Feed)
    (expectedRecordCountKeys : List String) (limits : PortableMigrationLimitsV1) :
    Except PortableFormatError (ParsedPortablePayloadInfo × Bytes) := do
  let (parsed, reader) ← (readFrame codecs expectedRecordCountKeys limits).run reader
  require ((reader.read 1).1 = []) .trailingBytes
  return parsed

/-! ### The writer -/

def writeFramedPayload (codecs : Codecs) (manifest : PortableMigrationManifest)
    (transportKey : Bytes32) (sqliteReader : Feed) (expectedRecordCountKeys : List String)
    (limits : PortableMigrationLimitsV1) : Except PortableFormatError (Bytes × Bytes32) := do
  let manifestBytes ← manifest.toCanonicalJson codecs
  let reparsed ← parseManifest codecs manifestBytes expectedRecordCountKeys limits
  require (reparsed = manifest) .manifestInvalid
  require (manifestBytes.length < 2 ^ 32) .lengthLimitExceeded
  require (manifest.sqliteSizeBytes.toNat ≤ limits.maxSqliteBytes) .lengthLimitExceeded
  let bound ← orError .lengthOverflow
    (limits.decryptedPayloadUpperBound manifestBytes.length manifest.sqliteSizeBytes.toNat)
  require (bound ≤ limits.maxAgeFileBytes) .lengthLimitExceeded
  let head := portableMigrationMagic ++ beBytes 4 manifestBytes.length ++ manifestBytes ++
    transportKey.val ++ beBytes 8 manifest.sqliteSizeBytes.toNat
  let (sqlite, sqliteReader) ←
    (readChunks sqliteBuffer manifest.sqliteSizeBytes.toNat).run sqliteReader
  require ((sqliteReader.read 1).1 = []) .trailingBytes
  let digest := codecs.sha256 sqlite.val
  require (codecs.standard.encode digest.val = manifest.sqliteSha256) .digestMismatch
  return (head ++ sqlite.val ++ digest.val, digest)

/-! ### Frames -/

theorem read_one_nil_iff {f : Feed} : (f.read 1).1 = [] ↔ f.bytes = [] := by
  have some := atMost_pos f.cuts Nat.one_pos
  rw [Feed.read, List.take_eq_nil_iff]
  exact or_iff_right (by omega)

/-- The layout. -/
def frame (manifestBytes : Bytes) (transportKey : Bytes32) (sqlite : Bytes)
    (digest : Bytes32) : Bytes :=
  portableMigrationMagic ++ beBytes 4 manifestBytes.length ++ manifestBytes ++ transportKey.val ++
    beBytes 8 sqlite.length ++ sqlite ++ digest.val

/-- The bound of the limits is the length of a frame. -/
theorem upperBound_iff {limits : PortableMigrationLimitsV1} {m n bound : Nat} :
    limits.decryptedPayloadUpperBound m n = some bound ↔
      bound = 84 + m + n ∧ 84 + m + n < 2 ^ 64 := by
  simp only [PortableMigrationLimitsV1.decryptedPayloadUpperBound, checkedAdd, Option.bind_eq_bind,
    Option.bind_eq_some_iff, Option.ite_none_right_eq_some, Option.some.injEq]
  constructor
  · rintro ⟨_, ⟨-, rfl⟩, _, ⟨-, rfl⟩, _, ⟨-, rfl⟩, _, ⟨-, rfl⟩, _, ⟨-, rfl⟩, small, rfl⟩
    omega
  · rintro ⟨rfl, small⟩
    exact ⟨_, ⟨by omega, rfl⟩, _, ⟨by omega, rfl⟩, _, ⟨by omega, rfl⟩, _, ⟨by omega, rfl⟩, _,
      ⟨by omega, rfl⟩, by omega, by omega⟩

/-- The parts of a frame agree with one another and with the limits. -/
structure Agree (codecs : Codecs) (expectedRecordCountKeys : List String)
    (limits : PortableMigrationLimitsV1) (manifestBytes sqlite : Bytes)
    (parsed : ParsedPortablePayloadInfo) : Prop where
  manifest :
    parseManifest codecs manifestBytes expectedRecordCountKeys limits = .ok parsed.manifest
  counted : manifestBytes.length < 2 ^ 32
  size : parsed.manifest.sqliteSizeBytes.toNat = sqlite.length
  within : sqlite.length ≤ limits.maxSqliteBytes
  bounded : 84 + manifestBytes.length + sqlite.length < 2 ^ 64 ∧
    84 + manifestBytes.length + sqlite.length ≤ limits.maxAgeFileBytes
  digest : parsed.sqliteSha256 = codecs.sha256 sqlite
  recorded : decodeSha256Digest codecs.standard parsed.manifest.sqliteSha256 =
    .ok (codecs.sha256 sqlite)

section
variable {codecs : Codecs} {expectedRecordCountKeys : List String}
  {limits : PortableMigrationLimitsV1}

/-- What `readFrame` reads are the frames whose parts agree. -/
theorem readFrame_parses : Parses (readFrame codecs expectedRecordCountKeys limits)
    fun text result => ∃ manifestBytes,
      Agree codecs expectedRecordCountKeys limits manifestBytes result.2 result.1 ∧
        text = frame manifestBytes result.1.transportKey result.2 (codecs.sha256 result.2) := by
  have chunks (n : Nat) : Parses (readChunks sqliteBuffer n) fun text bytes => text = bytes.val :=
    readChunks_parses n (.inl (by decide))
  refine Reads.congr ((readExactOrTruncated_parses 8).bind fun magic =>
    Reads.check <| readU32Be_parses.bind fun manifestLen =>
    Reads.check <| (readExactOrTruncated_parses manifestLen.toNat).bind fun manifestBytes =>
    Reads.value fun manifest =>
    (readExactOrTruncated_parses 32).bind fun transportKey =>
    readU64Be_parses.bind fun sqliteLen =>
    Reads.check <| Reads.value fun bound =>
    Reads.check <| (chunks sqliteLen.toNat).bind fun sqlite =>
    (readExactOrTruncated_parses 32).bind fun tailDigest =>
    Reads.value fun manifestDigest =>
    Reads.check <| Reads.lift (.ok
      ((⟨manifest, transportKey, codecs.sha256 sqlite.val⟩ : ParsedPortablePayloadInfo),
        sqlite.val))) fun text result => ⟨?_, ?_⟩
  · rintro ⟨magic, _, _, rfl, ⟨isMagic, manifestLen, _, _, rfl, ⟨-, manifestBytes, _, _, rfl,
      ⟨manifest, parsed, transportKey, _, _, rfl, ⟨sqliteLen, _, _, rfl, ⟨fits, bound, isBound,
      below, sqlite, _, _, rfl, ⟨tailDigest, _, _, rfl, ⟨manifestDigest, recorded, digests, rfl,
      result⟩, rfl⟩, rfl⟩, rfl⟩, rfl⟩, rfl⟩, rfl⟩, rfl⟩
    cases result
    obtain ⟨within, size⟩ := require_ok.mp fits
    obtain ⟨tail, stored⟩ := require_ok.mp digests
    obtain ⟨rfl, small⟩ := upperBound_iff.mp (orError_ok.mp isBound)
    have manifestLength : manifestBytes.val.length = manifestLen.toNat := manifestBytes.property
    have sqliteLength : sqlite.val.length = sqliteLen.toNat := sqlite.property
    refine ⟨manifestBytes.val, ⟨parsed, ?_, ?_, ?_, ?_, rfl, stored ▸ recorded⟩, ?_⟩
    · rw [manifestLength]
      exact manifestLen.toNat_lt
    · rw [size, sqliteLength]
    · rw [sqliteLength]
      exact within
    · rw [manifestLength, sqliteLength]
      exact ⟨small, require_ok.mp below⟩
    · rw [frame, ← require_ok.mp isMagic, manifestLength, sqliteLength, tail]
      simp only [List.append_assoc, List.append_nil]
  · obtain ⟨⟨manifest, transportKey, digest⟩, sqlite⟩ := result
    rintro ⟨manifestBytes, agree, rfl⟩
    obtain rfl : digest = codecs.sha256 sqlite := agree.digest
    have manifestLength : (UInt32.ofNat manifestBytes.length).toNat = manifestBytes.length :=
      UInt32.toNat_ofNat_of_lt' agree.counted
    have sqliteLength : manifest.sqliteSizeBytes.toNat = sqlite.length := agree.size
    refine ⟨⟨portableMigrationMagic, by decide +kernel⟩, _, _, rfl, ⟨require_ok.mpr rfl,
      .ofNat manifestBytes.length, _, _, rfl, ⟨require_ok.mpr ?_,
      ⟨manifestBytes, manifestLength.symm⟩, _, _, rfl, ⟨manifest, agree.manifest, transportKey,
      _, _, rfl, ⟨manifest.sqliteSizeBytes, _, _, rfl, ⟨require_ok.mpr ⟨?_, rfl⟩, _,
      orError_ok.mpr (upperBound_iff.mpr ⟨rfl, ?_⟩), require_ok.mpr ?_,
      ⟨sqlite, sqliteLength.symm⟩, _, _, rfl, ⟨codecs.sha256 sqlite, _, _, rfl,
      ⟨codecs.sha256 sqlite, agree.recorded, require_ok.mpr ⟨rfl, rfl⟩, rfl, rfl⟩, rfl⟩, rfl⟩,
      rfl⟩, rfl⟩, rfl⟩, rfl⟩, ?_⟩
    · rw [manifestLength]
      exact length_le_of_parseManifest agree.manifest
    · rw [sqliteLength]
      exact agree.within
    · rw [manifestLength, sqliteLength]
      exact agree.bounded.1
    · rw [manifestLength, sqliteLength]
      exact agree.bounded.2
    · simp only [frame, manifestLength, sqliteLength, List.append_assoc, List.append_nil]

/-- Such a frame is read, whatever its reads. -/
theorem read_of_agree {reader : Feed} {parsed : ParsedPortablePayloadInfo}
    {manifestBytes sqlite : Bytes}
    (agree : Agree codecs expectedRecordCountKeys limits manifestBytes sqlite parsed)
    (starts : reader.bytes =
      frame manifestBytes parsed.transportKey sqlite (codecs.sha256 sqlite)) :
    readFramedPayloadToWriter codecs reader expectedRecordCountKeys limits =
      .ok (parsed, sqlite) := by
  have takes := readFrame_parses.complete (a := (parsed, sqlite)) ⟨manifestBytes, agree, rfl⟩
  obtain ⟨rest, ran, ended⟩ := takes.whole reader [] (starts.trans (List.append_nil _).symm)
  exact bind_ok.mpr ⟨_, ran, then_ok.mpr ⟨require_ok.mpr (read_one_nil_iff.mpr ended), rfl⟩⟩

/-- The reader accepts exactly the frames whose parts agree, however its reads are cut. -/
theorem framed_payload_accepted_iff {reader : Feed} {parsed : ParsedPortablePayloadInfo}
    {sqlite : Bytes} :
    readFramedPayloadToWriter codecs reader expectedRecordCountKeys limits = .ok (parsed, sqlite) ↔
      ∃ manifestBytes,
        Agree codecs expectedRecordCountKeys limits manifestBytes sqlite parsed ∧
          reader.bytes =
            frame manifestBytes parsed.transportKey sqlite (codecs.sha256 sqlite) := by
  constructor
  · intro read
    obtain ⟨⟨result, rest⟩, ran, checked⟩ := bind_ok.mp read
    obtain ⟨ended, same⟩ := then_ok.mp checked
    cases same
    obtain ⟨text, starts, manifestBytes, agree, rfl⟩ := readFrame_parses.sound ran
    exact ⟨manifestBytes, agree, by rw [starts, read_one_nil_iff.mp (require_ok.mp ended),
      List.append_nil]⟩
  · rintro ⟨manifestBytes, agree, starts⟩
    exact read_of_agree agree starts

/-- What is written is a frame whose parts agree, with the database in it. -/
theorem writeFramedPayload_ok
    {manifest : PortableMigrationManifest} {transportKey digest : Bytes32} {sqliteReader : Feed}
    {written : Bytes}
    (wrote : writeFramedPayload codecs manifest transportKey sqliteReader expectedRecordCountKeys
      limits = .ok (written, digest)) :
    ∃ manifestBytes, Agree codecs expectedRecordCountKeys limits manifestBytes sqliteReader.bytes
        ⟨manifest, transportKey, digest⟩ ∧
      written = frame manifestBytes transportKey sqliteReader.bytes
        (codecs.sha256 sqliteReader.bytes) := by
  rw [writeFramedPayload] at wrote
  obtain ⟨manifestBytes, -, wrote⟩ := bind_ok.mp wrote
  obtain ⟨reparsed, parsed, wrote⟩ := bind_ok.mp wrote
  obtain ⟨same, wrote⟩ := then_ok.mp wrote
  obtain ⟨counted, wrote⟩ := then_ok.mp wrote
  obtain ⟨within, wrote⟩ := then_ok.mp wrote
  obtain ⟨bound, isBound, wrote⟩ := bind_ok.mp wrote
  obtain ⟨below, wrote⟩ := then_ok.mp wrote
  obtain ⟨⟨sqlite, rest⟩, ran, wrote⟩ := bind_ok.mp wrote
  obtain ⟨ended, wrote⟩ := then_ok.mp wrote
  obtain ⟨digests, result⟩ := then_ok.mp wrote
  cases result
  obtain rfl := require_ok.mp same
  obtain ⟨rfl, small⟩ := upperBound_iff.mp (orError_ok.mp isBound)
  obtain ⟨text, starts, rfl⟩ := (readChunks_parses _ (.inl (by decide))).sound ran
  rw [read_one_nil_iff.mp (require_ok.mp ended), List.append_nil] at starts
  have size := sqlite.property
  obtain ⟨stored, decoded⟩ := decodes_of_parseManifest parsed
  obtain rfl : codecs.sha256 sqlite.val = stored :=
    Subtype.ext (codecs.standard.encode_inj
      ((require_ok.mp digests).trans (decodeSha256Digest_ok decoded).symm))
  rw [starts]
  refine ⟨manifestBytes, ⟨parsed, require_ok.mp counted, size.symm, ?_, ?_, rfl, decoded⟩, ?_⟩
  · rw [size]
    exact require_ok.mp within
  · rw [size]
    exact ⟨small, require_ok.mp below⟩
  · rw [frame, size]

/-- What the writer writes is read back, no strict prefix of it is a frame, and nothing may
follow it. -/
theorem framed_payload_round_trip
    {manifest : PortableMigrationManifest} {transportKey digest : Bytes32} {sqliteReader : Feed}
    {written : Bytes}
    (wrote : writeFramedPayload codecs manifest transportKey sqliteReader expectedRecordCountKeys
      limits = .ok (written, digest)) (cuts : List Nat) :
    readFramedPayloadToWriter codecs ⟨written, cuts⟩ expectedRecordCountKeys limits =
        .ok (⟨manifest, transportKey, digest⟩, sqliteReader.bytes) ∧
      (∀ n < written.length,
        readFramedPayloadToWriter codecs ⟨written.take n, cuts⟩ expectedRecordCountKeys limits =
          .error .truncated) ∧
      ∀ suffix ≠ [],
        readFramedPayloadToWriter codecs ⟨written ++ suffix, cuts⟩ expectedRecordCountKeys limits =
          .error .trailingBytes := by
  obtain ⟨manifestBytes, agree, layout⟩ := writeFramedPayload_ok wrote
  have takes := readFrame_parses.complete
    (a := (⟨manifest, transportKey, digest⟩, sqliteReader.bytes)) ⟨manifestBytes, agree, layout⟩
  refine ⟨read_of_agree agree layout, fun n short => ?_, fun suffix more => ?_⟩
  · have rest : written.drop n ≠ [] := fun none =>
      absurd (List.drop_eq_nil_iff.mp none) (Nat.not_le.mpr short)
    rw [readFramedPayloadToWriter, StateT.run,
      takes.cut ⟨written.take n, cuts⟩ _ rest (List.take_append_drop n written).symm]
    rfl
  · obtain ⟨rest, ran, left⟩ := takes.whole ⟨written ++ suffix, cuts⟩ suffix rfl
    have trailing : ¬ (rest.read 1).1 = [] := fun ended =>
      more (left.symm.trans (read_one_nil_iff.mp ended))
    rw [readFramedPayloadToWriter, StateT.run, ran]
    show (do require ((rest.read 1).1 = []) .trailingBytes; _) = _
    rw [require, if_neg trailing]
    rfl

end

def sampleKey : Bytes32 := ⟨List.replicate 32 7, List.length_replicate⟩

def sampleFrame : Bytes := frame sampleText sampleKey [97, 98, 99] sampleDigest

theorem framed_payload_round_trip_sample :
    readFramedPayloadToWriter sampleCodecs ⟨sampleFrame, [0, 6, 2]⟩ ["stations", "station_keys"]
        .current =
      .ok (⟨sampleManifest, sampleKey, sampleDigest⟩, [97, 98, 99]) := by
  have wrote : writeFramedPayload sampleCodecs sampleManifest sampleKey
      ⟨[97, 98, 99], [0]⟩ ["stations", "station_keys"] .current =
      .ok (sampleFrame, sampleDigest) := by decide +kernel
  exact (framed_payload_round_trip wrote [0, 6, 2]).1

end RelayPool.Portable
