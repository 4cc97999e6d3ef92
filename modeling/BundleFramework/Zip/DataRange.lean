import BundleFramework.Zip.ZipFile

/-!
# Where the data of an entry are

`GetDataOffsetRelative` tells callers where the data of an entry stand, `ExtractFile` reads
them.  Both start at the same place, and no sum wraps; but the query leaves out the bound
that `SeekToEntryStartInternal` checks:

    InsideArchive bytes name ↔ ¬ Overruns bytes name            (insideArchive_iff)

With a data descriptor the bound holds all the same, because the descriptor is read behind
the data.
-/

namespace BundleFramework.Zip

open Std ByteFile

/-! ## The opened archive -/

/-- The shape of an opened archive: entries are there only if the length is known. -/
structure Opened (bytes : Bytes) (z : ZipFile) : Prop where
  file : z.file.bytes = bytes
  start : z.fileStartPos = 0
  length : z.fileLength = bytes.length ∨ z.entriesMap = ∅

theorem parseAllEntries_frame (z : ZipFile) (count currentPos : Nat) :
    (z.parseAllEntries count currentPos).2.file = z.file ∧
    (z.parseAllEntries count currentPos).2.fileStartPos = z.fileStartPos ∧
    (z.parseAllEntries count currentPos).2.fileLength = z.fileLength := by
  induction count generalizing z currentPos with
  | zero => exact ⟨rfl, rfl, rfl⟩
  | succ count ih =>
    unfold ZipFile.parseAllEntries
    cases z.parseEntry currentPos with
    | none => exact ⟨rfl, rfl, rfl⟩
    | some p => exact ih { z with entriesMap := z.entriesMap.insert p.1.fileName p.1 } p.2

theorem opened_openArchive (bytes : Bytes) : Opened bytes (ZipFile.openArchive bytes).2 := by
  unfold ZipFile.openArchive
  dsimp only
  split
  · exact ⟨rfl, rfl, Or.inr rfl⟩
  · split
    · exact ⟨rfl, rfl, Or.inr rfl⟩
    · split
      · exact ⟨rfl, rfl, Or.inr rfl⟩
      · next endDir _ =>
        obtain ⟨hfile, hstart, hlength⟩ := parseAllEntries_frame
          { file := { bytes := bytes }, fileStartPos := 0, fileLength := bytes.length - 0, entriesMap := ∅ }
          endDir.totalEntries.toNat (wrap64 (endDir.offset.toNat + 0))
        refine ⟨?_, hstart, Or.inl hlength⟩
        rw [hfile]

theorem Opened.length_of_entry {bytes : Bytes} {z : ZipFile} (h : Opened bytes z) {name : Bytes} {e : ZipEntry}
    (he : z.entriesMap[name]? = some e) : z.fileLength = bytes.length := by
  rcases h.length with hl | hempty
  · exact hl
  · rw [hempty, ExtTreeMap.getElem?_empty] at he
    cases he

/-! ## What a coherent entry is -/

theorem nameLength_le (nameSize : UInt16) : nameLength nameSize ≤ nameSize.toNat ∧ nameLength nameSize < MAX_FILE_PATH := by
  unfold nameLength MAX_FILE_PATH
  split <;> omega

/-- What the coherency check has established when it succeeds. -/
structure Agrees (z : ZipFile) (zipEntry : ZipEntry) (localHeader : LocalHeader) : Prop where
  header : ∃ file, z.readLocalHeader zipEntry = some (localHeader, file)
  method : zipEntry.compressionMethod = Z_DEFLATED ∨ zipEntry.compressionMethod = 0
  name : zipEntry.fileName.length = nameLength localHeader.nameSize
  sizes : z.checkDataDescInternal zipEntry localHeader = true

theorem checkCoherency_eq_some {z : ZipFile} {zipEntry : ZipEntry} {extraSize : UInt16}
    (h : z.checkCoherencyLocalHeaderInternal zipEntry = some extraSize) :
    ∃ localHeader, Agrees z zipEntry localHeader ∧ localHeader.extraSize = extraSize := by
  unfold ZipFile.checkCoherencyLocalHeaderInternal at h
  split at h
  · cases h
  · next localHeader file hread =>
    split at h
    · cases h
    · split at h
      · cases h
      · next hmethod =>
        split at h
        · cases h
        · next hname =>
          split at h
          · cases h
          · split at h
            · cases h
            · split at h
              · cases h
              · next hdesc =>
                refine ⟨localHeader, ⟨⟨file, hread⟩, ?_, ?_, ?_⟩, Option.some.inj h⟩
                · by_contra hm
                  rw [not_or] at hm
                  exact hmethod hm
                · exact (not_not.mp hname).symm
                · simpa using hdesc

/-! ## Offsets -/

section
variable {bytes : Bytes} {z : ZipFile} {zipEntry : ZipEntry} {localHeader : LocalHeader}

/-- **No sum wraps**: the offset of the data, as an unbounded sum. -/
theorem Agrees.offset_eq (h : Agrees z zipEntry localHeader) (hz : Opened bytes z) :
    z.getEntryDataOffset zipEntry localHeader.extraSize =
      zipEntry.localHeaderOffset.toNat + LOCAL_HEADER_SIZE + zipEntry.fileName.length + localHeader.extraSize.toNat := by
  have hname := (nameLength_le localHeader.nameSize).2
  rw [← h.name] at hname
  have ho := zipEntry.localHeaderOffset.toNat_lt
  have hx := localHeader.extraSize.toNat_lt
  have hlen : (UInt16.ofNat zipEntry.fileName.length).toNat = zipEntry.fileName.length := by
    rw [UInt16.toNat_ofNat']
    unfold MAX_FILE_PATH at hname
    omega
  unfold ZipFile.getEntryDataOffset getLocalHeaderSize wrap64 LOCAL_HEADER_SIZE
  unfold MAX_FILE_PATH at hname
  rw [hz.start, hlen]
  omega

/-- The place that `ExtractFile` seeks is the one that the query reports. -/
theorem seek_eq (h : Agrees z zipEntry localHeader) (hz : Opened bytes z) :
    z.seekToEntryStartInternal zipEntry localHeader.extraSize =
      if z.getEntryDataOffset zipEntry localHeader.extraSize + zipEntry.compressedSize.toNat > z.fileLength then none
      else some { z.file with pos := z.getEntryDataOffset zipEntry localHeader.extraSize } := by
  have hoffset := h.offset_eq hz
  have hname := (nameLength_le localHeader.nameSize).2
  rw [← h.name] at hname
  have ho := zipEntry.localHeaderOffset.toNat_lt
  have hx := localHeader.extraSize.toNat_lt
  have hc := zipEntry.compressedSize.toNat_lt
  unfold MAX_FILE_PATH at hname
  have hstart : wrap64 (zipEntry.localHeaderOffset.toNat +
      getLocalHeaderSize (UInt16.ofNat zipEntry.fileName.length) localHeader.extraSize) =
      z.getEntryDataOffset zipEntry localHeader.extraSize := by
    unfold ZipFile.getEntryDataOffset wrap64
    rw [hz.start]
    omega
  unfold ZipFile.seekToEntryStartInternal
  dsimp only
  rw [hstart, hz.start]
  unfold LOCAL_HEADER_SIZE at hoffset
  have hsum : wrap64 (z.getEntryDataOffset zipEntry localHeader.extraSize + zipEntry.compressedSize.toNat) =
      z.getEntryDataOffset zipEntry localHeader.extraSize + zipEntry.compressedSize.toNat := by
    unfold wrap64
    omega
  have hzero : wrap64 (z.getEntryDataOffset zipEntry localHeader.extraSize + 0) =
      z.getEntryDataOffset zipEntry localHeader.extraSize := by
    unfold wrap64
    omega
  rw [hsum, hzero]
  split
  · rfl
  · unfold File.fseek
    rw [if_pos (by omega)]

/-- With a data descriptor the data end inside the archive. -/
theorem Agrees.inside_of_dataDesc (h : Agrees z zipEntry localHeader) (hz : Opened bytes z)
    (hdesc : usesDataDesc localHeader = true) :
    z.getEntryDataOffset zipEntry localHeader.extraSize + zipEntry.compressedSize.toNat ≤ bytes.length := by
  have hsizes := h.sizes
  unfold ZipFile.checkDataDescInternal at hsizes
  rw [if_pos hdesc] at hsizes
  have hread : ∃ d, z.readDataDesc zipEntry localHeader = some d := by
    split at hsizes
    · cases hsizes
    · next d hd => exact ⟨d, hd⟩
  obtain ⟨d, hd⟩ := hread
  unfold ZipFile.readDataDesc at hd
  simp only [Option.bind_eq_bind, Option.bind_eq_some_iff] at hd
  obtain ⟨file, hseek, ⟨raw, file'⟩, hobject, -⟩ := hd
  obtain ⟨hin, -, -⟩ := freadObject_eq_some hobject
  rw [fseek_eq_some hseek, hz.file] at hin
  dsimp only at hin
  have hoffset := h.offset_eq hz
  have hname := (nameLength_le localHeader.nameSize).1
  rw [← h.name] at hname
  have ho := zipEntry.localHeaderOffset.toNat_lt
  have hx := localHeader.extraSize.toNat_lt
  have hn := localHeader.nameSize.toNat_lt
  have hc := zipEntry.compressedSize.toNat_lt
  unfold ZipFile.descPos getLocalHeaderSize wrap64 at hin
  rw [hz.start] at hin
  unfold LOCAL_HEADER_SIZE at hoffset hin
  omega

end

/-! ## What the loops read -/

/-- The store loop reads from where it stands to the end of the data at most, and on
success to their end. -/
theorem storeLoop_pos (fuel remainSize : Nat) (file : File) (dest : Bytes) :
    (storeLoop fuel remainSize file dest).2.2.pos ≤ file.pos + remainSize ∧
    ((storeLoop fuel remainSize file dest).1 = true →
      (storeLoop fuel remainSize file dest).2.2.pos = file.pos + remainSize) := by
  induction fuel generalizing remainSize file dest with
  | zero =>
    cases remainSize with
    | zero => exact ⟨Nat.le_refl _, fun _ => rfl⟩
    | succ n => exact ⟨Nat.le_add_right _ _, fun h => by cases h⟩
  | succ fuel ih =>
    cases remainSize with
    | zero => exact ⟨Nat.le_refl _, fun _ => rfl⟩
    | succ n =>
      unfold storeLoop
      dsimp only [File.freadBytes]
      have hlen : (range file.bytes file.pos (min (n + 1) UNZIP_BUF_OUT_LEN)).length ≤ n + 1 := by
        rw [length_range]
        omega
      split
      · dsimp only
        exact ⟨by omega, fun h => by cases h⟩
      · obtain ⟨hle, hall⟩ := ih
          (n + 1 - (range file.bytes file.pos (min (n + 1) UNZIP_BUF_OUT_LEN)).length)
          { file with pos := file.pos + (range file.bytes file.pos (min (n + 1) UNZIP_BUF_OUT_LEN)).length }
          (dest ++ range file.bytes file.pos (min (n + 1) UNZIP_BUF_OUT_LEN))
        dsimp only at hle hall
        exact ⟨by omega, fun h => by rw [hall h]; omega⟩

/-- A refill moves bytes from what is left of the file to the input buffer. -/
theorem readZStream_spec {s s' : InflateState} (h : readZStream s = some s') :
    s'.file.pos + s'.remainCompressedSize = s.file.pos + s.remainCompressedSize ∧
    s.file.pos ≤ s'.file.pos ∧
    s'.input.length + s'.remainCompressedSize = s.input.length + s.remainCompressedSize ∧
    s'.dest = s.dest ∧ s'.file.bytes = s.file.bytes := by
  unfold readZStream at h
  split at h
  · next hempty =>
    dsimp only [File.freadBytes] at h
    split at h
    · cases h
    · have hlen : (range s.file.bytes s.file.pos (min s.remainCompressedSize UNZIP_BUF_IN_LEN)).length ≤
          s.remainCompressedSize := by
        rw [length_range]
        omega
      obtain rfl := Option.some.inj h
      dsimp only
      rw [hempty, List.length_nil]
      exact ⟨by omega, by omega, by omega, rfl, rfl⟩
  · obtain rfl := Option.some.inj h
    exact ⟨rfl, Nat.le_refl _, rfl, rfl, rfl⟩

/-- What a round after the call leaves of the state. -/
theorem inflateRound_frame (s : InflateState) (a : InflateAnswer) :
    (inflateRound s a).2.file = s.file ∧
    (inflateRound s a).2.remainCompressedSize = s.remainCompressedSize := by
  unfold inflateRound
  split <;> exact ⟨rfl, rfl⟩

/-- The inflate loop likewise. -/
theorem inflateLoop_pos {answers : List InflateAnswer} {s s' : InflateState} {ret : Bool}
    (h : inflateLoop answers s = some (ret, s')) :
    s'.file.pos ≤ s.file.pos + s.remainCompressedSize ∧
    (ret = true → s'.file.pos = s.file.pos + s.remainCompressedSize) := by
  induction answers generalizing s with
  | nil =>
    unfold inflateLoop at h
    split at h
    · next hdone =>
      obtain ⟨-, rfl⟩ := Prod.mk.inj (Option.some.inj h)
      rw [hdone.1]
      exact ⟨Nat.le_refl _, fun _ => rfl⟩
    · split at h
      · obtain ⟨rfl, rfl⟩ := Prod.mk.inj (Option.some.inj h)
        exact ⟨Nat.le_add_right _ _, fun hr => by cases hr⟩
      · cases h
  | cons a answers ih =>
    unfold inflateLoop at h
    split at h
    · cases h
    · split at h
      · cases h
      · next s₁ hread =>
        obtain ⟨hsum, -⟩ := readZStream_spec hread
        obtain ⟨hfile, hremain⟩ := inflateRound_frame s₁ a
        split at h
        · cases h
        · split at h
          · next s₂ hround =>
            rw [hround] at hfile hremain
            dsimp only at hfile hremain
            split at h
            · obtain ⟨rfl, rfl⟩ := Prod.mk.inj (Option.some.inj h)
              rw [hfile]
              exact ⟨by omega, fun hr => by cases hr⟩
            · cases h
          · next s₂ hround =>
            rw [hround] at hfile hremain
            dsimp only at hfile hremain
            obtain ⟨hle, hall⟩ := ih h
            rw [hfile, hremain] at hle hall
            exact ⟨by omega, fun hr => by rw [hall hr]; omega⟩

/-! ## The query and the extraction -/

/-- What an extraction reads stands at the offset and is no more than the length, and on
success just as much. -/
def ReadsFrom (r : Unzipped) (offset length : Nat) : Prop :=
  (∀ start, r.start = some start → start = offset ∧ r.read ≤ length) ∧
  (r.ret = true → r.start = some offset ∧ r.read = length)

theorem readsFrom_refused {offset length : Nat} : ReadsFrom { ret := false } offset length :=
  ⟨fun _ h => absurd h (Option.some_ne_none _).symm, fun h => absurd h Bool.false_ne_true⟩

/-- An extraction that has moved the file from `pos` to `pos'`. -/
theorem readsFrom_of_pos {r : Unzipped} {pos pos' length : Nat} (hstart : r.start = some pos)
    (hread : r.read = pos' - pos) (hle : pos' ≤ pos + length) (hret : r.ret = true → pos' = pos + length) :
    ReadsFrom r pos length := by
  refine ⟨fun start hs => ⟨?_, by omega⟩, fun h => ⟨hstart, ?_⟩⟩
  · exact Option.some.inj (hs.symm.trans hstart)
  · have := hret h
    omega

theorem unzipWithStore_readsFrom {bytes : Bytes} {z : ZipFile} (hz : Opened bytes z) {zipEntry : ZipEntry}
    {localHeader : LocalHeader} (hagrees : Agrees z zipEntry localHeader) :
    ReadsFrom (z.unzipWithStore zipEntry localHeader.extraSize)
      (z.getEntryDataOffset zipEntry localHeader.extraSize) zipEntry.compressedSize.toNat := by
  unfold ZipFile.unzipWithStore
  rw [seek_eq hagrees hz]
  split
  · next hnone => exact readsFrom_refused
  · next file hsome =>
    split at hsome
    · cases hsome
    · obtain rfl := Option.some.inj hsome
      have hpos := storeLoop_pos zipEntry.compressedSize.toNat zipEntry.compressedSize.toNat
        { z.file with pos := z.getEntryDataOffset zipEntry localHeader.extraSize } []
      split
      next ret dest file' hloop =>
      rw [hloop] at hpos
      obtain ⟨hle, hret⟩ := hpos
      exact readsFrom_of_pos rfl rfl hle hret

theorem unzipWithInflated_readsFrom {bytes : Bytes} {z : ZipFile} (hz : Opened bytes z) {zipEntry : ZipEntry}
    {localHeader : LocalHeader} (hagrees : Agrees z zipEntry localHeader) {zlib : ZlibAnswers} {r : Unzipped}
    (hr : z.unzipWithInflated zlib zipEntry localHeader.extraSize = some r) :
    ReadsFrom r (z.getEntryDataOffset zipEntry localHeader.extraSize) zipEntry.compressedSize.toNat := by
  unfold ZipFile.unzipWithInflated at hr
  rw [seek_eq hagrees hz] at hr
  split at hr
  · obtain rfl := Option.some.inj hr
    exact readsFrom_refused
  · next file hsome =>
    split at hsome
    · cases hsome
    · obtain rfl := Option.some.inj hsome
      split at hr
      · obtain rfl := Option.some.inj hr
        exact ⟨fun start hs => ⟨(Option.some.inj hs).symm, Nat.zero_le _⟩, fun hret => by cases hret⟩
      · split at hr
        · cases hr
        · next ret s hloop =>
          obtain rfl := Option.some.inj hr
          obtain ⟨hle, hret⟩ := inflateLoop_pos hloop
          exact readsFrom_of_pos rfl rfl hle fun h => hret (Bool.and_eq_true_iff.mp h).1

/-- **Same place**: `ExtractFile` reads where the query says. -/
theorem extractFile_readsFrom {bytes : Bytes} {z : ZipFile} (hz : Opened bytes z) {name : Bytes} {zipEntry : ZipEntry}
    {localHeader : LocalHeader} (he : z.entriesMap[name]? = some zipEntry)
    (hcheck : z.checkCoherencyLocalHeaderInternal zipEntry = some localHeader.extraSize)
    (hagrees : Agrees z zipEntry localHeader) {zlib : ZlibAnswers} {r : Unzipped}
    (hr : z.extractFile zlib name = some r) :
    ReadsFrom r (z.getEntryDataOffset zipEntry localHeader.extraSize) zipEntry.compressedSize.toNat := by
  unfold ZipFile.extractFile at hr
  rw [he] at hr
  dsimp only at hr
  rw [hcheck] at hr
  dsimp only at hr
  split at hr
  · obtain rfl := Option.some.inj hr
    exact unzipWithStore_readsFrom hz hagrees
  · exact unzipWithInflated_readsFrom hz hagrees hr

/-- The range that the query reports for an entry is inside the archive, and is the one that
`ExtractFile` reads. -/
def InsideArchive (bytes name : Bytes) : Prop :=
  ∀ offset length, (ZipFile.openArchive bytes).2.getDataOffsetRelative name = some (offset, length) →
    (offset + length.toNat ≤ bytes.length ∧ offset + length.toNat < 2 ^ 64) ∧
    ∀ zlib r, (ZipFile.openArchive bytes).2.extractFile zlib name = some r → ReadsFrom r offset length.toNat

/-- The entry passes the check without a data descriptor, and the sizes that its headers give
lead past the end. -/
def Overruns (bytes name : Bytes) : Prop :=
  ∃ zipEntry extraSize localHeader file, (ZipFile.openArchive bytes).2.entriesMap[name]? = some zipEntry ∧
    (ZipFile.openArchive bytes).2.checkCoherencyLocalHeaderInternal zipEntry = some extraSize ∧
    (ZipFile.openArchive bytes).2.readLocalHeader zipEntry = some (localHeader, file) ∧
    usesDataDesc localHeader = false ∧
    bytes.length < zipEntry.localHeaderOffset.toNat + LOCAL_HEADER_SIZE + zipEntry.fileName.length +
      extraSize.toNat + zipEntry.compressedSize.toNat

/-- **Where the query can be trusted**: for every archive and name, exactly where the entry
does not overrun the archive. -/
theorem insideArchive_iff (bytes name : Bytes) : InsideArchive bytes name ↔ ¬ Overruns bytes name := by
  have hz := opened_openArchive bytes
  unfold InsideArchive Overruns
  generalize (ZipFile.openArchive bytes).2 = z at hz
  constructor
  · rintro h ⟨zipEntry, extraSize, localHeader, file, he, hcheck, -, -, hlong⟩
    obtain ⟨header, hagrees, rfl⟩ := checkCoherency_eq_some hcheck
    have hget : z.getDataOffsetRelative name =
        some (z.getEntryDataOffset zipEntry header.extraSize, zipEntry.compressedSize) := by
      simp [ZipFile.getDataOffsetRelative, he, hcheck]
    have hin := (h _ _ hget).1.1
    rw [hagrees.offset_eq hz] at hin
    omega
  · intro h offset length hget
    simp only [ZipFile.getDataOffsetRelative, Option.bind_eq_bind, Option.bind_eq_some_iff, Option.some.injEq,
      Prod.mk.injEq] at hget
    obtain ⟨zipEntry, he, extraSize, hcheck, rfl, rfl⟩ := hget
    obtain ⟨header, hagrees, rfl⟩ := checkCoherency_eq_some hcheck
    refine ⟨?_, fun zlib r hr => extractFile_readsFrom hz he hcheck hagrees hr⟩
    have hoffset := hagrees.offset_eq hz
    have hname := (nameLength_le header.nameSize).2
    rw [← hagrees.name] at hname
    unfold MAX_FILE_PATH at hname
    have ho := zipEntry.localHeaderOffset.toNat_lt
    have hx := header.extraSize.toNat_lt
    have hc := zipEntry.compressedSize.toNat_lt
    refine ⟨?_, by unfold LOCAL_HEADER_SIZE at hoffset; omega⟩
    cases hdesc : usesDataDesc header with
    | true => exact hagrees.inside_of_dataDesc hz hdesc
    | false =>
      by_contra hlong
      obtain ⟨file, hread⟩ := hagrees.header
      refine h ⟨zipEntry, header.extraSize, header, file, he, hcheck, hread, hdesc, ?_⟩
      omega

/-- An archive of one entry `a`, with the sizes that its headers give and the data behind the
local header. -/
def oneEntryArchive (method compressedSize uncompressedSize : UInt8) (data : Bytes) : Bytes :=
  [0x50, 0x4b, 0x03, 0x04, 10, 0, 0, 0, method, 0, 0, 0, 0, 0, 0, 0, 0, 0, compressedSize, 0, 0, 0,
    uncompressedSize, 0, 0, 0, 1, 0, 0, 0, 0x61] ++ data ++
  [0x50, 0x4b, 0x01, 0x02, 10, 0, 10, 0, 0, 0, method, 0, 0, 0, 0, 0, 0, 0, 0, 0, compressedSize, 0, 0, 0,
    uncompressedSize, 0, 0, 0, 1, 0, 0, 0, 0, 0, 0, 0, 0, 0, 0, 0, 0, 0, 0, 0, 0, 0, 0x61] ++
  [0x50, 0x4b, 0x05, 0x06, 0, 0, 0, 0, 1, 0, 1, 0, 47, 0, 0, 0, UInt8.ofNat (31 + data.length), 0, 0, 0, 0, 0]

/-- **Past the end**: the query reports 200 bytes at offset 31 of an archive of 100 bytes. -/
theorem query_past_the_end :
    (oneEntryArchive 0 200 200 []).length = 100 ∧
    (ZipFile.openArchive (oneEntryArchive 0 200 200 [])).2.getDataOffsetRelative [0x61] = some (31, 200) ∧
    ¬ InsideArchive (oneEntryArchive 0 200 200 []) [0x61] := by
  have hget : (ZipFile.openArchive (oneEntryArchive 0 200 200 [])).2.getDataOffsetRelative [0x61] =
      some (31, 200) := by decide +kernel
  refine ⟨by decide, hget, fun h => ?_⟩
  have hin := (h _ _ hget).1.1
  exact absurd hin (by decide)

end BundleFramework.Zip
