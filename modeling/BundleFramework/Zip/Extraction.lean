import BundleFramework.Zip.DataRange

/-!
# What an extraction writes

`ExtractFile` returns true without comparing what it wrote with `uncompressedSize`, and
without looking at the code of the last `inflate`.  A successful extraction therefore writes
the entry

    stored:    iff compressedSize = uncompressedSize
    deflated:  iff the compressed bytes inflate to uncompressedSize bytes and the last call
               reached the end of the stream                     (extractFile_exact_iff)

for names shorter than `MAX_FILE_PATH`; the data of an entry with a longer name are looked
for in its name.
-/

namespace BundleFramework.Zip

open Std ByteFile

/-! ## The deflate format and zlib -/

/-- Raw deflate streams: the result of a complete one.  A stream has at least a block
header. -/
structure RawDeflate where
  inflated : Bytes → Option Bytes
  nil : inflated [] = none

def usedBytes (answers : List InflateAnswer) : Nat := (answers.map (·.used)).sum

def outBytes (answers : List InflateAnswer) : Bytes := answers.flatMap (·.out)

/-- What zlib documents of `Z_STREAM_END`: the end of the stream has been reached and all its
output has been produced. -/
def Documented (format : RawDeflate) (compressed : Bytes) (answers : List InflateAnswer) : Prop :=
  ∀ pre a, pre ++ [a] <+: answers →
    (a.code = Z_STREAM_END ↔ format.inflated (compressed.take (usedBytes (pre ++ [a]))) = some (outBytes (pre ++ [a])))

/-! ## Specification -/

/-- Where the data of an entry start, by its local header. -/
def dataStart (zipEntry : ZipEntry) (localHeader : LocalHeader) : Nat :=
  zipEntry.localHeaderOffset.toNat + LOCAL_HEADER_SIZE + localHeader.nameSize.toNat + localHeader.extraSize.toNat

def compressedBytes (bytes : Bytes) (zipEntry : ZipEntry) (localHeader : LocalHeader) : Bytes :=
  range bytes (dataStart zipEntry localHeader) zipEntry.compressedSize.toNat

/-- The bytes written are those of the entry. -/
def WritesEntry (format : RawDeflate) (bytes : Bytes) (zipEntry : ZipEntry) (localHeader : LocalHeader)
    (dest : Bytes) : Prop :=
  dest.length = zipEntry.uncompressedSize.toNat ∧
  if zipEntry.compressionMethod = 0 then
    dest = range bytes (dataStart zipEntry localHeader) zipEntry.uncompressedSize.toNat
  else format.inflated (compressedBytes bytes zipEntry localHeader) = some dest

/-- What the code leaves unchecked: the sizes of a stored entry; of a deflated one the size of
the result, and that the last call reached the end of the stream. -/
def Unchecked (format : RawDeflate) (bytes : Bytes) (zlib : ZlibAnswers) (zipEntry : ZipEntry)
    (localHeader : LocalHeader) : Prop :=
  if zipEntry.compressionMethod = 0 then zipEntry.compressedSize = zipEntry.uncompressedSize
  else (∃ result, format.inflated (compressedBytes bytes zipEntry localHeader) = some result ∧
      result.length = zipEntry.uncompressedSize.toNat) ∧
    ∃ a, zlib.inflate.getLast? = some a ∧ a.code = Z_STREAM_END

/-! ## The loops -/

/-- The store loop copies the range. -/
theorem storeLoop_eq {fuel remainSize : Nat} {file : File} (dest : Bytes) (hfuel : remainSize ≤ fuel)
    (hin : file.pos + remainSize ≤ file.bytes.length) :
    storeLoop fuel remainSize file dest =
      (true, dest ++ range file.bytes file.pos remainSize, { file with pos := file.pos + remainSize }) := by
  induction fuel generalizing remainSize file dest with
  | zero =>
    obtain rfl : remainSize = 0 := by omega
    simp [storeLoop]
  | succ fuel ih =>
    cases remainSize with
    | zero => simp [storeLoop]
    | succ n =>
      have hlen : (range file.bytes file.pos (min (n + 1) UNZIP_BUF_OUT_LEN)).length =
          min (n + 1) UNZIP_BUF_OUT_LEN := length_range_of_le (by omega)
      have hpos : 0 < min (n + 1) UNZIP_BUF_OUT_LEN := by
        rw [lt_min_iff]
        exact ⟨Nat.succ_pos n, by decide⟩
      unfold storeLoop
      dsimp only [File.freadBytes]
      rw [hlen, if_neg (by omega), ih _ (by omega) (by dsimp only; omega)]
      dsimp only
      have hsum : min (n + 1) UNZIP_BUF_OUT_LEN + (n + 1 - min (n + 1) UNZIP_BUF_OUT_LEN) = n + 1 := by omega
      rw [List.append_assoc, range_append, Nat.add_assoc, hsum]

theorem inflateRound_continue {s s' : InflateState} {a : InflateAnswer} (h : inflateRound s a = (false, s')) :
    s'.input = s.input.drop a.used ∧ s'.dest = s.dest ++ a.out := by
  unfold inflateRound at h
  split at h
  · cases (Prod.mk.inj h).1
  · obtain ⟨-, rfl⟩ := Prod.mk.inj h
    exact ⟨rfl, rfl⟩

/-- The inflate loop that runs to its end has handed over every compressed byte and has
written every byte it was given. -/
theorem inflateLoop_true {answers : List InflateAnswer} {s s' : InflateState}
    (h : inflateLoop answers s = some (true, s')) :
    usedBytes answers = s.input.length + s.remainCompressedSize ∧ s'.dest = s.dest ++ outBytes answers := by
  induction answers generalizing s with
  | nil =>
    unfold inflateLoop at h
    split at h
    · next hdone =>
      obtain ⟨-, rfl⟩ := Prod.mk.inj (Option.some.inj h)
      rw [hdone.1, hdone.2]
      exact ⟨rfl, (List.append_nil _).symm⟩
    · split at h
      · cases (Prod.mk.inj (Option.some.inj h)).1
      · cases h
  | cons a answers ih =>
    unfold inflateLoop at h
    split at h
    · cases h
    · split at h
      · cases h
      · next s₁ hread =>
        obtain ⟨-, -, hlen, hdest, -⟩ := readZStream_spec hread
        obtain ⟨-, hremain⟩ := inflateRound_frame s₁ a
        split at h
        · cases h
        · next hfits =>
          split at h
          · split at h
            · cases (Prod.mk.inj (Option.some.inj h)).1
            · cases h
          · next s₂ hround =>
            rw [hround] at hremain
            obtain ⟨hinput, hdest₂⟩ := inflateRound_continue hround
            obtain ⟨hused, hdest'⟩ := ih h
            dsimp only at hremain
            rw [hinput, List.length_drop, hremain] at hused
            constructor
            · show (a.used :: answers.map (·.used)).sum = _
              rw [List.sum_cons]
              change usedBytes answers = _ at hused
              unfold usedBytes at hused
              omega
            · rw [hdest', hdest₂, hdest]
              simp [outBytes]

/-! ## The extraction -/

section
variable {bytes name : Bytes} {z : ZipFile} {zipEntry : ZipEntry} {localHeader : LocalHeader}

/-- For a name that is not cut the data start where the local header says. -/
theorem Agrees.offset_eq_dataStart (h : Agrees z zipEntry localHeader) (hz : Opened bytes z)
    (hname : localHeader.nameSize.toNat < MAX_FILE_PATH) :
    z.getEntryDataOffset zipEntry localHeader.extraSize = dataStart zipEntry localHeader := by
  have hcut : nameLength localHeader.nameSize = localHeader.nameSize.toNat := if_neg (by omega)
  rw [h.offset_eq hz, h.name, hcut]
  rfl

/-- A stored entry is copied with its compressed size. -/
theorem store_dest (h : Agrees z zipEntry localHeader) (hz : Opened bytes z)
    (hlength : z.fileLength = bytes.length) (hname : localHeader.nameSize.toNat < MAX_FILE_PATH)
    (hret : (z.unzipWithStore zipEntry localHeader.extraSize).ret = true) :
    dataStart zipEntry localHeader + zipEntry.compressedSize.toNat ≤ bytes.length ∧
    (z.unzipWithStore zipEntry localHeader.extraSize).dest = compressedBytes bytes zipEntry localHeader := by
  unfold ZipFile.unzipWithStore at hret ⊢
  rw [seek_eq h hz, h.offset_eq_dataStart hz hname, hlength] at hret ⊢
  split at hret
  · cases hret
  · next file hsome =>
    split at hsome
    · cases hsome
    · next hin =>
      obtain rfl := Option.some.inj hsome
      rw [storeLoop_eq [] (Nat.le_refl _) (by rw [hz.file]; dsimp only; omega)]
      refine ⟨by omega, ?_⟩
      dsimp only
      rw [List.nil_append, hz.file]
      rfl

/-- A deflated entry: every compressed byte is handed to zlib, and what it gave is written. -/
theorem inflate_dest (h : Agrees z zipEntry localHeader) (hz : Opened bytes z)
    (hlength : z.fileLength = bytes.length) (hname : localHeader.nameSize.toNat < MAX_FILE_PATH) {zlib : ZlibAnswers}
    {r : Unzipped} (hr : z.unzipWithInflated zlib zipEntry localHeader.extraSize = some r) (hret : r.ret = true) :
    dataStart zipEntry localHeader + zipEntry.compressedSize.toNat ≤ bytes.length ∧
    usedBytes zlib.inflate = zipEntry.compressedSize.toNat ∧ r.dest = outBytes zlib.inflate := by
  unfold ZipFile.unzipWithInflated at hr
  rw [seek_eq h hz, h.offset_eq_dataStart hz hname, hlength] at hr
  split at hr
  · obtain rfl := Option.some.inj hr
    cases hret
  · next file hsome =>
    split at hsome
    · cases hsome
    · next hin =>
      split at hr
      · obtain rfl := Option.some.inj hr
        cases hret
      · split at hr
        · cases hr
        · next ret s hloop =>
          obtain rfl := Option.some.inj hr
          rw [Bool.and_eq_true] at hret
          rw [hret.1] at hloop
          obtain ⟨hused, hdest⟩ := inflateLoop_true hloop
          refine ⟨by omega, ?_, hdest⟩
          rw [hused]
          exact Nat.zero_add _

/-- zlib's answers to a whole stream: they amount to the result exactly when the last one is
`Z_STREAM_END`. -/
theorem inflated_iff {format : RawDeflate} {compressed : Bytes} {answers : List InflateAnswer}
    (hdoc : Documented format compressed answers) (hused : usedBytes answers = compressed.length) :
    format.inflated compressed = some (outBytes answers) ↔ ∃ a, answers.getLast? = some a ∧ a.code = Z_STREAM_END := by
  rcases List.eq_nil_or_concat answers with rfl | ⟨pre, a, rfl⟩
  · have hnil : compressed = [] := List.eq_nil_of_length_eq_zero hused.symm
    subst hnil
    rw [format.nil]
    simp
  · rw [List.concat_eq_append] at hdoc hused ⊢
    have hlast := hdoc pre a (List.prefix_refl _)
    rw [hused, List.take_length] at hlast
    rw [List.getLast?_append]
    constructor
    · intro h
      exact ⟨a, rfl, hlast.mpr h⟩
    · rintro ⟨a', ha', hcode⟩
      obtain rfl := Option.some.inj ha'
      exact hlast.mp hcode

end

/-- **What a successful extraction writes**: for every archive, entry and behaviour of zlib,
it is the entry exactly when what the code leaves unchecked holds. -/
theorem extractFile_exact_iff (format : RawDeflate) (bytes name : Bytes) (zlib : ZlibAnswers)
    {zipEntry : ZipEntry} {localHeader : LocalHeader} {file : File} {r : Unzipped}
    (he : (ZipFile.openArchive bytes).2.entriesMap[name]? = some zipEntry)
    (hheader : (ZipFile.openArchive bytes).2.readLocalHeader zipEntry = some (localHeader, file))
    (hname : localHeader.nameSize.toNat < MAX_FILE_PATH)
    (hdoc : Documented format (compressedBytes bytes zipEntry localHeader) zlib.inflate)
    (hr : (ZipFile.openArchive bytes).2.extractFile zlib name = some r) (hret : r.ret = true) :
    WritesEntry format bytes zipEntry localHeader r.dest ↔ Unchecked format bytes zlib zipEntry localHeader := by
  have hz := opened_openArchive bytes
  have hlength := hz.length_of_entry he
  generalize (ZipFile.openArchive bytes).2 = z at *
  unfold ZipFile.extractFile at hr
  rw [he] at hr
  dsimp only at hr
  split at hr
  · obtain rfl := Option.some.inj hr
    cases hret
  · next extraSize hcheck =>
    obtain ⟨header, hagrees, rfl⟩ := checkCoherency_eq_some hcheck
    obtain ⟨file', hread⟩ := hagrees.header
    obtain rfl : header = localHeader := by
      rw [hheader] at hread
      exact (Prod.mk.inj (Option.some.inj hread)).1.symm
    unfold WritesEntry Unchecked
    split at hr
    · next hstored =>
      obtain rfl := Option.some.inj hr
      rw [if_pos hstored, if_pos hstored]
      obtain ⟨hin, hdest⟩ := store_dest hagrees hz hlength hname hret
      rw [hdest]
      have hlen : (compressedBytes bytes zipEntry header).length = zipEntry.compressedSize.toNat :=
        length_range_of_le hin
      rw [hlen]
      constructor
      · rintro ⟨hsize, -⟩
        exact UInt32.toNat_inj.mp hsize
      · intro hsize
        rw [← hsize]
        exact ⟨rfl, rfl⟩
    · next hdeflated =>
      rw [if_neg hdeflated, if_neg hdeflated]
      obtain ⟨hin, hused, hdest⟩ := inflate_dest hagrees hz hlength hname hr hret
      have hlen : (compressedBytes bytes zipEntry header).length = zipEntry.compressedSize.toNat :=
        length_range_of_le hin
      have hwhole := inflated_iff hdoc (hused.trans hlen.symm)
      rw [hdest]
      constructor
      · rintro ⟨hsize, hinflated⟩
        exact ⟨⟨_, hinflated, hsize⟩, hwhole.mp hinflated⟩
      · rintro ⟨⟨result, hresult, hsize⟩, hend⟩
        have hinflated := hwhole.mpr hend
        rw [hresult] at hinflated
        obtain rfl := Option.some.inj hinflated
        exact ⟨hsize, hresult⟩

/-- A single call. -/
theorem documented_singleton {format : RawDeflate} {compressed : Bytes} {a : InflateAnswer}
    (h : a.code = Z_STREAM_END ↔ format.inflated (compressed.take a.used) = some a.out) :
    Documented format compressed [a] := by
  intro pre a' hpre
  cases pre with
  | nil =>
    obtain rfl : a' = a := (List.cons_prefix_cons.mp hpre).1
    simpa [usedBytes, outBytes] using h
  | cons b pre =>
    have hlen := hpre.length_le
    simp at hlen

/-- The stream of the fixed code that holds the letter `a`, and no other one. -/
def letterStream : RawDeflate where
  inflated c := if c = [0x4b, 0x04, 0x00] then some [0x61] else none
  nil := by decide

/-- One call takes the three bytes, gives the letter and reaches the end. -/
def letterAnswers : ZlibAnswers := ⟨true, [⟨Z_STREAM_END, false, 3, [0x61]⟩], Z_OK⟩

def letterEntry : ZipEntry := ⟨8, 1, 3, 0, 0, 0, [0x61]⟩

theorem extractFile_exact_iff_letter :
    ∃ r localHeader, (ZipFile.openArchive (oneEntryArchive 8 3 1 [0x4b, 0x04, 0x00])).2.extractFile letterAnswers
        [0x61] = some r ∧ r.ret = true ∧ r.dest = [0x61] ∧
      (WritesEntry letterStream (oneEntryArchive 8 3 1 [0x4b, 0x04, 0x00]) letterEntry localHeader r.dest ↔
        Unchecked letterStream (oneEntryArchive 8 3 1 [0x4b, 0x04, 0x00]) letterAnswers letterEntry localHeader) :=
  ⟨{ ret := true, dest := [0x61], start := some 31, read := 3 },
    LocalHeader.ofBytes (oneEntryArchive 8 3 1 [0x4b, 0x04, 0x00]), by decide +kernel, rfl, rfl,
    extractFile_exact_iff letterStream _ [0x61] letterAnswers (by decide +kernel) rfl (by decide +kernel)
      (documented_singleton (by decide +kernel)) (by decide +kernel) rfl⟩

/-- The first byte of the stream alone: zlib takes it and has nothing to give yet. -/
def cutAnswers : ZlibAnswers := ⟨true, [⟨Z_OK, false, 1, []⟩], Z_OK⟩

/-- **Extractions that are no copies**: a stored entry of one byte that should have none, and
a deflated entry whose stream is cut after its first byte, both reported as extracted. -/
theorem extracted_but_wrong :
    ¬ (∀ (format : RawDeflate) (bytes name : Bytes) (zlib : ZlibAnswers) (zipEntry : ZipEntry)
        (localHeader : LocalHeader) (file : File) (r : Unzipped),
      (ZipFile.openArchive bytes).2.entriesMap[name]? = some zipEntry →
      (ZipFile.openArchive bytes).2.readLocalHeader zipEntry = some (localHeader, file) →
      Documented format (compressedBytes bytes zipEntry localHeader) zlib.inflate →
      (ZipFile.openArchive bytes).2.extractFile zlib name = some r → r.ret = true →
      WritesEntry format bytes zipEntry localHeader r.dest) ∧
    (ZipFile.openArchive (oneEntryArchive 0 1 0 [0x78])).2.extractFile ⟨true, [], Z_OK⟩ [0x61] =
      some { ret := true, dest := [0x78], start := some 31, read := 1 } ∧
    (ZipFile.openArchive (oneEntryArchive 8 1 1 [0x4b])).2.extractFile cutAnswers [0x61] =
      some { ret := true, dest := [], start := some 31, read := 1 } := by
  have hcut : (ZipFile.openArchive (oneEntryArchive 8 1 1 [0x4b])).2.extractFile cutAnswers [0x61] =
      some { ret := true, dest := [], start := some 31, read := 1 } := by decide +kernel
  refine ⟨fun h => ?_, by decide +kernel, hcut⟩
  have hwrites := h letterStream _ [0x61] cutAnswers ⟨8, 1, 1, 0, 0, 0, [0x61]⟩
    (LocalHeader.ofBytes (oneEntryArchive 8 1 1 [0x4b])) _ _ (by decide +kernel) rfl
    (documented_singleton (by decide +kernel)) hcut rfl
  exact absurd hwrites.1 (by decide)

end BundleFramework.Zip
