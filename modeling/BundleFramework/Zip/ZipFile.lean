import BundleFramework.Lib.ByteFile
import Mathlib

/-!
# Reading an archive

`zip_file.cpp`: the archive is opened over all its bytes, its directory is parsed into
`entriesMap_`, and an entry is checked against its local header before its data are located
(`getDataOffsetRelative`) or written out (`extractFile`).

Fields keep the widths of the packed headers; fields that no function reads are left out.
Positions are unsigned integers of 64 bits, their sums are taken modulo `2 ^ 64`.  A stream
given as destination is the bytes written to it.

zlib is not part of the repository.  What it answers during one extraction is an input
(`ZlibAnswers`): `none` as a result says that the answers are not those of this extraction,
because they are too few, too many, or overstep their buffers.
-/

namespace BundleFramework.Zip

open Std ByteFile

def MAX_FILE_PATH : Nat := 4096
def UNZIP_BUFFER_SIZE : Nat := 1024
def UNZIP_BUF_IN_LEN : Nat := 160 * UNZIP_BUFFER_SIZE
def UNZIP_BUF_OUT_LEN : Nat := 320 * UNZIP_BUFFER_SIZE
def LOCAL_HEADER_SIGNATURE : UInt32 := 0x04034b50
def CENTRAL_SIGNATURE : UInt32 := 0x02014b50
def EOCD_SIGNATURE : UInt32 := 0x06054b50
def DATA_DESC_SIGNATURE : UInt32 := 0x08074b50
def FLAG_DATA_DESC : UInt16 := 0x8
def INFLATE_ERROR_TIMES : Nat := 5

def Z_OK : Int := 0
def Z_STREAM_END : Int := 1
def Z_DEFLATED : UInt16 := 8

/-- A sum of unsigned integers of 64 bits. -/
def wrap64 (n : Nat) : Nat := n % 2 ^ 64

/-! ## Headers -/

/-- `sizeof` of the packed structures. -/
def LOCAL_HEADER_SIZE : Nat := 30
def CENTRAL_DIR_ENTRY_SIZE : Nat := 46
def END_DIR_SIZE : Nat := 22
def DATA_DESC_SIZE : Nat := 16

structure LocalHeader where
  signature : UInt32
  flags : UInt16
  compressionMethod : UInt16
  crc : UInt32
  compressedSize : UInt32
  uncompressedSize : UInt32
  nameSize : UInt16
  extraSize : UInt16

def LocalHeader.ofBytes (b : Bytes) : LocalHeader where
  signature := u32At b 0
  flags := u16At b 6
  compressionMethod := u16At b 8
  crc := u32At b 14
  compressedSize := u32At b 18
  uncompressedSize := u32At b 22
  nameSize := u16At b 26
  extraSize := u16At b 28

structure CentralDirEntry where
  signature : UInt32
  flags : UInt16
  compressionMethod : UInt16
  crc : UInt32
  compressedSize : UInt32
  uncompressedSize : UInt32
  nameSize : UInt16
  extraSize : UInt16
  commentSize : UInt16
  localHeaderOffset : UInt32

def CentralDirEntry.ofBytes (b : Bytes) : CentralDirEntry where
  signature := u32At b 0
  flags := u16At b 8
  compressionMethod := u16At b 10
  crc := u32At b 16
  compressedSize := u32At b 20
  uncompressedSize := u32At b 24
  nameSize := u16At b 28
  extraSize := u16At b 30
  commentSize := u16At b 32
  localHeaderOffset := u32At b 42

structure EndDir where
  signature : UInt32
  numDisk : UInt16
  startDiskOfCentralDir : UInt16
  totalEntriesInThisDisk : UInt16
  totalEntries : UInt16
  sizeOfCentralDir : UInt32
  offset : UInt32
  commentLen : UInt16

def EndDir.ofBytes (b : Bytes) : EndDir where
  signature := u32At b 0
  numDisk := u16At b 4
  startDiskOfCentralDir := u16At b 6
  totalEntriesInThisDisk := u16At b 8
  totalEntries := u16At b 10
  sizeOfCentralDir := u32At b 12
  offset := u32At b 16
  commentLen := u16At b 20

structure DataDesc where
  signature : UInt32
  crc : UInt32
  compressedSize : UInt32
  uncompressedSize : UInt32

def DataDesc.ofBytes (b : Bytes) : DataDesc where
  signature := u32At b 0
  crc := u32At b 4
  compressedSize := u32At b 8
  uncompressedSize := u32At b 12

structure ZipEntry where
  compressionMethod : UInt16
  uncompressedSize : UInt32
  compressedSize : UInt32
  localHeaderOffset : UInt32
  crc : UInt32
  flags : UInt16
  fileName : Bytes
  deriving DecidableEq

def ZipEntry.ofCentral (centralEntry : CentralDirEntry) (fileName : Bytes) : ZipEntry where
  compressionMethod := centralEntry.compressionMethod
  uncompressedSize := centralEntry.uncompressedSize
  compressedSize := centralEntry.compressedSize
  localHeaderOffset := centralEntry.localHeaderOffset
  crc := centralEntry.crc
  flags := centralEntry.flags
  fileName := fileName

/-! ## Opening -/

abbrev ZipEntryMap := ExtTreeMap Bytes ZipEntry

structure ZipFile where
  file : File
  fileStartPos : Nat
  fileLength : Nat
  entriesMap : ZipEntryMap

def ZipFile.checkEndDir (z : ZipFile) (endDir : EndDir) : Bool :=
  endDir.numDisk = 0 ∧ endDir.signature = EOCD_SIGNATURE ∧ endDir.startDiskOfCentralDir = 0 ∧
    ¬ endDir.offset.toNat ≥ z.fileLength ∧ endDir.totalEntriesInThisDisk = endDir.totalEntries ∧
    endDir.commentLen = 0 ∧
    ¬ (endDir.sizeOfCentralDir.toNat > z.fileLength ∨
      endDir.offset.toNat > z.fileLength - endDir.sizeOfCentralDir.toNat ∨
      END_DIR_SIZE > z.fileLength - endDir.offset.toNat - endDir.sizeOfCentralDir.toNat)

def ZipFile.parseEndDirectory (z : ZipFile) : Option EndDir :=
  if z.fileLength ≤ END_DIR_SIZE then none
  else do
    let file ← z.file.fseek (wrap64 (z.fileStartPos + z.fileLength) - END_DIR_SIZE)
    let (raw, _) ← file.freadObject END_DIR_SIZE
    if z.checkEndDir (EndDir.ofBytes raw) then some (EndDir.ofBytes raw) else none

/-- The length of a name that is read: longer names are cut. -/
def nameLength (nameSize : UInt16) : Nat :=
  if nameSize.toNat ≥ MAX_FILE_PATH then MAX_FILE_PATH - 1 else nameSize.toNat

/-- One round of the loop: the entry, and the position of the next one. -/
def ZipFile.parseEntry (z : ZipFile) (currentPos : Nat) : Option (ZipEntry × Nat) := do
  let file ← z.file.fseek currentPos
  let (raw, file) ← file.freadObject CENTRAL_DIR_ENTRY_SIZE
  let directoryEntry := CentralDirEntry.ofBytes raw
  if directoryEntry.signature ≠ CENTRAL_SIGNATURE then none
  else do
    let (fileName, _) ← file.freadObject (nameLength directoryEntry.nameSize)
    some (ZipEntry.ofCentral directoryEntry fileName,
      wrap64 (wrap64 (currentPos + CENTRAL_DIR_ENTRY_SIZE) +
        (directoryEntry.nameSize.toNat + directoryEntry.extraSize.toNat + directoryEntry.commentSize.toNat)))

/-- The entries before the first broken one are kept. -/
def ZipFile.parseAllEntries (z : ZipFile) : Nat → Nat → Bool × ZipFile
  | 0, _ => (true, z)
  | count + 1, currentPos =>
    match z.parseEntry currentPos with
    | none => (false, z)
    | some (entry, nextPos) =>
      ZipFile.parseAllEntries { z with entriesMap := z.entriesMap.insert entry.fileName entry } count nextPos

/-- `Open` of a file with these bytes.  No caller sets a content location, so the archive is
the whole file. -/
def ZipFile.openArchive (bytes : Bytes) : Bool × ZipFile :=
  let closed : ZipFile := { file := { bytes := bytes }, fileStartPos := 0, fileLength := 0, entriesMap := ∅ }
  -- `ftell` reports a position as a signed integer of 64 bits
  if bytes.length ≥ 2 ^ 63 then (false, closed)
  else if closed.fileStartPos ≥ bytes.length then (false, closed)
  else
    let z : ZipFile := { closed with fileLength := bytes.length - closed.fileStartPos }
    match z.parseEndDirectory with
    | none => (false, z)
    | some endDir => z.parseAllEntries endDir.totalEntries.toNat (wrap64 (endDir.offset.toNat + z.fileStartPos))

/-! ## Coherency with the local header -/

def getLocalHeaderSize (nameSize extraSize : UInt16) : Nat := LOCAL_HEADER_SIZE + nameSize.toNat + extraSize.toNat

/-- The position after the data, by the local header. -/
def ZipFile.descPos (z : ZipFile) (zipEntry : ZipEntry) (localHeader : LocalHeader) : Nat :=
  wrap64 (wrap64 (zipEntry.localHeaderOffset.toNat + getLocalHeaderSize localHeader.nameSize localHeader.extraSize) +
    wrap64 (z.fileStartPos + zipEntry.compressedSize.toNat))

def ZipFile.readDataDesc (z : ZipFile) (zipEntry : ZipEntry) (localHeader : LocalHeader) : Option DataDesc := do
  let file ← z.file.fseek (z.descPos zipEntry localHeader)
  let (raw, _) ← file.freadObject DATA_DESC_SIZE
  if (DataDesc.ofBytes raw).signature ≠ DATA_DESC_SIGNATURE then none else some (DataDesc.ofBytes raw)

def usesDataDesc (localHeader : LocalHeader) : Bool := localHeader.flags &&& FLAG_DATA_DESC ≠ 0

def ZipFile.checkDataDescInternal (z : ZipFile) (zipEntry : ZipEntry) (localHeader : LocalHeader) : Bool :=
  if usesDataDesc localHeader then
    match z.readDataDesc zipEntry localHeader with
    | none => false
    | some dataDesc => zipEntry.crc = dataDesc.crc ∧ zipEntry.compressedSize = dataDesc.compressedSize ∧
        zipEntry.uncompressedSize = dataDesc.uncompressedSize
  else zipEntry.crc = localHeader.crc ∧ zipEntry.compressedSize = localHeader.compressedSize ∧
    zipEntry.uncompressedSize = localHeader.uncompressedSize

/-- The local header of an entry, and the handle behind it. -/
def ZipFile.readLocalHeader (z : ZipFile) (zipEntry : ZipEntry) : Option (LocalHeader × File) :=
  if zipEntry.localHeaderOffset.toNat ≥ z.fileLength then none
  else do
    let file ← z.file.fseek (wrap64 (z.fileStartPos + zipEntry.localHeaderOffset.toNat))
    let (raw, file) ← file.freadObject LOCAL_HEADER_SIZE
    some (LocalHeader.ofBytes raw, file)

/-- The extra size of the local header, when the entry agrees with it. -/
def ZipFile.checkCoherencyLocalHeaderInternal (z : ZipFile) (zipEntry : ZipEntry) : Option UInt16 :=
  match z.readLocalHeader zipEntry with
  | none => none
  | some (localHeader, file) =>
    if localHeader.signature ≠ LOCAL_HEADER_SIGNATURE ∨
        zipEntry.compressionMethod ≠ localHeader.compressionMethod then none
    else if zipEntry.compressionMethod ≠ Z_DEFLATED ∧ zipEntry.compressionMethod ≠ 0 then none
    else if nameLength localHeader.nameSize ≠ zipEntry.fileName.length then none
    else match file.freadObject (nameLength localHeader.nameSize) with
      | none => none
      | some (fileName, _) =>
        if zipEntry.fileName ≠ fileName then none
        else if !z.checkDataDescInternal zipEntry localHeader then none
        else some localHeader.extraSize

/-! ## Where the data are -/

/-- The name is passed by its length in the entry. -/
def ZipFile.getEntryDataOffset (z : ZipFile) (zipEntry : ZipEntry) (extraSize : UInt16) : Nat :=
  wrap64 (wrap64 (zipEntry.localHeaderOffset.toNat +
    getLocalHeaderSize (UInt16.ofNat zipEntry.fileName.length) extraSize) + z.fileStartPos)

def ZipFile.getDataOffsetRelative (z : ZipFile) (file : Bytes) : Option (Nat × UInt32) := do
  let zipEntry ← z.entriesMap[file]?
  let extraSize ← z.checkCoherencyLocalHeaderInternal zipEntry
  some (z.getEntryDataOffset zipEntry extraSize, zipEntry.compressedSize)

def ZipFile.seekToEntryStartInternal (z : ZipFile) (zipEntry : ZipEntry) (extraSize : UInt16) : Option File :=
  let startOffset := wrap64 (zipEntry.localHeaderOffset.toNat +
    getLocalHeaderSize (UInt16.ofNat zipEntry.fileName.length) extraSize)
  if wrap64 (startOffset + zipEntry.compressedSize.toNat) > z.fileLength then none
  else z.file.fseek (wrap64 (startOffset + z.fileStartPos))

/-! ## Extraction -/

/-- How an extraction ends. -/
structure Unzipped where
  ret : Bool
  dest : Bytes := []
  /-- where the data were read from, once the seek has succeeded -/
  start : Option Nat := none
  /-- how many bytes were read there -/
  read : Nat := 0
  deriving DecidableEq

/-- A round reads at least one byte, so `remainSize` rounds are enough (`fuel`). -/
def storeLoop : Nat → Nat → File → Bytes → Bool × Bytes × File
  | _, 0, file, dest => (true, dest, file)
  | 0, _ + 1, file, dest => (false, dest, file)
  | fuel + 1, remainSize + 1, file, dest =>
    let got := file.freadBytes (min (remainSize + 1) UNZIP_BUF_OUT_LEN)
    if got.1.length = 0 then (false, dest, got.2)
    else storeLoop fuel (remainSize + 1 - got.1.length) got.2 (dest ++ got.1)

def ZipFile.unzipWithStore (z : ZipFile) (zipEntry : ZipEntry) (extraSize : UInt16) : Unzipped :=
  match z.seekToEntryStartInternal zipEntry extraSize with
  | none => { ret := false }
  | some file =>
    match storeLoop zipEntry.compressedSize.toNat zipEntry.compressedSize.toNat file [] with
    | (ret, dest, file') => { ret := ret, dest := dest, start := some file.pos, read := file'.pos - file.pos }

/-- What one call of `inflate` reports: its code, whether `msg` is set, the bytes it took
from the input buffer and those it put into the output buffer. -/
structure InflateAnswer where
  code : Int
  msg : Bool
  used : Nat
  out : Bytes

/-- What zlib answers during one extraction. -/
structure ZlibAnswers where
  initZStream : Bool
  inflate : List InflateAnswer
  inflateEnd : Int

/-- The state of the loop: `input` is what `next_in` and `avail_in` leave of the input
buffer.  The output buffer is empty before every call. -/
structure InflateState where
  file : File
  remainCompressedSize : Nat
  input : Bytes := []
  errorTimes : Nat := 0
  dest : Bytes := []

def readZStream (s : InflateState) : Option InflateState :=
  if s.input = [] then
    let got := s.file.freadBytes (min s.remainCompressedSize UNZIP_BUF_IN_LEN)
    if got.1.length = 0 then none
    else some { s with
      file := got.2, remainCompressedSize := s.remainCompressedSize - got.1.length, input := got.1 }
  else some s

/-- The rest of a round, after the call.  The boolean says that the loop is left. -/
def inflateRound (s : InflateState) (a : InflateAnswer) : Bool × InflateState :=
  if a.code ≥ Z_OK ∧ a.msg = true then (true, s)
  else
    let s := { s with
      input := s.input.drop a.used
      dest := s.dest ++ a.out
      errorTimes := if a.out.length > 0 then 0 else s.errorTimes + 1 }
    (decide (s.errorTimes ≥ INFLATE_ERROR_TIMES), s)

def inflateLoop : List InflateAnswer → InflateState → Option (Bool × InflateState)
  | [], s =>
    if s.remainCompressedSize = 0 ∧ s.input = [] then some (true, s)
    else match readZStream s with
      | none => some (false, s)
      | some _ => none
  | a :: answers, s =>
    if s.remainCompressedSize = 0 ∧ s.input = [] then none
    else match readZStream s with
      | none => none
      | some s =>
        if s.input.length < a.used ∨ UNZIP_BUF_OUT_LEN < a.out.length then none
        else match inflateRound s a with
          | (true, s) => if answers.isEmpty then some (false, s) else none
          | (false, s) => inflateLoop answers s

def ZipFile.unzipWithInflated (z : ZipFile) (zlib : ZlibAnswers) (zipEntry : ZipEntry) (extraSize : UInt16) :
    Option Unzipped :=
  match z.seekToEntryStartInternal zipEntry extraSize with
  | none => some { ret := false }
  | some file =>
    if !zlib.initZStream then some { ret := false, start := some file.pos }
    else match inflateLoop zlib.inflate { file := file, remainCompressedSize := zipEntry.compressedSize.toNat } with
      | none => none
      | some (ret, s) => some { ret := ret && decide (zlib.inflateEnd = Z_OK), dest := s.dest, start := some file.pos,
                                read := s.file.pos - file.pos }

def ZipFile.extractFile (z : ZipFile) (zlib : ZlibAnswers) (file : Bytes) : Option Unzipped :=
  match z.entriesMap[file]? with
  | none => some { ret := false }
  | some zipEntry =>
    match z.checkCoherencyLocalHeaderInternal zipEntry with
    | none => some { ret := false }
    | some extraSize =>
      if zipEntry.compressionMethod = 0 then some (z.unzipWithStore zipEntry extraSize)
      else z.unzipWithInflated zlib zipEntry extraSize

end BundleFramework.Zip
