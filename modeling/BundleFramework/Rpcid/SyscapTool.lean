import Mathlib

/-!
# Decoding the system capabilities of a package

`RPCIDStreamDecodeToBuffer` reads an untrusted byte buffer: a 16-bit head, a type, a length,
and records of `SINGLE_FEAT_LENGTH` bytes, each a C string.  A read outside the buffer is a
failure of its own here, and no buffer leads to it; which buffers are accepted, and what comes
out, is `decode_exact`.

The machine is little-endian.  The two output pointers are those of the caller's variables and
are not null; allocation succeeds, and `memcpy_s` and `strncat_s` are as documented.
-/

namespace BundleFramework.Rpcid

abbrev Bytes := List UInt8

/-! ## Constants -/

def OK : Int := 0
def ERROR : Int := -1
def API_VERSION_TYPE : Nat := 1
def APP_SYSCAP_TYPE : Nat := 2
def SYSCAP_PREFIX_NAME_LEN : Nat := 18
def SINGLE_FEAT_LENGTH : Nat := 32 * 8
def SINGLE_SYSCAP_LENGTH : Nat := SINGLE_FEAT_LENGTH + 17

/-- The characters of `"SystemCapability."`. -/
def syscapPrefix : Bytes := [83, 121, 115, 116, 101, 109, 67, 97, 112, 97, 98, 105, 108, 105, 116, 121, 46]

/-- The array, with the NUL at its end. -/
def SYSCAP_PREFIX_NAME : Bytes := syscapPrefix ++ [0]

/-! ## Reading and copying -/

inductive Failure where
  /-- A read at or behind the end of the buffer. -/
  | outOfBounds
  /-- `ERROR` is returned. -/
  | rejected
  deriving DecidableEq

def readByte (buf : Bytes) (pos : Nat) : Except Failure UInt8 :=
  match buf[pos]? with
  | some c => .ok c
  | none => .error .outOfBounds

/-- A `uint16_t` in the order of the machine. -/
def readUint16 (buf : Bytes) (pos : Nat) : Except Failure Nat := do
  let low ← readByte buf pos
  let high ← readByte buf (pos + 1)
  return low.toNat + 256 * high.toNat

def ntohs (value : Nat) : Nat := value % 256 * 256 + value / 256

/-- The characters that `strncat_s` reads: up to a NUL, at most `count`. -/
def readString (buf : Bytes) (pos : Nat) : Nat → Except Failure Bytes
  | 0 => .ok []
  | count + 1 => do
    let c ← readByte buf pos
    if c = 0 then return []
    let rest ← readString buf (pos + 1) count
    return c :: rest

/-- `memcpy_s` into a block of `destMax` bytes. -/
def memcpy_s (dest src : Bytes) (count : Nat) : Except Failure Bytes :=
  if dest.length < count then .error .rejected else .ok (src.take count ++ dest.drop count)

def strlen (s : Bytes) : Nat := (s.takeWhile (· ≠ 0)).length

/-- `strncat_s` of the characters that were read, with the NUL behind them. -/
def strncat_s (dest src : Bytes) : Except Failure Bytes :=
  if dest.length < strlen dest + src.length + 1 then .error .rejected
  else .ok (dest.take (strlen dest) ++ src ++ 0 :: dest.drop (strlen dest + src.length + 1))

/-! ## Algorithm -/

/-- One turn of the loop: what record `i` makes of its zeroed part of the output. -/
def decodeRecord (buf : Bytes) (sysCapArray i : Nat) : Except Failure Bytes := do
  let last ← readByte buf (sysCapArray + (i + 1) * SINGLE_FEAT_LENGTH - 1)
  if last ≠ 0 then throw .rejected
  let copied ← memcpy_s (List.replicate SINGLE_SYSCAP_LENGTH 0) SYSCAP_PREFIX_NAME SYSCAP_PREFIX_NAME_LEN
  let name ← readString buf (sysCapArray + i * SINGLE_FEAT_LENGTH) SINGLE_FEAT_LENGTH
  strncat_s copied name

def decodeRecords (buf : Bytes) (sysCapArray i : Nat) : Nat → Except Failure Bytes
  | 0 => .ok []
  | remaining + 1 => do
    let syscap ← decodeRecord buf sysCapArray i
    let rest ← decodeRecords buf sysCapArray (i + 1) remaining
    return syscap ++ rest

/-- The output and its length. -/
def decodeBuffer (buf : Bytes) : Except Failure (Bytes × Nat) := do
  let sysCapArray := 2 + APP_SYSCAP_TYPE * 2
  if buf.length ≤ sysCapArray then throw .rejected
  let head ← readUint16 buf 0
  -- `apiVersion` is the lower 15 bits
  if head / 2 ^ 15 ≠ API_VERSION_TYPE then throw .rejected
  let sysCaptype ← ntohs <$> readUint16 buf (sysCapArray - APP_SYSCAP_TYPE * 2)
  if sysCaptype ≠ APP_SYSCAP_TYPE then throw .rejected
  let sysCapLength ← ntohs <$> readUint16 buf (sysCapArray - 2)
  if buf.length < sysCapArray + sysCapLength then throw .rejected
  if sysCapLength % SINGLE_FEAT_LENGTH ≠ 0 then throw .rejected
  let syscapBuf ← decodeRecords buf sysCapArray 0 (sysCapLength / SINGLE_FEAT_LENGTH)
  return (syscapBuf, sysCapLength / SINGLE_FEAT_LENGTH * SINGLE_SYSCAP_LENGTH)

structure Result where
  ret : Int
  syscapSetBuf : Option Bytes
  syscapSetLength : Nat
  deriving DecidableEq

/-- A null buffer is refused.  `none` is a read outside the buffer. -/
def rpcidStreamDecodeToBuffer (contextBuffer : Option Bytes) : Option Result :=
  match contextBuffer with
  | none => some ⟨ERROR, none, 0⟩
  | some buf =>
    match decodeBuffer buf with
    | .ok (syscapBuf, syscapBufLen) => some ⟨OK, some syscapBuf, syscapBufLen⟩
    | .error .rejected => some ⟨ERROR, none, 0⟩
    | .error .outOfBounds => none

/-! ## The format -/

def byteAt (buf : Bytes) (pos : Nat) : Nat := (buf.getD pos 0).toNat

def littleEndian (buf : Bytes) (pos : Nat) : Nat := byteAt buf pos + 256 * byteAt buf (pos + 1)

def bigEndian (buf : Bytes) (pos : Nat) : Nat := 256 * byteAt buf pos + byteAt buf (pos + 1)

/-- The length field. -/
def contentLength (buf : Bytes) : Nat := bigEndian buf 4

def records (buf : Bytes) : Nat := contentLength buf / SINGLE_FEAT_LENGTH

def record (buf : Bytes) (i : Nat) : Bytes := (buf.drop (6 + i * SINGLE_FEAT_LENGTH)).take SINGLE_FEAT_LENGTH

structure WellFormed (buf : Bytes) : Prop where
  head : 6 < buf.length
  apiVersionType : (littleEndian buf 0).testBit 15 = true
  sysCaptype : bigEndian buf 2 = 2
  inside : 6 + contentLength buf ≤ buf.length
  whole : SINGLE_FEAT_LENGTH ∣ contentLength buf
  terminated : ∀ i < records buf, (record buf i).getLast? = some 0

/-- The C string that a record begins with. -/
def cString (record : Bytes) : Bytes := record.takeWhile (· ≠ 0)

/-- The prefix, the C string and zeros. -/
def syscap (record : Bytes) : Bytes :=
  syscapPrefix ++ cString record ++
    List.replicate (SINGLE_SYSCAP_LENGTH - (syscapPrefix ++ cString record).length) 0

def syscaps (buf : Bytes) : Bytes := (List.range (records buf)).flatMap fun i => syscap (record buf i)

/-! ## Reading inside the buffer -/

variable {buf : Bytes}

@[simp]
theorem ok_bind {α β : Type} (a : α) (f : α → Except Failure β) : (Except.ok a >>= f) = f a := rfl

@[simp]
theorem error_bind {α β : Type} (e : Failure) (f : α → Except Failure β) : (Except.error e >>= f) = .error e := rfl

theorem readByte_ok {pos : Nat} (h : pos < buf.length) : readByte buf pos = .ok (buf.getD pos 0) := by
  unfold readByte
  rw [List.getElem?_eq_getElem h, List.getD_eq_getElem buf 0 h]

theorem readUint16_ok {pos : Nat} (h : pos + 1 < buf.length) : readUint16 buf pos = .ok (littleEndian buf pos) := by
  unfold readUint16
  rw [readByte_ok (by omega), readByte_ok h]
  rfl

theorem ntohs_littleEndian (buf : Bytes) (pos : Nat) : ntohs (littleEndian buf pos) = bigEndian buf pos := by
  have hlow : byteAt buf pos < 256 := UInt8.toNat_lt _
  have hhigh : byteAt buf (pos + 1) < 256 := UInt8.toNat_lt _
  unfold ntohs littleEndian bigEndian
  omega

/-- The upper bit-field of the head. -/
theorem head_div_eq_one_iff (buf : Bytes) :
    littleEndian buf 0 / 2 ^ 15 = API_VERSION_TYPE ↔ (littleEndian buf 0).testBit 15 = true := by
  have hlow : byteAt buf 0 < 256 := UInt8.toNat_lt _
  have hhigh : byteAt buf (0 + 1) < 256 := UInt8.toNat_lt _
  rw [Nat.testBit_eq_decide_div_mod_eq, decide_eq_true_eq]
  unfold littleEndian API_VERSION_TYPE
  omega

theorem readString_ok {pos count : Nat} (h : pos + count ≤ buf.length) :
    readString buf pos count = .ok (((buf.drop pos).take count).takeWhile (· ≠ 0)) := by
  induction count generalizing pos with
  | zero => simp [readString]
  | succ count ih =>
    have hpos : pos < buf.length := by omega
    rw [readString, readByte_ok hpos, List.drop_eq_getElem_cons hpos, List.getD_eq_getElem buf 0 hpos,
      List.take_succ_cons, ih (by omega)]
    by_cases hzero : buf[pos] = 0
    · rw [List.takeWhile_cons_of_neg (by simpa using hzero)]
      show (if buf[pos] = 0 then _ else _) = _
      rw [if_pos hzero]
      rfl
    · rw [List.takeWhile_cons_of_pos (by simpa using hzero)]
      show (if buf[pos] = 0 then _ else _) = _
      rw [if_neg hzero]
      rfl

/-- Appending to a string with zeros behind it. -/
theorem strncat_s_ok {start src : Bytes} (hstart : (0 : UInt8) ∉ start) {k : Nat} (hk : src.length < k) :
    strncat_s (start ++ List.replicate k 0) src = .ok (start ++ src ++ List.replicate (k - src.length) 0) := by
  have hlen : strlen (start ++ List.replicate k 0) = start.length := by
    have hall : ∀ a ∈ start, decide (a ≠ 0) = true := by
      intro a ha
      rw [decide_eq_true_eq]
      rintro rfl
      exact hstart ha
    unfold strlen
    rw [List.takeWhile_append_of_pos hall]
    simp
  have hdrop : (start ++ List.replicate k 0).drop (start.length + src.length + 1) =
      List.replicate (k - src.length - 1) (0 : UInt8) := by
    rw [Nat.add_assoc, List.drop_length_add_append, List.drop_replicate, Nat.sub_sub]
  have hzeros : List.replicate (k - src.length) (0 : UInt8) = 0 :: List.replicate (k - src.length - 1) 0 := by
    rw [← List.replicate_succ, Nat.sub_add_cancel (by omega)]
  unfold strncat_s
  rw [hlen, if_neg (by simp; omega), List.take_left, hdrop, hzeros]

/-! ## Records -/

/-- A record lies inside the buffer. -/
def Inside (buf : Bytes) (i : Nat) : Prop := 6 + (i + 1) * SINGLE_FEAT_LENGTH ≤ buf.length

def Terminated (buf : Bytes) (i : Nat) : Prop := (record buf i).getLast? = some 0

instance (buf : Bytes) (i : Nat) : Decidable (Terminated buf i) := inferInstanceAs (Decidable (_ = _))

theorem record_getLast? {i : Nat} (h : Inside buf i) :
    (record buf i).getLast? = some (buf.getD (6 + (i + 1) * SINGLE_FEAT_LENGTH - 1) 0) := by
  unfold Inside SINGLE_FEAT_LENGTH at *
  have hlen : (record buf i).length = 256 := by
    unfold record SINGLE_FEAT_LENGTH
    rw [List.length_take, List.length_drop]
    omega
  rw [List.getLast?_eq_getElem?, hlen]
  unfold record SINGLE_FEAT_LENGTH
  rw [List.getElem?_take_of_lt (by omega), List.getElem?_drop,
    List.getD_eq_getElem buf 0 (by omega), ← List.getElem?_eq_getElem (by omega)]
  congr 1
  omega

theorem cString_length_lt {i : Nat} (ht : Terminated buf i) : (cString (record buf i)).length < SINGLE_FEAT_LENGTH := by
  have hzero : (0 : UInt8) ∈ record buf i := List.mem_of_getLast? ht
  have hne : cString (record buf i) ≠ record buf i := by
    intro heq
    simpa using List.takeWhile_eq_self_iff.mp heq 0 hzero
  have hle : (record buf i).length ≤ SINGLE_FEAT_LENGTH := List.length_take_le _ _
  have hstart : cString (record buf i) <+: record buf i := List.takeWhile_prefix _
  have hlt : (cString (record buf i)).length ≠ (record buf i).length := fun hlen => hne (hstart.eq_of_length hlen)
  have := hstart.length_le
  omega

theorem decodeRecord_ok {i : Nat} (h : Inside buf i) (ht : Terminated buf i) :
    decodeRecord buf 6 i = .ok (syscap (record buf i)) := by
  have hlast := ht
  rw [Terminated, record_getLast? h, Option.some.injEq] at hlast
  have hpos : 6 + (i + 1) * SINGLE_FEAT_LENGTH - 1 < buf.length := by
    unfold Inside at h
    omega
  have hstring : 6 + i * SINGLE_FEAT_LENGTH + SINGLE_FEAT_LENGTH ≤ buf.length := by
    unfold Inside at h
    rw [Nat.add_assoc, ← Nat.succ_mul]
    exact h
  have hcopied : memcpy_s (List.replicate SINGLE_SYSCAP_LENGTH 0) SYSCAP_PREFIX_NAME SYSCAP_PREFIX_NAME_LEN =
      .ok (syscapPrefix ++ List.replicate SINGLE_FEAT_LENGTH 0) := by decide +kernel
  have hprefix : (0 : UInt8) ∉ syscapPrefix := by decide
  unfold decodeRecord
  rw [readByte_ok hpos, hlast, hcopied, readString_ok hstring, ok_bind, ok_bind, ok_bind, if_neg (by simp)]
  refine (strncat_s_ok hprefix (cString_length_lt ht)).trans ?_
  have hzeros : SINGLE_FEAT_LENGTH - (cString (record buf i)).length =
      SINGLE_SYSCAP_LENGTH - (syscapPrefix ++ cString (record buf i)).length := by
    rw [List.length_append, Nat.sub_add_eq]
    rfl
  rw [hzeros]
  rfl

theorem decodeRecord_rejected {i : Nat} (h : Inside buf i) (ht : ¬ Terminated buf i) :
    decodeRecord buf 6 i = .error .rejected := by
  rw [Terminated, record_getLast? h, Option.some.injEq] at ht
  have hpos : 6 + (i + 1) * SINGLE_FEAT_LENGTH - 1 < buf.length := by
    unfold Inside at h
    omega
  unfold decodeRecord
  rw [readByte_ok hpos, ok_bind, if_pos ht]
  rfl

/-- The loop from record `i` on. -/
theorem decodeRecords_ok {i count : Nat} (h : ∀ j < count, Inside buf (i + j)) (ht : ∀ j < count, Terminated buf (i + j)) :
    decodeRecords buf 6 i count = .ok ((List.range' i count).flatMap fun j => syscap (record buf j)) := by
  induction count generalizing i with
  | zero => rfl
  | succ count ih =>
    have hin : ∀ j < count, Inside buf (i + 1 + j) := by
      intro j hj
      rw [Nat.add_assoc, Nat.add_comm 1 j]
      exact h (j + 1) (by omega)
    have hter : ∀ j < count, Terminated buf (i + 1 + j) := by
      intro j hj
      rw [Nat.add_assoc, Nat.add_comm 1 j]
      exact ht (j + 1) (by omega)
    rw [decodeRecords, decodeRecord_ok (i := i) (h 0 (by omega)) (ht 0 (by omega)), ok_bind, ih hin hter, ok_bind, List.range'_succ,
      List.flatMap_cons]
    rfl

/-- The first record that does not end in NUL ends the loop. -/
theorem decodeRecords_rejected {i count : Nat} (h : ∀ j < count, Inside buf (i + j))
    (ht : ∃ j < count, ¬ Terminated buf (i + j)) : decodeRecords buf 6 i count = .error .rejected := by
  induction count generalizing i with
  | zero =>
    obtain ⟨j, hj, -⟩ := ht
    omega
  | succ count ih =>
    rw [decodeRecords]
    by_cases hfirst : Terminated buf i
    · have hin : ∀ j < count, Inside buf (i + 1 + j) := by
        intro j hj
        rw [Nat.add_assoc, Nat.add_comm 1 j]
        exact h (j + 1) (by omega)
      have hter : ∃ j < count, ¬ Terminated buf (i + 1 + j) := by
        obtain ⟨j, hj, hnot⟩ := ht
        cases j with
        | zero => exact absurd hfirst hnot
        | succ j => exact ⟨j, by omega, by rwa [Nat.add_assoc, Nat.add_comm 1 j]⟩
      rw [decodeRecord_ok (i := i) (h 0 (by omega)) hfirst, ok_bind, ih hin hter, error_bind]
    · rw [decodeRecord_rejected (i := i) (h 0 (by omega)) hfirst, error_bind]

/-! ## The whole buffer -/

theorem inside_of_whole (hinside : 6 + contentLength buf ≤ buf.length) {i : Nat} (hi : i < records buf) : Inside buf i := by
  have hle : (i + 1) * SINGLE_FEAT_LENGTH ≤ contentLength buf :=
    (Nat.le_div_iff_mul_le (by decide)).mp hi
  unfold Inside
  omega

/-- Every record of the output has the same length. -/
theorem syscap_length {i : Nat} (ht : Terminated buf i) : (syscap (record buf i)).length = SINGLE_SYSCAP_LENGTH := by
  have hlt := cString_length_lt ht
  have hprefix : syscapPrefix.length = 17 := rfl
  unfold syscap
  rw [List.length_append, List.length_replicate, List.length_append]
  unfold SINGLE_SYSCAP_LENGTH
  omega

theorem syscaps_length (ht : ∀ i < records buf, Terminated buf i) :
    (syscaps buf).length = records buf * SINGLE_SYSCAP_LENGTH := by
  unfold syscaps
  rw [List.length_flatMap, List.map_congr_left (g := fun _ => SINGLE_SYSCAP_LENGTH)]
  · rw [List.map_const', List.length_range, List.sum_replicate, smul_eq_mul]
  · intro i hi
    exact syscap_length (ht i (List.mem_range.mp hi))

/-- The loop over the records of a buffer whose header passed. -/
theorem decodeRecords_spec (hinside : 6 + contentLength buf ≤ buf.length) :
    decodeRecords buf 6 0 (records buf) =
      if ∀ i < records buf, Terminated buf i then .ok (syscaps buf) else .error .rejected := by
  have hin : ∀ j < records buf, Inside buf (0 + j) := by
    intro j hj
    rw [Nat.zero_add]
    exact inside_of_whole hinside hj
  split
  · next hall =>
    rw [decodeRecords_ok hin (by simpa using hall), ← List.range_eq_range']
    rfl
  · next hnot =>
    exact decodeRecords_rejected hin (by simpa using hnot)

/-- The checks of the header, in the order of the source. -/
theorem decodeBuffer_eq (hlen : 6 < buf.length) : decodeBuffer buf =
    if littleEndian buf 0 / 2 ^ 15 ≠ API_VERSION_TYPE then .error .rejected
    else if bigEndian buf 2 ≠ APP_SYSCAP_TYPE then .error .rejected
    else if buf.length < 6 + contentLength buf then .error .rejected
    else if contentLength buf % SINGLE_FEAT_LENGTH ≠ 0 then .error .rejected
    else decodeRecords buf 6 0 (records buf) >>= fun out => .ok (out, records buf * SINGLE_SYSCAP_LENGTH) := by
  have hhead : ¬ buf.length ≤ 2 + APP_SYSCAP_TYPE * 2 := Nat.not_le.mpr hlen
  have htype : ntohs <$> readUint16 buf (2 + APP_SYSCAP_TYPE * 2 - APP_SYSCAP_TYPE * 2) = .ok (bigEndian buf 2) := by
    rw [@readUint16_ok buf (2 + APP_SYSCAP_TYPE * 2 - APP_SYSCAP_TYPE * 2) (by unfold APP_SYSCAP_TYPE; omega)]
    exact congrArg Except.ok (ntohs_littleEndian buf 2)
  have hlength : ntohs <$> readUint16 buf (2 + APP_SYSCAP_TYPE * 2 - 2) = .ok (contentLength buf) := by
    rw [@readUint16_ok buf (2 + APP_SYSCAP_TYPE * 2 - 2) (by unfold APP_SYSCAP_TYPE; omega)]
    exact congrArg Except.ok (ntohs_littleEndian buf 4)
  unfold decodeBuffer
  have hbase : 2 + APP_SYSCAP_TYPE * 2 = 6 := rfl
  rw [if_neg hhead, readUint16_ok (by omega), htype, hlength]
  simp only [ok_bind]
  rw [hbase]
  by_cases hapi : littleEndian buf 0 / 2 ^ 15 ≠ API_VERSION_TYPE
  · rw [if_pos hapi, if_pos hapi]
    rfl
  rw [if_neg hapi, if_neg hapi]
  by_cases htwo : bigEndian buf 2 ≠ APP_SYSCAP_TYPE
  · rw [if_pos htwo, if_pos htwo]
    rfl
  rw [if_neg htwo, if_neg htwo]
  by_cases hin : buf.length < 6 + contentLength buf
  · rw [if_pos hin, if_pos hin]
    rfl
  rw [if_neg hin, if_neg hin]
  by_cases hwhole : contentLength buf % SINGLE_FEAT_LENGTH ≠ 0
  · rw [if_pos hwhole, if_pos hwhole]
    rfl
  rw [if_neg hwhole, if_neg hwhole]
  rfl

theorem decodeBuffer_spec (buf : Bytes) :
    (WellFormed buf ∧ decodeBuffer buf = .ok (syscaps buf, records buf * SINGLE_SYSCAP_LENGTH)) ∨
      (¬ WellFormed buf ∧ decodeBuffer buf = .error .rejected) := by
  by_cases hlen : 6 < buf.length
  · rw [decodeBuffer_eq hlen]
    by_cases hapi : littleEndian buf 0 / 2 ^ 15 = API_VERSION_TYPE
    · rw [if_neg (not_not.mpr hapi)]
      by_cases htwo : bigEndian buf 2 = APP_SYSCAP_TYPE
      · rw [if_neg (not_not.mpr htwo)]
        by_cases hin : 6 + contentLength buf ≤ buf.length
        · rw [if_neg (Nat.not_lt.mpr hin)]
          by_cases hwhole : contentLength buf % SINGLE_FEAT_LENGTH = 0
          · rw [if_neg (not_not.mpr hwhole), decodeRecords_spec hin]
            by_cases hter : ∀ i < records buf, Terminated buf i
            · rw [if_pos hter]
              have hbit := (head_div_eq_one_iff buf).mp hapi
              exact .inl ⟨⟨hlen, hbit, htwo, hin, Nat.dvd_of_mod_eq_zero hwhole, hter⟩, rfl⟩
            · rw [if_neg hter]
              exact .inr ⟨fun h => hter h.terminated, rfl⟩
          · rw [if_pos hwhole]
            exact .inr ⟨fun h => hwhole (Nat.mod_eq_zero_of_dvd h.whole), rfl⟩
        · rw [if_pos (Nat.not_le.mp hin)]
          exact .inr ⟨fun h => hin h.inside, rfl⟩
      · rw [if_pos htwo]
        exact .inr ⟨fun h => htwo h.sysCaptype, rfl⟩
    · rw [if_pos hapi]
      exact .inr ⟨fun h => hapi ((head_div_eq_one_iff buf).mpr h.apiVersionType), rfl⟩
  · right
    constructor
    · intro h
      exact hlen h.head
    · have hhead : buf.length ≤ 2 + APP_SYSCAP_TYPE * 2 := Nat.not_lt.mp hlen
      unfold decodeBuffer
      simp only
      rw [if_pos hhead]
      rfl

/-- No buffer leads to a read outside it; exactly the well-formed ones are accepted, and the
outputs are their records with the prefix in front. -/
theorem decode_exact (buf : Bytes) : ∃ result, rpcidStreamDecodeToBuffer (some buf) = some result ∧
    (result.ret = OK ↔ WellFormed buf) ∧
    (result.ret = OK → result.syscapSetBuf = some (syscaps buf) ∧
      result.syscapSetLength = records buf * SINGLE_SYSCAP_LENGTH ∧ (syscaps buf).length = result.syscapSetLength) ∧
    (result.ret ≠ OK → result.syscapSetBuf = none ∧ result.syscapSetLength = 0) := by
  obtain ⟨hwf, hdecode⟩ | ⟨hwf, hdecode⟩ := decodeBuffer_spec buf
  · refine ⟨⟨OK, some (syscaps buf), records buf * SINGLE_SYSCAP_LENGTH⟩, ?_, iff_of_true rfl hwf, ?_, ?_⟩
    · simp only [rpcidStreamDecodeToBuffer, hdecode]
    · intro _
      exact ⟨rfl, rfl, syscaps_length hwf.terminated⟩
    · intro hne
      exact absurd rfl hne
  · have herror : (ERROR : Int) ≠ OK := by decide
    refine ⟨⟨ERROR, none, 0⟩, ?_, iff_of_false herror hwf, ?_, ?_⟩
    · simp only [rpcidStreamDecodeToBuffer, hdecode]
    · intro hok
      exact absurd hok herror
    · intro _
      exact ⟨rfl, rfl⟩

end BundleFramework.Rpcid
