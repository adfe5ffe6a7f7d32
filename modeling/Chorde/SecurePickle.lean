import Mathlib.Data.List.Basic
import Mathlib.Algebra.Group.Nat.Basic

/-!
# Signed pickle frames

`SecurePickler.dump` writes one frame per value: the hex encoding of the payload's
`'<L'` length, the hex HMAC digest of the payload, and the payload the backing
pickler produced. `SecureUnpickler.load` reads the same three pieces back, checks the
digest, and hands the payload to its thread-local unpickler.

Every frame `dump` writes passes `load`'s digest check, and a load that returns has
read a frame signed under the key. `load` never returns, though: the property that
builds the unpickler is named `pickler`, and `load` asks for `self.unpickler`, so
every load of a frame whose digest checks out raises `AttributeError`.
-/

namespace Chorde.SecurePickle

/-- A Python 2 byte string. -/
abbrev Bytes := List UInt8

/-- The exceptions of a dump or a load: `struct.error` of a length outside `'<L'` or
of a header that is not four bytes, the `TypeError` of decoding a header that is not
hex, `EOFError`, the `ValueError` of a digest mismatch, `AttributeError`, and the
backing unpickler's own failure. -/
inductive PickleError where
  | structError
  | typeError
  | eofError (message : String)
  | valueError (message : String)
  | attributeError (name : String)
  | unpicklingError
  deriving DecidableEq, Repr

/-- `checksum_algo` under `hmac.HMAC`: the hex digest of a message under a key, which
is always `digest_size * 2` characters long. -/
structure Checksum where
  digestSize : Nat
  hexdigest : Bytes → Bytes → Bytes
  hexdigest_length : ∀ key message, (hexdigest key message).length = digestSize * 2

/-- The backing `cPickle` pair: the payload `Pickler.dump` writes for a value, and the
value `Unpickler.load` reads from a buffer holding a payload, if it can. -/
structure Backing (Value : Type) where
  dumps : Value → Bytes
  loads : Bytes → Option Value

/-! ## Hex and `'<L'` -/

/-- The lowercase hex digit `str.encode('hex')` writes for a nibble. -/
def hexDigit (nibble : Nat) : UInt8 :=
  UInt8.ofNat (if nibble < 10 then 48 + nibble else 87 + nibble)

/-- `str.encode('hex')`. -/
def encodeHex (bytes : Bytes) : Bytes :=
  bytes.flatMap fun byte => [hexDigit (byte.toNat / 16), hexDigit (byte.toNat % 16)]

/-- The nibble a hex digit stands for; `str.decode('hex')` takes either case. -/
def hexValue (digit : UInt8) : Option Nat :=
  if 48 ≤ digit.toNat ∧ digit.toNat ≤ 57 then some (digit.toNat - 48)
  else if 97 ≤ digit.toNat ∧ digit.toNat ≤ 102 then some (digit.toNat - 87)
  else if 65 ≤ digit.toNat ∧ digit.toNat ≤ 70 then some (digit.toNat - 55)
  else none

/-- `str.decode('hex')`: a `TypeError` on an odd length or a non-hex digit. -/
def decodeHex : Bytes → Except PickleError Bytes
  | [] => .ok []
  | [_] => .error .typeError
  | high :: low :: rest =>
    match hexValue high, hexValue low with
    | some highNibble, some lowNibble =>
      (decodeHex rest).map fun tail => UInt8.ofNat (highNibble * 16 + lowNibble) :: tail
    | _, _ => .error .typeError

/-- `struct.pack('<L', length)`: four little-endian bytes, `struct.error` from `2 ** 32` on. -/
def packLength (length : Nat) : Except PickleError Bytes :=
  if length < 2 ^ 32 then
    .ok [UInt8.ofNat length, UInt8.ofNat (length / 2 ^ 8), UInt8.ofNat (length / 2 ^ 16),
      UInt8.ofNat (length / 2 ^ 24)]
  else .error .structError

/-- `struct.unpack('<L', header)`: exactly four bytes. -/
def unpackLength : Bytes → Except PickleError Nat
  | [b0, b1, b2, b3] =>
    .ok (b0.toNat + 2 ^ 8 * b1.toNat + 2 ^ 16 * b2.toNat + 2 ^ 24 * b3.toNat)
  | _ => .error .structError

/-- `load`'s default `headlen`: `len(struct.pack('<L', 0).encode('hex'))`. -/
def headerLength : Nat :=
  match packLength 0 with
  | .ok header => (encodeHex header).length
  | .error _ => 0

theorem headerLength_eq : headerLength = 8 := rfl

/-! ## Writing and reading frames -/

variable {Value : Type}

/-- One frame: the hex `'<L'` length of the payload, its hex digest, the payload. -/
def frame (checksum : Checksum) (key payload : Bytes) : Except PickleError Bytes :=
  (packLength payload.length).map fun header =>
    encodeHex header ++ checksum.hexdigest key payload ++ payload

/-- `SecurePickler.dump`: the backing pickler's payload for `value`, framed and
appended to the file. -/
def dump (checksum : Checksum) (backing : Backing Value) (key file : Bytes) (value : Value) :
    Except PickleError Bytes :=
  (frame checksum key (backing.dumps value)).map fun written => file ++ written

/-- `dump` of each value in turn. -/
def dumpAll (checksum : Checksum) (backing : Backing Value) (key : Bytes) :
    Bytes → List Value → Except PickleError Bytes
  | file, [] => .ok file
  | file, value :: rest =>
    (dump checksum backing key file value).bind fun written => dumpAll checksum backing key written rest

/-- The name under which `SecureUnpickler` defines the property that builds its
thread-local unpickler. -/
def unpicklerProperty : String := "pickler"

/-- `self.<name>` looked up for the thread-local unpickler: only the property's own
name finds it. -/
def lookupUnpickler (name : String) : Except PickleError Unit :=
  if name = unpicklerProperty then .ok () else .error (.attributeError name)

/-- The end of `SecureUnpickler.load` once the digest checks out: reach the backing
unpickler through the attribute `accessor`, and let it load the payload from the buffer. -/
def unpicklePayload (accessor : String) (backing : Backing Value) (data rest : Bytes) :
    Except PickleError (Value × Bytes) := do
  lookupUnpickler accessor
  match backing.loads data with
  | some value => pure (value, rest)
  | none => throw .unpicklingError

/-- The body of `SecureUnpickler.load` on what is left of the file, reaching the
backing unpickler through the attribute `accessor`: the value, and what is left after
it. -/
def loadVia (accessor : String) (checksum : Checksum) (backing : Backing Value) (key file : Bytes) :
    Except PickleError (Value × Bytes) := do
  let datalen := file.take headerLength
  if datalen.isEmpty then throw (.eofError "Cannot read secure packet header")
  let length ← unpackLength (← decodeHex datalen)
  let afterHeader := file.drop headerLength
  let digest := afterHeader.take (checksum.digestSize * 2)
  let afterDigest := afterHeader.drop (checksum.digestSize * 2)
  let data := afterDigest.take length
  if checksum.hexdigest key data ≠ digest then throw (.valueError "MAC mismatch unpickling")
  unpicklePayload accessor backing data (afterDigest.drop length)

/-- `SecureUnpickler.load`, which asks for `self.unpickler`. -/
def load (checksum : Checksum) (backing : Backing Value) (key file : Bytes) :
    Except PickleError (Value × Bytes) :=
  loadVia "unpickler" checksum backing key file

/-! ## Dumped frames pass the digest check -/

theorem hexValue_hexDigit {nibble : Nat} (small : nibble < 16) :
    hexValue (hexDigit nibble) = some nibble :=
  (by decide : ∀ nibble, nibble < 16 → hexValue (hexDigit nibble) = some nibble) nibble small

theorem ofNat_toNat_byte (byte : UInt8) : UInt8.ofNat (byte.toNat / 16 * 16 + byte.toNat % 16) = byte := by
  rw [Nat.div_add_mod']
  exact UInt8.toNat.inj (UInt8.toNat_ofNat_of_lt byte.toNat_lt_size)

@[simp] theorem decodeHex_encodeHex (bytes : Bytes) : decodeHex (encodeHex bytes) = .ok bytes := by
  induction bytes with
  | nil => rfl
  | cons byte rest inductionHypothesis =>
    have high := hexValue_hexDigit (Nat.div_lt_of_lt_mul (by simpa using byte.toNat_lt_size) :
      byte.toNat / 16 < 16)
    have low := hexValue_hexDigit (Nat.mod_lt byte.toNat (by decide : 0 < 16))
    show decodeHex (hexDigit (byte.toNat / 16) :: hexDigit (byte.toNat % 16) :: encodeHex rest) = _
    simp only [decodeHex, high, low, inductionHypothesis, ofNat_toNat_byte]
    rfl

@[simp] theorem length_encodeHex (bytes : Bytes) : (encodeHex bytes).length = 2 * bytes.length := by
  induction bytes with
  | nil => rfl
  | cons byte rest inductionHypothesis =>
    show (encodeHex rest).length + 2 = _
    simp only [inductionHypothesis, List.length_cons]
    omega

theorem toNat_ofNat_byte (value : Nat) : (UInt8.ofNat value).toNat = value % 256 :=
  BitVec.toNat_ofNat value 8

/-- A length `'<L'` can carry packs to four bytes that unpack to it. -/
theorem unpackLength_of_packLength {length : Nat} {header : Bytes}
    (packed : packLength length = .ok header) :
    header.length = 4 ∧ unpackLength header = .ok length := by
  unfold packLength at packed
  split at packed
  · cases packed
    refine ⟨rfl, ?_⟩
    simp only [unpackLength, toNat_ofNat_byte, Except.ok.injEq]
    omega
  · cases packed

@[simp] theorem ok_bind {ε α β : Type} (value : α) (next : α → Except ε β) :
    (Except.ok value >>= next) = next value := rfl

theorem bind_eq_ok {ε α β : Type} {first : Except ε α} {next : α → Except ε β} {result : β} :
    first >>= next = .ok result ↔ ∃ value, first = .ok value ∧ next value = .ok result := by
  cases first <;> simp [bind, Except.bind]

variable {checksum : Checksum} {backing : Backing Value} {key : Bytes}

/-- A load from the start of a frame reads exactly that frame: its length, its digest
and its payload, which then goes to the backing unpickler with the rest of the file
left to read. -/
theorem loadVia_frame (accessor : String) {payload written : Bytes}
    (framed : frame checksum key payload = .ok written) (rest : Bytes) :
    loadVia accessor checksum backing key (written ++ rest) =
      unpicklePayload accessor backing payload rest := by
  unfold frame at framed
  cases packed : packLength payload.length with
  | error _ => simp [packed, Except.map] at framed
  | ok header =>
    simp only [packed, Except.map, Except.ok.injEq] at framed
    subst framed
    obtain ⟨four, unpacked⟩ := unpackLength_of_packLength packed
    have headerWidth : (encodeHex header).length = headerLength := by simp [four, headerLength_eq]
    have present : encodeHex header ≠ [] := List.ne_nil_of_length_pos (by simp [four])
    simp [loadVia, present, List.append_assoc, List.take_left' headerWidth, List.drop_left' headerWidth,
      List.take_left' (checksum.hexdigest_length key payload),
      List.drop_left' (checksum.hexdigest_length key payload), unpacked]

theorem frame_of_fits (checksum : Checksum) (key : Bytes) {payload : Bytes} (fits : payload.length < 2 ^ 32) :
    ∃ written, frame checksum key payload = .ok written := by
  simp only [frame, packLength, if_pos fits, Except.map]
  exact ⟨_, rfl⟩

/-- What `dumpAll` writes does not depend on what the file held before. -/
theorem dumpAll_prefix (file : Bytes) (values : List Value) :
    dumpAll checksum backing key file values =
      (dumpAll checksum backing key [] values).map fun written => file ++ written := by
  induction values generalizing file with
  | nil => simp [dumpAll, Except.map]
  | cons value rest inductionHypothesis =>
    simp only [dumpAll, dump]
    cases frame checksum key (backing.dumps value) with
    | error _ => rfl
    | ok written =>
      simp only [Except.map, Except.bind, List.nil_append, inductionHypothesis file,
        inductionHypothesis (file ++ written), inductionHypothesis written]
      cases dumpAll checksum backing key [] rest <;> simp [Except.map]

theorem dumpAll_of_fits (checksum : Checksum) (backing : Backing Value) (key : Bytes)
    {values : List Value}
    (fits : ∀ value ∈ values, (backing.dumps value).length < 2 ^ 32) :
    ∃ written, dumpAll checksum backing key [] values = .ok written := by
  induction values with
  | nil => exact ⟨[], rfl⟩
  | cons value rest inductionHypothesis =>
    obtain ⟨first, framed⟩ := frame_of_fits checksum key (fits value (List.mem_cons_self _ _))
    obtain ⟨following, dumped⟩ :=
      inductionHypothesis fun dumped inRest => fits dumped (List.mem_cons_of_mem _ inRest)
    exact ⟨first ++ following, by
      simp [dumpAll, dump, framed, Except.map, Except.bind, dumpAll_prefix first, dumped]⟩

/-- A backing pickler of single bytes, which its unpickler inverts. -/
def byteBacking : Backing UInt8 :=
  ⟨fun byte => [byte], fun | [byte] => some byte | _ => none⟩

/-- A one-byte digest, in hex: the payload's length. -/
def lengthChecksum : Checksum :=
  ⟨1, fun _ message => encodeHex [UInt8.ofNat message.length], fun _ _ => rfl⟩

/-- Every frame `dump` writes passes `load`'s digest check and then fails on its
attribute lookup: `load` raises `AttributeError` for `unpickler` on any file that
starts with a sequence of dumped values, so no value is ever read back. -/
theorem load_raises_attributeError (value : Value) (values : List Value)
    (fits : ∀ dumped ∈ value :: values, (backing.dumps dumped).length < 2 ^ 32) :
    ∃ stream, dumpAll checksum backing key [] (value :: values) = .ok stream ∧
      load checksum backing key stream = .error (.attributeError "unpickler") := by
  obtain ⟨first, framed⟩ := frame_of_fits checksum key (fits value (List.mem_cons_self _ _))
  obtain ⟨following, dumped⟩ := dumpAll_of_fits checksum backing key
    fun dumped inRest => fits dumped (List.mem_cons_of_mem _ inRest)
  refine ⟨first ++ following, ?_, ?_⟩
  · simp [dumpAll, dump, framed, Except.map, Except.bind, dumpAll_prefix first, dumped]
  · rw [load, loadVia_frame _ framed]
    rfl

theorem load_raises_attributeError_on_bytes :
    (∀ dumped ∈ [(7 : UInt8), 8], (byteBacking.dumps dumped).length < 2 ^ 32) ∧
      ∃ stream, dumpAll lengthChecksum byteBacking [1] [] [7, 8] = .ok stream ∧
        load lengthChecksum byteBacking [1] stream = .error (.attributeError "unpickler") :=
  ⟨fun _ _ => (by decide : 1 < 2 ^ 32), load_raises_attributeError 7 [8] fun _ _ => (by decide : 1 < 2 ^ 32)⟩

/-! ## What a load accepts -/

/-- Hex decoding halves the length. -/
theorem length_of_decodeHex {bytes decoded : Bytes} (ok : decodeHex bytes = .ok decoded) :
    bytes.length = 2 * decoded.length := by
  induction bytes using decodeHex.induct generalizing decoded with
  | case1 => cases ok; rfl
  | case2 => cases ok
  | case3 high low rest highNibble lowNibble lowDigit highDigit inductionHypothesis =>
    rw [decodeHex, highDigit, lowDigit] at ok
    cases tail : decodeHex rest with
    | error _ => simp [tail, Except.map] at ok
    | ok decodedRest =>
      simp only [tail, Except.map, Except.ok.injEq] at ok
      subst ok
      simp [inductionHypothesis tail]
      omega
  | case4 high low rest notHex =>
    rw [decodeHex] at ok
    split at ok
    · exact (notHex _ _ ‹_› ‹_›).elim
    · cases ok

theorem length_of_unpackLength {header : Bytes} {length : Nat} (ok : unpackLength header = .ok length) :
    header.length = 4 := by
  unfold unpackLength at ok
  split at ok
  · rfl
  · cases ok

/-- The backing unpickler is reached only through the property's own name. -/
theorem unpicklePayload_eq_ok {accessor : String} {data rest remaining : Bytes} {value : Value}
    (ok : unpicklePayload accessor backing data remaining = .ok (value, rest)) :
    accessor = unpicklerProperty ∧ backing.loads data = some value ∧ remaining = rest := by
  unfold unpicklePayload lookupUnpickler at ok
  split at ok
  · cases loads : backing.loads data with
    | none => simp [loads] at ok
    | some loaded => simp_all [loads]
  · cases ok

/-- A value is read back only through the property's name, and only from data whose
digest under the key stands right before it: the file is a header that decodes to a
length, the digest, at most that many bytes of data, and what is left. The data is
shorter than the header says only at the end of the file, where `read` returns what
there is. -/
theorem loadVia_accepts_only_signed_data {accessor : String} {file rest : Bytes} {value : Value}
    (loaded : loadVia accessor checksum backing key file = .ok (value, rest)) :
    accessor = unpicklerProperty ∧
      ∃ header data length, file = header ++ checksum.hexdigest key data ++ data ++ rest ∧
        header.length = headerLength ∧ (decodeHex header).bind unpackLength = .ok length ∧
        data.length ≤ length ∧ (data.length < length → rest = []) ∧ backing.loads data = some value := by
  simp only [loadVia] at loaded
  split at loaded
  · cases loaded
  simp only [pure_bind, bind_eq_ok] at loaded
  obtain ⟨decoded, decodedOk, length, unpacked, loaded⟩ := loaded
  split at loaded
  · cases loaded
  rename_i signed
  obtain ⟨named, loads, rfl⟩ := unpicklePayload_eq_ok loaded
  have headerWidth : (file.take headerLength).length = headerLength := by
    rw [length_of_decodeHex decodedOk, length_of_unpackLength unpacked, headerLength_eq]
  refine ⟨named, file.take headerLength, _, length, ?_, headerWidth, by simp [decodedOk, Except.bind, unpacked],
    List.length_take_le _ _, fun short => List.drop_eq_nil_of_le ?_, loads⟩
  · rw [not_not] at signed
    simp only [signed, List.append_assoc, List.take_append_drop]
  · simp only [List.length_take] at short
    omega

theorem loadVia_accepts_only_signed_data_on_short_packet :
    loadVia unpicklerProperty lengthChecksum byteBacking [1] [48, 50, 48, 48, 48, 48, 48, 48, 48, 49, 7] =
        .ok (7, []) ∧
      unpicklerProperty = unpicklerProperty ∧
      ∃ header data length, [48, 50, 48, 48, 48, 48, 48, 48, 48, 49, 7] =
          header ++ lengthChecksum.hexdigest [1] data ++ data ++ [] ∧
        header.length = headerLength ∧ (decodeHex header).bind unpackLength = .ok length ∧
        data.length ≤ length ∧ (data.length < length → ([] : Bytes) = []) ∧ byteBacking.loads data = some 7 :=
  ⟨rfl, loadVia_accepts_only_signed_data (rfl : loadVia unpicklerProperty lengthChecksum byteBacking [1]
    [48, 50, 48, 48, 48, 48, 48, 48, 48, 49, 7] = .ok (7, []))⟩

end Chorde.SecurePickle
