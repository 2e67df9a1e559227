import StControl.Agent.OwnershipClaim

/-!
# The relay stream

A snapshot that its target cannot receive directly passes through a relay, which must not be able to
read it.  The source encrypts it for a key pair of the target, in frames of a mebibyte; a frame
carries its length, a flag that only the last one has, and a tag.

The Controller reserves room at the relay before the source has written a byte, so it computes the
size of the stream from the size of the snapshot, in `int64`.  `relay_ciphertext_size_exact`
compares that formula with what the loop of the source writes, for primitives that add a tag of
sixteen bytes.  They agree on every snapshot that is not empty, also where the sum of the formula
wraps.
Nothing is reserved for an empty one, for which the source would write a stream as well
(`relay_ciphertext_size_empty`).
-/

namespace StControl.Crypto

open Agent (validUUID)

/-! ## Encryption -/

abbrev Bytes := List UInt8

/-- The last `w` bytes of a number, the most significant first. -/
def bigEndian : ℕ → ℕ → Bytes
  | 0, _ => []
  | w + 1, n => bigEndian w (n / 256) ++ [UInt8.ofNat n]

@[simp] lemma length_bigEndian (w n : ℕ) : (bigEndian w n).length = w := by
  induction w generalizing n with
  | zero => rfl
  | succ w ih => simp [bigEndian, ih]

def relayFramePlaintextBytes : ℕ := 2 ^ 20

def relayHeaderBytes : ℕ := 8 + 32 + 12

def relayFrameHeaderBytes : ℕ := 5

def relayFinalFlag : UInt8 := 1

/-- `"STCRLY1\0"`. -/
def relayMagic : Bytes := [83, 84, 67, 82, 76, 89, 49, 0]

structure RelayCipherContext where
  (taskID workflowID snapshotID : String)

/-- `relayContextPart` is `validUUID`. -/
def validRelayCipherContext (value : RelayCipherContext) : Bool :=
  validUUID value.taskID && validUUID value.workflowID && validUUID value.snapshotID

structure Primitives where
  publicKey : Bytes → Bytes
  /-- From a private and a public key; `none` for a key of low order. -/
  ecdh : Bytes → Bytes → Option Bytes
  sum256 : Bytes → Bytes
  hkdf : (secret salt : Bytes) → Bytes
  sealBytes : (key nonce aad plaintext : Bytes) → Bytes
  length_publicKey : ∀ secret, (publicKey secret).length = 32
  length_sealBytes : ∀ key nonce aad p, (sealBytes key nonce aad p).length = p.length + 16

structure RelayCipher where
  (key contextDigest baseNonce : Bytes)

section

variable (P : Primitives)

def relayAEAD (shared : Bytes) (context : RelayCipherContext) (baseNonce : Bytes) : RelayCipher :=
  let contextDigest := P.sum256 ("\x00".intercalate ["stcontrol-relay-context-v1", context.taskID,
    context.workflowID, context.snapshotID]).toUTF8.toList
  { key := P.hkdf shared contextDigest, contextDigest, baseNonce }

/-- `relayNonce`: the number of the frame replaces the last eight bytes. -/
def relayNonce (base : Bytes) (sequence : ℕ) : Bytes := base.take 4 ++ bigEndian 8 sequence

def relayFrameAAD (contextDigest : Bytes) (sequence plaintextLength : ℕ) (flags : UInt8) : Bytes :=
  contextDigest ++ bigEndian 8 sequence ++ bigEndian 4 plaintextLength ++ [flags]

def sealRelayFrame (c : RelayCipher) (sequence : ℕ) (plaintext : Bytes) (flags : UInt8) :
    Option Bytes :=
  if relayFramePlaintextBytes < plaintext.length ∨ flags &&& ~~~relayFinalFlag ≠ 0 then none
  else some (bigEndian 4 plaintext.length ++ [flags] ++
    P.sealBytes c.key (relayNonce c.baseNonce sequence)
      (relayFrameAAD c.contextDigest sequence plaintext.length flags) plaintext)

/-- What the loop of `EncryptRelayStream` reads: full buffers, and what is left at the end. -/
def readBuffers : ℕ → Bytes → List Bytes
  | 0, _ => []
  | fuel + 1, plaintext =>
    if plaintext = [] then []
    else plaintext.take relayFramePlaintextBytes ::
      readBuffers fuel (plaintext.drop relayFramePlaintextBytes)

/-- The loop of `EncryptRelayStream` and the final frame. -/
def sealFrames (c : RelayCipher) : ℕ → List Bytes → Option Bytes
  | sequence, [] => sealRelayFrame P c sequence [] relayFinalFlag
  | sequence, buffer :: buffers => do
    let frame ← sealRelayFrame P c sequence buffer 0
    -- The counter wraps to zero.
    if sequence + 1 = 2 ^ 64 then none
    else (sealFrames c (sequence + 1) buffers).map (frame ++ ·)

/-- A call of `EncryptRelayStream`, with what it draws at random. -/
structure Encryption where
  (plaintext targetPublicKey : Bytes)
  context : RelayCipherContext
  (sourcePrivate baseNonce : Bytes)
  length_baseNonce : baseNonce.length = 12

def Encryption.buffers (e : Encryption) : List Bytes := readBuffers e.plaintext.length e.plaintext

def Encryption.valid (e : Encryption) : Bool :=
  validRelayCipherContext e.context && e.targetPublicKey.length = 32 &&
    (P.ecdh e.sourcePrivate e.targetPublicKey).isSome

def encryptRelayStream (e : Encryption) : Option Bytes :=
  if validRelayCipherContext e.context ∧ e.targetPublicKey.length = 32 then do
    let shared ← P.ecdh e.sourcePrivate e.targetPublicKey
    (sealFrames P (relayAEAD P shared e.context e.baseNonce) 0 e.buffers).map fun frames =>
      relayMagic ++ P.publicKey e.sourcePrivate ++ e.baseNonce ++ frames
  else none

/-! ## The size of a stream -/

lemma length_of_mem_readBuffers {fuel : ℕ} {plaintext b : Bytes}
    (h : b ∈ readBuffers fuel plaintext) : b.length ≤ relayFramePlaintextBytes := by
  induction fuel generalizing plaintext with
  | zero => cases h
  | succ fuel ih =>
    rw [readBuffers] at h
    split at h
    next => cases h
    next =>
      rcases List.mem_cons.mp h with rfl | h
      · exact (List.length_take_le _ _)
      · exact ih h

lemma readBuffers_covers {fuel : ℕ} {plaintext : Bytes} (h : plaintext.length ≤ fuel) :
    (readBuffers fuel plaintext).flatten = plaintext ∧ (readBuffers fuel plaintext).length =
      (plaintext.length + (relayFramePlaintextBytes - 1)) / relayFramePlaintextBytes := by
  induction fuel generalizing plaintext with
  | zero =>
    rw [List.length_eq_zero_iff.mp (Nat.le_zero.mp h)]
    decide
  | succ fuel ih =>
    rw [readBuffers]
    split
    next hnil => simp [hnil, relayFramePlaintextBytes]
    next hne =>
      have hpos := List.length_pos_iff.mpr hne
      have hrest : (plaintext.drop relayFramePlaintextBytes).length ≤ fuel := by
        rw [List.length_drop, relayFramePlaintextBytes]
        omega
      obtain ⟨hflatten, hcount⟩ := ih hrest
      rw [List.flatten_cons, hflatten, List.length_cons, hcount, List.length_drop,
        relayFramePlaintextBytes]
      exact ⟨List.take_append_drop _ _, by omega⟩

lemma sealRelayFrame_writes (c : RelayCipher) (sequence : ℕ) {p : Bytes} (flags : UInt8)
    (hp : p.length ≤ relayFramePlaintextBytes) (hflags : flags &&& ~~~relayFinalFlag = 0) :
    ∃ frame, sealRelayFrame P c sequence p flags = some frame ∧ frame.length = p.length + 21 := by
  refine ⟨_, if_neg (by simp [hp, hflags]), ?_⟩
  simp only [List.length_append, length_bigEndian, P.length_sealBytes, List.length_singleton]
  omega

lemma sealFrames_writes (c : RelayCipher) (sequence : ℕ) {buffers : List Bytes}
    (hbuffers : ∀ b ∈ buffers, b.length ≤ relayFramePlaintextBytes)
    (hsequence : sequence + buffers.length < 2 ^ 64) :
    ∃ frames, sealFrames P c sequence buffers = some frames ∧
      frames.length = buffers.flatten.length + 21 * (buffers.length + 1) := by
  induction buffers generalizing sequence with
  | nil => exact sealRelayFrame_writes P c sequence relayFinalFlag (Nat.zero_le _) (by decide)
  | cons b buffers ih =>
    obtain ⟨hb, hbuffers⟩ := List.forall_mem_cons.mp hbuffers
    rw [List.length_cons] at hsequence
    obtain ⟨frames, hframes, hlength⟩ := ih (sequence + 1) hbuffers (by omega)
    obtain ⟨frame, hframe, hlength'⟩ := sealRelayFrame_writes P c sequence 0 hb (by decide)
    refine ⟨frame ++ frames, ?_, ?_⟩
    · rw [sealFrames, hframe, Option.bind_eq_bind, Option.bind_some, if_neg (by omega), hframes]
      rfl
    · rw [List.length_append, hlength, hlength', List.flatten_cons, List.length_append,
        List.length_cons]
      omega

end

lemma encryptRelayStream_writes {P : Primitives} {e : Encryption} (h : e.valid P)
    (hsize : e.plaintext.length < 2 ^ 63) : ∃ stream, encryptRelayStream P e = some stream ∧
      (stream.length : ℤ) =
        52 + e.plaintext.length + 21 * ((e.plaintext.length + 1048575) / 1048576) + 21 := by
  simp only [Encryption.valid, Bool.and_eq_true, decide_eq_true_eq] at h
  obtain ⟨shared, hshared⟩ := Option.isSome_iff_exists.mp h.2
  obtain ⟨hflatten, hcount⟩ := readBuffers_covers (le_refl e.plaintext.length)
  have hnumbers : 0 + e.buffers.length < 2 ^ 64 := by
    rw [Encryption.buffers, hcount, relayFramePlaintextBytes]
    omega
  obtain ⟨frames, hframes, hlength⟩ := sealFrames_writes P
    (relayAEAD P shared e.context e.baseNonce) 0 (fun b => length_of_mem_readBuffers) hnumbers
  refine ⟨relayMagic ++ P.publicKey e.sourcePrivate ++ e.baseNonce ++ frames, ?_, ?_⟩
  · rw [encryptRelayStream, if_pos h.1, hshared, Option.bind_eq_bind, Option.bind_some,
      Encryption.buffers, hframes]
    rfl
  · rw [hflatten, hcount, relayFramePlaintextBytes] at hlength
    simp only [List.length_append, P.length_publicKey, e.length_baseNonce, hlength, relayMagic,
      List.length_cons, List.length_nil]
    omega

/-! ## The formula of the Controller -/

/-- The value of an expression of `int64`. -/
def int64 (n : ℤ) : ℤ := (n + 2 ^ 63) % 2 ^ 64 - 2 ^ 63

def maxInt64 : ℤ := 2 ^ 63 - 1

def relayCiphertextSize (plaintextBytes : ℤ) : Option ℤ :=
  if plaintextBytes ≤ 0 then none
  else
    let frames :=
      (int64 (plaintextBytes + relayFramePlaintextBytes - 1)).tdiv relayFramePlaintextBytes
    let overheadPerFrame : ℤ := relayFrameHeaderBytes + 16
    if (maxInt64 - relayHeaderBytes - overheadPerFrame).tdiv overheadPerFrame < frames ∨
        int64 (maxInt64 - relayHeaderBytes - frames * overheadPerFrame - overheadPerFrame) <
          plaintextBytes then none
    else some <| int64 <|
      relayHeaderBytes + plaintextBytes + frames * overheadPerFrame + overheadPerFrame

lemma relayCiphertextSize_eq {n : ℤ} (hpos : 0 < n) (hn : n < 2 ^ 63) : relayCiphertextSize n =
      if 52 + n + 21 * ((n + 1048575) / 1048576) + 21 ≤ maxInt64 then
        some (52 + n + 21 * ((n + 1048575) / 1048576) + 21) else none := by
  have hbytes : (relayFramePlaintextBytes : ℤ) = 1048576 := rfl
  have hheader : (relayHeaderBytes : ℤ) = 52 := rfl
  have hoverhead : (relayFrameHeaderBytes : ℤ) + 16 = 21 := rfl
  have hmost : (maxInt64 - 52 - 21).tdiv 21 = 439208192231179796 := by decide
  simp only [relayCiphertextSize, if_neg hpos.not_ge, hbytes, hheader, hoverhead, hmost]
  by_cases hwrap : n + 1048575 < 2 ^ 63
  · have hsum : int64 (n + 1048576 - 1) = n + 1048575 := by
      rw [int64]
      omega
    rw [hsum, Int.tdiv_eq_ediv_of_nonneg (by omega), int64, int64, maxInt64]
    by_cases hfits : 52 + n + 21 * ((n + 1048575) / 1048576) + 21 ≤ 2 ^ 63 - 1
    · rw [if_neg (by omega), if_pos hfits]
      exact congrArg some (by omega)
    · rw [if_pos (by omega), if_neg hfits]
  · -- the number of frames is negative, and then the room that is left wraps as well
    have hsum : int64 (n + 1048576 - 1) = -(2 ^ 64 - n - 1048575) := by
      rw [int64]
      omega
    have hframes : (2 ^ 64 - n - 1048575) / 1048576 = 8796093022207 ∨
        (2 ^ 64 - n - 1048575) / 1048576 = 8796093022208 := by omega
    rw [hsum, Int.neg_tdiv, Int.tdiv_eq_ediv_of_nonneg (by omega), int64, int64, maxInt64,
      if_neg (show ¬52 + n + 21 * ((n + 1048575) / 1048576) + 21 ≤ 2 ^ 63 - 1 by omega)]
    rcases hframes with hq | hq <;> rw [hq, if_pos (by omega)]

/-- **The size of a relay stream is computed exactly.**  For every size that an `int64` can hold,
and every valid encryption of a snapshot of that size, the formula gives the number of bytes written
if the snapshot is not empty and that number is an `int64`, and an error otherwise.  A size that is
not positive gives an error. -/
theorem relay_ciphertext_size_exact (P : Primitives) (size : ℤ) (hsize : size < 2 ^ 63) :
    (size ≤ 0 → relayCiphertextSize size = none) ∧
      ∀ e : Encryption, e.valid P = true → (e.plaintext.length : ℤ) = size →
        ∃ stream, encryptRelayStream P e = some stream ∧ relayCiphertextSize size =
          if 0 < size ∧ (stream.length : ℤ) ≤ maxInt64 then some (stream.length : ℤ) else none := by
  refine ⟨fun hneg => if_pos hneg, ?_⟩
  rintro e hvalid rfl
  obtain ⟨stream, hstream, hlength⟩ := encryptRelayStream_writes hvalid (by omega)
  refine ⟨stream, hstream, ?_⟩
  by_cases hpos : 0 < (e.plaintext.length : ℤ)
  · rw [relayCiphertextSize_eq hpos (by omega), hlength]
    simp only [hpos, true_and]
  · rw [if_neg fun h => hpos h.1, relayCiphertextSize, if_pos (by omega)]

def plainPrimitives : Primitives where
  publicKey _ := List.replicate 32 0
  ecdh _ _ := some []
  sum256 bytes := bytes
  hkdf secret _ := secret
  sealBytes _ _ _ plaintext := plaintext ++ List.replicate 16 0
  length_publicKey _ := rfl
  length_sealBytes _ _ _ _ := by simp

def zeroUUID : String := "00000000-0000-0000-0000-000000000000"

def sampleEncryption (plaintext : Bytes) : Encryption where
  plaintext
  targetPublicKey := List.replicate 32 0
  context := ⟨zeroUUID, zeroUUID, zeroUUID⟩
  sourcePrivate := []
  baseNonce := List.replicate 12 0
  length_baseNonce := rfl

theorem relay_ciphertext_size_exact_byte :
    ∃ stream, encryptRelayStream plainPrimitives (sampleEncryption [7]) = some stream ∧
      relayCiphertextSize 1 =
        if (0 : ℤ) < 1 ∧ (stream.length : ℤ) ≤ maxInt64 then some (stream.length : ℤ) else none :=
  (relay_ciphertext_size_exact plainPrimitives 1 (by decide)).2 (sampleEncryption [7])
    (by decide +kernel) rfl

/-- The stream of an empty plaintext has seventy-three bytes, and the formula gives none. -/
theorem relay_ciphertext_size_empty :
    (encryptRelayStream plainPrimitives (sampleEncryption [])).map List.length = some 73 ∧
      relayCiphertextSize 0 = none := by
  decide +kernel

end StControl.Crypto
