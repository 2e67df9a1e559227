import Mathlib.Algebra.Group.Int.Defs
import Mathlib.Data.Prod.Lex
import Mathlib.Data.String.Basic
import Mathlib.Order.Basic

/-!
# Activity-ownership claims

An *activity-ownership claim* says which node last owned the activity of a user handle.  A
claim is either a `controller_grant`, recorded by the node on which the controller opened a
session, or a `user_confirmed_takeover`, the child of the claim it supersedes.  Claims are
identified by a digest of their immutable facts and ordered by the triple (controller
generation, activity epoch, takeover sequence).

This module embeds the pure part of `activity_ownership.go`: the record, the text that is
hashed, the validity check, the constructor and the comparison.  What the program takes from
outside its own text, the SHA-256 digest in hexadecimal and Go's Unicode lower-casing, is the
record `Env`, a parameter of the whole agent model.

`compareActivityOwnership` returns `-1`, `0`, `1` or `2` in the source; here the four answers
are the constructors of `Comparison`.  `compareActivityOwnership_newer_iff` and its companions
tie them to the linear order on `ActivityOwnershipClaim.key`.
-/

namespace StControl.Agent

/-- A node identity (`int64` in the source; the registered ones are positive). -/
abbrev NodeID := ℤ

/-- The functions the agent takes from its libraries: `hex.EncodeToString(sha256.Sum256(·))`
and `strings.ToLower`. -/
structure Env where
  (digest toLower : String → String)

inductive OwnershipKind
  | controllerGrant | userConfirmedTakeover
  deriving DecidableEq

def OwnershipKind.text : OwnershipKind → String
  | .controllerGrant => "controller_grant"
  | .userConfirmedTakeover => "user_confirmed_takeover"

/-- `activityOwnershipClaim` of the source. -/
structure ActivityOwnershipClaim where
  (claimID handle : String)
  ownerNodeID : NodeID
  (controllerGeneration activityEpoch takeoverSequence : ℤ)
  kind : OwnershipKind
  (parentClaimID operationID : String)
  observedAt : ℤ
  deriving DecidableEq

namespace ActivityOwnershipClaim

def facts (c : ActivityOwnershipClaim) :
    String × NodeID × ℤ × ℤ × ℤ × OwnershipKind × String × String :=
  (c.handle, c.ownerNodeID, c.controllerGeneration, c.activityEpoch, c.takeoverSequence,
    c.kind, c.parentClaimID, c.operationID)

def key (c : ActivityOwnershipClaim) : ℤ ×ₗ ℤ ×ₗ ℤ :=
  toLex (c.controllerGeneration, toLex (c.activityEpoch, c.takeoverSequence))

variable {c d : ActivityOwnershipClaim}

lemma key_eq_iff : c.key = d.key ↔ c.controllerGeneration = d.controllerGeneration ∧
      c.activityEpoch = d.activityEpoch ∧ c.takeoverSequence = d.takeoverSequence := by
  simp [key]

lemma key_lt_iff : c.key < d.key ↔ c.controllerGeneration < d.controllerGeneration ∨
      c.controllerGeneration = d.controllerGeneration ∧ (c.activityEpoch < d.activityEpoch ∨
        c.activityEpoch = d.activityEpoch ∧ c.takeoverSequence < d.takeoverSequence) := by
  simp [key, Prod.Lex.toLex_lt_toLex]

lemma handle_eq_of_facts (h : c.facts = d.facts) : c.handle = d.handle := congrArg (·.1) h

lemma key_eq_of_facts (h : c.facts = d.facts) : c.key = d.key := by
  simp only [facts, Prod.mk.injEq] at h
  exact key_eq_iff.mpr ⟨h.2.2.1, h.2.2.2.1, h.2.2.2.2.1⟩

end ActivityOwnershipClaim

/-! ## Identity and validity -/

def canonicalOwnershipText (c : ActivityOwnershipClaim) : String :=
  "stcontrol-activity-owner:v1\n" ++ c.handle ++ "\n" ++ toString c.ownerNodeID ++ "\n" ++
    toString c.controllerGeneration ++ "\n" ++ toString c.activityEpoch ++ "\n" ++
    toString c.takeoverSequence ++ "\n" ++ c.kind.text ++ "\n" ++ c.parentClaimID ++ "\n" ++
    c.operationID

/-- `activityOwnershipClaimID`: the observation time is not part of the identity. -/
def activityOwnershipClaimID (env : Env) (c : ActivityOwnershipClaim) : String :=
  env.digest (canonicalOwnershipText c)

/-- `unicode.IsSpace`, the runes `strings.TrimSpace` removes. -/
def isSpaceRune (c : Char) : Bool :=
  let n := c.toNat
  (9 ≤ n && n ≤ 13) || n == 0x20 || n == 0x85 || n == 0xA0 || n == 0x1680 ||
    (0x2000 ≤ n && n ≤ 0x200A) || n == 0x2028 || n == 0x2029 || n == 0x202F || n == 0x205F ||
    n == 0x3000

/-- `safeInventoryString`: not empty, at most `limit` bytes, unchanged by trimming (no space at
either end), and free of control characters. -/
def safeInventoryString (value : String) (limit : ℕ) : Bool :=
  let runes := value.toList
  !runes.isEmpty && value.utf8ByteSize ≤ limit &&
    !(runes.head?.any isSpaceRune) && !(runes.getLast?.any isSpaceRune) &&
    runes.all fun c => !(c.toNat < 0x20 || c.toNat == 0x7f)

/-- A hexadecimal digit of either case, as `hex.DecodeString` accepts it. -/
def isHexDigit (c : Char) : Bool :=
  ('0' ≤ c && c ≤ '9') || ('a' ≤ c && c ≤ 'f') || ('A' ≤ c && c ≤ 'F')

/-- `validOwnershipDigest`: 32 bytes in hexadecimal. -/
def validOwnershipDigest (value : String) : Bool :=
  let runes := value.toList
  runes.length == 64 && runes.all isHexDigit

/-- `validUUID`: 36 characters, dashes at 8, 13, 18 and 23, and 16 hexadecimal bytes once every
dash is removed. -/
def validUUID (value : String) : Bool :=
  let runes := value.toList
  let digits := runes.filter (· != '-')
  runes.length == 36 && runes[8]? == some '-' && runes[13]? == some '-' &&
    runes[18]? == some '-' && runes[23]? == some '-' &&
    digits.length == 32 && digits.all isHexDigit

def validOwnershipHandle (env : Env) (handle : String) : Bool :=
  safeInventoryString handle 128 && env.toLower handle == handle

def validateActivityOwnershipClaim (env : Env) (c : ActivityOwnershipClaim) : Bool :=
  safeInventoryString c.handle 128 && env.toLower c.handle == c.handle &&
    0 < c.ownerNodeID && 0 < c.controllerGeneration && 0 < c.activityEpoch &&
    0 ≤ c.takeoverSequence && 0 < c.observedAt &&
    c.claimID == activityOwnershipClaimID env c &&
    match c.kind with
    | .controllerGrant => c.takeoverSequence == 0 && c.parentClaimID == "" && c.operationID == ""
    | .userConfirmedTakeover =>
      0 < c.takeoverSequence && validOwnershipDigest c.parentClaimID && validUUID c.operationID

/-- `makeActivityOwnershipClaim`: fill in the identity and validate. -/
def makeActivityOwnershipClaim (env : Env) (handle : String) (ownerNodeID : NodeID)
    (controllerGeneration activityEpoch takeoverSequence : ℤ) (kind : OwnershipKind)
    (parentClaimID operationID : String) (now : ℤ) : Option ActivityOwnershipClaim :=
  let claim : ActivityOwnershipClaim :=
    { claimID := "", handle, ownerNodeID, controllerGeneration, activityEpoch,
      takeoverSequence, kind, parentClaimID, operationID, observedAt := now }
  let claim := { claim with claimID := activityOwnershipClaimID env claim }
  if validateActivityOwnershipClaim env claim then some claim else none

variable {env : Env} {c : ActivityOwnershipClaim}

lemma makeActivityOwnershipClaim_eq_some {handle : String} {owner : NodeID}
    {generation epoch sequence : ℤ} {kind : OwnershipKind} {parent operation : String} {now : ℤ}
    (h : makeActivityOwnershipClaim env handle owner generation epoch sequence kind parent
      operation now = some c) :
    validateActivityOwnershipClaim env c ∧ c.handle = handle ∧ c.ownerNodeID = owner ∧
      c.controllerGeneration = generation ∧ c.activityEpoch = epoch ∧
      c.takeoverSequence = sequence ∧ c.kind = kind ∧ c.parentClaimID = parent ∧
      c.operationID = operation := by
  simp only [makeActivityOwnershipClaim, Option.ite_none_right_eq_some, Option.some.injEq] at h
  obtain ⟨hvalid, rfl⟩ := h
  exact ⟨hvalid, rfl, rfl, rfl, rfl, rfl, rfl, rfl, rfl⟩

lemma takeoverSequence_nonneg_of_valid
    (h : validateActivityOwnershipClaim env c) : 0 ≤ c.takeoverSequence := by
  simp only [validateActivityOwnershipClaim, Bool.and_eq_true, decide_eq_true_eq] at h
  exact h.1.1.1.2

lemma takeoverSequence_pos_of_valid (h : validateActivityOwnershipClaim env c)
    (hk : c.kind = .userConfirmedTakeover) : 0 < c.takeoverSequence := by
  simp only [validateActivityOwnershipClaim, hk, Bool.and_eq_true, decide_eq_true_eq] at h
  exact h.2.1.1

/-- Addition of one in `int64`, which wraps at the top. -/
def int64Succ (n : ℤ) : ℤ := (n + 1 + 2 ^ 63) % 2 ^ 64 - 2 ^ 63

/-- The range of `int64`. -/
def InInt64 (n : ℤ) : Prop := -2 ^ 63 ≤ n ∧ n < 2 ^ 63

lemma int64Succ_inInt64 (n : ℤ) : InInt64 (int64Succ n) := by
  unfold InInt64 int64Succ
  omega

lemma int64Succ_eq {n : ℤ} (hn : 0 ≤ n) (hr : InInt64 n) (hpos : 0 < int64Succ n) :
    int64Succ n = n + 1 := by
  unfold InInt64 at hr
  unfold int64Succ at hpos ⊢
  omega

/-! ## Comparison -/

/-- The answers `-1`, `0`, `1` and `2` of `compareActivityOwnership`. -/
inductive Comparison
  | older | same | newer | conflict
  deriving DecidableEq

/-- `compareActivityOwnership`: the first pair of the triple that differs decides; the same
triple under different identities is a conflict and not a tie. -/
def compareActivityOwnership (left right : ActivityOwnershipClaim) : Comparison :=
  if left.controllerGeneration < right.controllerGeneration then .older
  else if right.controllerGeneration < left.controllerGeneration then .newer
  else if left.activityEpoch < right.activityEpoch then .older
  else if right.activityEpoch < left.activityEpoch then .newer
  else if left.takeoverSequence < right.takeoverSequence then .older
  else if right.takeoverSequence < left.takeoverSequence then .newer
  else if left.claimID = right.claimID then .same
  else .conflict

lemma compareActivityOwnership_eq (left right : ActivityOwnershipClaim) :
    compareActivityOwnership left right = if left.key < right.key then .older
      else if right.key < left.key then .newer
      else if left.claimID = right.claimID then .same else .conflict := by
  unfold compareActivityOwnership
  simp only [ActivityOwnershipClaim.key_lt_iff]
  grind

lemma compareActivityOwnership_newer_iff {left right : ActivityOwnershipClaim} :
    compareActivityOwnership left right = .newer ↔ right.key < left.key := by
  rw [compareActivityOwnership_eq]
  constructor
  · intro h
    by_contra hlt
    split_ifs at h
  · intro h
    rw [if_neg h.asymm, if_pos h]

end StControl.Agent
