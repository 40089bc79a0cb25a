import Mathlib.Data.List.FinRange
import Mathlib.Tactic.Common

/-!
# The integrity check

`msp_sha256`, `msp_digest_equal` and `msp_verify_integrity` of
`src/daemon/integrity_check.c`.  The digest calls of OpenSSL are an oracle: each
may fail, the last one may have written part of a digest before it does, and
where all succeed the digest is the one of `hash`.

A data pointer is null or the memory behind it.  Buffers hold anything before
they are written.  The signatures of the same file are in `Signatures`.
-/

set_option autoImplicit false

namespace Msp.Daemon.IntegrityCheck

def sha256DigestLen : Nat := 32

abbrev Digest := Vector UInt8 sha256DigestLen

inductive Call where
  | newContext
  | digestInit
  | digestUpdate
  | digestFinal
  | freeContext
  deriving DecidableEq, Repr

structure Final where
  result : Int
  outDigest : Digest
  outLen : Nat

/-- The answers of OpenSSL; `updated` is what the context has been fed with. -/
structure Evp (hash : List UInt8 → Digest) where
  newContext : Bool
  digestInit : Int
  digestUpdate : List UInt8 → Int
  digestFinal : List UInt8 → Final
  truthful : ∀ updated, (digestFinal updated).result = 1 →
    (digestFinal updated).outLen = sha256DigestLen → (digestFinal updated).outDigest = hash updated

abbrev Pointer := Option (Nat → UInt8)

def bytesAt (data : Pointer) (len : Nat) : List UInt8 :=
  match data with
  | none => []
  | some memory => (List.range len).map memory

structure Sha256 where
  ok : Bool
  outDigest : Digest
  calls : List Call

section Check
variable {hash : List UInt8 → Digest}

/-- The `&&` chain of `msp_sha256`. -/
def digestChain (evp : Evp hash) (bytes : List UInt8) (outDigest : Digest) : Sha256 :=
  if evp.digestInit = 1 then
    if evp.digestUpdate bytes = 1 then
      let final := evp.digestFinal bytes
      ⟨decide (final.result = 1) && decide (final.outLen = sha256DigestLen), final.outDigest,
        [.digestInit, .digestUpdate, .digestFinal]⟩
    else ⟨false, outDigest, [.digestInit, .digestUpdate]⟩
  else ⟨false, outDigest, [.digestInit]⟩

def mspSha256 (evp : Evp hash) (data : Pointer) (len : Nat) (outDigest : Digest) : Sha256 :=
  if data.isNone ∧ len ≠ 0 then ⟨false, outDigest, []⟩
  else if evp.newContext then
    let run := digestChain evp (bytesAt data len) outDigest
    { run with calls := .newContext :: run.calls ++ [.freeContext] }
  else ⟨false, outDigest, [.newContext]⟩

def mspDigestEqual (a b : Digest) : Bool :=
  let diff := (List.finRange sha256DigestLen).foldl (fun diff i => diff ||| (a[i] ^^^ b[i])) 0
  decide (diff = 0)

/-- `actual` is on the stack. -/
def mspVerifyIntegrity (evp : Evp hash) (data : Pointer) (len : Nat) (expectedDigest : Digest)
    (actual : Digest) : Bool :=
  let run := mspSha256 evp data len actual
  if run.ok then mspDigestEqual run.outDigest expectedDigest else false

theorem foldl_diff_eq_zero_iff {Index : Type} (a b : Index → UInt8) : ∀ (indices : List Index)
    (diff : UInt8),
    indices.foldl (fun diff i => diff ||| (a i ^^^ b i)) diff = 0 ↔
      diff = 0 ∧ ∀ i ∈ indices, a i = b i := by
  intro indices
  induction indices with
  | nil => intro diff; simp
  | cons i rest ih =>
      intro diff
      rw [List.foldl_cons, ih, UInt8.or_eq_zero_iff, UInt8.xor_eq_zero_iff, List.forall_mem_cons,
        and_assoc]

theorem mspDigestEqual_iff (a b : Digest) :
    mspDigestEqual a b = true ↔ ∀ i : Fin sha256DigestLen, a[i] = b[i] := by
  rw [mspDigestEqual, decide_eq_true_iff,
    foldl_diff_eq_zero_iff (fun i : Fin sha256DigestLen => a[i]) fun i => b[i]]
  simp

def bitAt (digest : Digest) (i : Fin sha256DigestLen) (bit : Fin 8) : Bool :=
  digest[i].toBitVec.getLsb bit

theorem mspDigestEqual_eq_false_iff (a b : Digest) :
    mspDigestEqual a b = false ↔ ∃ i bit, bitAt a i bit ≠ bitAt b i bit := by
  rw [← Bool.not_eq_true, mspDigestEqual_iff, not_forall]
  refine exists_congr fun i => ?_
  rw [← not_forall, not_iff_not, ← UInt8.toBitVec_inj]
  constructor
  · intro same bit
    rw [bitAt, bitAt, same]
  · intro same
    exact BitVec.eq_of_getLsbD_eq fun bit below => same ⟨bit, below⟩

structure NoStepFails (evp : Evp hash) (bytes : List UInt8) : Prop where
  newContext : evp.newContext = true
  digestInit : evp.digestInit = 1
  digestUpdate : evp.digestUpdate bytes = 1
  digestFinal : (evp.digestFinal bytes).result = 1
  outLen : (evp.digestFinal bytes).outLen = sha256DigestLen

section Sha256
variable (evp : Evp hash) (data : Pointer) (len : Nat) (outDigest : Digest)

theorem digestChain_ok_iff (bytes : List UInt8) :
    (digestChain evp bytes outDigest).ok = true ↔ evp.digestInit = 1 ∧
      evp.digestUpdate bytes = 1 ∧ (evp.digestFinal bytes).result = 1 ∧
        (evp.digestFinal bytes).outLen = sha256DigestLen := by
  unfold digestChain
  split
  · rename_i initialised
    split
    · rename_i updated
      simp [initialised, updated]
    · rename_i failed
      simp [failed]
  · rename_i failed
    simp [failed]

theorem mspSha256_ok_iff :
    (mspSha256 evp data len outDigest).ok = true ↔
      NoStepFails evp (bytesAt data len) ∧ ¬ (data.isNone ∧ len ≠ 0) := by
  unfold mspSha256
  split
  · rename_i guarded
    exact iff_of_false nofun fun both => both.2 guarded
  · rename_i passed
    rw [and_iff_left passed]
    split
    · rename_i created
      refine (digestChain_ok_iff evp outDigest (bytesAt data len)).trans ?_
      constructor
      · rintro ⟨initialised, updated, finished, whole⟩
        exact ⟨created, initialised, updated, finished, whole⟩
      · exact fun steps =>
          ⟨steps.digestInit, steps.digestUpdate, steps.digestFinal, steps.outLen⟩
    · rename_i refused
      exact iff_of_false nofun fun steps => refused steps.newContext

theorem mspSha256_outDigest (steps : NoStepFails evp (bytesAt data len))
    (passed : ¬ (data.isNone ∧ len ≠ 0)) :
    (mspSha256 evp data len outDigest).outDigest = hash (bytesAt data len) := by
  have whole := evp.truthful (bytesAt data len) steps.digestFinal steps.outLen
  rw [mspSha256, if_neg passed, if_pos steps.newContext, digestChain, if_pos steps.digestInit,
    if_pos steps.digestUpdate]
  exact whole

/-- The context is freed once, whichever call fails. -/
theorem mspSha256_frees :
    (mspSha256 evp data len outDigest).calls.count .freeContext =
      if .digestInit ∈ (mspSha256 evp data len outDigest).calls then 1 else 0 := by
  unfold mspSha256
  split
  · rfl
  · split
    · unfold digestChain
      split
      · split <;> rfl
      · rfl
    · rfl

end Sha256

end Check

/-- The check accepts exactly when no call failed, the pointer was not refused and all
bytes of the digest agree; one bit is enough for the comparison to fail. -/
theorem verify_integrity_iff (hash : List UInt8 → Digest) (evp : Evp hash) (data : Pointer)
    (len : Nat) (expectedDigest actual : Digest) :
    (mspVerifyIntegrity evp data len expectedDigest actual = true ↔
      NoStepFails evp (bytesAt data len) ∧ ¬ (data.isNone ∧ len ≠ 0) ∧
        ∀ i : Fin sha256DigestLen, (hash (bytesAt data len))[i] = expectedDigest[i]) ∧
    ∀ a b : Digest, mspDigestEqual a b = false ↔ ∃ i bit, bitAt a i bit ≠ bitAt b i bit := by
  refine ⟨?_, mspDigestEqual_eq_false_iff⟩
  have isOk := mspSha256_ok_iff evp data len actual
  unfold mspVerifyIntegrity
  dsimp only
  split
  · rename_i ok
    obtain ⟨steps, passed⟩ := isOk.mp ok
    rw [mspSha256_outDigest evp data len actual steps passed, mspDigestEqual_iff]
    exact ⟨fun equal => ⟨steps, passed, equal⟩, fun all => all.2.2⟩
  · rename_i failed
    exact iff_of_false nofun fun all => failed (isOk.mpr ⟨all.1, all.2.1⟩)

/-- The SHA-256 of `abc`. -/
def abcDigest : Digest :=
  #v[0xba, 0x78, 0x16, 0xbf, 0x8f, 0x01, 0xcf, 0xea,
    0x41, 0x41, 0x40, 0xde, 0x5d, 0xae, 0x22, 0x23,
    0xb0, 0x03, 0x61, 0xa3, 0x96, 0x17, 0x7a, 0x9c,
    0xb4, 0x10, 0xff, 0x61, 0xf2, 0x00, 0x15, 0xad]

def abcEvp : Evp fun _ => abcDigest where
  newContext := true
  digestInit := 1
  digestUpdate _ := 1
  digestFinal _ := ⟨1, abcDigest, sha256DigestLen⟩
  truthful _ _ _ := rfl

theorem verify_integrity_iff_abc :
    mspVerifyIntegrity abcEvp (some fun i => [97, 98, 99].getD i 0) 3 abcDigest
      (.replicate sha256DigestLen 0) = true :=
  (verify_integrity_iff _ abcEvp _ 3 abcDigest _).1.mpr
    ⟨⟨rfl, rfl, rfl, rfl, rfl⟩, by simp, fun _ => rfl⟩

end Msp.Daemon.IntegrityCheck
