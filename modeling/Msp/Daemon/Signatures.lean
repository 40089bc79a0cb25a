import Msp.Daemon.IntegrityCheck
import Msp.Library.Handles

/-!
# Signatures

`msp_ed25519_generate_keypair`, `msp_ed25519_sign` and `msp_verify_signature` of
`src/daemon/integrity_check.c`.  Each is a body of checked OpenSSL calls in front
of the label `done`, where what is not `NULL` is freed.  What OpenSSL answers is
given from outside; `Truthful` says what a call that returns 1 has done,
in terms of a signature scheme.
-/

set_option autoImplicit false

namespace Msp.Daemon.Signatures

open Msp.Library.Handles Msp.Daemon.IntegrityCheck

def keyLen : ℕ := 32

def signatureLen : ℕ := 64

abbrev Key := Vector UInt8 keyLen

abbrev Signature := Vector UInt8 signatureLen

inductive Handle where
  | keyContext (address : ℕ)
  | digestContext (address : ℕ)
  | key (address : ℕ)
  deriving DecidableEq, Repr

abbrev Ref := Option Handle

def notNull (refs : List Ref) : List Ref := refs.filter Option.isSome

/-- The two variables of a function, the buffers that it writes to, and what it has done
with pointers. -/
structure Locals (Out : Type) where
  ctx : Ref
  pkey : Ref
  out : Out
  uses : List (Use Ref)

structure Returned (Out : Type) where
  ok : Bool
  out : Out
  uses : List (Use Ref)

namespace Locals
variable {Out : Type}

def start (out : Out) : Locals Out := ⟨none, none, out, []⟩

def newContext (answer : Ref) : Check (Locals Out) := fun state =>
  (answer.isSome,
    { state with ctx := answer, uses := state.uses ++ (notNull [answer]).map .acquire })

def newKey (answer : Ref) : Check (Locals Out) := fun state =>
  (answer.isSome,
    { state with pkey := answer, uses := state.uses ++ (notNull [answer]).map .acquire })

def call (good : Bool) (args : Locals Out → List Ref) (write : Out → Out) : Check (Locals Out) :=
  fun state =>
    (good,
      { state with
        out := write state.out
        uses := state.uses ++ (args state).map .use })

end Locals

structure KeyPair where
  publicKey : Key
  privateKey : Key

structure Written (size : ℕ) where
  result : Int
  bytes : Vector UInt8 size
  len : ℕ

/-- What OpenSSL answers.  Where `EVP_PKEY_keygen` returns 1 it has set `pkey`. -/
structure KeygenCalls where
  newContext : Option ℕ
  keygenInit : Int
  keygen : Int
  pkey : Option ℕ
  rawPublicKey : Written keyLen
  rawPrivateKey : Written keyLen
  generated : keygen = 1 → pkey.isSome = true

def Written.good {size : ℕ} (written : Written size) : Bool :=
  decide (written.result = 1) && decide (written.len = size)

namespace KeygenCalls
variable (calls : KeygenCalls)

def keygenCheck : Check (Locals KeyPair) := fun state =>
  (decide (calls.keygen = 1),
    { state with
      pkey := calls.pkey.map .key
      uses := state.uses ++ [.use state.ctx] ++ (notNull [calls.pkey.map .key]).map .acquire })

def body : List (Check (Locals KeyPair)) :=
  [Locals.newContext (calls.newContext.map .keyContext),
    Locals.call (decide (calls.keygenInit = 1)) (fun state => [state.ctx]) id,
    calls.keygenCheck,
    Locals.call calls.rawPublicKey.good (fun state => [state.pkey])
      fun out => { out with publicKey := calls.rawPublicKey.bytes },
    Locals.call calls.rawPrivateKey.good (fun state => [state.pkey])
      fun out => { out with privateKey := calls.rawPrivateKey.bytes }]

end KeygenCalls

def mspEd25519GenerateKeypair (openssl : KeygenCalls) (out : KeyPair) : Returned KeyPair :=
  let (ok, state) := runChecks openssl.body (Locals.start out)
  ⟨ok, state.out, state.uses ++ (notNull [state.pkey, state.ctx]).map .release⟩

structure SignCalls where
  newRawPrivateKey : Option ℕ
  newContext : Option ℕ
  digestSignInit : Int
  digestSign : Written signatureLen

def SignCalls.body (calls : SignCalls) : List (Check (Locals Signature)) :=
  [Locals.newKey (calls.newRawPrivateKey.map .key), Locals.newContext (calls.newContext.map .digestContext),
    Locals.call (decide (calls.digestSignInit = 1)) (fun state => [state.ctx, state.pkey]) id,
    Locals.call calls.digestSign.good (fun state => [state.ctx]) fun _ => calls.digestSign.bytes]

/-- `msp_ed25519_sign`, with OpenSSL's answers on this key and this digest. -/
def mspEd25519Sign (openssl : Key → Digest → SignCalls) (privateKey : Key) (digest : Digest)
    (out : Signature) : Returned Signature :=
  let (ok, state) := runChecks (openssl privateKey digest).body (Locals.start out)
  ⟨ok, state.out, state.uses ++ (notNull [state.ctx, state.pkey]).map .release⟩

structure VerifyCalls where
  newRawPublicKey : Option ℕ
  newContext : Option ℕ
  digestVerifyInit : Int
  digestVerify : Int

/-- The last statement is `ok = (EVP_DigestVerify(...) == 1)`. -/
def VerifyCalls.body (calls : VerifyCalls) : List (Check (Locals Unit)) :=
  [Locals.newKey (calls.newRawPublicKey.map .key), Locals.newContext (calls.newContext.map .digestContext),
    Locals.call (decide (calls.digestVerifyInit = 1)) (fun state => [state.ctx, state.pkey]) id,
    Locals.call (decide (calls.digestVerify = 1)) (fun state => [state.ctx]) id]

def mspVerifySignature (openssl : Key → Digest → Signature → VerifyCalls) (digest : Digest)
    (signature : Signature) (publicKey : Key) : Returned Unit :=
  let (ok, state) := runChecks (openssl publicKey digest signature).body (Locals.start ())
  ⟨ok, (), state.uses ++ (notNull [state.ctx, state.pkey]).map .release⟩

/-! ## What is freed -/

def Handle.isKey : Handle → Bool
  | .key _ => true
  | _ => false

structure Owned {Out : Type} (state : Locals Out) : Prop where
  leaves : Leaves state.uses (notNull [state.ctx, state.pkey])
  ctx : ∀ handle, state.ctx = some handle → handle.isKey = false
  pkey : ∀ handle, state.pkey = some handle → handle.isKey = true

/-- The invariant between two statements, with the variables that are set. -/
structure Ready {Out : Type} (hasCtx hasKey : Bool) (state : Locals Out) : Prop where
  owned : Owned state
  ctx : state.ctx.isSome = hasCtx
  pkey : state.pkey.isSome = hasKey

section Owned
variable {Out : Type} {state : Locals Out} {hasCtx hasKey : Bool}

theorem ready_start (out : Out) : Ready false false (Locals.start out) :=
  ⟨⟨leaves_nil, fun _ absent => (nomatch absent), fun _ absent => (nomatch absent)⟩, rfl, rfl⟩

theorem eq_none_of_isSome {ref : Ref} (unset : ref.isSome = false) : ref = none := by
  cases ref with
  | none => rfl
  | some handle => cases unset

theorem mem_notNull {refs : List Ref} {ref : Ref} :
    ref ∈ notNull refs ↔ ref ∈ refs ∧ ref.isSome = true := List.mem_filter

theorem notNull_some (ctx : Ref) (handle : Handle) :
    (some handle :: notNull [ctx]).Perm (notNull [ctx, some handle]) := by
  have split : notNull [ctx, some handle] = notNull [ctx] ++ [some handle] := by
    cases ctx <;> rfl
  rw [split]
  exact (List.perm_append_singleton _ _).symm

theorem Ready.newContext (ready : Ready false hasKey state) {answer : Ref}
    (kind : ∀ handle, answer = some handle → handle.isKey = false) :
    Owned (Locals.newContext answer state).2 := by
  have before := ready.owned.leaves
  rw [eq_none_of_isSome ready.ctx] at before
  refine ⟨?_, kind, ready.owned.pkey⟩
  cases answer with
  | none => simpa [Locals.newContext, notNull] using before
  | some handle =>
      have apart : some handle ∉ notNull [state.pkey] := by
        intro inside
        have same := List.mem_singleton.mp (mem_notNull.mp inside).1
        have isKey := ready.owned.pkey handle same.symm
        rw [kind handle rfl] at isKey
        cases isKey
      exact before.acquire apart

theorem Owned.setKey {uses : List (Use Ref)} {ctx answer : Ref} (out : Out)
    (leaves : Leaves uses (notNull [ctx]))
    (ctxKind : ∀ handle, ctx = some handle → handle.isKey = false)
    (kind : ∀ handle, answer = some handle → handle.isKey = true) :
    Owned ⟨ctx, answer, out, uses ++ (notNull [answer]).map .acquire⟩ := by
  refine ⟨?_, ctxKind, kind⟩
  cases answer with
  | none =>
      have same : notNull [ctx, none] = notNull [ctx] := by cases ctx <;> rfl
      change Leaves (uses ++ []) (notNull [ctx, none])
      rw [List.append_nil, same]
      exact leaves
  | some handle =>
      have apart : some handle ∉ notNull [ctx] := by
        intro inside
        have same := List.mem_singleton.mp (mem_notNull.mp inside).1
        have isContext := ctxKind handle same.symm
        rw [kind handle rfl] at isContext
        cases isContext
      exact (leaves.acquire apart).perm (notNull_some ctx handle)

theorem Ready.call (ready : Ready hasCtx hasKey state) (good : Bool)
    {args : Locals Out → List Ref} (write : Out → Out)
    (live : ∀ ref ∈ args state, ref ∈ notNull [state.ctx, state.pkey]) :
    Ready hasCtx hasKey (Locals.call good args write state).2 :=
  ⟨⟨ready.owned.leaves.useAll (args state) live, ready.owned.ctx, ready.owned.pkey⟩, ready.ctx,
    ready.pkey⟩

end Owned

section Chains
variable {Out : Type} {hasCtx hasKey : Bool} {rest : List (Check (Locals Out))}
  {after : Locals Out → Prop}

theorem chain_newContext {answer : Ref}
    (kind : ∀ handle, answer = some handle → handle.isKey = false)
    (others : Chain Owned (Ready true hasKey) rest after) :
    Chain Owned (Ready false hasKey) (Locals.newContext answer :: rest) after :=
  .cons (fun _ ready passed => ⟨ready.newContext kind, passed, ready.pkey⟩)
    (fun _ ready _ => ready.newContext kind) others

theorem chain_newKey {answer : Ref}
    (kind : ∀ handle, answer = some handle → handle.isKey = true)
    (others : Chain Owned (Ready false true) rest after) :
    Chain Owned (Ready false false) (Locals.newKey answer :: rest) after := by
  have owned : ∀ state : Locals Out, Ready false false state →
      Owned (Locals.newKey answer state).2 := by
    intro state ready
    have before := ready.owned.leaves
    rw [eq_none_of_isSome ready.pkey, eq_none_of_isSome ready.ctx] at before
    exact Owned.setKey state.out (by rw [eq_none_of_isSome ready.ctx]; exact before)
      ready.owned.ctx kind
  exact .cons (fun state ready passed => ⟨owned state ready, ready.ctx, passed⟩)
    (fun state ready _ => owned state ready) others

theorem chain_call {good : Bool} {args : Locals Out → List Ref} {write : Out → Out}
    (live : ∀ state, Ready hasCtx hasKey state →
      ∀ ref ∈ args state, ref ∈ notNull [state.ctx, state.pkey])
    (others : Chain Owned (Ready hasCtx hasKey) rest after) :
    Chain Owned (Ready hasCtx hasKey) (Locals.call good args write :: rest) after :=
  .cons (fun state ready _ => ready.call good write (live state ready))
    (fun state ready _ => (ready.call good write (live state ready)).owned) others

theorem live_ctx {state : Locals Out} (ready : Ready true hasKey state) :
    ∀ ref ∈ [state.ctx], ref ∈ notNull [state.ctx, state.pkey] := by
  intro ref member
  rw [List.mem_singleton.mp member]
  exact mem_notNull.mpr ⟨List.mem_cons_self, ready.ctx⟩

theorem live_pkey {state : Locals Out} (ready : Ready hasCtx true state) :
    ∀ ref ∈ [state.pkey], ref ∈ notNull [state.ctx, state.pkey] := by
  intro ref member
  rw [List.mem_singleton.mp member]
  exact mem_notNull.mpr ⟨List.mem_cons_of_mem _ List.mem_cons_self, ready.pkey⟩

theorem live_both {state : Locals Out} (ready : Ready true true state) :
    ∀ ref ∈ [state.ctx, state.pkey], ref ∈ notNull [state.ctx, state.pkey] := by
  intro ref member
  refine mem_notNull.mpr ⟨member, ?_⟩
  rcases List.mem_cons.mp member with rfl | member
  · exact ready.ctx
  · rw [List.mem_singleton.mp member]
    exact ready.pkey

end Chains

theorem isKey_map_key {address : Option ℕ} (handle : Handle)
    (same : address.map Handle.key = some handle) : handle.isKey = true := by
  obtain ⟨_, -, rfl⟩ := Option.map_eq_some_iff.mp same
  rfl

theorem chain_keygen (calls : KeygenCalls) {rest : List (Check (Locals KeyPair))}
    {after : Locals KeyPair → Prop} (others : Chain Owned (Ready true true) rest after) :
    Chain Owned (Ready true false) (calls.keygenCheck :: rest) after := by
  have owned : ∀ state, Ready true false state → Owned (calls.keygenCheck state).2 := by
    intro state ready
    have before := ready.owned.leaves.useAll [state.ctx] (live_ctx ready)
    rw [eq_none_of_isSome ready.pkey] at before
    have same : notNull [state.ctx, none] = notNull [state.ctx] := by
      cases state.ctx <;> rfl
    rw [same] at before
    exact Owned.setKey state.out before ready.owned.ctx isKey_map_key
  refine .cons (fun state ready passed => ⟨owned state ready, ready.ctx, ?_⟩)
    (fun state ready _ => owned state ready) others
  have generated := calls.generated (of_decide_eq_true passed)
  simpa [KeygenCalls.keygenCheck] using generated

theorem chain_generate (calls : KeygenCalls) :
    Chain Owned (Ready false false) calls.body (Ready true true) := by
  refine chain_newContext ?_ (chain_call (fun _ => live_ctx) (chain_keygen calls
    (chain_call (fun _ => live_pkey) (chain_call (fun _ => live_pkey) (.nil _)))))
  intro handle same
  obtain ⟨_, -, rfl⟩ := Option.map_eq_some_iff.mp same
  rfl

theorem chain_sign (calls : SignCalls) :
    Chain Owned (Ready false false) calls.body (Ready true true) := by
  refine chain_newKey isKey_map_key (chain_newContext ?_
    (chain_call (fun _ => live_both) (chain_call (fun _ => live_ctx) (.nil _))))
  intro handle same
  obtain ⟨_, -, rfl⟩ := Option.map_eq_some_iff.mp same
  rfl

theorem chain_verify (calls : VerifyCalls) :
    Chain Owned (Ready false false) calls.body (Ready true true) := by
  refine chain_newKey isKey_map_key (chain_newContext ?_
    (chain_call (fun _ => live_both) (chain_call (fun _ => live_ctx) (.nil _))))
  intro handle same
  obtain ⟨_, -, rfl⟩ := Option.map_eq_some_iff.mp same
  rfl

/-- Wherever a body is left, what it owns is what its variables point to. -/
theorem owned_of_chain {Out : Type} {checks : List (Check (Locals Out))}
    (chain : Chain Owned (Ready false false) checks (Ready true true)) (out : Out) :
    Owned (runChecks checks (Locals.start out)).2 := by
  rcases chain.sound _ (ready_start out) with ⟨-, ready⟩ | ⟨-, owned⟩
  · exact ready.owned
  · exact owned

theorem notNull_swap (ctx pkey : Ref) : (notNull [pkey, ctx]).Perm (notNull [ctx, pkey]) :=
  (List.Perm.swap ctx pkey []).filter _

/-- Every use is of a live object, none is live in the end, and each was freed as often as
it was obtained. -/
def Freed (uses : List (Use Ref)) : Prop :=
  Clean uses ∧ ∀ ref, uses.count (.acquire ref) = uses.count (.release ref)

theorem freed_of_clean {uses : List (Use Ref)} (clean : Clean uses) : Freed uses :=
  ⟨clean, clean.count_eq⟩

/-- On every path through the three functions, whatever OpenSSL answers: every object that
was obtained is freed once, none is used that is `NULL` or freed, none is freed twice. -/
theorem every_object_freed :
    (∀ (openssl : KeygenCalls) (out : KeyPair), Freed (mspEd25519GenerateKeypair openssl out).uses) ∧
      (∀ (openssl : Key → Digest → SignCalls) (privateKey : Key) (digest : Digest)
        (out : Signature), Freed (mspEd25519Sign openssl privateKey digest out).uses) ∧
      ∀ (openssl : Key → Digest → Signature → VerifyCalls) (digest : Digest)
        (signature : Signature) (publicKey : Key),
        Freed (mspVerifySignature openssl digest signature publicKey).uses := by
  refine ⟨fun openssl out => ?_, fun openssl privateKey digest out => ?_,
    fun openssl digest signature publicKey => ?_⟩
  · apply freed_of_clean
    exact (owned_of_chain (chain_generate openssl) out).leaves.clean (notNull_swap _ _)
  · apply freed_of_clean
    exact (owned_of_chain (chain_sign _) out).leaves.clean (.refl _)
  · apply freed_of_clean
    exact (owned_of_chain (chain_verify _) ()).leaves.clean (.refl _)

/-! ## What a signature says -/

structure Scheme where
  publicKey : Key → Key
  sign : Key → Digest → Signature
  verify : Key → Digest → Signature → Bool
  complete : ∀ privateKey digest,
    verify (publicKey privateKey) digest (sign privateKey digest) = true

/-- The two raw keys, where they are handed out, are those of one key pair. -/
def KeygenCalls.Truthful (scheme : Scheme) (calls : KeygenCalls) : Prop :=
  ∃ seed, (calls.rawPublicKey.result = 1 → calls.rawPublicKey.bytes = scheme.publicKey seed) ∧
    (calls.rawPrivateKey.result = 1 → calls.rawPrivateKey.bytes = seed)

def SignCalls.Truthful (scheme : Scheme) (privateKey : Key) (digest : Digest)
    (calls : SignCalls) : Prop :=
  calls.digestSign.result = 1 → calls.digestSign.bytes = scheme.sign privateKey digest

/-- 1 for a valid signature, 0 for an invalid one, and less for an error. -/
def VerifyCalls.Truthful (scheme : Scheme) (publicKey : Key) (digest : Digest)
    (signature : Signature) (calls : VerifyCalls) : Prop :=
  calls.digestVerify < 0 ∨
    calls.digestVerify = if scheme.verify publicKey digest signature then 1 else 0

structure VerifyCalls.NoStepFails (calls : VerifyCalls) : Prop where
  key : calls.newRawPublicKey.isSome = true
  context : calls.newContext.isSome = true
  init : calls.digestVerifyInit = 1
  verify : 0 ≤ calls.digestVerify

theorem verify_ok_iff (openssl : Key → Digest → Signature → VerifyCalls) (digest : Digest)
    (signature : Signature) (publicKey : Key) :
    (mspVerifySignature openssl digest signature publicKey).ok = true ↔
      let calls := openssl publicKey digest signature
      calls.newRawPublicKey.isSome = true ∧ calls.newContext.isSome = true ∧
        calls.digestVerifyInit = 1 ∧ calls.digestVerify = 1 := by
  have constant : List.Forall₂ (fun check result => ∀ state, (check state).1 = result)
      (openssl publicKey digest signature).body
      [(openssl publicKey digest signature).newRawPublicKey.isSome,
        (openssl publicKey digest signature).newContext.isSome,
        decide ((openssl publicKey digest signature).digestVerifyInit = 1),
        decide ((openssl publicKey digest signature).digestVerify = 1)] :=
    .cons (fun _ => Option.isSome_map) (.cons (fun _ => Option.isSome_map)
      (.cons (fun _ => rfl) (.cons (fun _ => rfl) .nil)))
  refine (runChecks_ok_iff constant _).trans ?_
  simp

theorem sign_ok {openssl : Key → Digest → SignCalls} {privateKey : Key} {digest : Digest}
    {out : Signature} (ok : (mspEd25519Sign openssl privateKey digest out).ok = true) :
    (openssl privateKey digest).digestSign.result = 1 ∧
      (mspEd25519Sign openssl privateKey digest out).out =
        (openssl privateKey digest).digestSign.bytes := by
  have constant : List.Forall₂ (fun check result => ∀ state, (check state).1 = result)
      (openssl privateKey digest).body
      [(openssl privateKey digest).newRawPrivateKey.isSome,
        (openssl privateKey digest).newContext.isSome,
        decide ((openssl privateKey digest).digestSignInit = 1),
        (openssl privateKey digest).digestSign.good] :=
    .cons (fun _ => Option.isSome_map) (.cons (fun _ => Option.isSome_map)
      (.cons (fun _ => rfl) (.cons (fun _ => rfl) .nil)))
  have goods := (runChecks_ok_iff constant _).mp ok
  have last : (openssl privateKey digest).digestSign.good = true := goods _ (by simp)
  refine ⟨of_decide_eq_true (Bool.and_eq_true_iff.mp last).1, ?_⟩
  have chain : Chain (fun _ => True) (fun _ => True) (openssl privateKey digest).body
      fun state => state.out = (openssl privateKey digest).digestSign.bytes :=
    .skip (.skip (.skip (.cons (fun _ _ _ => rfl) (fun _ _ _ => trivial) (.nil _))))
  rcases chain.sound (Locals.start out) trivial with ⟨-, same⟩ | ⟨failed, -⟩
  · exact same
  · cases ok.symm.trans failed

theorem generate_ok {openssl : KeygenCalls} {out : KeyPair}
    (ok : (mspEd25519GenerateKeypair openssl out).ok = true) :
    openssl.rawPublicKey.result = 1 ∧ openssl.rawPrivateKey.result = 1 ∧
      (mspEd25519GenerateKeypair openssl out).out =
        ⟨openssl.rawPublicKey.bytes, openssl.rawPrivateKey.bytes⟩ := by
  have constant : List.Forall₂ (fun check result => ∀ state, (check state).1 = result)
      openssl.body
      [openssl.newContext.isSome, decide (openssl.keygenInit = 1), decide (openssl.keygen = 1),
        openssl.rawPublicKey.good, openssl.rawPrivateKey.good] :=
    .cons (fun _ => Option.isSome_map) (.cons (fun _ => rfl) (.cons (fun _ => rfl)
      (.cons (fun _ => rfl) (.cons (fun _ => rfl) .nil))))
  have goods := (runChecks_ok_iff constant _).mp ok
  have publicGood : openssl.rawPublicKey.good = true := goods _ (by simp)
  have privateGood : openssl.rawPrivateKey.good = true := goods _ (by simp)
  refine ⟨of_decide_eq_true (Bool.and_eq_true_iff.mp publicGood).1,
    of_decide_eq_true (Bool.and_eq_true_iff.mp privateGood).1, ?_⟩
  have last : Chain (fun _ => True)
      (fun state : Locals KeyPair => state.out.publicKey = openssl.rawPublicKey.bytes)
      [Locals.call openssl.rawPrivateKey.good (fun state => [state.pkey])
        fun out => { out with privateKey := openssl.rawPrivateKey.bytes }]
      fun state => state.out = ⟨openssl.rawPublicKey.bytes, openssl.rawPrivateKey.bytes⟩ :=
    .cons (fun state written _ => congrArg (KeyPair.mk · _) written) (fun _ _ _ => trivial)
      (.nil _)
  have chain : Chain (fun _ => True) (fun _ => True) openssl.body
      fun state => state.out = ⟨openssl.rawPublicKey.bytes, openssl.rawPrivateKey.bytes⟩ :=
    .skip (.skip (.skip (.cons (fun _ _ _ => rfl) (fun _ _ _ => trivial) last)))
  rcases chain.sound (Locals.start out) trivial with ⟨-, same⟩ | ⟨failed, -⟩
  · exact same
  · cases ok.symm.trans failed

/-- With an OpenSSL that does what it is documented to do: `msp_verify_signature` accepts
nothing that the scheme does not accept, and accepts what it does accept unless a step
fails; so it accepts, unless a step fails, every signature that `msp_ed25519_sign` made
with a private key of `msp_ed25519_generate_keypair`, under the public key of the pair. -/
theorem signature_verifies_iff (scheme : Scheme)
    (openssl : Key → Digest → Signature → VerifyCalls)
    (verifies : ∀ publicKey digest signature,
      (openssl publicKey digest signature).Truthful scheme publicKey digest signature) :
    (∀ digest signature publicKey,
      (mspVerifySignature openssl digest signature publicKey).ok = true ↔
        (openssl publicKey digest signature).NoStepFails ∧
          scheme.verify publicKey digest signature = true) ∧
      ∀ (keygen : KeygenCalls) (pair : KeyPair) (signs : Key → Digest → SignCalls)
        (digest : Digest) (buffer : Signature), keygen.Truthful scheme →
        (∀ privateKey digest, (signs privateKey digest).Truthful scheme privateKey digest) →
        let generated := mspEd25519GenerateKeypair keygen pair
        let signed := mspEd25519Sign signs generated.out.privateKey digest buffer
        generated.ok = true → signed.ok = true →
          ((mspVerifySignature openssl digest signed.out generated.out.publicKey).ok = true ↔
            (openssl generated.out.publicKey digest signed.out).NoStepFails) := by
  have exactly : ∀ digest signature publicKey,
      (mspVerifySignature openssl digest signature publicKey).ok = true ↔
        (openssl publicKey digest signature).NoStepFails ∧
          scheme.verify publicKey digest signature = true := by
    intro digest signature publicKey
    rw [verify_ok_iff]
    have told := verifies publicKey digest signature
    constructor
    · rintro ⟨key, context, init, valid⟩
      refine ⟨⟨key, context, init, by omega⟩, ?_⟩
      rcases told with error | answer
      · omega
      · by_contra refused
        rw [if_neg refused] at answer
        omega
    · rintro ⟨⟨key, context, init, noError⟩, accepted⟩
      refine ⟨key, context, init, ?_⟩
      rcases told with error | answer
      · omega
      · rwa [if_pos accepted] at answer
  refine ⟨exactly, fun keygen pair signs digest buffer truthful signsTruthful => ?_⟩
  intro generated signed generatedOk signedOk
  obtain ⟨publicGood, privateGood, isPair⟩ := generate_ok generatedOk
  obtain ⟨signGood, isSignature⟩ := sign_ok signedOk
  obtain ⟨seed, publicBytes, privateBytes⟩ := truthful
  have isPublic : generated.out.publicKey = scheme.publicKey seed := by
    rw [← publicBytes publicGood]
    exact congrArg KeyPair.publicKey isPair
  have isPrivate : generated.out.privateKey = seed := by
    rw [← privateBytes privateGood]
    exact congrArg KeyPair.privateKey isPair
  have isSigned : signed.out = scheme.sign generated.out.privateKey digest :=
    isSignature.trans (signsTruthful _ _ signGood)
  rw [exactly]
  refine and_iff_left ?_
  rw [isSigned, isPublic, isPrivate]
  exact scheme.complete seed digest

/-- A key pair of Ed25519, and its signature of `abcDigest`. -/
def samplePrivateKey : Key :=
  #v[0x9d, 0x61, 0xb1, 0x9d, 0xef, 0xfd, 0x5a, 0x60,
    0xba, 0x84, 0x4a, 0xf4, 0x92, 0xec, 0x2c, 0xc4,
    0x44, 0x49, 0xc5, 0x69, 0x7b, 0x32, 0x69, 0x19,
    0x70, 0x3b, 0xac, 0x03, 0x1c, 0xae, 0x7f, 0x60]

def samplePublicKey : Key :=
  #v[0xd7, 0x5a, 0x98, 0x01, 0x82, 0xb1, 0x0a, 0xb7,
    0xd5, 0x4b, 0xfe, 0xd3, 0xc9, 0x64, 0x07, 0x3a,
    0x0e, 0xe1, 0x72, 0xf3, 0xda, 0xa6, 0x23, 0x25,
    0xaf, 0x02, 0x1a, 0x68, 0xf7, 0x07, 0x51, 0x1a]

def sampleSignature : Signature :=
  #v[0x09, 0x6f, 0x55, 0x69, 0xd8, 0x07, 0xee, 0x8a,
    0xc7, 0xb1, 0x91, 0x3d, 0xa7, 0x0c, 0xf0, 0xaa,
    0xb3, 0x35, 0xc2, 0x58, 0xf4, 0xb9, 0x4c, 0x8f,
    0x21, 0x0d, 0xd1, 0x41, 0xe9, 0x74, 0x39, 0x27,
    0xc8, 0xd1, 0xa6, 0xb3, 0x78, 0x87, 0x2a, 0x72,
    0xc9, 0x44, 0x6c, 0x1f, 0x75, 0xe6, 0xdc, 0x7b,
    0x2d, 0xef, 0x98, 0xbd, 0x0c, 0x21, 0x4b, 0xe6,
    0x70, 0x6d, 0x48, 0x79, 0x1f, 0x57, 0x68, 0x0a]

def sampleScheme : Scheme where
  publicKey _ := samplePublicKey
  sign _ _ := sampleSignature
  verify publicKey _ signature :=
    decide (publicKey = samplePublicKey) && decide (signature = sampleSignature)
  complete _ _ := by simp

def sampleVerify (publicKey : Key) (digest : Digest) (signature : Signature) : VerifyCalls :=
  ⟨some 1, some 2, 1, if sampleScheme.verify publicKey digest signature then 1 else 0⟩

def sampleSign (privateKey : Key) (digest : Digest) : SignCalls :=
  ⟨some 1, some 2, 1, ⟨1, sampleScheme.sign privateKey digest, signatureLen⟩⟩

def sampleKeygen : KeygenCalls where
  newContext := some 1
  keygenInit := 1
  keygen := 1
  pkey := some 2
  rawPublicKey := ⟨1, samplePublicKey, keyLen⟩
  rawPrivateKey := ⟨1, samplePrivateKey, keyLen⟩
  generated _ := rfl

theorem signature_verifies_iff_sample :
    let zeros : Key := .replicate keyLen 0
    let generated := mspEd25519GenerateKeypair sampleKeygen ⟨zeros, zeros⟩
    (mspVerifySignature sampleVerify abcDigest
      (mspEd25519Sign sampleSign generated.out.privateKey abcDigest (.replicate signatureLen 0)).out
        generated.out.publicKey).ok = true :=
  ((signature_verifies_iff sampleScheme sampleVerify fun _ _ _ => Or.inr rfl).2 sampleKeygen _
    sampleSign _ _ ⟨samplePrivateKey, fun _ => rfl, fun _ => rfl⟩ (fun _ _ _ => rfl) rfl rfl).mpr
    ⟨rfl, rfl, rfl, by unfold sampleVerify; split <;> decide⟩

end Msp.Daemon.Signatures
