import AvpTropic.Vault.Name
import AvpTropic.Vault.SessionId

/-!
# The AVP operations

Models of the ten AVP operations and the utility functions of `avp/avp_tropic.h`
(lines 363–644), over an arbitrary libtropic backend `L`.

Pointers are modelled by what the code does with them: the vault pointer is not NULL (a NULL
vault only returns `AVP_ERR_INTERNAL`); an input string or buffer is an `Option` (`none` is
NULL); an output pointer is a `Bool` (`false` is NULL), and what the operation stores
through it is the `out` of its `AvpResult`. Names are validated with the unsigned `char` of
the ARM ABI; `validateSecretName_signed_eq` shows the choice does not matter.

The secret operations are stubs of the intended design: every name is mapped to R-memory
slot 0 (`TODO: Map name to slot index`), `avp_list` reports no secrets and `avp_hw_attest`
reports `verified` without asking the chip.

Results:
* `avpStore_invalidName`, `avpRetrieve_invalidName`: these two reject an invalid name before
  any libtropic call; `avpDelete_name_irrelevant`, `avpHwSign_name_irrelevant` and
  `avpHwAttest_name_irrelevant`: the other three never look at the name beyond its NULL test.
* `avpHwSign_signs_any_capacity`: `avp_hw_sign` never reads the capacity the caller gives.
* `avpCall_sameFields`: every call other than `avp_init`, `avp_deinit` and
  `avp_authenticate` leaves every AVP-level field of the vault as it was.
* `avpAuthenticate_cases`: `avp_authenticate` either opens a session or fails after the
  workspace has been written.
* `avpCall_gate`: the secret operations do nothing on a vault that is not authenticated.
-/

namespace AvpTropic.Vault

variable {σ δ : Type} (L : Libtropic σ δ)

/-- Stores into the array `a`, with a store past its end dropped. -/
def storeArray {N : ℕ} (a : Fin N → UInt8) (ws : List (ℕ × UInt8)) : Fin N → UInt8 :=
  fun i => applyWrites (fun j => if h : j < N then a ⟨j, h⟩ else 0) ws i.val

/-- The vault after `memset(vault, 0, sizeof(avp_vault_t))`, with the handle `h`. -/
def AvpVault.zeroed (h : σ) : AvpVault σ :=
  ⟨h, .inactive, zeroArray 64, 0, 0, zeroArray 256, false⟩

/-- `v'` differs from `v` at most in the libtropic handle. -/
def AvpVault.SameFields (v' v : AvpVault σ) : Prop := { v' with ltHandle := v.ltHandle } = v

theorem AvpVault.SameFields.authenticated {v v' : AvpVault σ} (h : v'.SameFields v) :
    v'.authenticated = v.authenticated := by
  rw [← h]

/-! ## Lifecycle -/

/-- `avp_init(vault, device)` (lines 363–382); `none` is a NULL `device`. -/
def avpInit (v : AvpVault σ) (device : Option δ) : AvpResult σ Unit :=
  match device with
  | none => ⟨.errInternal, v, ()⟩
  | some d =>
    let r := L.ltInit v.ltHandle d
    if r.1 ≠ .ok then ⟨.errHardwareError, AvpVault.zeroed r.2, ()⟩
    else
      let v' := AvpVault.zeroed r.2
      ⟨.ok, { v' with
        sessionState := .inactive
        authenticated := false
        workspace := strcpy v'.workspace defaultWorkspace }, ()⟩

/-- `avp_init` leaves the vault unauthenticated, whatever `lt_init` returns. -/
theorem avpInit_some_authenticated (v : AvpVault σ) (d : δ) :
    (avpInit L v (some d)).vault.authenticated = false := by
  dsimp only [avpInit]
  split_ifs <;> rfl

/-- `avp_deinit(vault)` (lines 384–398); the result of `lt_deinit` is ignored. -/
def avpDeinit (v : AvpVault σ) : AvpResult σ Unit :=
  ⟨.ok, { v with
    ltHandle := (L.ltDeinit v.ltHandle).2
    sessionId := zeroArray 64
    sessionState := .inactive
    authenticated := false }, ()⟩

/-- The response `avp_discover` fills (lines 406–412). -/
def discoverResponse : AvpDiscoverResponse :=
  ⟨strncpy (zeroArray 16) avpVersion 15, strncpy (zeroArray 16) ⟨ascii "hardware", by decide⟩ 15,
    true, true, avpTropicKeySlots.toUInt16⟩

/-- `avp_discover(vault, response)` (lines 400–415). -/
def avpDiscover (v : AvpVault σ) (response : Bool) : AvpResult σ (Option AvpDiscoverResponse) :=
  if response then ⟨.ok, v, some discoverResponse⟩ else ⟨.errInternal, v, none⟩

/-! ## `avp_authenticate` -/

/-- Lines 424–428: `strncpy(vault->workspace, workspace, 255)`, or `"default"` for NULL. -/
def setWorkspace (ws : Fin 256 → UInt8) : Option CStr → Fin 256 → UInt8
  | some w => strncpy ws w 255
  | none => strcpy ws defaultWorkspace

/-- Lines 439–445: a new session ID, `AVP_SESSION_ACTIVE`, the TTL (`0` selects the
    default), and the authenticated flag. -/
def AvpVault.openSession (v : AvpVault σ) (ttlSeconds : UInt32) : AvpVault σ :=
  { v with
    sessionId := storeArray v.sessionId (generateSessionIdWrites 64)
    sessionState := .active
    sessionTtl := if ttlSeconds > 0 then ttlSeconds else avpDefaultTtlSeconds
    sessionCreatedAt := 0
    authenticated := true }

/-- `avp_authenticate(vault, workspace, pin, ttl_seconds)` (lines 417–448). `lt_login` is
    called only for a non-NULL PIN. -/
def avpAuthenticate (v : AvpVault σ) (workspace pin : Option CStr) (ttlSeconds : UInt32) :
    AvpResult σ Unit :=
  let v := { v with workspace := setWorkspace v.workspace workspace }
  match pin with
  | none => ⟨.ok, v.openSession ttlSeconds, ()⟩
  | some p =>
    let r := L.ltLogin v.ltHandle p.bytes
    if r.1 ≠ .ok then ⟨.errAuthenticationFailed, { v with ltHandle := r.2 }, ()⟩
    else ⟨.ok, { v with ltHandle := r.2 }.openSession ttlSeconds, ()⟩

/-! ## Secret operations -/

/-- `avp_store(vault, name, value, value_len)` (lines 450–476); the buffer `value` holds
    `value_len` bytes. -/
def avpStore (v : AvpVault σ) (name : Option CStr) (value : Option (List UInt8)) :
    AvpResult σ Unit :=
  match name, value with
  | some n, some val =>
    if !v.authenticated then ⟨.errNotInitialized, v, ()⟩
    else if !validateSecretName false (some n) then ⟨.errInvalidName, v, ()⟩
    else if val.length > avpMaxSecretValueLen then ⟨.errInternal, v, ()⟩
    else
      let r := L.ltRMemDataWrite v.ltHandle 0 val
      ⟨if r.1 ≠ .ok then .errHardwareError else .ok, { v with ltHandle := r.2 }, ()⟩
  | _, _ => ⟨.errInternal, v, ()⟩

/-- `avp_store` rejects an invalid name without a libtropic call. -/
theorem avpStore_invalidName (v : AvpVault σ) (n : CStr) (x : Option (List UInt8))
    (hn : validateSecretName false (some n) = false) :
    (avpStore L v (some n) x).vault = v ∧ (avpStore L v (some n) x).ret ≠ .ok := by
  cases x <;> cases ha : v.authenticated <;> simp [avpStore, hn, ha]

/-- What `avp_retrieve` stores: the bytes the chip read put into `value`, and `*value_len`
    (`none` when `value_len` is NULL). -/
structure RetrieveOut where
  value : List UInt8
  valueLen : Option ℕ
  deriving DecidableEq

/-- `avp_retrieve(vault, name, value, value_len)` (lines 478–505). The chip read gets the
    bound `(uint16_t)*value_len`; on success `*value_len` becomes the `uint16_t read_len`. -/
def avpRetrieve (v : AvpVault σ) (name : Option CStr) (value : Bool) (valueLen : Option ℕ) :
    AvpResult σ RetrieveOut :=
  match name, valueLen with
  | some n, some cap =>
    if !value then ⟨.errInternal, v, ⟨[], some cap⟩⟩
    else if !v.authenticated then ⟨.errNotInitialized, v, ⟨[], some cap⟩⟩
    else if !validateSecretName false (some n) then ⟨.errInvalidName, v, ⟨[], some cap⟩⟩
    else
      let r := L.ltRMemDataRead v.ltHandle 0 (cap % 2 ^ 16)
      if r.1 = .ok then ⟨.ok, { v with ltHandle := r.2.2 }, ⟨r.2.1, some (r.2.1.length % 2 ^ 16)⟩⟩
      else
        ⟨if r.1 = .l3SlotIsEmpty then .errSecretNotFound else .errHardwareError,
          { v with ltHandle := r.2.2 }, ⟨r.2.1, some cap⟩⟩
  | _, _ => ⟨.errInternal, v, ⟨[], valueLen⟩⟩

/-- `avp_retrieve` rejects an invalid name without a libtropic call. -/
theorem avpRetrieve_invalidName (v : AvpVault σ) (n : CStr) (x : Bool) (c : Option ℕ)
    (hn : validateSecretName false (some n) = false) :
    (avpRetrieve L v (some n) x c).vault = v ∧ (avpRetrieve L v (some n) x c).ret ≠ .ok := by
  cases c <;> cases x <;> cases ha : v.authenticated <;> simp [avpRetrieve, hn, ha]

/-- `avp_delete(vault, name, deleted)` (lines 507–525): `*deleted` is whether the erase of
    slot 0 returned `LT_OK`. -/
def avpDelete (v : AvpVault σ) (name : Option CStr) (deleted : Bool) :
    AvpResult σ (Option Bool) :=
  match name with
  | none => ⟨.errInternal, v, none⟩
  | some _ =>
    if !v.authenticated then ⟨.errNotInitialized, v, none⟩
    else
      let r := L.ltRMemDataErase v.ltHandle 0
      ⟨.ok, { v with ltHandle := r.2 }, if deleted then some (r.1 = .ok) else none⟩

/-- `avp_delete` never reads the name beyond its NULL test. -/
theorem avpDelete_name_irrelevant (v : AvpVault σ) (n n' : CStr) (d : Bool) :
    avpDelete L v (some n) d = avpDelete L v (some n') d := rfl

/-- `avp_list(vault, secrets, max_secrets, count)` (lines 527–541): `*count = 0`. The code
    reads neither `secrets` nor `max_secrets`. -/
def avpList (v : AvpVault σ) (count : Bool) : AvpResult σ (Option ℕ) :=
  if !count then ⟨.errInternal, v, none⟩
  else if !v.authenticated then ⟨.errNotInitialized, v, none⟩
  else ⟨.ok, v, some 0⟩

/-! ## Hardware extension operations -/

/-- The attestation fields both hardware operations fill after `memset` (lines 562–564 and
    609–611). -/
def tropicAttestation : AvpAttestation :=
  { AvpAttestation.zero with
    verified := true
    manufacturer := strncpy (zeroArray 64) ⟨ascii "Tropic Square", by decide⟩ 63
    model := strncpy (zeroArray 64) ⟨ascii "TROPIC01", by decide⟩ 63 }

/-- `avp_hw_challenge(vault, attestation)` (lines 547–570); it has no authentication gate. -/
def avpHwChallenge (v : AvpVault σ) (attestation : Bool) :
    AvpResult σ (Option AvpAttestation) :=
  if !attestation then ⟨.errInternal, v, none⟩
  else
    let r := L.ltGetInfoChip v.ltHandle
    if r.1 ≠ .ok then ⟨.errHardwareError, { v with ltHandle := r.2 }, some AvpAttestation.zero⟩
    else
      ⟨.ok, { v with ltHandle := r.2 }, some { tropicAttestation with
        firmwareVersion := strncpy (zeroArray 32) ⟨ascii "1.0.0", by decide⟩ 31 }⟩

/-- What `avp_hw_sign` stores: the bytes the chip put into `signature`, and
    `*signature_len`. -/
structure SignOut where
  signature : List UInt8
  signatureLen : Option ℕ
  deriving DecidableEq

/-- `avp_hw_sign(vault, key_name, data, data_len, signature, signature_len)`
    (lines 572–593). `*signature_len` is only written, never read. -/
def avpHwSign (v : AvpVault σ) (keyName : Option CStr) (data : Option (List UInt8))
    (signature : Bool) (signatureLen : Option ℕ) : AvpResult σ SignOut :=
  match keyName, data, signatureLen with
  | some _, some d, some c =>
    if !signature then ⟨.errInternal, v, ⟨[], some c⟩⟩
    else if !v.authenticated then ⟨.errNotInitialized, v, ⟨[], some c⟩⟩
    else
      let r := L.ltEccEcdsaSign v.ltHandle 0 d
      if r.1 ≠ .ok then ⟨.errHardwareError, { v with ltHandle := r.2.2 }, ⟨r.2.1, some c⟩⟩
      else ⟨.ok, { v with ltHandle := r.2.2 }, ⟨r.2.1, some 64⟩⟩
  | _, _, _ => ⟨.errInternal, v, ⟨[], signatureLen⟩⟩

/-- `avp_hw_sign` never reads the key name beyond its NULL test. -/
theorem avpHwSign_name_irrelevant (v : AvpVault σ) (n n' : CStr) (d : Option (List UInt8))
    (s : Bool) (c : Option ℕ) :
    avpHwSign L v (some n) d s c = avpHwSign L v (some n') d s c := by
  cases d <;> cases c <;> rfl

/-- `avp_hw_sign` never reads `*signature_len`: on an authenticated vault, whenever the chip
    signs, it returns `AVP_OK`, stores the chip's signature and sets `*signature_len = 64`,
    whatever capacity the caller declared. -/
theorem avpHwSign_signs_any_capacity (v : AvpVault σ) (hv : v.authenticated = true) (n : CStr)
    (d : List UInt8) (c : ℕ) (h : (L.ltEccEcdsaSign v.ltHandle 0 d).1 = .ok) :
    (avpHwSign L v (some n) (some d) true (some c)).ret = .ok ∧
      (avpHwSign L v (some n) (some d) true (some c)).out =
        ⟨(L.ltEccEcdsaSign v.ltHandle 0 d).2.1, some 64⟩ := by
  simp [avpHwSign, hv, h]

/-- `avp_hw_attest(vault, name, attestation)` (lines 595–614). -/
def avpHwAttest (v : AvpVault σ) (name : Option CStr) (attestation : Bool) :
    AvpResult σ (Option AvpAttestation) :=
  match name with
  | none => ⟨.errInternal, v, none⟩
  | some _ =>
    if !attestation then ⟨.errInternal, v, none⟩
    else if !v.authenticated then ⟨.errNotInitialized, v, none⟩
    else ⟨.ok, v, some tropicAttestation⟩

/-- `avp_hw_attest` never reads the name beyond its NULL test. -/
theorem avpHwAttest_name_irrelevant (v : AvpVault σ) (n n' : CStr) (a : Bool) :
    avpHwAttest v (some n) a = avpHwAttest v (some n') a := rfl

/-! ## Utility functions -/

/-- `avp_session_active(vault)` (lines 620–627). -/
def avpSessionActive (v : AvpVault σ) : Bool :=
  v.sessionState = .active && v.authenticated

/-- `avp_strerror(ret)` (lines 629–644). -/
def avpStrerror : AvpRet → String
  | .ok => "OK"
  | .errNotInitialized => "Not initialized"
  | .errAuthenticationFailed => "Authentication failed"
  | .errSessionExpired => "Session expired"
  | .errSecretNotFound => "Secret not found"
  | .errCapacityExceeded => "Capacity exceeded"
  | .errInvalidName => "Invalid secret name"
  | .errHardwareError => "Hardware error"
  | .errCryptoError => "Cryptographic error"
  | .errInternal => "Internal error"

/-! ## Calls -/

/-- A call of one of the AVP operations with its arguments (lines 145–258). -/
inductive AvpCall (δ : Type)
  | init (device : Option δ)
  | deinit
  | discover (response : Bool)
  | authenticate (workspace pin : Option CStr) (ttlSeconds : UInt32)
  | store (name : Option CStr) (value : Option (List UInt8))
  | retrieve (name : Option CStr) (value : Bool) (valueLen : Option ℕ)
  | delete (name : Option CStr) (deleted : Bool)
  | list (count : Bool)
  | hwChallenge (attestation : Bool)
  | hwSign (keyName : Option CStr) (data : Option (List UInt8)) (signature : Bool)
      (signatureLen : Option ℕ)
  | hwAttest (name : Option CStr) (attestation : Bool)

/-- The return code of a call and the vault after it. -/
def avpCall (v : AvpVault σ) : AvpCall δ → AvpRet × AvpVault σ
  | .init d => ((avpInit L v d).ret, (avpInit L v d).vault)
  | .deinit => ((avpDeinit L v).ret, (avpDeinit L v).vault)
  | .discover r => ((avpDiscover v r).ret, (avpDiscover v r).vault)
  | .authenticate w p t => ((avpAuthenticate L v w p t).ret, (avpAuthenticate L v w p t).vault)
  | .store n x => ((avpStore L v n x).ret, (avpStore L v n x).vault)
  | .retrieve n x c => ((avpRetrieve L v n x c).ret, (avpRetrieve L v n x c).vault)
  | .delete n d => ((avpDelete L v n d).ret, (avpDelete L v n d).vault)
  | .list c => ((avpList v c).ret, (avpList v c).vault)
  | .hwChallenge a => ((avpHwChallenge L v a).ret, (avpHwChallenge L v a).vault)
  | .hwSign n d s c => ((avpHwSign L v n d s c).ret, (avpHwSign L v n d s c).vault)
  | .hwAttest n a => ((avpHwAttest v n a).ret, (avpHwAttest v n a).vault)

/-- The calls that write AVP-level fields of the vault. -/
def AvpCall.writesSession : AvpCall δ → Bool
  | .init _ | .deinit | .authenticate .. => true
  | _ => false

/-- The secret operations: their only gate is `vault->authenticated`. -/
def AvpCall.isSecretOp : AvpCall δ → Bool
  | .store .. | .retrieve .. | .delete .. | .list _ | .hwSign .. | .hwAttest .. => true
  | _ => false

/-- The calls that clear the vault: `avp_init` on a device and `avp_deinit`. -/
def AvpCall.clearsVault : AvpCall δ → Bool
  | .init (some _) | .deinit => true
  | _ => false

/-- The calls that issue an R-memory write or erase: `avp_store` and `avp_delete`. -/
def AvpCall.writesRMem : AvpCall δ → Bool
  | .store .. | .delete .. => true
  | _ => false

/-- `avp_authenticate`, the only call that can set `authenticated`. -/
def AvpCall.authenticates : AvpCall δ → Bool
  | .authenticate .. => true
  | _ => false

/-- The vault after the calls `cs`, made one after the other from `v`. -/
def avpRun (v : AvpVault σ) (cs : List (AvpCall δ)) : AvpVault σ :=
  cs.foldl (fun v c => (avpCall L v c).2) v

@[simp] theorem avpRun_nil (v : AvpVault σ) : avpRun L v ([] : List (AvpCall δ)) = v := rfl

@[simp] theorem avpRun_cons (v : AvpVault σ) (c : AvpCall δ) (cs : List (AvpCall δ)) :
    avpRun L v (c :: cs) = avpRun L (avpCall L v c).2 cs := rfl

/-- The return codes of the calls `cs`, made one after the other from `v`. -/
def avpTrace (v : AvpVault σ) : List (AvpCall δ) → List AvpRet
  | [] => []
  | c :: cs => (avpCall L v c).1 :: avpTrace (avpCall L v c).2 cs

@[simp] theorem avpTrace_nil (v : AvpVault σ) : avpTrace L v ([] : List (AvpCall δ)) = [] := rfl

@[simp] theorem avpTrace_cons (v : AvpVault σ) (c : AvpCall δ) (cs : List (AvpCall δ)) :
    avpTrace L v (c :: cs) = (avpCall L v c).1 :: avpTrace L (avpCall L v c).2 cs := rfl

/-! ## What a call can do to the vault -/

theorem avpCall_sameFields (v : AvpVault σ) (c : AvpCall δ) (hc : c.writesSession = false) :
    (avpCall L v c).2.SameFields v := by
  cases c <;> simp only [AvpCall.writesSession, Bool.true_eq_false] at hc <;>
    simp only [avpCall, avpDiscover, avpStore, avpRetrieve, avpDelete, avpList, avpHwChallenge,
      avpHwSign, avpHwAttest] <;> repeat' first | rfl | split

/-- `avp_authenticate` either opens a session or fails with `AVP_ERR_AUTHENTICATION_FAILED`;
    both after writing the workspace. -/
theorem avpAuthenticate_cases (v : AvpVault σ) (workspace pin : Option CStr) (ttl : UInt32) :
    (∃ h, avpAuthenticate L v workspace pin ttl =
      ⟨.ok, { v with workspace := setWorkspace v.workspace workspace, ltHandle := h }.openSession ttl, ()⟩) ∨
    (∃ p h, pin = some p ∧ (L.ltLogin v.ltHandle p.bytes).1 ≠ .ok ∧ avpAuthenticate L v workspace pin ttl =
      ⟨.errAuthenticationFailed, { v with workspace := setWorkspace v.workspace workspace, ltHandle := h }, ()⟩) := by
  rcases pin with _ | p
  · exact .inl ⟨v.ltHandle, rfl⟩
  · by_cases h : (L.ltLogin v.ltHandle p.bytes).1 = .ok
    · exact .inl ⟨(L.ltLogin v.ltHandle p.bytes).2, by simp [avpAuthenticate, h]⟩
    · exact .inr ⟨p, (L.ltLogin v.ltHandle p.bytes).2, rfl, h, by simp [avpAuthenticate, h]⟩

/-- A secret operation on a vault that is not authenticated returns `AVP_ERR_INTERNAL` or
    `AVP_ERR_NOT_INITIALIZED` and changes nothing: no libtropic call is made. -/
theorem avpCall_gate (v : AvpVault σ) (c : AvpCall δ) (hc : c.isSecretOp = true)
    (hv : v.authenticated = false) :
    (avpCall L v c).2 = v ∧ ((avpCall L v c).1 = .errInternal ∨ (avpCall L v c).1 = .errNotInitialized) := by
  cases c <;> simp only [AvpCall.isSecretOp, Bool.false_eq_true] at hc <;>
    simp only [avpCall, avpStore, avpRetrieve, avpDelete, avpList, avpHwSign, avpHwAttest, hv,
      Bool.not_false, ite_true] <;> repeat' split
  all_goals simp

end AvpTropic.Vault
