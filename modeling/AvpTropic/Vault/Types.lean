import AvpTropic.CString

/-!
# The data of the AVP layer

Models of the types and constants of `avp/avp_tropic.h` (lines 34–132 and 304–306 of the
source file) and of the libtropic calls the AVP layer makes.

libtropic itself (`libtropic.h`, `lt_init`, `lt_r_mem_data_write`, …) is not part of the
sources. The AVP operations are therefore modelled over an arbitrary `Libtropic σ δ`: the
state `σ` below the AVP layer (the `lt_handle_t` inside the vault together with the chip it
talks to) and one function per libtropic call. Every result about the AVP layer that does
not say otherwise holds for every such backend, whatever the chip answers.
-/

namespace AvpTropic.Vault

/-- `avp_ret_t` (lines 34–45). -/
inductive AvpRet
  | ok
  | errNotInitialized
  | errAuthenticationFailed
  | errSessionExpired
  | errSecretNotFound
  | errCapacityExceeded
  | errInvalidName
  | errHardwareError
  | errCryptoError
  | errInternal
  deriving DecidableEq, Repr

/-- `avp_session_state_t` (lines 66–71). -/
inductive AvpSessionState
  | inactive
  | active
  | expired
  | terminated
  deriving DecidableEq, Repr

/-- The `lt_ret_t` codes that the modelled code tests or returns. -/
inductive LtRet
  | ok
  | fail
  | paramErr
  | l1SpiError
  | l1DataLenError
  | l1IntTimeout
  | l3SlotIsEmpty
  deriving DecidableEq, Repr

/-- `AVP_MAX_SECRET_NAME_LEN`. -/
def avpMaxSecretNameLen : ℕ := 255

/-- `AVP_MAX_SECRET_VALUE_LEN` (64 KiB). -/
def avpMaxSecretValueLen : ℕ := 65536

/-- `AVP_TROPIC_KEY_SLOTS`. -/
def avpTropicKeySlots : ℕ := 128

/-- `AVP_SESSION_ID_LEN`: the length of the random part of a session ID. -/
def avpSessionIdLen : ℕ := 32

/-- `AVP_DEFAULT_TTL_SECONDS`. -/
def avpDefaultTtlSeconds : UInt32 := 300

/-- `AVP_SESSION_PREFIX`. -/
def avpSessionPrefix : CStr := ⟨ascii "avp_sess_", by decide⟩

/-- `AVP_VERSION`. -/
def avpVersion : CStr := ⟨ascii "0.1.0", by decide⟩

/-- The workspace literal `"default"`. -/
def defaultWorkspace : CStr := ⟨ascii "default", by decide⟩

/-- The `avp_vault_t` handle (lines 76–97). `ltHandle` is the libtropic state. -/
structure AvpVault (σ : Type) where
  ltHandle : σ
  sessionState : AvpSessionState
  sessionId : Fin 64 → UInt8
  sessionCreatedAt : UInt32
  sessionTtl : UInt32
  workspace : Fin 256 → UInt8
  authenticated : Bool

/-- `avp_discover_response_t` (lines 113–119). -/
structure AvpDiscoverResponse where
  version : Fin 16 → UInt8
  conformance : Fin 16 → UInt8
  attestation : Bool
  rotation : Bool
  maxSecrets : UInt16

/-- `avp_attestation_t` (lines 124–132). -/
structure AvpAttestation where
  verified : Bool
  manufacturer : Fin 64 → UInt8
  model : Fin 64 → UInt8
  firmwareVersion : Fin 32 → UInt8
  serial : Fin 64 → UInt8
  certificate : Fin 2048 → UInt8
  certificateLen : ℕ

/-- `memset(attestation, 0, sizeof(avp_attestation_t))`. -/
def AvpAttestation.zero : AvpAttestation :=
  ⟨false, zeroArray 64, zeroArray 64, zeroArray 32, zeroArray 64, zeroArray 2048, 0⟩

/-- The libtropic calls of the AVP layer. Each takes the state below the AVP layer and
    returns the `lt_ret_t` and the next state; the reads also return the bytes they store
    into the caller's buffer (`lt_r_mem_data_read` sets `read_len` to their number). -/
structure Libtropic (σ δ : Type) where
  /-- `lt_init(&vault->lt_handle, device)`, on the handle `memset` has just cleared. -/
  ltInit : σ → δ → LtRet × σ
  ltDeinit : σ → LtRet × σ
  /-- `lt_login(&vault->lt_handle, pin, strlen(pin))`. -/
  ltLogin : σ → List UInt8 → LtRet × σ
  /-- `lt_r_mem_data_write(h, slot, value, value_len)`. -/
  ltRMemDataWrite : σ → ℕ → List UInt8 → LtRet × σ
  /-- `lt_r_mem_data_read(h, slot, value, &read_len)` with `read_len` on entry. -/
  ltRMemDataRead : σ → ℕ → ℕ → LtRet × List UInt8 × σ
  ltRMemDataErase : σ → ℕ → LtRet × σ
  /-- `lt_ecc_ecdsa_sign(h, slot, data, data_len, signature)`. -/
  ltEccEcdsaSign : σ → ℕ → List UInt8 → LtRet × List UInt8 × σ
  ltGetInfoChip : σ → LtRet × σ

/-- What an AVP operation returns, the vault after it, and what it stores through its output
    pointers. -/
structure AvpResult (σ α : Type) where
  ret : AvpRet
  vault : AvpVault σ
  out : α

end AvpTropic.Vault
