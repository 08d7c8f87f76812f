import AvpTropic.Vault.Chip

/-!
# What the secret operations implement

The AVP documentation describes `avp_store`, `avp_retrieve`, `avp_delete`, `avp_list` and
`avp_hw_attest` as a map from secret names to values. The code maps every name to R-memory
slot 0 (`TODO: Map name to slot index`), so on an authenticated vault the five operations
implement a single cell shared by all names (`cellStep`).

Results:
* `secretRun_eq_cellRun`: over any libtropic backend whose R-memory is the slot store of the
  specification, every run of secret calls on an authenticated vault returns exactly what the
  single-cell store returns, started from the contents of slot 0.
* `retrieve_returns_value_stored_under_other_name`: calls under one name see the stores and
  deletes made under others.
-/

namespace AvpTropic.Vault

variable {σ δ : Type} (L : Libtropic σ δ)

/-- A call of `avp_store`, `avp_retrieve`, `avp_delete`, `avp_list` or `avp_hw_attest`. -/
inductive SecretCall
  | store (name : Option CStr) (value : Option (List UInt8))
  | retrieve (name : Option CStr) (value : Bool) (valueLen : Option ℕ)
  | delete (name : Option CStr) (deleted : Bool)
  | list (count : Bool)
  | hwAttest (name : Option CStr) (attestation : Bool)

/-- What a secret call stores through its output pointers. -/
inductive SecretOut
  | store
  | retrieve (out : RetrieveOut)
  | delete (deleted : Option Bool)
  | list (count : Option ℕ)
  | hwAttest (attestation : Option AvpAttestation)

/-- A secret call on the vault: its return code, its outputs and the vault after it. -/
def secretStep (v : AvpVault σ) : SecretCall → AvpRet × SecretOut × AvpVault σ
  | .store n x => ((avpStore L v n x).ret, .store, (avpStore L v n x).vault)
  | .retrieve n x c =>
    ((avpRetrieve L v n x c).ret, .retrieve (avpRetrieve L v n x c).out, (avpRetrieve L v n x c).vault)
  | .delete n d => ((avpDelete L v n d).ret, .delete (avpDelete L v n d).out, (avpDelete L v n d).vault)
  | .list c => ((avpList v c).ret, .list (avpList v c).out, (avpList v c).vault)
  | .hwAttest n a =>
    ((avpHwAttest v n a).ret, .hwAttest (avpHwAttest v n a).out, (avpHwAttest v n a).vault)

/-- The secret call as a call of the AVP API. -/
def SecretCall.toAvpCall : SecretCall → AvpCall δ
  | .store n x => .store n x
  | .retrieve n x c => .retrieve n x c
  | .delete n d => .delete n d
  | .list c => .list c
  | .hwAttest n a => .hwAttest n a

theorem secretStep_vault (v : AvpVault σ) (c : SecretCall) :
    (secretStep L v c).2.2 = (avpCall L v c.toAvpCall).2 := by
  cases c <;> rfl

/-- What the caller sees of a run of secret calls. -/
def secretRun (v : AvpVault σ) : List SecretCall → List (AvpRet × SecretOut)
  | [] => []
  | c :: cs => ((secretStep L v c).1, (secretStep L v c).2.1) :: secretRun (secretStep L v c).2.2 cs

/-! ## The single-cell store -/

/-- The state of the store the secret operations implement: one cell for every name. -/
abbrev Cell := Option (List UInt8)

/-- A secret call on the single-cell store of an authenticated vault. A store succeeds when
    the value fits an R-memory slot, a delete empties the cell and reports whether it held a
    value, `avp_list` reports no secret and `avp_hw_attest` always attests. -/
def cellStep (cell : Cell) : SecretCall → AvpRet × SecretOut × Cell
  | .store (some n) (some val) =>
    if !validateSecretName false (some n) then (.errInvalidName, .store, cell)
    else if val.length > avpMaxSecretValueLen then (.errInternal, .store, cell)
    else if val.length ≤ rMemDataSizeMax then (.ok, .store, some val)
    else (.errHardwareError, .store, cell)
  | .store _ _ => (.errInternal, .store, cell)
  | .retrieve (some n) value (some cap) =>
    if !value then (.errInternal, .retrieve ⟨[], some cap⟩, cell)
    else if !validateSecretName false (some n) then (.errInvalidName, .retrieve ⟨[], some cap⟩, cell)
    else
      match cell with
      | none => (.errSecretNotFound, .retrieve ⟨[], some cap⟩, cell)
      | some d =>
        if d.length ≤ cap % 2 ^ 16 then (.ok, .retrieve ⟨d, some d.length⟩, cell)
        else (.errHardwareError, .retrieve ⟨[], some cap⟩, cell)
  | .retrieve _ _ c => (.errInternal, .retrieve ⟨[], c⟩, cell)
  | .delete (some _) deleted => (.ok, .delete (if deleted then some cell.isSome else none), none)
  | .delete none _ => (.errInternal, .delete none, cell)
  | .list count => if count then (.ok, .list (some 0), cell) else (.errInternal, .list none, cell)
  | .hwAttest (some _) attestation =>
    if attestation then (.ok, .hwAttest (some tropicAttestation), cell)
    else (.errInternal, .hwAttest none, cell)
  | .hwAttest none _ => (.errInternal, .hwAttest none, cell)

/-- What the caller sees of a run on the single-cell store. -/
def cellRun (cell : Cell) : List SecretCall → List (AvpRet × SecretOut)
  | [] => []
  | c :: cs => ((cellStep cell c).1, (cellStep cell c).2.1) :: cellRun (cellStep cell c).2.2 cs

/-! ## Refinement -/

section Refinement

variable {L} {rmem : σ → RMem} (hL : RMemRefines L rmem) {v : AvpVault σ}
  (hv : v.authenticated = true)
include hL hv

theorem avpStore_refines (n : Option CStr) (x : Option (List UInt8)) :
    ((avpStore L v n x).ret, SecretOut.store, rmem (avpStore L v n x).vault.ltHandle 0) =
      cellStep (rmem v.ltHandle 0) (.store n x) := by
  rcases n with _ | n <;> rcases x with _ | val <;>
    simp only [avpStore, cellStep, hv, Bool.not_true, Bool.false_eq_true, if_false]
  obtain ⟨hr, hm⟩ := hL.write v.ltHandle 0 val
  rw [rMemDataWrite_zero] at hr hm
  cases validateSecretName false (some n)
  · rfl
  by_cases h1 : val.length > avpMaxSecretValueLen
  · simp only [h1, Bool.not_true, Bool.false_eq_true, if_true, if_false]
  by_cases h2 : val.length ≤ rMemDataSizeMax
  · rw [if_pos h2] at hr hm
    simp [h1, h2, hr, hm]
  · rw [if_neg h2] at hr hm
    simp [h1, h2, hr, hm]

theorem avpRetrieve_refines (n : Option CStr) (x : Bool) (c : Option ℕ) :
    ((avpRetrieve L v n x c).ret, SecretOut.retrieve (avpRetrieve L v n x c).out,
      rmem (avpRetrieve L v n x c).vault.ltHandle 0) = cellStep (rmem v.ltHandle 0) (.retrieve n x c) := by
  rcases n with _ | n <;> rcases c with _ | cap <;> try rfl
  cases x
  · rfl
  obtain ⟨hr, hm⟩ := hL.read v.ltHandle 0 (cap % 65536)
  rcases hread : L.ltRMemDataRead v.ltHandle 0 (cap % 65536) with ⟨ret, data, s'⟩
  simp only [hread, rMemDataRead_zero] at hr hm
  cases hn : validateSecretName false (some n)
  · simp [avpRetrieve, cellStep, hv, hn]
  have hlt : cap % 65536 < 65536 := Nat.mod_lt _ (by decide)
  rcases hc : rmem v.ltHandle 0 with _ | d <;> simp only [hc, Prod.mk.injEq] at hr
  · simp [avpRetrieve, cellStep, hv, hn, hread, hm, hc, hr]
  · by_cases hd : d.length ≤ cap % 65536
    · simp only [hd, if_true, Prod.mk.injEq] at hr
      simp [avpRetrieve, cellStep, hv, hn, hread, hm, hc, hr, hd, Nat.mod_eq_of_lt (lt_of_le_of_lt hd hlt)]
    · simp only [hd, if_false, Prod.mk.injEq] at hr
      simp [avpRetrieve, cellStep, hv, hn, hread, hm, hc, hr, hd]

theorem avpDelete_refines (n : Option CStr) (d : Bool) :
    ((avpDelete L v n d).ret, SecretOut.delete (avpDelete L v n d).out,
      rmem (avpDelete L v n d).vault.ltHandle 0) = cellStep (rmem v.ltHandle 0) (.delete n d) := by
  rcases n with _ | n
  · rfl
  obtain ⟨hr, hm⟩ := hL.erase v.ltHandle 0
  rw [rMemDataErase_zero] at hr hm
  rcases hc : rmem v.ltHandle 0 with _ | c <;> simp only [hc] at hr hm <;>
    cases d <;> simp [avpDelete, cellStep, hv, hr, hm, hc]

theorem secretStep_refines (c : SecretCall) :
    ((secretStep L v c).1, (secretStep L v c).2.1, rmem (secretStep L v c).2.2.ltHandle 0) =
      cellStep (rmem v.ltHandle 0) c ∧ (secretStep L v c).2.2.authenticated = true := by
  refine ⟨?_, ?_⟩
  · cases c with
    | store n x => exact avpStore_refines hL hv n x
    | retrieve n x c => exact avpRetrieve_refines hL hv n x c
    | delete n d => exact avpDelete_refines hL hv n d
    | list c => cases c <;> simp [secretStep, avpList, cellStep, hv]
    | hwAttest n a => cases n <;> cases a <;> simp [secretStep, avpHwAttest, cellStep, hv]
  · rw [secretStep_vault, (avpCall_sameFields L v _ (by cases c <;> rfl)).authenticated, hv]

end Refinement

/-- On an authenticated vault over a backend whose R-memory is the slot store of the
    specification, every run of secret calls returns what the single-cell store returns
    from the contents of slot 0. -/
theorem secretRun_eq_cellRun {rmem : σ → RMem} (hL : RMemRefines L rmem) {v : AvpVault σ}
    (hv : v.authenticated = true) (cs : List SecretCall) :
    secretRun L v cs = cellRun (rmem v.ltHandle 0) cs := by
  induction cs generalizing v with
  | nil => rfl
  | cons c cs ih =>
    obtain ⟨he, hv'⟩ := secretStep_refines hL hv c
    simp only [Prod.ext_iff] at he
    simp only [secretRun, cellRun, he.1, he.2.1, ih hv', he.2.2]

theorem secretRun_eq_cellRun_openedOn :
    (openedOn (Tropic01.blank (ascii "1234")) ⟨ascii "1234", by decide⟩).authenticated = true ∧
    secretRun tropic01 (openedOn (Tropic01.blank (ascii "1234")) ⟨ascii "1234", by decide⟩) [.list true] =
      cellRun none [.list true] :=
  ⟨rfl, secretRun_eq_cellRun tropic01 tropic01_rMemRefines rfl _⟩

/-- After storing `[1]` under `a` and `[2]` under `b`: retrieving `a` returns `[2]`, the list
    is empty, deleting `c`, which was never stored, reports a deleted secret, and then `b` is
    not found. -/
theorem retrieve_returns_value_stored_under_other_name :
    secretRun tropic01 (openedOn (Tropic01.blank (ascii "1234")) ⟨ascii "1234", by decide⟩)
      [.store (some ⟨ascii "a", by decide⟩) (some [1]), .store (some ⟨ascii "b", by decide⟩) (some [2]),
        .retrieve (some ⟨ascii "a", by decide⟩) true (some 16), .list true,
        .delete (some ⟨ascii "c", by decide⟩) true, .retrieve (some ⟨ascii "b", by decide⟩) true (some 16)] =
      [(.ok, .store), (.ok, .store), (.ok, .retrieve ⟨[2], some 1⟩), (.ok, .list (some 0)),
        (.ok, .delete (some true)), (.errSecretNotFound, .retrieve ⟨[], some 16⟩)] := by
  rfl

end AvpTropic.Vault
