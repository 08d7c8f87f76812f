import AvpTropic.Vault.Ops

/-!
# R-memory and a TROPIC01 backend

libtropic and the chip are not part of the sources. What the AVP layer needs from them is
modelled here from the specification (§4.3, "Command set": `r_mem_data_{read,write,erase}`
on slots `0..511` with at most 444 bytes of data, numeric range checks before any I/O; §7: a
command on an empty slot answers with a typed result, so that a delete can be idempotent)
and from the documentation of `avp_authenticate` (`docs/avp/index.md`, lines 306–307, and
`docs/avp/architecture.md`, line 213: after N failed PIN attempts the device locks out).

* `rMemDataWrite`, `rMemDataRead`, `rMemDataErase` are the R-memory slot store.
* `RMemEffects L rmem` says only what the R-memory commands of a backend `L`, seen through
  the abstraction `rmem`, do to the slots: a write or an erase changes its slot when it
  returns `LT_OK` and nothing otherwise, and a read changes nothing and returns an occupied
  slot that fits its buffer. The codes of write and erase are left open.
* `RMemRefines L rmem` says that `L` answers the R-memory commands as the slot store does,
  return codes included, with no transport fault; `RMemRefines.effects`: such a backend has
  the effects of `RMemEffects`.
* `tropic01` is one such backend (`tropic01_rMemRefines`), with a PIN lockout, for concrete
  runs.
-/

namespace AvpTropic.Vault

/-- The most data bytes an R-memory slot holds. -/
def rMemDataSizeMax : ℕ := 444

/-- The highest R-memory slot index. -/
def rMemDataSlotMax : ℕ := 511

/-- R-memory: the bytes each slot holds, `none` for an empty slot. -/
abbrev RMem := ℕ → Option (List UInt8)

/-- Modelled from the spec: `r_mem_data_write(slot, data)`; after the range checks the slot
    holds `data`. -/
def rMemDataWrite (m : RMem) (slot : ℕ) (data : List UInt8) : LtRet × RMem :=
  if slot ≤ rMemDataSlotMax ∧ data.length ≤ rMemDataSizeMax then
    (.ok, Function.update m slot (some data))
  else (.paramErr, m)

/-- Modelled from the spec: `r_mem_data_read(slot)` into a buffer of `bound` bytes; an empty
    slot is `LT_L3_SLOT_IS_EMPTY`, and data longer than the buffer is a length error. -/
def rMemDataRead (m : RMem) (slot bound : ℕ) : LtRet × List UInt8 :=
  if slot ≤ rMemDataSlotMax then
    match m slot with
    | none => (.l3SlotIsEmpty, [])
    | some d => if d.length ≤ bound then (.ok, d) else (.paramErr, [])
  else (.paramErr, [])

/-- Modelled from the spec: `r_mem_data_erase(slot)` empties an occupied slot; on an empty
    slot it answers `LT_L3_SLOT_IS_EMPTY` (§7), and the slot stays empty. -/
def rMemDataErase (m : RMem) (slot : ℕ) : LtRet × RMem :=
  if slot ≤ rMemDataSlotMax then
    match m slot with
    | none => (.l3SlotIsEmpty, m)
    | some _ => (.ok, Function.update m slot none)
  else (.paramErr, m)

/-- What the R-memory commands of the backend `L` do to the slots `rmem`: a write or an erase
    that returns `LT_OK` sets its slot and one that does not changes nothing; a read changes
    nothing, and returns the bytes of an occupied slot in range when they fit its buffer. A
    chip that refuses to overwrite an occupied slot, or that reports an empty slot on erase,
    has these effects too. -/
structure RMemEffects {σ δ : Type} (L : Libtropic σ δ) (rmem : σ → RMem) : Prop where
  write : ∀ s slot d, rmem (L.ltRMemDataWrite s slot d).2 =
    if (L.ltRMemDataWrite s slot d).1 = .ok then Function.update (rmem s) slot (some d) else rmem s
  erase : ∀ s slot, rmem (L.ltRMemDataErase s slot).2 =
    if (L.ltRMemDataErase s slot).1 = .ok then Function.update (rmem s) slot none else rmem s
  read : ∀ s slot b, rmem (L.ltRMemDataRead s slot b).2.2 = rmem s
  readBack : ∀ s slot b d, slot ≤ rMemDataSlotMax → rmem s slot = some d → d.length ≤ b →
    (L.ltRMemDataRead s slot b).1 = .ok ∧ (L.ltRMemDataRead s slot b).2.1 = d

/-- The backend `L` answers the R-memory commands as the slot store `rmem` does. -/
structure RMemRefines {σ δ : Type} (L : Libtropic σ δ) (rmem : σ → RMem) : Prop where
  write : ∀ s slot d, (L.ltRMemDataWrite s slot d).1 = (rMemDataWrite (rmem s) slot d).1 ∧
    rmem (L.ltRMemDataWrite s slot d).2 = (rMemDataWrite (rmem s) slot d).2
  read : ∀ s slot b, ((L.ltRMemDataRead s slot b).1, (L.ltRMemDataRead s slot b).2.1) =
    rMemDataRead (rmem s) slot b ∧ rmem (L.ltRMemDataRead s slot b).2.2 = rmem s
  erase : ∀ s slot, (L.ltRMemDataErase s slot).1 = (rMemDataErase (rmem s) slot).1 ∧
    rmem (L.ltRMemDataErase s slot).2 = (rMemDataErase (rmem s) slot).2

/-! ## The slot store -/

theorem rMemDataWrite_snd (m : RMem) (slot : ℕ) (d : List UInt8) :
    (rMemDataWrite m slot d).2 =
      if (rMemDataWrite m slot d).1 = .ok then Function.update m slot (some d) else m := by
  unfold rMemDataWrite
  split <;> rfl

theorem rMemDataErase_snd (m : RMem) (slot : ℕ) :
    (rMemDataErase m slot).2 =
      if (rMemDataErase m slot).1 = .ok then Function.update m slot none else m := by
  unfold rMemDataErase
  split
  · split <;> rfl
  · rfl

theorem rMemDataRead_of_some {m : RMem} {slot b : ℕ} {d : List UInt8} (hs : slot ≤ rMemDataSlotMax)
    (hm : m slot = some d) (hd : d.length ≤ b) : rMemDataRead m slot b = (.ok, d) := by
  simp [rMemDataRead, hs, hm, hd]

/-- A successful read returns at most the bytes the buffer holds. -/
theorem rMemDataRead_length_le {m : RMem} {slot b : ℕ} (h : (rMemDataRead m slot b).1 = .ok) :
    (rMemDataRead m slot b).2.length ≤ b := by
  unfold rMemDataRead at *
  split_ifs at * with hs
  split at *
  · simp at h
  · split_ifs at *
    simp_all

/-- A backend that answers as the slot store has the slot store's effects. -/
theorem RMemRefines.effects {σ δ : Type} {L : Libtropic σ δ} {rmem : σ → RMem}
    (h : RMemRefines L rmem) : RMemEffects L rmem where
  write s slot d := by rw [(h.write s slot d).1, (h.write s slot d).2, rMemDataWrite_snd]
  erase s slot := by rw [(h.erase s slot).1, (h.erase s slot).2, rMemDataErase_snd]
  read s slot b := (h.read s slot b).2
  readBack s slot b d hs hm hd := by
    simpa [rMemDataRead_of_some hs hm hd] using (h.read s slot b).1

/-! ## Slot 0 -/

theorem rMemDataWrite_zero (m : RMem) (d : List UInt8) :
    rMemDataWrite m 0 d =
      if d.length ≤ rMemDataSizeMax then (.ok, Function.update m 0 (some d)) else (.paramErr, m) := by
  simp [rMemDataWrite, rMemDataSlotMax]

theorem rMemDataRead_zero (m : RMem) (b : ℕ) :
    rMemDataRead m 0 b = match m 0 with
      | none => (.l3SlotIsEmpty, [])
      | some d => if d.length ≤ b then (.ok, d) else (.paramErr, []) := by
  simp [rMemDataRead, rMemDataSlotMax]

theorem rMemDataErase_zero (m : RMem) :
    rMemDataErase m 0 = match m 0 with
      | none => (.l3SlotIsEmpty, m)
      | some _ => (.ok, Function.update m 0 none) := by
  simp [rMemDataErase, rMemDataSlotMax]

/-! ## A TROPIC01 -/

/-- Modelled from the spec and the documentation: the chip behind the handle. `pin` is the PIN
    `lt_login` accepts. `failedLogins` counts the failed logins since the last good one; from
    `maxFailedLogins` of them on, the chip is locked out and refuses every login. The
    exponential backoff between attempts is a matter of time, which the model leaves out.
    `ecdsaSign slot` signs a 32-byte hash with the key in `slot` (`none` for an empty slot);
    the signature is 64 bytes. -/
structure Tropic01 where
  rMem : RMem
  pin : List UInt8
  failedLogins : ℕ
  maxFailedLogins : ℕ
  ecdsaSign : ℕ → List UInt8 → Option (List UInt8)

/-- A chip with empty R-memory, no ECC key, the PIN `pin`, no failed login, and a lockout after
    three failed logins (the documentation leaves N open). -/
def Tropic01.blank (pin : List UInt8) : Tropic01 := ⟨fun _ => none, pin, 0, 3, fun _ _ => none⟩

/-- Modelled from the spec: libtropic on a TROPIC01 with no transport fault. A login on a
    locked-out chip fails; otherwise a good PIN clears the failure count and a wrong one adds
    to it. -/
def tropic01 : Libtropic Tropic01 Unit where
  ltInit s _ := (.ok, s)
  ltDeinit s := (.ok, s)
  ltLogin s p :=
    if s.maxFailedLogins ≤ s.failedLogins then (.fail, s)
    else if p = s.pin then (.ok, { s with failedLogins := 0 })
    else (.fail, { s with failedLogins := s.failedLogins + 1 })
  ltRMemDataWrite s slot d := ((rMemDataWrite s.rMem slot d).1, { s with rMem := (rMemDataWrite s.rMem slot d).2 })
  ltRMemDataRead s slot b := ((rMemDataRead s.rMem slot b).1, (rMemDataRead s.rMem slot b).2, s)
  ltRMemDataErase s slot := ((rMemDataErase s.rMem slot).1, { s with rMem := (rMemDataErase s.rMem slot).2 })
  ltEccEcdsaSign s slot d :=
    if d.length = 32 then
      match s.ecdsaSign slot d with
      | some sig => (.ok, sig, s)
      | none => (.fail, [], s)
    else (.paramErr, [], s)
  ltGetInfoChip s := (.ok, s)

/-- The vault after `avp_init` on `chip` and `avp_authenticate(vault, NULL, pin, 0)`. -/
def openedOn (chip : Tropic01) (pin : CStr) : AvpVault Tropic01 :=
  (avpAuthenticate tropic01 (avpInit tropic01 (AvpVault.zeroed chip) (some ())).vault none (some pin) 0).vault

theorem tropic01_rMemRefines : RMemRefines tropic01 Tropic01.rMem :=
  ⟨fun _ _ _ => ⟨rfl, rfl⟩, fun _ _ _ => ⟨rfl, rfl⟩, fun _ _ => ⟨rfl, rfl⟩⟩

end AvpTropic.Vault
