import AvpTropic.Vault.Refinement

/-!
# Where the AVP calls write on the chip

The only persistent state of the AVP layer is on the chip. This module says which calls
change the chip's R-memory and where, over a libtropic backend whose R-memory commands have
the effects of the slot store of the specification (`RMemEffects`, whatever codes they
return) and whose other commands leave R-memory alone (`RMemFrame`, modelled from the
specification's command set).

Results:
* `avpCall_rMem`: any call with any arguments, from any vault, changes at most slot 0, and
  every call but `avp_store` and `avp_delete`, `avp_init` and `avp_deinit` included, leaves
  R-memory as it was.
* `avpRun_rMem`: no run of calls ever changes a slot other than 0, and a run without
  `avp_store` and `avp_delete` changes nothing, so secrets outlive `avp_deinit`/`avp_init`.
* `secret_survives_reopen`: the round trip across sessions; after a successful `avp_store`
  and any run without `avp_store` and `avp_delete` that ends authenticated, `avp_retrieve`
  returns the value stored.
-/

namespace AvpTropic.Vault

variable {σ δ : Type}

/-- Modelled from the spec: the libtropic commands that are not R-memory commands leave
    R-memory as it was. -/
structure RMemFrame (L : Libtropic σ δ) (rmem : σ → RMem) : Prop where
  init : ∀ s d, rmem (L.ltInit s d).2 = rmem s
  deinit : ∀ s, rmem (L.ltDeinit s).2 = rmem s
  login : ∀ s p, rmem (L.ltLogin s p).2 = rmem s
  sign : ∀ s slot d, rmem (L.ltEccEcdsaSign s slot d).2.2 = rmem s
  info : ∀ s, rmem (L.ltGetInfoChip s).2 = rmem s

theorem tropic01_rMemFrame : RMemFrame tropic01 Tropic01.rMem where
  init _ _ := rfl
  deinit _ := rfl
  login s _ := by dsimp only [tropic01]; split_ifs <;> rfl
  sign s _ d := by dsimp only [tropic01]; split <;> [split <;> rfl; rfl]
  info _ := rfl

section Effect

variable {L : Libtropic σ δ} {rmem : σ → RMem} (v : AvpVault σ)

theorem avpInit_rMem (hF : RMemFrame L rmem) (d : Option δ) : rmem (avpInit L v d).vault.ltHandle = rmem v.ltHandle := by
  rcases d with _ | d
  · rfl
  dsimp only [avpInit]
  split_ifs <;> exact hF.init _ _

theorem avpAuthenticate_rMem (hF : RMemFrame L rmem) (w p : Option CStr) (t : UInt32) :
    rmem (avpAuthenticate L v w p t).vault.ltHandle = rmem v.ltHandle := by
  rcases p with _ | p
  · rfl
  dsimp only [avpAuthenticate]
  split_ifs <;> exact hF.login _ _

theorem avpRetrieve_rMem (hE : RMemEffects L rmem) (n : Option CStr) (x : Bool) (c : Option ℕ) :
    rmem (avpRetrieve L v n x c).vault.ltHandle = rmem v.ltHandle := by
  rcases n with _ | n <;> rcases c with _ | cap <;> try rfl
  cases x <;> cases ha : v.authenticated <;> cases hn : validateSecretName false (some n) <;>
    simp only [avpRetrieve, ha, hn, Bool.not_true, Bool.not_false, Bool.false_eq_true, if_true,
      if_false]
  split_ifs <;> exact hE.read _ _ _

/-- Every call but `avp_store` and `avp_delete`, `avp_init` and `avp_deinit` included, leaves
    R-memory as it was. -/
theorem avpCall_rMem_of_writesRMem (hE : RMemEffects L rmem) (hF : RMemFrame L rmem)
    (c : AvpCall δ) (hc : c.writesRMem = false) : rmem (avpCall L v c).2.ltHandle = rmem v.ltHandle := by
  cases c with
  | init d => exact avpInit_rMem v hF d
  | deinit => exact hF.deinit _
  | discover r => cases r <;> rfl
  | authenticate w p t => exact avpAuthenticate_rMem v hF w p t
  | store => simp [AvpCall.writesRMem] at hc
  | retrieve n x c => exact avpRetrieve_rMem v hE n x c
  | delete => simp [AvpCall.writesRMem] at hc
  | list c =>
    show rmem (avpList v c).vault.ltHandle = _
    unfold avpList
    split_ifs <;> rfl
  | hwChallenge a =>
    cases a
    · rfl
    · show rmem (avpHwChallenge L v true).vault.ltHandle = _
      simp only [avpHwChallenge, Bool.not_true, Bool.false_eq_true, if_false]
      split_ifs <;> exact hF.info _
  | hwSign n d s c =>
    show rmem (avpHwSign L v n d s c).vault.ltHandle = _
    rcases n with _ | n <;> rcases d with _ | d <;> rcases c with _ | c <;> try rfl
    dsimp only [avpHwSign]
    split_ifs <;> first | rfl | exact hF.sign _ _ _
  | hwAttest n a =>
    show rmem (avpHwAttest v n a).vault.ltHandle = _
    rcases n with _ | n
    · rfl
    unfold avpHwAttest
    split_ifs <;> rfl

end Effect

section Runs

variable {L : Libtropic σ δ} {rmem : σ → RMem} (hE : RMemEffects L rmem) (hF : RMemFrame L rmem)
include hE hF

theorem avpRun_rMem_of_writesRMem (v : AvpVault σ) (cs : List (AvpCall δ))
    (hcs : ∀ c ∈ cs, c.writesRMem = false) : rmem (avpRun L v cs).ltHandle = rmem v.ltHandle := by
  induction cs generalizing v with
  | nil => rfl
  | cons c cs ih =>
    rw [avpRun_cons, ih _ fun c' h => hcs c' (List.mem_cons_of_mem _ h),
      avpCall_rMem_of_writesRMem v hE hF c (hcs c (List.mem_cons_self _ _))]

end Runs

section RoundTrip

variable {L : Libtropic σ δ} {rmem : σ → RMem} (hE : RMemEffects L rmem)
include hE

/-- A successful `avp_store` puts the value into slot 0. -/
theorem avpStore_ok_rMem (v : AvpVault σ) (n : CStr) (val : List UInt8)
    (hs : (avpStore L v (some n) (some val)).ret = .ok) :
    rmem (avpStore L v (some n) (some val)).vault.ltHandle 0 = some val := by
  dsimp only [avpStore] at hs ⊢
  split_ifs at hs ⊢ with h1 h2 h3 h4
  rw [hE.write, if_pos (not_not.mp h4), Function.update_same]

/-- On an authenticated vault whose slot 0 holds `d`, `avp_retrieve` under a valid name into a
    buffer that `d` fits returns `AVP_OK`, `d` and its length. -/
theorem avpRetrieve_of_slot {v : AvpVault σ} (hv : v.authenticated = true) {d : List UInt8}
    (hd : rmem v.ltHandle 0 = some d) (n : CStr) (hn : validateSecretName false (some n) = true)
    (cap : ℕ) (hcap : d.length ≤ cap % 2 ^ 16) :
    (avpRetrieve L v (some n) true (some cap)).ret = .ok ∧
      (avpRetrieve L v (some n) true (some cap)).out = ⟨d, some d.length⟩ := by
  obtain ⟨h1, h2⟩ := hE.readBack v.ltHandle 0 (cap % 2 ^ 16) d (Nat.zero_le _) hd hcap
  have hlen : d.length % 2 ^ 16 = d.length := Nat.mod_eq_of_lt (lt_of_le_of_lt hcap (Nat.mod_lt _ (by decide)))
  simp only [avpRetrieve, hv, hn, h1, h2, hlen, Bool.not_true, Bool.false_eq_true, if_false, if_true,
    and_self]

end RoundTrip

/-- A secret outlives every call but `avp_store` and `avp_delete`. After a successful
    `avp_store`, any run without `avp_store` and `avp_delete` that leaves the vault
    authenticated (through `avp_deinit`, `avp_init` and a new login, say) is followed by an
    `avp_retrieve` that, under any valid name and into any buffer the value fits, returns
    `AVP_OK`, the value and its length. -/
theorem secret_survives_reopen {L : Libtropic σ δ} {rmem : σ → RMem} (hE : RMemEffects L rmem)
    (hF : RMemFrame L rmem) (v : AvpVault σ) (n : CStr) (val : List UInt8)
    (hs : (avpStore L v (some n) (some val)).ret = .ok) (cs : List (AvpCall δ))
    (hcs : ∀ c ∈ cs, c.writesRMem = false)
    (hauth : (avpRun L (avpStore L v (some n) (some val)).vault cs).authenticated = true)
    (n' : CStr) (hn' : validateSecretName false (some n') = true) (cap : ℕ)
    (hcap : val.length ≤ cap % 2 ^ 16) :
    (avpRetrieve L (avpRun L (avpStore L v (some n) (some val)).vault cs) (some n') true
        (some cap)).ret = .ok ∧
      (avpRetrieve L (avpRun L (avpStore L v (some n) (some val)).vault cs) (some n') true
        (some cap)).out = ⟨val, some val.length⟩ := by
  have hslot : rmem (avpRun L (avpStore L v (some n) (some val)).vault cs).ltHandle 0 = some val := by
    rw [avpRun_rMem_of_writesRMem hE hF _ cs hcs, avpStore_ok_rMem hE v n val hs]
  exact avpRetrieve_of_slot hE hauth hslot n' hn' cap hcap

/-- On a TROPIC01, `[7]` stored under `a`, the vault closed, reopened and logged into again,
    reads back under `b`. -/
theorem secret_survives_reopen_tropic01 :
    (avpStore tropic01 (openedOn (Tropic01.blank (ascii "1234")) ⟨ascii "1234", by decide⟩)
        (some ⟨ascii "a", by decide⟩) (some [7])).ret = .ok ∧
      (∀ c ∈ ([.deinit, .init (some ()), .authenticate none (some ⟨ascii "1234", by decide⟩) 0] :
        List (AvpCall Unit)), c.writesRMem = false) ∧
      (avpRun tropic01 (avpStore tropic01 (openedOn (Tropic01.blank (ascii "1234"))
          ⟨ascii "1234", by decide⟩) (some ⟨ascii "a", by decide⟩) (some [7])).vault
        [.deinit, .init (some ()), .authenticate none (some ⟨ascii "1234", by decide⟩) 0]).authenticated = true ∧
      validateSecretName false (some ⟨ascii "b", by decide⟩) = true ∧ [7].length ≤ 16 % 2 ^ 16 ∧
      (avpRetrieve tropic01 (avpRun tropic01 (avpStore tropic01 (openedOn (Tropic01.blank (ascii "1234"))
          ⟨ascii "1234", by decide⟩) (some ⟨ascii "a", by decide⟩) (some [7])).vault
        [.deinit, .init (some ()), .authenticate none (some ⟨ascii "1234", by decide⟩) 0])
        (some ⟨ascii "b", by decide⟩) true (some 16)).ret = .ok ∧
      (avpRetrieve tropic01 (avpRun tropic01 (avpStore tropic01 (openedOn (Tropic01.blank (ascii "1234"))
          ⟨ascii "1234", by decide⟩) (some ⟨ascii "a", by decide⟩) (some [7])).vault
        [.deinit, .init (some ()), .authenticate none (some ⟨ascii "1234", by decide⟩) 0])
        (some ⟨ascii "b", by decide⟩) true (some 16)).out = ⟨[7], some [7].length⟩ :=
  ⟨rfl, by decide, rfl, by decide, by decide,
    secret_survives_reopen tropic01_rMemRefines.effects tropic01_rMemFrame
      (openedOn (Tropic01.blank (ascii "1234")) ⟨ascii "1234", by decide⟩) ⟨ascii "a", by decide⟩ [7]
      rfl [.deinit, .init (some ()), .authenticate none (some ⟨ascii "1234", by decide⟩) 0]
      (by decide) rfl ⟨ascii "b", by decide⟩ (by decide) 16 (by decide)⟩

end AvpTropic.Vault
