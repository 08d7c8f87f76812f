import AvpTropic.Vault.Chip

/-!
# Access control and the session clock over runs

What the AVP calls never do, over any sequence of calls from any vault, over an arbitrary
libtropic backend.

Results:
* `avpRun_sameFields`: a run without `avp_init`, `avp_deinit` and `avp_authenticate` changes
  no field of the vault but the libtropic handle: the secret and hardware operations never
  touch the session, the workspace or the authentication flag.
* `locked_vault_ignores_secret_calls`: on a vault that is not authenticated, until the next
  `avp_authenticate`, every secret call fails with `AVP_ERR_INTERNAL` or
  `AVP_ERR_NOT_INITIALIZED` and is a no-op: the run ends where the run without them ends.
* `session_never_expires`: `session_ttl` and `session_created_at` are written and never read.
  Vaults that differ only there give the same return codes on every run and end in states
  that differ only there, and no call returns `AVP_ERR_SESSION_EXPIRED`: the expiry that the
  header documents for `avp_session_active` is never checked.
-/

namespace AvpTropic.Vault

variable {σ δ : Type} (L : Libtropic σ δ)

/-! ## The secret operations leave the session alone -/

theorem AvpVault.SameFields.trans {v v' v'' : AvpVault σ} (h₁ : v''.SameFields v')
    (h₂ : v'.SameFields v) : v''.SameFields v := by
  obtain ⟨⟩ := v; obtain ⟨⟩ := v'; obtain ⟨⟩ := v''
  simp_all only [AvpVault.SameFields, AvpVault.mk.injEq, true_and]

/-- A run of calls other than `avp_init`, `avp_deinit` and `avp_authenticate`, from any
    vault and with any arguments, changes no field of the vault but the libtropic handle. -/
theorem avpRun_sameFields (v : AvpVault σ) (cs : List (AvpCall δ))
    (hcs : ∀ c ∈ cs, c.writesSession = false) : (avpRun L v cs).SameFields v := by
  induction cs generalizing v with
  | nil => rfl
  | cons c cs ih =>
    exact (ih _ fun c' h => hcs c' (List.mem_cons_of_mem _ h)).trans
      (avpCall_sameFields L v c (hcs c (List.mem_cons_self _ _)))

/-- On an open vault on a TROPIC01, a store and a list leave every AVP-level field alone. -/
theorem avpRun_sameFields_store_list :
    (∀ c ∈ ([.store (some ⟨ascii "a", by decide⟩) (some [1]), .list true] : List (AvpCall Unit)),
        c.writesSession = false) ∧
      (avpRun tropic01 (openedOn (Tropic01.blank (ascii "1234")) ⟨ascii "1234", by decide⟩)
        [.store (some ⟨ascii "a", by decide⟩) (some [1]), .list true]).SameFields
        (openedOn (Tropic01.blank (ascii "1234")) ⟨ascii "1234", by decide⟩) :=
  ⟨by decide, avpRun_sameFields tropic01 _ _ (by decide)⟩

/-! ## A vault that is not authenticated -/

/-- Only `avp_authenticate` sets `authenticated`. -/
theorem avpCall_authenticated_false (v : AvpVault σ) (c : AvpCall δ) (hc : c.authenticates = false)
    (hv : v.authenticated = false) : (avpCall L v c).2.authenticated = false := by
  cases hs : c.writesSession
  · rw [(avpCall_sameFields L v c hs).authenticated, hv]
  · cases c <;> simp only [AvpCall.writesSession, AvpCall.authenticates, Bool.false_eq_true,
      Bool.true_eq_false] at hs hc
    case init d =>
      rcases d with _ | d
      · exact hv
      · exact avpInit_some_authenticated L v d
    case deinit => rfl

/-- On a vault that is not authenticated, in a run with no `avp_authenticate`, every secret
    call returns `AVP_ERR_INTERNAL` or `AVP_ERR_NOT_INITIALIZED` and changes nothing, so the
    run ends in the state the run without the secret calls ends in. -/
theorem locked_vault_ignores_secret_calls (v : AvpVault σ) (hv : v.authenticated = false)
    (cs : List (AvpCall δ)) (hcs : ∀ c ∈ cs, c.authenticates = false) :
    avpRun L v cs = avpRun L v (cs.filter fun c => !c.isSecretOp) ∧
      ∀ c r, (c, r) ∈ cs.zip (avpTrace L v cs) → c.isSecretOp = true →
        r = .errInternal ∨ r = .errNotInitialized := by
  induction cs generalizing v with
  | nil => exact ⟨rfl, fun _ _ h => absurd h (List.not_mem_nil _)⟩
  | cons c cs ih =>
    have hcs' : ∀ c' ∈ cs, c'.authenticates = false := fun c' h => hcs c' (List.mem_cons_of_mem _ h)
    simp only [avpRun_cons, avpTrace_cons, List.zip_cons_cons, List.mem_cons, Prod.mk.injEq,
      List.filter_cons]
    cases hs : c.isSecretOp
    · obtain ⟨ih1, ih2⟩ := ih _ (avpCall_authenticated_false L v c (hcs c (List.mem_cons_self _ _)) hv) hcs'
      refine ⟨by simpa using ih1, ?_⟩
      rintro c' r (⟨rfl, -⟩ | h) hc'
      · exact absurd hc' (by simp [hs])
      · exact ih2 c' r h hc'
    · obtain ⟨hvc, hret⟩ := avpCall_gate L v c hs hv
      obtain ⟨ih1, ih2⟩ := ih v hv hcs'
      rw [hvc]
      refine ⟨by simpa using ih1, ?_⟩
      rintro c' r (⟨rfl, rfl⟩ | h) hc'
      · exact hvc ▸ hret
      · exact ih2 c' r h hc'

/-- On a cleared vault on a TROPIC01, a store before `avp_deinit` fails and changes nothing. -/
theorem locked_vault_ignores_secret_calls_zeroed :
    (AvpVault.zeroed (Tropic01.blank (ascii "1234"))).authenticated = false ∧
      (∀ c ∈ ([.store (some ⟨ascii "a", by decide⟩) (some [1]), .deinit] : List (AvpCall Unit)),
        c.authenticates = false) ∧
      avpRun tropic01 (AvpVault.zeroed (Tropic01.blank (ascii "1234")))
          [.store (some ⟨ascii "a", by decide⟩) (some [1]), .deinit] =
        avpRun tropic01 (AvpVault.zeroed (Tropic01.blank (ascii "1234")))
          ([.store (some ⟨ascii "a", by decide⟩) (some [1]), .deinit].filter fun c => !c.isSecretOp) ∧
      ∀ c r, (c, r) ∈ ([.store (some ⟨ascii "a", by decide⟩) (some [1]), .deinit] : List (AvpCall Unit)).zip
          (avpTrace tropic01 (AvpVault.zeroed (Tropic01.blank (ascii "1234")))
            [.store (some ⟨ascii "a", by decide⟩) (some [1]), .deinit]) →
        c.isSecretOp = true → r = .errInternal ∨ r = .errNotInitialized :=
  ⟨rfl, by decide, locked_vault_ignores_secret_calls tropic01 _ rfl _ (by decide)⟩

/-! ## The session clock -/

/-- The vault with `session_ttl = ttl` and `session_created_at = createdAt`. -/
def AvpVault.withClock (v : AvpVault σ) (ttl createdAt : UInt32) : AvpVault σ :=
  { v with sessionTtl := ttl, sessionCreatedAt := createdAt }

/-- A call other than `avp_init`, `avp_deinit` and `avp_authenticate` neither reads nor
    writes the session clock. -/
theorem avpCall_withClock_of_writesSession (v : AvpVault σ) (t ca : UInt32) (c : AvpCall δ)
    (hc : c.writesSession = false) :
    avpCall L (v.withClock t ca) c = ((avpCall L v c).1, (avpCall L v c).2.withClock t ca) := by
  cases c <;> simp only [AvpCall.writesSession, Bool.true_eq_false] at hc <;>
    dsimp only [avpCall, avpDiscover, avpStore, avpRetrieve, avpDelete, avpList, avpHwChallenge,
      avpHwSign, avpHwAttest] <;> (try split) <;>
    simp only [apply_ite AvpResult.ret, apply_ite AvpResult.vault,
      apply_ite (AvpVault.withClock · t ca)] <;> rfl

/-- Every call gives the same return code on vaults that differ only in the session clock,
    and leaves vaults that differ only there. -/
theorem avpCall_withClock (v : AvpVault σ) (t ca : UInt32) (c : AvpCall δ) :
    (avpCall L (v.withClock t ca) c).1 = (avpCall L v c).1 ∧
      ∃ t' ca', (avpCall L (v.withClock t ca) c).2 = (avpCall L v c).2.withClock t' ca' := by
  cases hc : c.writesSession
  · rw [avpCall_withClock_of_writesSession L v t ca c hc]
    exact ⟨rfl, t, ca, rfl⟩
  · cases c <;> simp only [AvpCall.writesSession, Bool.false_eq_true] at hc <;>
      dsimp only [avpCall, avpInit, avpDeinit, avpAuthenticate, AvpVault.withClock] <;>
      (repeat' split) <;> exact ⟨rfl, _, _, rfl⟩

/-- No call returns `AVP_ERR_SESSION_EXPIRED`. -/
theorem avpCall_ne_sessionExpired (v : AvpVault σ) (c : AvpCall δ) :
    (avpCall L v c).1 ≠ .errSessionExpired := by
  cases c <;> dsimp only [avpCall, avpInit, avpDeinit, avpDiscover, avpAuthenticate, avpStore,
      avpRetrieve, avpDelete, avpList, avpHwChallenge, avpHwSign, avpHwAttest] <;> (try split) <;>
    simp only [apply_ite AvpResult.ret, apply_ite (· ≠ AvpRet.errSessionExpired), ne_eq,
      reduceCtorEq, not_false_eq_true, ite_self]

/-- The session never expires: `session_ttl` and `session_created_at` are never read. From
    vaults that differ only there, every run of calls gives the same return codes and ends in
    vaults that differ only there (so `avp_session_active` agrees on them), and no call of
    any run returns `AVP_ERR_SESSION_EXPIRED`. -/
theorem session_never_expires (v : AvpVault σ) (ttl createdAt : UInt32) (cs : List (AvpCall δ)) :
    avpTrace L (v.withClock ttl createdAt) cs = avpTrace L v cs ∧
      (∃ ttl' createdAt',
        avpRun L (v.withClock ttl createdAt) cs = (avpRun L v cs).withClock ttl' createdAt') ∧
      AvpRet.errSessionExpired ∉ avpTrace L v cs := by
  induction cs generalizing v ttl createdAt with
  | nil => exact ⟨rfl, ⟨ttl, createdAt, rfl⟩, List.not_mem_nil _⟩
  | cons c cs ih =>
    obtain ⟨h1, t', ca', h2⟩ := avpCall_withClock L v ttl createdAt c
    obtain ⟨ih1, ih2, ih3⟩ := ih (avpCall L v c).2 t' ca'
    refine ⟨?_, ?_, ?_⟩
    · rw [avpTrace_cons, avpTrace_cons, h1, h2, ih1]
    · rw [avpRun_cons, avpRun_cons, h2]
      exact ih2
    · rw [avpTrace_cons, List.mem_cons, not_or]
      exact ⟨(avpCall_ne_sessionExpired L v c).symm, ih3⟩

end AvpTropic.Vault
