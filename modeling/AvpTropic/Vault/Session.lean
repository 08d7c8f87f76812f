import AvpTropic.Vault.Invariant

/-!
# Sessions over whole runs

What `avp_init`, `avp_deinit` and `avp_authenticate` make of the session fields and the
workspace, in every state reachable from `avp_init` and over every run.

Results:
* `session_id_constant`: `generate_session_id` takes no randomness (`TODO: Generate random
  alphanumeric suffix using TROPIC01 RNG`), so every session of every run has the one ID
  `avp_sess_jklmnopqrstuvwxyzABCDEFGHIJKLMNO`: in every reachable state the bytes of
  `session_id` from index 41 on are NUL, and an authenticated vault holds exactly that ID.
* `session_lasts_until_deinit`: only `avp_init` and `avp_deinit` end a session. No other call,
  a failed `avp_authenticate` included, makes `avp_session_active` false, however long the
  run: the TTL is stored and never checked.
* `workspace_after_authenticate`: after `avp_authenticate`, whether or not its login
  succeeds, the workspace reads as the given name cut to 255 bytes, or as `"default"` for a
  NULL name.
-/

namespace AvpTropic.Vault

variable {σ δ : Type} (L : Libtropic σ δ)

/-! ## The session ID -/

/-- `session_id` after `generate_session_id(session_id, 64)` on a zeroed array. -/
def avpSessionIdBytes : Fin 64 → UInt8 := storeArray (zeroArray 64) (generateSessionIdWrites 64)

/-- `generate_session_id(session_id, 64)` writes the 41 bytes of the ID and its terminator,
    and keeps the rest of the array. -/
theorem storeArray_sessionId (a : Fin 64 → UInt8) (i : Fin 64) :
    storeArray a (generateSessionIdWrites 64) i =
      if i.val < 41 then sessionIdByte i.val else if i.val = 41 then 0 else a i := by
  rw [storeArray, ← generateSessionId, generateSessionId_full _ (by decide)]
  simp [i.isLt]

/-- On an array that is NUL past index 41, `generate_session_id` leaves `avpSessionIdBytes`. -/
theorem storeArray_sessionId_eq (a : Fin 64 → UInt8) (ha : ∀ i : Fin 64, 41 < i.val → a i = 0) :
    storeArray a (generateSessionIdWrites 64) = avpSessionIdBytes := by
  funext i
  rw [avpSessionIdBytes, storeArray_sessionId, storeArray_sessionId]
  split_ifs with h1 h2
  · rfl
  · rfl
  · exact ha i (by omega)

theorem avpSessionIdBytes_tail (i : Fin 64) (hi : 41 < i.val) : avpSessionIdBytes i = 0 := by
  rw [avpSessionIdBytes, storeArray_sessionId, if_neg (by omega), if_neg (by omega)]
  rfl

/-- The ID read as a C string. -/
theorem cStr_avpSessionIdBytes :
    cStr avpSessionIdBytes = ascii "avp_sess_jklmnopqrstuvwxyzABCDEFGHIJKLMNO" := by
  have hbytes : (List.range 41).map sessionIdByte =
      ascii "avp_sess_jklmnopqrstuvwxyzABCDEFGHIJKLMNO" := rfl
  have hlen : (ascii "avp_sess_jklmnopqrstuvwxyzABCDEFGHIJKLMNO").length = 41 := by
    rw [← hbytes, List.length_map, List.length_range]
  refine cStr_eq _ _ (by decide) (by omega) (fun i hi => ?_) ?_
  · rw [hlen] at hi
    rw [avpSessionIdBytes, storeArray_sessionId, if_pos hi, ← hbytes, List.getD_eq_getElem?_getD,
      List.getElem?_map, List.getElem?_range hi]
    rfl
  · rw [avpSessionIdBytes, storeArray_sessionId]
    rfl

/-- The invariant of the session ID: NUL from index 42 on, and the fixed ID whenever the vault
    is authenticated. -/
structure SessionInv (v : AvpVault σ) : Prop where
  tail : ∀ i : Fin 64, 41 < i.val → v.sessionId i = 0
  authenticated : v.authenticated = true → v.sessionId = avpSessionIdBytes

namespace SessionInv

variable {L} {v : AvpVault σ}

theorem of_sameFields {v' : AvpVault σ} (h : v'.SameFields v) (hi : SessionInv v) :
    SessionInv v' := by
  rw [← h] at hi
  exact ⟨hi.1, hi.2⟩

theorem zeroed (h : σ) : SessionInv (AvpVault.zeroed h) := ⟨fun _ _ => rfl, nofun⟩

theorem openSession (v : AvpVault σ) (htail : ∀ i : Fin 64, 41 < i.val → v.sessionId i = 0)
    (ttl : UInt32) : SessionInv (v.openSession ttl) where
  tail i hi := by
    show storeArray v.sessionId _ i = 0
    rw [storeArray_sessionId_eq _ htail]
    exact avpSessionIdBytes_tail i hi
  authenticated _ := storeArray_sessionId_eq _ htail

theorem init (d : δ) : SessionInv (avpInit L v (some d)).vault := by
  dsimp only [avpInit]
  split_ifs
  · exact zeroed _
  · exact ⟨fun _ _ => rfl, nofun⟩

theorem step (hi : SessionInv v) (c : AvpCall δ) : SessionInv (avpCall L v c).2 := by
  cases hc : c.writesSession
  · exact hi.of_sameFields (avpCall_sameFields L v c hc)
  · cases c <;> simp only [AvpCall.writesSession, Bool.false_eq_true] at hc
    case init d => rcases d with _ | d <;> [exact hi; exact init d]
    case deinit => exact ⟨fun _ _ => rfl, nofun⟩
    case authenticate w p t =>
      rcases avpAuthenticate_cases L v w p t with ⟨h, he⟩ | ⟨_, h, -, -, he⟩ <;>
        simp only [avpCall, he]
      · exact openSession { v with workspace := setWorkspace v.workspace w, ltHandle := h } hi.tail t
      · exact ⟨hi.tail, hi.authenticated⟩

end SessionInv

/-! ## Runs -/

variable {L}

theorem Reachable.run {v : AvpVault σ} (h : Reachable L v) (cs : List (AvpCall δ)) :
    Reachable L (avpRun L v cs) := by
  induction cs generalizing v with
  | nil => exact h
  | cons c cs ih => exact ih (.step c h)

theorem Reachable.vaultInv {v : AvpVault σ} (h : Reachable L v) : VaultInv v := by
  induction h with
  | init v d => exact VaultInv.init d
  | step c _ ih => exact ih.step c

theorem Reachable.sessionInv {v : AvpVault σ} (h : Reachable L v) : SessionInv v := by
  induction h with
  | init v d => exact SessionInv.init d
  | step c _ ih => exact ih.step c

/-- Every session of every run has the same ID: in every state reachable from `avp_init`,
    `session_id` is NUL from index 42 on, and when the vault is authenticated it reads as
    `avp_sess_jklmnopqrstuvwxyzABCDEFGHIJKLMNO`. -/
theorem session_id_constant {v : AvpVault σ} (h : Reachable L v) :
    (∀ i : Fin 64, 41 < i.val → v.sessionId i = 0) ∧
      (v.authenticated = true →
        cStr v.sessionId = ascii "avp_sess_jklmnopqrstuvwxyzABCDEFGHIJKLMNO") :=
  ⟨h.sessionInv.tail, fun ha => h.sessionInv.authenticated ha ▸ cStr_avpSessionIdBytes⟩

/-- Only `avp_init` and `avp_deinit` keep the flag of an authenticated vault from carrying
    over a call. -/
theorem authenticated_step (v : AvpVault σ) (c : AvpCall δ) (hc : c.clearsVault = false)
    (hv : v.authenticated = true) : (avpCall L v c).2.authenticated = true := by
  cases hs : c.writesSession
  · rw [(avpCall_sameFields L v c hs).authenticated, hv]
  · cases c <;> simp only [AvpCall.writesSession, AvpCall.clearsVault, Bool.false_eq_true,
      Bool.true_eq_false] at hs hc
    case init d =>
      rcases d with _ | d
      · exact hv
      · cases hc
    case authenticate w p t =>
      rcases avpAuthenticate_cases L v w p t with ⟨h, he⟩ | ⟨_, h, -, -, he⟩ <;>
        simp only [avpCall, he]
      · rfl
      · exact hv

theorem authenticated_run (v : AvpVault σ) (cs : List (AvpCall δ))
    (hcs : ∀ c ∈ cs, c.clearsVault = false) (hv : v.authenticated = true) :
    (avpRun L v cs).authenticated = true := by
  induction cs generalizing v with
  | nil => exact hv
  | cons c cs ih =>
    exact ih _ (fun c' hc' => hcs c' (List.mem_cons_of_mem _ hc'))
      (authenticated_step _ c (hcs c (List.mem_cons_self _ _)) hv)

/-- A session ends only at `avp_init` or `avp_deinit`: from a reachable vault with an active
    session, every run of other calls, failed `avp_authenticate` calls included and however
    long, keeps `avp_session_active` true; and `avp_init` on a device or `avp_deinit` then
    makes it false. -/
theorem session_lasts_until_deinit {v : AvpVault σ} (h : Reachable L v)
    (hv : avpSessionActive v = true) (cs : List (AvpCall δ))
    (hcs : ∀ c ∈ cs, c.clearsVault = false) :
    avpSessionActive (avpRun L v cs) = true ∧
      ∀ c : AvpCall δ, c.clearsVault = true → avpSessionActive (avpCall L (avpRun L v cs) c).2 = false := by
  have ha : v.authenticated = true := by
    simp only [avpSessionActive, Bool.and_eq_true] at hv
    exact hv.2
  have hauth : (avpRun L v cs).authenticated = true := authenticated_run v cs hcs ha
  refine ⟨?_, fun c hc => ?_⟩
  · have hi := (h.run cs).vaultInv
    simp [avpSessionActive, hauth, hi.authenticated_iff.mp hauth]
  · cases c <;> simp only [AvpCall.clearsVault, Bool.false_eq_true] at hc
    case init d =>
      rcases d with _ | d
      · cases hc
      · simp [avpSessionActive, avpCall, avpInit_some_authenticated]
    case deinit => simp [avpSessionActive, avpCall, avpDeinit]

/-! ## The workspace -/

theorem avpAuthenticate_workspace (v : AvpVault σ) (w p : Option CStr) (t : UInt32) :
    (avpAuthenticate L v w p t).vault.workspace = setWorkspace v.workspace w := by
  rcases avpAuthenticate_cases L v w p t with ⟨h, he⟩ | ⟨_, h, -, -, he⟩
  · rw [he]; rfl
  · rw [he]

/-- After `avp_authenticate` on a reachable vault, whatever its login returns, the workspace
    reads as the given name cut to 255 bytes, or as `"default"` for a NULL name. -/
theorem workspace_after_authenticate {v : AvpVault σ} (h : Reachable L v) (p : Option CStr)
    (t : UInt32) :
    (∀ w : CStr, cStr (avpAuthenticate L v (some w) p t).vault.workspace = w.bytes.take 255) ∧
      cStr (avpAuthenticate L v none p t).vault.workspace = ascii "default" := by
  refine ⟨fun w => ?_, ?_⟩ <;> rw [avpAuthenticate_workspace, setWorkspace]
  · exact cStr_strncpy _ _ (by decide) h.vaultInv.workspace_nul
  · exact cStr_strcpy _ _ (by decide)

/-! ## On a TROPIC01 -/

theorem session_id_constant_openedOn :
    Reachable tropic01 (openedOn (Tropic01.blank (ascii "1234")) ⟨ascii "1234", by decide⟩) ∧
      (∀ i : Fin 64, 41 < i.val →
        (openedOn (Tropic01.blank (ascii "1234")) ⟨ascii "1234", by decide⟩).sessionId i = 0) ∧
      ((openedOn (Tropic01.blank (ascii "1234")) ⟨ascii "1234", by decide⟩).authenticated = true →
        cStr (openedOn (Tropic01.blank (ascii "1234")) ⟨ascii "1234", by decide⟩).sessionId =
          ascii "avp_sess_jklmnopqrstuvwxyzABCDEFGHIJKLMNO") :=
  ⟨openedOn_reachable _ _, session_id_constant (openedOn_reachable _ _)⟩

/-- A wrong PIN does not end the session opened with the right one. -/
theorem session_lasts_until_deinit_wrong_pin :
    Reachable tropic01 (openedOn (Tropic01.blank (ascii "1234")) ⟨ascii "1234", by decide⟩) ∧
      avpSessionActive (openedOn (Tropic01.blank (ascii "1234")) ⟨ascii "1234", by decide⟩) = true ∧
      (∀ c ∈ ([.authenticate none (some ⟨ascii "0000", by decide⟩) 0] : List (AvpCall Unit)),
        c.clearsVault = false) ∧
      avpSessionActive (avpRun tropic01 (openedOn (Tropic01.blank (ascii "1234")) ⟨ascii "1234", by decide⟩)
        [AvpCall.authenticate none (some ⟨ascii "0000", by decide⟩) 0]) = true :=
  ⟨openedOn_reachable _ _, rfl, by decide,
    (session_lasts_until_deinit (openedOn_reachable (Tropic01.blank (ascii "1234"))
      ⟨ascii "1234", by decide⟩) rfl _ (by decide)).1⟩

theorem workspace_after_authenticate_openedOn :
    Reachable tropic01 (openedOn (Tropic01.blank (ascii "1234")) ⟨ascii "1234", by decide⟩) ∧
      cStr (avpAuthenticate tropic01 (openedOn (Tropic01.blank (ascii "1234")) ⟨ascii "1234", by decide⟩)
        none (some ⟨ascii "0000", by decide⟩) 0).vault.workspace = ascii "default" :=
  ⟨openedOn_reachable _ _, (workspace_after_authenticate (openedOn_reachable _ _) _ _).2⟩

end AvpTropic.Vault
