import AvpTropic.Vault.Chip

/-!
# How the secret operations check their arguments

The header documents a secret name for five operations and an output capacity for two. The
code validates the name in two of the five, and keeps to the capacity in one of the two.

Results:
* `only_store_and_retrieve_check_names`: `avp_store` and `avp_retrieve` refuse every name
  `validate_secret_name` rejects, before any libtropic call; `avp_delete`, `avp_hw_sign` and
  `avp_hw_attest` act on it as on any other non-NULL name.
* `delete_with_invalid_name_erases_slot`: `avp_delete` erases a secret through the empty
  name.
* `avpRetrieve_valueLen_le`: `avp_retrieve` never reports more bytes than the caller's
  capacity.
* `hw_sign_ignores_short_signature_buffer`: `avp_hw_sign` writes its 64-byte signature into a
  buffer declared as 32 bytes.
-/

namespace AvpTropic.Vault

variable {σ δ : Type} (L : Libtropic σ δ)

/-! ## Names -/

/-- Of the five operations that take a secret name, only `avp_store` and `avp_retrieve` check
    it: on a name that `validate_secret_name` rejects they fail without a libtropic call,
    whatever the other arguments, while `avp_delete`, `avp_hw_sign` and `avp_hw_attest` act
    on it exactly as on every other non-NULL name. -/
theorem only_store_and_retrieve_check_names (v : AvpVault σ) (n : CStr)
    (hn : validateSecretName false (some n) = false) :
    (∀ x, (avpStore L v (some n) x).vault = v ∧ (avpStore L v (some n) x).ret ≠ .ok) ∧
    (∀ x c, (avpRetrieve L v (some n) x c).vault = v ∧ (avpRetrieve L v (some n) x c).ret ≠ .ok) ∧
    (∀ n' d, avpDelete L v (some n) d = avpDelete L v (some n') d) ∧
    (∀ n' d s c, avpHwSign L v (some n) d s c = avpHwSign L v (some n') d s c) ∧
    ∀ n' a, avpHwAttest v (some n) a = avpHwAttest v (some n') a :=
  ⟨fun x => avpStore_invalidName L v n x hn, fun x c => avpRetrieve_invalidName L v n x c hn,
    avpDelete_name_irrelevant L v n, avpHwSign_name_irrelevant L v n, avpHwAttest_name_irrelevant v n⟩

/-- On an open vault, `avp_store` refuses the empty name. -/
theorem only_store_and_retrieve_check_names_empty :
    validateSecretName false (some ⟨[], by decide⟩) = false ∧
      (avpStore tropic01 (openedOn (Tropic01.blank (ascii "1234")) ⟨ascii "1234", by decide⟩)
        (some ⟨[], by decide⟩) (some [1])).ret ≠ .ok :=
  ⟨by decide, ((only_store_and_retrieve_check_names tropic01 _ _ (by decide)).1 _).2⟩

/-- `avp_delete` with the empty name, which `validate_secret_name` rejects, erases the
    secret stored in slot 0. -/
theorem delete_with_invalid_name_erases_slot :
    validateSecretName false (some ⟨[], by decide⟩) = false ∧
    (avpStore tropic01 (openedOn (Tropic01.blank (ascii "1234")) ⟨ascii "1234", by decide⟩)
      (some ⟨ascii "a", by decide⟩) (some [1])).vault.ltHandle.rMem 0 = some [1] ∧
    (avpDelete tropic01 (avpStore tropic01 (openedOn (Tropic01.blank (ascii "1234")) ⟨ascii "1234", by decide⟩)
      (some ⟨ascii "a", by decide⟩) (some [1])).vault (some ⟨[], by decide⟩) true).ret = .ok ∧
    (avpDelete tropic01 (avpStore tropic01 (openedOn (Tropic01.blank (ascii "1234")) ⟨ascii "1234", by decide⟩)
      (some ⟨ascii "a", by decide⟩) (some [1])).vault (some ⟨[], by decide⟩) true).vault.ltHandle.rMem 0 =
      none := by
  refine ⟨by decide, by decide, ?_⟩
  rw [avpDelete_name_irrelevant tropic01 _ ⟨[], by decide⟩ ⟨ascii "a", by decide⟩]
  decide

/-! ## Output capacities -/

/-- When the chip read never returns more bytes than its buffer holds, a successful
    `avp_retrieve` reports (and received) at most the caller's capacity. -/
theorem avpRetrieve_valueLen_le
    (hread : ∀ s slot b, (L.ltRMemDataRead s slot b).1 = .ok → (L.ltRMemDataRead s slot b).2.1.length ≤ b)
    (v : AvpVault σ) (n : Option CStr) (x : Bool) (cap : ℕ) (h : (avpRetrieve L v n x (some cap)).ret = .ok) :
    (avpRetrieve L v n x (some cap)).out.valueLen = some (avpRetrieve L v n x (some cap)).out.value.length ∧
      (avpRetrieve L v n x (some cap)).out.value.length ≤ cap := by
  rcases n with _ | n
  · simp [avpRetrieve] at h
  cases x <;> cases ha : v.authenticated <;> cases hn : validateSecretName false (some n) <;>
    simp only [avpRetrieve, ha, hn, Bool.not_true, Bool.not_false, if_true, if_false,
      Bool.false_eq_true, reduceCtorEq] at h ⊢
  by_cases h4 : (L.ltRMemDataRead v.ltHandle 0 (cap % 2 ^ 16)).1 = .ok
  · have hb := hread v.ltHandle 0 (cap % 2 ^ 16) h4
    have hlt : cap % 2 ^ 16 < 2 ^ 16 := Nat.mod_lt _ (by decide)
    have hl : (L.ltRMemDataRead v.ltHandle 0 (cap % 2 ^ 16)).2.1.length % 2 ^ 16 =
        (L.ltRMemDataRead v.ltHandle 0 (cap % 2 ^ 16)).2.1.length := Nat.mod_eq_of_lt (by omega)
    simp only [h4, if_true]
    exact ⟨congrArg some hl, le_trans hb (Nat.mod_le _ _)⟩
  · simp only [h4, if_false] at h
    split at h <;> cases h

/-- On a TROPIC01 whose slot 0 holds `[7]`, a retrieve into a 16-byte buffer reports its one
    byte. -/
theorem avpRetrieve_valueLen_le_tropic01 :
    (avpRetrieve tropic01 (openedOn { Tropic01.blank (ascii "1234") with
        rMem := Function.update (fun _ => none) 0 (some [7]) } ⟨ascii "1234", by decide⟩)
      (some ⟨ascii "a", by decide⟩) true (some 16)).ret = .ok ∧
    (avpRetrieve tropic01 (openedOn { Tropic01.blank (ascii "1234") with
        rMem := Function.update (fun _ => none) 0 (some [7]) } ⟨ascii "1234", by decide⟩)
      (some ⟨ascii "a", by decide⟩) true (some 16)).out.valueLen =
      some (avpRetrieve tropic01 (openedOn { Tropic01.blank (ascii "1234") with
        rMem := Function.update (fun _ => none) 0 (some [7]) } ⟨ascii "1234", by decide⟩)
        (some ⟨ascii "a", by decide⟩) true (some 16)).out.value.length ∧
    (avpRetrieve tropic01 (openedOn { Tropic01.blank (ascii "1234") with
        rMem := Function.update (fun _ => none) 0 (some [7]) } ⟨ascii "1234", by decide⟩)
      (some ⟨ascii "a", by decide⟩) true (some 16)).out.value.length ≤ 16 :=
  ⟨rfl, avpRetrieve_valueLen_le tropic01 (fun _ _ _ h => rMemDataRead_length_le h) _ _ _ 16 rfl⟩

/-- `avp_hw_sign` with a declared capacity of 32 bytes signs, writes the 64-byte signature
    and reports 64. -/
theorem hw_sign_ignores_short_signature_buffer :
    (avpHwSign tropic01 (openedOn { Tropic01.blank (ascii "1234") with ecdsaSign := fun _ _ => some (List.replicate 64 7) }
      ⟨ascii "1234", by decide⟩) (some ⟨ascii "k", by decide⟩) (some (List.replicate 32 0)) true (some 32)).ret = .ok ∧
    (avpHwSign tropic01 (openedOn { Tropic01.blank (ascii "1234") with ecdsaSign := fun _ _ => some (List.replicate 64 7) }
      ⟨ascii "1234", by decide⟩) (some ⟨ascii "k", by decide⟩) (some (List.replicate 32 0)) true (some 32)).out =
      ⟨List.replicate 64 7, some 64⟩ :=
  avpHwSign_signs_any_capacity tropic01 _ rfl _ _ 32 rfl

end AvpTropic.Vault
