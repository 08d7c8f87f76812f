import AvpTropic.Vault.Types

/-!
# `validate_secret_name`

Model of `validate_secret_name` (`avp/avp_tropic.h`, lines 312–342) and its
characterisation by the name grammar of the AVP documentation (`docs/avp/index.md`,
"Name Requirements"): length 1–255, first character `[A-Za-z]`, the others
`[A-Za-z0-9_.-]`, that is `^[A-Za-z][A-Za-z0-9_.-]{0,254}$`.

The function compares a `char c` with character literals. Both sides are promoted to `int`,
and what a byte `≥ 0x80` becomes depends on whether `char` is signed (x86 ABIs) or unsigned
(ARM ABIs). The model takes the signedness as an argument.

Results:
* `validateSecretName_iff`: for either signedness, `validate_secret_name` accepts exactly the
  non-NULL strings of the grammar.
* `validateSecretName_signed_eq`: the result does not depend on the signedness of `char`.
-/

namespace AvpTropic.Vault

/-- The `int` value of a `char` that holds the byte `b`. -/
def charToInt (signed : Bool) (b : UInt8) : ℤ :=
  if signed = true ∧ 128 ≤ b.toNat then (b.toNat : ℤ) - 256 else b.toNat

/-- `(c >= 'A' && c <= 'Z') || (c >= 'a' && c <= 'z')` (lines 325 and 332–333). -/
def isLetterChar (signed : Bool) (b : UInt8) : Bool :=
  (65 ≤ charToInt signed b && charToInt signed b ≤ 90) ||
    (97 ≤ charToInt signed b && charToInt signed b ≤ 122)

/-- The test of the loop body, lines 332–335: a letter, a digit, `_`, `.` or `-`. -/
def isNameChar (signed : Bool) (b : UInt8) : Bool :=
  isLetterChar signed b || (48 ≤ charToInt signed b && charToInt signed b ≤ 57) ||
    charToInt signed b = 95 || charToInt signed b = 46 || charToInt signed b = 45

/-- `validate_secret_name(name)` (lines 312–342); `none` is a NULL pointer. The loop
    `for (i = 1; i < len; i++)` reads the bytes after the first. -/
def validateSecretName (signed : Bool) : Option CStr → Bool
  | none => false
  | some name =>
    match name.bytes with
    | [] => false
    | c :: rest =>
      if name.strlen > avpMaxSecretNameLen then false
      else if !isLetterChar signed c then false
      else rest.all (isNameChar signed)

/-! ## The name grammar -/

/-- `[A-Za-z]` on a byte. -/
def AsciiLetter (b : UInt8) : Prop :=
  (65 ≤ b.toNat ∧ b.toNat ≤ 90) ∨ (97 ≤ b.toNat ∧ b.toNat ≤ 122)

/-- `[A-Za-z0-9_.-]` on a byte. -/
def NameByte (b : UInt8) : Prop :=
  AsciiLetter b ∨ (48 ≤ b.toNat ∧ b.toNat ≤ 57) ∨ b.toNat = 95 ∨ b.toNat = 46 ∨ b.toNat = 45

/-- `^[A-Za-z][A-Za-z0-9_.-]{0,254}$`, stated by positions. -/
def NameGrammar (s : List UInt8) : Prop :=
  1 ≤ s.length ∧ s.length ≤ 255 ∧ (∀ h : 0 < s.length, AsciiLetter s[0]) ∧
    ∀ i (h : i < s.length), 1 ≤ i → NameByte s[i]

/-- A byte's value as a signed `char` differs from its value as a byte only above `0x7f`,
    where it is negative. -/
theorem charToInt_cases (signed : Bool) (b : UInt8) :
    charToInt signed b = b.toNat ∨ (128 ≤ b.toNat ∧ charToInt signed b = (b.toNat : ℤ) - 256) := by
  unfold charToInt
  split_ifs with h
  · exact .inr ⟨h.2, rfl⟩
  · exact .inl rfl

theorem isLetterChar_iff (signed : Bool) (b : UInt8) :
    isLetterChar signed b = true ↔ AsciiLetter b := by
  have : b.toNat < 256 := b.toNat_lt_size
  simp only [isLetterChar, AsciiLetter, Bool.or_eq_true, Bool.and_eq_true, decide_eq_true_eq]
  rcases charToInt_cases signed b with h | ⟨h1, h⟩ <;> rw [h] <;> omega

theorem isNameChar_iff (signed : Bool) (b : UInt8) :
    isNameChar signed b = true ↔ NameByte b := by
  have : b.toNat < 256 := b.toNat_lt_size
  simp only [isNameChar, NameByte, Bool.or_eq_true, isLetterChar_iff, Bool.and_eq_true,
    decide_eq_true_eq, AsciiLetter]
  rcases charToInt_cases signed b with h | ⟨h1, h⟩ <;> rw [h] <;> omega

/-- The grammar of a non-empty list, split at its head. -/
theorem nameGrammar_cons (c : UInt8) (rest : List UInt8) :
    NameGrammar (c :: rest) ↔ rest.length ≤ 254 ∧ AsciiLetter c ∧ ∀ b ∈ rest, NameByte b := by
  simp only [NameGrammar, List.length_cons, List.getElem_cons_zero]
  constructor
  · rintro ⟨-, hlen, hc, hrest⟩
    refine ⟨by omega, hc (by omega), fun b hb => ?_⟩
    obtain ⟨i, hi, rfl⟩ := List.getElem_of_mem hb
    simpa using hrest (i + 1) (by omega) (by omega)
  · rintro ⟨hlen, hc, hrest⟩
    refine ⟨by omega, by omega, fun _ => hc, fun i hi h1 => ?_⟩
    obtain ⟨j, rfl⟩ : ∃ j, i = j + 1 := ⟨i - 1, by omega⟩
    simpa using hrest _ (List.getElem_mem _)

/-- `validate_secret_name` accepts exactly the non-NULL strings of the AVP name grammar,
    whether `char` is signed or unsigned. -/
theorem validateSecretName_iff (signed : Bool) (name : Option CStr) :
    validateSecretName signed name = true ↔ ∃ s, name = some s ∧ NameGrammar s.bytes := by
  rcases name with _ | ⟨bytes, hnul⟩
  · simp [validateSecretName]
  · rcases bytes with _ | ⟨c, rest⟩
    · simp [validateSecretName, NameGrammar]
    · simp only [validateSecretName, CStr.strlen, List.length_cons, avpMaxSecretNameLen,
        Option.some.injEq, exists_eq_left', nameGrammar_cons, ← isLetterChar_iff signed,
        ← isNameChar_iff signed, List.all_eq_true]
      split_ifs with h1 h2
      · simp only [Bool.false_eq_true, false_iff]; omega
      · simp_all
      · rw [List.all_eq_true]
        exact ⟨fun h => ⟨by omega, by simpa using h2, h⟩, fun h => h.2.2⟩

/-- The signedness of `char` never changes the verdict. -/
theorem validateSecretName_signed_eq (name : Option CStr) :
    validateSecretName true name = validateSecretName false name := by
  have hl : isLetterChar true = isLetterChar false :=
    funext fun b => Bool.eq_iff_iff.2 ((isLetterChar_iff _ b).trans (isLetterChar_iff _ b).symm)
  have hn : isNameChar true = isNameChar false :=
    funext fun b => Bool.eq_iff_iff.2 ((isNameChar_iff _ b).trans (isNameChar_iff _ b).symm)
  unfold validateSecretName
  simp only [hl, hn]

end AvpTropic.Vault
