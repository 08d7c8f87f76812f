import AvpTropic.Vault.Types

/-!
# The RNG fill loops

Models of `lt_port_random_bytes` (`libtropic_port_stm32u5_tropic_click.c`) and of
`wolfcrypt_custom_seed_gen` (`wolfcrypt_platform.c` of the STM32F439 tests). Both fill a
buffer of `count` bytes with the same loop:

```
while (bytes_left > 0) {
    ret = HAL_RNG_GenerateRandomNumber(rng_handle, &random_data);
    if (ret != HAL_OK) return <failure>;
    copy_size = (bytes_left < sizeof(random_data)) ? bytes_left : sizeof(random_data);
    memcpy(buff_ptr, &random_data, copy_size);
    bytes_left -= copy_size;
    buff_ptr += copy_size;
}
```

The loop is `rngFillLoop`; each function is the loop under its own entry check and return
codes. `rng k` is the outcome of the `k`-th call of `HAL_RNG_GenerateRandomNumber`: the word
it produced, or `none` when it did not return `HAL_OK`.

Results:
* `rngFillLoop_ok`, `rngFillLoop_fail`: the loop invariant, for any start state.
* `random_fill_exact`: without an RNG handle `lt_port_random_bytes` fails at once; otherwise
  both functions make `⌈count/4⌉` RNG calls and write exactly `buff[0..count)`, byte `i`
  being byte `i mod 4` of word `⌊i/4⌋`; when the `k`-th call fails they fail after `k`
  calls, with exactly the first `4(k-1)` bytes written.
-/

namespace AvpTropic.Port

open AvpTropic AvpTropic.Vault

/-- Byte `j < 4` of the word `w` in memory on the little-endian STM32 targets. -/
def wordByte (w : UInt32) (j : ℕ) : UInt8 := (w.toNat / 256 ^ j % 256).toUInt8

/-- `memcpy(buff + ptr, &random_data, n)` for the word `w`. -/
def memcpyWord (buff : Mem) (ptr : ℕ) (w : UInt32) (n : ℕ) : Mem :=
  fun i => if ptr ≤ i ∧ i < ptr + n then wordByte w (i - ptr) else buff i

/-- The locals of the loop: `bytes_left`, `buff_ptr` (an offset into the buffer), the number
    of RNG calls made, and the buffer. -/
structure FillState where
  bytesLeft : ℕ
  buffPtr : ℕ
  calls : ℕ
  buff : Mem

/-- The `while (bytes_left > 0)` loop; the flag is `false` when an RNG call failed. -/
def rngFillLoop (rng : ℕ → Option UInt32) (st : FillState) : Bool × FillState :=
  if 0 < st.bytesLeft then
    match rng st.calls with
    | none => (false, { st with calls := st.calls + 1 })
    | some w =>
      let copySize := min st.bytesLeft 4
      rngFillLoop rng ⟨st.bytesLeft - copySize, st.buffPtr + copySize, st.calls + 1,
        memcpyWord st.buff st.buffPtr w copySize⟩
  else (true, st)
termination_by st.bytesLeft
decreasing_by all_goals simp_wf; omega

/-- `lt_port_random_bytes(s2, buff, count)`: the return code, the number of RNG calls, and
    the buffer. `rngHandle` is `device->rng_handle != NULL`. -/
def ltPortRandomBytes (rngHandle : Bool) (rng : ℕ → Option UInt32) (buff : Mem) (count : ℕ) :
    LtRet × ℕ × Mem :=
  if !rngHandle then (.fail, 0, buff)
  else
    let r := rngFillLoop rng ⟨count, 0, 0, buff⟩
    (if r.1 then .ok else .fail, r.2.calls, r.2.buff)

/-- `wolfcrypt_custom_seed_gen(output, sz)`: `0` or `RNG_FAILURE_E` (a wolfSSL constant, not
    part of the sources), the number of RNG calls, and the buffer. -/
def wolfcryptCustomSeedGen (rngFailureE : ℤ) (rng : ℕ → Option UInt32) (output : Mem)
    (sz : UInt32) : ℤ × ℕ × Mem :=
  let r := rngFillLoop rng ⟨sz.toNat, 0, 0, output⟩
  (if r.1 then 0 else rngFailureE, r.2.calls, r.2.buff)

/-! ## The loop invariant -/

/-- The buffer after the loop has copied the words `word (c + k)` to `buff[p + 4k ..]`, for
    the `n` bytes from `p`. -/
def filled (word : ℕ → UInt32) (c p n : ℕ) (buff : Mem) : Mem :=
  fun i => if p ≤ i ∧ i < p + n then wordByte (word (c + (i - p) / 4)) ((i - p) % 4) else buff i

theorem rngFillLoop_zero (rng : ℕ → Option UInt32) (p c : ℕ) (buff : Mem) :
    rngFillLoop rng ⟨0, p, c, buff⟩ = (true, ⟨0, p, c, buff⟩) := by
  rw [rngFillLoop, if_neg (Nat.lt_irrefl 0)]

theorem rngFillLoop_some (rng : ℕ → Option UInt32) (n p c : ℕ) (buff : Mem) (w : UInt32)
    (h : 0 < n) (hw : rng c = some w) :
    rngFillLoop rng ⟨n, p, c, buff⟩ =
      rngFillLoop rng ⟨n - min n 4, p + min n 4, c + 1, memcpyWord buff p w (min n 4)⟩ := by
  rw [rngFillLoop, if_pos h]
  simp only [hw]

theorem rngFillLoop_none (rng : ℕ → Option UInt32) (n p c : ℕ) (buff : Mem)
    (h : 0 < n) (hw : rng c = none) :
    rngFillLoop rng ⟨n, p, c, buff⟩ = (false, ⟨n, p, c + 1, buff⟩) := by
  rw [rngFillLoop, if_pos h]
  simp only [hw]

/-- One iteration writes the first word, and the rest of the loop writes the others. -/
theorem filled_step (word : ℕ → UInt32) (c p n : ℕ) (buff : Mem) (h : 0 < n) :
    filled word (c + 1) (p + min n 4) (n - min n 4) (memcpyWord buff p (word c) (min n 4)) =
      filled word c p n buff := by
  funext i
  simp only [filled, memcpyWord]
  by_cases hi : p ≤ i
  swap
  · rw [if_neg (by omega), if_neg (by omega), if_neg (by omega)]
  obtain ⟨j, rfl⟩ := Nat.exists_eq_add_of_le hi
  rw [Nat.add_sub_cancel_left]
  by_cases hjn : j < n
  swap
  · rw [if_neg (by omega), if_neg (by omega), if_neg (by omega)]
  by_cases hj : j < min n 4
  · rw [if_neg (by omega), if_pos (by omega), if_pos (by omega),
      Nat.div_eq_of_lt (by omega), Nat.mod_eq_of_lt (by omega), Nat.add_zero]
  · have h4 : min n 4 = 4 := by omega
    obtain ⟨j, rfl⟩ : ∃ j', j = j' + 4 := ⟨j - 4, by omega⟩
    rw [h4, if_pos (by omega), if_pos (by omega), ← Nat.add_assoc, Nat.add_sub_add_right,
      Nat.add_sub_cancel_left, Nat.add_div_right j (by decide), Nat.add_mod_right, Nat.add_assoc,
      Nat.add_comm 1]

/-- One iteration takes one of the `⌈n/4⌉` chunks. -/
theorem chunks_succ (n : ℕ) (h : 0 < n) : (n - min n 4 + 3) / 4 + 1 = (n + 3) / 4 := by omega

/-- When the RNG produces `word (c + k)` for each call it gets, the loop makes
    `⌈n/4⌉` calls and fills exactly the `n` bytes from `buff_ptr`. -/
theorem rngFillLoop_ok (rng : ℕ → Option UInt32) (word : ℕ → UInt32) (st : FillState)
    (hrng : ∀ k < (st.bytesLeft + 3) / 4, rng (st.calls + k) = some (word (st.calls + k))) :
    rngFillLoop rng st = (true, ⟨0, st.buffPtr + st.bytesLeft, st.calls + (st.bytesLeft + 3) / 4,
      filled word st.calls st.buffPtr st.bytesLeft st.buff⟩) := by
  obtain ⟨n, p, c, buff⟩ := st
  dsimp only at hrng ⊢
  induction n using Nat.strong_induction_on generalizing p c buff with
  | _ n ih =>
    rcases Nat.eq_zero_or_pos n with rfl | hn
    · rw [rngFillLoop_zero]
      congr
      funext i
      exact (if_neg (by omega)).symm
    · have hc := hrng 0 (by rw [← chunks_succ n hn]; exact Nat.succ_pos _)
      rw [Nat.add_zero] at hc
      rw [rngFillLoop_some _ _ _ _ _ _ hn hc, ih _ (Nat.sub_lt hn (by omega)), filled_step word c p n buff hn,
        Nat.add_assoc p, Nat.add_sub_cancel' (Nat.min_le_left n 4), Nat.add_assoc c, Nat.add_comm 1,
        chunks_succ n hn]
      intro k hk
      rw [Nat.add_right_comm, Nat.add_assoc]
      exact hrng (k + 1) (chunks_succ n hn ▸ Nat.succ_lt_succ hk)

/-- When the `m`-th call (counted from `0`) fails after `m` good ones, the loop fails after
    `m + 1` calls with exactly the first `4m` bytes from `buff_ptr` written. -/
theorem rngFillLoop_fail (rng : ℕ → Option UInt32) (word : ℕ → UInt32) (st : FillState) (m : ℕ)
    (hm : m < (st.bytesLeft + 3) / 4)
    (hrng : ∀ k < m, rng (st.calls + k) = some (word (st.calls + k)))
    (hfail : rng (st.calls + m) = none) :
    (rngFillLoop rng st).1 = false ∧ (rngFillLoop rng st).2.calls = st.calls + m + 1 ∧
      (rngFillLoop rng st).2.buff = filled word st.calls st.buffPtr (4 * m) st.buff := by
  obtain ⟨n, p, c, buff⟩ := st
  dsimp only at hm hrng hfail ⊢
  induction m generalizing n p c buff with
  | zero =>
    rw [Nat.add_zero] at hfail
    rw [rngFillLoop_none _ _ _ _ _ (by omega) hfail]
    refine ⟨rfl, rfl, funext fun i => (if_neg (by omega)).symm⟩
  | succ m ih =>
    have hc := hrng 0 (Nat.succ_pos m)
    rw [Nat.add_zero] at hc
    have hn : 0 < n := by omega
    have h5 : min n 4 = 4 := by omega
    rw [rngFillLoop_some _ _ _ _ _ _ hn hc]
    obtain ⟨h1, h2, h3⟩ := ih (n - min n 4) (p + min n 4) (c + 1)
      (memcpyWord buff p (word c) (min n 4))
      (by rw [← chunks_succ n hn] at hm; exact Nat.lt_of_succ_lt_succ hm)
      (fun k hk => by rw [Nat.add_right_comm, Nat.add_assoc]; exact hrng (k + 1) (Nat.succ_lt_succ hk))
      (by rw [Nat.add_right_comm, Nat.add_assoc]; exact hfail)
    refine ⟨h1, by rw [h2, Nat.add_right_comm c, Nat.add_assoc c], ?_⟩
    rw [h3, ← filled_step word c p (4 * (m + 1)) buff (Nat.succ_pos _), h5,
      Nat.min_eq_right (by omega), Nat.mul_succ, Nat.add_sub_cancel]

/-- From the start of the buffer, byte `i` is byte `i mod 4` of word `⌊i/4⌋`. -/
@[simp] theorem filled_zero (word : ℕ → UInt32) (n : ℕ) (buff : Mem) :
    filled word 0 0 n buff = fun i => if i < n then wordByte (word (i / 4)) (i % 4) else buff i := by
  funext i
  simp [filled]

/-! ## The two fill functions -/

/-- `lt_port_random_bytes` without an RNG handle fails with no RNG call and no write. With
    one, and `wolfcrypt_custom_seed_gen`: when the RNG calls return the words
    `word 0, word 1, …`, both make `⌈count/4⌉` calls, write exactly `buff[0..count)` with byte
    `i mod 4` of word `⌊i/4⌋` in little-endian order, `⌊w / 256^(i mod 4)⌋ mod 256`, and
    succeed. When call `m` (the `k = m + 1`-th) fails after `m` good ones, both fail after `k`
    calls with exactly the first `4m = 4(k-1)` bytes written. -/
theorem random_fill_exact (rng : ℕ → Option UInt32) (word : ℕ → UInt32) (buff : Mem)
    (count : ℕ) (sz : UInt32) (rngFailureE : ℤ) :
    ltPortRandomBytes false rng buff count = (.fail, 0, buff) ∧
    ((∀ k < (count + 3) / 4, rng k = some (word k)) →
      ltPortRandomBytes true rng buff count = (.ok, (count + 3) / 4,
        fun i => if i < count then ((word (i / 4)).toNat / 256 ^ (i % 4) % 256).toUInt8 else buff i)) ∧
    (∀ m < (count + 3) / 4, (∀ k < m, rng k = some (word k)) → rng m = none →
      ltPortRandomBytes true rng buff count = (.fail, m + 1,
        fun i => if i < 4 * m then ((word (i / 4)).toNat / 256 ^ (i % 4) % 256).toUInt8 else buff i)) ∧
    ((∀ k < (sz.toNat + 3) / 4, rng k = some (word k)) →
      wolfcryptCustomSeedGen rngFailureE rng buff sz = (0, (sz.toNat + 3) / 4,
        fun i => if i < sz.toNat then ((word (i / 4)).toNat / 256 ^ (i % 4) % 256).toUInt8 else buff i)) ∧
    (∀ m < (sz.toNat + 3) / 4, (∀ k < m, rng k = some (word k)) → rng m = none →
      wolfcryptCustomSeedGen rngFailureE rng buff sz = (rngFailureE, m + 1,
        fun i => if i < 4 * m then ((word (i / 4)).toNat / 256 ^ (i % 4) % 256).toUInt8 else buff i)) := by
  have ok : ∀ n, (∀ k < (n + 3) / 4, rng k = some (word k)) →
      rngFillLoop rng ⟨n, 0, 0, buff⟩ = (true, ⟨0, n, (n + 3) / 4, filled word 0 0 n buff⟩) := by
    intro n h
    simpa using rngFillLoop_ok rng word ⟨n, 0, 0, buff⟩ (by simpa using h)
  have fail : ∀ n, ∀ m < (n + 3) / 4, (∀ k < m, rng k = some (word k)) → rng m = none →
      (rngFillLoop rng ⟨n, 0, 0, buff⟩).1 = false ∧ (rngFillLoop rng ⟨n, 0, 0, buff⟩).2.calls = m + 1 ∧
        (rngFillLoop rng ⟨n, 0, 0, buff⟩).2.buff = filled word 0 0 (4 * m) buff := by
    intro n m hm h hf
    simpa using rngFillLoop_fail rng word ⟨n, 0, 0, buff⟩ m hm (by simpa using h) (by simpa using hf)
  refine ⟨rfl, fun h => ?_, fun m hm h hf => ?_, fun h => ?_, fun m hm h hf => ?_⟩
  · simp [ltPortRandomBytes, ok count h, wordByte]
  · obtain ⟨h1, h2, h3⟩ := fail count m hm h hf
    simp [ltPortRandomBytes, h1, h2, h3, wordByte]
  · simp [wolfcryptCustomSeedGen, ok sz.toNat h, wordByte]
  · obtain ⟨h1, h2, h3⟩ := fail sz.toNat m hm h hf
    simp [wolfcryptCustomSeedGen, h1, h2, h3, wordByte]

/-- Eleven bytes from the words `0x04030201, 0x08070605, 0x0C0B0A09`: three calls, and the
    twelfth byte untouched. -/
theorem random_fill_exact_eleven :
    ltPortRandomBytes true (fun k => some (UInt32.ofNat (0x04030201 + 0x04040404 * k)))
      (fun _ => 0xFF) 11 = (.ok, 3, fun i => if i < 11 then
        ((UInt32.ofNat (0x04030201 + 0x04040404 * (i / 4))).toNat / 256 ^ (i % 4) % 256).toUInt8
        else 0xFF) :=
  (random_fill_exact _ (fun k => UInt32.ofNat (0x04030201 + 0x04040404 * k)) _ 11 0 0).2.1
    fun _ _ => rfl

end AvpTropic.Port
