import AvpTropic.Vault.Types

/-!
# Pins and the SPI bus of the STM32U5 port

Models of the chip-select, INT-pin and SPI-transfer functions of
`libtropic_port_stm32u5_tropic_click.c`. The HAL is taken as streams: `read i` is what the
`i`-th `HAL_GPIO_ReadPin` of a call returns, `tick k` the `HAL_GetTick()` of poll `k`. The
chip-select functions and `lt_port_spi_transfer` pass the HAL's answer through; the INT-pin
wait computes with it.

Results:
* `delayOnIntLoop_eq_some`: the wait for the INT pin returns at the first poll that ends it.
* `delayOnInt_wrap_safe`: the elapsed time `HAL_GetTick() - start_tick` is the true elapsed
  time for every start tick, also across the 2^32 wrap, so the wait times out exactly at the
  first poll more than `ms` after the start and returns `LT_OK` only on a high pin.
-/

namespace AvpTropic.Port

open AvpTropic AvpTropic.Vault

/-- `GPIO_PinState`. -/
inductive GpioPinState
  | reset
  | set
  deriving DecidableEq, Repr

/-! ## Chip select -/

/-- `LT_STM32U5_GPIO_CHECK_ATTEMPTS`. -/
def ltStm32u5GpioCheckAttempts : ℕ := 10

/-- The loop `for (uint8_t i = 0; i < LT_STM32U5_GPIO_CHECK_ATTEMPTS; i++)` of the
    chip-select functions from attempt `i`: `LT_OK` at the first read showing `level`. -/
def gpioCheckLoop (level : GpioPinState) (read : ℕ → GpioPinState) (i : ℕ) : LtRet :=
  if i < ltStm32u5GpioCheckAttempts then
    if read i = level then .ok else gpioCheckLoop level read (i + 1)
  else .l1SpiError
termination_by ltStm32u5GpioCheckAttempts - i

/-- `HAL_GPIO_WritePin(cs, level)` and then the check loop: the level written and the
    return code. -/
def spiCsnSet (level : GpioPinState) (read : ℕ → GpioPinState) : GpioPinState × LtRet :=
  (level, gpioCheckLoop level read 0)

/-- `lt_port_spi_csn_low(s2)`. -/
def ltPortSpiCsnLow (read : ℕ → GpioPinState) : GpioPinState × LtRet := spiCsnSet .reset read

/-- `lt_port_spi_csn_high(s2)`. -/
def ltPortSpiCsnHigh (read : ℕ → GpioPinState) : GpioPinState × LtRet := spiCsnSet .set read

/-! ## The INT pin -/

/-- One poll of the `while` loop of `lt_port_delay_on_int`: the pin reads `pin`, and when it is
    low the tick reads `tick`. `none` when the loop goes on. -/
def delayOnIntPoll (ms startTick : UInt32) (pin : GpioPinState) (tick : UInt32) : Option LtRet :=
  if pin = .reset then
    if tick - startTick > ms then some .l1IntTimeout else none
  else some .ok

/-- The `while` loop of `lt_port_delay_on_int` from poll `k`, for at most `fuel` polls: the
    return code and the poll it returns at, `none` while it is still waiting. -/
def delayOnIntLoop (ms startTick : UInt32) (pin : ℕ → GpioPinState) (tick : ℕ → UInt32) :
    ℕ → ℕ → Option (LtRet × ℕ)
  | 0, _ => none
  | fuel + 1, k =>
    match delayOnIntPoll ms startTick (pin k) (tick k) with
    | some r => some (r, k)
    | none => delayOnIntLoop ms startTick pin tick fuel (k + 1)

/-- `lt_port_delay_on_int(s2, ms)`, with `start_tick = HAL_GetTick()` read before the loop,
    over the first `fuel` polls. -/
def ltPortDelayOnInt (ms startTick : UInt32) (pin : ℕ → GpioPinState) (tick : ℕ → UInt32)
    (fuel : ℕ) : Option (LtRet × ℕ) :=
  delayOnIntLoop ms startTick pin tick fuel 0

section Loop

variable {ms startTick : UInt32} {pin : ℕ → GpioPinState} {tick : ℕ → UInt32}

/-- The loop returns `r` at poll `j` iff no poll of `k .. j-1` ends it and poll `j` ends it
    with `r`. -/
theorem delayOnIntLoop_eq_some (n k j : ℕ) (r : LtRet) :
    delayOnIntLoop ms startTick pin tick n k = some (r, j) ↔
      k ≤ j ∧ j < k + n ∧
      (∀ i, k ≤ i → i < j → delayOnIntPoll ms startTick (pin i) (tick i) = none) ∧
      delayOnIntPoll ms startTick (pin j) (tick j) = some r := by
  induction n generalizing k with
  | zero =>
    simp only [delayOnIntLoop, reduceCtorEq, false_iff]
    rintro ⟨h1, h2, -⟩
    omega
  | succ n ih =>
    simp only [delayOnIntLoop]
    cases hp : delayOnIntPoll ms startTick (pin k) (tick k) with
    | none =>
      rw [ih]
      constructor
      · rintro ⟨h1, h2, h3, h4⟩
        refine ⟨by omega, by omega, fun i hi1 hi2 => ?_, h4⟩
        rcases Nat.eq_or_lt_of_le hi1 with rfl | hi1
        · exact hp
        · exact h3 i hi1 hi2
      · rintro ⟨h1, h2, h3, h4⟩
        have hjk : j ≠ k := by
          rintro rfl
          rw [hp] at h4
          contradiction
        exact ⟨by omega, by omega, fun i hi1 hi2 => h3 i (by omega) hi2, h4⟩
    | some r' =>
      simp only [Option.some.injEq, Prod.mk.injEq]
      constructor
      · rintro ⟨rfl, rfl⟩
        exact ⟨le_refl k, by omega, fun i hi1 hi2 => absurd hi2 (by omega), hp⟩
      · rintro ⟨h1, h2, h3, h4⟩
        rcases Nat.eq_or_lt_of_le h1 with rfl | h1
        · rw [hp, Option.some.injEq] at h4
          exact ⟨h4, rfl⟩
        · rw [h3 k (le_refl k) h1] at hp
          contradiction

end Loop

/-- The elapsed time `HAL_GetTick() - start_tick` in `uint32_t` is the true elapsed time `e`
    whenever `e < 2^32`, wherever the counter wraps. -/
theorem tick_sub_start (startTick : UInt32) (e : ℕ) (he : e < 2 ^ 32) :
    ((startTick + UInt32.ofNat e) - startTick).toNat = e := by
  rw [add_sub_cancel_left]
  exact UInt32.toNat_ofNat_of_lt he

/-- A poll `e < 2^32` ticks after the start. -/
theorem delayOnIntPoll_elapsed (ms startTick : UInt32) (p : GpioPinState) (e : ℕ)
    (he : e < 2 ^ 32) :
    delayOnIntPoll ms startTick p (startTick + UInt32.ofNat e) =
      if p = .reset then (if ms.toNat < e then some .l1IntTimeout else none) else some .ok := by
  have hlt : startTick + UInt32.ofNat e - startTick > ms ↔ ms.toNat < e := by
    show ms.toNat < (startTick + UInt32.ofNat e - startTick).toNat ↔ _
    rw [tick_sub_start startTick e he]
  simp only [delayOnIntPoll, hlt]

/-- A poll `e < 2^32` ticks after the start goes on iff the pin is low and `e ≤ ms`. -/
theorem delayOnIntPoll_elapsed_none (ms startTick : UInt32) (p : GpioPinState) (e : ℕ)
    (he : e < 2 ^ 32) :
    delayOnIntPoll ms startTick p (startTick + UInt32.ofNat e) = none ↔
      p = .reset ∧ e ≤ ms.toNat := by
  rw [delayOnIntPoll_elapsed ms startTick p e he]
  cases p <;> by_cases h : ms.toNat < e <;> simp [h, Nat.not_lt.mp]

/-- A poll `e < 2^32` ticks after the start ends the wait with `r` iff the pin is low,
    `e > ms` and `r` is the timeout, or the pin is high and `r = LT_OK`. -/
theorem delayOnIntPoll_elapsed_some (ms startTick : UInt32) (p : GpioPinState) (e : ℕ)
    (he : e < 2 ^ 32) (r : LtRet) :
    delayOnIntPoll ms startTick p (startTick + UInt32.ofNat e) = some r ↔
      p = .reset ∧ ms.toNat < e ∧ r = .l1IntTimeout ∨ p = .set ∧ r = .ok := by
  rw [delayOnIntPoll_elapsed ms startTick p e he]
  cases p <;> by_cases h : ms.toNat < e <;> simp [h, eq_comm]

/-- The INT wait is wrap-safe: with the `k`-th tick reading `t0 + e k (mod 2^32)` for true
    elapsed times `e k < 2^32`, the computed elapsed time is `e k`, and the wait returns `r`
    at poll `j` iff the pin read low with `e i ≤ ms` at every earlier poll, and at poll `j`
    either the pin read low with `e j > ms` and `r = LT_L1_INT_TIMEOUT`, or the pin read high
    and `r = LT_OK`. -/
theorem delayOnInt_wrap_safe (ms t0 : UInt32) (pin : ℕ → GpioPinState) (e : ℕ → ℕ)
    (he : ∀ k, e k < 2 ^ 32) :
    (∀ k, ((t0 + UInt32.ofNat (e k)) - t0).toNat = e k) ∧
    ∀ n j r, ltPortDelayOnInt ms t0 pin (fun k => t0 + UInt32.ofNat (e k)) n = some (r, j) ↔
      j < n ∧ (∀ i < j, pin i = .reset ∧ e i ≤ ms.toNat) ∧
      (pin j = .reset ∧ ms.toNat < e j ∧ r = .l1IntTimeout ∨ pin j = .set ∧ r = .ok) := by
  refine ⟨fun k => tick_sub_start t0 (e k) (he k), fun n j r => ?_⟩
  simp only [ltPortDelayOnInt, delayOnIntLoop_eq_some, delayOnIntPoll_elapsed_none _ _ _ _ (he _),
    delayOnIntPoll_elapsed_some _ _ _ _ (he _), Nat.zero_le, Nat.zero_add, true_and, true_implies]

/-- Started at `2^32 - 3` with `ms = 5`, the counter wraps after three polls; the pin stays
    low, and the wait times out at poll 6, the first more than five ticks after the start. -/
theorem delayOnInt_wrap_safe_at_wrap :
    ltPortDelayOnInt 5 4294967293 (fun _ => .reset)
      (fun k => 4294967293 + UInt32.ofNat (k % 2 ^ 32)) 10 = some (.l1IntTimeout, 6) :=
  ((delayOnInt_wrap_safe 5 4294967293 (fun _ => .reset) (fun k => k % 2 ^ 32)
    (fun k => Nat.mod_lt k (by decide))).2 10 6 .l1IntTimeout).2
    ⟨by decide, fun i hi => ⟨rfl, show i % 2 ^ 32 ≤ 5 by omega⟩,
      Or.inl ⟨rfl, by decide, rfl⟩⟩

/-! ## SPI transfer -/

/-- `lt_port_spi_transfer(s2, offset, tx_data_length, timeout_ms)`: `tr01L1LenMax` is
    `TR01_L1_LEN_MAX` (a libtropic constant, not part of the sources) and `spi` is
    `HAL_SPI_TransmitReceive` on the bytes `s2->buff[offset ..][0 .. tx_data_length)`: whether
    it returned `HAL_OK`, and the bytes it stored into the same window, in place, before it
    returned. A failed transfer may have stored only some of them, and the code restores
    nothing. -/
def ltPortSpiTransfer (tr01L1LenMax : ℕ) (spi : List UInt8 → Bool × List UInt8) (buff : Mem)
    (offset : UInt8) (txDataLength : UInt16) : LtRet × Mem :=
  if offset.toNat + txDataLength.toNat > tr01L1LenMax then (.l1DataLenError, buff)
  else
    let r := spi ((List.range txDataLength.toNat).map fun i => buff (offset.toNat + i))
    (if r.1 then .ok else .l1SpiError, fun i =>
      if offset.toNat ≤ i ∧ i < offset.toNat + txDataLength.toNat then
        r.2.getD (i - offset.toNat) (buff i)
      else buff i)

end AvpTropic.Port
