import Mathlib.Data.UInt
import Mathlib.Logic.Function.Basic
import Mathlib.Data.List.Basic

/-!
# C strings and the C library calls of the AVP layer

The AVP layer (`avp/avp_tropic.h`) handles names, PINs and workspaces as NUL-terminated
`char *` strings and fills fixed `char` arrays inside `avp_vault_t` and the response
structures with `strcpy`, `strncpy`, `snprintf` and `memset`.

* `CStr` is a C string: the bytes before its terminator, which carry the proof that none of
  them is NUL, so a string with an embedded NUL cannot be built.
* A fixed array `char a[N]` is `Fin N → UInt8`; caller memory reached through a bare pointer
  is `ℕ → UInt8`, indexed from the pointer. Stores through a pointer are a list of
  `(index, byte)` pairs (`applyWrites`), so that a write past the end of a buffer is visible
  in the model.

Results:
* `strncpy_high`, `strcpy_high`: both leave every byte at or past their bound untouched.
* `cStr_strcpy`, `cStr_strncpy`: the round trip; the array read back as a C string (`cStr`)
  is the string copied, cut to the `strncpy` bound, whatever the array held before.
* `applyWrites_of_not_mem`, `applyWrites_append`: the frame and sequencing laws of stores.
-/

namespace AvpTropic

/-- A NUL-terminated C string: the bytes before the terminator. -/
structure CStr where
  bytes : List UInt8
  nul_free : ∀ b ∈ bytes, b ≠ 0

/-- The bytes of an ASCII string literal. -/
def ascii (s : String) : List UInt8 := s.toList.map fun c => c.toNat.toUInt8

namespace CStr

/-- `strlen(s)`. -/
def strlen (s : CStr) : ℕ := s.bytes.length

/-- The byte `s[i]` for `i ≤ strlen(s)`: the terminator at `i = strlen(s)`. -/
def get (s : CStr) (i : ℕ) : UInt8 := s.bytes.getD i 0

theorem get_strlen (s : CStr) : s.get s.strlen = 0 := by
  simp [get, strlen]

end CStr

/-! ## Fixed arrays -/

/-- `memset(a, 0, sizeof a)`. -/
def zeroArray (N : ℕ) : Fin N → UInt8 := fun _ => 0

/-- `strncpy(dst, src, n)`: the bytes of `src` up to its terminator, then NULs up to `n`
    bytes; `dst[n..N)` is untouched. -/
def strncpy {N : ℕ} (dst : Fin N → UInt8) (src : CStr) (n : ℕ) : Fin N → UInt8 :=
  fun i => if i.val < n then src.get i.val else dst i

/-- `strcpy(dst, src)` for a source that fits: its bytes and its terminator. -/
def strcpy {N : ℕ} (dst : Fin N → UInt8) (src : CStr) : Fin N → UInt8 :=
  fun i => if i.val ≤ src.strlen then src.get i.val else dst i

theorem strncpy_high {N : ℕ} (dst : Fin N → UInt8) (src : CStr) {n : ℕ} (i : Fin N)
    (h : n ≤ i.val) : strncpy dst src n i = dst i := by
  simp [strncpy, Nat.not_lt.mpr h]

theorem strcpy_high {N : ℕ} (dst : Fin N → UInt8) (src : CStr) (i : Fin N)
    (h : src.strlen < i.val) : strcpy dst src i = dst i := by
  simp [strcpy, Nat.not_le.mpr h]

/-! ## Reading a C string back -/

/-- The C string a `char` array holds: its bytes before the first NUL (all of them when it
    holds none, where C would read past the end). -/
def cStr {N : ℕ} (a : Fin N → UInt8) : List UInt8 := (List.ofFn a).takeWhile (· != 0)

/-- A list that starts with the NUL-free bytes `s` and then a NUL reads as `s`. -/
theorem takeWhile_ne_zero_eq {s : List UInt8} (hs : ∀ b ∈ s, b ≠ 0) :
    ∀ {l : List UInt8}, (∀ i (h : i < s.length), l[i]? = some s[i]) → l[s.length]? = some 0 →
      l.takeWhile (· != 0) = s := by
  induction s with
  | nil =>
    rintro (_ | ⟨b, l⟩) _ h0
    · cases h0
    · simp_all
  | cons b s ih =>
    rintro (_ | ⟨b', l⟩) hl h0
    · simpa using hl 0 (by simp)
    · obtain rfl : b' = b := by simpa using hl 0 (by simp)
      rw [List.takeWhile_cons_of_pos (by simpa using hs b' (List.mem_cons_self _ _)),
        ih (fun x hx => hs x (List.mem_cons_of_mem _ hx))
          (fun i h => by simpa using hl (i + 1) (by simpa using h)) (by simpa using h0)]

/-- An array whose first bytes are the NUL-free `s`, followed by a NUL, reads as `s`. -/
theorem cStr_eq {N : ℕ} (a : Fin N → UInt8) (s : List UInt8) (hs : ∀ b ∈ s, b ≠ 0)
    (hN : s.length < N) (ha : ∀ i : Fin N, i.val < s.length → a i = s.getD i 0)
    (h0 : a ⟨s.length, hN⟩ = 0) : cStr a = s := by
  refine takeWhile_ne_zero_eq hs (fun i h => ?_) ?_
  · rw [List.getElem?_eq_getElem (by rw [List.length_ofFn]; omega), List.getElem_ofFn,
      ha ⟨i, by omega⟩ h, List.getD_eq_getElem?_getD, List.getElem?_eq_getElem h,
      Option.getD_some]
  · rw [List.getElem?_eq_getElem (by rwa [List.length_ofFn]), List.getElem_ofFn, h0]

/-- `strcpy` of a string that fits: the array reads back as the string, whatever it held. -/
theorem cStr_strcpy {N : ℕ} (dst : Fin N → UInt8) (src : CStr) (h : src.strlen < N) :
    cStr (strcpy dst src) = src.bytes :=
  cStr_eq _ _ src.nul_free h (fun _ hi => if_pos (Nat.le_of_lt hi))
    ((if_pos le_rfl).trans src.get_strlen)

/-- `strncpy(dst, src, n)` with `dst[n] = 0`: the array reads back as `src` cut to `n`
    bytes. -/
theorem cStr_strncpy {N : ℕ} (dst : Fin N → UInt8) (src : CStr) {n : ℕ} (hn : n < N)
    (h : dst ⟨n, hn⟩ = 0) : cStr (strncpy dst src n) = src.bytes.take n := by
  have hlen : (src.bytes.take n).length = min n src.strlen := List.length_take _ _
  refine cStr_eq _ _ (fun b hb => src.nul_free b (List.mem_of_mem_take hb)) (by omega)
    (fun i hi => ?_) ?_
  · rw [strncpy, if_pos (by omega), CStr.get, List.getD_eq_getElem?_getD,
      List.getD_eq_getElem?_getD, List.getElem?_take_of_lt (by omega)]
  · simp only [hlen, strncpy]
    rcases Nat.lt_or_ge src.strlen n with hs | hs
    · rw [if_pos (by omega), Nat.min_eq_right hs.le, CStr.get_strlen]
    · rw [if_neg (by omega)]
      simpa [Nat.min_eq_left hs] using h

/-! ## Stores through a pointer -/

/-- Memory at and after a pointer, one byte per offset. -/
abbrev Mem := ℕ → UInt8

/-- The stores `p[i] = b`, in order. -/
def applyWrites (m : Mem) (ws : List (ℕ × UInt8)) : Mem :=
  ws.foldl (fun m w => Function.update m w.1 w.2) m

@[simp] theorem applyWrites_nil (m : Mem) : applyWrites m [] = m := rfl

theorem applyWrites_append (m : Mem) (ws ws' : List (ℕ × UInt8)) :
    applyWrites m (ws ++ ws') = applyWrites (applyWrites m ws) ws' := by
  simp [applyWrites, List.foldl_append]

@[simp] theorem applyWrites_cons (m : Mem) (w : ℕ × UInt8) (ws : List (ℕ × UInt8)) :
    applyWrites m (w :: ws) = applyWrites (Function.update m w.1 w.2) ws := rfl

/-- A byte no store targets keeps its value. -/
theorem applyWrites_of_not_mem (m : Mem) (ws : List (ℕ × UInt8)) (i : ℕ)
    (h : ∀ w ∈ ws, w.1 ≠ i) : applyWrites m ws i = m i := by
  induction ws generalizing m with
  | nil => rfl
  | cons w ws ih =>
    rw [applyWrites_cons, ih _ (fun w' hw' => h w' (List.mem_cons_of_mem _ hw'))]
    exact Function.update_noteq (h w (List.mem_cons_self _ _)).symm _ _

/-- `snprintf(buf, n, "%s", s)`: the first `n - 1` bytes of `s`, then a NUL; no store at all
    when `n = 0`. -/
def snprintfWrites (n : ℕ) (s : CStr) : List (ℕ × UInt8) :=
  if n = 0 then []
  else (List.range (min s.strlen (n - 1))).map (fun i => (i, s.get i)) ++ [(min s.strlen (n - 1), 0)]

end AvpTropic
