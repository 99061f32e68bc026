import Mathlib.Data.List.Basic
import Mathlib.Tactic.Ring

/-!
# Little-endian reads and writes of a byte memory

A memory is a total function `Nat → UInt8` from offsets to bytes.

* `leNat m off n` : the number stored little-endian in the `n` bytes at `off`; `readU8` to
  `readU64` and the arrays `readU8s`, `readU16s`, `readU32s` are its fixed-width forms;
* `span off n` : the offsets of the `n` bytes at `off`;
* `Agree S m m'` : the two memories hold the same bytes at the offsets `S`; each read depends on
  the offsets of its own span only (`leNat_congr` and its forms);
* `leBytes n v` : the `n` bytes of a number; `bytesU16` to `bytesU64` and the arrays `bytesU16s`,
  `bytesU32s` its fixed-width forms (an array of bytes is its own);
* `Holds m off bs` : the memory holds the bytes `bs` at `off`; `leNat_of_holds` and its forms read
  them back; `overlay` writes them.
-/

namespace Bytes

abbrev Memory := Nat → UInt8

/-- The number stored little-endian in the `n` bytes at `off`. -/
def leNat (m : Memory) (off : Nat) : Nat → Nat
  | 0 => 0
  | n + 1 => (m off).toNat + 256 * leNat m (off + 1) n

def readU8 (m : Memory) (off : Nat) : UInt8 := m off
def readU16 (m : Memory) (off : Nat) : UInt16 := UInt16.ofNat (leNat m off 2)
def readU32 (m : Memory) (off : Nat) : UInt32 := UInt32.ofNat (leNat m off 4)
def readU64 (m : Memory) (off : Nat) : UInt64 := UInt64.ofNat (leNat m off 8)

def readU8s (m : Memory) (off n : Nat) : Vector UInt8 n := Vector.ofFn fun i => readU8 m (off + i)
def readU16s (m : Memory) (off n : Nat) : Vector UInt16 n :=
  Vector.ofFn fun i => readU16 m (off + 2 * i)
def readU32s (m : Memory) (off n : Nat) : Vector UInt32 n :=
  Vector.ofFn fun i => readU32 m (off + 4 * i)

/-- The offsets of the `n` bytes at `off`. -/
def span (off n : Nat) : List Nat := List.range' off n

@[simp] theorem mem_span {off n o : Nat} : o ∈ span off n ↔ off ≤ o ∧ o < off + n :=
  List.mem_range'_1

/-- The memories hold the same bytes at the offsets `S`. -/
def Agree (S : List Nat) (m m' : Memory) : Prop := ∀ o ∈ S, m o = m' o

theorem Agree.mono {S T : List Nat} {m m' : Memory} (h : Agree S m m') (hT : ∀ o ∈ T, o ∈ S) :
    Agree T m m' := fun o ho => h o (hT o ho)

theorem Agree.left {S T : List Nat} {m m' : Memory} (h : Agree (S ++ T) m m') : Agree S m m' :=
  h.mono fun _ ho => List.mem_append_left T ho

theorem Agree.right {S T : List Nat} {m m' : Memory} (h : Agree (S ++ T) m m') : Agree T m m' :=
  h.mono fun _ ho => List.mem_append_right S ho

theorem Agree.span {a k off n : Nat} {m m' : Memory} (h : Agree (span a k) m m') (hl : a ≤ off)
    (hr : off + n ≤ a + k) : Agree (Bytes.span off n) m m' :=
  h.mono fun o ho => by rw [mem_span] at ho ⊢; omega

theorem leNat_congr {m m' : Memory} {off n : Nat} (h : Agree (span off n) m m') :
    leNat m off n = leNat m' off n := by
  induction n generalizing off with
  | zero => rfl
  | succ n ih =>
    rw [leNat, leNat, h off (by simp), ih (h.span (by omega) (by omega))]

theorem readU16_congr {m m' : Memory} {off : Nat} (h : Agree (span off 2) m m') :
    readU16 m off = readU16 m' off := by rw [readU16, readU16, leNat_congr h]

theorem readU32_congr {m m' : Memory} {off : Nat} (h : Agree (span off 4) m m') :
    readU32 m off = readU32 m' off := by rw [readU32, readU32, leNat_congr h]

theorem readU64_congr {m m' : Memory} {off : Nat} (h : Agree (span off 8) m m') :
    readU64 m off = readU64 m' off := by rw [readU64, readU64, leNat_congr h]

theorem readU8s_congr {m m' : Memory} {off n : Nat} (h : Agree (span off n) m m') :
    readU8s m off n = readU8s m' off n := by
  unfold readU8s
  congr 1
  funext i
  exact h (off + i) (by rw [mem_span]; omega)

theorem readU16s_congr {m m' : Memory} {off n : Nat} (h : Agree (span off (2 * n)) m m') :
    readU16s m off n = readU16s m' off n := by
  unfold readU16s
  congr 1
  funext i
  exact readU16_congr (h.span (by omega) (by omega))

theorem readU32s_congr {m m' : Memory} {off n : Nat} (h : Agree (span off (4 * n)) m m') :
    readU32s m off n = readU32s m' off n := by
  unfold readU32s
  congr 1
  funext i
  exact readU32_congr (h.span (by omega) (by omega))

/-! ## Written bytes -/

/-- The `n` bytes of the number `v`, little-endian. -/
def leBytes : Nat → Nat → List UInt8
  | 0, _ => []
  | n + 1, v => UInt8.ofNat v :: leBytes n (v / 256)

def bytesU16 (v : UInt16) : List UInt8 := leBytes 2 v.toNat
def bytesU32 (v : UInt32) : List UInt8 := leBytes 4 v.toNat
def bytesU64 (v : UInt64) : List UInt8 := leBytes 8 v.toNat

def bytesU16s {n : Nat} (v : Vector UInt16 n) : List UInt8 := v.toList.flatMap bytesU16
def bytesU32s {n : Nat} (v : Vector UInt32 n) : List UInt8 := v.toList.flatMap bytesU32

@[simp] theorem length_leBytes (n v : Nat) : (leBytes n v).length = n := by
  induction n generalizing v with
  | zero => rfl
  | succ n ih => rw [leBytes, List.length_cons, ih]

@[simp] theorem length_bytesU16 (v : UInt16) : (bytesU16 v).length = 2 := length_leBytes 2 v.toNat
@[simp] theorem length_bytesU32 (v : UInt32) : (bytesU32 v).length = 4 := length_leBytes 4 v.toNat
@[simp] theorem length_bytesU64 (v : UInt64) : (bytesU64 v).length = 8 := length_leBytes 8 v.toNat

theorem length_flatMap_const {α : Type*} {f : α → List UInt8} {k : Nat} (hk : ∀ x, (f x).length = k)
    (l : List α) : (l.flatMap f).length = k * l.length := by
  induction l with
  | nil => rfl
  | cons x xs ih => rw [List.flatMap_cons, List.length_append, hk, ih, List.length_cons]; ring

@[simp] theorem length_bytesU16s {n : Nat} (v : Vector UInt16 n) : (bytesU16s v).length = 2 * n := by
  rw [bytesU16s, length_flatMap_const length_bytesU16, Vector.length_toList]

@[simp] theorem length_bytesU32s {n : Nat} (v : Vector UInt32 n) : (bytesU32s v).length = 4 * n := by
  rw [bytesU32s, length_flatMap_const length_bytesU32, Vector.length_toList]

/-- The memory holds the bytes at `off`. -/
def Holds (m : Memory) (off : Nat) : List UInt8 → Prop
  | [] => True
  | b :: bs => m off = b ∧ Holds m (off + 1) bs

instance instDecidableHolds (m : Memory) : ∀ (off : Nat) (bs : List UInt8), Decidable (Holds m off bs)
  | _, [] => isTrue trivial
  | off, _ :: bs =>
    have : Decidable (Holds m (off + 1) bs) := instDecidableHolds m (off + 1) bs
    inferInstanceAs (Decidable (_ ∧ _))

theorem holds_append {m : Memory} {off : Nat} {bs cs : List UInt8} :
    Holds m off (bs ++ cs) ↔ Holds m off bs ∧ Holds m (off + bs.length) cs := by
  induction bs generalizing off with
  | nil => simp [Holds]
  | cons b bs ih =>
    rw [List.cons_append, Holds, Holds, ih, List.length_cons, and_assoc,
      show off + 1 + bs.length = off + (bs.length + 1) by omega]

theorem leNat_of_holds {m : Memory} {off n v : Nat} (h : Holds m off (leBytes n v)) :
    leNat m off n = v % 256 ^ n := by
  induction n generalizing off v with
  | zero => rw [leNat, Nat.pow_zero, Nat.mod_one]
  | succ n ih =>
    obtain ⟨hb, hrest⟩ := h
    have hpow : 256 ^ (n + 1) = 256 * 256 ^ n := Nat.pow_succ'
    rw [leNat, hb, ih hrest, UInt8.toNat_ofNat', hpow, Nat.mod_mul]

/-- The memory `m` with the bytes `bs` written at its start. -/
def overlay (bs : List UInt8) (m : Memory) : Memory := fun off => bs.getD off (m off)

theorem holds_of_getElem {m : Memory} {off : Nat} {bs : List UInt8}
    (h : ∀ i (hi : i < bs.length), m (off + i) = bs[i]) : Holds m off bs := by
  induction bs generalizing off with
  | nil => trivial
  | cons b bs ih =>
    refine ⟨h 0 (Nat.succ_pos _), ih fun i hi => ?_⟩
    have hnext := h (i + 1) (Nat.succ_lt_succ hi)
    rwa [← Nat.add_assoc, Nat.add_right_comm] at hnext

theorem holds_overlay (bs : List UInt8) (m : Memory) : Holds (overlay bs m) 0 bs := by
  apply holds_of_getElem
  intro i hi
  rw [Nat.zero_add, overlay, List.getD_eq_getElem?_getD, List.getElem?_eq_getElem hi, Option.getD_some]

theorem getElem_of_holds {m : Memory} {off : Nat} {bs : List UInt8} (h : Holds m off bs) {i : Nat}
    (hi : i < bs.length) : m (off + i) = bs[i] := by
  induction bs generalizing off i with
  | nil => exact absurd hi (Nat.not_lt_zero i)
  | cons b bs ih =>
    cases i with
    | zero => exact h.1
    | succ i =>
      rw [show off + (i + 1) = off + 1 + i by omega]
      exact ih h.2 (by simpa using hi)

theorem holds_flatMap {α : Type*} {f : α → List UInt8} {k : Nat} (hk : ∀ x, (f x).length = k)
    {m : Memory} {off : Nat} {l : List α} (h : Holds m off (l.flatMap f)) {i : Nat}
    (hi : i < l.length) : Holds m (off + k * i) (f l[i]) := by
  induction l generalizing off i with
  | nil => exact absurd hi (Nat.not_lt_zero i)
  | cons x xs ih =>
    rw [List.flatMap_cons, holds_append, hk] at h
    cases i with
    | zero => exact h.1
    | succ i =>
      rw [show off + k * (i + 1) = off + k + k * i by ring]
      exact ih h.2 (by simpa using hi)

/-! Written numbers and arrays are read back. -/

theorem readU8_of_holds {m : Memory} {off : Nat} {v : UInt8} (h : Holds m off [v]) :
    readU8 m off = v := h.1

theorem readU16_of_holds {m : Memory} {off : Nat} {v : UInt16} (h : Holds m off (bytesU16 v)) :
    readU16 m off = v := by
  have hlt : v.toNat < 256 ^ 2 := v.toNat_lt
  rw [readU16, leNat_of_holds h, Nat.mod_eq_of_lt hlt, UInt16.ofNat_toNat]

theorem readU32_of_holds {m : Memory} {off : Nat} {v : UInt32} (h : Holds m off (bytesU32 v)) :
    readU32 m off = v := by
  have hlt : v.toNat < 256 ^ 4 := v.toNat_lt
  rw [readU32, leNat_of_holds h, Nat.mod_eq_of_lt hlt, UInt32.ofNat_toNat]

theorem readU64_of_holds {m : Memory} {off : Nat} {v : UInt64} (h : Holds m off (bytesU64 v)) :
    readU64 m off = v := by
  have hlt : v.toNat < 256 ^ 8 := v.toNat_lt
  rw [readU64, leNat_of_holds h, Nat.mod_eq_of_lt hlt, UInt64.ofNat_toNat]

theorem readU8s_of_holds {m : Memory} {off n : Nat} {v : Vector UInt8 n}
    (h : Holds m off v.toList) : readU8s m off n = v := by
  ext i hi
  rw [readU8s, Vector.getElem_ofFn, readU8, getElem_of_holds h (by simpa using hi),
    Vector.getElem_toList]

theorem readU16s_of_holds {m : Memory} {off n : Nat} {v : Vector UInt16 n}
    (h : Holds m off (bytesU16s v)) : readU16s m off n = v := by
  ext i hi
  have helem := holds_flatMap length_bytesU16 h (i := i) (by simpa using hi)
  rw [readU16s, Vector.getElem_ofFn, readU16_of_holds helem, Vector.getElem_toList]

theorem readU32s_of_holds {m : Memory} {off n : Nat} {v : Vector UInt32 n}
    (h : Holds m off (bytesU32s v)) : readU32s m off n = v := by
  ext i hi
  have helem := holds_flatMap length_bytesU32 h (i := i) (by simpa using hi)
  rw [readU32s, Vector.getElem_ofFn, readU32_of_holds helem, Vector.getElem_toList]

end Bytes
