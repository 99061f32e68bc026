import Mathlib.Data.List.Basic
import Mathlib.Data.UInt

/-!
# UTF-16

* `encodeChar`, `encode` : the code units of a character and of a text;
* `decode` : the strict decoder, which refuses a surrogate outside a pair;
* `decode_encode_append` : it reads an encoded text back, whatever follows;
* `Splits cs n` : a cut after `n` units of the text falls inside a surrogate pair; `decode_take_iff` says
  that these are the cuts which leave no text.
-/

namespace Utf16

def isLead (u : UInt16) : Bool := 0xD800 ≤ u && u < 0xDC00
def isTrail (u : UInt16) : Bool := 0xDC00 ≤ u && u < 0xE000

/-- The unit that is the character itself, or its surrogate pair. -/
def encodeChar (c : Char) : List UInt16 :=
  if c.toNat < 0x10000 then [UInt16.ofNat c.toNat]
  else
    let v := c.toNat - 0x10000
    [UInt16.ofNat (0xD800 + v / 0x400), UInt16.ofNat (0xDC00 + v % 0x400)]

def encode (cs : List Char) : List UInt16 := cs.flatMap encodeChar

/-- The character of a surrogate pair. -/
def pairChar (u v : UInt16) : Char :=
  Char.ofNat (0x10000 + (u.toNat - 0xD800) * 0x400 + (v.toNat - 0xDC00))

/-- The text of well-formed units. -/
def decode : List UInt16 → Option (List Char)
  | [] => some []
  | [u] => if isLead u || isTrail u then none else some [Char.ofNat u.toNat]
  | u :: v :: us =>
    if isLead u && isTrail v then (decode us).map (pairChar u v :: ·)
    else if isLead u || isTrail u then none
    else (decode (v :: us)).map (Char.ofNat u.toNat :: ·)

/-! ## One character -/

theorem toNat_range (c : Char) : c.toNat < 0xD800 ∨ 0xDFFF < c.toNat ∧ c.toNat < 0x110000 := c.valid

theorem encodeChar_of_lt {c : Char} (h : c.toNat < 0x10000) :
    encodeChar c = [UInt16.ofNat c.toNat] := if_pos h

theorem encodeChar_of_le {c : Char} (h : 0x10000 ≤ c.toNat) :
    encodeChar c = [UInt16.ofNat (0xD800 + (c.toNat - 0x10000) / 0x400),
      UInt16.ofNat (0xDC00 + (c.toNat - 0x10000) % 0x400)] := if_neg (Nat.not_lt.mpr h)

theorem isLead_ofNat {n : Nat} (h : n < 0x10000) :
    isLead (UInt16.ofNat n) = true ↔ 0xD800 ≤ n ∧ n < 0xDC00 := by
  rw [isLead, Bool.and_eq_true, decide_eq_true_iff, decide_eq_true_iff, UInt16.le_iff_toNat_le,
    UInt16.lt_iff_toNat_lt, UInt16.toNat_ofNat_of_lt' h]
  exact Iff.rfl

theorem isTrail_ofNat {n : Nat} (h : n < 0x10000) :
    isTrail (UInt16.ofNat n) = true ↔ 0xDC00 ≤ n ∧ n < 0xE000 := by
  rw [isTrail, Bool.and_eq_true, decide_eq_true_iff, decide_eq_true_iff, UInt16.le_iff_toNat_le,
    UInt16.lt_iff_toNat_lt, UInt16.toNat_ofNat_of_lt' h]
  exact Iff.rfl

theorem decode_cons_of_not_surrogate {u : UInt16} (hl : isLead u = false) (ht : isTrail u = false)
    (us : List UInt16) : decode (u :: us) = (decode us).map (Char.ofNat u.toNat :: ·) := by
  cases us with
  | nil => simp [decode, hl, ht]
  | cons v us => simp [decode, hl, ht]

theorem decode_lead {u : UInt16} (h : isLead u = true) : decode [u] = none := by
  rw [decode, h, Bool.true_or, if_pos rfl]

/-- The decoder takes the units of one character off the front. -/
theorem decode_encodeChar_append (c : Char) (us : List UInt16) :
    decode (encodeChar c ++ us) = (decode us).map (c :: ·) := by
  have hrange := toNat_range c
  rcases Nat.lt_or_ge c.toNat 0x10000 with hlt | hge
  · have hl : isLead (UInt16.ofNat c.toNat) = false := by
      rw [Bool.eq_false_iff, Ne, isLead_ofNat hlt]
      omega
    have ht : isTrail (UInt16.ofNat c.toNat) = false := by
      rw [Bool.eq_false_iff, Ne, isTrail_ofNat hlt]
      omega
    rw [encodeChar_of_lt hlt, List.singleton_append, decode_cons_of_not_surrogate hl ht,
      UInt16.toNat_ofNat_of_lt' hlt, Char.ofNat_toNat]
  · have hlead : 0xD800 + (c.toNat - 0x10000) / 0x400 < 0x10000 := by omega
    have htrail : 0xDC00 + (c.toNat - 0x10000) % 0x400 < 0x10000 := by omega
    have hl := (isLead_ofNat hlead).mpr (by omega)
    have ht := (isTrail_ofNat htrail).mpr (by omega)
    have hchar : pairChar (UInt16.ofNat (0xD800 + (c.toNat - 0x10000) / 0x400))
        (UInt16.ofNat (0xDC00 + (c.toNat - 0x10000) % 0x400)) = c := by
      rw [pairChar, UInt16.toNat_ofNat_of_lt' hlead, UInt16.toNat_ofNat_of_lt' htrail,
        show 0x10000 + (0xD800 + (c.toNat - 0x10000) / 0x400 - 0xD800) * 0x400 +
          (0xDC00 + (c.toNat - 0x10000) % 0x400 - 0xDC00) = c.toNat by omega, Char.ofNat_toNat]
    rw [encodeChar_of_le hge, List.cons_append, List.singleton_append, decode, hl, ht, hchar]
    rfl

/-! ## Texts -/

@[simp] theorem encode_nil : encode [] = [] := rfl

@[simp] theorem encode_cons (c : Char) (cs : List Char) :
    encode (c :: cs) = encodeChar c ++ encode cs := List.flatMap_cons

theorem decode_encode (cs : List Char) : decode (encode cs) = some cs := by
  induction cs with
  | nil => rfl
  | cons c cs ih => rw [encode_cons, decode_encodeChar_append, ih, Option.map_some]

/-- The text has a character outside the basic plane whose first unit is the `n`-th. -/
def Splits (cs : List Char) (n : Nat) : Prop :=
  ∃ pre c post, cs = pre ++ c :: post ∧ 0x10000 ≤ c.toNat ∧ (encode pre).length + 1 = n

theorem not_splits_nil (n : Nat) : ¬ Splits [] n := by
  rintro ⟨pre, c, post, h, -⟩
  simp at h

theorem splits_cons_iff {c : Char} {cs : List Char} {n : Nat} (h : (encodeChar c).length ≤ n) :
    Splits (c :: cs) n ↔ Splits cs (n - (encodeChar c).length) := by
  constructor
  · rintro ⟨_ | ⟨c', pre⟩, d, post, heq, hd, hn⟩
    · -- the cut would lie inside the first character
      obtain ⟨rfl, rfl⟩ := List.cons.inj heq
      rw [encodeChar_of_le hd] at h
      simp at h hn
      omega
    · obtain ⟨rfl, rfl⟩ := List.cons.inj heq
      refine ⟨pre, d, post, rfl, hd, ?_⟩
      rw [encode_cons, List.length_append] at hn
      omega
  · rintro ⟨pre, d, post, rfl, hd, hn⟩
    refine ⟨c :: pre, d, post, rfl, hd, ?_⟩
    rw [encode_cons, List.length_append]
    omega

/-- **A cut leaves the text of a prefix unless it splits a surrogate pair.** -/
theorem decode_take_iff (cs : List Char) (n : Nat) :
    (∃ pre, decode ((encode cs).take n) = some pre ∧ pre <+: cs) ↔ ¬ Splits cs n := by
  induction cs generalizing n with
  | nil =>
    rw [encode_nil, List.take_nil]
    exact iff_of_true ⟨[], rfl, List.prefix_refl []⟩ (not_splits_nil n)
  | cons c cs ih =>
    rw [encode_cons]
    rcases Nat.lt_or_ge n (encodeChar c).length with hlt | hge
    · rcases Nat.eq_zero_or_pos n with rfl | hpos
      · rw [List.take_zero]
        refine iff_of_true ⟨[], rfl, List.nil_prefix⟩ ?_
        rintro ⟨pre, d, post, -, -, hn⟩
        omega
      · -- one unit of a pair
        have hge : 0x10000 ≤ c.toNat := by
          by_contra hc
          rw [encodeChar_of_lt (by omega), List.length_singleton] at hlt
          omega
        have hrange := toNat_range c
        rw [encodeChar_of_le hge] at hlt ⊢
        have hone : n = 1 := by
          simp at hlt
          omega
        subst hone
        have hl := (isLead_ofNat (n := 0xD800 + (c.toNat - 0x10000) / 0x400) (by omega)).mpr
          (by omega)
        refine iff_of_false ?_ (not_not.mpr ⟨[], c, cs, rfl, hge, rfl⟩)
        rintro ⟨pre, h, -⟩
        rw [List.cons_append, List.take_succ_cons, List.take_zero, decode_lead hl] at h
        cases h
    · rw [splits_cons_iff hge, ← ih, List.take_append, List.take_of_length_le hge,
        decode_encodeChar_append]
      constructor
      · rintro ⟨pre, h, hpre⟩
        obtain ⟨pre', h', rfl⟩ := Option.map_eq_some_iff.mp h
        exact ⟨pre', h', (List.cons_prefix_cons.mp hpre).2⟩
      · rintro ⟨pre, h, hpre⟩
        exact ⟨c :: pre, by rw [h, Option.map_some], List.cons_prefix_cons.mpr ⟨rfl, hpre⟩⟩

end Utf16
