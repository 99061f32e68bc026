import Guardian.Client.Types
import Guardian.Lib.Utf16
import Mathlib.Data.Set.Function

/-!
# Executable paths of the usermode client (`types.rs`)

* `widePathBytes` : the array of UTF-16 units of a path and their number, cut at the size of the array;
  `widePathBytes_units` says which units it keeps;
* `AppPolicyV1.newBlock` : the Block policy of a path;
* `FaithfulPrefix` : the kept units are the text of a prefix of the path;
* `faithfulPrefix_iff` : so it is unless the cut splits a surrogate pair.
-/

namespace Guardian.Client

/-- `path.encode_utf16()` -/
def pathUnits (path : String) : List UInt16 := Utf16.encode path.toList

def widePathBytes (path : String) : Vector UInt16 guardianMaxExePathChars × UInt32 :=
  let units := pathUnits path
  let len := min units.length guardianMaxExePathChars
  (Vector.ofFn fun i => if i.val < len then units.getD i.val 0 else 0, UInt32.ofNat len)

def guardianAppPolicyVersion : UInt32 := 1
def guardianPolicyActionBlock : UInt32 := 1
def guardianPolicyMatchKindProcessPath : UInt32 := 1

/-- `GuardianAppPolicyV1::new_block`; `appId` are the bytes of the UUID. -/
def AppPolicyV1.newBlock (appId : Vector UInt8 16) (exePath : String) : AppPolicyV1 :=
  let (exePathBuf, len) := widePathBytes exePath
  { version := guardianAppPolicyVersion
    appId := appId
    action := guardianPolicyActionBlock
    matchKind := guardianPolicyMatchKindProcessPath
    exePathLengthChars := len
    exePath := exePathBuf
    exeHashSha256 := Vector.replicate guardianSha256Bytes 0
    sidLengthBytes := 0
    sidBytes := Vector.replicate guardianMaxSidBytes 0
    packageFamilyName := Vector.replicate guardianMaxPackageFamilyChars 0
    profileId := 0
    interfaceLuid := 0 }

/-- The units of the array that carry the path. -/
def keptUnits (path : String) : List UInt16 :=
  (widePathBytes path).1.toList.take (widePathBytes path).2.toNat

theorem widePathBytes_len (path : String) :
    (widePathBytes path).2.toNat = min (pathUnits path).length guardianMaxExePathChars := by
  have hle : min (pathUnits path).length guardianMaxExePathChars ≤ 520 := Nat.min_le_right _ _
  exact UInt32.toNat_ofNat_of_lt' (by rw [UInt32.size]; omega)

theorem widePathBytes_units (path : String) :
    keptUnits path = (pathUnits path).take guardianMaxExePathChars := by
  have hlen := widePathBytes_len path
  apply List.ext_getElem
  · rw [keptUnits, List.length_take, List.length_take, Vector.length_toList, hlen]
    omega
  · intro i hi hi'
    rw [List.length_take] at hi'
    have hlt : i < min (pathUnits path).length guardianMaxExePathChars := by omega
    simp only [keptUnits, List.getElem_take, Vector.getElem_toList, widePathBytes,
      Vector.getElem_ofFn, if_pos hlt]
    rw [List.getD_eq_getElem?_getD, List.getElem?_eq_getElem (by omega), Option.getD_some]

theorem widePathBytes_padding {path : String} {i : Nat} (h : i < guardianMaxExePathChars)
    (hlen : (widePathBytes path).2.toNat ≤ i) : (widePathBytes path).1[i] = 0 := by
  rw [widePathBytes_len] at hlen
  simp only [widePathBytes, Vector.getElem_ofFn, if_neg (Nat.not_lt.mpr hlen)]

/-- The array is bounded and padded with zeros, and its units are the text of a prefix of the path: of
all of it where it fits. -/
structure FaithfulPrefix (path : String) : Prop where
  bounded : (widePathBytes path).2.toNat ≤ guardianMaxExePathChars
  padded : ∀ i (h : i < guardianMaxExePathChars),
    (widePathBytes path).2.toNat ≤ i → (widePathBytes path).1[i] = 0
  decoded : ∃ text, Utf16.decode (keptUnits path) = some text ∧ text <+: path.toList ∧
    ((pathUnits path).length ≤ guardianMaxExePathChars → text = path.toList)

/-- A character of two units starts at the last unit of the array. -/
def CutsPair (path : String) : Prop := Utf16.Splits path.toList guardianMaxExePathChars

theorem decode_keptUnits {path : String} (h : (pathUnits path).length ≤ guardianMaxExePathChars) :
    Utf16.decode (keptUnits path) = some path.toList := by
  rw [widePathBytes_units, List.take_of_length_le h, pathUnits, Utf16.decode_encode]

theorem faithfulPrefix_iff (path : String) : FaithfulPrefix path ↔ ¬ CutsPair path := by
  rw [CutsPair, ← Utf16.decode_take_iff]
  change _ ↔ ∃ text, Utf16.decode ((pathUnits path).take _) = some text ∧ text <+: path.toList
  rw [← widePathBytes_units]
  constructor
  · intro h
    obtain ⟨text, htext, hpre, -⟩ := h.decoded
    exact ⟨text, htext, hpre⟩
  · rintro ⟨text, htext, hpre⟩
    refine ⟨?_, fun i h hlen => widePathBytes_padding h hlen, text, htext, hpre, ?_⟩
    · rw [widePathBytes_len]
      exact Nat.min_le_right _ _
    · intro hfits
      rw [decode_keptUnits hfits] at htext
      exact (Option.some.inj htext).symm

theorem widePathBytes_injOn :
    Set.InjOn widePathBytes {path | (pathUnits path).length ≤ guardianMaxExePathChars} := by
  intro path hfits path' hfits' heq
  have hunits : keptUnits path = keptUnits path' := by rw [keptUnits, heq, keptUnits]
  have htext := decode_keptUnits hfits
  rw [hunits, decode_keptUnits hfits'] at htext
  exact String.toList_injective (Option.some.inj htext).symm

/-- **Which paths are encoded faithfully**: all whose cut does not split a surrogate pair, those that
fit among them; these are told apart. -/
theorem widePathBytes_faithful_iff (path : String) :
    (FaithfulPrefix path ↔ ¬ CutsPair path) ∧
    Set.InjOn widePathBytes {path | (pathUnits path).length ≤ guardianMaxExePathChars} :=
  ⟨faithfulPrefix_iff path, widePathBytes_injOn⟩

/-- A path of 519 letters and a character outside the basic plane. -/
def longPath : String := String.ofList (List.replicate 519 'a' ++ [Char.ofNat 0x10000])

theorem not_forall_faithfulPrefix : ¬ ∀ path, FaithfulPrefix path := by
  intro h
  apply (faithfulPrefix_iff longPath).mp (h longPath)
  refine ⟨List.replicate 519 'a', Char.ofNat 0x10000, [], String.toList_ofList, by decide, ?_⟩
  rw [Utf16.encode, List.length_flatMap, List.map_replicate, List.sum_replicate_nat]
  rfl

end Guardian.Client
