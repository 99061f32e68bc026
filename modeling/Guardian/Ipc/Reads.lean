import Guardian.Ipc.Dispatch

/-!
# The input bytes that a request reads

* `RecordLayout` : how the records of a table lie in a buffer; `appPolicyLayout`, `routeLayout`;
* `loopReads`, `validatorReads`, `handlerReads` : the offsets that the insertion loop of a Sync, the
  validation and the handlers read;
* `ioctlHandler_congr` : a handler depends on no other byte.
-/

namespace Guardian
open Bytes

/-! ## Layouts -/

/-- The place of a record in a buffer: it reads its own `size` bytes, beginning with the version. -/
structure RecordLayout {α : Type} (kind : RecordKind α) where
  read : Memory → Nat → α
  size : Nat
  four_le_size : 4 ≤ size
  version_read : ∀ m off, kind.version (read m off) = readU32 m off
  read_congr : ∀ {m m' off}, Agree (span off size) m m' → read m off = read m' off

theorem AppPolicyV1.read_congr {m m' : Memory} {off : Nat}
    (h : Agree (span off AppPolicyV1.size) m m') : AppPolicyV1.read m off = AppPolicyV1.read m' off := by
  have hs : ∀ {o n}, off ≤ o → o + n ≤ off + 1448 → Agree (span o n) m m' := fun hl hr => h.span hl hr
  unfold AppPolicyV1.read
  rw [readU32_congr (hs (by omega) (by omega)), readU8s_congr (hs (by omega) (by omega)),
    readU32_congr (hs (by omega) (by omega)), readU32_congr (hs (by omega) (by omega)),
    readU32_congr (hs (by omega) (by omega)),
    readU16s_congr (hs (by omega) (by simp only [maxExePathChars]; omega)),
    readU8s_congr (hs (by omega) (by simp only [sha256Bytes]; omega)),
    readU32_congr (hs (by omega) (by omega)),
    readU8s_congr (hs (by omega) (by simp only [maxSidBytes]; omega)),
    readU16s_congr (hs (by omega) (by simp only [maxPackageFamilyChars]; omega)),
    readU64_congr (hs (by omega) (by omega)), readU64_congr (hs (by omega) (by omega))]

theorem RouteAssignmentV1.read_congr {m m' : Memory} {off : Nat}
    (h : Agree (span off RouteAssignmentV1.size) m m') :
    RouteAssignmentV1.read m off = RouteAssignmentV1.read m' off := by
  have hs : ∀ {o n}, off ≤ o → o + n ≤ off + 48 → Agree (span o n) m m' := fun hl hr => h.span hl hr
  unfold RouteAssignmentV1.read
  rw [readU32_congr (hs (by omega) (by omega)), readU8s_congr (hs (by omega) (by omega)),
    readU32_congr (hs (by omega) (by omega)), readU64_congr (hs (by omega) (by omega)),
    readU64_congr (hs (by omega) (by omega)), readU16_congr (hs (by omega) (by omega)),
    readU8s_congr (hs (by omega) (by omega))]

def appPolicyLayout : RecordLayout appPolicyKind where
  read := AppPolicyV1.read
  size := AppPolicyV1.size
  four_le_size := by decide
  version_read _ _ := rfl
  read_congr := AppPolicyV1.read_congr

def routeLayout : RecordLayout routeKind where
  read := RouteAssignmentV1.read
  size := RouteAssignmentV1.size
  four_le_size := by decide
  version_read _ _ := rfl
  read_congr := RouteAssignmentV1.read_congr

/-! ## Reads -/

section

variable {α : Type} {kind : RecordKind α} (L : RecordLayout kind)

/-- What a Set reads of the record at `off`: the version, and the whole record to copy it. -/
def setReads (m : Memory) (alloc : Bool) (off : Nat) : List Nat :=
  span off 4 ++
    if readU32 m off = kind.supportedVersion ∧ alloc = true then span off L.size else []

/-- The offset of the `i`-th element behind a sync header. -/
def RecordLayout.element (i : Nat) : Nat := syncHeaderSize + L.size * i

/-- What the insertion loop reads from index `i` on, with `n` elements to go; it ends at the first
failing Set. -/
def loopReads (m : Memory) (alloc : Nat → Bool) : Nat → Nat → Table α → List Nat
  | _, 0, _ => []
  | i, n + 1, t =>
    let r := Table.set kind (some (L.read m (L.element i))) (alloc i) t
    setReads L m (alloc i) (L.element i) ++
      if ntSuccess r.1 then loopReads m alloc (i + 1) n r.2 else []

/-- What a Sync of the buffer reads: the count, and what the loop reads. -/
def syncReads (m : Memory) (alloc : Nat → Bool) : List Nat :=
  span 4 4 ++
    if (syncCount m).toNat > kind.maxSync then []
    else loopReads L m alloc 0 (syncCount m).toNat Table.fresh

end

/-- What `GuardianValidateIoctlBuffer` reads: the count of a Sync, if the buffer has room for it. -/
def validatorReads (ioControlCode : UInt32) (inputLength outputLength : Nat)
    (inputBuffer : Option Memory) : List Nat :=
  if inputLength > maxIoctlBuffer ∨ outputLength > maxIoctlBuffer then []
  else
    match IoctlCode.ofUInt32 ioControlCode with
    | some .syncPolicies => if inputBuffer.isNone ∨ inputLength < 4 * 2 then [] else span 4 4
    | some .syncRoutes => if inputBuffer.isNone ∨ inputLength < 4 * 2 then [] else span 4 4
    | _ => []

/-- What the handler of `code` reads, at most; where it does not test the pointer, it reads from
`NULL` as well. -/
def handlerReads (code : IoctlCode) (inputBuffer : Option Memory) (alloc : Nat → Bool) : List Nat :=
  match code, inputBuffer with
  | .setAppPolicy, some m => setReads appPolicyLayout m (alloc 0) 0
  | .syncPolicies, some m => syncReads appPolicyLayout m alloc
  | .syncPolicies, none => span 4 4
  | .setRoute, some m => setReads routeLayout m (alloc 0) 0
  | .clearRoute, _ => span 0 16
  | .syncRoutes, some m => syncReads routeLayout m alloc
  | .syncRoutes, none => span 4 4
  | .setKillSwitch, some _ => span 0 KillSwitchV1.size
  | .importState, some _ => span 0 StateBlobHeaderV1.size
  | .reconcile, some _ => span 4 4
  | .dnsSetConfig, some _ => span 0 DnsConfigV1.size
  | .setGuardianMode, _ => span 0 4
  | _, _ => []

/-! ## A handler depends on what it reads -/

section

variable {α : Type} {kind : RecordKind α} (L : RecordLayout kind)

/-- `n` consecutive elements from index `i` on. -/
def RecordLayout.elements (m : Memory) (i n : Nat) : List α :=
  (List.range' i n).map fun j => L.read m (L.element j)

theorem RecordLayout.elements_length (m : Memory) (i n : Nat) : (L.elements m i n).length = n := by
  rw [RecordLayout.elements, List.length_map, List.length_range']

theorem set_congr {m m' : Memory} {alloc : Bool} {off : Nat} (t : Table α)
    (h : Agree (setReads L m alloc off) m m') :
    Table.set kind (some (L.read m off)) alloc t = Table.set kind (some (L.read m' off)) alloc t := by
  have hver : readU32 m off = readU32 m' off := readU32_congr h.left
  by_cases hc : readU32 m off = kind.supportedVersion ∧ alloc = true
  · rw [setReads, if_pos hc] at h
    rw [L.read_congr h.right]
  · -- only the version has been looked at
    unfold Table.set
    simp only [L.version_read, ← hver]
    by_cases hv : readU32 m off = kind.supportedVersion
    · have ha : alloc = false := by simpa [hv] using hc
      simp only [hv, ha, ne_eq, not_true_eq_false, if_false, Bool.not_false, if_true]
    · simp only [hv, ne_eq, not_false_eq_true, if_true]

theorem syncLoop_congr {m m' : Memory} {alloc : Nat → Bool} {i n : Nat} {t : Table α}
    (h : Agree (loopReads L m alloc i n t) m m') :
    Table.syncLoop kind alloc i (L.elements m i n) t =
      Table.syncLoop kind alloc i (L.elements m' i n) t := by
  induction n generalizing i t with
  | zero => rfl
  | succ n ih =>
    rw [loopReads] at h
    have hset := set_congr L t h.left
    have hcons : ∀ m, L.elements m i (n + 1) = L.read m (L.element i) :: L.elements m (i + 1) n :=
      fun _ => rfl
    rw [hcons, hcons, Table.syncLoop, Table.syncLoop, ← hset]
    cases hs : ntSuccess (Table.set kind (some (L.read m (L.element i))) (alloc i) t).1 with
    | false => rfl
    | true =>
      simp only [hs, if_true] at h ⊢
      exact ih h.right

theorem sync_congr {m m' : Memory} {alloc : Nat → Bool} (t : Table α)
    (h : Agree (syncReads L m alloc) m m') :
    Table.sync kind (some (L.elements m 0 (syncCount m).toNat)) alloc t =
      Table.sync kind (some (L.elements m' 0 (syncCount m').toNat)) alloc t := by
  have hcount : syncCount m = syncCount m' := readU32_congr h.left
  rw [← hcount]
  by_cases hl : (syncCount m).toNat > kind.maxSync
  · rw [Table.sync_too_long kind (by rwa [L.elements_length]),
      Table.sync_too_long kind (by rwa [L.elements_length])]
  · rw [syncReads, if_neg hl] at h
    rw [Table.sync_taken kind (by rw [L.elements_length]; omega),
      Table.sync_taken kind (by rw [L.elements_length]; omega)]
    exact syncLoop_congr L h.right

end

theorem syncPolicies_eq (m : Memory) (count : UInt32) :
    syncPolicies m count = appPolicyLayout.elements m 0 count.toNat := by
  rw [syncPolicies, RecordLayout.elements, List.range_eq_range']
  rfl

theorem syncRoutes_eq (m : Memory) (count : UInt32) :
    syncRoutes m count = routeLayout.elements m 0 count.toNat := by
  rw [syncRoutes, RecordLayout.elements, List.range_eq_range']
  rfl

theorem KillSwitchV1.read_congr {m m' : Memory} (h : Agree (span 0 KillSwitchV1.size) m m') :
    KillSwitchV1.read m 0 = KillSwitchV1.read m' 0 := by
  have hs : ∀ {o n}, o + n ≤ 16 → Agree (span o n) m m' := fun hr =>
    h.span (Nat.zero_le _) (by simpa [KillSwitchV1.size] using hr)
  unfold KillSwitchV1.read
  rw [readU32_congr (hs (by omega)), readU32_congr (hs (by omega)), readU64_congr (hs (by omega))]

theorem StateBlobHeaderV1.read_congr {m m' : Memory}
    (h : Agree (span 0 StateBlobHeaderV1.size) m m') :
    StateBlobHeaderV1.read m 0 = StateBlobHeaderV1.read m' 0 := by
  have hs : ∀ {o n}, o + n ≤ 24 → Agree (span o n) m m' := fun hr =>
    h.span (Nat.zero_le _) (by simpa [StateBlobHeaderV1.size] using hr)
  unfold StateBlobHeaderV1.read
  rw [readU32_congr (hs (by omega)), readU32_congr (hs (by omega)), readU32_congr (hs (by omega)),
    readU32_congr (hs (by omega)), readU32_congr (hs (by omega)), readU32_congr (hs (by omega))]

theorem DnsConfigV1.read_congr {m m' : Memory} (h : Agree (span 0 DnsConfigV1.size) m m') :
    DnsConfigV1.read m 0 = DnsConfigV1.read m' 0 := by
  have hs : ∀ {o n}, o + n ≤ 82 → Agree (span o n) m m' := fun hr =>
    h.span (Nat.zero_le _) (by simpa [DnsConfigV1.size] using hr)
  have hu8 : ∀ {o}, o < 82 → readU8 m o = readU8 m' o := fun ho => h _ (by
    rw [mem_span, DnsConfigV1.size]
    omega)
  unfold DnsConfigV1.read
  rw [readU32_congr (hs (by omega)), readU32_congr (hs (by omega)), hu8 (by omega), hu8 (by omega),
    readU8s_congr (hs (by omega)), readU16_congr (hs (by omega)), readU32_congr (hs (by omega)),
    readU32s_congr (hs (by omega))]

/-- **A handler depends on no byte it is not listed to read.** -/
theorem ioctlHandler_congr {code : IoctlCode} {rq : IoctlRequest} {m m' : Memory}
    (h : Agree (handlerReads code (some m) rq.alloc) m m') (out : Bool) (g : Globals) :
    ioctlHandler code rq (some m) out g = ioctlHandler code rq (some m') out g := by
  cases code with
  | setAppPolicy =>
    have hset : appPolicySet (some (AppPolicyV1.read m 0)) (rq.alloc 0) g.policy =
        appPolicySet (some (AppPolicyV1.read m' 0)) (rq.alloc 0) g.policy :=
      set_congr appPolicyLayout g.policy h
    simp only [ioctlHandler, Option.map_some, hset]
  | syncPolicies =>
    have hsync := sync_congr appPolicyLayout g.policy h
    simp only [ioctlHandler, Option.map_some, appPolicySync, syncPolicies_eq, hsync]
  | setRoute =>
    have hset : routeSet (some (RouteAssignmentV1.read m 0)) (rq.alloc 0) g.route =
        routeSet (some (RouteAssignmentV1.read m' 0)) (rq.alloc 0) g.route :=
      set_congr routeLayout g.route h
    simp only [ioctlHandler, Option.map_some, hset]
  | clearRoute => simp only [ioctlHandler, readU8s_congr h]
  | syncRoutes =>
    have hsync := sync_congr routeLayout g.route h
    simp only [ioctlHandler, Option.map_some, routeSync, syncRoutes_eq, hsync]
  | setKillSwitch => simp only [ioctlHandler, Option.map_some, KillSwitchV1.read_congr h]
  | importState => simp only [ioctlHandler, Option.map_some, StateBlobHeaderV1.read_congr h]
  | reconcile => simp only [ioctlHandler, readU32_congr h]
  | dnsSetConfig => simp only [ioctlHandler, Option.map_some, DnsConfigV1.read_congr h]
  | setGuardianMode => simp only [ioctlHandler, readU32_congr h]
  | getDriverState => rfl
  | getTelemetry => rfl
  | exportState => rfl
  | getPerfStats => rfl
  | getDnsStats => rfl

end Guardian
