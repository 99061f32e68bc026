import Guardian.Ipc.Reads

/-!
# Requests that read inside their input buffer

* `Accepted` : the validation accepts the request and the required output fits;
* `IoctlCode.minInput`, `accepted_minInput`, `accepted_syncCount` : what acceptance guarantees;
* `loopReads_inBounds_iff` : the arrays whose Sync stays inside the buffer;
* `InputInBounds` : all reads of an accepted request lie inside the buffer, and its pointer is not
  `NULL`;
* `inputInBounds_iff` : these are all requests but Syncs that announce more elements than they carry
  and RECONCILE requests of fewer than 8 bytes.
-/

namespace Guardian
open Bytes

/-- The input pointer for a buffer of this length. -/
def bufferAt (inputLength : Nat) (m : Memory) : Option Memory :=
  if inputLength > 0 then some m else none

def Accepted (code : UInt32) (inputLength outputLength : Nat) (m : Memory) : Prop :=
  let v := validateIoctlBuffer code inputLength outputLength (bufferAt inputLength m)
  ntSuccess v.1 = true ∧ v.2 ≤ outputLength

instance (code : UInt32) (inputLength outputLength : Nat) (m : Memory) :
    Decidable (Accepted code inputLength outputLength m) := inferInstanceAs (Decidable (_ ∧ _))

/-- Every byte that the validation and the handler of an accepted request read lies inside the input
buffer, and the pointer they read through is not `NULL`. -/
def InputInBounds (code : UInt32) (inputLength outputLength : Nat) (m : Memory)
    (alloc : Nat → Bool) : Prop :=
  Accepted code inputLength outputLength m → ∀ c, IoctlCode.ofUInt32 code = some c →
    ∀ o ∈ validatorReads code inputLength outputLength (bufferAt inputLength m) ++
        handlerReads c (bufferAt inputLength m) alloc,
      o < inputLength ∧ (bufferAt inputLength m).isSome = true

/-! ## What acceptance guarantees -/

/-- The input length that the validation asks for. -/
def IoctlCode.minInput : IoctlCode → Nat
  | .setAppPolicy => AppPolicyV1.size
  | .syncPolicies => syncHeaderSize
  | .setRoute => RouteAssignmentV1.size
  | .clearRoute => 16
  | .syncRoutes => syncHeaderSize
  | .setKillSwitch => KillSwitchV1.size
  | .importState => StateBlobHeaderV1.size
  | .dnsSetConfig => DnsConfigV1.size
  | .setGuardianMode => 4
  | _ => 0

section

variable {code : UInt32} {c : IoctlCode} {inputLength outputLength : Nat} {m : Memory}

theorem accepted_minInput (hc : IoctlCode.ofUInt32 code = some c)
    (h : Accepted code inputLength outputLength m) : c.minInput ≤ inputLength := by
  have hs := validateIoctlBuffer_success hc h.1
  cases c with
  | syncPolicies | syncRoutes =>
    obtain ⟨_, -, hlen, -⟩ := requireSync_success hs
    exact hlen
  | setAppPolicy | setRoute | clearRoute | setKillSwitch | importState | dnsSetConfig
  | setGuardianMode =>
    exact (requireInput_success hs).2
  | _ => exact Nat.zero_le _

theorem eq_of_bufferAt {input : Memory} (h : bufferAt inputLength m = some input) : input = m := by
  unfold bufferAt at h
  split at h
  · exact (Option.some.inj h).symm
  · cases h

theorem accepted_syncCount (h : Accepted code inputLength outputLength m) :
    (IoctlCode.ofUInt32 code = some .syncPolicies → (syncCount m).toNat ≤ maxSyncPolicies) ∧
      (IoctlCode.ofUInt32 code = some .syncRoutes → (syncCount m).toNat ≤ maxSyncRoutes) := by
  constructor
  · intro hc
    obtain ⟨input, hin, -, hcount⟩ := requireSync_success (validateIoctlBuffer_success hc h.1)
    rwa [eq_of_bufferAt hin] at hcount
  · intro hc
    obtain ⟨input, hin, -, hcount⟩ := requireSync_success (validateIoctlBuffer_success hc h.1)
    rwa [eq_of_bufferAt hin] at hcount

end

/-! ## The loop of a Sync -/

theorem forall_span_lt {off n len : Nat} (hn : 0 < n) :
    (∀ o ∈ span off n, o < len) ↔ off + n ≤ len := by
  constructor
  · intro h
    have := h (off + n - 1) (mem_span.mpr (by omega))
    omega
  · intro h o ho
    have := mem_span.mp ho
    omega

section

variable {α : Type} {kind : RecordKind α} (L : RecordLayout kind)

theorem RecordLayout.element_succ (i : Nat) : L.element (i + 1) = L.element i + L.size := by
  rw [RecordLayout.element, RecordLayout.element, Nat.mul_succ, Nat.add_assoc]

theorem RecordLayout.element_mono {i j : Nat} (h : i ≤ j) : L.element i ≤ L.element j :=
  Nat.add_le_add_left (Nat.mul_le_mul_left _ h) _

/-- The elements from `i` to `n` lie inside the buffer, or one of them ends the Sync before its end:
its version does and is not the supported one. -/
def RecordLayout.FitsFrom (m : Memory) (len i n : Nat) : Prop :=
  L.element n ≤ len ∨
    ∃ j, i ≤ j ∧ j < n ∧ L.element j + 4 ≤ len ∧ readU32 m (L.element j) ≠ kind.supportedVersion

variable {L}

theorem RecordLayout.FitsFrom.element_le {m : Memory} {len i n : Nat} (h : L.FitsFrom m len i n)
    (hi : i ≤ n) : L.element i ≤ len := by
  rcases h with h | ⟨j, hij, -, hj, -⟩
  · have := L.element_mono hi
    omega
  · have := L.element_mono hij
    omega

theorem RecordLayout.FitsFrom.version_le {m : Memory} {len i n : Nat} (h : L.FitsFrom m len i n)
    (hi : i < n) : L.element i + 4 ≤ len := by
  have hsize := L.four_le_size
  have hsucc := L.element_succ i
  rcases h with h | ⟨j, hij, -, hj, -⟩
  · have hnext : L.element (i + 1) ≤ L.element n := L.element_mono hi
    omega
  · have := L.element_mono hij
    omega

theorem RecordLayout.FitsFrom.tail {m : Memory} {len i n : Nat} (h : L.FitsFrom m len i n)
    (hv : readU32 m (L.element i) = kind.supportedVersion) : L.FitsFrom m len (i + 1) n := by
  rcases h with h | ⟨j, hij, hj⟩
  · exact Or.inl h
  · rcases Nat.lt_or_eq_of_le hij with hlt | rfl
    · exact Or.inr ⟨j, hlt, hj⟩
    · exact absurd hv hj.2.2

theorem RecordLayout.FitsFrom.of_tail {m : Memory} {len i n : Nat}
    (h : L.FitsFrom m len (i + 1) n) : L.FitsFrom m len i n := by
  rcases h with h | ⟨j, hij, hj⟩
  · exact Or.inl h
  · exact Or.inr ⟨j, by omega, hj⟩

/-- If a loop that finds memory for every element stays inside the buffer, its elements fit. -/
theorem fitsFrom_of_inBounds {m : Memory} {len n i : Nat} {t : Table α} (hval : Table.Valid kind t)
    (hroom : t.list.length + n ≤ kind.maxEntries.toNat) (hi : L.element i ≤ len)
    (h : ∀ o ∈ loopReads L m (fun _ => true) i n t, o < len) : L.FitsFrom m len i (i + n) := by
  induction n generalizing i t with
  | zero => exact Or.inl hi
  | succ n ih =>
    rw [loopReads] at h
    simp only [setReads, List.mem_append] at h
    have hfour : L.element i + 4 ≤ len :=
      (forall_span_lt (by omega)).mp fun o ho => h o (Or.inl (Or.inl ho))
    by_cases hv : readU32 m (L.element i) = kind.supportedVersion
    · have hacc : Table.Accepts kind (L.read m (L.element i)) true t := by
        refine ⟨(L.version_read m _).trans hv, rfl, Or.inr ?_⟩
        rw [UInt32.lt_iff_toNat_lt, hval.count_eq]
        omega
      have hnext := Table.valid_set kind hval (some (L.read m (L.element i))) true
      have hlen := KeyedList.length_upsert_le kind.appId (L.read m (L.element i)) t.list
      have hok := (Table.ntSuccess_set_iff kind).mpr hacc
      have hsize := L.four_le_size
      have hwhole : L.element (i + 1) ≤ len := by
        rw [L.element_succ]
        apply (forall_span_lt (by omega)).mp
        intro o ho
        apply h o
        rw [if_pos ⟨hv, trivial⟩]
        exact Or.inl (Or.inr ho)
      have hlater : ∀ o ∈ loopReads L m (fun _ => true) (i + 1) n
          (Table.set kind (some (L.read m (L.element i))) true t).2, o < len := by
        intro o ho
        apply h o
        rw [hok, if_pos rfl]
        exact Or.inr ho
      have hleft : (Table.set kind (some (L.read m (L.element i))) true t).2.list.length + n ≤
          kind.maxEntries.toNat := by
        rw [Table.set_accepted kind hacc]
        simp only
        omega
      have hrest := ih (i := i + 1) hnext hleft hwhole hlater
      rw [show i + 1 + n = i + (n + 1) by omega] at hrest
      exact hrest.of_tail
    · exact Or.inr ⟨i, Nat.le_refl _, by omega, hfour, hv⟩

/-- If its elements fit, the loop stays inside the buffer whatever memory it finds. -/
theorem inBounds_of_fitsFrom {m : Memory} {alloc : Nat → Bool} {len n i : Nat} {t : Table α}
    (h : L.FitsFrom m len i (i + n)) : ∀ o ∈ loopReads L m alloc i n t, o < len := by
  induction n generalizing i t with
  | zero => exact fun o ho => absurd ho List.not_mem_nil
  | succ n ih =>
    have hsize := L.four_le_size
    have hfour := h.version_le (show i < i + (n + 1) by omega)
    have hnext : readU32 m (L.element i) = kind.supportedVersion →
        L.FitsFrom m len (i + 1) (i + 1 + n) := by
      intro hv
      rw [show i + 1 + n = i + (n + 1) by omega]
      exact h.tail hv
    have hwhole : readU32 m (L.element i) = kind.supportedVersion →
        L.element i + L.size ≤ len := by
      intro hv
      rw [← L.element_succ]
      exact (hnext hv).element_le (by omega)
    intro o ho
    rw [loopReads] at ho
    simp only [setReads, List.mem_append] at ho
    rcases ho with (ho | ho) | ho
    · exact (forall_span_lt (by omega)).mpr hfour o ho
    · split at ho
      · next hc => exact (forall_span_lt (by omega)).mpr (hwhole hc.1) o ho
      · exact absurd ho List.not_mem_nil
    · split at ho
      · next hs =>
        have hacc := (Table.ntSuccess_set_iff kind).mp hs
        exact ih (hnext ((L.version_read m _).symm.trans hacc.1)) o ho
      · exact absurd ho List.not_mem_nil

/-- **The Syncs that stay inside their buffer**: all announced elements lie inside, or one with an
unknown version comes first. -/
theorem loopReads_inBounds_iff {m : Memory} {len n : Nat} (hheader : syncHeaderSize ≤ len)
    (hroom : n ≤ kind.maxEntries.toNat) :
    (∀ alloc, ∀ o ∈ loopReads L m alloc 0 n Table.fresh, o < len) ↔ L.FitsFrom m len 0 n := by
  constructor
  · intro h
    have hfits := fitsFrom_of_inBounds (i := 0) (Table.valid_fresh kind)
      (by simpa [Table.fresh] using hroom) (by simpa [RecordLayout.element] using hheader)
      (h fun _ => true)
    rwa [Nat.zero_add] at hfits
  · intro h alloc
    exact inBounds_of_fitsFrom (by rwa [Nat.zero_add])

theorem syncReads_inBounds_iff {m : Memory} {len : Nat} (hheader : syncHeaderSize ≤ len)
    (hmax : kind.maxSync ≤ kind.maxEntries.toNat) (hcount : (syncCount m).toNat ≤ kind.maxSync) :
    (∀ alloc, ∀ o ∈ syncReads L m alloc, o < len) ↔ L.FitsFrom m len 0 (syncCount m).toNat := by
  rw [← loopReads_inBounds_iff hheader (Nat.le_trans hcount hmax)]
  simp only [syncReads, if_neg (Nat.not_lt.mpr hcount), List.mem_append]
  apply forall_congr'
  intro alloc
  constructor
  · intro h o ho
    exact h o (Or.inr ho)
  · rintro h o (ho | ho)
    · exact (forall_span_lt (by omega)).mpr hheader o ho
    · exact h o ho

end

/-! ## Requests -/

/-- The bytes that the handler is going to read lie inside the buffer: the announced elements of a
Sync, up to one with an unknown version, and the filter count of a RECONCILE request with input. -/
def ReadsFit (code : UInt32) (inputLength : Nat) (m : Memory) : Prop :=
  match IoctlCode.ofUInt32 code with
  | some .syncPolicies => appPolicyLayout.FitsFrom m inputLength 0 (syncCount m).toNat
  | some .syncRoutes => routeLayout.FitsFrom m inputLength 0 (syncCount m).toNat
  | some .reconcile => inputLength = 0 ∨ 8 ≤ inputLength
  | _ => True

theorem validatorReads_lt {code : UInt32} {inputLength outputLength : Nat} {m : Memory} {o : Nat}
    (ho : o ∈ validatorReads code inputLength outputLength (bufferAt inputLength m)) :
    o < inputLength ∧ (bufferAt inputLength m).isSome = true := by
  have hspan : o ∈ (if (bufferAt inputLength m).isNone ∨ inputLength < 4 * 2 then []
      else span 4 4) → o < inputLength ∧ (bufferAt inputLength m).isSome = true := by
    intro h
    split at h
    · exact absurd h List.not_mem_nil
    · next hc =>
      have ho := mem_span.mp h
      rw [not_or, Option.isNone_iff_eq_none] at hc
      refine ⟨by omega, ?_⟩
      exact Option.isSome_iff_ne_none.mpr hc.1
  unfold validatorReads at ho
  split at ho
  · exact absurd ho List.not_mem_nil
  · split at ho
    · exact hspan ho
    · exact hspan ho
    · exact absurd ho List.not_mem_nil

theorem setReads_lt {α : Type} {kind : RecordKind α} {L : RecordLayout kind} {m : Memory}
    {alloc : Bool} {o : Nat} (ho : o ∈ setReads L m alloc 0) : o < L.size := by
  have hsize := L.four_le_size
  rw [setReads, List.mem_append] at ho
  rcases ho with ho | ho
  · have hspan := mem_span.mp ho
    omega
  · split at ho
    · have hspan := mem_span.mp ho
      omega
    · exact absurd ho List.not_mem_nil

/-- The handlers but those of the Syncs and of RECONCILE read inside the length asked for. -/
theorem handlerReads_lt {c : IoctlCode} {m : Memory} {alloc : Nat → Bool} {o : Nat}
    (hp : c ≠ .syncPolicies) (hr : c ≠ .syncRoutes) (hk : c ≠ .reconcile)
    (ho : o ∈ handlerReads c (some m) alloc) : o < c.minInput := by
  cases c with
  | syncPolicies => exact absurd rfl hp
  | syncRoutes => exact absurd rfl hr
  | reconcile => exact absurd rfl hk
  | setAppPolicy => exact setReads_lt (L := appPolicyLayout) ho
  | setRoute => exact setReads_lt (L := routeLayout) ho
  | clearRoute | setKillSwitch | importState | dnsSetConfig | setGuardianMode =>
    have hspan := (mem_span.mp ho).2
    rwa [Nat.zero_add] at hspan
  | getDriverState | getTelemetry | exportState | getPerfStats | getDnsStats =>
    exact absurd ho List.not_mem_nil

theorem handlerReads_none {c : IoctlCode} (h : c.minInput = 0) (alloc : Nat → Bool) :
    handlerReads c none alloc = [] := by
  cases c with
  | getDriverState | getTelemetry | exportState | reconcile | getPerfStats | getDnsStats => rfl
  | _ => cases h

theorem handlerReads_inBounds_iff {code : UInt32} {c : IoctlCode} {inputLength outputLength : Nat}
    {m : Memory} (hc : IoctlCode.ofUInt32 code = some c)
    (hacc : Accepted code inputLength outputLength m) :
    (∀ alloc, ∀ o ∈ handlerReads c (bufferAt inputLength m) alloc,
      o < inputLength ∧ (bufferAt inputLength m).isSome = true) ↔ ReadsFit code inputLength m := by
  have hmin := accepted_minInput hc hacc
  unfold ReadsFit
  rw [hc]
  by_cases hpos : 0 < inputLength
  · rw [bufferAt, if_pos hpos]
    simp only [Option.isSome_some, and_true]
    cases c with
    | syncPolicies =>
      exact syncReads_inBounds_iff hmin (by decide) ((accepted_syncCount hacc).1 hc)
    | syncRoutes =>
      exact syncReads_inBounds_iff hmin (by decide) ((accepted_syncCount hacc).2 hc)
    | reconcile =>
      constructor
      · intro h
        exact Or.inr ((forall_span_lt (by omega)).mp (h fun _ => true))
      · rintro (h | h) alloc o ho
        · omega
        · exact (forall_span_lt (by omega)).mpr h o ho
    | _ =>
      constructor
      · intro _
        trivial
      · intro _ alloc o ho
        exact Nat.lt_of_lt_of_le (handlerReads_lt (by decide) (by decide) (by decide) ho) hmin
  · rw [bufferAt, if_neg hpos]
    have hzero : c.minInput = 0 := by omega
    have hreads : ∀ alloc, ∀ o ∈ handlerReads c none alloc,
        o < inputLength ∧ (none : Option Memory).isSome = true := by
      intro alloc o ho
      rw [handlerReads_none hzero] at ho
      exact absurd ho List.not_mem_nil
    refine ⟨fun _ => ?_, fun _ => hreads⟩
    cases c with
    | syncPolicies | syncRoutes => cases hzero
    | reconcile => exact Or.inl (by omega)
    | _ => trivial

/-- **Validation does not keep all reads inside the buffer**: a request reads inside its input buffer,
whatever memory the driver finds, iff it is rejected or the elements it announces and its filter
count lie inside. -/
theorem inputInBounds_iff (code : UInt32) (inputLength outputLength : Nat) (m : Memory) :
    (∀ alloc, InputInBounds code inputLength outputLength m alloc) ↔
      (Accepted code inputLength outputLength m → ReadsFit code inputLength m) := by
  constructor
  · intro h hacc
    cases hc : IoctlCode.ofUInt32 code with
    | none =>
      rw [ReadsFit, hc]
      trivial
    | some c =>
      exact (handlerReads_inBounds_iff hc hacc).mp fun alloc o ho =>
        h alloc hacc c hc o (List.mem_append_right _ ho)
  · intro h alloc hacc c hc o ho
    rcases List.mem_append.mp ho with ho | ho
    · exact validatorReads_lt ho
    · exact (handlerReads_inBounds_iff hc hacc).mpr (h hacc) alloc o ho

/-- A SYNC_POLICIES request of 8 bytes that announces one policy is accepted and reads behind its
end; so does a RECONCILE request of 4 bytes. -/
theorem not_forall_inputInBounds :
    (¬ ∀ m alloc, InputInBounds IoctlCode.syncPolicies.toUInt32 8 0 m alloc) ∧
      ¬ ∀ m alloc, InputInBounds IoctlCode.reconcile.toUInt32 4 16 m alloc := by
  constructor
  · intro h
    have hin := h (fun off => if off = 4 then 1 else 0) (fun _ => true) (by decide) .syncPolicies
      (by decide) 8 (by decide)
    exact absurd hin.1 (by decide)
  · intro h
    have hin := h (fun _ => 0) (fun _ => true) (by decide) .reconcile (by decide) 4 (by decide)
    exact absurd hin.1 (by decide)

end Guardian
