import Guardian.Ipc.Bounds

/-!
# Which requests get as far as their handler

The checks of a request, in the terms of the interface: who may ask, and what a code asks for.

* `IoctlCode.minOutput`, `IoctlCode.maxCount`, `WellFormed` : the lengths and the count of a request;
* `validateIoctlCode_iff` : the validation accepts what a code asks for;
* `admitted_iff` : these requests of admitted callers get as far as their handler.
-/

namespace Guardian
open Bytes

/-- The output length that a request needs for its answer. -/
def IoctlCode.minOutput : IoctlCode → Nat
  | .getDriverState => DriverStateV1.size
  | .getTelemetry => TelemetryV1.size
  | .exportState => StateBlobHeaderV1.size
  | .reconcile => ReconcileResponseV1.size
  | .getPerfStats => PerfStatsV1.size
  | .getDnsStats => DnsStatsV1.size
  | _ => 0

/-- How many elements a request may announce. -/
def IoctlCode.maxCount : IoctlCode → Option Nat
  | .syncPolicies => some maxSyncPolicies
  | .syncRoutes => some maxSyncRoutes
  | _ => none

/-- The request has the code, carries what the code needs, and announces no more than it takes; its
buffers are within the limit and at hand. -/
structure WellFormed (code : IoctlCode) (rq : IoctlRequest) : Prop where
  control : rq.ioControlCode = code.toUInt32
  inputBounded : rq.inputBufferLength ≤ maxIoctlBuffer
  outputBounded : rq.outputBufferLength ≤ maxIoctlBuffer
  inputFits : code.minInput ≤ rq.inputBufferLength
  outputFits : code.minOutput ≤ rq.outputBufferLength
  count : ∀ n ∈ code.maxCount, (syncCount rq.inputMemory).toNat ≤ n
  inputAtHand : rq.inputBufferLength = 0 ∨ ntSuccess rq.retrieveInputBuffer = true
  outputAtHand : rq.outputBufferLength = 0 ∨ ntSuccess rq.retrieveOutputBuffer = true

instance (code : IoctlCode) (rq : IoctlRequest) : Decidable (WellFormed code rq) :=
  decidable_of_iff (rq.ioControlCode = code.toUInt32 ∧ rq.inputBufferLength ≤ maxIoctlBuffer ∧
      rq.outputBufferLength ≤ maxIoctlBuffer ∧ code.minInput ≤ rq.inputBufferLength ∧
      code.minOutput ≤ rq.outputBufferLength ∧
      (∀ n ∈ code.maxCount, (syncCount rq.inputMemory).toNat ≤ n) ∧
      (rq.inputBufferLength = 0 ∨ ntSuccess rq.retrieveInputBuffer = true) ∧
      (rq.outputBufferLength = 0 ∨ ntSuccess rq.retrieveOutputBuffer = true))
    ⟨fun ⟨h1, h2, h3, h4, h5, h6, h7, h8⟩ => ⟨h1, h2, h3, h4, h5, h6, h7, h8⟩,
      fun ⟨h1, h2, h3, h4, h5, h6, h7, h8⟩ => ⟨h1, h2, h3, h4, h5, h6, h7, h8⟩⟩

instance (caller : Caller) (pid : UInt32) : Decidable (Admits caller pid) :=
  decidable_of_iff (caller.irp = true ∧ caller.pid ≠ 0 ∧
      (caller.lookupProcess caller.pid).any (fun session => decide (pid = 0 ∨ caller.pid = pid ∨
        caller.lookupProcess pid = some session)) = true) (by
    simp only [Admits, Option.any_eq_true, decide_eq_true_eq])

variable {inputLength outputLength : Nat} {m : Memory}

theorem requireInput_iff {size : Nat} (h : 0 < size) :
    ntSuccess (requireInput inputLength (bufferAt inputLength m) size).1 = true ↔
      size ≤ inputLength := by
  constructor
  · exact fun hs => (requireInput_success hs).2
  · intro hle
    have hbuffer : bufferAt inputLength m = some m := if_pos (by omega)
    rw [requireInput, hbuffer, if_neg]
    · rfl
    · simpa using hle

theorem requireInput_output (buffer : Option Memory) (size : Nat) :
    (requireInput inputLength buffer size).2 = 0 := by
  unfold requireInput
  split <;> rfl

theorem requireSync_iff {maxCount : Nat} :
    ntSuccess (requireSync inputLength (bufferAt inputLength m) maxCount).1 = true ↔
      syncHeaderSize ≤ inputLength ∧ (syncCount m).toNat ≤ maxCount := by
  constructor
  · intro hs
    obtain ⟨input, hin, hlen, hcount⟩ := requireSync_success hs
    rw [eq_of_bufferAt hin] at hcount
    exact ⟨hlen, hcount⟩
  · rintro ⟨hlen, hcount⟩
    have hheader : ¬ inputLength < 4 * 2 := Nat.not_lt.mpr hlen
    have hbuffer : bufferAt inputLength m = some m := if_pos (by omega)
    unfold requireSync
    simp only [hbuffer, if_neg hheader, if_neg (Nat.not_lt.mpr hcount)]
    rfl

theorem requireSync_output (buffer : Option Memory) (maxCount : Nat) :
    (requireSync inputLength buffer maxCount).2 = 0 := by
  unfold requireSync
  cases buffer with
  | none => rfl
  | some input =>
    simp only
    split
    · rfl
    · split <;> rfl

theorem validateIoctlCode_iff (code : IoctlCode) :
    let v := validateIoctlCode code inputLength outputLength (bufferAt inputLength m)
    (ntSuccess v.1 = true ∧ v.2 ≤ outputLength) ↔ code.minInput ≤ inputLength ∧
      code.minOutput ≤ outputLength ∧ ∀ n ∈ code.maxCount, (syncCount m).toNat ≤ n := by
  cases code with
  | getDriverState | getTelemetry | exportState | getPerfStats | getDnsStats =>
    simp [validateIoctlCode, IoctlCode.minInput, IoctlCode.minOutput, IoctlCode.maxCount]
  | reconcile =>
    simp only [validateIoctlCode, IoctlCode.minInput, IoctlCode.minOutput, IoctlCode.maxCount]
    split
    · next h =>
      constructor
      · rintro ⟨hs, -⟩
        cases hs
      · rintro ⟨-, hout, -⟩
        omega
    · next h => simp [Nat.not_lt.mp h]
  | syncPolicies | syncRoutes =>
    simp only [validateIoctlCode, requireSync_iff, requireSync_output, IoctlCode.minInput,
      IoctlCode.minOutput, IoctlCode.maxCount]
    simp
  | setAppPolicy | setRoute | clearRoute | setKillSwitch | importState | dnsSetConfig
  | setGuardianMode =>
    simp only [validateIoctlCode, IoctlCode.minInput, IoctlCode.minOutput, IoctlCode.maxCount]
    rw [requireInput_iff (by decide), requireInput_output]
    simp

/-- **The requests that get as far as their handler are the well-formed ones of admitted callers.** -/
theorem admitted_iff (rq : IoctlRequest) (g : Globals) :
    Admitted rq g ↔ Admits rq.caller g.allowedServicePid ∧ ∃ code, WellFormed code rq := by
  constructor
  · rintro ⟨hcaller, hin, hout, hvalid, hfits⟩
    refine ⟨(ntSuccess_verifyCaller_iff _ _).mp hcaller, ?_⟩
    obtain ⟨code, hcode⟩ := validateIoctlBuffer_code hvalid
    obtain ⟨hinmax, houtmax⟩ := validateIoctlBuffer_length hvalid
    rw [validateIoctlBuffer_eq hcode hvalid] at hfits
    obtain ⟨hinput, houtput, hcount⟩ := (validateIoctlCode_iff code).mp
      ⟨validateIoctlBuffer_success hcode hvalid, hfits⟩
    refine ⟨code, (IoctlCode.toUInt32_of_ofUInt32 hcode).symm, hinmax, houtmax, hinput, houtput, hcount, ?_, ?_⟩
    · exact (Nat.eq_zero_or_pos _).imp_right hin
    · exact (Nat.eq_zero_or_pos _).imp_right hout
  · rintro ⟨hcaller, code, h⟩
    have hcode : IoctlCode.ofUInt32 rq.ioControlCode = some code := by
      rw [h.control]
      exact IoctlCode.ofUInt32_toUInt32 code
    obtain ⟨hstatus, hfits⟩ := (validateIoctlCode_iff (m := rq.inputMemory) code).mpr
      ⟨h.inputFits, h.outputFits, h.count⟩
    have hvalid : validateIoctlBuffer rq.ioControlCode rq.inputBufferLength rq.outputBufferLength
        rq.inputBuffer = validateIoctlCode code rq.inputBufferLength rq.outputBufferLength
          (bufferAt rq.inputBufferLength rq.inputMemory) := by
      unfold validateIoctlBuffer
      rw [if_neg (by have h1 := h.inputBounded; have h2 := h.outputBounded; omega), hcode]
      rfl
    refine ⟨(ntSuccess_verifyCaller_iff _ _).mpr hcaller, ?_, ?_, ?_, ?_⟩
    · exact fun hpos => h.inputAtHand.resolve_left (by omega)
    · exact fun hpos => h.outputAtHand.resolve_left (by omega)
    · rw [hvalid]
      exact hstatus
    · rw [hvalid]
      exact hfits

end Guardian
