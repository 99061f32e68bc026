import Guardian.Client.Calls
import Guardian.Ipc.Outputs
import Guardian.Runs.Driver

/-!
# The client and the driver on the wire

* `RequestOf` : the request that the driver gets for a call of the client;
* `SentAs` : the driver accepts the bytes of every value and reads the same fields from them;
* `Answered` : the answer that the client gets for the structure that the driver writes;
* `ReadBack` : the client reads the same fields from the bytes of every structure;
* `wire_formats_agree` : the four structures that the client sends, and the five that it receives.
-/

namespace Guardian
open Bytes

/-! ## From the client to the driver -/

/-- The I/O manager makes the request `rq` of the call `io`, copying the input. -/
structure RequestOf (io : Client.Ioctl) (rq : IoctlRequest) : Prop where
  code : rq.ioControlCode = io.code
  inputLength : rq.inputBufferLength = (io.input.getD []).length
  outputLength : rq.outputBufferLength = io.outputLength
  input : Holds rq.inputMemory 0 (io.input.getD [])

/-- The call passes the driver's validation as a request of this code, and the driver reads the
fields that the client has written. -/
def SentAs {α κ : Type} (call : α → Client.Ioctl) (code : IoctlCode) (read : Memory → Nat → κ)
    (toKernel : α → κ) : Prop :=
  ∀ a rq, RequestOf (call a) rq →
    IoctlCode.ofUInt32 rq.ioControlCode = some code ∧
    validateIoctlBuffer rq.ioControlCode rq.inputBufferLength rq.outputBufferLength rq.inputBuffer =
      (statusSuccess, 0) ∧
    rq.inputBuffer.map (read · 0) = some (toKernel a)

theorem requireInput_enough {inputLength size : Nat} (h : size ≤ inputLength) (input : Memory) :
    requireInput inputLength (some input) size = (statusSuccess, 0) := by
  unfold requireInput
  rw [if_neg (by simpa using h)]

/-- A call is sent as its structure if its bytes are as many as the driver asks for and decode to
it. -/
theorem sentAs_of_decodes {α κ : Type} {call : α → Client.Ioctl} {code : IoctlCode}
    {read : Memory → Nat → κ} {toKernel : α → κ} {bytes : α → List UInt8} {size : Nat}
    (hcall : ∀ a, call a = ⟨code.toUInt32, some (bytes a), 0⟩)
    (hsize : ∀ a, (bytes a).length = size) (hpos : 0 < size) (hmax : size ≤ maxIoctlBuffer)
    (hcode : ∀ inputLength outputLength input,
      validateIoctlCode code inputLength outputLength input = requireInput inputLength input size)
    (hread : ∀ a m, Holds m 0 (bytes a) → read m 0 = toKernel a) :
    SentAs call code read toKernel := by
  intro a rq h
  rw [hcall a] at h
  have hlength : rq.inputBufferLength = size := h.inputLength.trans (hsize a)
  have hselect : IoctlCode.ofUInt32 rq.ioControlCode = some code := by
    rw [h.code]
    exact code.ofUInt32_toUInt32
  have hinput : rq.inputBuffer = some rq.inputMemory := if_pos (by omega)
  refine ⟨hselect, ?_, ?_⟩
  · have houtput : rq.outputBufferLength = 0 := h.outputLength
    unfold validateIoctlBuffer
    rw [if_neg (by omega), hselect, hinput]
    show validateIoctlCode code _ _ _ = _
    rw [hcode]
    exact requireInput_enough hlength.ge rq.inputMemory
  · rw [hinput, Option.map_some, hread a rq.inputMemory h.input]

namespace Client

theorem AppPolicyV1.length_bytes (p : AppPolicyV1) :
    p.bytes.length = Guardian.AppPolicyV1.size := by
  simp only [AppPolicyV1.bytes, List.length_append, length_bytesU32, length_bytesU64,
    length_bytesU16s, Vector.length_toList]
  rfl

theorem AppPolicyV1.read_of_holds {m : Memory} {p : AppPolicyV1} (h : Holds m 0 p.bytes) :
    Guardian.AppPolicyV1.read m 0 = p.toKernel := by
  simp only [AppPolicyV1.bytes, holds_append, List.length_append, length_bytesU32, length_bytesU64,
    length_bytesU16s, Vector.length_toList] at h
  obtain ⟨⟨⟨⟨⟨⟨⟨⟨⟨⟨⟨h0, h4⟩, h20⟩, h24⟩, h28⟩, h32⟩, h1072⟩, h1104⟩, h1108⟩, h1176⟩, h1432⟩, h1440⟩ := h
  apply Eq.mpr (Guardian.AppPolicyV1.mk.injEq ..)
  exact ⟨readU32_of_holds h0, readU8s_of_holds h4, readU32_of_holds h20, readU32_of_holds h24,
    readU32_of_holds h28, readU16s_of_holds h32, readU8s_of_holds h1072, readU32_of_holds h1104,
    readU8s_of_holds h1108, readU16s_of_holds h1176, readU64_of_holds h1432, readU64_of_holds h1440⟩

theorem RouteAssignmentV1.length_bytes (r : RouteAssignmentV1) :
    r.bytes.length = Guardian.RouteAssignmentV1.size := by
  simp only [RouteAssignmentV1.bytes, List.length_append, length_bytesU32, length_bytesU64,
    length_bytesU16, Vector.length_toList]
  rfl

theorem RouteAssignmentV1.read_of_holds {m : Memory} {r : RouteAssignmentV1}
    (h : Holds m 0 r.bytes) : Guardian.RouteAssignmentV1.read m 0 = r.toKernel := by
  simp only [RouteAssignmentV1.bytes, holds_append, List.length_append, length_bytesU32,
    length_bytesU64, length_bytesU16, Vector.length_toList] at h
  obtain ⟨⟨⟨⟨⟨⟨h0, h4⟩, h20⟩, h24⟩, h32⟩, h40⟩, h42⟩ := h
  rw [Guardian.RouteAssignmentV1.read, RouteAssignmentV1.toKernel,
    Guardian.RouteAssignmentV1.mk.injEq]
  exact ⟨readU32_of_holds h0, readU8s_of_holds h4, readU32_of_holds h20, readU64_of_holds h24,
    readU64_of_holds h32, readU16_of_holds h40, readU8s_of_holds h42⟩

theorem KillSwitchV1.length_bytes (k : KillSwitchV1) :
    k.bytes.length = Guardian.KillSwitchV1.size := by
  simp only [KillSwitchV1.bytes, List.length_append, length_bytesU32, length_bytesU64]
  rfl

theorem KillSwitchV1.read_of_holds {m : Memory} {k : KillSwitchV1} (h : Holds m 0 k.bytes) :
    Guardian.KillSwitchV1.read m 0 = k.toKernel := by
  simp only [KillSwitchV1.bytes, holds_append, List.length_append, length_bytesU32] at h
  obtain ⟨⟨h0, h4⟩, h8⟩ := h
  rw [Guardian.KillSwitchV1.read, KillSwitchV1.toKernel, Guardian.KillSwitchV1.mk.injEq]
  exact ⟨readU32_of_holds h0, readU32_of_holds h4, readU64_of_holds h8⟩

theorem DnsConfigV1.length_bytes (c : DnsConfigV1) :
    c.bytes.length = Guardian.DnsConfigV1.size := by
  simp only [DnsConfigV1.bytes, List.length_append, length_bytesU32, length_bytesU16,
    length_bytesU32s, Vector.length_toList, List.length_singleton]
  rfl

theorem DnsConfigV1.read_of_holds {m : Memory} {c : DnsConfigV1} (h : Holds m 0 c.bytes) :
    Guardian.DnsConfigV1.read m 0 = c.toKernel := by
  simp only [DnsConfigV1.bytes, holds_append, List.length_append, length_bytesU32, length_bytesU16,
    Vector.length_toList, List.length_singleton] at h
  obtain ⟨⟨⟨⟨⟨⟨⟨h0, h4⟩, h8⟩, h9⟩, h10⟩, h12⟩, h14⟩, h18⟩ := h
  rw [Guardian.DnsConfigV1.read, DnsConfigV1.toKernel, Guardian.DnsConfigV1.mk.injEq]
  exact ⟨readU32_of_holds h0, readU32_of_holds h4, readU8_of_holds h8, readU8_of_holds h9,
    readU8s_of_holds h10, readU16_of_holds h12, readU32_of_holds h14, readU32s_of_holds h18⟩

end Client

/-! ## From the driver to the client -/

/-- The answer to a call that the driver completes with this structure: the I/O manager copies the
written bytes and returns their number. -/
def Answered (o : Output) (answer : Client.Answer) : Prop :=
  ∃ buf, Holds buf 0 o.bytes ∧ answer = .ok (UInt32.ofNat o.bytes.length, buf)

/-- The client asks for the structure with a buffer of its size, takes the answer, and reads the
fields that the driver has written. -/
structure ReadBack {α κ : Type} (ask : Client.Ioctl) (output : κ → Output)
    (parse : Client.Answer → Except Client.GuardianError α) (ofKernel : κ → α) : Prop where
  asks : ∀ v, ask = ⟨(output v).code.toUInt32, none, (output v).size⟩
  fields : ∀ v answer, Answered (output v) answer → parse answer = .ok (ofKernel v)

theorem readBack_of_decodes {α κ : Type} {ask : Client.Ioctl} {output : κ → Output} {size : Nat}
    {read : Memory → α} {ofKernel : κ → α}
    (hasks : ∀ v, ask = ⟨(output v).code.toUInt32, none, (output v).size⟩)
    (hsize : ∀ v, (output v).size = size)
    (hread : ∀ v m, Holds m 0 (output v).bytes → read m = ofKernel v) :
    ReadBack ask output (Client.readResponse size read) ofKernel where
  asks := hasks
  fields := by
    rintro v answer ⟨buf, hbuf, rfl⟩
    rw [Output.length_bytes, hsize, Client.readResponse_ok (UInt32.le_refl _), hread v buf hbuf]

theorem evtIoDeviceControl_information {rq : IoctlRequest} {g : Globals} {o : Output}
    (h : (evtIoDeviceControl rq g).1.output = some o) :
    (evtIoDeviceControl rq g).1.information = o.bytes.length := by
  have hout : (served rq g).output = some o := h
  show (served rq g).bytesReturned = o.bytes.length
  rcases served_reported rq g with ⟨-, -, hnone⟩ | ⟨-, code, -, hrep⟩
  · rw [hout] at hnone
    cases hnone
  · cases hs : ntSuccess (served rq g).status with
    | false =>
      rw [(hrep.failed hs).2] at hout
      cases hout
    | true =>
      cases hc : code.reporting with
      | false =>
        rw [(hrep.silent hs hc).2] at hout
        cases hout
      | true =>
        obtain ⟨o', ho', -, hbytes⟩ := hrep.reporting hs hc
        obtain rfl : o' = o := Option.some.inj (ho'.symm.trans hout)
        rw [hbytes, Output.length_bytes]

namespace Client

theorem DriverStateV1.read_of_holds {m : Memory} {s : Guardian.DriverStateV1}
    (h : Holds m 0 s.bytes) : DriverStateV1.read m = .ofKernel s := by
  simp only [Guardian.DriverStateV1.bytes, holds_append, List.length_append, length_bytesU32] at h
  obtain ⟨⟨⟨⟨⟨⟨⟨⟨⟨⟨⟨⟨h0, h4⟩, h8⟩, h12⟩, h16⟩, h20⟩, h24⟩, h28⟩, h32⟩, h36⟩, h40⟩, h44⟩, h48⟩ := h
  rw [DriverStateV1.read, DriverStateV1.ofKernel, DriverStateV1.mk.injEq]
  exact ⟨readU32_of_holds h0, readU32_of_holds h4, readU32_of_holds h8, readU32_of_holds h12,
    readU32_of_holds h16, readU32_of_holds h20, readU32_of_holds h24, readU32_of_holds h28,
    readU32_of_holds h32, readU32_of_holds h36, congrArg UInt32.toInt32 (readU32_of_holds h40),
    readU32_of_holds h44, readU8s_of_holds h48⟩

theorem TelemetryV1.read_of_holds {m : Memory} {t : Guardian.TelemetryV1} (h : Holds m 0 t.bytes) :
    TelemetryV1.read m = .ofKernel t := by
  simp only [Guardian.TelemetryV1.bytes, holds_append, List.length_append, length_bytesU32,
    length_bytesU64] at h
  obtain ⟨⟨⟨⟨⟨⟨⟨⟨⟨h0, h4⟩, h12⟩, h20⟩, h28⟩, h36⟩, h44⟩, h52⟩, h60⟩, h68⟩ := h
  rw [TelemetryV1.read, TelemetryV1.ofKernel, TelemetryV1.mk.injEq]
  exact ⟨readU32_of_holds h0, readU64_of_holds h4, readU64_of_holds h12, readU64_of_holds h20,
    readU64_of_holds h28, readU64_of_holds h36, readU64_of_holds h44, readU64_of_holds h52,
    readU64_of_holds h60, readU64_of_holds h68⟩

theorem PerfStatsV1.read_of_holds {m : Memory} {p : Guardian.PerfStatsV1} (h : Holds m 0 p.bytes) :
    PerfStatsV1.read m = .ofKernel p := by
  simp only [Guardian.PerfStatsV1.bytes, holds_append, List.length_append, length_bytesU32,
    length_bytesU64] at h
  obtain ⟨⟨⟨⟨⟨⟨⟨h0, h4⟩, h12⟩, h20⟩, h28⟩, h36⟩, h44⟩, h48⟩ := h
  rw [PerfStatsV1.read, PerfStatsV1.ofKernel, PerfStatsV1.mk.injEq]
  exact ⟨readU32_of_holds h0, readU64_of_holds h4, readU64_of_holds h12, readU64_of_holds h20,
    readU64_of_holds h28, readU64_of_holds h36, readU32_of_holds h44, readU32_of_holds h48⟩

theorem StateBlobHeaderV1.read_of_holds {m : Memory} {b : Guardian.StateBlobHeaderV1}
    (h : Holds m 0 b.bytes) : StateBlobHeaderV1.read m = .ofKernel b := by
  simp only [Guardian.StateBlobHeaderV1.bytes, holds_append, List.length_append,
    length_bytesU32] at h
  obtain ⟨⟨⟨⟨⟨h0, h4⟩, h8⟩, h12⟩, h16⟩, h20⟩ := h
  rw [StateBlobHeaderV1.read, StateBlobHeaderV1.ofKernel, StateBlobHeaderV1.mk.injEq]
  exact ⟨readU32_of_holds h0, readU32_of_holds h4, readU32_of_holds h8, readU32_of_holds h12,
    readU32_of_holds h16, readU32_of_holds h20⟩

theorem ReconcileResponseV1.read_of_holds {m : Memory} {r : Guardian.ReconcileResponseV1}
    (h : Holds m 0 r.bytes) : ReconcileResponseV1.read m = .ofKernel r := by
  simp only [Guardian.ReconcileResponseV1.bytes, holds_append, List.length_append,
    length_bytesU32] at h
  obtain ⟨⟨⟨h0, h4⟩, h8⟩, h12⟩ := h
  rw [ReconcileResponseV1.read, ReconcileResponseV1.ofKernel, ReconcileResponseV1.mk.injEq]
  exact ⟨readU32_of_holds h0, readU32_of_holds h4, readU32_of_holds h8, readU32_of_holds h12⟩

end Client

theorem driverState_readBack : ReadBack Client.getDriverState Output.driverState
    (Client.readResponse Client.DriverStateV1.size Client.DriverStateV1.read)
    Client.DriverStateV1.ofKernel :=
  readBack_of_decodes (fun _ => rfl) (fun _ => rfl) fun _ _ h => Client.DriverStateV1.read_of_holds h

/-- **The client and the driver speak one byte format**: the driver accepts what the client sends and
reads the same fields, for every policy, route, kill switch and DNS configuration; the client takes
what the driver writes and reads the same fields, for every driver state, telemetry, performance
record, state blob and reconcile response. A driver state of another version is read, then refused. -/
theorem wire_formats_agree :
    (SentAs Client.setAppPolicy .setAppPolicy AppPolicyV1.read Client.AppPolicyV1.toKernel ∧
      SentAs Client.setRoute .setRoute RouteAssignmentV1.read Client.RouteAssignmentV1.toKernel ∧
      SentAs Client.setKillSwitch .setKillSwitch KillSwitchV1.read Client.KillSwitchV1.toKernel ∧
      SentAs Client.dnsSetConfig .dnsSetConfig DnsConfigV1.read Client.DnsConfigV1.toKernel) ∧
    (ReadBack Client.getDriverState Output.driverState
        (Client.readResponse Client.DriverStateV1.size Client.DriverStateV1.read)
        Client.DriverStateV1.ofKernel ∧
      ReadBack Client.getTelemetry Output.telemetry Client.telemetry Client.TelemetryV1.ofKernel ∧
      ReadBack Client.getPerfStats Output.perfStats Client.perfStats Client.PerfStatsV1.ofKernel ∧
      ReadBack Client.getExportState Output.stateBlob Client.exportState
        Client.StateBlobHeaderV1.ofKernel ∧
      ReadBack Client.getReconcile Output.reconcile Client.reconcile
        Client.ReconcileResponseV1.ofKernel) ∧
    (∀ s answer, Answered (.driverState s) answer → Client.driverState answer =
      if s.version = driverStateVersion then .ok (.ofKernel s) else .error .invalidVersion) ∧
    ∀ rq g o, (evtIoDeviceControl rq g).1.output = some o →
      (evtIoDeviceControl rq g).1.information = o.bytes.length := by
  refine ⟨⟨?_, ?_, ?_, ?_⟩, ⟨driverState_readBack, ?_, ?_, ?_, ?_⟩, ?_, ?_⟩
  · exact sentAs_of_decodes (fun _ => rfl) Client.AppPolicyV1.length_bytes (by decide) (by decide)
      (fun _ _ _ => rfl) fun _ _ h => Client.AppPolicyV1.read_of_holds h
  · exact sentAs_of_decodes (fun _ => rfl) Client.RouteAssignmentV1.length_bytes (by decide)
      (by decide) (fun _ _ _ => rfl) fun _ _ h => Client.RouteAssignmentV1.read_of_holds h
  · exact sentAs_of_decodes (fun _ => rfl) Client.KillSwitchV1.length_bytes (by decide) (by decide)
      (fun _ _ _ => rfl) fun _ _ h => Client.KillSwitchV1.read_of_holds h
  · exact sentAs_of_decodes (fun _ => rfl) Client.DnsConfigV1.length_bytes (by decide) (by decide)
      (fun _ _ _ => rfl) fun _ _ h => Client.DnsConfigV1.read_of_holds h
  · exact readBack_of_decodes (fun _ => rfl) (fun _ => rfl) fun _ _ h =>
      Client.TelemetryV1.read_of_holds h
  · exact readBack_of_decodes (fun _ => rfl) (fun _ => rfl) fun _ _ h =>
      Client.PerfStatsV1.read_of_holds h
  · exact readBack_of_decodes (fun _ => rfl) (fun _ => rfl) fun _ _ h =>
      Client.StateBlobHeaderV1.read_of_holds h
  · exact readBack_of_decodes (fun _ => rfl) (fun _ => rfl) fun _ _ h =>
      Client.ReconcileResponseV1.read_of_holds h
  · intro s answer h
    rw [Client.driverState, driverState_readBack.fields s answer h]
    show (if s.version ≠ driverStateVersion then _ else _) = _
    rw [ite_not]
  · intro rq g o h
    exact evtIoDeviceControl_information h

/-- The client's request to block everything, and its reading of a reconcile response. -/
theorem wire_formats_agree_blockAll :
    let rq := plainRequest .setKillSwitch Client.KillSwitchV1.blockAll.bytes 0
    let response : ReconcileResponseV1 := ⟨1, 0, 7, 0⟩
    rq.inputBuffer.map (KillSwitchV1.read · 0) = some ⟨1, 1, 0⟩ ∧
      Client.reconcile (.ok (16, fun off => response.bytes.getD off 0)) = .ok ⟨1, 0, 7, 0⟩ := by
  intro rq response
  obtain ⟨⟨-, -, hsent, -⟩, ⟨-, -, -, -, hread⟩, -⟩ := wire_formats_agree
  constructor
  · exact (hsent Client.KillSwitchV1.blockAll rq ⟨rfl, rfl, rfl, by decide⟩).2.2
  · exact hread.fields response _ ⟨fun off => response.bytes.getD off 0, by decide, rfl⟩

end Guardian
