import Mathlib.Data.UInt

/-!
# What the driver uses of Windows

Status codes, the performance counter, the registry key and the WFP classify arguments, as far as
the driver reads or writes them. Outcomes of system calls are data of these types, chosen by the
environment.
-/

namespace Guardian

/-! ## Status codes -/

/-- A status code; the values from `0x80000000` on are the negative ones. -/
abbrev NTSTATUS := UInt32

/-- `NT_SUCCESS`: the status is non-negative as a signed number. -/
def ntSuccess (status : NTSTATUS) : Bool := status < 0x80000000

def statusSuccess : NTSTATUS := 0x00000000
def statusInvalidParameter : NTSTATUS := 0xC000000D
def statusInvalidDeviceRequest : NTSTATUS := 0xC0000010
def statusAccessDenied : NTSTATUS := 0xC0000022
def statusBufferTooSmall : NTSTATUS := 0xC0000023
def statusInsufficientResources : NTSTATUS := 0xC000009A
def statusDeviceNotReady : NTSTATUS := 0xC00000A3
def statusInvalidBufferSize : NTSTATUS := 0xC0000206
def statusNotFound : NTSTATUS := 0xC0000225
def statusFwpAlreadyExists : NTSTATUS := 0xC0220009

@[simp] theorem ntSuccess_success : ntSuccess statusSuccess = true := rfl
@[simp] theorem ntSuccess_invalidParameter : ntSuccess statusInvalidParameter = false := rfl
@[simp] theorem ntSuccess_invalidDeviceRequest : ntSuccess statusInvalidDeviceRequest = false := rfl
@[simp] theorem ntSuccess_accessDenied : ntSuccess statusAccessDenied = false := rfl
@[simp] theorem ntSuccess_bufferTooSmall : ntSuccess statusBufferTooSmall = false := rfl
@[simp] theorem ntSuccess_insufficientResources :
    ntSuccess statusInsufficientResources = false := rfl
@[simp] theorem ntSuccess_deviceNotReady : ntSuccess statusDeviceNotReady = false := rfl
@[simp] theorem ntSuccess_invalidBufferSize : ntSuccess statusInvalidBufferSize = false := rfl
@[simp] theorem ntSuccess_notFound : ntSuccess statusNotFound = false := rfl
@[simp] theorem ntSuccess_fwpAlreadyExists : ntSuccess statusFwpAlreadyExists = false := rfl

/-! ## Performance counter -/

/-- One call of `KeQueryPerformanceCounter`: it returns `counter` and stores `frequency` through
its pointer argument. -/
structure PerformanceCounter where
  counter : UInt64
  frequency : UInt64

/-- The `QuadPart` of the variable whose address is passed to `KeQueryPerformanceCounter`. -/
def PerformanceCounter.quadPart (q : PerformanceCounter) : UInt64 := q.frequency

/-! ## Registry -/

/-- The registry key at `RegistryPath`: whether it opens, and what a 32-bit variable holds after
`ZwQueryValueKey` was given its address for the named value (as a function of what it held). -/
structure RegistryKey where
  openStatus : NTSTATUS
  queryValue : String → UInt32 → UInt32

/-! ## WFP classify arguments -/

/-- `layerId` of a classify call. -/
inductive FwpsLayer where
  | aleAuthConnectV4
  | aleAuthConnectV6
  | other (layerId : UInt16)
  deriving DecidableEq

/-- The positions of `incomingValue` that matter for the driver. -/
inductive FwpsField where
  | aleAuthConnectV4AleAppId
  | aleAuthConnectV4IpLocalInterface
  | aleAuthConnectV6AleAppId
  | aleAuthConnectV6IpLocalInterface
  deriving DecidableEq

/-- `FWP_VALUE0`; a byte blob and a 64-bit number are held through a pointer. -/
inductive FwpValue where
  | empty
  | uint64 (value : Option UInt64)
  | byteBlob (blob : Option (List UInt8))
  | other (type : UInt32)
  deriving DecidableEq

/-- `FWPS_INCOMING_VALUES0`. -/
structure IncomingValues where
  layerId : FwpsLayer
  incomingValue : FwpsField → FwpValue

/-- The local interface LUID that the fixed values of an auth-connect layer carry. -/
def IncomingValues.localInterface (values : IncomingValues) : Option UInt64 :=
  let read (field : FwpsField) : Option UInt64 :=
    match values.incomingValue field with
    | .uint64 luid => luid
    | _ => none
  match values.layerId with
  | .aleAuthConnectV4 => read .aleAuthConnectV4IpLocalInterface
  | .aleAuthConnectV6 => read .aleAuthConnectV6IpLocalInterface
  | .other _ => none

/-- `FWP_ACTION_TYPE`. -/
inductive FwpAction where
  | none
  | permit
  | block
  | other (value : UInt32)
  deriving DecidableEq

def fwpsRightActionWrite : UInt32 := 0x00000001
def fwpsClassifyOutFlagAbsorb : UInt32 := 0x00000001

/-- The part of `FWPS_CLASSIFY_OUT0` that the driver reads or writes. -/
structure ClassifyOut where
  actionType : FwpAction
  rights : UInt32
  flags : UInt32
  deriving DecidableEq

end Guardian
