import Guardian.Enforce.Telemetry

/-!
# DNS observation (`dns_observe.c`)
-/

namespace Guardian

/-- The statics of `dns_observe.c`. -/
structure DnsState where
  config : DnsConfigV1
  stats : DnsStatsV1
  deriving DecidableEq

def DnsConfigV1.zero : DnsConfigV1 :=
  ⟨0, 0, 0, 0, Vector.replicate 2 0, 0, 0, Vector.replicate 16 0⟩

def DnsStatsV1.zero : DnsStatsV1 := ⟨0, 0, 0, 0, 0, 0, 0⟩

def dnsLayerInitialize : DnsState where
  config := { DnsConfigV1.zero with
    version := dnsConfigVersion, capabilities := dnsCapObserve, observeOnly := 1 }
  stats := { DnsStatsV1.zero with version := dnsConfigVersion }

def dnsLayerSetConfig (config : Option DnsConfigV1) (s : DnsState) : NTSTATUS × DnsState :=
  match config with
  | none => (statusInvalidParameter, s)
  | some config =>
    if config.version ≠ dnsConfigVersion then (statusInvalidParameter, s)
    else (statusSuccess, { s with config := { config with observeOnly := 1 } })

theorem dnsLayerSetConfig_failed {config : Option DnsConfigV1} {s : DnsState}
    (h : ntSuccess (dnsLayerSetConfig config s).1 = false) : (dnsLayerSetConfig config s).2 = s := by
  unfold dnsLayerSetConfig at h ⊢
  cases config with
  | none => rfl
  | some config =>
    simp only at h ⊢
    split at h
    · next hv => rw [if_pos hv]
    · cases h

def dnsLayerGetStats (s : DnsState) : DnsStatsV1 := s.stats

/-- `ExcludedPids[i] == excludedPid` for an `i` below both the count and 16. -/
def dnsExcluded (config : DnsConfigV1) (excludedPid : UInt32) : Bool :=
  (config.excludedPids.toList.take config.excludedPidCount.toNat).contains excludedPid

def dnsLayerShouldObserve (remotePort : UInt16) (excludedPid : UInt32)
    (s : DnsState) (t : TelemetryState) : Bool × DnsState × TelemetryState :=
  if remotePort ≠ 53 then (false, s, t)
  else if s.config.enabled = 0 then
    (false, { s with stats := { s.stats with skippedDisabled := s.stats.skippedDisabled + 1 } }, t)
  else if dnsExcluded s.config excludedPid then
    (false, { s with stats := { s.stats with skippedExcluded := s.stats.skippedExcluded + 1 } }, t)
  else
    (true, { s with stats := { s.stats with observedV4 := s.stats.observedV4 + 1 } },
      telemetryRecordDnsObserve t)

end Guardian
