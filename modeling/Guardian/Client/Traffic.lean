import Guardian.Client.Session
import Guardian.Runs.Firewall

/-!
# What a client asks is what connections meet

One client process calls its methods while connections are classified.

* `Traffic` : the calls, as they reach the driver, and the connections;
* `Client.Call.configure`, `clientFirewall` : the firewall that the calls configure with their values;
* `request_deliver` : the bytes of a call configure what its values configure;
* `client_enforced` : the connections get exactly the verdicts of that firewall.
-/

namespace Guardian
open Client (Call)

/-- A call of the client, or a connection at one of the auth-connect layers. -/
inductive Traffic where
  | call (call : Call) (d : Delivery)
  | connectionV4 (inFixedValues : Option IncomingValues) (clock : Clock) (classifyOut : ClassifyOut)
  | connectionV6 (inFixedValues : Option IncomingValues) (clock : Clock) (classifyOut : ClassifyOut)

/-- What the driver gets of it. -/
def Traffic.event (peer : Peer) : Traffic → Event
  | .call asked d => .ioctl (deliver peer asked.ioctl d)
  | .connectionV4 inFixedValues clock classifyOut => .authConnectV4 inFixedValues clock classifyOut
  | .connectionV6 inFixedValues clock classifyOut => .authConnectV6 inFixedValues clock classifyOut

/-- What the values of a call configure; `alloc` is the outcome of an allocation. -/
def Client.Call.configure (alloc : Bool) (fw : Firewall) : Call → Firewall
  | .setAppPolicy policy => { fw with
      policies := (Table.mapStep appPolicyKind fw.policies (.set (some policy.toKernel) alloc)).2 }
  | .setRoute route => { fw with
      routes := (Table.finmapStep routeKind fw.routes (.set (some route.toKernel) alloc)).2 }
  | .clearRoute appId => { fw with
      routes := (Table.finmapStep routeKind fw.routes (.remove appId)).2 }
  | .setKillSwitch config => { fw with
      killSwitch := Firewall.setKillSwitch (some config.toKernel) fw.killSwitch }
  | _ => fw

/-- The firewall of a client: its calls configure it, and connections ask it. -/
def clientFirewall (peer : Peer) : Machine Firewall Traffic (Option ClassifyOut) where
  step fw x :=
    match x with
    | .call asked d => (none, asked.configure (d.alloc 0) { fw with allowedServicePid := peer.pid })
    | .connectionV4 inFixedValues _ classifyOut => (some (fw.classify inFixedValues classifyOut), fw)
    | .connectionV6 inFixedValues _ classifyOut => (some (fw.classify inFixedValues classifyOut), fw)

/-- The driver that gets the traffic. -/
def trafficVerdicts (peer : Peer) : Machine Globals Traffic (Option ClassifyOut) :=
  ⟨fun g x => driverVerdicts.step g (x.event peer)⟩

theorem configure_deliver (peer : Peer) (call : Call) (d : Delivery) (fw : Firewall) :
    fw.configure call.code (deliver peer call.ioctl d) = call.configure (d.alloc 0) fw := by
  cases call with
  | setAppPolicy policy =>
    obtain ⟨-, -, hread⟩ := setAppPolicy_sentAs policy _ (deliver_requestOf peer _ d)
    have hread' : (deliver peer (Call.setAppPolicy policy).ioctl d).inputBuffer.map
        (AppPolicyV1.read · 0) = some policy.toKernel := hread
    simp only [Call.code, Firewall.configure, hread']
    rfl
  | setRoute route =>
    obtain ⟨-, -, hread⟩ := setRoute_sentAs route _ (deliver_requestOf peer _ d)
    have hread' : (deliver peer (Call.setRoute route).ioctl d).inputBuffer.map
        (RouteAssignmentV1.read · 0) = some route.toKernel := hread
    simp only [Call.code, Firewall.configure, hread']
    rfl
  | clearRoute appId =>
    obtain ⟨-, -, hread⟩ := clearRoute_sentAs appId _ (deliver_requestOf peer _ d)
    obtain ⟨m, hm, hid⟩ := Option.map_eq_some_iff.mp hread
    have hinput : (deliver peer (Call.clearRoute appId).ioctl d).inputBuffer = some m := hm
    simp only [Call.code, Firewall.configure, hinput, hid]
    rfl
  | setKillSwitch config =>
    obtain ⟨-, -, hread⟩ := setKillSwitch_sentAs config _ (deliver_requestOf peer _ d)
    have hread' : (deliver peer (Call.setKillSwitch config).ioctl d).inputBuffer.map
        (KillSwitchV1.read · 0) = some config.toKernel := hread
    simp only [Call.code, Firewall.configure, hread']
    rfl
  | _ => rfl

theorem request_deliver {peer : Peer} {fw : Firewall}
    (h : fw.allowedServicePid = 0 ∨ fw.allowedServicePid = peer.pid) (call : Call) (d : Delivery) :
    fw.request (deliver peer call.ioctl d) =
      call.configure (d.alloc 0) { fw with allowedServicePid := peer.pid } := by
  have hpinned : PinnedFor peer { imageGlobals with allowedServicePid := fw.allowedServicePid } := h
  obtain ⟨hcaller, code, hwell⟩ := (admitted_iff _ _).mp (served_deliver hpinned call d).1
  obtain rfl : code = call.code := by
    have hcode := (deliver_validated peer call d).code
    rw [hwell.control, IoctlCode.ofUInt32_toUInt32] at hcode
    exact Option.some.inj hcode
  have hpin : fw.pin (deliver peer call.ioctl d).caller = { fw with allowedServicePid := peer.pid } := by
    have hpid : (if fw.allowedServicePid = 0 then peer.pid else fw.allowedServicePid) = peer.pid := by
      rcases h with h | h
      · rw [if_pos h]
      · rw [h, ite_self]
    exact congrArg (fun pid => { fw with allowedServicePid := pid }) hpid
  rw [Firewall.request_wellFormed hcaller hwell, hpin]
  exact configure_deliver peer call d _

theorem Client.Call.configure_pid (call : Call) (alloc : Bool) (fw : Firewall) :
    (call.configure alloc fw).allowedServicePid = fw.allowedServicePid := by
  cases call <;> rfl

/-- The driver holds what the client has configured, and nobody else is pinned. -/
theorem traffic_simulates (peer : Peer) : Machine.Simulates (trafficVerdicts peer)
    (clientFirewall peer) (fun g fw => Implements g fw ∧
      (fw.allowedServicePid = 0 ∨ fw.allowedServicePid = peer.pid)) := by
  rintro g fw x ⟨h, hpid⟩
  obtain ⟨hverdict, himplements⟩ := driverStep_implements g fw (x.event peer) h
  cases x with
  | call call d =>
    have hrequest := request_deliver hpid call d
    refine ⟨hverdict, ?_, Or.inr (call.configure_pid _ _)⟩
    have hstep : (firewall.step fw (Traffic.event peer (.call call d))).2 =
        call.configure (d.alloc 0) { fw with allowedServicePid := peer.pid } := hrequest
    rw [hstep] at himplements
    exact himplements
  | connectionV4 | connectionV6 => exact ⟨hverdict, himplements, hpid⟩

/-- **What the client asks is what connections meet**: after a load, whatever the client calls and
whenever connections arrive, each connection gets exactly the verdict of the firewall that the values
of the calls configure. -/
theorem client_enforced (peer : Peer) (boot : Boot) (traffic : List Traffic) :
    (trafficVerdicts peer).trace (loaded boot) traffic =
      (clientFirewall peer).trace (Firewall.initial boot) traffic :=
  ((traffic_simulates peer).run ⟨loaded_implements boot, Or.inl rfl⟩ traffic).1

end Guardian
