import Guardian.Store.Table

/-!
# The route table (`route_assignment.c`)

* `routeSet`, `routeClear`, `routeSync` : the table operations at route assignments;
* `routeLookup` : the assignment of an application id; `routeLookup_eq` reads it as a search.
-/

namespace Guardian

/-- `GUARDIAN_MAX_ROUTES` -/
def maxRoutes : UInt32 := 4096

def routeKind : RecordKind RouteAssignmentV1 where
  version := RouteAssignmentV1.version
  appId := RouteAssignmentV1.appId
  supportedVersion := routeAssignmentVersion
  maxEntries := maxRoutes
  maxSync := maxSyncRoutes

abbrev RouteTable := Table RouteAssignmentV1

def routeInitialize (t : RouteTable) : RouteTable := Table.reinit t

def routeShutdown (t : RouteTable) : RouteTable := Table.shutdown t

def routeFindLocked (appId : AppId) (t : RouteTable) : Option Nat :=
  Table.findLocked routeKind appId t

def routeSet (route : Option RouteAssignmentV1) (alloc : Bool) (t : RouteTable) :
    NTSTATUS × RouteTable := Table.set routeKind route alloc t

def routeClear (appId : AppId) (t : RouteTable) : NTSTATUS × RouteTable :=
  Table.remove routeKind appId t

def routeSync (routes : Option (List RouteAssignmentV1)) (alloc : Nat → Bool) (t : RouteTable) :
    NTSTATUS × RouteTable := Table.sync routeKind routes alloc t

/-- The found assignment; `none` is `found = FALSE` with a zeroed assignment. -/
def routeLookup (appId : AppId) (t : RouteTable) : NTSTATUS × Option RouteAssignmentV1 :=
  match routeFindLocked appId t with
  | some existing => (statusSuccess, t.list[existing]?)
  | none => (statusSuccess, none)

def routeActiveCount (t : RouteTable) : UInt32 := t.count

theorem routeLookup_eq (appId : AppId) (t : RouteTable) :
    routeLookup appId t = (statusSuccess, t.list.find? (fun item => item.appId = appId)) := by
  rw [List.find?_eq_bind_findIdx?_getElem?, routeLookup]
  change (match t.list.findIdx? (fun item => item.appId = appId) with
    | some existing => (statusSuccess, t.list[existing]?)
    | none => (statusSuccess, none)) = _
  cases t.list.findIdx? (fun item => item.appId = appId) <;> rfl

end Guardian
