/-
Module: ServersManager.Insights
Purpose: Idle hosts, orphaned domains and orphaned hosts: for one organization, and
  in the daily check that alerts on new ones.
Trusted boundary: none
Main exports:
  computeIdleHosts, computeOrphanedDomains, computeOrphanedHosts, OrgInsights,
  getInsightsForOrg, conditionForFlag, upsertFlag, evaluateFlagTransitions,
  evaluateFlag, runDailyCheck
-/
import ServersManager.Alerts

namespace ServersManager

open Library

/-! ### `insights/insights.service.ts`: what matches -/

def idleHostMinAgeHours : Int := 24

def computeIdleHosts (orgId : Option Nat) : Job (List Host) := do
  let cutoff := (← now) - idleHostMinAgeHours * 60 * 60 * 1000
  let candidates ← query (.findHealthyHosts cutoff orgId)
  if candidates.isEmpty then
    return []
  let runningServices ← query (.findRunningServices (candidates.map Host.id))
  let hostsWithRunningServices := runningServices.map Service.hostId
  return candidates.filter fun host => !hostsWithRunningServices.contains host.id

def isOrphanedDomain (knownHostIps : List String) (domain : Domain) : Bool :=
  domain.hostId == none ||
    domain.resolvedIp.any fun resolvedIp => !knownHostIps.contains resolvedIp

def computeOrphanedDomains (orgId : Option Nat) : Job (List Domain) := do
  let domains ← query (.findDomains orgId)
  if domains.isEmpty then
    return []
  let hosts ← query (.findHosts none)
  let knownHostIps := hosts.map Host.ipAddress
  return domains.filter (isOrphanedDomain knownHostIps)

def computeOrphanedHosts (orgId : Option Nat) : Job (List Host) := do
  let hosts ← query (.findHosts orgId)
  if hosts.isEmpty then
    return []
  let domainsWithHost ← query .findDomainsWithHost
  let referencedHostIds := domainsWithHost.map Domain.hostId
  return hosts.filter fun host => !referencedHostIds.contains (some host.id)

structure OrgInsights where
  idleHosts : List Host
  orphanedDomains : List Domain
  orphanedHosts : List Host
deriving Repr, Inhabited, DecidableEq

/-- The three queries run side by side, and none of them writes. -/
def getInsightsForOrg (orgId : Nat) : Job OrgInsights := do
  let idleHosts ← computeIdleHosts (some orgId)
  let orphanedDomains ← computeOrphanedDomains (some orgId)
  let orphanedHosts ← computeOrphanedHosts (some orgId)
  return { idleHosts := idleHosts
           orphanedDomains := orphanedDomains
           orphanedHosts := orphanedHosts }

/-! ### `insights/insights.service.ts`: the daily check -/

def conditionForFlag : InsightFlag → String
  | .idleHost => "system:idle_host_detected"
  | .orphanedDomain => "system:orphan_detected"
  | .orphanedHost => "system:orphan_detected"

/-- An entity that matches, with the message that is built for it. -/
structure InsightMatch where
  id : Nat
  orgId : Nat
  message : String
deriving Repr, Inhabited, DecidableEq

def newInsight (entityId : Nat) (flag : InsightFlag) (active : Bool) : InsightState :=
  { id := 0
    entityId := entityId
    flag := flag
    active := active }

def upsertFlag (entityId : Nat) (flag : InsightFlag) (active : Bool) : Job Unit := do
  match ← query (.findInsight entityId flag) with
  | none => do
      let _ ← query (.insertInsight (newInsight entityId flag active))
      return ()
  | some state => do
      let _ ← query (.saveInsight { state with active := active })
      return ()

def directCondition (flag : InsightFlag) (entity : InsightMatch) :
    EvaluateDirectConditionInput :=
  { orgId := entity.orgId
    entityType := .system
    entityId := entity.id
    condition := conditionForFlag flag
    message := entity.message }

section Daily

variable (platform : Platform)

/-- The first loop of `evaluateFlagTransitions`. -/
def activateFlags (flag : InsightFlag) (previouslyActiveIds : List Nat) :
    List InsightMatch → Job Unit
  | [] => return ()
  | entity :: entities => do
      if !previouslyActiveIds.contains entity.id then
        evaluateDirectCondition platform (directCondition flag entity)
      upsertFlag entity.id flag true
      activateFlags flag previouslyActiveIds entities

/-- The second loop of `evaluateFlagTransitions`. -/
def deactivateFlags (flag : InsightFlag) : List InsightState → Job Unit
  | [] => return ()
  | state :: states => do
      upsertFlag state.entityId flag false
      deactivateFlags flag states

def evaluateFlagTransitions (flag : InsightFlag)
    (currentlyMatching : List InsightMatch) : Job Unit := do
  let currentIds := currentlyMatching.map InsightMatch.id
  let previousStates ← query (.findActiveInsights flag)
  let previouslyActiveIds := previousStates.map InsightState.entityId
  activateFlags platform flag previouslyActiveIds currentlyMatching
  deactivateFlags flag
    (previousStates.filter fun state => !currentIds.contains state.entityId)

def idleHostMatch (host : Host) : InsightMatch :=
  { id := host.id
    orgId := host.orgId
    message := "Host \"" ++ host.name ++
      "\" appears idle: healthy, zero running containers, registered over " ++
      toString idleHostMinAgeHours ++ "h ago" }

def orphanedDomainMatch (domain : Domain) : InsightMatch :=
  { id := domain.id
    orgId := domain.orgId
    message :=
      if domain.hostId = none then
        "Domain \"" ++ domain.hostname ++ "\" has no host linked"
      else
        "Domain \"" ++ domain.hostname ++ "\" resolves to " ++
          domain.resolvedIp.getD "null" ++ ", which matches no registered host" }

def orphanedHostMatch (host : Host) : InsightMatch :=
  { id := host.id
    orgId := host.orgId
    message := "Host \"" ++ host.name ++ "\" has no domain pointing at it" }

/-- The entities that match a flag now. -/
def computeMatches : InsightFlag → Job (List InsightMatch)
  | .idleHost => do return (← computeIdleHosts none).map idleHostMatch
  | .orphanedDomain => do return (← computeOrphanedDomains none).map orphanedDomainMatch
  | .orphanedHost => do return (← computeOrphanedHosts none).map orphanedHostMatch

def evaluateFlag (flag : InsightFlag) : Job Unit := do
  let currentlyMatching ← computeMatches flag
  evaluateFlagTransitions platform flag currentlyMatching

def evaluateIdleHosts : Job Unit := evaluateFlag platform .idleHost

def evaluateOrphanedDomains : Job Unit := evaluateFlag platform .orphanedDomain

def evaluateOrphanedHosts : Job Unit := evaluateFlag platform .orphanedHost

def runDailyCheck : Job Unit := do
  evaluateIdleHosts platform
  evaluateOrphanedDomains platform
  evaluateOrphanedHosts platform

end Daily

end ServersManager
