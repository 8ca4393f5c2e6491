import OpenShellOperator.Wire.Json

/-! # Provider credential handling

How the credential values of a Secret are handed to the gateway: copied as static values, or
configured as a refresh from seed material when the provider profile declares one and the
Secret supplies what it needs.

`planCredentials` walks the profile's credentials and collects the planned refreshes, the
credentials that fell back to a copy because their material is incomplete, and the Secret
keys consumed as seed material; what is not consumed is copied. -/

namespace OpenShell
open Wire

inductive RefreshStrategy where
  | oauth2RefreshToken
  | oauth2ClientCredentials
  | googleServiceAccountJwt
  | awsStsAssumeRole
deriving DecidableEq, Repr

/-- One piece of seed material a refresh strategy consumes. -/
structure MaterialSpec where
  name : String
  required : Bool
  secret : Bool
deriving DecidableEq, Repr

structure RefreshSpec where
  strategy : RefreshStrategy
  material : List MaterialSpec
deriving DecidableEq, Repr

/-- A resolved refresh configuration. -/
structure RefreshPlan where
  strategy : RefreshStrategy
  material : StrMap String
  secretMaterialKeys : List String
deriving DecidableEq, Repr

/-- Required material the resolved credentials did not supply. -/
structure MissingMaterial where
  strategy : RefreshStrategy
  missing : List String
deriving DecidableEq, Repr

/-- What the walk over the material of one refresh has collected. -/
structure Gathered where
  material : StrMap String := ∅
  secretMaterialKeys : List String := []
  missing : List String := []

/-- One round of the walk: material is matched by name, absent optional material omitted. -/
def Gathered.add (resolved : StrMap String) (g : Gathered) (item : MaterialSpec) : Gathered :=
  match resolved[item.name]? with
  | some value =>
      { g with
        material := g.material.insert item.name value
        secretMaterialKeys :=
          if item.secret then g.secretMaterialKeys ++ [item.name] else g.secretMaterialKeys }
  | none => if item.required then { g with missing := g.missing ++ [item.name] } else g

/-- The seed material of a refresh strategy, or the names of what is missing. -/
def buildRefreshMaterial (spec : RefreshSpec) (resolved : StrMap String) :
    Except MissingMaterial RefreshPlan :=
  let g := spec.material.foldl (Gathered.add resolved) {}
  if g.missing.isEmpty then
    .ok ⟨spec.strategy, g.material, g.secretMaterialKeys⟩
  else
    .error ⟨spec.strategy, g.missing⟩

/-- How a provider's credentials were handed to the gateway. -/
inductive CredentialMode where
  | copied
  | refresh
  | mixed
deriving DecidableEq, Repr

structure PlannedRefresh where
  credentialKey : String
  plan : RefreshPlan
deriving DecidableEq, Repr

structure DegradedCredential where
  credentialKey : String
  missing : List String
deriving DecidableEq, Repr

structure ProviderCredentialPlan where
  staticCredentials : StrMap String
  refreshes : List PlannedRefresh
  degraded : List DegradedCredential
deriving DecidableEq, Repr

/-- The summary reported in `.status.credentialMode`. -/
def ProviderCredentialPlan.mode (p : ProviderCredentialPlan) : CredentialMode :=
  match p.refreshes.isEmpty, p.staticCredentials.isEmpty with
  | true, _ => .copied
  | false, true => .refresh
  | false, false => .mixed

/-- What the walk over the profile's credentials has collected. -/
structure Planned where
  refreshes : List PlannedRefresh := []
  degraded : List DegradedCredential := []
  consumed : List String := []

/-- One round of the walk.  A credential whose strategy is AWS STS is copied; one whose
material is partly supplied is reported as degraded. -/
def Planned.add (resolved : StrMap String) (p : Planned)
    (credential : String × Option RefreshSpec) : Planned :=
  match credential.2 with
  | none => p
  | some spec =>
      match buildRefreshMaterial spec resolved with
      | .ok plan =>
          if plan.strategy = .awsStsAssumeRole then p
          else
            { p with
              consumed := p.consumed ++ plan.material.keys
              refreshes := p.refreshes ++ [⟨credential.1, plan⟩] }
      | .error missing =>
          if spec.material.any (fun item => resolved.contains item.name) then
            { p with degraded := p.degraded ++ [⟨credential.1, missing.missing⟩] }
          else p

/-- Plan how to hand a provider's credentials to the gateway. -/
def planCredentials (profileCredentials : List (String × Option RefreshSpec))
    (resolved : StrMap String) : ProviderCredentialPlan :=
  let p := profileCredentials.foldl (Planned.add resolved) {}
  { staticCredentials := resolved.filter (fun key _ => !p.consumed.contains key)
    refreshes := p.refreshes
    degraded := p.degraded }

end OpenShell
