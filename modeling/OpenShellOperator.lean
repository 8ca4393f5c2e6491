import OpenShellOperator.Effects.Prog
import OpenShellOperator.Effects.Threads
import OpenShellOperator.Effects.Session
import OpenShellOperator.Effects.Embed
import OpenShellOperator.Effects.Contract
import OpenShellOperator.Effects.Watch
import OpenShellOperator.Effects.Expand
import OpenShellOperator.Wire.Json
import OpenShellOperator.Wire.Merge
import OpenShellOperator.Wire.Terminated
import OpenShellOperator.Wire.Key
import OpenShellOperator.Wire.Base64
import OpenShellOperator.Kube
import OpenShellOperator.Credentials
import OpenShellOperator.Credentials.Routing
import OpenShellOperator.Crd
import OpenShellOperator.Error
import OpenShellOperator.Gateway
import OpenShellOperator.Volumes
import OpenShellOperator.Volumes.Mounts
import OpenShellOperator.Policy
import OpenShellOperator.Calls
import OpenShellOperator.Policy.Reconcile
import OpenShellOperator.Profile.Reconcile
import OpenShellOperator.World
import OpenShellOperator.Profile.Rest
import OpenShellOperator.Profile.Deletion
import OpenShellOperator.GatewaySpec
import OpenShellOperator.Ownership
import OpenShellOperator.Sandbox.Fingerprint
import OpenShellOperator.Sandbox.Normalization
import OpenShellOperator.Sandbox.Reconcile
import OpenShellOperator.Sandbox.Spec
import OpenShellOperator.Sandbox.Provision
import OpenShellOperator.Sandbox.Teardown
import OpenShellOperator.Sandbox.SpecHash
import OpenShellOperator.Sandbox.Converge
import OpenShellOperator.Sandbox.Attachments
import OpenShellOperator.Sandbox.Claims
import OpenShellOperator.Provider.Reconcile
import OpenShellOperator.Provider.Material
import OpenShellOperator.Provider.Secrecy
import OpenShellOperator.Provider.Spec
import OpenShellOperator.Provider.Sync
import OpenShellOperator.Exclusive
import OpenShellOperator.Workspace.Reconcile
import OpenShellOperator.Workspace.Spec
import OpenShellOperator.Workspace.Members
import OpenShellOperator.Statuses
import OpenShellOperator.Conditions
import OpenShellOperator.Policy.Verdict
import OpenShellOperator.Workspace.Converge
import OpenShellOperator.Finalizers
import OpenShellOperator.Workspace.Deletion
import OpenShellOperator.Contracts
import OpenShellOperator.Triggers
import OpenShellOperator.Workspace.Teardown
import OpenShellOperator.Paging
import OpenShellOperator.Issuer.Mint
import OpenShellOperator.Issuer.Serving
import OpenShellOperator.Webhook
import OpenShellOperator.Webhook.Bootstrap
import OpenShellOperator.Webhook.Rewrite
import OpenShellOperator.Leader.Elector
import OpenShellOperator.Leader.Lease
import OpenShellOperator.Leader.Term
import OpenShellOperator.Leader.Takeover
import OpenShellOperator.Startup
