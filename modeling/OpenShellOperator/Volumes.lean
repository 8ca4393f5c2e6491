import OpenShellOperator.Gateway

/-! # Sandbox volumes

The claims provisioned for a sandbox's volumes and the driver configuration that mounts them
into the sandbox pod. -/

namespace OpenShell
open Wire

namespace Volumes

def managedByLabel : String := "app.kubernetes.io/managed-by"
def managedByValue : String := "openshell-operator"
def sandboxLabel : String := "openshell.lenshq.io/sandbox"
def attachableLabel : String := "openshell.ai/sandbox-attachable"
def attachableWorkspaceLabel : String := "openshell.ai/sandbox-attachable-workspace"
def driverKey : String := "kubernetes"

/-! ### Validation -/

/-- The `White_Space` property of characters. -/
def isWhitespace (c : Char) : Bool :=
  let n := c.toNat
  (9 ≤ n && n ≤ 13) || n == 0x20 || n == 0x85 || n == 0xA0 || n == 0x1680 ||
    (0x2000 ≤ n && n ≤ 0x200A) || n == 0x2028 || n == 0x2029 || n == 0x202F || n == 0x205F ||
    n == 0x3000

section validation
variable (printable : Char → Bool)

/-- One character of a quoted string: what is not printable is escaped by its code. -/
def debugChar (c : Char) : String :=
  if c = '\x00' then "\\0" else if c = '\t' then "\\t" else if c = '\r' then "\\r"
  else if c = '\n' then "\\n" else if c = '\\' then "\\\\" else if c = '"' then "\\\""
  else if printable c then c.toString
  else "\\u\x7b" ++ String.ofList (Nat.toDigits 16 c.toNat) ++ "\x7d"

/-- A string in quotes, as error messages show it. -/
def debugStr (s : String) : String :=
  "\"" ++ String.join (s.toList.map (debugChar printable)) ++ "\""

/-- The checks on one volume, given the names before it. -/
def validateOne (seen : List String) (volume : SandboxVolume) : Except Error Unit :=
  if volume.name.toList.all isWhitespace then
    .error (.volumeInvalid "volume name must not be empty")
  else if seen.contains volume.name then
    .error (.volumeInvalid ("duplicate volume name " ++ debugStr printable volume.name))
  else if volume.mountPath.toList.head? ≠ some '/' then
    .error (.volumeInvalid ("volume " ++ debugStr printable volume.name ++
      " mountPath must be absolute, got " ++ debugStr printable volume.mountPath))
  else if volume.claim.volumeMode = some "Block" then
    .error (.volumeInvalid ("volume " ++ debugStr printable volume.name ++
      " uses volumeMode Block; the sandbox mounts a filesystem"))
  else .ok ()

def validateFrom : List String → List SandboxVolume → Except Error Unit
  | _, [] => .ok ()
  | seen, volume :: volumes =>
      match validateOne printable seen volume with
      | .ok () => validateFrom (volume.name :: seen) volumes
      | .error err => .error err

/-- Reject volumes the sandbox cannot honor. -/
def validate (volumes : List SandboxVolume) : Except Error Unit := validateFrom printable [] volumes

end validation

/-! ### Claims -/

/-- The name of the claim of a sandbox volume. -/
def pvcName (sandbox : String) (volume : SandboxVolume) : String := sandbox ++ "-" ++ volume.name

/-- The label selector for the claims of a sandbox. -/
def selector (sandbox : String) : String := sandboxLabel ++ "=" ++ sandbox

/-- The labels that approve a claim for attachment to a sandbox in `workspace`. -/
def admissionLabels (workspace : String) : StrMap String :=
  ((∅ : StrMap String).insert attachableLabel "true").insert attachableWorkspaceLabel
    (workspaceName workspace)

/-- The claim to provision for a volume. -/
def buildPvc (sandbox workspace : String) (volume : SandboxVolume) : PersistentVolumeClaim where
  name := pvcName sandbox volume
  labels := some (((admissionLabels workspace).insert managedByLabel managedByValue).insert
    sandboxLabel sandbox)
  spec := some volume.claim

/-! ### Driver configuration -/

def volumeEntry (sandbox : String) (volume : SandboxVolume) : Json :=
  .ofPairs
    [("name", .str volume.name),
     ("persistent_volume_claim", .ofPairs
       [("claim_name", .str (pvcName sandbox volume)), ("read_only", .bool volume.readOnly)])]

def mountEntry (volume : SandboxVolume) : Json :=
  .obj (Json.insertSome "sub_path" (volume.subPath.map .str)
    (Json.insert "read_only" (.bool volume.readOnly)
      (Json.insert "mount_path" (.str volume.mountPath)
        (Json.insert "name" (.str volume.name) []))))

/-- The driver configuration that mounts the volumes, or none without volumes. -/
def driverConfigJson (sandbox : String) (volumes : List SandboxVolume) : Option Json :=
  if volumes.isEmpty then none
  else some (.ofPairs
    [(driverKey, .ofPairs
      [("volumes", .arr (volumes.map (volumeEntry sandbox))),
       ("containers", .ofPairs
         [("agent", .ofPairs [("volume_mounts", .arr (volumes.map mountEntry))])])])])

end Volumes
end OpenShell
