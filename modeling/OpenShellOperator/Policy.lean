import OpenShellOperator.Gateway

/-! # Policy documents

The canonical policy document handed to the gateway's parser.  The parser, the YAML renderer,
the digest of rendered values and the Unicode tables behind quoted text are code outside the
operator and stand as parameters. -/

namespace OpenShell
open Wire

/-- Code outside the operator that its decisions rest on. -/
structure Externals where
  /-- The YAML text of a document. -/
  toYaml : Json → Except String String
  /-- The gateway's policy parser. -/
  parseSandboxPolicy : String → Except String SandboxPolicy
  /-- The hex digest of a rendered value. -/
  digest : Json → String
  /-- The hex digest of a byte stream. -/
  digestBytes : List UInt8 → String
  /-- Whether the gateway lets the policy of a live sandbox change to a new one. -/
  accepts : Option SandboxPolicy → SandboxPolicy → Bool
  /-- Whether quoted text shows a character as it is: one that is printable and extends no
  grapheme. -/
  printable : Char → Bool

/-- The document in the parser's own spelling; typed sections only when present. -/
def canonicalDocument (spec : OpenShellPolicySpec) : Json :=
  .obj (Json.insertSome "network_policies"
      (if spec.networkPolicies.isEmpty then none else some (.ofMap id spec.networkPolicies))
    (Json.insertSome "process" (spec.process.map (fun process => .ofPairs
        [("run_as_user", .str process.runAsUser), ("run_as_group", .str process.runAsGroup)]))
      (Json.insertSome "landlock" (spec.landlock.map (fun landlock => .ofPairs
          [("compatibility", .str landlock.compatibility)]))
        (Json.insertSome "filesystem_policy" (spec.filesystem.map (fun fs => .ofPairs
            [("include_workdir", .bool fs.includeWorkdir),
             ("read_only", .ofStrings fs.readOnly),
             ("read_write", .ofStrings fs.readWrite)]))
          (Json.insert "version" (.ofU32 spec.version) [])))))

/-- The gateway's policy message for a spec, validated by the gateway's parser. -/
def toProto (X : Externals) (spec : OpenShellPolicySpec) : Except Error SandboxPolicy :=
  match X.toYaml (canonicalDocument spec) with
  | .error err => .error (.policyInvalid ("failed to render policy document: " ++ err))
  | .ok yaml =>
      match X.parseSandboxPolicy yaml with
      | .error err => .error (.policyInvalid err)
      | .ok policy => .ok policy

end OpenShell
