import OpenShellOperator.Policy
import OpenShellOperator.Volumes
import Mathlib.Tactic.SplitIfs

/-! # Sandbox requests and fingerprints

The spec of a sandbox and its resolved policy are rendered three times: into the create
request, into the material of the immutable fingerprint (a change recreates the sandbox), and
into the material of the mutable policy fingerprint (a change is applied in place).

The materials lose nothing of what they render: `immutableMaterial_inj` reads every rendered
field back from equal materials, `mutableMaterial_inj` the mutable policy sections.  What the
two fingerprints cover of the request and of the policy document is
`request_covered_iff_version`: everything but the policy's version.  The immutable material
extends the one of the first schema conservatively (`immutableMaterial_conservative`). -/

namespace OpenShell
open Wire

/-! ### Rendering -/

/-- The gateway workspace a sandbox targets; empty when unset. -/
def OpenShellSandboxSpec.workspaceOf (spec : OpenShellSandboxSpec) : String :=
  spec.workspace.getD ""

/-- Whether a resource section sets a quantity. -/
def hasQuantity (q : Option ResourceQuantities) : Bool :=
  q.any (fun q => q.cpu.isSome || q.memory.isSome)

/-- The resources as JSON, or none when no quantity is set. -/
def resourcesJson (resources : Option SandboxResources) : Option Json :=
  match resources with
  | none => none
  | some resources =>
      if !hasQuantity resources.requests && !hasQuantity resources.limits then none
      else some resources.toJson

/-- The gateway create for a spec and its resolved policy. -/
def buildSandboxCreate (name : String) (spec : OpenShellSandboxSpec)
    (policy : Option SandboxPolicy) : SandboxCreate where
  name := name
  image := spec.image
  environment := spec.environment
  providers := spec.providers
  gpu := spec.gpu
  gpuCount := spec.gpuCount
  policy := policy
  driverConfig := Volumes.driverConfigJson name spec.volumes
  logLevel := spec.logLevel
  resources := resourcesJson spec.resources
  runtimeClassName := spec.runtimeClassName
  labels := spec.labels
  annotations := spec.annotations
  workspace := spec.workspaceOf

def volumeMaterial (volume : SandboxVolume) : Json :=
  .ofPairs
    [("name", .str volume.name), ("mountPath", .str volume.mountPath),
     ("subPath", .ofStr? volume.subPath), ("readOnly", .bool volume.readOnly)]

/-- A map that is folded in only when it has entries. -/
def nonEmptyMap (m : StrMap String) : Option Json :=
  if m.isEmpty then none else some (.ofMap .str m)

/-- The material of the immutable fingerprint: six keys always, the later ones only when
their normalized value is set. -/
def immutableMaterial (spec : OpenShellSandboxSpec) (policy : Option OpenShellPolicySpec) :
    Json :=
  .obj (Json.insertSome "annotations" (nonEmptyMap spec.annotations)
    (Json.insertSome "labels" (nonEmptyMap spec.labels)
      (Json.insertSome "runtimeClassName" (spec.runtimeClassName.map .str)
        (Json.insertSome "resources" (resourcesJson spec.resources)
          (Json.insertSome "logLevel" (spec.logLevel.map .str)
            (Json.insertSome "gpuCount"
                ((if spec.gpu then spec.gpuCount else none).map .ofU32)
              (Json.insert "volumes" (.arr (spec.volumes.map volumeMaterial))
                (Json.insert "process"
                    (.ofOption ((policy.bind (·.process)).map (·.toJson)))
                  (Json.insert "landlock"
                      (.ofOption ((policy.bind (·.landlock)).map (·.toJson)))
                    (Json.insert "gpu" (.bool spec.gpu)
                      (Json.insert "environment" (.ofMap .str spec.environment)
                        (Json.insert "image" (.ofStr? spec.image) []))))))))))))

/-- The material of the mutable policy fingerprint. -/
def mutableMaterial (policy : Option OpenShellPolicySpec) : Json :=
  .ofPairs
    [("networkPolicies", .ofOption (policy.map (fun policy => .ofMap id policy.networkPolicies))),
     ("filesystem", .ofOption ((policy.bind (·.filesystem)).map (·.toJson)))]

section fingerprints
variable (X : Externals)

def hashMaterial (material : Json) : String := X.digest material

/-- Fingerprint of the fields that are immutable on a live sandbox. -/
def immutableFingerprint (spec : OpenShellSandboxSpec) (policy : Option OpenShellPolicySpec) :
    String :=
  hashMaterial X (immutableMaterial spec policy)

/-- Fingerprint of the policy fields that are mutable on a live sandbox. -/
def mutablePolicyFingerprint (policy : Option OpenShellPolicySpec) : String :=
  hashMaterial X (mutableMaterial policy)

/-- The gateway's policy message of a resolved policy source. -/
def resolvedProto (policy : Option OpenShellPolicySpec) : Except Error (Option SandboxPolicy) :=
  match policy with
  | none => .ok none
  | some spec => (toProto X spec).map some

/-- The create request for a spec and a policy source. -/
def requestFor (name : String) (spec : OpenShellSandboxSpec)
    (policy : Option OpenShellPolicySpec) : Except Error CreateSandboxRequest :=
  (resolvedProto X policy).map (fun proto =>
    createSandboxRequest (buildSandboxCreate name spec proto))

end fingerprints

/-! ### What the materials determine -/

theorem nonEmpty_inj {s t : String} (h : nonEmpty s = nonEmpty t) : s = t := by
  unfold nonEmpty at h
  split_ifs at h with hs ht ht
  · rw [hs, ht]
  · exact Json.str.inj (Option.some.inj h)

theorem nonEmptyList_inj {l l' : List String} (h : nonEmptyList l = nonEmptyList l') :
    l = l' := by
  unfold nonEmptyList at h
  split_ifs at h with hl hl' hl'
  · rw [hl, hl']
  · exact Json.ofStrings_inj (Option.some.inj h)

theorem nonEmptyMap_inj {m m' : StrMap String} (h : nonEmptyMap m = nonEmptyMap m') :
    m = m' := by
  unfold nonEmptyMap at h
  split_ifs at h with hm hm' hm'
  · rw [Std.ExtTreeMap.isEmpty_iff.mp hm, Std.ExtTreeMap.isEmpty_iff.mp hm']
  · exact Json.ofMap_inj (fun _ _ h => Json.str.inj h) (Option.some.inj h)

theorem map_str_inj {s t : Option String} (h : s.map Json.str = t.map Json.str) : s = t :=
  Option.map_injective (fun _ _ h => Json.str.inj h) h

theorem LandlockPolicy.toJson_injective : Function.Injective LandlockPolicy.toJson := by
  intro p q h
  have hc := Json.find_congr h "compatibility"
  simp only [Json.find_insertSome, Json.find_nil, if_true, Option.or_none] at hc
  exact LandlockPolicy.ext (nonEmpty_inj hc)

theorem ProcessPolicy.toJson_injective : Function.Injective ProcessPolicy.toJson := by
  intro p q h
  have hu := Json.find_congr h "runAsUser"
  have hg := Json.find_congr h "runAsGroup"
  simp [Json.find_insertSome, Json.find_nil] at hu hg
  exact ProcessPolicy.ext (nonEmpty_inj hu) (nonEmpty_inj hg)

theorem FilesystemPolicy.toJson_injective : Function.Injective FilesystemPolicy.toJson := by
  intro p q h
  have hw := Json.find_congr h "includeWorkdir"
  have ho := Json.find_congr h "readOnly"
  have hr := Json.find_congr h "readWrite"
  simp [Json.find_insertSome, Json.find_insert, Json.find_nil] at hw ho hr
  exact FilesystemPolicy.ext hw (nonEmptyList_inj ho) (nonEmptyList_inj hr)

/-- What a volume contributes to the fingerprint and to the driver configuration. -/
def SandboxVolume.mount (v : SandboxVolume) : String × String × Option String × Bool :=
  (v.name, v.mountPath, v.subPath, v.readOnly)

theorem volumeMaterial_inj {v w : SandboxVolume} (h : volumeMaterial v = volumeMaterial w) :
    v.mount = w.mount := by
  have hn := Json.find_congr h "name"
  have hm := Json.find_congr h "mountPath"
  have hs := Json.find_congr h "subPath"
  have hr := Json.find_congr h "readOnly"
  simp [Json.find_insert] at hn hm hs hr
  unfold SandboxVolume.mount
  rw [hn, hm, Json.ofStr?_inj hs, hr]

/-- Two specs with their policies agree on every field the immutable fingerprint covers. -/
structure SameImmutable (s : OpenShellSandboxSpec) (p : Option OpenShellPolicySpec)
    (s' : OpenShellSandboxSpec) (p' : Option OpenShellPolicySpec) : Prop where
  image : s.image = s'.image
  environment : s.environment = s'.environment
  gpu : s.gpu = s'.gpu
  gpuCount : (if s.gpu then s.gpuCount else none) = if s'.gpu then s'.gpuCount else none
  landlock : p.bind (·.landlock) = p'.bind (·.landlock)
  process : p.bind (·.process) = p'.bind (·.process)
  volumes : s.volumes.map (·.mount) = s'.volumes.map (·.mount)
  logLevel : s.logLevel = s'.logLevel
  resources : resourcesJson s.resources = resourcesJson s'.resources
  runtimeClassName : s.runtimeClassName = s'.runtimeClassName
  labels : s.labels = s'.labels
  annotations : s.annotations = s'.annotations

section materials
variable {s s' : OpenShellSandboxSpec} {p p' : Option OpenShellPolicySpec}

/-- A rendering that determines the mount of a volume determines the mounts of a list. -/
theorem map_mount_inj {f : SandboxVolume → Json} (hf : ∀ v w, f v = f w → v.mount = w.mount)
    {l l' : List SandboxVolume} (h : l.map f = l'.map f) :
    l.map (·.mount) = l'.map (·.mount) := by
  induction l generalizing l' with
  | nil =>
      rw [List.map_nil, eq_comm, List.map_eq_nil_iff] at h
      rw [h]
  | cons v l ih =>
      cases l' with
      | nil => simp at h
      | cons v' l' =>
          simp only [List.map_cons, List.cons.injEq] at h ⊢
          exact ⟨hf v v' h.1, ih h.2⟩

/-- Equal immutable materials come from specs and policies that agree on all they cover. -/
theorem immutableMaterial_inj (h : immutableMaterial s p = immutableMaterial s' p') :
    SameImmutable s p s' p' := by
  have himage := Json.find_congr h "image"
  have henv := Json.find_congr h "environment"
  have hgpu := Json.find_congr h "gpu"
  have hcount := Json.find_congr h "gpuCount"
  have hlandlock := Json.find_congr h "landlock"
  have hprocess := Json.find_congr h "process"
  have hvolumes := Json.find_congr h "volumes"
  have hlog := Json.find_congr h "logLevel"
  have hres := Json.find_congr h "resources"
  have hclass := Json.find_congr h "runtimeClassName"
  have hlabels := Json.find_congr h "labels"
  have hann := Json.find_congr h "annotations"
  clear h
  simp only [Json.find_insertSome, Json.find_insert, Json.find_nil, String.reduceEq, if_true,
    if_false, Option.or_none, Option.some.injEq, Json.bool.injEq, Json.arr.injEq]
    at himage henv hgpu hcount hlandlock hprocess hvolumes hlog hres hclass hlabels hann
  exact
    { image := Json.ofStr?_inj himage
      environment := Json.ofMap_inj (fun _ _ h => Json.str.inj h) henv
      gpu := hgpu
      gpuCount := Option.map_injective Json.ofU32_injective hcount
      landlock :=
        Json.ofOption_map_inj LandlockPolicy.toJson_injective (fun _ => Json.obj_ne_null _) hlandlock
      process :=
        Json.ofOption_map_inj ProcessPolicy.toJson_injective (fun _ => Json.obj_ne_null _) hprocess
      volumes := map_mount_inj (fun _ _ h => volumeMaterial_inj h) hvolumes
      logLevel := map_str_inj hlog
      resources := hres
      runtimeClassName := map_str_inj hclass
      labels := nonEmptyMap_inj hlabels
      annotations := nonEmptyMap_inj hann }

/-- Equal mutable materials come from policies that agree on being set and on their mutable
sections. -/
theorem mutableMaterial_inj (h : mutableMaterial p = mutableMaterial p') :
    p.map (·.networkPolicies) = p'.map (·.networkPolicies) ∧
      p.bind (·.filesystem) = p'.bind (·.filesystem) := by
  have hn := Json.find_congr h "networkPolicies"
  have hf := Json.find_congr h "filesystem"
  simp only [List.foldl_cons, List.foldl_nil, Json.find_insert, Json.find_nil, String.reduceEq,
    if_true, if_false, Option.some.injEq] at hn hf
  constructor
  · have hmap : ∀ q : Option OpenShellPolicySpec,
        q.map (fun policy => Json.ofMap id policy.networkPolicies) =
          (q.map (·.networkPolicies)).map (Json.ofMap id) := by
      intro q
      rw [Option.map_map]
      rfl
    rw [hmap, hmap] at hn
    exact Json.ofOption_map_inj (fun _ _ h => Json.ofMap_inj Function.injective_id h)
      (fun _ => Json.obj_ne_null _) hn
  · exact Json.ofOption_map_inj FilesystemPolicy.toJson_injective
      (fun _ => Json.obj_ne_null _) hf

/-! ### What the fingerprints cover -/

theorem driverConfigJson_congr (name : String) {l l' : List SandboxVolume}
    (h : l.map (·.mount) = l'.map (·.mount)) :
    Volumes.driverConfigJson name l = Volumes.driverConfigJson name l' := by
  have hentry : ∀ l : List SandboxVolume, l.map (Volumes.volumeEntry name) =
      (l.map (·.mount)).map (fun m => Volumes.volumeEntry name ⟨m.1, m.2.1, m.2.2.1, m.2.2.2, {}⟩) := by
    intro l
    rw [List.map_map]
    rfl
  have hmount : ∀ l : List SandboxVolume, l.map Volumes.mountEntry =
      (l.map (·.mount)).map (fun m => Volumes.mountEntry ⟨m.1, m.2.1, m.2.2.1, m.2.2.2, {}⟩) := by
    intro l
    rw [List.map_map]
    rfl
  have hempty : l.isEmpty = l'.isEmpty := by
    rw [← List.isEmpty_map (f := (·.mount)), h, List.isEmpty_map]
  unfold Volumes.driverConfigJson
  rw [hentry l, hentry l', hmount l, hmount l', h, hempty]

/-- Specs that agree on the immutable fields, the providers and the workspace make the same
request for one policy message. -/
theorem createSandboxRequest_congr (name : String) (h : SameImmutable s p s' p')
    (hp : s.providers = s'.providers) (hw : s.workspaceOf = s'.workspaceOf)
    (proto : Option SandboxPolicy) :
    createSandboxRequest (buildSandboxCreate name s proto) =
      createSandboxRequest (buildSandboxCreate name s' proto) := by
  have hb : buildSandboxCreate name s proto =
      { buildSandboxCreate name s' proto with gpuCount := s.gpuCount } := by
    simp only [buildSandboxCreate, h.image, h.environment, hp, h.gpu,
      driverConfigJson_congr name h.volumes, h.logLevel, h.resources, h.runtimeClassName, h.labels,
      h.annotations, hw]
  have hc := h.gpuCount
  rw [h.gpu] at hc
  rw [hb]
  cases hg : s'.gpu with
  | false => simp only [createSandboxRequest, buildSandboxCreate, hg]; rfl
  | true =>
      rw [hg, if_pos rfl, if_pos rfl] at hc
      rw [hc]
      rfl

/-- Equal documents have equal versions. -/
theorem canonicalDocument_version {q q' : OpenShellPolicySpec}
    (h : canonicalDocument q = canonicalDocument q') : q.version = q'.version := by
  have hv := Json.find_congr h "version"
  simp only [Json.find_insertSome, Json.find_insert, String.reduceEq, if_true, if_false,
    Option.some.injEq] at hv
  exact Json.ofU32_injective hv

/-- Two policies with the same mutable sections, `landlock` and `process` have the same
document if and only if they have the same version. -/
theorem documents_eq_iff (h : SameImmutable s p s' p') (hm : mutableMaterial p = mutableMaterial p') :
    p.map canonicalDocument = p'.map canonicalDocument ↔ p.map (·.version) = p'.map (·.version) := by
  obtain ⟨hn, hf⟩ := mutableMaterial_inj hm
  have hl := h.landlock
  have hp := h.process
  cases p with
  | none =>
      cases p' with
      | none => simp
      | some q' => simp at hn
  | some q =>
      cases p' with
      | none => simp at hn
      | some q' =>
          simp only [Option.map_some, Option.some.injEq, Option.bind_some] at hn hf hl hp ⊢
          refine ⟨canonicalDocument_version, fun hv => ?_⟩
          simp only [canonicalDocument, hn, hf, hl, hp, hv]

/-- The policy message is a function of the document. -/
theorem resolvedProto_congr (X : Externals)
    (h : p.map canonicalDocument = p'.map canonicalDocument) :
    resolvedProto X p = resolvedProto X p' := by
  cases p with
  | none =>
      cases p' with
      | none => rfl
      | some q' => cases h
  | some q =>
      cases p' with
      | none => cases h
      | some q' =>
          have hd : canonicalDocument q = canonicalDocument q' := Option.some.inj h
          simp only [resolvedProto, toProto, hd]

/-- **The two fingerprints cover everything but the policy's version.**  For one name and
workspace and one providers list, if both materials are equal, then the policy documents and
the create requests are equal if and only if the policies have the same version. -/
theorem request_covered_iff_version (X : Externals) (name : String)
    (hw : s.workspace = s'.workspace) (hp : s.providers = s'.providers)
    (hi : immutableMaterial s p = immutableMaterial s' p')
    (hm : mutableMaterial p = mutableMaterial p') :
    (p.map canonicalDocument = p'.map canonicalDocument ∧
        requestFor X name s p = requestFor X name s' p') ↔
      p.map (·.version) = p'.map (·.version) := by
  have h := immutableMaterial_inj hi
  have hd := documents_eq_iff h hm
  refine ⟨fun hc => hd.mp hc.1, fun hv => ⟨hd.mpr hv, ?_⟩⟩
  have hwo : s.workspaceOf = s'.workspaceOf := congrArg (·.getD "") hw
  unfold requestFor
  rw [resolvedProto_congr X (hd.mpr hv)]
  congr 1
  funext proto
  exact createSandboxRequest_congr name h hp hwo proto

end materials

/-- YAML and policy parsing on documents that hold a version and nothing else. -/
def versionExternals : Externals where
  toYaml
    | .obj [("version", .num (.posInt n))] => .ok ("version: " ++ toString n.toNat ++ "\n")
    | _ => .error "unsupported"
  parseSandboxPolicy
    | "version: 1\n" => .ok ⟨1, none, none, none, ∅⟩
    | _ => .error "unsupported"
  digest := Json.text
  digestBytes bytes := String.ofList (bytes.map (fun b => Char.ofNat b.toNat))
  accepts _ _ := true
  printable c := 0x20 ≤ c.toNat && c.toNat < 0x7F

/-- A claim template is covered by neither fingerprint nor request, so edits of it change
nothing. -/
theorem request_covered_claim_edit :
    ((some ({} : OpenShellPolicySpec)).map canonicalDocument =
          (some ({} : OpenShellPolicySpec)).map canonicalDocument ∧
        requestFor versionExternals "box" { volumes := [⟨"data", "/data", none, false, {}⟩] }
            (some {}) =
          requestFor versionExternals "box"
            { volumes := [⟨"data", "/data", none, false, { volumeMode := some "Filesystem" }⟩] }
            (some {})) ↔
      (some ({} : OpenShellPolicySpec)).map (·.version) =
        (some ({} : OpenShellPolicySpec)).map (·.version) :=
  request_covered_iff_version versionExternals "box" rfl rfl rfl rfl

/-- Raising a policy's version changes the document and neither material. -/
theorem policy_version_uncovered :
    immutableMaterial {} (some { version := 1 }) = immutableMaterial {} (some { version := 2 }) ∧
      mutableMaterial (some { version := 1 }) = mutableMaterial (some { version := 2 }) ∧
      canonicalDocument { version := 1 } ≠ canonicalDocument { version := 2 } := by
  refine ⟨rfl, rfl, fun h => ?_⟩
  exact absurd (canonicalDocument_version h) (by decide)

/-! ### Fields added later -/

/-- The material of the first schema: six keys, always there. -/
def originalMaterial (spec : OpenShellSandboxSpec) (policy : Option OpenShellPolicySpec) : Json :=
  .obj (Json.insert "volumes" (.arr (spec.volumes.map volumeMaterial))
    (Json.insert "process" (.ofOption ((policy.bind (·.process)).map (·.toJson)))
      (Json.insert "landlock" (.ofOption ((policy.bind (·.landlock)).map (·.toJson)))
        (Json.insert "gpu" (.bool spec.gpu)
          (Json.insert "environment" (.ofMap .str spec.environment)
            (Json.insert "image" (.ofStr? spec.image) []))))))

/-- Every field added after the first schema is unset, or is dropped by normalization: a GPU
count without a GPU, resources without a quantity. -/
structure LaterUnset (spec : OpenShellSandboxSpec) : Prop where
  gpuCount : spec.gpuCount = none ∨ spec.gpu = false
  logLevel : spec.logLevel = none
  resources : ∀ r q, spec.resources = some r → r.requests = some q ∨ r.limits = some q →
    q.cpu = none ∧ q.memory = none
  runtimeClassName : spec.runtimeClassName = none
  labels : spec.labels = ∅
  annotations : spec.annotations = ∅

theorem nonEmptyMap_eq_none {m : StrMap String} : nonEmptyMap m = none ↔ m = ∅ := by
  rw [nonEmptyMap, ite_eq_left_iff, ← Std.ExtTreeMap.isEmpty_iff]
  simp

theorem hasQuantity_eq_false {q : Option ResourceQuantities} :
    hasQuantity q = false ↔ ∀ r, q = some r → r.cpu = none ∧ r.memory = none := by
  cases q with
  | none => simp [hasQuantity]
  | some r => simp [hasQuantity]

/-- Resources are dropped exactly when they have no quantity. -/
theorem resourcesJson_eq_none {resources : Option SandboxResources} :
    resourcesJson resources = none ↔ ∀ r q, resources = some r →
      r.requests = some q ∨ r.limits = some q → q.cpu = none ∧ q.memory = none := by
  cases resources with
  | none => simp [resourcesJson]
  | some r =>
      have hnone : resourcesJson (some r) = none ↔
          hasQuantity r.requests = false ∧ hasQuantity r.limits = false := by
        simp [resourcesJson]
      rw [hnone, hasQuantity_eq_false, hasQuantity_eq_false]
      constructor
      · rintro ⟨hrequests, hlimits⟩ r' q hr hq
        cases hr
        exact hq.elim (hrequests q) (hlimits q)
      · intro h
        exact ⟨fun q hq => h r q rfl (.inl hq), fun q hq => h r q rfl (.inr hq)⟩

theorem gpuCount_eq_none {spec : OpenShellSandboxSpec} :
    (if spec.gpu then spec.gpuCount else none).map Json.ofU32 = none ↔
      spec.gpuCount = none ∨ spec.gpu = false := by
  cases spec.gpu <;> simp

/-- **A conservative extension.**  When all later fields are unset or dropped, the material is
the one of the first schema, so that the hash recorded by an older operator still holds; as
soon as one of them counts, the material is none that the first schema had for any spec. -/
theorem immutableMaterial_conservative (spec : OpenShellSandboxSpec)
    (policy : Option OpenShellPolicySpec) :
    (LaterUnset spec → immutableMaterial spec policy = originalMaterial spec policy) ∧
    (¬ LaterUnset spec → ∀ spec' policy',
      immutableMaterial spec policy ≠ originalMaterial spec' policy') := by
  constructor
  · intro h
    rw [immutableMaterial, nonEmptyMap_eq_none.mpr h.annotations, nonEmptyMap_eq_none.mpr h.labels,
      h.runtimeClassName, resourcesJson_eq_none.mpr h.resources, h.logLevel,
      gpuCount_eq_none.mpr h.gpuCount]
    rfl
  · intro hset spec' policy' h
    -- the keys of the later fields are missing on the right
    have hcount := Json.find_congr h "gpuCount"
    have hlog := Json.find_congr h "logLevel"
    have hres := Json.find_congr h "resources"
    have hclass := Json.find_congr h "runtimeClassName"
    have hlabels := Json.find_congr h "labels"
    have hann := Json.find_congr h "annotations"
    clear h
    simp only [Json.find_insertSome, Json.find_insert, Json.find_nil, String.reduceEq, if_true,
      if_false, Option.or_none] at hcount hlog hres hclass hlabels hann
    exact hset
      { gpuCount := gpuCount_eq_none.mp hcount
        logLevel := Option.map_eq_none_iff.mp hlog
        resources := resourcesJson_eq_none.mp hres
        runtimeClassName := Option.map_eq_none_iff.mp hclass
        labels := nonEmptyMap_eq_none.mp hlabels
        annotations := nonEmptyMap_eq_none.mp hann }

end OpenShell
