import OpenShellOperator.Sandbox.Fingerprint

/-! # What a recreate sends

A change of the immutable fingerprint deletes and recreates the sandbox, so an edit that
leaves the create request and the policy document as they are should leave the fingerprint.

The request and the document determine every field the fingerprint covers except three:
`request_inj` reads the others back, through the conversion of JSON to protobuf values, which
loses nothing but numbers (`structToJsonValue_jsonValueToStruct`).  The image, the log level and the runtime
class are sent as strings, where an unset value becomes the empty one, and are fingerprinted
as options. -/

namespace OpenShell
open Wire

/-! ### Values without numbers -/

mutual
/-- The value has no number in it. -/
def numberFree : Json → Bool
  | .num _ => false
  | .arr items => itemsNumberFree items
  | .obj fields => fieldsNumberFree fields
  | _ => true
def itemsNumberFree : List Json → Bool
  | [] => true
  | v :: vs => numberFree v && itemsNumberFree vs
def fieldsNumberFree : List (String × Json) → Bool
  | [] => true
  | (_, v) :: fs => numberFree v && fieldsNumberFree fs
end

mutual
/-- The JSON value of a protobuf value: each kind is read as its constructor. -/
def prostToJsonValue : ProtoValue → Json
  | .nullValue => .null
  | .boolValue flag => .bool flag
  | .numberValue bits => .num (.float bits)
  | .stringValue text => .str text
  | .listValue values => .arr (prostToJsonItems values)
  | .structValue fields => .obj (prostToJsonFields fields)
def prostToJsonItems : List ProtoValue → List Json
  | [] => []
  | v :: vs => prostToJsonValue v :: prostToJsonItems vs
def prostToJsonFields : ProtoStruct → List (String × Json)
  | [] => []
  | (k, v) :: fs => (k, prostToJsonValue v) :: prostToJsonFields fs
end

/-- The JSON object of a struct, as the gateway reads it. -/
def structToJsonValue (fields : ProtoStruct) : Json := .obj (prostToJsonFields fields)

mutual
/-- A value without numbers is read back from its protobuf value. -/
theorem prostToJsonValue_jsonValueToProst : ∀ {v : Json}, numberFree v = true →
    prostToJsonValue (jsonValueToProst v) = v
  | .null, _ => rfl
  | .bool _, _ => rfl
  | .num _, hv => by simp [numberFree] at hv
  | .str _, _ => rfl
  | .arr items, hv => by
      rw [numberFree] at hv
      rw [jsonValueToProst, prostToJsonValue, prostToJsonItems_jsonItemsToProst hv]
  | .obj fields, hv => by
      rw [numberFree] at hv
      rw [jsonValueToProst, prostToJsonValue, prostToJsonFields_jsonFieldsToProst hv]
theorem prostToJsonItems_jsonItemsToProst : ∀ {l : List Json}, itemsNumberFree l = true →
    prostToJsonItems (jsonItemsToProst l) = l
  | [], _ => rfl
  | v :: vs, hl => by
      rw [itemsNumberFree, Bool.and_eq_true] at hl
      rw [jsonItemsToProst, prostToJsonItems, prostToJsonValue_jsonValueToProst hl.1,
        prostToJsonItems_jsonItemsToProst hl.2]
theorem prostToJsonFields_jsonFieldsToProst : ∀ {l : List (String × Json)},
    fieldsNumberFree l = true → prostToJsonFields (jsonFieldsToProst l) = l
  | [], _ => rfl
  | (k, v) :: fs, hl => by
      rw [fieldsNumberFree, Bool.and_eq_true] at hl
      rw [jsonFieldsToProst, prostToJsonFields, prostToJsonValue_jsonValueToProst hl.1,
        prostToJsonFields_jsonFieldsToProst hl.2]
end

/-- An object without numbers in it. -/
def NumberFreeObject (v : Json) : Prop := ∃ m, v = .obj m ∧ fieldsNumberFree m = true

/-- An object without numbers is read back from its struct. -/
theorem structToJsonValue_jsonValueToStruct {v : Json} (h : NumberFreeObject v) :
    structToJsonValue (jsonValueToStruct v) = v := by
  obtain ⟨m, rfl, hm⟩ := h
  rw [jsonValueToStruct, structToJsonValue, prostToJsonFields_jsonFieldsToProst hm]

/-- Objects without numbers are read back from their structs, absent ones included. -/
theorem map_jsonValueToStruct_inj {o o' : Option Json} (ho : ∀ v ∈ o, NumberFreeObject v)
    (ho' : ∀ v ∈ o', NumberFreeObject v)
    (h : o.map jsonValueToStruct = o'.map jsonValueToStruct) : o = o' := by
  have hread : ∀ o : Option Json, (∀ v ∈ o, NumberFreeObject v) →
      (o.map jsonValueToStruct).map structToJsonValue = o := by
    intro o ho
    cases o with
    | none => rfl
    | some v =>
        rw [Option.map_some, Option.map_some, structToJsonValue_jsonValueToStruct (ho v rfl)]
  rw [← hread o ho, h, hread o' ho']

theorem fieldsNumberFree_insert {k : String} {v : Json} {m : List (String × Json)}
    (hv : numberFree v = true) (hm : fieldsNumberFree m = true) :
    fieldsNumberFree (Json.insert k v m) = true := by
  induction m with
  | nil => simp [Json.insert, fieldsNumberFree, hv]
  | cons kv m ih =>
      obtain ⟨k', v'⟩ := kv
      simp only [fieldsNumberFree, Bool.and_eq_true] at hm
      unfold Json.insert
      split_ifs <;> simp [fieldsNumberFree, hv, hm, ih]

theorem fieldsNumberFree_insertSome {k : String} {o : Option Json} {m : List (String × Json)}
    (ho : ∀ v ∈ o, numberFree v = true) (hm : fieldsNumberFree m = true) :
    fieldsNumberFree (Json.insertSome k o m) = true := by
  cases o with
  | none => exact hm
  | some v => exact fieldsNumberFree_insert (ho v rfl) hm

theorem itemsNumberFree_iff {l : List Json} :
    itemsNumberFree l = true ↔ ∀ v ∈ l, numberFree v = true := by
  induction l with
  | nil => simp [itemsNumberFree]
  | cons v l ih => simp [itemsNumberFree, ih]

/-! ### What is rendered for the gateway has no numbers -/

theorem numberFree_map_str (s : Option String) : ∀ v ∈ s.map Json.str, numberFree v = true := by
  cases s with
  | none => exact nofun
  | some t =>
      intro v hv
      cases hv
      rfl

theorem ResourceQuantities.toJson_numberFree (q : ResourceQuantities) :
    numberFree q.toJson = true := by
  unfold ResourceQuantities.toJson
  rw [numberFree]
  exact fieldsNumberFree_insertSome (numberFree_map_str _)
    (fieldsNumberFree_insertSome (numberFree_map_str _) rfl)

theorem resourcesJson_numberFree (resources : Option SandboxResources) :
    ∀ v ∈ resourcesJson resources, NumberFreeObject v := by
  intro v hv
  rw [Option.mem_def] at hv
  unfold resourcesJson at hv
  cases resources with
  | none => cases hv
  | some r =>
      dsimp only at hv
      split_ifs at hv
      obtain rfl := Option.some.inj hv
      have hq : ∀ q : Option ResourceQuantities,
          ∀ v ∈ q.map (·.toJson), numberFree v = true := by
        intro q v hv
        obtain ⟨q', _, rfl⟩ := Option.map_eq_some_iff.mp hv
        exact q'.toJson_numberFree
      have hfields : fieldsNumberFree (Json.insertSome "limits" (r.limits.map (·.toJson))
          (Json.insertSome "requests" (r.requests.map (·.toJson)) [])) = true :=
        fieldsNumberFree_insertSome (hq _) (fieldsNumberFree_insertSome (hq _) rfl)
      exact ⟨_, rfl, hfields⟩

namespace Volumes

theorem volumeEntry_numberFree (name : String) (v : SandboxVolume) :
    numberFree (volumeEntry name v) = true := by
  unfold volumeEntry Json.ofPairs
  simp only [List.foldl_cons, List.foldl_nil, numberFree]
  refine fieldsNumberFree_insert ?_ (fieldsNumberFree_insert rfl rfl)
  exact fieldsNumberFree_insert rfl (fieldsNumberFree_insert rfl rfl)

theorem mountEntry_numberFree (v : SandboxVolume) : numberFree (mountEntry v) = true := by
  unfold mountEntry
  rw [numberFree]
  exact fieldsNumberFree_insertSome (numberFree_map_str _) (fieldsNumberFree_insert rfl
    (fieldsNumberFree_insert rfl (fieldsNumberFree_insert rfl rfl)))

theorem driverConfigJson_numberFree (name : String) (l : List SandboxVolume) :
    ∀ v ∈ driverConfigJson name l, NumberFreeObject v := by
  intro v hv
  have hvolumes : itemsNumberFree (l.map (volumeEntry name)) = true := by
    refine itemsNumberFree_iff.mpr (fun v hv => ?_)
    obtain ⟨volume, _, rfl⟩ := List.mem_map.mp hv
    exact volumeEntry_numberFree name volume
  have hmounts : itemsNumberFree (l.map mountEntry) = true := by
    refine itemsNumberFree_iff.mpr (fun v hv => ?_)
    obtain ⟨volume, _, rfl⟩ := List.mem_map.mp hv
    exact mountEntry_numberFree volume
  rw [Option.mem_def] at hv
  unfold driverConfigJson Json.ofPairs at hv
  split_ifs at hv
  obtain rfl := Option.some.inj hv
  refine ⟨_, rfl, ?_⟩
  simp only [List.foldl_cons, List.foldl_nil]
  refine fieldsNumberFree_insert ?_ rfl
  simp only [numberFree]
  refine fieldsNumberFree_insert ?_ (fieldsNumberFree_insert hvolumes rfl)
  exact fieldsNumberFree_insert (fieldsNumberFree_insert hmounts rfl) rfl

theorem mountEntry_inj {v w : SandboxVolume} (h : mountEntry v = mountEntry w) :
    v.mount = w.mount := by
  have hn := Json.find_congr h "name"
  have hm := Json.find_congr h "mount_path"
  have hs := Json.find_congr h "sub_path"
  have hr := Json.find_congr h "read_only"
  simp [Json.find_insert, Json.find_insertSome, Json.find_nil] at hn hm hs hr
  unfold SandboxVolume.mount
  rw [hn, hm, map_str_inj hs, hr]

/-- The driver configuration determines the mounts. -/
theorem driverConfigJson_inj {name : String} {l l' : List SandboxVolume}
    (h : driverConfigJson name l = driverConfigJson name l') :
    l.map (·.mount) = l'.map (·.mount) := by
  unfold driverConfigJson at h
  split_ifs at h with hl hl'
  · rw [List.isEmpty_iff.mp hl, List.isEmpty_iff.mp hl']
  · have hmounts : l.map mountEntry = l'.map mountEntry := by
      have hk := congrArg (fun v => (v.get? driverKey).bind (fun v => (v.get? "containers").bind
        (fun v => (v.get? "agent").bind (·.get? "volume_mounts")))) (Option.some.inj h)
      simpa [Json.ofPairs, Json.get?, Json.find_insert] using hk
    exact map_mount_inj (fun _ _ h => mountEntry_inj h) hmounts

end Volumes

/-- **Encoding to protobuf loses nothing.**  An object without numbers, of any depth, is read
back from its struct, so that different objects have different structs; and the driver
configuration and the resources are such objects. -/
theorem struct_encoding_lossless :
    (∀ v, NumberFreeObject v → structToJsonValue (jsonValueToStruct v) = v) ∧
    (∀ v w, NumberFreeObject v → NumberFreeObject w → v ≠ w →
      jsonValueToStruct v ≠ jsonValueToStruct w) ∧
    (∀ sandbox volumes, ∀ v ∈ Volumes.driverConfigJson sandbox volumes, NumberFreeObject v) ∧
    ∀ resources, ∀ v ∈ resourcesJson resources, NumberFreeObject v := by
  refine ⟨fun v hv => structToJsonValue_jsonValueToStruct hv, ?_,
    Volumes.driverConfigJson_numberFree, resourcesJson_numberFree⟩
  intro v w hv hw hne heq
  have hread : v = w := by
    rw [← structToJsonValue_jsonValueToStruct hv, heq, structToJsonValue_jsonValueToStruct hw]
  exact hne hread

/-! ### What the request determines -/

section request
variable {s s' : OpenShellSandboxSpec} {p p' : Option OpenShellPolicySpec}

/-- The document determines the immutable policy sections. -/
theorem canonicalDocument_sections {q q' : OpenShellPolicySpec}
    (h : canonicalDocument q = canonicalDocument q') :
    q.landlock = q'.landlock ∧ q.process = q'.process := by
  have hl := Json.find_congr h "landlock"
  have hp := Json.find_congr h "process"
  simp only [Json.find_insertSome, Json.find_insert, Json.find_nil, String.reduceEq, if_true,
    if_false, Option.or_none] at hl hp
  constructor
  · refine Option.map_injective ?_ hl
    intro a b hab
    have hc := Json.find_congr hab "compatibility"
    simp [Json.find_insert] at hc
    exact LandlockPolicy.ext hc
  · refine Option.map_injective ?_ hp
    intro a b hab
    have hu := Json.find_congr hab "run_as_user"
    have hg := Json.find_congr hab "run_as_group"
    simp [Json.find_insert] at hu hg
    exact ProcessPolicy.ext hu hg

theorem documents_sections (h : p.map canonicalDocument = p'.map canonicalDocument) :
    p.bind (·.landlock) = p'.bind (·.landlock) ∧ p.bind (·.process) = p'.bind (·.process) := by
  cases p with
  | none =>
      cases p' with
      | none => exact ⟨rfl, rfl⟩
      | some q' => cases h
  | some q =>
      cases p' with
      | none => cases h
      | some q' => exact canonicalDocument_sections (Option.some.inj h)

/-- The fields of a spec that a template carries as they are. -/
structure SameTemplate (s s' : OpenShellSandboxSpec) : Prop where
  labels : s.labels = s'.labels
  annotations : s.annotations = s'.annotations
  resources : resourcesJson s.resources = resourcesJson s'.resources
  volumes : s.volumes.map (·.mount) = s'.volumes.map (·.mount)
  image : s.image.getD "" = s'.image.getD ""
  runtimeClassName : s.runtimeClassName.getD "" = s'.runtimeClassName.getD ""

/-- Without a template nothing of it is set. -/
theorem needsTemplate_eq_false {name : String} {proto : Option SandboxPolicy}
    (h : (buildSandboxCreate name s proto).needsTemplate = false) :
    s.labels = ∅ ∧ s.annotations = ∅ ∧ resourcesJson s.resources = none ∧
      Volumes.driverConfigJson name s.volumes = none ∧ s.image = none ∧
      s.runtimeClassName = none := by
  simp only [SandboxCreate.needsTemplate, buildSandboxCreate, Bool.or_eq_false_iff,
    Option.isSome_eq_false_iff, Option.isNone_iff_eq_none, Bool.not_eq_false',
    Std.ExtTreeMap.isEmpty_iff] at h
  obtain ⟨⟨⟨⟨⟨himage, hdriver⟩, hres⟩, hclass⟩, hlabels⟩, hann⟩ := h
  exact ⟨hlabels, hann, hres, hdriver, himage, hclass⟩

theorem template_inj {name : String} {proto proto' : Option SandboxPolicy}
    (h : ((createSandboxRequest (buildSandboxCreate name s proto)).spec.bind (·.template)) =
      ((createSandboxRequest (buildSandboxCreate name s' proto')).spec.bind (·.template))) :
    SameTemplate s s' := by
  simp only [createSandboxRequest, Option.bind_some] at h
  cases hn : (buildSandboxCreate name s proto).needsTemplate with
  | false =>
      cases hn' : (buildSandboxCreate name s' proto').needsTemplate with
      | false =>
          obtain ⟨hlabels, hann, hres, hdriver, himage, hclass⟩ := needsTemplate_eq_false hn
          obtain ⟨hlabels', hann', hres', hdriver', himage', hclass'⟩ := needsTemplate_eq_false hn'
          exact
            { labels := by rw [hlabels, hlabels']
              annotations := by rw [hann, hann']
              resources := by rw [hres, hres']
              volumes := Volumes.driverConfigJson_inj (by rw [hdriver, hdriver'])
              image := by rw [himage, himage']
              runtimeClassName := by rw [hclass, hclass'] }
      | true => simp [hn, hn'] at h
  | true =>
      cases hn' : (buildSandboxCreate name s' proto').needsTemplate with
      | false => simp [hn, hn'] at h
      | true =>
          rw [if_pos hn, if_pos hn'] at h
          simp only [Option.some.injEq, SandboxTemplate.mk.injEq, buildSandboxCreate] at h
          obtain ⟨himage, hclass, hlabels, hann, hres, hdriver⟩ := h
          exact
            { labels := hlabels
              annotations := hann
              resources := map_jsonValueToStruct_inj (resourcesJson_numberFree _)
                (resourcesJson_numberFree _) hres
              volumes := Volumes.driverConfigJson_inj (map_jsonValueToStruct_inj
                (Volumes.driverConfigJson_numberFree name _)
                (Volumes.driverConfigJson_numberFree name _) hdriver)
              image := himage
              runtimeClassName := hclass }

/-- **What the request determines**: every field the fingerprint covers, the image, the log
level and the runtime class only up to an unset value being the empty one. -/
theorem request_inj {name : String} {proto proto' : Option SandboxPolicy}
    (h : createSandboxRequest (buildSandboxCreate name s proto) =
      createSandboxRequest (buildSandboxCreate name s' proto')) :
    SameTemplate s s' ∧ s.logLevel.getD "" = s'.logLevel.getD "" ∧
      s.environment = s'.environment ∧ s.gpu = s'.gpu ∧
      (if s.gpu then s.gpuCount else none) = if s'.gpu then s'.gpuCount else none := by
  have htemplate := template_inj (congrArg (fun r => r.spec.bind (·.template)) h)
  have hspec := congrArg CreateSandboxRequest.spec h
  simp only [createSandboxRequest, buildSandboxCreate, Option.some.injEq, SandboxSpec.mk.injEq]
    at hspec
  obtain ⟨hlog, henv, _, _, _, hgpu, _⟩ := hspec
  refine ⟨htemplate, hlog, henv, ?_⟩
  cases hg : s.gpu <;> cases hg' : s'.gpu <;> simp_all

/-! ### Unset and empty -/

/-- One value is unset and the other is the empty string. -/
def UnsetVersusEmpty (a b : Option String) : Prop :=
  (a = none ∧ b = some "") ∨ (a = some "" ∧ b = none)

/-- Values sent as the same string are equal unless one is unset and the other empty. -/
theorem eq_iff_not_unsetVersusEmpty {a b : Option String} (h : a.getD "" = b.getD "") :
    a = b ↔ ¬ UnsetVersusEmpty a b := by
  cases a with
  | none =>
      cases b with
      | none => simp [UnsetVersusEmpty]
      | some t => simp_all [UnsetVersusEmpty, eq_comm]
  | some t =>
      cases b with
      | none => simp_all [UnsetVersusEmpty]
      | some t' => simp_all [UnsetVersusEmpty]

/-- For one request and one document, the specs agree on the fields of the fingerprint if and
only if none of the three string fields is unset in one and empty in the other. -/
theorem sameImmutable_iff {name : String} {proto proto' : Option SandboxPolicy}
    (hdoc : p.map canonicalDocument = p'.map canonicalDocument)
    (h : createSandboxRequest (buildSandboxCreate name s proto) =
      createSandboxRequest (buildSandboxCreate name s' proto')) :
    SameImmutable s p s' p' ↔ ¬ UnsetVersusEmpty s.image s'.image ∧
      ¬ UnsetVersusEmpty s.logLevel s'.logLevel ∧
      ¬ UnsetVersusEmpty s.runtimeClassName s'.runtimeClassName := by
  obtain ⟨htemplate, hlog, henv, hgpu, hcount⟩ := request_inj h
  obtain ⟨hlandlock, hprocess⟩ := documents_sections hdoc
  rw [← eq_iff_not_unsetVersusEmpty htemplate.image, ← eq_iff_not_unsetVersusEmpty hlog,
    ← eq_iff_not_unsetVersusEmpty htemplate.runtimeClassName]
  constructor
  · intro hs
    exact ⟨hs.image, hs.logLevel, hs.runtimeClassName⟩
  · rintro ⟨himage, hlevel, hclass⟩
    exact
      { image := himage
        environment := henv
        gpu := hgpu
        gpuCount := hcount
        landlock := hlandlock
        process := hprocess
        volumes := htemplate.volumes
        logLevel := hlevel
        resources := htemplate.resources
        runtimeClassName := hclass
        labels := htemplate.labels
        annotations := htemplate.annotations }

/-- Specs and policies that agree on the fields have one material. -/
theorem SameImmutable.material (h : SameImmutable s p s' p') :
    immutableMaterial s p = immutableMaterial s' p' := by
  have hvolumes : ∀ l : List SandboxVolume, l.map volumeMaterial =
      (l.map (·.mount)).map (fun m => volumeMaterial ⟨m.1, m.2.1, m.2.2.1, m.2.2.2, {}⟩) := by
    intro l
    rw [List.map_map]
    rfl
  unfold immutableMaterial
  rw [h.annotations, h.labels, h.runtimeClassName, h.resources, h.logLevel, h.gpuCount, hvolumes,
    h.volumes, ← hvolumes, h.process, h.landlock, h.gpu, h.environment, h.image]

variable (X : Externals) (name : String)

/-- **When a recreate would send the same request again.**  Take two specs with their policies
that yield the same document and the same request.  Their fingerprints are equal if none of
image, log level and runtime class is unset in one and the empty string in the other; and,
unless the digest of the two materials collides, only then. -/
theorem fingerprint_iff_of_same_request {r : CreateSandboxRequest}
    (hdoc : p.map canonicalDocument = p'.map canonicalDocument)
    (hr : requestFor X name s p = .ok r) (hr' : requestFor X name s' p' = .ok r) :
    ((¬ UnsetVersusEmpty s.image s'.image ∧ ¬ UnsetVersusEmpty s.logLevel s'.logLevel ∧
        ¬ UnsetVersusEmpty s.runtimeClassName s'.runtimeClassName) →
      immutableFingerprint X s p = immutableFingerprint X s' p') ∧
    ((X.digest (immutableMaterial s p) = X.digest (immutableMaterial s' p') →
        immutableMaterial s p = immutableMaterial s' p') →
      (immutableFingerprint X s p = immutableFingerprint X s' p' ↔
        ¬ UnsetVersusEmpty s.image s'.image ∧ ¬ UnsetVersusEmpty s.logLevel s'.logLevel ∧
          ¬ UnsetVersusEmpty s.runtimeClassName s'.runtimeClassName)) := by
  have hsame : ∃ proto proto', createSandboxRequest (buildSandboxCreate name s proto) =
      createSandboxRequest (buildSandboxCreate name s' proto') := by
    unfold requestFor at hr hr'
    cases hp : resolvedProto X p with
    | error e => rw [hp] at hr; cases hr
    | ok proto =>
        cases hp' : resolvedProto X p' with
        | error e => rw [hp'] at hr'; cases hr'
        | ok proto' =>
            rw [hp] at hr
            rw [hp'] at hr'
            exact ⟨proto, proto', (Except.ok.inj hr).trans (Except.ok.inj hr').symm⟩
  obtain ⟨proto, proto', hreq⟩ := hsame
  have hiff := sameImmutable_iff hdoc hreq
  have hsuff : ∀ h : SameImmutable s p s' p',
      immutableFingerprint X s p = immutableFingerprint X s' p' := by
    intro h
    unfold immutableFingerprint
    rw [h.material]
  refine ⟨fun h => hsuff (hiff.mpr h), fun hdigest => ?_⟩
  rw [← hiff]
  exact ⟨fun h => immutableMaterial_inj (hdigest h), hsuff⟩

end request

/-- A count without a GPU is neither sent nor fingerprinted. -/
theorem fingerprint_gpu_count_dropped :
    ((¬ UnsetVersusEmpty none none ∧ ¬ UnsetVersusEmpty none none ∧ ¬ UnsetVersusEmpty none none) →
      immutableFingerprint versionExternals {} none =
        immutableFingerprint versionExternals { gpuCount := some 4 } none) ∧
    ((versionExternals.digest (immutableMaterial {} none) =
          versionExternals.digest (immutableMaterial { gpuCount := some 4 } none) →
        immutableMaterial {} none = immutableMaterial { gpuCount := some 4 } none) →
      (immutableFingerprint versionExternals {} none =
          immutableFingerprint versionExternals { gpuCount := some 4 } none ↔
        ¬ UnsetVersusEmpty none none ∧ ¬ UnsetVersusEmpty none none ∧
          ¬ UnsetVersusEmpty none none)) :=
  fingerprint_iff_of_same_request (s := {}) (p := none) versionExternals "box" rfl rfl rfl

/-- Clearing the log level, or the image of a sandbox with labels, to the empty string sends
the same request and moves the fingerprint. -/
theorem empty_string_moves_fingerprint :
    ((∃ r, requestFor versionExternals "box" {} none = .ok r ∧
        requestFor versionExternals "box" { logLevel := some "" } none = .ok r) ∧
      immutableFingerprint versionExternals {} none ≠
        immutableFingerprint versionExternals { logLevel := some "" } none) ∧
    ((∃ r, requestFor versionExternals "box"
          { labels := (∅ : StrMap String).insert "team" "core" } none = .ok r ∧
        requestFor versionExternals "box"
          { labels := (∅ : StrMap String).insert "team" "core", image := some "" } none = .ok r) ∧
      immutableFingerprint versionExternals
          { labels := (∅ : StrMap String).insert "team" "core" } none ≠
        immutableFingerprint versionExternals
          { labels := (∅ : StrMap String).insert "team" "core", image := some "" } none) := by
  refine ⟨⟨⟨_, rfl, rfl⟩, ?_⟩, ⟨⟨_, rfl, rfl⟩, ?_⟩⟩
  · intro h
    have hs := immutableMaterial_inj (Json.text_injective h)
    cases hs.logLevel
  · intro h
    have hs := immutableMaterial_inj (Json.text_injective h)
    cases hs.image

end OpenShell
