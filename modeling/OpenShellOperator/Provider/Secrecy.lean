import OpenShellOperator.Provider.Sync

/-! # What of a Secret reaches the gateway

A sync reads the referenced Secret once, as its first call.  What follows is the same program
for all Secrets that are not entitled (`afterSecret_of_unentitled`: it fails at once), and the
same program for all entitled Secrets that agree on the selected keys
(`afterSecret_of_agree`).  So two syncs of Secrets that differ elsewhere make the same gateway
calls and end the same, whatever the gateway answers. -/

namespace OpenShell
open Wire Effects

namespace SecretData

/-- Two Secrets have the same bytes under the given keys, or both nothing. -/
def AgreeOn (keys : List String) (s s' : Secret) : Prop :=
  ∀ key ∈ keys, (s.data.getD ∅)[key]? = (s'.data.getD ∅)[key]?

theorem extractKey_congr {ns name key : String} {data data' : StrMap (List UInt8)}
    (h : data[key]? = data'[key]?) : extractKey ns name data key = extractKey ns name data' key := by
  unfold extractKey
  rw [h]

/-- With keys selected, only their values matter. -/
theorem extractCredentials_congr {ns name : String} {data data' : StrMap (List UInt8)}
    {keys : List String} (hkeys : keys ≠ []) (h : ∀ key ∈ keys, data[key]? = data'[key]?) :
    extractCredentials ns name data keys = extractCredentials ns name data' keys := by
  have hempty : keys.isEmpty = false := by simpa using hkeys
  have hfold : ∀ (keys : List String) (credentials : StrMap String),
      (∀ key ∈ keys, data[key]? = data'[key]?) →
      keys.foldlM (fun credentials key =>
          (extractKey ns name data key).map (credentials.insert key ·)) credentials =
        keys.foldlM (fun credentials key =>
          (extractKey ns name data' key).map (credentials.insert key ·)) credentials := by
    intro keys
    induction keys with
    | nil => exact fun _ _ => rfl
    | cons key keys ih =>
        intro credentials h
        rw [List.foldlM_cons, List.foldlM_cons, extractKey_congr (h key List.mem_cons_self)]
        congr 1
        funext credentials'
        exact ih credentials' (fun k hk => h k (List.mem_cons_of_mem _ hk))
  unfold extractCredentials
  rw [hempty]
  exact hfold keys ∅ h

end SecretData

namespace ProviderController

section sync
variable (X : Externals) (provider : OpenShellProvider) (ns name : String)

/-- What a sync does with the answer to its first call. -/
def afterSecret (found : Except Error (Option Secret)) : Op SyncOutcome :=
  Prog.bind (match found with
    | .error err => Prog.fail err
    | .ok none => Prog.fail (.secretNotFound ns provider.spec.credentialsSecretRef.name)
    | .ok (some secret) =>
        if !SecretData.isEntitled secret then
          Prog.fail (.secretNotEntitled ns provider.spec.credentialsSecretRef.name
            SecretData.entitlementAnnotation)
        else Op.lift (SecretData.extractCredentials ns provider.spec.credentialsSecretRef.name
          (secret.data.getD ∅) provider.spec.credentialsSecretRef.keys))
    (fun credentials => syncToGateway X name provider.spec.providerType credentials
      provider.spec.config (workspaceOf provider))

/-- The first call of a sync reads the Secret. -/
theorem syncProvider_eq : syncProvider X provider ns name =
    .call (.kube (.getSecret ns provider.spec.credentialsSecretRef.name))
      (afterSecret X provider ns name) := by
  show Prog.call _ _ = Prog.call _ _
  congr 1
  funext found
  cases found with
  | error err => rfl
  | ok found => cases found <;> rfl

variable {X provider ns name}

/-- A Secret without the entitlement ends the sync, whatever its data. -/
theorem afterSecret_of_unentitled {s : Secret} (hs : SecretData.isEntitled s = false) :
    afterSecret X provider ns name (.ok (some s)) = .done (.error
      (.secretNotEntitled ns provider.spec.credentialsSecretRef.name
        SecretData.entitlementAnnotation)) := by
  dsimp only [afterSecret]
  rw [hs]
  rfl

/-- Entitled Secrets that agree on the selected keys are followed by the same program. -/
theorem afterSecret_of_agree {s s' : Secret} (hs : SecretData.isEntitled s = true)
    (hs' : SecretData.isEntitled s' = true) (hkeys : provider.spec.credentialsSecretRef.keys ≠ [])
    (h : SecretData.AgreeOn provider.spec.credentialsSecretRef.keys s s') :
    afterSecret X provider ns name (.ok (some s)) = afterSecret X provider ns name (.ok (some s')) := by
  dsimp only [afterSecret]
  rw [hs, hs', SecretData.extractCredentials_congr hkeys h]

/-- Once the Secret is read, a sync only calls the gateway. -/
theorem afterSecret_calls (found : Except Error (Option Secret)) :
    (afterSecret X provider ns name found).Calls (fun c => ∃ r, c = .rpc r) := by
  refine Prog.Calls.bind ?_ (fun credentials => ?_)
  · rcases found with err | _ | secret
    · exact Prog.calls_fail _
    · exact Prog.calls_fail _
    · show Prog.Calls _ (ite _ _ _)
      split_ifs
      · exact Prog.calls_fail _
      · exact Prog.calls_done _
  · have hupsert : ∀ input, (SdkGateway.upsertProvider input).Calls (fun c => ∃ r, c = .rpc r) := by
      intro input
      refine Prog.Calls.bind (Prog.Calls.bind (Prog.calls_perform ⟨_, rfl⟩).attempt
        (fun found => ?_)) (fun existing => ?_)
      · cases found with
        | ok found => exact Prog.calls_pure _
        | error err =>
            show Prog.Calls _ (ite _ _ _)
            split_ifs
            · exact Prog.calls_pure _
            · exact Prog.calls_fail _
      · cases existing with
        | none => exact Prog.calls_perform ⟨_, rfl⟩
        | some message => exact Prog.calls_perform ⟨_, rfl⟩
    refine Prog.Calls.bind (Prog.Calls.bind (Prog.Calls.bind (Prog.calls_perform ⟨_, rfl⟩)
      (fun _ => Prog.calls_pure _)) (fun _ => Prog.calls_pure _)) (fun profile => ?_)
    refine Prog.Calls.bind (hupsert _) (fun _ => Prog.Calls.bind ?_ (fun _ => Prog.calls_pure _))
    exact Prog.Calls.forM _ (fun refresh _ => Prog.calls_perform ⟨_, rfl⟩)

end sync
end ProviderController

/-! ### Two versions of a Secret -/

/-- The world with a version of a Secret. -/
def World.withSecret (w : World) (key : Key) (s : Secret) : World :=
  { w with cluster := { w.cluster with secrets := w.cluster.secrets.insert key s } }

/-- Gateway calls see the gateway only. -/
theorem World.react_rpc_congr (X : Externals) (c : Call) (f : Fate Outage) (w w' : World)
    (hc : ∃ r, c = .rpc r) (hw : w.gateway = w'.gateway) :
    (World.react X w c f).2 = (World.react X w' c f).2 ∧
      (World.react X w c f).1.gateway = (World.react X w' c f).1.gateway := by
  obtain ⟨r, rfl⟩ := hc
  have hserve : (World.serve X w (.rpc r)).2 = (World.serve X w' (.rpc r)).2 ∧
      (World.serve X w (.rpc r)).1.gateway = (World.serve X w' (.rpc r)).1.gateway := by
    simp only [World.serve, hw, and_self]
  cases f with
  | served => exact hserve
  | refused e => exact ⟨rfl, hw⟩
  | unheard e => exact ⟨rfl, hserve.2⟩

namespace ProviderController

section runs
variable (X : Externals) (provider : OpenShellProvider) (ns name : String) (w : World) (s s' : Secret)

/-- The key of the referenced Secret. -/
def secretKey : Key := ⟨ns, provider.spec.credentialsSecretRef.name⟩

/-- What the first call of a sync leads to. -/
theorem react_getSecret (f : Fate Outage) :
    ∃ answer, World.react X (w.withSecret (secretKey provider ns) s)
        (.kube (.getSecret ns provider.spec.credentialsSecretRef.name)) f =
      (w.withSecret (secretKey provider ns) s, answer) ∧
      (f = .served ∧ answer = .ok (some s) ∨ ∃ e : Outage,
        (f = .refused e ∨ f = .unheard e) ∧ answer = .error e.error) := by
  have hget : (w.cluster.secrets.insert (secretKey provider ns) s)[secretKey provider ns]? =
      some s := Std.ExtTreeMap.getElem?_insert_self
  cases f with
  | served => exact ⟨.ok (some s), congrArg (fun a => (_, Except.ok a)) hget, .inl ⟨rfl, rfl⟩⟩
  | refused e => exact ⟨_, rfl, .inr ⟨e, .inl rfl, rfl⟩⟩
  | unheard e => exact ⟨_, rfl, .inr ⟨e, .inr rfl, rfl⟩⟩

/-- A sync of a Secret without the entitlement makes one call, and fails. -/
theorem sync_of_unentitled (hs : SecretData.isEntitled s = false) (f : Fate Outage)
    (fs : List (Fate Outage)) :
    Prog.trace (World.react X) (f :: fs) (syncProvider X provider ns name)
        (w.withSecret (secretKey provider ns) s) =
      [(.kube (.getSecret ns provider.spec.credentialsSecretRef.name), f)] ∧
    (Prog.exec (World.react X) (f :: fs) (syncProvider X provider ns name)
        (w.withSecret (secretKey provider ns) s)).1 =
      .done (.error (match f with
        | .served => .secretNotEntitled ns provider.spec.credentialsSecretRef.name
            SecretData.entitlementAnnotation
        | .refused e | .unheard e => e.error)) := by
  obtain ⟨answer, hreact, hanswer⟩ := react_getSecret X provider ns w s f
  rw [syncProvider_eq]
  simp only [Prog.trace, Prog.exec, hreact]
  rcases hanswer with ⟨rfl, rfl⟩ | ⟨e, rfl | rfl, rfl⟩
  · rw [afterSecret_of_unentitled hs]
    cases fs <;> exact ⟨rfl, rfl⟩
  · cases fs <;> exact ⟨rfl, rfl⟩
  · cases fs <;> exact ⟨rfl, rfl⟩

/-- Syncs of entitled Secrets that agree on the selected keys run the same way. -/
theorem sync_of_agree (hs : SecretData.isEntitled s = true) (hs' : SecretData.isEntitled s' = true)
    (hkeys : provider.spec.credentialsSecretRef.keys ≠ [])
    (h : SecretData.AgreeOn provider.spec.credentialsSecretRef.keys s s')
    (fs : List (Fate Outage)) :
    Prog.trace (World.react X) fs (syncProvider X provider ns name)
        (w.withSecret (secretKey provider ns) s) =
      Prog.trace (World.react X) fs (syncProvider X provider ns name)
        (w.withSecret (secretKey provider ns) s') ∧
    (Prog.exec (World.react X) fs (syncProvider X provider ns name)
        (w.withSecret (secretKey provider ns) s)).1 =
      (Prog.exec (World.react X) fs (syncProvider X provider ns name)
        (w.withSecret (secretKey provider ns) s')).1 ∧
    (Prog.exec (World.react X) fs (syncProvider X provider ns name)
        (w.withSecret (secretKey provider ns) s)).2.gateway =
      (Prog.exec (World.react X) fs (syncProvider X provider ns name)
        (w.withSecret (secretKey provider ns) s')).2.gateway := by
  cases fs with
  | nil => simp only [Prog.trace, Prog.exec, World.withSecret, and_self]
  | cons f fs =>
      obtain ⟨answer, hreact, hanswer⟩ := react_getSecret X provider ns w s f
      obtain ⟨answer', hreact', hanswer'⟩ := react_getSecret X provider ns w s' f
      -- whatever the fate of the first call, the same program follows
      have hnext : afterSecret X provider ns name answer = afterSecret X provider ns name answer' := by
        rcases hanswer with ⟨rfl, rfl⟩ | ⟨e, rfl | rfl, rfl⟩
        · rcases hanswer' with ⟨_, rfl⟩ | ⟨e, he, _⟩
          · exact afterSecret_of_agree hs hs' hkeys h
          · rcases he with he | he <;> cases he
        · rcases hanswer' with ⟨hf, _⟩ | ⟨e', he', rfl⟩
          · cases hf
          · rcases he' with he' | he' <;> cases he'
            rfl
        · rcases hanswer' with ⟨hf, _⟩ | ⟨e', he', rfl⟩
          · cases hf
          · rcases he' with he' | he' <;> cases he'
            rfl
      have hgateway : (w.withSecret (secretKey provider ns) s).gateway =
          (w.withSecret (secretKey provider ns) s').gateway := rfl
      obtain ⟨htrace, hprog, hworld⟩ := Prog.Calls.exec_congr (World.react_rpc_congr X) fs
        (afterSecret_calls answer') hgateway
      rw [syncProvider_eq]
      simp only [Prog.trace, Prog.exec, hreact, hreact', hnext]
      exact ⟨congrArg _ htrace, hprog, hworld⟩

/-- **Unselected and unentitled Secret data never reaches the gateway.**  For every provider,
every state of the gateway, every two versions of the Secret and every way the calls fare:
if neither is entitled, no call goes to the gateway and both syncs fail with the same error;
and if both are entitled, keys are selected and the versions agree on them, both syncs make
the same calls, end the same and leave the gateway the same. -/
theorem syncProvider_noninterference :
    (SecretData.isEntitled s = false → SecretData.isEntitled s' = false →
      ∀ (f : Fate Outage) (fs : List (Fate Outage)),
        (∀ v ∈ [s, s'], ∀ cf ∈ Prog.trace (World.react X) (f :: fs) (syncProvider X provider ns name)
          (w.withSecret (secretKey provider ns) v), ∀ r, cf.1 ≠ .rpc r) ∧
        ∃ err, (f = .served → err = .secretNotEntitled ns provider.spec.credentialsSecretRef.name
            SecretData.entitlementAnnotation) ∧
          ∀ v ∈ [s, s'], (Prog.exec (World.react X) (f :: fs) (syncProvider X provider ns name)
            (w.withSecret (secretKey provider ns) v)).1 = .done (.error err)) ∧
    (SecretData.isEntitled s = true → SecretData.isEntitled s' = true →
      provider.spec.credentialsSecretRef.keys ≠ [] →
      SecretData.AgreeOn provider.spec.credentialsSecretRef.keys s s' →
      ∀ fs : List (Fate Outage),
        Prog.trace (World.react X) fs (syncProvider X provider ns name)
            (w.withSecret (secretKey provider ns) s) =
          Prog.trace (World.react X) fs (syncProvider X provider ns name)
            (w.withSecret (secretKey provider ns) s') ∧
        (Prog.exec (World.react X) fs (syncProvider X provider ns name)
            (w.withSecret (secretKey provider ns) s)).1 =
          (Prog.exec (World.react X) fs (syncProvider X provider ns name)
            (w.withSecret (secretKey provider ns) s')).1 ∧
        (Prog.exec (World.react X) fs (syncProvider X provider ns name)
            (w.withSecret (secretKey provider ns) s)).2.gateway =
          (Prog.exec (World.react X) fs (syncProvider X provider ns name)
            (w.withSecret (secretKey provider ns) s')).2.gateway) := by
  refine ⟨?_, fun hs hs' hkeys h fs => sync_of_agree X provider ns name w s s' hs hs' hkeys h fs⟩
  intro hs hs' f fs
  have hboth : ∀ v ∈ [s, s'], SecretData.isEntitled v = false := by
    intro v hv
    rcases List.mem_pair.mp hv with rfl | rfl
    · exact hs
    · exact hs'
  refine ⟨?_, _, ?_, fun v hv => (sync_of_unentitled X provider ns name w v (hboth v hv) f fs).2⟩
  · intro v hv cf hcf r
    rw [(sync_of_unentitled X provider ns name w v (hboth v hv) f fs).1, List.mem_singleton] at hcf
    rw [hcf]
    exact nofun
  · rintro rfl
    rfl

end runs

namespace Sample

/-- A provider that takes one key of its Secret. -/
def tokenProvider : OpenShellProvider where
  metadata := { name := "vertex", namespace_ := some "team" }
  spec :=
    { providerType := "vertex"
      credentialsSecretRef := { name := "vertex-keys", keys := ["refresh_token"] } }

/-- A Secret with the selected key and with a note. -/
def notedSecret (entitled note : String) : Secret where
  annotations := some ((∅ : StrMap String).insert SecretData.entitlementAnnotation entitled)
  data := some (((∅ : StrMap (List UInt8)).insert "refresh_token" "old".toUTF8.data.toList).insert
    "note" note.toUTF8.data.toList)

/-- A gateway that knows the profile of the provider. -/
def profiled : World := { gateway := { profiles := [profile] } }

/-- The calls of a sync of the Secret, all served. -/
def notedCalls (entitled note : String) : List (Call × Fate Outage) :=
  Prog.trace (World.react externals) (List.replicate 5 .served)
    (syncProvider externals tokenProvider "team" "vertex")
    (profiled.withSecret (secretKey tokenProvider "team") (notedSecret entitled note))

/-- The note of an entitled Secret makes no difference to the calls of a sync, and a Secret without
the entitlement leads to no call to the gateway. -/
theorem note_kept_back :
    notedSecret "true" "a" ≠ notedSecret "true" "b" ∧ (notedCalls "true" "a").length = 5 ∧
    notedCalls "true" "a" = notedCalls "true" "b" ∧
    ∀ cf ∈ notedCalls "True" "a", ∀ r, cf.1 ≠ .rpc r := by
  have hagree : SecretData.AgreeOn tokenProvider.spec.credentialsSecretRef.keys
      (notedSecret "true" "a") (notedSecret "true" "b") := by
    intro key hkey
    rw [List.mem_singleton.mp hkey]
    decide +kernel
  refine ⟨by decide +kernel, by decide +kernel, ?_, ?_⟩
  · exact ((syncProvider_noninterference externals tokenProvider "team" "vertex" profiled
      (notedSecret "true" "a") (notedSecret "true" "b")).2 (by decide +kernel) (by decide +kernel)
      (by decide) hagree _).1
  · exact ((syncProvider_noninterference externals tokenProvider "team" "vertex" profiled
      (notedSecret "True" "a") (notedSecret "True" "b")).1 (by decide +kernel) (by decide +kernel)
      _ _).1 _ List.mem_cons_self

end Sample
end ProviderController
end OpenShell
