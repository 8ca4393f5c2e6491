import OpenShellOperator.Effects.Session
import OpenShellOperator.Issuer.Mint
import OpenShellOperator.Volumes

/-! # The issuer's serving certificate

A run of `mint` first provisions the certificate the issuer serves with, then the token.  A TLS
Secret that was made for the configured issuer URL is kept; otherwise a private CA is made, one
certificate for the names of the issuer is signed with it, and the Secret is written.  The CA is
then published, in front of the system roots, in the ConfigMap that the gateway trusts.

In a history of runs, each stopped anywhere, a run that returns leaves the issuer trusted: the
Secret holds a certificate made for the host of the URL, and the ConfigMap its CA.  From there a
run for the same URL, wherever it stops, keeps the Secret and the trust (`issuer_trusted`). -/

namespace OpenShell.Issuer
open Wire Effects

/-! ### Texts -/

/-- The first occurrence of a pattern splits a text. -/
def splitOnce (pattern : List Char) : List Char → Option (List Char × List Char)
  | [] => if pattern.isEmpty then some ([], []) else none
  | c :: cs =>
      if pattern.isPrefixOf (c :: cs) then some ([], (c :: cs).drop pattern.length)
      else (splitOnce pattern cs).map (fun halves => (c :: halves.1, halves.2))

/-- A pattern whose first character does not occur before it splits there. -/
theorem splitOnce_append {c : Char} {pattern rest : List Char} :
    ∀ {before : List Char}, c ∉ before →
      splitOnce (c :: pattern) (before ++ (c :: pattern ++ rest)) = some (before, rest)
  | [], _ => by
      have hprefix : (c :: pattern).isPrefixOf (c :: (pattern ++ rest)) = true := by
        rw [List.isPrefixOf_iff_prefix]
        exact List.prefix_append (c :: pattern) rest
      simp [splitOnce, hprefix]
  | b :: before, h => by
      have hne : c ≠ b := fun heq => h (heq ▸ List.mem_cons_self)
      have hnot : (c :: pattern).isPrefixOf (b :: (before ++ (c :: pattern ++ rest))) = false := by
        simp [List.isPrefixOf, hne]
      have ih : splitOnce (c :: pattern) (before ++ (c :: pattern ++ rest)) = some (before, rest) :=
        splitOnce_append (fun hc => h (List.mem_cons_of_mem b hc))
      rw [List.cons_append, splitOnce, hnot, ih]
      rfl

def trimEnd (s : String) : String :=
  String.ofList (s.toList.reverse.dropWhile Volumes.isWhitespace).reverse

/-! ### The certificate -/

structure MintConfig extends Config where
  service : String
  tlsSecret : String
  caConfigmap : String
deriving DecidableEq, Repr

/-- Host part of the issuer URL. -/
def issuerHost (issuerUrl : String) : String :=
  let rest := match splitOnce "://".toList issuerUrl.toList with
    | some (_, rest) => rest
    | none => issuerUrl.toList
  String.ofList (rest.takeWhile (fun c => c != '/' && c != ':'))

structure ServingCert where
  cert : String
  key : String
  ca : String
deriving DecidableEq, Repr

/-- Every name the gateway may dial the issuer by. -/
def subjectNames (service namespace_ issuerHost : String) : List String :=
  let names := [service, service ++ "." ++ namespace_, service ++ "." ++ namespace_ ++ ".svc",
    service ++ "." ++ namespace_ ++ ".svc.cluster.local"]
  if names.contains issuerHost then names else names ++ [issuerHost]

/-- A value of a Secret. -/
def data (secret : Secret) (key : String) : Option String := secret.stringData[key]?

def tlsSecret (cfg : MintConfig) (cert : ServingCert) : Secret where
  metadata := issuerMetadata cfg.toConfig cfg.tlsSecret
  stringData := (((∅ : StrMap String).insert "tls.crt" cert.cert).insert "tls.key" cert.key).insert
    "ca.crt" cert.ca

/-- The issuer CA first, then the system roots. -/
def caBundle (ca systemRoots : String) : String := trimEnd ca ++ "\n" ++ systemRoots

def caConfigmap (cfg : MintConfig) (ca systemRoots : String) : ConfigMap where
  metadata := metadata cfg.caConfigmap cfg.namespace_
  data := (∅ : StrMap String).insert "ca.crt" (caBundle ca systemRoots)

/-- The CA of a TLS Secret that was made for the configured URL. -/
def currentCa (cfg : MintConfig) (existing : Option Secret) : Option String :=
  (existing.filter (mintedFor · cfg.toConfig)).bind (data · "ca.crt")

section certificate
variable (cfg : MintConfig) (generate : List String → Except Failure ServingCert)
  (systemRoots : String)

/-- Make a certificate and write it to the TLS Secret. -/
def issueCert : MintOp String := do
  let cert ← (Prog.done (generate (subjectNames cfg.service cfg.namespace_
    (issuerHost cfg.issuerUrl))) : MintOp ServingCert)
  withContext "apply TLS Secret" (mintCall (.applySecret (tlsSecret cfg cert)))
  pure cert.ca

/-- The CA to publish: that of the Secret, or of a new certificate. -/
def servingCa (existing : Option Secret) : MintOp String :=
  match currentCa cfg existing with
  | some ca => pure ca
  | none => issueCert cfg generate

/-- Create the TLS Secret once, then publish its CA on every run. -/
def ensureServingCert : MintOp Unit := do
  let existing : Option Secret ← withContext "look up existing TLS Secret"
    (mintCall (.getSecret ⟨cfg.namespace_, cfg.tlsSecret⟩))
  let ca ← servingCa cfg generate existing
  withContext "apply CA ConfigMap" (mintCall (.applyConfigMap (caConfigmap cfg ca systemRoots)))

/-- The whole of `mint`. -/
def run (T : Toolkit) (generated : Except Failure SigningKey) (now : Option UInt64) : MintOp Unit := do
  ensureServingCert cfg generate systemRoots
  ensureToken T cfg.toConfig generated now

end certificate

/-! ### Names -/

/-- The host of a URL is read off it, with or without a port and a path. -/
theorem issuerHost_url {scheme host rest : List Char} (hscheme : ':' ∉ scheme)
    (hhost : ∀ c ∈ host, c ≠ '/' ∧ c ≠ ':') (hrest : ∀ c ∈ rest.head?, c = '/' ∨ c = ':') :
    issuerHost (String.ofList (scheme ++ ("://".toList ++ (host ++ rest)))) = String.ofList host := by
  have hsplit : splitOnce "://".toList (scheme ++ ("://".toList ++ (host ++ rest))) =
      some (scheme, host ++ rest) := splitOnce_append hscheme
  have htake : (host ++ rest).takeWhile (fun c => c != '/' && c != ':') = host := by
    rw [List.takeWhile_append_of_pos (fun c hc => by simpa using hhost c hc)]
    cases rest with
    | nil => simp
    | cons c cs =>
        have hc := hrest c rfl
        have hstop : (c != '/' && c != ':') = false := by
          rcases hc with rfl | rfl <;> decide
        rw [List.takeWhile_cons_of_neg (by simp [hstop]), List.append_nil]
  simp only [issuerHost, String.toList_ofList, hsplit, htake]

theorem issuerHost_mem_subjectNames (service namespace_ host : String) :
    host ∈ subjectNames service namespace_ host := by
  unfold subjectNames
  dsimp only
  split_ifs with hmem
  · exact List.contains_iff_mem.mp hmem
  · exact List.mem_append_right _ List.mem_cons_self

/-! ### Histories -/

/-- What the runs of a release have in common; its objects have names of their own. -/
structure Installation where
  namespace_ : String
  service : String
  tlsSecret : String
  caConfigmap : String
  tokenSecret : String
  jwksConfigmap : String
  secrets_ne : tlsSecret ≠ tokenSecret
  configMaps_ne : caConfigmap ≠ jwksConfigmap

/-- The configuration is one of the release. -/
structure MintConfig.Of (cfg : MintConfig) (rel : Installation) : Prop where
  namespace_ : cfg.namespace_ = rel.namespace_
  service : cfg.service = rel.service
  tlsSecret : cfg.tlsSecret = rel.tlsSecret
  caConfigmap : cfg.caConfigmap = rel.caConfigmap
  tokenSecret : cfg.tokenSecret = rel.tokenSecret
  jwksConfigmap : cfg.jwksConfigmap = rel.jwksConfigmap

/-- One run of `mint`: what it was configured with, the certificates and the key it makes, the
roots of its image, its clock, and how its calls fare. -/
structure MintRun where
  cfg : MintConfig
  generate : List String → Except Failure ServingCert
  systemRoots : String
  generated : Except Failure SigningKey
  now : Option UInt64
  fates : List (Fate String)

/-- What is left of the run when its fates are used up, and the store it leaves. -/
def MintRun.exec (T : Toolkit) (r : MintRun) (w : Store) : MintOp Unit × Store :=
  Prog.exec react r.fates (run r.cfg r.generate r.systemRoots T r.generated r.now) w

def mintHistory (T : Toolkit) (rs : List MintRun) : Store :=
  rs.foldl (fun w r => (r.exec T w).2) {}

namespace Installation

def tlsKey (rel : Installation) : Key := ⟨rel.namespace_, rel.tlsSecret⟩

def caKey (rel : Installation) : Key := ⟨rel.namespace_, rel.caConfigmap⟩

/-- The names the gateway may dial the issuer by: the Service, and the host of the issuer URL. -/
inductive Dials (rel : Installation) (url : String) : String → Prop
  | service : Dials rel url rel.service
  | namespaced : Dials rel url (rel.service ++ "." ++ rel.namespace_)
  | svc : Dials rel url (rel.service ++ "." ++ rel.namespace_ ++ ".svc")
  | cluster : Dials rel url (rel.service ++ "." ++ rel.namespace_ ++ ".svc.cluster.local")
  | host {scheme host rest : List Char} : ':' ∉ scheme → (∀ c ∈ host, c ≠ '/' ∧ c ≠ ':') →
      (∀ c ∈ rest.head?, c = '/' ∨ c = ':') →
      url = String.ofList (scheme ++ ("://".toList ++ (host ++ rest))) →
      Dials rel url (String.ofList host)

/-- One of the runs has made the certificate, for all names the issuer is dialled by. -/
def Made (rel : Installation) (rs : List MintRun) (url : String) (cert : ServingCert) : Prop :=
  ∃ r ∈ rs, ∃ names, r.generate names = .ok cert ∧ ∀ name, rel.Dials url name → name ∈ names

/-- The TLS Secret for a URL with a certificate. -/
def secret (rel : Installation) (url : String) (cert : ServingCert) : Secret where
  metadata := { metadata rel.tlsSecret rel.namespace_ with
    annotations := some ((∅ : StrMap String).insert issuerAnnotation url) }
  stringData := (((∅ : StrMap String).insert "tls.crt" cert.cert).insert "tls.key" cert.key).insert
    "ca.crt" cert.ca

/-- The TLS Secret, if there is one, holds a certificate that one of the runs has made. -/
def Issued (rel : Installation) (rs : List MintRun) (w : Store) : Prop :=
  ∀ s, w.secrets[rel.tlsKey]? = some s →
    ∃ url cert, rel.Made rs url cert ∧ s = rel.secret url cert

/-- The issuer serves the URL with the certificate, and its CA leads the published bundle. -/
structure Trusted (rel : Installation) (rs : List MintRun) (url : String) (cert : ServingCert)
    (w : Store) : Prop where
  made : rel.Made rs url cert
  served : w.secrets[rel.tlsKey]? = some (rel.secret url cert)
  published : ∃ configMap systemRoots, w.configMaps[rel.caKey]? = some configMap ∧
    configMap.data["ca.crt"]? = some (caBundle cert.ca systemRoots)

section objects
variable {rel : Installation} {rs rs' : List MintRun} {url : String} {cert : ServingCert}
  {cfg : MintConfig}

theorem Dials.mem_subjectNames {name : String} (h : rel.Dials url name) :
    name ∈ subjectNames rel.service rel.namespace_ (issuerHost url) := by
  have hservice : ∀ name ∈ [rel.service, rel.service ++ "." ++ rel.namespace_,
      rel.service ++ "." ++ rel.namespace_ ++ ".svc",
      rel.service ++ "." ++ rel.namespace_ ++ ".svc.cluster.local"],
      name ∈ subjectNames rel.service rel.namespace_ (issuerHost url) := by
    intro name hname
    unfold subjectNames
    dsimp only
    split_ifs
    · exact hname
    · exact List.mem_append_left _ hname
  cases h with
  | service => exact hservice _ (by simp)
  | namespaced => exact hservice _ (by simp)
  | svc => exact hservice _ (by simp)
  | cluster => exact hservice _ (by simp)
  | host hscheme hhost hrest hurl =>
      rw [hurl, issuerHost_url hscheme hhost hrest]
      exact issuerHost_mem_subjectNames _ _ _

theorem Made.mono (h : rel.Made rs url cert) (hs : rs ⊆ rs') : rel.Made rs' url cert := by
  obtain ⟨r, hr, hnames⟩ := h
  exact ⟨r, hs hr, hnames⟩

theorem secret_issuerUrl (rel : Installation) (url : String) (cert : ServingCert) :
    (rel.secret url cert).issuerUrl = some url := by
  show ((∅ : StrMap String).insert issuerAnnotation url)[ issuerAnnotation]? = _
  rw [Std.ExtTreeMap.getElem?_insert, if_pos (by decide)]

theorem secret_ca (rel : Installation) (url : String) (cert : ServingCert) :
    data (rel.secret url cert) "ca.crt" = some cert.ca := by
  simp [data, secret]

theorem mintedFor_secret : mintedFor (rel.secret url cert) cfg.toConfig = (url == cfg.issuerUrl) := by
  simp [mintedFor, secret_issuerUrl]

end objects
end Installation

section objects
variable {rel : Installation} {cfg : MintConfig}

theorem tlsSecret_eq (hcfg : cfg.Of rel) (cert : ServingCert) :
    tlsSecret cfg cert = rel.secret cfg.issuerUrl cert := by
  simp only [tlsSecret, Installation.secret, issuerMetadata, hcfg.tlsSecret, hcfg.namespace_]

theorem caConfigmap_key (hcfg : cfg.Of rel) (ca systemRoots : String) :
    (caConfigmap cfg ca systemRoots).metadata.key = rel.caKey := by
  simp only [caConfigmap, metadata, Metadata.key, Installation.caKey, hcfg.caConfigmap, hcfg.namespace_]

end objects

/-! ### One run -/

section runs
variable {T : Toolkit} {rel : Installation} {rs : List MintRun} {r : MintRun} {w : Store}

/-- The call neither writes the TLS Secret nor the CA ConfigMap. -/
def Aside (rel : Installation) : MintCall → Prop
  | .getSecret _ => True
  | .applyConfigMap configMap => configMap.metadata.key ≠ rel.caKey
  | .applySecret secret => secret.metadata.key ≠ rel.tlsKey

theorem react_aside {c : MintCall} (hc : Aside rel c) (f : Fate String) :
    (react w c f).1.secrets[rel.tlsKey]? = w.secrets[rel.tlsKey]? ∧
      (react w c f).1.configMaps[rel.caKey]? = w.configMaps[rel.caKey]? := by
  rcases respond_world _ serve w c f with hw | hw
  · have hw' : (react w c f).1 = w := hw
    rw [hw']
    exact ⟨rfl, rfl⟩
  · have hw' : (react w c f).1 = (serve w c).1 := hw
    rw [hw']
    cases c with
    | getSecret key => exact ⟨rfl, rfl⟩
    | applyConfigMap configMap =>
        exact ⟨rfl, (KeyMap.get?_insert ..).trans (if_neg hc)⟩
    | applySecret secret => exact ⟨(KeyMap.get?_insert ..).trans (if_neg hc), rfl⟩

theorem withContext_calls {α : Type} {P : MintCall → Prop} {p : MintOp α} (what : String)
    (hp : p.Calls P) : (withContext what p).Calls P := by
  refine Prog.Calls.bind hp.attempt (fun answer => ?_)
  cases answer with
  | ok a => exact Prog.calls_pure a
  | error err => exact Prog.calls_fail _

theorem withContext_yields {α : Type} {p : MintOp α} (what : String) {Q : α → Store → Prop}
    (hp : p.Yields react Rely.none w Q) : (withContext what p).Yields react Rely.none w Q := by
  refine Prog.Yields.bind (hp.attempt.mono ?_)
  intro answer w' hanswer
  cases answer with
  | ok a =>
      refine Prog.yields_pure ?_
      rintro _ rfl
      exact hanswer a rfl
  | error err => exact Prog.yields_fail _

/-- Minting the token stays aside. -/
theorem ensureToken_aside (hcfg : r.cfg.Of rel) :
    (ensureToken T r.cfg.toConfig r.generated r.now).Calls (Aside rel) := by
  rw [ensureToken_eq]
  refine ⟨trivial, fun answer => ?_⟩
  cases answer with
  | error err => exact Prog.calls_fail _
  | ok existing =>
      show Prog.Calls _ (ite _ _ _)
      split_ifs
      · exact Prog.calls_pure _
      · cases hprepare : prepare T r.cfg.toConfig r.generated r.now with
        | error err => exact Prog.calls_done _
        | ok objects =>
            obtain ⟨configMap, secret⟩ := objects
            obtain ⟨key, token, -, -, hjwks, rfl⟩ := prepare_ok hprepare
            refine ⟨?_, fun answer => ?_⟩
            · intro hkey
              rw [(jwksConfigmap_ok hjwks).1] at hkey
              have hname := congrArg Key.name hkey
              exact rel.configMaps_ne (hcfg.jwksConfigmap.symm.trans hname).symm
            · cases answer with
              | error err => exact Prog.calls_fail _
              | ok _ =>
                  refine withContext_calls _ (Prog.calls_perform fun hkey => ?_)
                  have hname := congrArg Key.name hkey
                  exact rel.secrets_ne (hcfg.tokenSecret.symm.trans hname).symm

/-- A certificate that a run makes for the names of its configuration. -/
theorem made_of_generate (hcfg : r.cfg.Of rel) {cert : ServingCert} (hr : r ∈ rs)
    (h : r.generate (subjectNames r.cfg.service r.cfg.namespace_ (issuerHost r.cfg.issuerUrl)) =
      .ok cert) : rel.Made rs r.cfg.issuerUrl cert := by
  rw [hcfg.service, hcfg.namespace_] at h
  exact ⟨r, hr, _, h, fun _ hname => hname.mem_subjectNames⟩

/-- The call writes to the TLS Secret only a certificate that one of the runs has made. -/
def Writes (rel : Installation) (rs : List MintRun) : MintCall → Prop
  | .applySecret secret => secret.metadata.key = rel.tlsKey →
      ∃ url cert, rel.Made rs url cert ∧ secret = rel.secret url cert
  | _ => True

theorem Aside.writes {c : MintCall} (hc : Aside rel c) : Writes rel rs c := by
  cases c with
  | applySecret secret => exact fun hkey => absurd hkey hc
  | _ => trivial

theorem ensureServingCert_writes (hcfg : r.cfg.Of rel) (hr : r ∈ rs) :
    (ensureServingCert r.cfg r.generate r.systemRoots).Calls (Writes rel rs) := by
  have hget : (mintCall (.getSecret ⟨r.cfg.namespace_, r.cfg.tlsSecret⟩)).Calls (Writes rel rs) :=
    Prog.calls_perform trivial
  have hpublish : ∀ ca, (mintCall (.applyConfigMap (caConfigmap r.cfg ca r.systemRoots))).Calls
      (Writes rel rs) := fun _ => Prog.calls_perform trivial
  refine Prog.Calls.bind (withContext_calls _ hget) (fun existing => ?_)
  refine Prog.Calls.bind ?_ (fun ca => withContext_calls _ (hpublish ca))
  unfold servingCa
  split
  · exact Prog.calls_pure _
  · unfold issueCert
    cases hcert : r.generate (subjectNames r.cfg.service r.cfg.namespace_
        (issuerHost r.cfg.issuerUrl)) with
    | error err => exact Prog.calls_fail err
    | ok cert =>
        refine Prog.Calls.bind (p := withContext _ _) (withContext_calls _ (Prog.calls_perform ?_))
          (fun _ => Prog.calls_pure _)
        rw [tlsSecret_eq hcfg]
        exact fun _ => ⟨_, cert, made_of_generate hcfg hr hcert, rfl⟩

/-- The TLS Secret is always one that a run has made. -/
theorem issued_exec (hcfg : r.cfg.Of rel) (hr : r ∈ rs) (hw : rel.Issued rs w) :
    rel.Issued rs (r.exec T w).2 := by
  have hcalls : (run r.cfg r.generate r.systemRoots T r.generated r.now).Calls (Writes rel rs) :=
    Prog.Calls.bind (ensureServingCert_writes hcfg hr)
      (fun _ => (ensureToken_aside hcfg).mono (fun _ hc => hc.writes))
  refine (Prog.Safe.steps_inv (R := Rely.none) (I := rel.Issued rs) ?_ ?_
    (Prog.steps_exec react Rely.none r.fates _ w) (hcalls.safe w) hw).1
  · rintro w₁ _ hI rfl
    exact hI
  · intro w₁ c f hI hc secret hsecret
    rcases respond_world _ serve w₁ c f with h | h
    · have hw₁ : (react w₁ c f).1 = w₁ := h
      rw [hw₁] at hsecret
      exact hI secret hsecret
    · have hw₁ : (react w₁ c f).1 = (serve w₁ c).1 := h
      rw [hw₁] at hsecret
      cases c with
      | getSecret key => exact hI secret hsecret
      | applyConfigMap configMap => exact hI secret hsecret
      | applySecret written =>
          rw [show (serve w₁ (.applySecret written)).1.secrets =
            w₁.secrets.insert written.metadata.key written from rfl, KeyMap.get?_insert] at hsecret
          split_ifs at hsecret with hkey
          · cases hsecret
            exact hc hkey
          · exact hI secret hsecret

/-- Publishing the CA of the certificate in the TLS Secret. -/
theorem publish_trusted (hcfg : r.cfg.Of rel) {url : String} {cert : ServingCert}
    (hmade : rel.Made rs url cert) (hserved : w.secrets[rel.tlsKey]? = some (rel.secret url cert)) :
    rel.Trusted rs url cert
      (serve w (.applyConfigMap (caConfigmap r.cfg cert.ca r.systemRoots))).1 where
  made := hmade
  served := hserved
  published := by
    refine ⟨caConfigmap r.cfg cert.ca r.systemRoots, r.systemRoots, ?_, ?_⟩
    · refine (KeyMap.get?_insert ..).trans (if_pos ?_)
      exact caConfigmap_key hcfg _ _
    · simp [caConfigmap]

/-- The CA that is kept is that of the certificate in the TLS Secret. -/
theorem currentCa_eq_some (hw : rel.Issued rs w) {ca : String}
    (h : currentCa r.cfg (w.secrets[rel.tlsKey]?) = some ca) :
    ∃ cert, rel.Made rs r.cfg.issuerUrl cert ∧ cert.ca = ca ∧
      w.secrets[rel.tlsKey]? = some (rel.secret r.cfg.issuerUrl cert) := by
  obtain ⟨secret, hsecret, hca⟩ := Option.bind_eq_some_iff.mp h
  obtain ⟨hthere, hfor⟩ := Option.filter_eq_some_iff.mp hsecret
  obtain ⟨url, cert, hmade, rfl⟩ := hw secret hthere
  rw [rel.mintedFor_secret, beq_iff_eq] at hfor
  subst hfor
  rw [rel.secret_ca, Option.some.injEq] at hca
  exact ⟨cert, hmade, hca, hthere⟩

/-- A run that returns leaves the issuer trusted. -/
theorem ensureServingCert_yields (hcfg : r.cfg.Of rel) (hr : r ∈ rs) (hw : rel.Issued rs w) :
    (ensureServingCert r.cfg r.generate r.systemRoots).Yields react Rely.none w
      (fun _ w' => ∃ cert, rel.Trusted rs r.cfg.issuerUrl cert w') := by
  have hkey : (⟨r.cfg.namespace_, r.cfg.tlsSecret⟩ : Key) = rel.tlsKey := by
    rw [hcfg.namespace_, hcfg.tlsSecret]
    rfl
  have hpublish : ∀ {cert : ServingCert} {w₁ : Store}, rel.Made rs r.cfg.issuerUrl cert →
      w₁.secrets[rel.tlsKey]? = some (rel.secret r.cfg.issuerUrl cert) →
      (withContext "apply CA ConfigMap" (mintCall (.applyConfigMap
        (caConfigmap r.cfg cert.ca r.systemRoots)))).Yields react Rely.none w₁
          (fun _ w' => ∃ cert, rel.Trusted rs r.cfg.issuerUrl cert w') := by
    intro cert w₁ hmade hserved
    refine withContext_yields _ (yields_perform ?_)
    rintro _ rfl answer _ _ rfl
    exact ⟨cert, publish_trusted hcfg hmade hserved⟩
  refine Prog.Yields.bind (withContext_yields _ (yields_perform ?_))
  rintro _ rfl existing hexisting _ rfl
  have hfound : existing = w.secrets[rel.tlsKey]? := by
    rw [← hkey]
    exact (Except.ok.inj hexisting).symm
  subst hfound
  refine Prog.Yields.bind ?_
  unfold servingCa
  cases hca : currentCa r.cfg (w.secrets[rel.tlsKey]?) with
  | some ca =>
      obtain ⟨cert, hmade, rfl, hserved⟩ := currentCa_eq_some hw hca
      refine Prog.yields_pure ?_
      rintro _ rfl
      exact hpublish hmade hserved
  | none =>
      refine Prog.Yields.bind (Prog.yields_done ?_)
      rintro cert hcert _ rfl
      refine Prog.Yields.bind (withContext_yields _ (yields_perform ?_))
      rintro _ rfl answer _ _ rfl
      refine Prog.yields_pure ?_
      rintro _ rfl
      refine hpublish (made_of_generate hcfg hr hcert) ?_
      rw [tlsSecret_eq hcfg]
      exact (KeyMap.get?_insert ..).trans (if_pos rfl)

theorem withContext_safe {α : Type} {p : MintOp α} (what : String) {G : Store → MintCall → Prop}
    {Q : Except Failure α → Store → Prop} (hQ : ∀ err err' w', Q (.error err) w' → Q (.error err') w')
    (hp : p.Safe react Rely.none G Q w) : (withContext what p).Safe react Rely.none G Q w := by
  refine Prog.Safe.bind (Prog.Safe.attempt (Prog.Safe.mono (fun _ _ hc => hc) ?_ hp))
  intro answer w' hanswer
  cases answer with
  | ok a =>
      rintro _ rfl
      exact hanswer
  | error err =>
      rintro _ rfl
      exact hQ err _ w' hanswer

/-- A call that stays aside keeps the trust. -/
theorem trusted_aside {url : String} {cert : ServingCert} {c : MintCall}
    (ht : rel.Trusted rs url cert w) (hc : Aside rel c) (f : Fate String) :
    rel.Trusted rs url cert (react w c f).1 := by
  obtain ⟨hsecrets, hconfigMaps⟩ := react_aside (w := w) hc f
  obtain ⟨configMap, systemRoots, hthere, hbundle⟩ := ht.published
  exact ⟨ht.made, hsecrets.trans ht.served,
    configMap, systemRoots, hconfigMaps.trans hthere, hbundle⟩

/-- The CA of the certificate that is served is published again, or not at all. -/
theorem trusted_publish {url : String} {cert : ServingCert}
    (ht : rel.Trusted rs url cert w) (hcfg : r.cfg.Of rel) (f : Fate String) :
    rel.Trusted rs url cert
      (react w (.applyConfigMap (caConfigmap r.cfg cert.ca r.systemRoots)) f).1 := by
  rcases respond_world _ serve w (.applyConfigMap (caConfigmap r.cfg cert.ca r.systemRoots)) f
    with h | h
  · exact Eq.mpr (congrArg (rel.Trusted rs url cert) h) ht
  · exact Eq.mpr (congrArg (rel.Trusted rs url cert) h) (publish_trusted hcfg ht.made ht.served)

/-- A run for the URL that is served keeps the trust, call by call. -/
theorem run_steady {cert : ServingCert} (hcfg : r.cfg.Of rel)
    (ht : rel.Trusted rs r.cfg.issuerUrl cert w) :
    (run r.cfg r.generate r.systemRoots T r.generated r.now).Safe react Rely.none
      (fun w c => ∀ f, rel.Trusted rs r.cfg.issuerUrl cert (react w c f).1)
      (fun _ w' => rel.Trusted rs r.cfg.issuerUrl cert w') w := by
  have hkey : (⟨r.cfg.namespace_, r.cfg.tlsSecret⟩ : Key) = rel.tlsKey := by
    rw [hcfg.namespace_, hcfg.tlsSecret]
    rfl
  have hrely : ∀ w w', rel.Trusted rs r.cfg.issuerUrl cert w → Rely.none w w' →
      rel.Trusted rs r.cfg.issuerUrl cert w' := by
    rintro w₁ _ ht rfl
    exact ht
  have hlookup : (withContext "look up existing TLS Secret"
      (mintCall (.getSecret ⟨r.cfg.namespace_, r.cfg.tlsSecret⟩))).Safe react Rely.none
      (fun w c => ∀ f, rel.Trusted rs r.cfg.issuerUrl cert (react w c f).1)
      (fun answer w' => rel.Trusted rs r.cfg.issuerUrl cert w' ∧
        ∀ existing, answer = .ok existing → existing = some (rel.secret r.cfg.issuerUrl cert)) w := by
    refine withContext_safe _ (fun _ _ _ h => ⟨h.1, nofun⟩) (Prog.safe_perform (c := MintCall.getSecret _) ?_)
    rintro _ rfl
    refine ⟨fun f => trusted_aside ht (c := .getSecret _) trivial f, ?_⟩
    rintro f _ rfl
    refine ⟨trusted_aside ht (c := .getSecret _) trivial f, fun existing hexisting => ?_⟩
    have hserved := Except.ok.inj (respond_ok hexisting).2
    rw [← hserved, hkey]
    exact ht.served
  refine Prog.Safe.bind_inv (I := rel.Trusted rs r.cfg.issuerUrl cert) ?_ ?_ ?_
  · refine Prog.Safe.bind (Prog.Safe.mono (fun _ _ hc => hc) ?_ hlookup)
    intro answer w₁ hanswer
    cases answer with
    | error err => exact fun w₂ hw₂ => hrely w₁ w₂ hanswer.1 hw₂
    | ok existing =>
        have hca : currentCa r.cfg existing = some cert.ca := by
          rw [hanswer.2 existing rfl]
          have hfor : mintedFor (rel.secret r.cfg.issuerUrl cert) r.cfg.toConfig = true := by
            rw [rel.mintedFor_secret, beq_self_eq_true]
          rw [currentCa, Option.filter_some, if_pos hfor, Option.bind_some, rel.secret_ca]
        show Prog.Safe _ _ _ _ (servingCa r.cfg r.generate existing >>= _) w₁
        rw [servingCa, hca]
        refine withContext_safe _ (fun _ _ _ h => h) (Prog.safe_perform (c := MintCall.applyConfigMap _) ?_)
        rintro _ rfl
        refine ⟨fun f => trusted_publish hanswer.1 hcfg f, ?_⟩
        rintro f _ rfl
        exact trusted_publish hanswer.1 hcfg f
  · intro _ w₁ ht₁
    exact (ensureToken_aside hcfg).safe_inv hrely
      (fun w₂ c ht₂ hc => ⟨fun f => trusted_aside ht₂ hc f, fun f => trusted_aside ht₂ hc f⟩) ht₁
  · exact fun _ w₁ w₂ ht₁ hw₂ => hrely w₁ w₂ ht₁ hw₂

end runs

/-! ### The result -/

section results
variable {T : Toolkit} {rel : Installation}

theorem mintHistory_concat (rs : List MintRun) (r : MintRun) :
    mintHistory T (rs ++ [r]) = (r.exec T (mintHistory T rs)).2 := by
  unfold mintHistory
  rw [List.foldl_append]
  rfl

/-- In every history the TLS Secret is one that a run has made. -/
theorem issued_history (rs : List MintRun) (hrs : ∀ r ∈ rs, r.cfg.Of rel) :
    rel.Issued rs (mintHistory T rs) := by
  induction rs using List.reverseRecOn with
  | nil =>
      intro secret hsecret
      rw [show (mintHistory T []).secrets = ∅ from rfl] at hsecret
      simp at hsecret
  | append_singleton rs r ih =>
      have hbefore := ih (fun r' hr' => hrs r' (List.mem_append_left _ hr'))
      have hmore : rel.Issued (rs ++ [r]) (mintHistory T rs) := by
        intro secret hsecret
        obtain ⟨url, cert, hmade, heq⟩ := hbefore secret hsecret
        exact ⟨url, cert, hmade.mono (List.subset_append_left _ _), heq⟩
      rw [mintHistory_concat]
      exact issued_exec (hrs r (by simp)) (by simp) hmore

/-- **The issuer is trusted.**  After any history of runs, each stopped anywhere, a run that
returns leaves in the TLS Secret a certificate for every name the gateway may dial the issuer by,
and its CA at the head of the published bundle; and from such a state a run for the same URL keeps
the Secret and the trust, wherever it stops. -/
theorem issuer_trusted (T : Toolkit) (rel : Installation) (rs : List MintRun)
    (hrs : ∀ r ∈ rs, r.cfg.Of rel) (r : MintRun) (hr : r.cfg.Of rel) :
    ((r.exec T (mintHistory T rs)).1.returned = some () →
      ∃ cert, rel.Trusted (rs ++ [r]) r.cfg.issuerUrl cert (r.exec T (mintHistory T rs)).2) ∧
    ∀ cert, rel.Trusted rs r.cfg.issuerUrl cert (mintHistory T rs) →
      rel.Trusted rs r.cfg.issuerUrl cert (r.exec T (mintHistory T rs)).2 := by
  have hsteps := Prog.steps_exec react Rely.none r.fates
    (run r.cfg r.generate r.systemRoots T r.generated r.now) (mintHistory T rs)
  constructor
  · intro hreturned
    have hissued : rel.Issued (rs ++ [r]) (mintHistory T rs) := by
      intro secret hsecret
      obtain ⟨url, cert, hmade, heq⟩ := issued_history (T := T) rs hrs secret hsecret
      exact ⟨url, cert, hmade.mono (List.subset_append_left _ _), heq⟩
    have hyields : (run r.cfg r.generate r.systemRoots T r.generated r.now).Yields react Rely.none
        (mintHistory T rs)
        (fun _ w' => ∃ cert, rel.Trusted (rs ++ [r]) r.cfg.issuerUrl cert w') := by
      refine Prog.Yields.bind ((ensureServingCert_yields hr (by simp) hissued).mono ?_)
      rintro _ w₁ ⟨cert, ht⟩
      refine Prog.Safe.mono (fun _ _ _ => trivial) (fun _ w' ht' _ _ => ⟨cert, ht'⟩)
        ((ensureToken_aside hr).safe_inv (G := fun _ _ => True)
          (I := rel.Trusted (rs ++ [r]) r.cfg.issuerUrl cert) ?_ ?_ ht)
      · rintro w₂ _ ht₂ rfl
        exact ht₂
      · exact fun w₂ c ht₂ hc => ⟨trivial, fun f => trusted_aside ht₂ hc f⟩
    have hdone : (Prog.exec react r.fates (run r.cfg r.generate r.systemRoots T r.generated r.now)
        (mintHistory T rs)).1 = .done (.ok ()) := Prog.eq_of_returned hreturned
    rw [hdone] at hsteps
    exact hyields.steps hsteps
  · intro cert ht
    refine (Prog.Safe.steps_inv ?_ (fun _ _ f _ hkeeps => hkeeps f) hsteps (run_steady hr ht) ht).1
    rintro w₁ _ ht₁ rfl
    exact ht₁

end results

namespace Sample

def installation : Installation where
  namespace_ := "system"
  service := "issuer"
  tlsSecret := "issuer-tls"
  caConfigmap := "issuer-ca"
  tokenSecret := "token"
  jwksConfigmap := "jwks"
  secrets_ne := by decide
  configMaps_ne := by decide

/-- A run for a URL, with certificates that name what they are for. -/
def mintRun (url : String) (fates : List (Fate String)) : MintRun where
  cfg := { config url with
    service := "issuer"
    tlsSecret := "issuer-tls"
    caConfigmap := "issuer-ca" }
  generate names := .ok ⟨String.intercalate "," names, "key", url ++ " CA\n"⟩
  systemRoots := "ROOTS\n"
  generated := .ok key₁
  now := some 0
  fates := fates

theorem mintRun_of (url : String) (fates : List (Fate String)) :
    (mintRun url fates).cfg.Of installation := ⟨rfl, rfl, rfl, rfl, rfl, rfl⟩

/-- A run for the old URL is stopped between its first two writes; the run for the new URL returns
and leaves the issuer trusted. -/
theorem moved_issuer_trusted : ∃ cert, installation.Trusted
    ([mintRun "http://issuer" [.served, .served]] ++
      [mintRun "https://issuer" (List.replicate 6 .served)]) "https://issuer" cert
    ((mintRun "https://issuer" (List.replicate 6 .served)).exec toolkit
      (mintHistory toolkit [mintRun "http://issuer" [.served, .served]])).2 := by
  have hold : ∀ r ∈ [mintRun "http://issuer" [.served, .served]], r.cfg.Of installation := by
    intro r hr
    rw [List.mem_singleton.mp hr]
    exact mintRun_of _ _
  exact (issuer_trusted toolkit installation _ hold _ (mintRun_of _ _)).1 (by decide +kernel)

end Sample
end OpenShell.Issuer
