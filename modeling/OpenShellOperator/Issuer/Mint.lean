import OpenShellOperator.Effects.Prog
import OpenShellOperator.Wire.Json
import OpenShellOperator.Wire.Key
import Mathlib.Algebra.Group.Nat.Defs
import Mathlib.Data.List.Induction
import Mathlib.Data.List.Nodup

/-! # Minting the operator token

A run of the issuer's `mint` looks the token Secret up; one that was minted for the configured
issuer URL is left alone.  Otherwise it generates a key, signs a token, publishes the key's
JWKS and the discovery document in a ConfigMap, and writes the Secret last.

A history is a list of runs, each with its own configuration, key, clock and fates of its
calls; a run that has no fate left for a call is stopped there.  The Secret marks the run as
done, so it should only ever be current when the ConfigMap matches it.  `kept_iff` says when
it does: unless a run that replaces the Secret of another URL stops between its two writes. -/

namespace OpenShell.Issuer
open Wire Effects

/-! ### The objects -/

structure Config where
  namespace_ : String
  issuerUrl : String
  audience : String
  adminRole : String
  subject : String
  tokenSecret : String
  jwksConfigmap : String
  tokenTtlDays : UInt64
deriving DecidableEq, Repr

structure Claims where
  iss : String
  sub : String
  aud : String
  iat : UInt64
  exp : UInt64
  roles : List String
deriving DecidableEq, Repr

structure Header where
  alg : String
  kid : Option String
deriving DecidableEq, Repr

/-- A signing key: its private encoding, key id, and public modulus and exponent. -/
structure SigningKey where
  encoding : String
  kid : String
  n : String
  e : String
deriving DecidableEq, Repr

/-- Code outside the issuer: signing a JWT and rendering JSON. -/
structure Toolkit where
  encode : Header → Claims → String → Except String String
  toStringPretty : Json → Except String String

structure Metadata where
  name : String
  namespace_ : String
  labels : StrMap String
  annotations : Option (StrMap String) := none
deriving DecidableEq, Repr

def Metadata.key (m : Metadata) : Key := ⟨m.namespace_, m.name⟩

structure Secret where
  metadata : Metadata
  stringData : StrMap String
deriving DecidableEq, Repr

structure ConfigMap where
  metadata : Metadata
  data : StrMap String
deriving DecidableEq, Repr

def issuerAnnotation : String := "openshell.lenshq.io/issuer-url"

def secondsPerDay : ℕ := 86400

def metadata (name namespace_ : String) : Metadata where
  name := name
  namespace_ := namespace_
  labels := ((∅ : StrMap String).insert "app.kubernetes.io/managed-by" "openshell-issuer").insert
    "app.kubernetes.io/part-of" "openshell-operator"

/-- Metadata of an object that is only valid for the configured issuer URL. -/
def issuerMetadata (cfg : Config) (name : String) : Metadata :=
  { metadata name cfg.namespace_ with
    annotations := some ((∅ : StrMap String).insert issuerAnnotation cfg.issuerUrl) }

def tokenSecret (cfg : Config) (token : String) : Secret where
  metadata := issuerMetadata cfg cfg.tokenSecret
  stringData := (∅ : StrMap String).insert "token" token

/-- The issuer URL a Secret was minted for. -/
def Secret.issuerUrl (secret : Secret) : Option String :=
  secret.metadata.annotations.bind (·[ issuerAnnotation]?)

def mintedFor (secret : Secret) (cfg : Config) : Bool :=
  secret.issuerUrl.any (fun url => url == cfg.issuerUrl)

/-! ### Keys and documents -/

/-- Why a run failed: the step it was at, if named, and the cause. -/
structure Failure where
  context : Option String
  cause : String
deriving DecidableEq, Repr

/-- The token's lifetime, saturating. -/
def expiry (cfg : Config) (now : UInt64) : UInt64 :=
  let top := 2 ^ 64 - 1
  UInt64.ofNat (min (now.toNat + min (cfg.tokenTtlDays.toNat * secondsPerDay) top) top)

def SigningKey.claims (cfg : Config) (now : UInt64) : Claims :=
  ⟨cfg.issuerUrl, cfg.subject, cfg.audience, now, expiry cfg now, [cfg.adminRole]⟩

/-- Sign the operator's token; no time stands for a clock before the epoch. -/
def SigningKey.sign (T : Toolkit) (key : SigningKey) (cfg : Config) (now : Option UInt64) :
    Except Failure String :=
  match now with
  | none => .error ⟨some "system clock is before the Unix epoch", "second time provided was later than self"⟩
  | some now =>
      match T.encode ⟨"RS256", some key.kid⟩ (SigningKey.claims cfg now) key.encoding with
      | .ok token => .ok token
      | .error cause => .error ⟨some "sign operator JWT", cause⟩

/-- The single-key JWK set. -/
def SigningKey.jwks (key : SigningKey) : Json :=
  .ofPairs [("keys", .arr [.ofPairs
    [("kty", .str "RSA"), ("use", .str "sig"), ("alg", .str "RS256"), ("kid", .str key.kid),
     ("n", .str key.n), ("e", .str key.e)]])]

/-- The discovery document of an issuer URL. -/
def discovery (issuerUrl : String) : Json :=
  .ofPairs
    [("issuer", .str issuerUrl), ("jwks_uri", .str (issuerUrl ++ "/keys")),
     ("response_types_supported", .ofStrings ["id_token"]),
     ("subject_types_supported", .ofStrings ["public"]),
     ("id_token_signing_alg_values_supported", .ofStrings ["RS256"])]

def jwksConfigmap (T : Toolkit) (cfg : Config) (key : SigningKey) : Except String ConfigMap := do
  let document ← T.toStringPretty (discovery cfg.issuerUrl)
  let jwks ← T.toStringPretty key.jwks
  pure
    { metadata := metadata cfg.jwksConfigmap cfg.namespace_
      data := ((∅ : StrMap String).insert "openid-configuration" document).insert "jwks.json" jwks }

/-! ### The run -/

inductive MintCall where
  | getSecret (key : Key)
  | applyConfigMap (configMap : ConfigMap)
  | applySecret (secret : Secret)
deriving DecidableEq, Repr

abbrev MintCall.Answer : MintCall → Type
  | getSecret _ => Option Secret
  | _ => Unit

abbrev MintOp (α : Type) := Prog MintCall.Answer Failure α

def mintCall (c : MintCall) : MintOp c.Answer := Prog.perform (ε := Failure) c

/-- Name the step at which a program fails. -/
def withContext {α : Type} (what : String) (p : MintOp α) : MintOp α := do
  match ← p.attempt with
  | .ok a => pure a
  | .error err => Prog.fail ⟨some what, err.cause⟩

/-- The key of a run makes the token and the two objects to apply. -/
def prepare (T : Toolkit) (cfg : Config) (generated : Except Failure SigningKey)
    (now : Option UInt64) : Except Failure (ConfigMap × Secret) :=
  match generated with
  | .error err => .error err
  | .ok key =>
      match key.sign T cfg now with
      | .error err => .error err
      | .ok token =>
          match jwksConfigmap T cfg key with
          | .error cause => .error ⟨none, cause⟩
          | .ok configMap => .ok (configMap, tokenSecret cfg token)

/-- Leave a token for the configured URL alone; otherwise publish a new key's JWKS, then the
token it signed. -/
def ensureToken (T : Toolkit) (cfg : Config) (generated : Except Failure SigningKey)
    (now : Option UInt64) : MintOp Unit := do
  let existing : Option Secret ← withContext "look up existing token Secret"
    (mintCall (.getSecret ⟨cfg.namespace_, cfg.tokenSecret⟩))
  if existing.any (mintedFor · cfg) then
    pure ()
  else
    let objects ← (Prog.done (prepare T cfg generated now) : MintOp (ConfigMap × Secret))
    withContext "apply JWKS ConfigMap" (mintCall (.applyConfigMap objects.1))
    withContext "apply token Secret" (mintCall (.applySecret objects.2))

/-! ### The cluster -/

structure Store where
  secrets : KeyMap Secret := ∅
  configMaps : KeyMap ConfigMap := ∅
deriving DecidableEq

/-- Server-side apply by the one field manager stores the object. -/
def serve (w : Store) : (c : MintCall) → Store × Except Failure c.Answer
  | .getSecret key => (w, .ok (w.secrets[key]? : Option Secret))
  | .applyConfigMap m => ({ w with configMaps := w.configMaps.insert m.metadata.key m }, .ok ())
  | .applySecret s => ({ w with secrets := w.secrets.insert s.metadata.key s }, .ok ())

/-- Calls may fail, with or without effect. -/
def react : Store → (c : MintCall) → Fate String → Store × Except Failure c.Answer :=
  respond (fun cause => ⟨none, cause⟩) serve

/-- One run: what it was configured with, the key it generates, its clock, and how its calls
fare; it is stopped before the first call without a fate. -/
structure Run where
  cfg : Config
  generated : Except Failure SigningKey
  now : Option UInt64
  fates : List (Fate String)

def Run.after (T : Toolkit) (r : Run) (w : Store) : Store :=
  (Prog.exec react r.fates (ensureToken T r.cfg r.generated r.now) w).2

/-- The store after a history of runs, the first one on an empty store. -/
def history (T : Toolkit) (rs : List Run) : Store := rs.foldl (fun w r => r.after T w) {}

/-! ### One run -/

section run
variable {T : Toolkit}

/-- The Secret a run finds. -/
def Run.existing (r : Run) (w : Store) : Option Secret :=
  w.secrets[(⟨r.cfg.namespace_, r.cfg.tokenSecret⟩ : Key)]?

/-- Whether a call took effect. -/
def effective : Fate String → Bool
  | .refused _ => false
  | _ => true

/-- The store with both objects of a run. -/
def Store.apply (w : Store) (objects : ConfigMap × Secret) : Store where
  configMaps := w.configMaps.insert objects.1.metadata.key objects.1
  secrets := w.secrets.insert objects.2.metadata.key objects.2

/-- The store with the first object of a run only. -/
def Store.publish (w : Store) (configMap : ConfigMap) : Store :=
  { w with configMaps := w.configMaps.insert configMap.metadata.key configMap }

/-- The run after its lookup. -/
def mintFrom (T : Toolkit) (cfg : Config) (generated : Except Failure SigningKey)
    (now : Option UInt64) (existing : Option Secret) : MintOp Unit :=
  if existing.any (mintedFor · cfg) then pure ()
  else match prepare T cfg generated now with
    | .error err => .done (.error err)
    | .ok objects =>
        .call (.applyConfigMap objects.1) (fun r => match r with
          | .error err => Prog.fail ⟨some "apply JWKS ConfigMap", err.cause⟩
          | .ok _ => withContext "apply token Secret" (mintCall (.applySecret objects.2)))

theorem ensureToken_eq (cfg : Config) (generated : Except Failure SigningKey)
    (now : Option UInt64) :
    ensureToken T cfg generated now =
      .call (.getSecret ⟨cfg.namespace_, cfg.tokenSecret⟩) (fun r => match r with
        | .error err => Prog.fail ⟨some "look up existing token Secret", err.cause⟩
        | .ok existing => mintFrom T cfg generated now existing) := by
  show Prog.call _ _ = _
  congr 1
  funext r
  cases r with
  | error err => rfl
  | ok existing =>
      show (if Option.any (mintedFor · cfg) existing then _ else _) =
        mintFrom T cfg generated now existing
      unfold mintFrom
      by_cases hm : Option.any (mintedFor · cfg) existing
      · rw [if_pos hm, if_pos hm]
      · rw [if_neg hm, if_neg hm]
        cases prepare T cfg generated now with
        | error err => rfl
        | ok objects =>
            show Prog.call _ _ = _
            congr 1
            funext r
            cases r <;> rfl

/-- The lookup is answered. -/
def Run.looks (r : Run) : Bool := r.fates[0]? = some .served

/-- The ConfigMap write takes effect. -/
def Run.publishes (r : Run) : Bool := r.fates[1]?.any effective

/-- The Secret write takes effect: the ConfigMap write was answered before. -/
def Run.marks (r : Run) : Bool := r.fates[1]? = some .served && r.fates[2]?.any effective

/-- **What a run does.**  Nothing, if it finds a token for its URL or cannot make its objects;
otherwise it writes as far as its calls get. -/
theorem Run.after_eq (r : Run) (w : Store) :
    r.after T w =
      if r.looks && !(r.existing w).any (mintedFor · r.cfg) && r.publishes then
        match prepare T r.cfg r.generated r.now with
        | .error _ => w
        | .ok objects => if r.marks then w.apply objects else w.publish objects.1
      else w := by
  obtain ⟨cfg, generated, now, fates⟩ := r
  unfold Run.after
  rw [ensureToken_eq]
  match fates with
  | [] => rfl
  | .refused e :: fs => cases fs <;> rfl
  | .unheard e :: fs => cases fs <;> rfl
  | .served :: fs =>
      show (Prog.exec react fs (mintFrom T cfg generated now _) w).2 = _
      unfold mintFrom Run.existing
      by_cases hm : Option.any (mintedFor · cfg)
          (w.secrets[(⟨cfg.namespace_, cfg.tokenSecret⟩ : Key)]?)
      · rw [if_pos hm]
        simp only [hm, Bool.not_true, Bool.and_false, Bool.false_and]
        cases fs <;> rfl
      · rw [if_neg hm]
        simp only [Run.looks, Run.publishes, hm]
        cases prepare T cfg generated now with
        | error err =>
            simp only [ite_self]
            cases fs <;> rfl
        | ok objects =>
            match fs with
            | [] => rfl
            | .refused e :: fs => cases fs <;> rfl
            | .unheard e :: fs => cases fs <;> rfl
            | .served :: [] => rfl
            | .served :: .refused e :: fs => cases fs <;> rfl
            | .served :: .unheard e :: fs => cases fs <;> rfl
            | .served :: .served :: fs => cases fs <;> rfl

theorem prepare_ok {cfg : Config} {generated : Except Failure SigningKey} {now : Option UInt64}
    {configMap : ConfigMap} {secret : Secret}
    (h : prepare T cfg generated now = .ok (configMap, secret)) :
    ∃ key token, generated = .ok key ∧ key.sign T cfg now = .ok token ∧
      jwksConfigmap T cfg key = .ok configMap ∧ secret = tokenSecret cfg token := by
  unfold prepare at h
  cases generated with
  | error err => cases h
  | ok key =>
      cases hs : key.sign T cfg now with
      | error err => simp only [hs, reduceCtorEq] at h
      | ok token =>
          cases hc : jwksConfigmap T cfg key with
          | error err => simp only [hs, hc, reduceCtorEq] at h
          | ok configMap =>
              simp only [hs, hc, Except.ok.injEq, Prod.mk.injEq] at h
              exact ⟨key, token, rfl, hs, h.1 ▸ hc, h.2.symm⟩

theorem jwksConfigmap_ok {cfg : Config} {key : SigningKey} {configMap : ConfigMap}
    (h : jwksConfigmap T cfg key = .ok configMap) :
    configMap.metadata.key = ⟨cfg.namespace_, cfg.jwksConfigmap⟩ ∧
      (∃ text, T.toStringPretty (discovery cfg.issuerUrl) = .ok text ∧
        configMap.data["openid-configuration"]? = some text) ∧
      ∃ text, T.toStringPretty key.jwks = .ok text ∧ configMap.data["jwks.json"]? = some text := by
  unfold jwksConfigmap at h
  cases hd : T.toStringPretty (discovery cfg.issuerUrl) with
  | error err => rw [hd] at h; cases h
  | ok document =>
      cases hj : T.toStringPretty key.jwks with
      | error err => rw [hd, hj] at h; cases h
      | ok jwks =>
          rw [hd, hj] at h
          cases h
          refine ⟨rfl, ⟨document, rfl, ?_⟩, jwks, rfl, ?_⟩
          · rw [Std.ExtTreeMap.getElem?_insert, if_neg (by decide), Std.ExtTreeMap.getElem?_insert,
              if_pos (by decide)]
          · rw [Std.ExtTreeMap.getElem?_insert, if_pos (by decide)]

theorem SigningKey.sign_ok {key : SigningKey} {cfg : Config} {now : Option UInt64}
    {token : String} (h : key.sign T cfg now = .ok token) :
    ∃ claims, T.encode ⟨"RS256", some key.kid⟩ claims key.encoding = .ok token := by
  unfold SigningKey.sign at h
  cases now with
  | none => cases h
  | some now =>
      cases he : T.encode ⟨"RS256", some key.kid⟩ (SigningKey.claims cfg now) key.encoding with
      | error err => simp only [he, reduceCtorEq] at h
      | ok t =>
          simp only [he, Except.ok.injEq] at h
          exact ⟨_, h ▸ he⟩

theorem tokenSecret_issuerUrl (cfg : Config) (token : String) :
    (tokenSecret cfg token).issuerUrl = some cfg.issuerUrl := by
  show ((∅ : StrMap String).insert issuerAnnotation cfg.issuerUrl)[ issuerAnnotation]? = _
  rw [Std.ExtTreeMap.getElem?_insert, if_pos (by decide)]

end run

/-! ### Histories -/

/-- The names that all runs of one release share. -/
structure Release where
  namespace_ : String
  tokenSecret : String
  jwksConfigmap : String
deriving DecidableEq, Repr

def Config.release (cfg : Config) : Release :=
  ⟨cfg.namespace_, cfg.tokenSecret, cfg.jwksConfigmap⟩

def Release.secretKey (rel : Release) : Key := ⟨rel.namespace_, rel.tokenSecret⟩

def Release.configMapKey (rel : Release) : Key := ⟨rel.namespace_, rel.jwksConfigmap⟩

/-- A current token verifies: if the Secret is annotated with a URL, then the ConfigMap holds
the JWKS of the key that one of the runs generated and signed the token with, and the
discovery document of that URL. -/
def Verifies (T : Toolkit) (rel : Release) (rs : List Run) (w : Store) : Prop :=
  ∀ secret url, w.secrets[rel.secretKey]? = some secret → secret.issuerUrl = some url →
    ∃ r ∈ rs, ∃ key token configMap, r.generated = .ok key ∧
      secret.stringData["token"]? = some token ∧
      (∃ claims, T.encode ⟨"RS256", some key.kid⟩ claims key.encoding = .ok token) ∧
      w.configMaps[rel.configMapKey]? = some configMap ∧
      (∃ text, T.toStringPretty key.jwks = .ok text ∧ configMap.data["jwks.json"]? = some text) ∧
      ∃ text, T.toStringPretty (discovery url) = .ok text ∧
        configMap.data["openid-configuration"]? = some text

/-- A run that finds a token for another URL and stops between its two writes. -/
def Run.Interrupted (T : Toolkit) (r : Run) (w : Store) : Prop :=
  r.looks ∧ r.publishes ∧ ¬ r.marks ∧
    (∃ secret, r.existing w = some secret ∧ ¬ mintedFor secret r.cfg) ∧
    ∃ objects, prepare T r.cfg r.generated r.now = .ok objects

section histories
variable {T : Toolkit} {rel : Release}

theorem history_concat (rs : List Run) (r : Run) : history T (rs ++ [r]) = r.after T (history T rs) := by
  unfold history
  rw [List.foldl_append]
  rfl

/-- A run changes nothing, writes both objects, or is stopped after the first. -/
theorem Run.after_cases (r : Run) (w : Store) :
    r.after T w = w ∨ ∃ objects, prepare T r.cfg r.generated r.now = .ok objects ∧
      ((r.existing w).any (mintedFor · r.cfg) = false ∧ r.looks ∧ r.publishes) ∧
      ((r.marks ∧ r.after T w = w.apply objects) ∨
        (¬ r.marks ∧ r.after T w = w.publish objects.1)) := by
  have h := Run.after_eq (T := T) r w
  by_cases hc : (r.looks && !(r.existing w).any (mintedFor · r.cfg) && r.publishes) = true
  · rw [if_pos hc] at h
    simp only [Bool.and_eq_true, Bool.not_eq_true'] at hc
    cases hp : prepare T r.cfg r.generated r.now with
    | error err =>
        rw [hp] at h
        exact .inl h
    | ok objects =>
        rw [hp] at h
        refine .inr ⟨objects, rfl, ⟨hc.1.2, hc.1.1, hc.2⟩, ?_⟩
        by_cases hm : r.marks
        · exact .inl ⟨hm, by simpa only [if_pos hm] using h⟩
        · exact .inr ⟨hm, by simpa only [if_neg hm] using h⟩
  · rw [if_neg hc] at h
    exact .inl h

theorem apply_secret {w : Store} {r : Run} {objects : ConfigMap × Secret}
    (hrel : r.cfg.release = rel) (hp : prepare T r.cfg r.generated r.now = .ok objects) :
    (w.apply objects).secrets[rel.secretKey]? = some objects.2 := by
  obtain ⟨key, token, _, _, _, hs⟩ := prepare_ok hp
  show (w.secrets.insert objects.2.metadata.key objects.2)[rel.secretKey]? = _
  rw [KeyMap.get?_insert, if_pos]
  rw [hs, ← hrel]
  rfl

theorem publish_configMap {w : Store} {r : Run} {objects : ConfigMap × Secret}
    (hrel : r.cfg.release = rel) (hp : prepare T r.cfg r.generated r.now = .ok objects) :
    (w.publish objects.1).configMaps[rel.configMapKey]? = some objects.1 := by
  obtain ⟨key, token, _, _, hc, _⟩ := prepare_ok hp
  show (w.configMaps.insert objects.1.metadata.key objects.1)[rel.configMapKey]? = _
  rw [KeyMap.get?_insert, if_pos]
  rw [(jwksConfigmap_ok hc).1, ← hrel]
  rfl

/-- Every stored token Secret is the one some run made. -/
theorem stored_secret (rs : List Run) (hrel : ∀ r ∈ rs, r.cfg.release = rel) {secret : Secret}
    (h : (history T rs).secrets[rel.secretKey]? = some secret) :
    ∃ r ∈ rs, ∃ configMap, prepare T r.cfg r.generated r.now = .ok (configMap, secret) := by
  induction rs using List.reverseRecOn with
  | nil => simp [history] at h
  | append_singleton rs r ih =>
      rw [history_concat] at h
      have hprev : (history T rs).secrets[rel.secretKey]? = some secret →
          ∃ r' ∈ rs ++ [r], ∃ configMap,
            prepare T r'.cfg r'.generated r'.now = .ok (configMap, secret) := by
        intro h'
        obtain ⟨r', hr', hp⟩ := ih (fun r' hr' => hrel r' (List.mem_append_left _ hr')) h'
        exact ⟨r', List.mem_append_left _ hr', hp⟩
      rcases r.after_cases (T := T) (history T rs) with heq | ⟨objects, hp, -, ⟨-, heq⟩ | ⟨-, heq⟩⟩
      · rw [heq] at h
        exact hprev h
      · rw [heq, apply_secret (hrel r (by simp)) hp, Option.some.injEq] at h
        exact ⟨r, by simp, objects.1, by rw [hp, ← h]⟩
      · rw [heq] at h
        exact hprev h

/-- The pair of objects in the store comes from one run. -/
def Paired (T : Toolkit) (rel : Release) (rs : List Run) (w : Store) : Prop :=
  ∀ secret, w.secrets[rel.secretKey]? = some secret → ∃ r ∈ rs, ∃ configMap,
    prepare T r.cfg r.generated r.now = .ok (configMap, secret) ∧
      w.configMaps[rel.configMapKey]? = some configMap

theorem Paired.mono {rs rs' : List Run} {w : Store} (h : Paired T rel rs w) (hs : rs ⊆ rs') :
    Paired T rel rs' w := by
  intro secret hsecret
  obtain ⟨r, hr, hp⟩ := h secret hsecret
  exact ⟨r, hs hr, hp⟩

theorem Paired.verifies {rs : List Run} {w : Store} (h : Paired T rel rs w) :
    Verifies T rel rs w := by
  intro secret url hs hu
  obtain ⟨r, hr, configMap, hp, hm⟩ := h secret hs
  obtain ⟨key, token, hk, hsign, hc, hsecret⟩ := prepare_ok hp
  rw [hsecret, tokenSecret_issuerUrl, Option.some.injEq] at hu
  obtain ⟨_, hdisc, hjwks⟩ := jwksConfigmap_ok hc
  refine ⟨r, hr, key, token, configMap, hk, ?_, SigningKey.sign_ok hsign, hm, hjwks, hu ▸ hdisc⟩
  rw [hsecret]
  show ((∅ : StrMap String).insert "token" token)["token"]? = _
  rw [Std.ExtTreeMap.getElem?_insert, if_pos (by decide)]

/-- A run that is not interrupted keeps the pair. -/
theorem Paired.after_run {rs : List Run} {r : Run} {w : Store} (h : Paired T rel rs w)
    (hrel : r.cfg.release = rel) (hi : ¬ r.Interrupted T w) :
    Paired T rel (rs ++ [r]) (r.after T w) := by
  rcases r.after_cases (T := T) w with heq | ⟨objects, hp, hr, ⟨-, heq⟩ | ⟨hm, heq⟩⟩
  · rw [heq]
    exact h.mono (List.subset_append_left rs [r])
  · rw [heq]
    intro secret hs
    rw [apply_secret hrel hp, Option.some.injEq] at hs
    exact ⟨r, by simp, objects.1, by rw [hp, ← hs], publish_configMap (w := w) hrel hp⟩
  · rw [heq]
    intro secret hs
    have hex : r.existing w = some secret := by
      rw [← hrel] at hs
      exact hs
    refine absurd ⟨hr.2.1, hr.2.2, hm, ⟨secret, hex, ?_⟩, objects, hp⟩ hi
    have hminted := hr.1
    rw [hex] at hminted
    simpa using hminted

theorem discovery_inj {u v : String} (h : discovery u = discovery v) : u = v := by
  have hi := Json.find_congr h "issuer"
  simpa [Json.find_insert] using hi

/-- A run that is interrupted leaves a current token that does not verify. -/
theorem Run.Interrupted.not_verifies
    (hpretty : ∀ d d' text, T.toStringPretty d = .ok text → T.toStringPretty d' = .ok text → d = d')
    (rs : List Run) (r : Run) (hrel : ∀ r' ∈ rs ++ [r], r'.cfg.release = rel)
    (hi : r.Interrupted T (history T rs)) : ¬ Verifies T rel (rs ++ [r]) (history T (rs ++ [r])) := by
  obtain ⟨hl, hpub, hm, ⟨secret, hex, hnot⟩, objects, hp⟩ := hi
  have hr : r.cfg.release = rel := hrel r (by simp)
  have hafter : history T (rs ++ [r]) = (history T rs).publish objects.1 := by
    rw [history_concat, Run.after_eq, hex, hp]
    simp [hl, hpub, hm, hnot]
  have hsecret : (history T rs).secrets[rel.secretKey]? = some secret := by
    rw [← hr]
    exact hex
  obtain ⟨r', hr', configMap', hp'⟩ :=
    stored_secret rs (fun r' h => hrel r' (List.mem_append_left _ h)) hsecret
  obtain ⟨_, token, _, _, _, rfl⟩ := prepare_ok hp'
  obtain ⟨_, _, _, _, hc, _⟩ := prepare_ok hp
  intro hv
  rw [hafter] at hv
  obtain ⟨_, _, _, _, configMap, _, _, _, hcm, _, text, ht, hdoc⟩ :=
    hv _ _ hsecret (tokenSecret_issuerUrl r'.cfg token)
  rw [publish_configMap hr hp, Option.some.injEq] at hcm
  subst hcm
  obtain ⟨-, ⟨text', ht', hdoc'⟩, -⟩ := jwksConfigmap_ok hc
  rw [hdoc, Option.some.injEq] at hdoc'
  subst hdoc'
  have hurl := discovery_inj (hpretty _ _ _ ht ht')
  apply hnot
  unfold mintedFor
  rw [tokenSecret_issuerUrl, hurl]
  simp

/-- **A kept token verifies after every run of a history if and only if no run that finds a
token for another issuer URL is stopped between its two writes.** -/
theorem kept_iff
    (hpretty : ∀ d d' text, T.toStringPretty d = .ok text → T.toStringPretty d' = .ok text → d = d')
    (rs : List Run) (hrel : ∀ r ∈ rs, r.cfg.release = rel) :
    (∀ pre, pre <+: rs → Verifies T rel pre (history T pre)) ↔
      ∀ pre r, pre ++ [r] <+: rs → ¬ r.Interrupted T (history T pre) := by
  constructor
  · intro h pre r hpre hi
    refine Run.Interrupted.not_verifies hpretty pre r (fun r' hr' => hrel r' (hpre.subset hr')) hi ?_
    exact h _ hpre
  · intro h pre hpre
    have hpaired : Paired T rel pre (history T pre) := by
      induction pre using List.reverseRecOn with
      | nil =>
          intro secret hs
          simp [history] at hs
      | append_singleton pre r ih =>
          rw [history_concat]
          have hpre' : pre <+: rs := (List.prefix_append pre [r]).trans hpre
          exact (ih hpre').after_run (hrel r (hpre.subset (by simp))) (h pre r hpre)
    exact hpaired.verifies

end histories

/-! ### A release whose issuer URL changes -/

namespace Sample

def config (url : String) : Config :=
  ⟨"system", url, "openshell", "openshell-admin", "openshell-operator", "token", "jwks", 3650⟩

def key₁ : SigningKey := ⟨"pem-1", "kid-1", "AQAB", "AQAB"⟩

def key₂ : SigningKey := ⟨"pem-2", "kid-2", "AQAC", "AQAB"⟩

/-- The discovery document as rendered. -/
def discoveryText (url : String) : String :=
  "\x7b\n  \"id_token_signing_alg_values_supported\": [\n    \"RS256\"\n  ],\n  \"issuer\": \"" ++ url ++
    "\",\n  \"jwks_uri\": \"" ++ url ++ "/keys\",\n  \"response_types_supported\": [\n" ++
    "    \"id_token\"\n  ],\n  \"subject_types_supported\": [\n    \"public\"\n  ]\n\x7d"

/-- The JWK set as rendered. -/
def jwksText (key : SigningKey) : String :=
  "\x7b\n  \"keys\": [\n    \x7b\n      \"alg\": \"RS256\",\n      \"e\": \"" ++ key.e ++
    "\",\n      \"kid\": \"" ++ key.kid ++ "\",\n      \"kty\": \"RSA\",\n      \"n\": \"" ++ key.n ++
    "\",\n      \"use\": \"sig\"\n    \x7d\n  ]\n\x7d"

/-- The documents of the two URLs and keys, with their renderings. -/
def rendered : List (Json × String) :=
  [(discovery "http://issuer", discoveryText "http://issuer"),
   (discovery "https://issuer", discoveryText "https://issuer"),
   (key₁.jwks, jwksText key₁), (key₂.jwks, jwksText key₂)]

/-- Rendering of the documents above, and a signature that names the key. -/
def toolkit : Toolkit where
  encode header claims encoding := .ok (claims.iss ++ "." ++ header.kid.getD "" ++ "." ++ encoding)
  toStringPretty d :=
    match rendered.find? (fun entry => entry.1.code == d.code) with
    | some entry => .ok entry.2
    | none => .error "not rendered here"

theorem rendered_text : (rendered.map Prod.snd).Nodup := by decide

theorem toolkit_inj (d d' : Json) (text : String) (h : toolkit.toStringPretty d = .ok text)
    (h' : toolkit.toStringPretty d' = .ok text) : d = d' := by
  have hfind : ∀ d, toolkit.toStringPretty d = .ok text →
      ∃ entry ∈ rendered, entry.1 = d ∧ entry.2 = text := by
    intro d hd
    simp only [toolkit] at hd
    cases hf : rendered.find? (fun entry => entry.1.code == d.code) with
    | none => simp [hf] at hd
    | some entry =>
        simp only [hf, Except.ok.injEq] at hd
        have hp := List.find?_some hf
        exact ⟨entry, List.mem_of_find?_eq_some hf, Json.code_injective (by simpa using hp), hd⟩
  obtain ⟨e, he, rfl, ht⟩ := hfind d h
  obtain ⟨e', he', rfl, ht'⟩ := hfind d' h'
  rw [List.inj_on_of_nodup_map rendered_text he he' (ht.trans ht'.symm)]

/-- The first mint, for the old URL. -/
def first : Run := ⟨config "http://issuer", .ok key₁, some 0, [.served, .served, .served]⟩

/-- A later mint for the new URL, with the fates of its calls. -/
def second (fates : List (Fate String)) : Run :=
  ⟨config "https://issuer", .ok key₂, some 1, fates⟩

theorem second_prepares (fates : List (Fate String)) :
    ∃ objects, prepare toolkit (second fates).cfg (second fates).generated (second fates).now =
      .ok objects := by
  have h : (prepare toolkit (config "https://issuer") (.ok key₂) (some 1)).toOption.isSome := by
    decide +kernel
  show ∃ objects, prepare toolkit (config "https://issuer") (.ok key₂) (some 1) = .ok objects
  cases hp : prepare toolkit (config "https://issuer") (.ok key₂) (some 1) with
  | error err =>
      rw [hp] at h
      cases h
  | ok objects => exact ⟨objects, rfl⟩

theorem release_eq {fates : List (Fate String)} : ∀ r ∈ [first, second fates],
    r.cfg.release = (config "").release := by
  intro r hr
  rcases List.mem_cons.mp hr with rfl | hr
  · rfl
  · rw [List.mem_singleton.mp hr]
    rfl

/-- Both mints complete: the token that is kept verifies. -/
theorem url_change_completed :
    Verifies toolkit (config "").release [first, second [.served, .served, .served]]
      (history toolkit [first, second [.served, .served, .served]]) := by
  refine (kept_iff toolkit_inj _ release_eq).mpr ?_ _ (List.prefix_refl _)
  intro pre r hpre hi
  have hr : r ∈ [first, second [.served, .served, .served]] := hpre.subset (by simp)
  rcases List.mem_cons.mp hr with rfl | hr
  · exact hi.2.2.1 rfl
  · rw [List.mem_singleton.mp hr] at hi
    exact hi.2.2.1 rfl

/-- The second mint is stopped after publishing its JWKS: the first token is kept, and the
key that signed it is no longer served. -/
theorem url_change_stopped :
    ¬ ∀ pre, pre <+: [first, second [.served, .served]] →
      Verifies toolkit (config "").release pre (history toolkit pre) := by
  intro h
  have hex : (second [.served, .served]).existing (history toolkit [first]) =
      some (tokenSecret first.cfg "http://issuer.kid-1.pem-1") := by decide +kernel
  exact Run.Interrupted.not_verifies toolkit_inj [first] (second [.served, .served]) release_eq
    ⟨rfl, rfl, by decide, ⟨_, hex, by decide⟩, second_prepares _⟩ (h _ (List.prefix_refl _))

end Sample
end OpenShell.Issuer
