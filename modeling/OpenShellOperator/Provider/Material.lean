import OpenShellOperator.Provider.Reconcile
import OpenShellOperator.Wire.Terminated

/-! # What the synced hash covers

The hash on a provider is computed from one byte stream for its credentials and its config,
with a separator between them.  The separator is the byte that also ends every string, so it
reads as an empty string; it is told from a credential because no credential has an empty key.

`hashInput_eq_iff`: the streams of two such pairs are equal if and only if the pairs are, so a
rotated value or an entry that moves from one map to the other changes what is hashed. -/

namespace OpenShell
open Wire Effects

/-! ### Resolved credentials -/

namespace SecretData
variable {ns name : String} {data : StrMap (List UInt8)}

/-- Resolved credentials have keys of the Secret only. -/
theorem mem_of_extractCredentials {keys : List String} {credentials : StrMap String}
    (h : extractCredentials ns name data keys = .ok credentials) :
    ∀ k ∈ credentials, k ∈ data := by
  have hfold : ∀ (keys : List String) (resolved : StrMap String), (∀ k ∈ resolved, k ∈ data) →
      keys.foldlM (fun credentials key =>
        (extractKey ns name data key).map (credentials.insert key ·)) resolved = .ok credentials →
      ∀ k ∈ credentials, k ∈ data := by
    intro keys
    induction keys with
    | nil =>
        intro resolved hresolved h
        rw [← Except.ok.inj h]
        exact hresolved
    | cons key keys ih =>
        intro resolved hresolved h
        rw [List.foldlM_cons] at h
        cases hkey : extractKey ns name data key with
        | error err =>
            rw [hkey] at h
            cases h
        | ok text =>
            rw [hkey] at h
            refine ih (resolved.insert key text) (fun k hk => ?_) h
            rcases Std.ExtTreeMap.mem_insert.mp hk with heq | hk
            · have hmem : key ∈ data := by
                unfold extractKey at hkey
                cases hget : data[key]? with
                | none => simp [hget] at hkey
                | some value => rw [Std.ExtTreeMap.mem_iff_isSome_getElem?, hget]; rfl
              rw [Std.compare_eq_iff_eq] at heq
              exact heq ▸ hmem
            · exact hresolved k hk
  exact hfold _ ∅ (fun k hk => absurd hk (by simp)) h

end SecretData

/-! ### The stream -/

namespace ProviderController
variable {credentials config credentials' config' : StrMap String}

/-- The strings of the stream: the entries of both maps, with an empty string between them. -/
def hashStrings (credentials config : StrMap String) : List String :=
  flattenPairs credentials.toList ++ "" :: flattenPairs config.toList

theorem flatMap_hashStr (m : List (String × String)) :
    m.flatMap (fun kv => hashStr kv.1 ++ hashStr kv.2) =
      terminated 0xff ((flattenPairs m).map (·.toUTF8.toList)) := by
  induction m with
  | nil => rfl
  | cons kv m ih =>
      obtain ⟨k, v⟩ := kv
      rw [List.flatMap_cons, ih, flattenPairs_cons, List.map_cons, List.map_cons, terminated_cons,
        terminated_cons, hashStr, hashStr]
      simp only [List.append_assoc, List.cons_append, List.nil_append]

/-- The stream is that of its strings, each with the end mark: the separator alone is the empty
one. -/
theorem hashInput_eq (credentials config : StrMap String) :
    hashInput credentials config =
      terminated 0xff ((hashStrings credentials config).map (·.toUTF8.toList)) := by
  have hempty : ("" : String).toUTF8.toList = [] := by
    rw [toList_toUTF8]
    rfl
  rw [hashInput, flatMap_hashStr, flatMap_hashStr, hashStrings, List.map_append, List.map_cons,
    hempty, terminated, terminated, terminated, List.flatMap_append, List.flatMap_cons]
  simp

theorem hashStrings_inj (h : "" ∉ credentials) (h' : "" ∉ credentials')
    (heq : hashStrings credentials config = hashStrings credentials' config') :
    credentials = credentials' ∧ config = config' := by
  have hkeys : ∀ m : StrMap String, "" ∉ m → ∀ kv ∈ m.toList, kv.1 ≠ "" := by
    intro m hm kv hkv he
    have hget : m[kv.1]? = some kv.2 := Std.ExtTreeMap.mem_toList_iff_getElem?_eq_some.mp hkv
    rw [he] at hget
    exact hm (Std.ExtTreeMap.mem_iff_isSome_getElem?.mpr (by rw [hget]; rfl))
  obtain ⟨hcredentials, hconfig⟩ := flattenPairs_append_inj (hkeys _ h) (hkeys _ h') heq
  exact ⟨Std.ExtTreeMap.toList_inj.mp hcredentials,
    Std.ExtTreeMap.toList_inj.mp (flattenPairs_injective hconfig)⟩

theorem hashInput_inj (h : "" ∉ credentials) (h' : "" ∉ credentials')
    (heq : hashInput credentials config = hashInput credentials' config') :
    credentials = credentials' ∧ config = config' := by
  have hbytes : ∀ l : List String, ∀ s ∈ l.map (·.toUTF8.toList), (0xff : UInt8) ∉ s := by
    intro l s hs
    obtain ⟨t, -, rfl⟩ := List.mem_map.mp hs
    exact not_mem_utf8 t
  rw [hashInput_eq, hashInput_eq] at heq
  have hstrings := List.map_injective_iff.mpr toList_toUTF8_injective
    (terminated_inj (hbytes _) (hbytes _) heq)
  exact hashStrings_inj h h' hstrings

/-- What is hashed for two Secrets without an empty key tells their resolved credentials apart. -/
theorem hashInput_resolved_inj {ns name ns' name' : String} {data data' : StrMap (List UInt8)}
    {keys keys' : List String} (hdata : "" ∉ data) (hdata' : "" ∉ data')
    (h : SecretData.extractCredentials ns name data keys = .ok credentials)
    (h' : SecretData.extractCredentials ns' name' data' keys' = .ok credentials')
    (heq : hashInput credentials config = hashInput credentials' config') :
    credentials = credentials' ∧ config = config' :=
  hashInput_inj (fun hk => hdata (SecretData.mem_of_extractCredentials h "" hk))
    (fun hk => hdata' (SecretData.mem_of_extractCredentials h' "" hk)) heq

/-- **The hashed stream is unambiguous.**  Without an empty credential key, two pairs of
credentials and config feed the same bytes if and only if they are equal. -/
theorem hashInput_eq_iff (h : "" ∉ credentials) (h' : "" ∉ credentials') :
    hashInput credentials config = hashInput credentials' config' ↔
      credentials = credentials' ∧ config = config' := by
  constructor
  · exact hashInput_inj h h'
  · rintro ⟨rfl, rfl⟩
    rfl

namespace Sample

def token (value : String) : StrMap String := (∅ : StrMap String).insert "token" value

/-- A rotated token and a token that moves to the config change what is hashed. -/
theorem rotated_or_moved_rehashed :
    hashInput (token "k-1") ∅ ≠ hashInput (token "k-2") ∅ ∧
      hashInput (token "k-1") ∅ ≠ hashInput ∅ (token "k-1") := by
  have hkey : ∀ value, "" ∉ token value := by
    intro value hmem
    simp [token] at hmem
  have hget : ∀ value, (token value)["token"]? = some value := by
    intro value
    simp [token]
  constructor
  · intro h
    obtain ⟨hsame, -⟩ := (hashInput_eq_iff (hkey "k-1") (hkey "k-2")).mp h
    have hvalue := congrArg (fun m : StrMap String => m["token"]?) hsame
    simp only [hget] at hvalue
    exact absurd hvalue (by decide)
  · intro h
    obtain ⟨hsame, -⟩ := (hashInput_eq_iff (hkey "k-1") (by simp)).mp h
    have hvalue := congrArg (fun m : StrMap String => m["token"]?) hsame
    simp [hget] at hvalue

end Sample

end ProviderController
end OpenShell
