import ServiceOrderOs.L7Deploy.PrepareEnv

/-!
# The values `prepare_env` leaves

Each normaliser writes one key and each check reads keys that are not written
after it, so what they establish holds together in the end.

* `normalizers_ensures`: the values left are `Normalized`.
* `normalizeValues_settled`: normalised values are left as they are, but for
  `EMAIL_PROVIDER`.
-/
namespace ServiceOrderOs.Deploy
open Py Core

variable {T : Type} [Interpreter T]

def Present (P : String → Prop) (x : Option String) : Prop := ∃ value, x = some value ∧ P value

def IfPresent (P : String → Prop) (x : Option String) : Prop := ∀ value, x = some value → P value

/-- The text of a list field. -/
def ListText (value : String) : Prop := ∃ items, Items items ∧ value = dumps items

def listFields : List String := ["CORS_ALLOWED_ORIGINS", "TRUSTED_HOSTS"]

/-- The values of a loaded file that has every required one. -/
structure Ready (s : Values) : Prop where
  writable : ∀ key value, s key = some value → Writable value
  required : ∀ key ∈ requiredTextFields, stripped s key ≠ ""

variable (T) in
/-- The values that `normalize` leaves. -/
structure Normalized (s : Values) : Prop extends Ready s where
  environment : Present (· ∈ validEnvironments) (s "ENVIRONMENT")
  requiredBooleans : ∀ key ∈ requiredBooleanFields, Present (· ∈ booleans) (s key)
  optionalBooleans : ∀ p ∈ optionalBooleanDefaults, IfPresent (· ∈ booleans) (s p.1)
  requiredIntegers : ∀ key ∈ requiredPositiveIntegerFields,
    IfPresent (fun value => value = "" ∨ Canonical value) (s key)
  optionalIntegers : ∀ p ∈ optionalPositiveIntegerDefaults, IfPresent Canonical (s p.1)
  lists : ∀ key ∈ listFields, Present ListText (s key)
  logLevel : Present (fun value => upper T value = value) (s "LOG_LEVEL")
  database : validateDatabaseUrl T s = .ok ()
  appBaseUrl : validateAppBaseUrl T s = .ok ()
  secrets : validateSecretContract s = .ok ()

/-- The keys that `prepare_env` may write. -/
def normalizedKeys : List String :=
  ["ENVIRONMENT", "EMAIL_PROVIDER", "LOG_JSON", "SMTP_USE_TLS", "SMTP_USE_AUTH",
    "HEALTHCHECK_TIMEOUT_SECONDS", "APPROVAL_TOKEN_TTL_MINUTES", "JWT_EXPIRATION_MINUTES",
    "SMTP_PORT", "SMTP_TIMEOUT_SECONDS", "CORS_ALLOWED_ORIGINS", "TRUSTED_HOSTS", "LOG_LEVEL"]

section Assembly
variable {s s' : Values} {key value : String}

theorem ready_set (h : Ready s) (hfine : Fine value) : Ready (s.set key value) where
  writable k v hv := by
    by_cases hk : k = key
    · rw [hk, set_self, Option.some.injEq] at hv
      rw [← hv]
      exact hfine.toWritable
    · rw [set_ne hk] at hv
      exact h.writable k v hv
  required k hk := by
    by_cases he : k = key
    · rw [he, stripped_fine (set_self s key value) hfine]
      exact hfine.ne_empty
    · rw [stripped, set_ne he]
      exact h.required k hk

/-- No key is dropped, and a blank stands for a required integer as before. -/
structure Kept (s s' : Values) : Prop where
  isSome : ∀ key, (s key).isSome → (s' key).isSome
  blank : ∀ key ∈ requiredPositiveIntegerFields, s' key = some "" ↔ s key = some ""

instance : IsPreorder Values Kept where
  refl _ := ⟨fun _ h => h, fun _ _ => Iff.rfl⟩
  trans _ _ _ h h' := ⟨fun k hk => h'.isSome k (h.isSome k hk),
    fun k hk => (h'.blank k hk).trans (h.blank k hk)⟩

/-- A normaliser leaves its value or writes a fine one. -/
theorem ensures_of {p : Values → Except Raised Values} {G : Option String → Prop}
    (h : ∀ s s', Ready s → p s = .ok s' → (s' = s ∧ G (s key)) ∨ ∃ value, s' = s.set key value ∧
      Fine value ∧ G (some value) ∧ (key ∈ requiredPositiveIntegerFields → s key ≠ some "")) :
    Pass.Ensures Ready Kept p [key] fun s => G (s key) := by
  intro s s' hs hp
  rcases h s s' hs hp with ⟨rfl, hG⟩ | ⟨value, rfl, hfine, hG, hblank⟩
  · exact ⟨hs, refl _, fun _ _ => rfl, hG⟩
  · refine ⟨ready_set hs hfine, ⟨fun k hk => ?_, fun k hk => ?_⟩,
      fun k hk => set_ne (by simpa using hk) value, ?_⟩
    · by_cases he : k = key
      · rw [he, set_self]
        rfl
      · rw [set_ne he]
        exact hk
    · by_cases he : k = key
      · rw [he] at hk ⊢
        rw [set_self, Option.some.injEq]
        exact iff_of_false hfine.ne_empty (hblank hk)
      · rw [set_ne he]
    · show G (Values.set s key value key)
      rw [set_self]
      exact hG

theorem environment_ensures : Pass.Ensures Ready Kept (validateEnvironment T) ["ENVIRONMENT"]
    fun s => Present (· ∈ validEnvironments) (s "ENVIRONMENT") := by
  refine ensures_of fun s s' _ h => ?_
  obtain ⟨value, hmem, rfl⟩ := validateEnvironment_ok h
  exact .inr ⟨value, rfl, fine_literal (by simp [hmem]), ⟨value, rfl, hmem⟩,
    fun hk => absurd hk (by decide)⟩

theorem provider_ensures : Pass.Ensures Ready Kept
    (fun s => Prod.snd <$> normalizeEmailProvider T s) ["EMAIL_PROVIDER"]
    fun s => Present (· ∈ validEmailProviders) (s "EMAIL_PROVIDER") := by
  refine ensures_of fun s s' _ h => ?_
  obtain ⟨provider, h⟩ := snd_ok h
  obtain ⟨hmem, rfl⟩ := normalizeEmailProvider_ok h
  exact .inr ⟨provider, rfl, fine_literal (by simp [hmem]), ⟨provider, rfl, hmem⟩,
    fun hk => absurd hk (by decide)⟩

theorem boolean_ensures (key : String) (hk : key ∉ requiredPositiveIntegerFields) :
    Pass.Ensures Ready Kept (fun s => Prod.snd <$> normalizeBoolean T s key) [key]
      fun s => Present (· ∈ booleans) (s key) := by
  refine ensures_of fun s s' _ h => ?_
  obtain ⟨b, h⟩ := snd_ok h
  obtain ⟨value, hmem, rfl⟩ := normalizeBoolean_ok h
  exact .inr ⟨value, rfl, fine_literal (by simp [hmem]), ⟨value, rfl, hmem⟩, fun h => absurd h hk⟩

theorem optionalBoolean_ensures {default : String} (hd : default ∈ booleans)
    (hk : key ∉ requiredPositiveIntegerFields) :
    Pass.Ensures Ready Kept (fun s => Prod.snd <$> normalizeOptionalBoolean T s key default) [key]
      fun s => IfPresent (· ∈ booleans) (s key) := by
  refine ensures_of fun s s' _ h => ?_
  obtain ⟨b, h⟩ := snd_ok h
  rcases normalizeOptionalBoolean_ok hd h with ⟨rfl, hnone⟩ | ⟨value, hmem, rfl⟩
  · refine .inl ⟨rfl, fun v hv => ?_⟩
    rw [hnone] at hv
    cases hv
  · refine .inr ⟨value, rfl, fine_literal (by simp [hmem]), fun v hv => ?_, fun h => absurd h hk⟩
    cases hv
    exact hmem

theorem positiveInteger_ensures (key : String) : Pass.Ensures Ready Kept
    (fun s => normalizePositiveInteger s key) [key]
    fun s => IfPresent (fun value => value = "" ∨ Canonical value) (s key) := by
  refine ensures_of fun s s' hs h => ?_
  rcases normalizePositiveInteger_ok h with ⟨rfl, hblank⟩ | ⟨value, hcanonical, rfl, hne⟩
  · refine .inl ⟨rfl, fun v hv => .inl ?_⟩
    rw [stripped, hv, Option.getD_some, (hs.writable key v hv).strip] at hblank
    exact hblank
  · refine .inr ⟨value, rfl, fine_canonical hcanonical, fun v hv => .inr ?_, fun _ hblank => ?_⟩
    · cases hv
      exact hcanonical
    · rw [stripped, hblank] at hne
      exact hne (by decide)

theorem optionalPositiveInteger_ensures {default : String} (hd : Canonical default)
    (hk : key ∉ requiredPositiveIntegerFields) :
    Pass.Ensures Ready Kept (fun s => normalizeOptionalPositiveInteger s key default) [key]
      fun s => IfPresent Canonical (s key) := by
  refine ensures_of fun s s' _ h => ?_
  rcases normalizeOptionalPositiveInteger_ok hd h with ⟨rfl, hnone⟩ | ⟨value, hcanonical, rfl⟩
  · refine .inl ⟨rfl, fun v hv => ?_⟩
    rw [hnone] at hv
    cases hv
  · refine .inr ⟨value, rfl, fine_canonical hcanonical, fun v hv => ?_, fun h => absurd h hk⟩
    cases hv
    exact hcanonical

theorem listField_ensures (key : String)
    (hk : key ∉ requiredPositiveIntegerFields) : Pass.Ensures Ready Kept
    (fun s => normalizeListField T s key) [key] fun s => Present ListText (s key) := by
  refine ensures_of fun s s' _ h => ?_
  obtain ⟨items, hitems, rfl⟩ := normalizeListField_ok h
  exact .inr ⟨dumps items, rfl, fine_dumps items, ⟨dumps items, rfl, items, hitems, rfl⟩,
    fun h => absurd h hk⟩

theorem logLevel_ensures (hT : Lawful T) : Pass.Ensures Ready Kept (upperLogLevel T) ["LOG_LEVEL"]
    fun s => Present (fun value => upper T value = value) (s "LOG_LEVEL") := by
  refine ensures_of fun s s' hs h => ?_
  unfold upperLogLevel at h
  split at h
  · cases h
  · rename_i level hlevel
    cases h
    have hwritable := hs.writable "LOG_LEVEL" level hlevel
    have hne := hs.required "LOG_LEVEL" (by simp [requiredTextFields])
    rw [stripped, hlevel, Option.getD_some, hwritable.strip] at hne
    exact .inr ⟨_, rfl, fine_upper hT ⟨hwritable, hne⟩, ⟨_, rfl, hT.upper_upper level⟩,
      fun hk => absurd hk (by decide)⟩

theorem validateAppBaseUrl_local :
    Pass.Local ["APP_BASE_URL"] fun values => validateAppBaseUrl T values = .ok () := by
  intro s s' h hs
  rw [← hs, validateAppBaseUrl, validateAppBaseUrl, requireNonEmpty, requireNonEmpty,
    h "APP_BASE_URL" (by simp)]

/-- The keys that may give each secret. -/
def secretSources : List (List String) :=
  [["APPROVAL_TOKEN_SECRET", "APPROVAL_TOKEN_SECRET_FILE"], ["JWT_SECRET", "JWT_SECRET_FILE"],
    ["CUSTOMER_JWT_SECRET", "CUSTOMER_JWT_SECRET_FILE"]]

theorem seq_ok {α : Type} {m : Except Raised Unit} {f : Unit → Except Raised α} {a : α} :
    (m >>= f) = .ok a ↔ m = .ok () ∧ f () = .ok a := by
  cases m with
  | error e => exact ⟨fun h => (by cases h), fun h => (by cases h.1)⟩
  | ok u => exact ⟨fun h => ⟨rfl, h⟩, fun h => h.2⟩

theorem requireAny_ok {keys : List String} {label : String} :
    requireAny s keys label = .ok () ↔ ∃ key ∈ keys, stripped s key ≠ "" := by
  unfold requireAny
  split
  · rename_i hany
    simpa using hany
  · rename_i hnone
    constructor
    · intro h
      cases h
    · intro h
      exact absurd (by simpa using h) hnone

theorem validateSecretContract_ok : validateSecretContract s = .ok () ↔
    ∀ keys ∈ secretSources, ∃ key ∈ keys, stripped s key ≠ "" := by
  rw [validateSecretContract, seq_ok, seq_ok, requireAny_ok, requireAny_ok, requireAny_ok]
  simp only [secretSources, List.forall_mem_cons, List.not_mem_nil, false_implies, implies_true,
    and_true]

theorem validateSecretContract_local :
    Pass.Local secretSources.flatten fun values => validateSecretContract values = .ok () := by
  intro s s' h hs
  rw [validateSecretContract_ok] at hs ⊢
  intro keys hkeys
  obtain ⟨key, hkey, hne⟩ := hs keys hkeys
  refine ⟨key, hkey, ?_⟩
  rw [stripped, h key (List.mem_flatten_of_mem hkeys hkey)]
  exact hne

theorem canonical_defaults : ∀ p ∈ optionalPositiveIntegerDefaults, Canonical p.2 := by
  simp only [optionalPositiveIntegerDefaults, List.forall_mem_cons, List.not_mem_nil,
    false_implies, implies_true, and_true]
  exact ⟨⟨587, by decide, rfl, by decide⟩, ⟨10, by decide, rfl, by decide⟩⟩

theorem boolean_defaults : ∀ p ∈ optionalBooleanDefaults, p.2 ∈ booleans := by decide

/-- Facts about keys that no later pass writes reach the end. -/
theorem normalizers_ensures (hT : Lawful T) :
    Pass.Ensures Ready Kept (normalizers T) normalizedKeys fun s => Normalized T s ∧
      Present (· ∈ validEmailProviders) (s "EMAIL_PROVIDER") := by
  have secrets := (logLevel_ensures hT).check (c := validateSecretContract)
    validateSecretContract_local (by decide)
  have hosts := (listField_ensures (T := T) "TRUSTED_HOSTS" (by decide)).comp
    (Pass.local_at _ _) secrets (by decide)
  have origins := (listField_ensures (T := T) "CORS_ALLOWED_ORIGINS" (by decide)).comp
    (Pass.local_at _ _) hosts (by decide)
  have appBaseUrl := origins.check (validateAppBaseUrl_local (T := T)) (by decide)
  have database := appBaseUrl.check (validateDatabaseUrl_local T) (by decide)
  have optionalIntegers := (Pass.Ensures.foldlM optionalPositiveIntegerDefaults
    (fun values p => normalizeOptionalPositiveInteger values p.1 p.2) Prod.fst
    (fun p hp => optionalPositiveInteger_ensures (canonical_defaults p hp)
      (by revert p; decide)) (by decide)).comp
      (Pass.local_forall _ _ _) database (by decide)
  have requiredIntegers := (Pass.Ensures.foldlM requiredPositiveIntegerFields
    normalizePositiveInteger id (fun key _ => positiveInteger_ensures key) (by decide)).comp
      (Pass.local_forall _ _ _) optionalIntegers (by decide)
  have optionalBooleans := (Pass.Ensures.foldlM optionalBooleanDefaults
    (fun values p => Prod.snd <$> normalizeOptionalBoolean T values p.1 p.2) Prod.fst
    (fun p hp => optionalBoolean_ensures (boolean_defaults p hp) (by revert p; decide))
    (by decide)).comp
      (Pass.local_forall _ _ _) requiredIntegers (by decide)
  have requiredBooleans := (Pass.Ensures.foldlM requiredBooleanFields
    (fun values key => Prod.snd <$> normalizeBoolean T values key) id
    (fun key hk => boolean_ensures key (by revert key; decide)) (by decide)).comp
      (Pass.local_forall _ _ _) optionalBooleans (by decide)
  have provider := (provider_ensures (T := T)).comp (Pass.local_at _ _) requiredBooleans (by decide)
  have environment := (environment_ensures (T := T)).comp (Pass.local_at _ _) provider (by decide)
  intro s s' hs h
  obtain ⟨hready, hkept, hframe, henv, hprovider, hreq, hopt, hreqInt, hoptInt, hdb, hbase, horigins,
    hhosts, hsecrets, hlevel⟩ := environment hs h
  refine ⟨hready, hkept, fun k hk => hframe k hk, ?_, hprovider⟩
  exact ⟨hready, henv, hreq, hopt, hreqInt, hoptInt,
    List.forall_mem_cons.mpr ⟨horigins, List.forall_mem_singleton.mpr hhosts⟩, hlevel, hdb, hbase,
    hsecrets⟩

theorem forM_requireNonEmpty {keys : List String} :
    (forM keys fun key => do let _ ← requireNonEmpty s key; return ()) = .ok () ↔
      ∀ key ∈ keys, stripped s key ≠ "" := by
  induction keys with
  | nil => exact ⟨fun _ key hk => (by cases hk), fun _ => rfl⟩
  | cons key keys ih =>
    rw [List.forM_cons, seq_ok, ih, List.forall_mem_cons]
    refine and_congr_left fun _ => ?_
    constructor
    · intro h
      obtain ⟨value, hv, -⟩ := bind_ok h
      obtain ⟨heq, hne⟩ := requireNonEmpty_ok.mp hv
      rw [stripped, heq]
      exact hne
    · intro hne
      rw [requireNonEmpty_ok.mpr ⟨rfl, hne⟩]
      rfl

theorem validateRequiredTextFields_ok : validateRequiredTextFields s = .ok () ↔
    ∀ key ∈ requiredTextFields, stripped s key ≠ "" := forM_requireNonEmpty

/-- `EMAIL_PROVIDER` is in no other field's way. -/
theorem Normalized.set_provider (h : Normalized T s) (hfine : Fine value) :
    Normalized T (s.set "EMAIL_PROVIDER" value) := by
  have hother : ∀ k, k ≠ "EMAIL_PROVIDER" → s.set "EMAIL_PROVIDER" value k = s k :=
    fun k hk => set_ne hk value
  exact
    { ready_set h.toReady hfine with
      environment := by rw [hother _ (by decide)]; exact h.environment
      requiredBooleans := fun key hk => by
        rw [hother _ (by rintro rfl; revert hk; decide)]
        exact h.requiredBooleans key hk
      optionalBooleans := fun p hp => by
        rw [hother _ (by revert p; decide)]
        exact h.optionalBooleans p hp
      requiredIntegers := fun key hk => by
        rw [hother _ (by rintro rfl; revert hk; decide)]
        exact h.requiredIntegers key hk
      optionalIntegers := fun p hp => by
        rw [hother _ (by revert p; decide)]
        exact h.optionalIntegers p hp
      lists := fun key hk => by
        rw [hother _ (by rintro rfl; revert hk; decide)]
        exact h.lists key hk
      logLevel := by rw [hother _ (by decide)]; exact h.logLevel
      database := validateDatabaseUrl_local T (fun k hk => hother k (by
        rintro rfl; revert hk; decide)) h.database
      appBaseUrl := validateAppBaseUrl_local (fun k hk => hother k (by
        rintro rfl; revert hk; decide)) h.appBaseUrl
      secrets := validateSecretContract_local (fun k hk => hother k (by
        rintro rfl; revert hk; decide)) h.secrets }

/-- Whatever is left is left again, with a provider put in if there is none. -/
theorem normalizeValues_settled (hT : Lawful T) (h : Normalized T s)
    (hp : IfPresent (· ∈ validEmailProviders) (s "EMAIL_PROVIDER")) :
    normalizeValues T s =
      .ok (s.set "EMAIL_PROVIDER" ((s "EMAIL_PROVIDER").getD "SMTP")) := by
  have hprovider : Prod.snd <$> normalizeEmailProvider T s =
      .ok (s.set "EMAIL_PROVIDER" ((s "EMAIL_PROVIDER").getD "SMTP")) := by
    rw [normalizeEmailProvider_settled hp]
    rfl
  have hmem : (s "EMAIL_PROVIDER").getD "SMTP" ∈ validEmailProviders := by
    cases hk : s "EMAIL_PROVIDER" with
    | none => decide
    | some value => exact hp value hk
  have ht := h.set_provider (fine_literal (by simp [hmem]) : Fine ((s "EMAIL_PROVIDER").getD "SMTP"))
  generalize s.set "EMAIL_PROVIDER" ((s "EMAIL_PROVIDER").getD "SMTP") = t at hprovider ht ⊢
  obtain ⟨environment, henv, hvalid⟩ := h.environment
  obtain ⟨origins, horigins, items, hitems, rfl⟩ := ht.lists "CORS_ALLOWED_ORIGINS" (by decide)
  obtain ⟨hosts, hhosts, items', hitems', rfl⟩ := ht.lists "TRUSTED_HOSTS" (by decide)
  obtain ⟨level, hlevel, hupper⟩ := ht.logLevel
  have hbooleans : requiredBooleanFields.foldlM
      (fun values key => Prod.snd <$> normalizeBoolean T values key) t = .ok t := by
    refine Pass.foldlM_settled fun key hk => ?_
    obtain ⟨value, hv, hmem⟩ := ht.requiredBooleans key hk
    rw [normalizeBoolean_settled (T := T) hv hmem]
    rfl
  have hoptional : optionalBooleanDefaults.foldlM (fun values p =>
      Prod.snd <$> normalizeOptionalBoolean T values p.1 p.2) t = .ok t := by
    refine Pass.foldlM_settled fun p hp => ?_
    obtain ⟨b, hb⟩ := normalizeOptionalBoolean_settled (T := T) (ht.optionalBooleans p hp)
    rw [hb]
    rfl
  have hintegers : requiredPositiveIntegerFields.foldlM normalizePositiveInteger t = .ok t :=
    Pass.foldlM_settled fun key hk => normalizePositiveInteger_settled (ht.requiredIntegers key hk)
  have hoptionalIntegers : optionalPositiveIntegerDefaults.foldlM (fun values p =>
      normalizeOptionalPositiveInteger values p.1 p.2) t = .ok t :=
    Pass.foldlM_settled fun p hp => normalizeOptionalPositiveInteger_settled
      (ht.optionalIntegers p hp)
  have hlog : upperLogLevel T t = .ok t := by
    rw [upperLogLevel, hlevel]
    dsimp only
    rw [hupper, set_same hlevel]
  rw [normalizeValues, validateRequiredTextFields_ok.mpr h.required, ok_bind, normalizers,
    validateEnvironment_settled henv hvalid, ok_bind, hprovider, ok_bind, hbooleans, ok_bind]
  refine (congrArg (· >>= _) hoptional).trans ?_
  rw [ok_bind, hintegers, ok_bind]
  refine (congrArg (· >>= _) hoptionalIntegers).trans ?_
  rw [ok_bind, ht.database, ok_bind, ht.appBaseUrl, ok_bind,
    normalizeListField_settled hT.loads_dumps hitems horigins, ok_bind,
    normalizeListField_settled hT.loads_dumps hitems' hhosts, ok_bind, ht.secrets, ok_bind, hlog]

end Assembly
end ServiceOrderOs.Deploy
