import ServiceOrderOs.L7Deploy.Normalized

/-!
# A second run of `prepare_env`

A run that raises leaves the file alone. A run that returns rewrites it so that
the entries are those of the input and the values the normalised ones; a second
run finds them normalised and writes the same text.

* `prepareEnv_ok`: what a run that returns has done.
* `prepare_env_idempotent`: the second run.
-/
namespace ServiceOrderOs.Deploy
open Py Core

variable {T : Type} [Interpreter T] {file : EnvFile}

/-- What a run that returns has done to a file with some text. -/
structure Rewrites (T : Type) [Interpreter T] (file : EnvFile) (text : String)
    (entries : List Entry) (values : Values) : Prop where
  loaded : file.text = some text
  lines : entries = (readLines text).map entryOf
  normalized : normalizeValues T (lastValue (readLines text)) = .ok values
  written : (prepareEnv T file).2 = { file with text := some (rewriteEnvFile entries values) }

theorem prepareEnv_error {e : Raised} (h : (prepareEnv T file).1 = .error e) :
    (prepareEnv T file).2 = file := by
  unfold prepareEnv at h ⊢
  split
  · rfl
  · rename_i hload
    rw [hload] at h
    dsimp only at h ⊢
    split
    · rfl
    · rename_i hvalues
      rw [hvalues] at h
      cases h

theorem prepareEnv_ok (h : (prepareEnv T file).1 = .ok ()) :
    ∃ text entries values, Rewrites T file text entries values := by
  unfold prepareEnv at h
  split at h
  · cases h
  · rename_i entries values hload
    split at h
    · cases h
    · rename_i values' hvalues
      obtain ⟨text, htext, rfl, rfl⟩ := loadEnvFile_ok hload
      refine ⟨text, _, values', htext, rfl, hvalues, ?_⟩
      rw [prepareEnv, hload]
      dsimp only
      rw [hvalues]

section Run
variable {text : String} {entries : List Entry} {values : Values}

theorem Rewrites.clean_loaded (h : Rewrites T file text entries values) :
    Clean entries (lastValue (readLines text)) := by
  have hload := loadEnvFile_text h.loaded
  rw [← h.lines] at hload
  exact loadEnvFile_clean hload

theorem Rewrites.ready (h : Rewrites T file text entries values) :
    Ready (lastValue (readLines text)) :=
  ⟨h.clean_loaded.writable, validateRequiredTextFields_ok.mp (seq_ok.mp h.normalized).1⟩

theorem Rewrites.ensures (hT : Lawful T) (h : Rewrites T file text entries values) :
    Normalized T values ∧ Present (· ∈ validEmailProviders) (values "EMAIL_PROVIDER") ∧
      Kept (lastValue (readLines text)) values ∧
      ∀ k ∉ normalizedKeys, values k = lastValue (readLines text) k := by
  obtain ⟨-, hkept, hframe, hnormal, hprovider⟩ :=
    normalizers_ensures hT h.ready (seq_ok.mp h.normalized).2
  exact ⟨hnormal, hprovider, hkept, hframe⟩

theorem Rewrites.clean (hT : Lawful T) (h : Rewrites T file text entries values) :
    Clean entries values := by
  obtain ⟨hnormal, -, hkept, -⟩ := h.ensures hT
  obtain ⟨hwf, hpresent, -⟩ := h.clean_loaded
  exact ⟨hwf, fun k hk => hkept.isSome k (hpresent k hk), hnormal.writable⟩

theorem Rewrites.key_mem (h : Rewrites T file text entries values) {key : String}
    (hk : stripped (lastValue (readLines text)) key ≠ "") : Entry.kv key ∈ entries := by
  rw [h.lines, ← lastValue_isSome]
  by_contra hnone
  rw [Option.not_isSome_iff_eq_none] at hnone
  exact hk (stripped_none hnone)

theorem Rewrites.nonempty (h : Rewrites T file text entries values) : entries ≠ [] :=
  List.ne_nil_of_mem (h.key_mem (h.ready.required "APP_NAME" (by decide)))

/-- The rewritten file is read back. -/
theorem Rewrites.reloaded (hT : Lawful T) (h : Rewrites T file text entries values) :
    loadEnvFile (prepareEnv T file).2 = .ok (entries, onKeys entries values) :=
  loadEnvFile_rewrite (h.clean hT) h.nonempty (by rw [h.written])

theorem Rewrites.parsed (hT : Lawful T) (h : Rewrites T file text entries values) :
    parseEnvFile file = some (lastValue (readLines text)) ∧
      parseEnvFile (prepareEnv T file).2 = some (onKeys entries values) :=
  ⟨parseEnvFile_eq (loadEnvFile_text h.loaded), parseEnvFile_eq (h.reloaded hT)⟩

theorem Rewrites.onKeys_frame (hT : Lawful T) (h : Rewrites T file text entries values)
    {key : String} (hk : key ∉ normalizedKeys) :
    onKeys entries values key = lastValue (readLines text) key := by
  unfold onKeys
  split
  · exact (h.ensures hT).2.2.2 key hk
  · rename_i hmem
    rw [h.lines, ← lastValue_isSome, Option.not_isSome_iff_eq_none] at hmem
    exact hmem.symm

/-- The values read back, but for the optional keys that the file has not. -/
theorem Rewrites.onKeys_eq (hT : Lawful T) (h : Rewrites T file text entries values)
    {key : String} (hk : key ∈ requiredTextFields ∨ key ∉ normalizedKeys) :
    onKeys entries values key = values key := by
  rcases hk with hk | hk
  · exact if_pos (h.key_mem (h.ready.required key hk))
  · rw [h.onKeys_frame hT hk]
    exact ((h.ensures hT).2.2.2 key hk).symm

theorem ifPresent_onKeys {P : String → Prop} {key : String} (h : IfPresent P (values key)) :
    IfPresent P (onKeys entries values key) := by
  intro value hv
  unfold onKeys at hv
  split at hv
  · exact h value hv
  · cases hv

theorem Rewrites.normalized_onKeys (hT : Lawful T) (h : Rewrites T file text entries values) :
    Normalized T (onKeys entries values) := by
  have hnormal := (h.ensures hT).1
  have heq : ∀ k, k ∈ requiredTextFields ∨ k ∉ normalizedKeys → onKeys entries values k = values k :=
    fun k => h.onKeys_eq hT
  exact
    { writable := fun k => ifPresent_onKeys (hnormal.writable k)
      required := fun k hk => by
        rw [stripped, heq k (.inl hk)]
        exact hnormal.required k hk
      environment := by
        rw [heq _ (by decide)]
        exact hnormal.environment
      requiredBooleans := fun k hk => by
        rw [heq k (by revert k; decide)]
        exact hnormal.requiredBooleans k hk
      optionalBooleans := fun p hp => ifPresent_onKeys (hnormal.optionalBooleans p hp)
      requiredIntegers := fun k hk => ifPresent_onKeys (hnormal.requiredIntegers k hk)
      optionalIntegers := fun p hp => ifPresent_onKeys (hnormal.optionalIntegers p hp)
      lists := fun k hk => by
        rw [heq k (by revert k; decide)]
        exact hnormal.lists k hk
      logLevel := by
        rw [heq _ (by decide)]
        exact hnormal.logLevel
      database := validateDatabaseUrl_local T (fun k hk => heq k (by revert k; decide))
        hnormal.database
      appBaseUrl := validateAppBaseUrl_local (fun k hk => heq k (by revert k; decide))
        hnormal.appBaseUrl
      secrets := validateSecretContract_local (fun k hk => heq k (by revert k; decide))
        hnormal.secrets }

theorem rewriteEnvFile_congr {values' : Values}
    (h : ∀ key, Entry.kv key ∈ entries → values' key = values key) :
    rewriteEnvFile entries values' = rewriteEnvFile entries values := by
  refine congrArg joinLines (List.map_congr_left fun e he => ?_)
  cases e with
  | raw line => rfl
  | kv key => rw [rewriteLine, rewriteLine, h key he]

/-- The second run normalises to the same values on the file's keys. -/
theorem Rewrites.again (hT : Lawful T) (h : Rewrites T file text entries values) :
    prepareEnv T (prepareEnv T file).2 = (.ok (), (prepareEnv T file).2) := by
  have hprovider : IfPresent (· ∈ validEmailProviders) (onKeys entries values "EMAIL_PROVIDER") := by
    obtain ⟨value, hv, hmem⟩ := (h.ensures hT).2.1
    refine ifPresent_onKeys fun v hv' => ?_
    rw [hv] at hv'
    cases hv'
    exact hmem
  have hsettled := normalizeValues_settled hT (h.normalized_onKeys hT) hprovider
  have hsame : ∀ key, Entry.kv key ∈ entries →
      (onKeys entries values).set "EMAIL_PROVIDER"
        ((onKeys entries values "EMAIL_PROVIDER").getD "SMTP") key = values key := by
    intro key hk
    have hon : onKeys entries values key = values key := if_pos hk
    by_cases he : key = "EMAIL_PROVIDER"
    · obtain ⟨value, hv, -⟩ := (h.ensures hT).2.1
      rw [he] at hon ⊢
      rw [set_self, hon, hv, Option.getD_some]
    · rw [set_ne he, hon]
  rw [prepareEnv, h.reloaded hT]
  dsimp only
  rw [hsettled]
  dsimp only
  rw [rewriteEnvFile_congr hsame, h.written]

end Run

/-- A run that raises changes nothing. A run that returns leaves the entries of
the file and the normalised values, which are read back; the keys it does not
normalise keep their last stripped value, and a second run changes nothing. -/
theorem prepare_env_idempotent (hT : Lawful T) (file : EnvFile) :
    (∀ e, (prepareEnv T file).1 = .error e → (prepareEnv T file).2 = file) ∧
    ((prepareEnv T file).1 = .ok () →
      prepareEnv T (prepareEnv T file).2 = (.ok (), (prepareEnv T file).2) ∧
      ∃ text entries values, Rewrites T file text entries values ∧
        loadEnvFile (prepareEnv T file).2 = .ok (entries, onKeys entries values) ∧
        ∀ key ∉ normalizedKeys, onKeys entries values key = lastValue (readLines text) key) := by
  refine ⟨fun e => prepareEnv_error, fun hok => ?_⟩
  obtain ⟨text, entries, values, h⟩ := prepareEnv_ok hok
  exact ⟨h.again hT, text, entries, values, h, h.reloaded hT, fun key hk => h.onKeys_frame hT hk⟩

/-! ## Two files -/

/-- What the script rewrites: letter case, padding, a list and a blank. -/
def exLines : List String :=
  ["#", "APP_NAME=os", "APP_VERSION=3", " ENVIRONMENT = Test", "LOG_LEVEL=info", "LOG_JSON=TRUE",
    "DATABASE_URL=postgresql://os_service_user@db/os_service_db", "APP_BASE_URL=http://os",
    "CORS_ALLOWED_ORIGINS=a, b", "TRUSTED_HOSTS=*", "JWT_ALGORITHM=HS256", "SMTP_PORT=",
    "APPROVAL_TOKEN_SECRET=a", "JWT_SECRET=b=c", "CUSTOMER_JWT_SECRET=d"]

/-- With a required integer blank and a secret given by its file. -/
def exBareLines : List String :=
  ["JWT_EXPIRATION_MINUTES=", "JWT_SECRET_FILE=/run/jwt"] ++ exLines.filter (· ≠ "JWT_SECRET=b=c")

def exFile : EnvFile := ⟨".env.prod", some (joinLines exLines)⟩

def exBareFile : EnvFile := ⟨".env.prod", some (joinLines exBareLines)⟩

theorem exLines_oneLine : ∀ l ∈ exLines, OneLine l := by decide +kernel

theorem exBareLines_oneLine : ∀ l ∈ exBareLines, OneLine l := by
  have hnew : ∀ l ∈ ["JWT_EXPIRATION_MINUTES=", "JWT_SECRET_FILE=/run/jwt"], OneLine l := by
    decide +kernel
  intro l hl
  rcases List.mem_append.mp hl with hl | hl
  · exact hnew l hl
  · exact exLines_oneLine l (List.mem_of_mem_filter hl)

theorem exBareLines_ne_nil : exBareLines ≠ [] := List.cons_ne_nil _ _

theorem prepareEnv_lines {lines : List String} (hne : lines ≠ []) (hlines : ∀ l ∈ lines, OneLine l)
    (hvalues : (normalizeValues T (lastValue lines)).isOk = true) (path : String) :
    (prepareEnv T ⟨path, some (joinLines lines)⟩).1 = .ok () := by
  rw [prepareEnv, loadEnvFile_text rfl, readLines_joinLines hne hlines]
  dsimp only
  cases hv : normalizeValues T (lastValue lines) with
  | error e =>
    rw [hv] at hvalues
    cases hvalues
  | ok values => rfl

theorem exFile_ok : (prepareEnv Utc exFile).1 = .ok () :=
  prepareEnv_lines (by decide) exLines_oneLine (by decide +kernel) _

theorem exBareFile_ok : (prepareEnv Utc exBareFile).1 = .ok () :=
  prepareEnv_lines exBareLines_ne_nil exBareLines_oneLine (by decide +kernel) _

theorem exFile_values : parseEnvFile exFile = some (lastValue exLines) := by
  rw [parseEnvFile_eq (loadEnvFile_text rfl), readLines_joinLines (by decide) exLines_oneLine]

theorem exBareFile_values : parseEnvFile exBareFile = some (lastValue exBareLines) := by
  rw [parseEnvFile_eq (loadEnvFile_text rfl), readLines_joinLines exBareLines_ne_nil exBareLines_oneLine]

theorem prepare_env_twice :
    prepareEnv Utc (prepareEnv Utc exFile).2 = (.ok (), (prepareEnv Utc exFile).2) :=
  ((prepare_env_idempotent utc_lawful exFile).2 exFile_ok).1

end ServiceOrderOs.Deploy
