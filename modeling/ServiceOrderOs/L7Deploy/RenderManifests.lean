import ServiceOrderOs.L7Deploy.Idempotence

/-!
# `render_k8s_manifests.py` after `prepare_env.py`

What the second script of the deploy makes of the values of an env file: the
values of its Secret and ConfigMap, and the check that no required secret is
missing. `prepare_env` takes a secret's file for the secret; this check does
not.

* `stages_agree_iff`: when a prepared file passes the check.
-/
namespace ServiceOrderOs.Deploy
open Py Core

def sensitiveKeys : List String :=
  ["APPROVAL_TOKEN_SECRET", "APPROVAL_TOKEN_SECRET_FILE", "DATABASE_URL", "JWT_SECRET",
    "JWT_SECRET_FILE", "SMTP_PASSWORD", "SMTP_PASSWORD_FILE", "SMTP_USERNAME", "TESTMAIL_API_KEY",
    "CUSTOMER_JWT_SECRET", "CUSTOMER_JWT_SECRET_FILE", "DD_API_KEY", "RABBITMQ_URL"]

/-- `REQUIRED_SECRET_KEYS`, sorted. -/
def requiredSecretKeys : List String :=
  ["APPROVAL_TOKEN_SECRET", "CUSTOMER_JWT_SECRET", "DATABASE_URL", "JWT_SECRET"]

/-- The values of the Secret and of the ConfigMap, or the text of the
`SystemExit`.
mirrors scripts/deploy/render_k8s_manifests.py:187-206 -/
def splitValues (values : Values) : Except String (Values × Values) :=
  let values := values.set "EMAIL_PROVIDER" ((values "EMAIL_PROVIDER").getD "NOOP")
  let values := values.set "MIGRATE_ON_STARTUP" "false"
  let secretValues : Values := fun key =>
    (values key).filter fun value => key ∈ sensitiveKeys ∧ strip value ≠ ""
  let missingSecretKeys := requiredSecretKeys.filter fun key => (secretValues key).isNone
  if missingSecretKeys ≠ [] then
    .error ("Missing required secret keys in env file: " ++
      String.intercalate ", " missingSecretKeys)
  else
    .ok (secretValues, fun key =>
      (values key).filter fun value => key ∉ sensitiveKeys ∧ strip value ≠ "")

variable (T : Type) [Interpreter T]

/-- The second script reads the normalised values of the first and finds every
required secret. -/
structure StagesAgree (file : EnvFile) : Prop where
  parsed : ∃ entries values values', loadEnvFile file = .ok (entries, values) ∧
    normalizeValues T values = .ok values' ∧
    parseEnvFile (prepareEnv T file).2 = some (onKeys entries values')
  secrets : ∀ values, parseEnvFile (prepareEnv T file).2 = some values →
    (splitValues values).isOk = true

/-- The secrets that `prepare_env` also takes from a file. -/
def directSecretKeys : List String :=
  ["APPROVAL_TOKEN_SECRET", "JWT_SECRET", "CUSTOMER_JWT_SECRET"]

variable {T} {values : Values} {file : EnvFile}

theorem filter_isNone {x : Option String} {key : String} (hk : key ∈ sensitiveKeys) :
    (x.filter fun value => decide (key ∈ sensitiveKeys ∧ strip value ≠ "")).isNone =
      decide (strip (x.getD "") = "") := by
  cases x with
  | none => rfl
  | some value =>
    rw [Option.filter_some, Option.getD_some]
    by_cases hb : strip value = "" <;> simp [hk, hb]

theorem splitValues_isOk : (splitValues values).isOk = true ↔
    ∀ key ∈ requiredSecretKeys, stripped values key ≠ "" := by
  have hsensitive : ∀ key ∈ requiredSecretKeys, key ∈ sensitiveKeys ∧ key ≠ "EMAIL_PROVIDER" ∧
      key ≠ "MIGRATE_ON_STARTUP" := by decide
  have hmissing : ∀ key ∈ requiredSecretKeys,
      ((((values.set "EMAIL_PROVIDER" ((values "EMAIL_PROVIDER").getD "NOOP")).set
        "MIGRATE_ON_STARTUP" "false") key).filter
          fun value => decide (key ∈ sensitiveKeys ∧ strip value ≠ "")).isNone =
        decide (stripped values key = "") := by
    intro key hk
    obtain ⟨hmem, hprovider, hmigrate⟩ := hsensitive key hk
    rw [filter_isNone hmem, set_ne hmigrate, set_ne hprovider]
    rfl
  unfold splitValues
  extract_lets values₁ values₂ secretValues missingSecretKeys
  have hempty : missingSecretKeys = [] ↔ ∀ key ∈ requiredSecretKeys, stripped values key ≠ "" := by
    rw [List.filter_eq_nil_iff]
    refine forall₂_congr fun key hk => ?_
    rw [hmissing key hk, decide_eq_true_iff]
  rw [← hempty]
  split
  · rename_i hne
    exact iff_of_false (by rintro ⟨⟩) hne
  · rename_i hnone
    exact iff_of_true rfl (not_not.mp hnone)

/-- A prepared file passes the check when no secret is given by a file alone. -/
theorem stages_agree_iff (hT : Lawful T) (hok : (prepareEnv T file).1 = .ok ()) :
    StagesAgree T file ↔ ∀ values, parseEnvFile file = some values →
      ∀ key ∈ directSecretKeys, stripped values key ≠ "" := by
  obtain ⟨text, entries, values, h⟩ := prepareEnv_ok hok
  have hload := loadEnvFile_text h.loaded
  obtain ⟨hbefore, hafter⟩ := h.parsed hT
  have hkept : ∀ key ∈ requiredSecretKeys,
      stripped (onKeys entries values) key = stripped (lastValue (readLines text)) key := by
    intro key hk
    rw [stripped, stripped, h.onKeys_frame hT (by revert key; decide)]
  constructor
  · intro hs values' hv key hk
    rw [hbefore] at hv
    obtain rfl := Option.some.inj hv
    have hmem : key ∈ requiredSecretKeys := by revert key; decide
    have := splitValues_isOk.mp (hs.secrets _ hafter) key hmem
    rwa [hkept key hmem] at this
  · intro hs
    refine ⟨⟨entries, _, values, by rw [hload, h.lines], h.normalized, hafter⟩, ?_⟩
    intro values' hv
    rw [hafter] at hv
    obtain rfl := Option.some.inj hv
    refine splitValues_isOk.mpr fun key hk => ?_
    rw [hkept key hk]
    have hcases : key ∈ directSecretKeys ∨ key ∈ requiredTextFields := by revert key; decide
    rcases hcases with hdirect | htext
    · exact hs _ hbefore key hdirect
    · exact h.ready.required key htext

theorem exFile_stages_agree : StagesAgree Utc exFile := by
  refine (stages_agree_iff utc_lawful exFile_ok).mpr ?_
  intro values hvalues
  rw [exFile_values, Option.some.injEq] at hvalues
  rw [← hvalues]
  decide +kernel

/-- A secret given by its file is accepted first and missing then. -/
theorem secret_file_missing : (prepareEnv Utc exBareFile).1 = .ok () ∧
    ¬ StagesAgree Utc exBareFile := by
  refine ⟨exBareFile_ok, fun hs => ?_⟩
  obtain ⟨text, entries, values, h⟩ := prepareEnv_ok exBareFile_ok
  obtain ⟨hbefore, hafter⟩ := h.parsed utc_lawful
  rw [exBareFile_values, Option.some.injEq] at hbefore
  have hsecret := splitValues_isOk.mp (hs.secrets _ hafter) "JWT_SECRET" (by decide)
  rw [stripped, h.onKeys_frame utc_lawful (by decide), ← hbefore] at hsecret
  exact hsecret (by decide +kernel)

end ServiceOrderOs.Deploy
