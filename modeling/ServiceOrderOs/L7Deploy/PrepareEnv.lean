import ServiceOrderOs.L7Deploy.DatabaseUrl

/-!
# `prepare_env.py`

The script loads an env file, normalises a dozen values in one dictionary and
rewrites the file from it. Every function takes the dictionary and returns the
one it leaves.

* `normalizeBoolean_ok` and its like: what each normaliser may write.
* `normalizeBoolean_settled` and its like: a normal value is left as it is.
-/
namespace ServiceOrderOs.Deploy
open Py Core

variable (T : Type) [Interpreter T]

def requiredBooleanFields : List String := ["LOG_JSON"]

def optionalBooleanDefaults : List (String × String) :=
  [("SMTP_USE_TLS", "false"), ("SMTP_USE_AUTH", "false")]

def requiredPositiveIntegerFields : List String :=
  ["HEALTHCHECK_TIMEOUT_SECONDS", "APPROVAL_TOKEN_TTL_MINUTES", "JWT_EXPIRATION_MINUTES"]

def optionalPositiveIntegerDefaults : List (String × String) :=
  [("SMTP_PORT", "587"), ("SMTP_TIMEOUT_SECONDS", "10")]

def requiredTextFields : List String :=
  ["APP_NAME", "APP_VERSION", "ENVIRONMENT", "LOG_LEVEL", "LOG_JSON", "DATABASE_URL",
    "APP_BASE_URL", "CORS_ALLOWED_ORIGINS", "TRUSTED_HOSTS", "JWT_ALGORITHM"]

def validEnvironments : List String := ["development", "test", "staging", "production"]

def validEmailProviders : List String := ["SMTP", "NOOP"]

/-- `{"true", "false"}` -/
def booleans : List String := ["true", "false"]

/-- `values[key] = value` -/
def Values.set (values : Values) (key value : String) : Values :=
  Function.update values key (some value)

/-- `values.get(key, "").strip()` -/
def stripped (values : Values) (key : String) : String := strip ((values key).getD "")

def invalid {α : Type} (message : String) : Except Raised α := .error (.envValidationError message)

/-- mirrors scripts/deploy/prepare_env.py:74-77 -/
def requireAny (values : Values) (keys : List String) (label : String) : Except Raised Unit :=
  if keys.any fun key => stripped values key ≠ "" then .ok ()
  else
    let names := String.intercalate " or " keys
    invalid s!"{label} is required ({names})."

/-- mirrors scripts/deploy/prepare_env.py:80-85 -/
def normalizeBoolean (values : Values) (key : String) : Except Raised (Bool × Values) := do
  let rawValue := lower T (← requireNonEmpty values key)
  if rawValue ∈ booleans then return (rawValue == "true", values.set key rawValue)
  else invalid s!"{key} must be true or false."

/-- mirrors scripts/deploy/prepare_env.py:88-101 -/
def normalizePositiveInteger (values : Values) (key : String) : Except Raised Values :=
  let rawValue := stripped values key
  if rawValue = "" then .ok values
  else match int rawValue with
    | none => invalid s!"{key} must be an integer."
    | some number =>
      if number ≤ 0 then invalid s!"{key} must be greater than zero."
      else .ok (values.set key (toString number))

/-- mirrors scripts/deploy/prepare_env.py:104-114 -/
def normalizeOptionalBoolean (values : Values) (key default : String) :
    Except Raised (Bool × Values) :=
  let rawValue := lower T (stripped values key)
  if rawValue = "" then
    .ok (default == "true", if (values key).isSome then values.set key default else values)
  else if rawValue ∈ booleans then .ok (rawValue == "true", values.set key rawValue)
  else invalid s!"{key} must be true or false."

/-- mirrors scripts/deploy/prepare_env.py:117-126 -/
def normalizeOptionalPositiveInteger (values : Values) (key default : String) :
    Except Raised Values :=
  if stripped values key = "" then
    .ok (if (values key).isSome then values.set key default else values)
  else normalizePositiveInteger values key

/-- mirrors scripts/deploy/prepare_env.py:145-149 -/
def validateAppBaseUrl (values : Values) : Except Raised Unit := do
  let appBaseUrl ← requireNonEmpty values "APP_BASE_URL"
  match urlsplit T appBaseUrl with
  | .error message => .error (.uncaught "ValueError" message)
  | .ok parsedUrl =>
    if parsedUrl.scheme = "" ∨ parsedUrl.netloc = "" then
      invalid "APP_BASE_URL must be a valid absolute URL."
    else .ok ()

/-- The stripped items that are not blank. -/
def stripItems (items : List String) : List String := (items.map strip).filter (· ≠ "")

/-- `s.split(",")` -/
def splitCommas (s : String) : List String := (s.toList.splitOn ',').map String.ofList

/-- The items of a list field's value, JSON or comma-separated. -/
def readItems (key rawValue : String) : Except Raised (List String) :=
  if startswith rawValue "[" then
    match loads T rawValue with
    | .error .jsonDecodeError => invalid s!"{key} must be a valid JSON array."
    | .error (.other error message) => .error (.uncaught error message)
    | .ok (.arr parsedValue) => .ok (stripItems (parsedValue.map (Json.toStr T)))
    | .ok _ => invalid s!"{key} must be a JSON array."
  else .ok (stripItems (splitCommas rawValue))

/-- mirrors scripts/deploy/prepare_env.py:152-170 -/
def normalizeListField (values : Values) (key : String) : Except Raised Values := do
  let rawValue ← requireNonEmpty values key
  let items ← readItems T key rawValue
  if items = [] then invalid s!"{key} must contain at least one value."
  else return values.set key (dumps items)

/-- mirrors scripts/deploy/prepare_env.py:172-178 -/
def validateEnvironment (values : Values) : Except Raised Values := do
  let environment := lower T (← requireNonEmpty values "ENVIRONMENT")
  if environment ∈ validEnvironments then return values.set "ENVIRONMENT" environment
  else invalid "ENVIRONMENT must be one of: development, test, staging, production."

/-- mirrors scripts/deploy/prepare_env.py:181-186 -/
def normalizeEmailProvider (values : Values) : Except Raised (String × Values) :=
  let named := upper T (strip ((values "EMAIL_PROVIDER").getD "SMTP"))
  let provider := if named = "" then "SMTP" else named
  if provider ∈ validEmailProviders then .ok (provider, values.set "EMAIL_PROVIDER" provider)
  else invalid "EMAIL_PROVIDER must be SMTP or NOOP."

/-- mirrors scripts/deploy/prepare_env.py:189-202 -/
def validateSecretContract (values : Values) : Except Raised Unit := do
  requireAny values ["APPROVAL_TOKEN_SECRET", "APPROVAL_TOKEN_SECRET_FILE"] "Approval token secret"
  requireAny values ["JWT_SECRET", "JWT_SECRET_FILE"] "JWT secret"
  requireAny values ["CUSTOMER_JWT_SECRET", "CUSTOMER_JWT_SECRET_FILE"] "Customer JWT secret"

/-- mirrors scripts/deploy/prepare_env.py:205-207 -/
def validateRequiredTextFields (values : Values) : Except Raised Unit :=
  forM requiredTextFields fun key => do
    let _ ← requireNonEmpty values key
    return ()

/-- `values["LOG_LEVEL"] = values["LOG_LEVEL"].upper()` -/
def upperLogLevel (values : Values) : Except Raised Values :=
  match values "LOG_LEVEL" with
  | none => .error (.uncaught "KeyError" "LOG_LEVEL")
  | some level => .ok (values.set "LOG_LEVEL" (upper T level))

/-- The normalisers and checks of `prepare_env`, in their order.
mirrors scripts/deploy/prepare_env.py:228-246 -/
def normalizers (values : Values) : Except Raised Values := do
  let values ← validateEnvironment T values
  let values ← Prod.snd <$> normalizeEmailProvider T values
  let values ← requiredBooleanFields.foldlM
    (fun values key => Prod.snd <$> normalizeBoolean T values key) values
  let values ← optionalBooleanDefaults.foldlM
    (fun values (key, default) => Prod.snd <$> normalizeOptionalBoolean T values key default) values
  let values ← requiredPositiveIntegerFields.foldlM normalizePositiveInteger values
  let values ← optionalPositiveIntegerDefaults.foldlM
    (fun values (key, default) => normalizeOptionalPositiveInteger values key default) values
  validateDatabaseUrl T values
  validateAppBaseUrl T values
  let values ← normalizeListField T values "CORS_ALLOWED_ORIGINS"
  let values ← normalizeListField T values "TRUSTED_HOSTS"
  validateSecretContract values
  upperLogLevel T values

def normalizeValues (values : Values) : Except Raised Values := do
  validateRequiredTextFields values
  normalizers T values

/-- What running the script on a file returns, and the file it leaves.
mirrors scripts/deploy/prepare_env.py:224-248 -/
def prepareEnv (file : EnvFile) : Except Raised Unit × EnvFile :=
  match loadEnvFile file with
  | .error e => (.error e, file)
  | .ok (entries, values) => match normalizeValues T values with
    | .error e => (.error e, file)
    | .ok values => (.ok (), { file with text := some (rewriteEnvFile entries values) })

/-! ## Values that can be written -/

/-- Written on a line it is read back, and it is not blank. -/
structure Fine (value : String) : Prop extends Writable value where
  ne_empty : value ≠ ""

instance (s : String) : Decidable (OneLine s) := List.decidableBAll _ _

theorem literals_fine : ∀ value ∈ booleans ++ validEnvironments ++ validEmailProviders,
    strip value = value ∧ OneLine value ∧ value ≠ "" := by decide

theorem fine_literal {value : String}
    (h : value ∈ booleans ++ validEnvironments ++ validEmailProviders) : Fine value :=
  ⟨⟨(literals_fine value h).1, (literals_fine value h).2.1⟩, (literals_fine value h).2.2⟩

theorem fine_digits {n : Nat} : Fine (toString n) := by
  have hdig : ∀ c ∈ (toString n).toList, c.isDigit := by
    intro c hc
    rw [Nat.toString_eq_ofList_toDigits, String.toList_ofList] at hc
    exact Nat.isDigit_of_mem_toDigits (by decide) (by decide) hc
  have hword : ∀ c ∈ (toString n).toList, isspace c = false := fun c hc => isspace_digit (hdig c hc)
  refine ⟨⟨strip_eq ?_ ?_, ?_⟩, ?_⟩
  · exact fun c hc => hword c (List.mem_of_head? hc)
  · exact fun c hc => hword c (List.mem_of_getLast? hc)
  · intro c hc
    rw [← Bool.not_eq_true]
    intro hbreak
    have := hword c hc
    rw [isspace_of_isLineBreak hbreak] at this
    cases this
  · intro he
    rw [Nat.toString_eq_ofList_toDigits, ← String.toList_inj, String.toList_ofList] at he
    exact Nat.toDigits_ne_nil he

theorem fine_dumps (items : List String) : Fine (dumps items) := by
  refine ⟨⟨strip_dumps items, dumps_oneLine items⟩, fun he => ?_⟩
  have := head?_dumps items
  rw [he] at this
  cases this

variable {T}

theorem fine_upper (hT : Lawful T) {value : String} (h : Fine value) : Fine (upper T value) :=
  ⟨⟨strip_upper hT h.strip, upper_oneLine hT h.oneLine⟩, upper_ne_empty hT h.strip h.ne_empty⟩

/-- The decimal digits of a positive number, not too many to be read. -/
def Canonical (value : String) : Prop :=
  ∃ n : Nat, 0 < n ∧ value = toString n ∧ int value = some (n : Int)

/-! ## One normaliser -/

section Steps
variable {s s' : Values} {key default : String}

@[simp] theorem set_self (s : Values) (key value : String) : s.set key value key = some value :=
  Function.update_self _ _ _

theorem set_ne {k : String} (h : k ≠ key) (value : String) : s.set key value k = s k :=
  Function.update_of_ne h _ _

theorem set_same {value : String} (h : s key = some value) : s.set key value = s := by
  rw [Values.set, ← h, Function.update_eq_self]

theorem ok_pair {α : Type} {a b : α} {t : Values}
    (h : (Except.ok (a, t) : Except Raised (α × Values)) = .ok (b, s')) : a = b ∧ s' = t := by
  rw [Except.ok.injEq, Prod.mk.injEq] at h
  exact ⟨h.1, h.2.symm⟩

theorem snd_ok {α : Type} {m : Except Raised (α × Values)} (h : Prod.snd <$> m = .ok s') :
    ∃ a, m = .ok (a, s') := by
  cases m with
  | error e => cases h
  | ok p =>
    cases h
    exact ⟨p.1, rfl⟩

theorem normalizeBoolean_ok {b : Bool} (h : normalizeBoolean T s key = .ok (b, s')) :
    ∃ value ∈ booleans, s' = s.set key value := by
  unfold normalizeBoolean at h
  obtain ⟨rawValue, -, h⟩ := bind_ok h
  dsimp only at h
  split at h
  · rename_i hmem
    exact ⟨_, hmem, (ok_pair h).2⟩
  · cases h

theorem normalizeOptionalBoolean_ok (hdefault : default ∈ booleans) {b : Bool}
    (h : normalizeOptionalBoolean T s key default = .ok (b, s')) :
    (s' = s ∧ s key = none) ∨ ∃ value ∈ booleans, s' = s.set key value := by
  unfold normalizeOptionalBoolean at h
  dsimp only at h
  split at h
  · rw [(ok_pair h).2]
    split
    · exact .inr ⟨default, hdefault, rfl⟩
    · rename_i hnone
      exact .inl ⟨rfl, by simpa using hnone⟩
  · split at h
    · rename_i hmem
      exact .inr ⟨_, hmem, (ok_pair h).2⟩
    · cases h

theorem canonical_int {text : String} {n : Int} (h : int text = some n) (hpos : ¬ n ≤ 0) :
    Canonical (toString n) := by
  have hread : ∀ {cs : List Char}, (natOf cs).map Int.ofNat = some n → Canonical (toString n) := by
    intro cs hcs
    obtain ⟨m, hm, rfl⟩ := Option.map_eq_some_iff.mp hcs
    rw [Int.ofNat_eq_natCast] at hpos
    exact ⟨m, by omega, rfl, int_toString (natOf_lt hm)⟩
  unfold int at h
  split at h
  · obtain ⟨m, hm, rfl⟩ := Option.map_eq_some_iff.mp h
    simp only [Option.bind_eq_bind, Option.bind_eq_some_iff, Option.pure_def,
      Option.some.injEq] at hm
    obtain ⟨k, -, rfl⟩ := hm
    omega
  · exact hread h
  · exact hread h

theorem normalizePositiveInteger_ok (h : normalizePositiveInteger s key = .ok s') :
    (s' = s ∧ stripped s key = "") ∨
      ∃ value, Canonical value ∧ s' = s.set key value ∧ stripped s key ≠ "" := by
  unfold normalizePositiveInteger at h
  dsimp only at h
  split at h
  · rename_i hblank
    cases h
    exact .inl ⟨rfl, hblank⟩
  · rename_i hne
    split at h
    · cases h
    · rename_i n hn
      split at h
      · cases h
      · rename_i hpos
        cases h
        exact .inr ⟨_, canonical_int hn hpos, rfl, hne⟩

theorem normalizeOptionalPositiveInteger_ok (hdefault : Canonical default)
    (h : normalizeOptionalPositiveInteger s key default = .ok s') :
    (s' = s ∧ s key = none) ∨ ∃ value, Canonical value ∧ s' = s.set key value := by
  unfold normalizeOptionalPositiveInteger at h
  split at h
  · cases h
    split
    · exact .inr ⟨default, hdefault, rfl⟩
    · rename_i hnone
      exact .inl ⟨rfl, by simpa using hnone⟩
  · rename_i hne
    rcases normalizePositiveInteger_ok h with hblank | ⟨value, hcanonical, heq, -⟩
    · exact absurd hblank.2 hne
    · exact .inr ⟨value, hcanonical, heq⟩

/-- At least one item, and none of them blank or padded. -/
def Items (items : List String) : Prop := items ≠ [] ∧ ∀ item ∈ items, strip item = item ∧ item ≠ ""

theorem stripItems_items {items : List String} (hne : stripItems items ≠ []) :
    Items (stripItems items) := by
  refine ⟨hne, fun item hitem => ?_⟩
  obtain ⟨hmem, hblank⟩ := List.mem_filter.mp hitem
  obtain ⟨raw, -, rfl⟩ := List.mem_map.mp hmem
  exact ⟨strip_strip raw, by simpa using hblank⟩

theorem stripItems_of_items {items : List String} (h : Items items) : stripItems items = items := by
  unfold stripItems
  rw [(List.map_congr_left fun item hitem => (h.2 item hitem).1).trans (List.map_id _),
    List.filter_eq_self]
  intro item hitem
  simpa using (h.2 item hitem).2

theorem readItems_ok {rawValue : String} {items : List String}
    (h : readItems T key rawValue = .ok items) : ∃ raw, items = stripItems raw := by
  unfold readItems at h
  split at h
  · split at h
    · cases h
    · cases h
    · cases h
      exact ⟨_, rfl⟩
    · cases h
  · cases h
    exact ⟨_, rfl⟩

theorem normalizeListField_ok (h : normalizeListField T s key = .ok s') :
    ∃ items, Items items ∧ s' = s.set key (dumps items) := by
  unfold normalizeListField at h
  obtain ⟨rawValue, -, h⟩ := bind_ok h
  obtain ⟨items, hitems, h⟩ := bind_ok h
  obtain ⟨raw, rfl⟩ := readItems_ok hitems
  split at h
  · cases h
  · rename_i hne
    cases h
    exact ⟨_, stripItems_items hne, rfl⟩

theorem validateEnvironment_ok (h : validateEnvironment T s = .ok s') :
    ∃ value ∈ validEnvironments, s' = s.set "ENVIRONMENT" value := by
  unfold validateEnvironment at h
  obtain ⟨rawValue, -, h⟩ := bind_ok h
  dsimp only at h
  split at h
  · rename_i hmem
    cases h
    exact ⟨_, hmem, rfl⟩
  · cases h

theorem normalizeEmailProvider_ok {provider : String}
    (h : normalizeEmailProvider T s = .ok (provider, s')) :
    provider ∈ validEmailProviders ∧ s' = s.set "EMAIL_PROVIDER" provider := by
  unfold normalizeEmailProvider at h
  extract_lets named provider' at h
  split at h
  · rename_i hmem
    obtain ⟨rfl, rfl⟩ := ok_pair h
    exact ⟨hmem, rfl⟩
  · cases h

/-! ## A normal value is left as it is -/

theorem literals_lower : ∀ value ∈ booleans ++ validEnvironments,
    value.toList.all isascii = true ∧ lowerAscii value = value := by decide

theorem lower_literal {value : String} (h : value ∈ booleans ++ validEnvironments) :
    lower T value = value := by
  rw [lower_ascii T (literals_lower value h).1, (literals_lower value h).2]

theorem providers_upper : ∀ value ∈ validEmailProviders, value.toList.all isascii = true ∧
    String.ofList (value.toList.map Char.toUpper) = value := by decide

theorem upper_provider {value : String} (h : value ∈ validEmailProviders) :
    upper T value = value := by
  rw [upper_ascii T (providers_upper value h).1, (providers_upper value h).2]

theorem stripped_fine {value : String} (h : s key = some value) (hfine : Fine value) :
    stripped s key = value := by
  rw [stripped, h, Option.getD_some, hfine.strip]

theorem stripped_none (h : s key = none) : stripped s key = "" := by
  rw [stripped, h]
  rfl

theorem requireNonEmpty_fine {value : String} (h : s key = some value) (hfine : Fine value) :
    requireNonEmpty s key = .ok value :=
  requireNonEmpty_ok.mpr ⟨stripped_fine h hfine, hfine.ne_empty⟩

theorem normalizeBoolean_settled {value : String} (h : s key = some value)
    (hmem : value ∈ booleans) : normalizeBoolean T s key = .ok (value == "true", s) := by
  have hfine : Fine value := fine_literal (by simp [hmem])
  have hlow : lower T value = value := lower_literal (by simp [hmem])
  rw [normalizeBoolean, requireNonEmpty_fine h hfine]
  dsimp only [bind, Except.bind]
  rw [hlow, if_pos hmem, set_same h]
  rfl

theorem normalizeOptionalBoolean_settled (h : ∀ value, s key = some value → value ∈ booleans) :
    ∃ b, normalizeOptionalBoolean T s key default = .ok (b, s) := by
  unfold normalizeOptionalBoolean
  cases hk : s key with
  | none =>
    have hempty : lower T "" = "" := lower_ascii T rfl
    rw [stripped_none hk, hempty]
    exact ⟨_, rfl⟩
  | some value =>
    have hmem := h value hk
    have hfine : Fine value := fine_literal (by simp [hmem])
    have hlow : lower T value = value := lower_literal (by simp [hmem])
    rw [stripped_fine hk hfine]
    dsimp only
    rw [hlow, if_neg hfine.ne_empty, if_pos hmem, set_same hk]
    exact ⟨_, rfl⟩

theorem fine_canonical {value : String} (h : Canonical value) : Fine value := by
  obtain ⟨n, -, rfl, -⟩ := h
  exact fine_digits

theorem normalizePositiveInteger_settled
    (h : ∀ value, s key = some value → value = "" ∨ Canonical value) :
    normalizePositiveInteger s key = .ok s := by
  unfold normalizePositiveInteger
  cases hk : s key with
  | none =>
    rw [stripped_none hk]
    rfl
  | some value =>
    rcases h value hk with rfl | hcanonical
    · have hblank : stripped s key = "" := by
        rw [stripped, hk]
        rfl
      rw [hblank]
      rfl
    · have hfine := fine_canonical hcanonical
      obtain ⟨n, hpos, htext, hint⟩ := hcanonical
      rw [stripped_fine hk hfine]
      dsimp only
      rw [if_neg hfine.ne_empty, hint]
      dsimp only
      have hset : s.set key (toString (n : Int)) = s := set_same (hk.trans (congrArg some htext))
      rw [if_neg (by omega), hset]

theorem normalizeOptionalPositiveInteger_settled
    (h : ∀ value, s key = some value → Canonical value) :
    normalizeOptionalPositiveInteger s key default = .ok s := by
  unfold normalizeOptionalPositiveInteger
  cases hk : s key with
  | none =>
    rw [if_pos (stripped_none hk)]
    rfl
  | some value =>
    have hfine := fine_canonical (h value hk)
    rw [if_neg (by rw [stripped_fine hk hfine]; exact hfine.ne_empty)]
    exact normalizePositiveInteger_settled fun v hv => .inr (h v hv)

theorem readItems_dumps (hloads : LoadsDumps T) {items : List String} (h : Items items) :
    readItems T key (dumps items) = .ok items := by
  have hstart : startswith (dumps items) "[" = true := by
    rw [startswith]
    cases hd : (dumps items).toList with
    | nil =>
      have := head?_dumps items
      rw [hd] at this
      cases this
    | cons c cs =>
      have := head?_dumps items
      rw [hd] at this
      cases this
      rfl
  unfold readItems
  rw [if_pos hstart, hloads]
  dsimp only
  rw [List.map_map]
  exact congrArg Except.ok ((congrArg stripItems (List.map_id items)).trans (stripItems_of_items h))

theorem normalizeListField_settled (hloads : LoadsDumps T) {items : List String}
    (hitems : Items items) (h : s key = some (dumps items)) : normalizeListField T s key = .ok s := by
  rw [normalizeListField, requireNonEmpty_fine h (fine_dumps items)]
  dsimp only [bind, Except.bind]
  rw [readItems_dumps hloads hitems]
  dsimp only
  rw [if_neg hitems.1, set_same h]
  rfl

theorem validateEnvironment_settled {value : String} (h : s "ENVIRONMENT" = some value)
    (hmem : value ∈ validEnvironments) : validateEnvironment T s = .ok s := by
  have hfine : Fine value := fine_literal (by simp [hmem])
  have hlow : lower T value = value := lower_literal (by simp [hmem])
  rw [validateEnvironment, requireNonEmpty_fine h hfine]
  dsimp only [bind, Except.bind]
  rw [hlow, if_pos hmem, set_same h]
  rfl

/-- A provider's name stays; when there is none, `SMTP` is put in. -/
theorem normalizeEmailProvider_settled
    (h : ∀ value, s "EMAIL_PROVIDER" = some value → value ∈ validEmailProviders) :
    normalizeEmailProvider T s = .ok ((s "EMAIL_PROVIDER").getD "SMTP",
      s.set "EMAIL_PROVIDER" ((s "EMAIL_PROVIDER").getD "SMTP")) := by
  have hmem : (s "EMAIL_PROVIDER").getD "SMTP" ∈ validEmailProviders := by
    cases hk : s "EMAIL_PROVIDER" with
    | none => decide
    | some value => exact h value hk
  have hfine : Fine ((s "EMAIL_PROVIDER").getD "SMTP") := fine_literal (by simp [hmem])
  unfold normalizeEmailProvider
  rw [hfine.strip, upper_provider hmem]
  dsimp only
  rw [if_neg hfine.ne_empty, if_pos hmem]

end Steps

end ServiceOrderOs.Deploy
