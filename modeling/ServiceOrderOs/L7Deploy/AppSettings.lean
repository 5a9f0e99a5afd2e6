import ServiceOrderOs.L6Api.RegistrySchemas
import ServiceOrderOs.L6Api.Settings
import ServiceOrderOs.L7Deploy.Idempotence

/-!
# What the application reads of a prepared file

The fields of `Settings` that `prepare_env` normalises, read from environment
variables with the values of the file. `Pydantic` gives the conversions of text
to `bool` and `int`.

* `readItems_iff`: the script and the application read a list alike.
* `list_field_preserved`: normalising a list field keeps its items.
* `fully_normalised_iff`: a prepared file is fully normalised unless it has one
  of the required integers blank.
-/
namespace ServiceOrderOs.Deploy
open Py Core Api

variable (T : Type) [Interpreter T]

/-- `none` is the exception, which Pydantic reports as a validation error.
mirrors src/infrastructure/config/settings.py:13-23 -/
def parseCsvOrJsonList (value : String) : Option (List String) :=
  let rawValue := strip value
  if rawValue = "" then some []
  else if startswith rawValue "[" then
    match loads T rawValue with
    | .ok (.arr parsed) => some (stripItems (parsed.map (Json.toStr T)))
    | _ => none
  else some (stripItems (splitCommas rawValue))

/-- The types of the fields. -/
inductive FieldType where
  | literal (values : List String)
  | bool
  | int
  | list

/-- mirrors src/infrastructure/config/settings.py:46-78 -/
def settingsFields : List (String × FieldType) :=
  [("ENVIRONMENT", .literal Settings.environments), ("LOG_JSON", .bool),
    ("CORS_ALLOWED_ORIGINS", .list), ("TRUSTED_HOSTS", .list), ("JWT_EXPIRATION_MINUTES", .int),
    ("HEALTHCHECK_TIMEOUT_SECONDS", .int)]

/-- Whether the field's variable may have this text. -/
def FieldType.accepts (py : Pydantic) (value : String) : FieldType → Bool
  | .literal values => value ∈ values
  | .bool => (py.toBool (.str value)).isSome
  | .int => (py.toInt (.str value)).isSome
  | .list => (parseCsvOrJsonList T value).isSome

/-- What Pydantic documents of text: these two are booleans, and the digits of
a number are an integer. -/
structure ReadsText (py : Pydantic) : Prop where
  toBool : ∀ value ∈ booleans, py.toBool (.str value) = some (value == "true")
  toInt : ∀ n : Nat, int (toString n) = some (n : Int) → py.toInt (.str (toString n)) = some (n : Int)

/-- A JSON array of at least one string, none of them blank. -/
def JsonItems (value : String) : Prop :=
  ∃ items, loads T value = .ok (.arr (items.map .str)) ∧ items ≠ [] ∧ ∀ item ∈ items, strip item ≠ ""

/-- Every normalised field that appears is normal, and `Settings` takes it. -/
structure FullyNormalised (py : Pydantic) (values : Values) : Prop where
  integers : ∀ key ∈ requiredPositiveIntegerFields ++ optionalPositiveIntegerDefaults.map Prod.fst,
    IfPresent Canonical (values key)
  booleans : ∀ key ∈ requiredBooleanFields ++ optionalBooleanDefaults.map Prod.fst,
    IfPresent (· ∈ booleans) (values key)
  environment : Present (· ∈ Settings.environments) (values "ENVIRONMENT")
  lists : ∀ key ∈ listFields, Present (JsonItems T) (values key)
  settings : ∀ field ∈ settingsFields,
    IfPresent (fun value => field.2.accepts T py value = true) (values field.1)

variable {T} {py : Pydantic} {values : Values}

/-! ## The two readers of a list -/

section Lists
variable {key raw : String} {items : List String} {values' : Values}

/-- The two readers find the same items, or neither finds any. -/
theorem readItems_iff (key : String) (hraw : strip raw ≠ "") :
    readItems T key (strip raw) = .ok items ↔ parseCsvOrJsonList T raw = some items := by
  unfold readItems parseCsvOrJsonList
  dsimp only
  rw [if_neg hraw]
  split
  · cases loads T (strip raw) with
    | error e => cases e <;> simp [invalid]
    | ok v => cases v <;> simp [invalid]
  · simp

/-- What is written is what the application reads of the value before. -/
theorem normalizeListField_reads (h : normalizeListField T values key = .ok values') :
    ∃ raw items, values key = some raw ∧ parseCsvOrJsonList T raw = some items ∧ Items items ∧
      values' = values.set key (dumps items) := by
  unfold normalizeListField at h
  obtain ⟨rawValue, hrequired, hrest⟩ := bind_ok h
  obtain ⟨items, hitems, hset⟩ := bind_ok hrest
  obtain ⟨hstrip, hne⟩ := requireNonEmpty_ok.mp hrequired
  cases hkey : values key with
  | none =>
    rw [hkey] at hstrip
    exact absurd hstrip.symm hne
  | some raw =>
    rw [hkey, Option.getD_some] at hstrip
    subst hstrip
    obtain ⟨found, hfound⟩ := readItems_ok hitems
    split at hset
    · cases hset
    · rename_i hitemsNe
      cases hset
      refine ⟨raw, items, rfl, (readItems_iff key hne).mp hitems, ?_, rfl⟩
      rw [hfound] at hitemsNe ⊢
      exact stripItems_items hitemsNe

theorem parse_dumps (hloads : LoadsDumps T) (h : Items items) :
    parseCsvOrJsonList T (dumps items) = some items := by
  have hfine := fine_dumps items
  have hne : strip (dumps items) ≠ "" := by
    rw [hfine.strip]
    exact hfine.ne_empty
  refine (readItems_iff "" hne).mp ?_
  rw [hfine.strip]
  exact readItems_dumps hloads h

/-- **A normalised list is the list it was.** Of a field that is accepted, the
application reads the same items before and after, at least one and none of
them blank, and normalising it again changes nothing. -/
theorem list_field_preserved (hloads : LoadsDumps T)
    (h : normalizeListField T values key = .ok values') :
    ∃ raw text items, values key = some raw ∧ values' = values.set key text ∧
      parseCsvOrJsonList T text = parseCsvOrJsonList T raw ∧
      parseCsvOrJsonList T raw = some items ∧ items ≠ [] ∧ (∀ item ∈ items, strip item ≠ "") ∧
      normalizeListField T values' key = .ok values' := by
  obtain ⟨raw, items, hraw, hread, hitems, rfl⟩ := normalizeListField_reads h
  refine ⟨raw, dumps items, items, hraw, rfl, ?_, hread, hitems.1, ?_, ?_⟩
  · rw [parse_dumps hloads hitems, hread]
  · intro item hitem
    rw [(hitems.2 item hitem).1]
    exact (hitems.2 item hitem).2
  · exact normalizeListField_settled hloads hitems (set_self _ _ _)

def exHosts : Values := fun key =>
  if key = "TRUSTED_HOSTS" then some " api.example , ,\"x\"[1], api.example" else none

/-- Comma-separated before, a JSON array after. -/
theorem list_field_preserved_hosts :
    let text := "[\"api.example\",\"\\\"x\\\"[1]\",\"api.example\"]"
    ∃ raw text' items, exHosts "TRUSTED_HOSTS" = some raw ∧
      exHosts.set "TRUSTED_HOSTS" text = exHosts.set "TRUSTED_HOSTS" text' ∧
      parseCsvOrJsonList Utc text' = parseCsvOrJsonList Utc raw ∧
      parseCsvOrJsonList Utc raw = some items ∧ items ≠ [] ∧
      (∀ item ∈ items, strip item ≠ "") ∧
      normalizeListField Utc (exHosts.set "TRUSTED_HOSTS" text) "TRUSTED_HOSTS" =
        .ok (exHosts.set "TRUSTED_HOSTS" text) :=
  list_field_preserved utc_lawful.loads_dumps (by rfl)

end Lists

/-! ## The fields of a prepared file -/

theorem Present.ifPresent {P : String → Prop} {x : Option String} (h : Present P x) :
    IfPresent P x := by
  obtain ⟨value, rfl, hP⟩ := h
  intro v hv
  cases hv
  exact hP

theorem IfPresent.mono {P Q : String → Prop} {x : Option String} (h : IfPresent P x)
    (hPQ : ∀ value, P value → Q value) : IfPresent Q x := fun value hv => hPQ value (h value hv)

theorem Present.mono {P Q : String → Prop} {x : Option String} (h : Present P x)
    (hPQ : ∀ value, P value → Q value) : Present Q x := by
  obtain ⟨value, hv, hP⟩ := h
  exact ⟨value, hv, hPQ value hP⟩

theorem jsonItems_dumps (hT : Lawful T) {value : String} (h : ListText value) :
    JsonItems T value := by
  obtain ⟨items, hitems, rfl⟩ := h
  refine ⟨items, hT.loads_dumps items, hitems.1, fun item hitem => ?_⟩
  rw [(hitems.2 item hitem).1]
  exact (hitems.2 item hitem).2

theorem list_accepts (hT : Lawful T) {value : String} (h : ListText value) :
    FieldType.list.accepts T py value = true := by
  obtain ⟨items, -, rfl⟩ := h
  have hfine := fine_dumps items
  unfold FieldType.accepts parseCsvOrJsonList
  dsimp only
  rw [hfine.strip, if_neg hfine.ne_empty, hT.loads_dumps]
  split <;> rfl

theorem int_accepts (hpy : ReadsText py) {value : String} (h : Canonical value) :
    FieldType.int.accepts T py value = true := by
  obtain ⟨n, -, rfl, hint⟩ := h
  rw [FieldType.accepts, hpy.toInt n hint]
  rfl

theorem bool_accepts (hpy : ReadsText py) {value : String} (h : value ∈ booleans) :
    FieldType.bool.accepts T py value = true := by
  rw [FieldType.accepts, hpy.toBool value h]
  rfl

/-- Normalised values without a blank integer are fully normalised. -/
theorem Normalized.fully (hT : Lawful T) (hpy : ReadsText py) (h : Normalized T values)
    (hblank : ∀ key ∈ requiredPositiveIntegerFields, values key ≠ some "") :
    FullyNormalised T py values := by
  have hrequired : ∀ key ∈ requiredPositiveIntegerFields, IfPresent Canonical (values key) := by
    intro key hk value hv
    rcases h.requiredIntegers key hk value hv with rfl | hcanonical
    · exact absurd hv (hblank key hk)
    · exact hcanonical
  have hint : ∀ key ∈ requiredPositiveIntegerFields,
      IfPresent (fun value => FieldType.int.accepts T py value = true) (values key) :=
    fun key hk => (hrequired key hk).mono fun _ => int_accepts hpy
  have hlist : ∀ key ∈ listFields,
      IfPresent (fun value => FieldType.list.accepts T py value = true) (values key) :=
    fun key hk => (h.lists key hk).ifPresent.mono fun _ => list_accepts hT
  refine ⟨?_, ?_, h.environment, fun key hk => (h.lists key hk).mono fun _ => jsonItems_dumps hT, ?_⟩
  · rw [List.forall_mem_append, List.forall_mem_map]
    exact ⟨hrequired, h.optionalIntegers⟩
  · rw [List.forall_mem_append, List.forall_mem_map]
    exact ⟨fun key hk => (h.requiredBooleans key hk).ifPresent, h.optionalBooleans⟩
  · simp only [settingsFields, List.forall_mem_cons, List.not_mem_nil, false_implies, implies_true,
      and_true]
    refine ⟨h.environment.ifPresent.mono fun value hv => decide_eq_true hv,
      (h.requiredBooleans _ (by decide)).ifPresent.mono fun _ => bool_accepts hpy,
      hlist _ (by decide), hlist _ (by decide), hint _ (by decide), hint _ (by decide)⟩

theorem canonical_ne_empty : ¬ Canonical "" := by
  intro h
  exact (fine_canonical h).ne_empty rfl

/-- A blank that stands for a required integer is written back, and no other. -/
theorem Rewrites.blank {file : EnvFile} {text key : String} {entries : List Entry}
    (hT : Lawful T) (h : Rewrites T file text entries values)
    (hk : key ∈ requiredPositiveIntegerFields) :
    onKeys entries values key = some "" ↔ lastValue (readLines text) key = some "" := by
  rw [← (h.ensures hT).2.2.1.blank key hk]
  unfold onKeys
  split
  · rfl
  · rename_i hmem
    refine iff_of_false (fun h => (by cases h)) fun hb => hmem ?_
    rw [(h.ensures hT).2.2.1.blank key hk] at hb
    rw [h.lines, ← lastValue_isSome, hb]
    rfl

/-- A prepared file is fully normalised unless it had a required integer blank. -/
theorem fully_normalised_iff (hT : Lawful T) (hpy : ReadsText py) {file : EnvFile}
    (hok : (prepareEnv T file).1 = .ok ()) :
    (∃ values, parseEnvFile (prepareEnv T file).2 = some values ∧ FullyNormalised T py values) ↔
      ∀ values, parseEnvFile file = some values →
        ∀ key ∈ requiredPositiveIntegerFields, values key ≠ some "" := by
  obtain ⟨text, entries, values, h⟩ := prepareEnv_ok hok
  obtain ⟨hbefore, hafter⟩ := h.parsed hT
  rw [hbefore, hafter]
  constructor
  · rintro ⟨_, heq, hfull⟩ _ heq' key hk hb
    obtain rfl := Option.some.inj heq
    obtain rfl := Option.some.inj heq'
    have hmem : key ∈ requiredPositiveIntegerFields ++
        optionalPositiveIntegerDefaults.map Prod.fst := List.mem_append_left _ hk
    exact canonical_ne_empty (hfull.integers key hmem "" ((h.blank hT hk).mpr hb))
  · intro hnone
    refine ⟨_, rfl, (h.normalized_onKeys hT).fully hT hpy fun key hk hb => ?_⟩
    exact hnone _ rfl key hk ((h.blank hT hk).mp hb)

/-- Reads text as JSON numbers and booleans are written. -/
def exPydantic : Pydantic where
  emailStr := some
  toBool
    | .bool b => some b
    | .str s => if s = "true" then some true else if s = "false" then some false else none
    | _ => none
  toInt
    | .int n => some n
    | .str s => int s
    | _ => none

theorem exPydantic_toInt (s : String) : exPydantic.toInt (.str s) = int s := rfl

theorem exPydantic_readsText : ReadsText exPydantic :=
  ⟨by decide, fun n h => (exPydantic_toInt (toString n)).trans h⟩

theorem exFile_fully_normalised : ∃ values,
    parseEnvFile (prepareEnv Utc exFile).2 = some values ∧ FullyNormalised Utc exPydantic values := by
  refine (fully_normalised_iff utc_lawful exPydantic_readsText exFile_ok).mpr ?_
  intro values hvalues
  rw [exFile_values, Option.some.injEq] at hvalues
  rw [← hvalues]
  decide +kernel

/-- Accepted, and left blank where `Settings` wants an integer. -/
theorem blank_expiration : (prepareEnv Utc exBareFile).1 = .ok () ∧
    ¬ ∃ values, parseEnvFile (prepareEnv Utc exBareFile).2 = some values ∧
      FullyNormalised Utc exPydantic values := by
  refine ⟨exBareFile_ok, ?_⟩
  rintro ⟨values, hvalues, hfull⟩
  obtain ⟨text, entries, values', h⟩ := prepareEnv_ok exBareFile_ok
  obtain ⟨hbefore, hafter⟩ := h.parsed utc_lawful
  rw [exBareFile_values, Option.some.injEq] at hbefore
  rw [hafter, Option.some.injEq] at hvalues
  have hblank : values "JWT_EXPIRATION_MINUTES" = some "" := by
    rw [← hvalues, h.blank utc_lawful (by decide), ← hbefore]
    decide +kernel
  exact canonical_ne_empty (hfull.integers _ (by decide) "" hblank)

end ServiceOrderOs.Deploy
