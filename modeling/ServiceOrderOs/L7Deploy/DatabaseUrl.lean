import ServiceOrderOs.Core.Passes
import ServiceOrderOs.Core.Replace
import ServiceOrderOs.L1Values.Url
import ServiceOrderOs.L7Deploy.EnvFile

/-!
# Database URLs

Three functions meet every `DATABASE_URL`: `prepare_env` admits it, the
repositories and Alembic rewrite it with `normalize_sync_database_url`, the
readiness probe with `normalize_postgresql_url_for_sync`.

* `same_target_iff`: when the two rewritings of an admitted URL agree, name the
  sync driver and carry no `ssl=require`.
* `validateDatabaseUrl_local`: the check reads three keys.
-/
namespace ServiceOrderOs.Deploy
open Py Core

variable (T : Type) [Interpreter T]

/-- `s.replace(old, new)` -/
def strReplace (s old new : String) : String :=
  String.ofList (replace old.toList new.toList s.toList)

/-- `s.replace(old, new, 1)` -/
def strReplaceFirst (s old new : String) : String :=
  String.ofList (replaceFirst old.toList new.toList s.toList)

/-- mirrors src/infrastructure/repositories/sqlalchemy_service_order_repository.py:31-36 -/
def normalizeSyncDatabaseUrl (databaseUrl : String) : String :=
  let databaseUrl := strReplace databaseUrl "postgresql+asyncpg://" "postgresql+psycopg://"
  let databaseUrl := strReplace databaseUrl "sqlite+aiosqlite://" "sqlite+pysqlite://"
  strReplace databaseUrl "?ssl=require" "?sslmode=require"

/-- mirrors src/infrastructure/database/url_utils.py:13-20 -/
def normalizePostgresqlUrlForSync (databaseUrl : String) : String :=
  if startswith databaseUrl "postgresql+asyncpg://" then
    strReplaceFirst databaseUrl "postgresql+asyncpg://" "postgresql+psycopg://"
  else if startswith databaseUrl "postgresql://" then
    strReplaceFirst databaseUrl "postgresql://" "postgresql+psycopg://"
  else if startswith databaseUrl "postgres://" then
    strReplaceFirst databaseUrl "postgres://" "postgresql+psycopg://"
  else databaseUrl

def placeholderDatabaseHosts : List String :=
  ["seu_host_postgres", "your-rds-endpoint", "endpoint-rds", "db-host"]

/-- `s.lstrip("/")` -/
def lstripSlash (s : String) : String := String.ofList (s.toList.dropWhile (· = '/'))

/-- User, host, port and database.
mirrors src/infrastructure/database/url_utils.py:23-29 -/
def describeDatabaseTarget (databaseUrl : String) :
    Except String (String × String × Nat × String) := do
  let parsed ← urlsplit T databaseUrl
  let port ← parsed.port T
  let database := lstripSlash parsed.path
  return (parsed.username, parsed.hostname T, if port.getD 0 = 0 then 5432 else port.getD 0,
    if database = "" then "<unknown>" else database)

/-- Host, port, database and user; an error is the message of the `ValueError`.
mirrors src/infrastructure/database/url_utils.py:32-68 -/
def validateRuntimeDatabaseUrl (databaseUrl expectedDatabase expectedUsername : String) :
    Except String (String × Nat × String × String) :=
  if strip databaseUrl = "" then .error "DATABASE_URL environment variable is required."
  else match describeDatabaseTarget T databaseUrl with
    | .error message => .error message
    | .ok (username, host, port, database) =>
      let normalizedHost := lower T (strip host)
      if host = "" then .error "DATABASE_URL must include a database host."
      else if username = "" then .error "DATABASE_URL must include a database username."
      else if database = "" ∨ database = "<unknown>" then
        .error "DATABASE_URL must include a database name."
      else if normalizedHost ∈ placeholderDatabaseHosts then
        .error ("DATABASE_URL host still uses a placeholder value. " ++
          "Replace it with the real RDS endpoint.")
      else if expectedDatabase ≠ "" ∧ database ≠ expectedDatabase then
        .error ("DATABASE_URL points to the wrong database. " ++
          s!"Expected '{expectedDatabase}', got '{database}'.")
      else if expectedUsername ≠ "" ∧ username ≠ expectedUsername then
        .error ("DATABASE_URL uses the wrong database user. " ++
          s!"Expected '{expectedUsername}', got '{username}'.")
      else .ok (host, port, database, username)

/-- mirrors scripts/deploy/prepare_env.py:67-71 -/
def requireNonEmpty (values : Values) (key : String) : Except Raised String :=
  let value := strip ((values key).getD "")
  if value = "" then .error (.envValidationError s!"{key} is required.") else .ok value

theorem requireNonEmpty_ok {values : Values} {key value : String} :
    requireNonEmpty values key = .ok value ↔
      strip ((values key).getD "") = value ∧ value ≠ "" := by
  unfold requireNonEmpty
  dsimp only
  split
  · rename_i he
    rw [he]
    exact ⟨fun h => (by cases h), fun h => absurd h.1.symm h.2⟩
  · rename_i hne
    rw [Except.ok.injEq]
    exact ⟨fun h => ⟨h, h ▸ hne⟩, fun h => h.1⟩

/-- mirrors scripts/deploy/prepare_env.py:129-142 -/
def validateDatabaseUrl (values : Values) : Except Raised Unit := do
  let databaseUrl ← requireNonEmpty values "DATABASE_URL"
  if startswith databaseUrl "postgresql://" || startswith databaseUrl "postgresql+asyncpg://" then
    match validateRuntimeDatabaseUrl T databaseUrl
        ((values "EXPECTED_DATABASE_NAME").getD "os_service_db")
        ((values "EXPECTED_DATABASE_USERNAME").getD "os_service_user") with
    | .error message => .error (.envValidationError message)
    | .ok _ => .ok ()
  else
    .error (.envValidationError
      "DATABASE_URL must start with postgresql:// or postgresql+asyncpg://.")

theorem validateDatabaseUrl_local :
    Pass.Local ["DATABASE_URL", "EXPECTED_DATABASE_NAME", "EXPECTED_DATABASE_USERNAME"]
      fun values => validateDatabaseUrl T values = .ok () := by
  intro s s' h hs
  rw [← hs, validateDatabaseUrl, validateDatabaseUrl, requireNonEmpty, requireNonEmpty,
    h "DATABASE_URL" (by simp), h "EXPECTED_DATABASE_NAME" (by simp),
    h "EXPECTED_DATABASE_USERNAME" (by simp)]

/-! ## The rewriting of the repositories -/

/-- `normalize_sync_database_url` on characters. -/
def syncText (url : List Char) : List Char :=
  replace "?ssl=require".toList "?sslmode=require".toList
    (replace "sqlite+aiosqlite://".toList "sqlite+pysqlite://".toList
      (replace "postgresql+asyncpg://".toList "postgresql+psycopg://".toList url))

theorem toList_normalizeSync (url : String) :
    (normalizeSyncDatabaseUrl url).toList = syncText url.toList := by
  simp only [normalizeSyncDatabaseUrl, strReplace, String.toList_ofList, syncText]

/-- What the rewriting is there to remove. -/
def rewritten : List String := ["postgresql+asyncpg://", "sqlite+aiosqlite://", "?ssl=require"]

/-- None of it is left. -/
theorem syncText_free (url : List Char) : ∀ p ∈ rewritten, ¬ p.toList <:+: syncText url := by
  have h₁ : ¬ "postgresql+asyncpg://".toList <:+: syncText url := by
    intro h
    have h := infix_of_replace (by decide) (by decide) (by decide) h
    have h := infix_of_replace (by decide) (by decide) (by decide) h
    exact not_infix_replace (by decide) (by decide) _ h
  have h₂ : ¬ "sqlite+aiosqlite://".toList <:+: syncText url := by
    intro h
    have h := infix_of_replace (by decide) (by decide) (by decide) h
    exact not_infix_replace (by decide) (by decide) _ h
  have h₃ : ¬ "?ssl=require".toList <:+: syncText url :=
    not_infix_replace (by decide) (by decide) _
  intro p hp
  simp only [rewritten, List.mem_cons, List.not_mem_nil, or_false] at hp
  rcases hp with rfl | rfl | rfl
  · exact h₁
  · exact h₂
  · exact h₃

theorem syncText_of_free {url : List Char} (h : ∀ p ∈ rewritten, ¬ p.toList <:+: url) :
    syncText url = url := by
  rw [syncText, replace_of_free (h _ (by simp [rewritten])),
    replace_of_free (h _ (by simp [rewritten])), replace_of_free (h _ (by simp [rewritten]))]

theorem syncText_asyncpg (rest : List Char) :
    syncText ("postgresql+asyncpg://".toList ++ rest) =
      "postgresql+psycopg://".toList ++ syncText rest := by
  rw [syncText, replace_hit (by decide), replace_append (by decide), replace_append (by decide),
    syncText]

theorem syncText_append {a : List Char}
    (h : ∀ p ∈ rewritten, ∀ j < a.length, Apart p.toList (a.drop j)) (rest : List Char) :
    syncText (a ++ rest) = a ++ syncText rest := by
  rw [syncText, replace_append (h _ (by simp [rewritten])),
    replace_append (h _ (by simp [rewritten])), replace_append (h _ (by simp [rewritten])), syncText]

/-- Only the driver is rewritten exactly when the rest has nothing to rewrite. -/
theorem syncText_fixed {rest : List Char} :
    syncText rest = rest ↔ ∀ p ∈ rewritten, ¬ p.toList <:+: rest := by
  constructor
  · intro h
    rw [← h]
    exact syncText_free rest
  · exact syncText_of_free

/-! ## Where the two rewritings agree -/

/-- The parameters of a URL's query, as written. -/
def queryItems (url : String) : List String :=
  ((cut '?' url.toList).2.splitOn '&').map String.ofList

/-- Repositories and probe reach the same target with the one sync driver, and
no parameter of the async driver is left. -/
structure SameTarget (url : String) : Prop where
  same : normalizeSyncDatabaseUrl url = normalizePostgresqlUrlForSync url
  driver : startswith (normalizeSyncDatabaseUrl url) "postgresql+psycopg://" = true
  query : "ssl=require" ∉ queryItems (normalizeSyncDatabaseUrl url)

/-- An asyncpg URL with nothing further to rewrite. -/
def PlainAsyncpg (url : String) : Prop :=
  ∃ rest, url = "postgresql+asyncpg://" ++ rest ∧
    (∀ p ∈ rewritten, ¬ p.toList <:+: rest.toList) ∧ "ssl=require" ∉ queryItems url

theorem startswith_iff {s p : String} : startswith s p = true ↔ ∃ rest, s = p ++ rest := by
  constructor
  · intro h
    obtain ⟨cs, hcs⟩ := List.isPrefixOf_iff_prefix.mp h
    refine ⟨String.ofList cs, ?_⟩
    rw [← String.toList_inj, String.toList_append, String.toList_ofList, hcs]
  · rintro ⟨rest, rfl⟩
    refine List.isPrefixOf_iff_prefix.mpr ?_
    rw [String.toList_append]
    exact List.prefix_append _ _

theorem queryItems_append {a : String} (h : '?' ∉ a.toList) (rest : String) :
    queryItems (a ++ rest) = queryItems rest := by
  have hne : ∀ c ∈ a.toList, decide (c ≠ '?') = true := by
    intro c hc
    rw [decide_eq_true_eq]
    rintro rfl
    exact h hc
  rw [queryItems, queryItems, cut, cut, String.toList_append, List.dropWhile_append_of_pos hne]

theorem normalizeSync_asyncpg (rest : String) :
    normalizeSyncDatabaseUrl ("postgresql+asyncpg://" ++ rest) =
      "postgresql+psycopg://" ++ String.ofList (syncText rest.toList) := by
  apply String.toList_inj.mp
  rw [toList_normalizeSync]
  simpa only [String.toList_append, String.toList_ofList] using syncText_asyncpg rest.toList

theorem normalizeProbe_asyncpg (rest : String) :
    normalizePostgresqlUrlForSync ("postgresql+asyncpg://" ++ rest) =
      "postgresql+psycopg://" ++ rest := by
  rw [normalizePostgresqlUrlForSync, if_pos (startswith_iff.mpr ⟨rest, rfl⟩), strReplaceFirst,
    String.toList_append, replaceFirst_hit (by decide), ← String.toList_append,
    String.ofList_toList]

/-- The rewritings agree when the repositories' one changes the driver only. -/
theorem sameTarget_asyncpg (rest : String) :
    SameTarget ("postgresql+asyncpg://" ++ rest) ↔
      (∀ p ∈ rewritten, ¬ p.toList <:+: rest.toList) ∧ "ssl=require" ∉ queryItems rest := by
  have hsame : normalizeSyncDatabaseUrl ("postgresql+asyncpg://" ++ rest) =
      normalizePostgresqlUrlForSync ("postgresql+asyncpg://" ++ rest) ↔
        ∀ p ∈ rewritten, ¬ p.toList <:+: rest.toList := by
    rw [normalizeSync_asyncpg, normalizeProbe_asyncpg, ← syncText_fixed, ← String.toList_inj,
      String.toList_append, String.toList_append, List.append_cancel_left_eq, String.toList_ofList]
  constructor
  · intro h
    have hquery := h.query
    rw [h.same, normalizeProbe_asyncpg, queryItems_append (by decide)] at hquery
    exact ⟨hsame.mp h.same, hquery⟩
  · intro h
    have heq := hsame.mpr h.1
    refine ⟨heq, ?_, ?_⟩ <;> rw [heq, normalizeProbe_asyncpg]
    · exact startswith_iff.mpr ⟨rest, rfl⟩
    · rw [queryItems_append (by decide)]
      exact h.2

/-- A beginning that no rewriting touches stands in the result. -/
theorem startswith_sync {a rest : List Char} {url : String} (hurl : url.toList = a ++ rest)
    (h : ∀ p ∈ rewritten, ∀ j < a.length, Apart p.toList (a.drop j))
    (hs : startswith (normalizeSyncDatabaseUrl url) "postgresql+psycopg://" = true) :
    ¬ Apart "postgresql+psycopg://".toList a := by
  intro hapart
  obtain ⟨rest', hrest⟩ := startswith_iff.mp hs
  have htext := (toList_normalizeSync url).symm.trans (congrArg String.toList hrest)
  rw [hurl, syncText_append h, String.toList_append] at htext
  exact not_prefix_append hapart (syncText rest) (htext ▸ List.prefix_append _ _)

theorem strip_begins {s : String} (h : ∀ c, s.toList.head? = some c → isspace c = false) :
    (strip s).toList <+: s.toList := by
  rw [strip, String.toList_ofList, dropWhile_of_head h, ← List.reverse_suffix, List.reverse_reverse]
  exact List.dropWhile_suffix isspace

theorem validateDatabaseUrl_scheme {values : Values} (h : validateDatabaseUrl T values = .ok ()) :
    startswith (strip ((values "DATABASE_URL").getD "")) "postgresql://" = true ∨
      startswith (strip ((values "DATABASE_URL").getD "")) "postgresql+asyncpg://" = true := by
  unfold validateDatabaseUrl at h
  obtain ⟨databaseUrl, hurl, h⟩ := bind_ok h
  rw [(requireNonEmpty_ok.mp hurl).1]
  split at h
  · rename_i hstart
    simpa using hstart
  · cases h

/-- No URL or pattern begins with white space. -/
theorem urls_head : ∀ p ∈ "postgresql+psycopg://" :: rewritten,
    1 < p.toList.length ∧ (!isspace (p.toList.headD ' ')) = true := by decide

/-- An admitted URL whose rewriting names the sync driver is one of asyncpg. -/
theorem asyncpg_of_driver {values : Values} {url : String}
    (hurl : values "DATABASE_URL" = some url) (h : validateDatabaseUrl T values = .ok ())
    (hs : startswith (normalizeSyncDatabaseUrl url) "postgresql+psycopg://" = true) :
    startswith url "postgresql+asyncpg://" = true := by
  have hscheme := validateDatabaseUrl_scheme T h
  rw [hurl, Option.getD_some] at hscheme
  have hhead : ∀ c, url.toList.head? = some c → isspace c = false := by
    intro c hc
    rw [← Bool.not_eq_true]
    intro hspace
    obtain ⟨rest, hrest⟩ : ∃ rest, url.toList = [c] ++ rest :=
      ⟨url.toList.tail, (List.cons_head?_tail hc).symm⟩
    have hfirst : ∀ p ∈ "postgresql+psycopg://" :: rewritten, Apart p.toList [c] := by
      intro p hp
      obtain ⟨hlen, hword⟩ := urls_head p hp
      refine ⟨fun hpre => ?_, fun hpre => ?_⟩
      · exact absurd hpre.length_le (Nat.not_le.mpr hlen)
      · obtain ⟨t, ht⟩ := hpre
        rw [← ht] at hword
        exact Bool.false_ne_true ((Bool.not_eq_true' _).mp hword ▸ hspace)
    exact startswith_sync hrest (fun p hp j hj => by
      rw [Nat.lt_one_iff.mp hj]
      exact hfirst p (List.mem_cons_of_mem _ hp)) hs (hfirst _ List.mem_cons_self)
  have hpre : ∀ p, startswith (strip url) p = true → startswith url p = true := by
    intro p hp
    refine List.isPrefixOf_iff_prefix.mpr ?_
    exact (List.isPrefixOf_iff_prefix.mp hp).trans (strip_begins hhead)
  rcases hscheme with hp | hp
  · obtain ⟨rest, hrest⟩ := startswith_iff.mp (hpre _ hp)
    have htext := congrArg String.toList hrest
    rw [String.toList_append] at htext
    exact absurd (by decide) (startswith_sync htext (by decide) hs)
  · exact hpre _ hp

/-- The two agree on the admitted URLs of asyncpg that hold nothing else to
rewrite. -/
theorem same_target_iff {values : Values} {url : String}
    (hurl : values "DATABASE_URL" = some url) (h : validateDatabaseUrl T values = .ok ()) :
    SameTarget url ↔ PlainAsyncpg url := by
  constructor
  · intro hs
    obtain ⟨rest, rfl⟩ := startswith_iff.mp (asyncpg_of_driver T hurl h hs.driver)
    have hplain := (sameTarget_asyncpg rest).mp hs
    refine ⟨rest, rfl, hplain.1, ?_⟩
    rw [queryItems_append (by decide)]
    exact hplain.2
  · rintro ⟨rest, rfl, hfree, hquery⟩
    rw [queryItems_append (by decide)] at hquery
    exact (sameTarget_asyncpg rest).mpr ⟨hfree, hquery⟩

/-- An env file's values with this `DATABASE_URL` alone. -/
def exUrlValues (url : String) : Values := fun key =>
  if key = "DATABASE_URL" then some url else none

def exSslMode : String := "postgresql+asyncpg://os_service_user:pw@db:5432/os_service_db?sslmode=require"

theorem same_target_sslmode : SameTarget exSslMode :=
  (same_target_iff Utc (rfl : exUrlValues exSslMode "DATABASE_URL" = _) (by decide +kernel)).mpr
    ⟨"os_service_user:pw@db:5432/os_service_db?sslmode=require", rfl, by decide +kernel,
      by decide +kernel⟩

def exSslRequire : String := "postgresql+asyncpg://os_service_user:pw@db:5432/os_service_db?ssl=require"

/-- The probe keeps the parameter that the repositories rewrite. -/
theorem ssl_require_kept : validateDatabaseUrl Utc (exUrlValues exSslRequire) = .ok () ∧
    ¬ SameTarget exSslRequire := by
  refine ⟨by decide +kernel, fun h => ?_⟩
  exact absurd h.same (by decide +kernel)

end ServiceOrderOs.Deploy
