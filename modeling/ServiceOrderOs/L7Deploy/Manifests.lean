import Mathlib.Data.String.Basic
import ServiceOrderOs.Core.Sorted
import ServiceOrderOs.L7Deploy.RenderManifests

/-!
# The rendered manifests

`render_k8s_manifests.py` writes the values of an env file as a ConfigMap and a
Secret: a heading, then a line `  key: "value"` for each key in order, the value
as `json.dumps` writes it.

A section is read back line by line, the key up to the first colon, the value a
JSON string, the inverse of how it is written. What a cluster makes of it is in
`Startup`.

* `readSection_write`: what is written is read back.
* `manifests_read_back`: what the two manifests say of an env file.
* `manifests_say`: each says what it says, and nothing of the other's keys.
-/
namespace ServiceOrderOs.Deploy
open Py Core

/-- mirrors scripts/deploy/render_k8s_manifests.py:60-61 -/
def yamlQuote (value : String) : String := String.ofList (literal value)

def itemLine (item : String × String) : String := "  " ++ item.1 ++ ": " ++ yamlQuote item.2

/-- What stands before the section. -/
def heading (kind name «namespace» : String) : List String :=
  ["apiVersion: v1", "kind: " ++ kind, "metadata:", "  name: " ++ name,
    "  namespace: " ++ «namespace»] ++ if kind = "Secret" then ["type: Opaque"] else []

/-- The text written for a dictionary with these keys.
mirrors scripts/deploy/render_k8s_manifests.py:115-139 -/
def writeManifest (kind name «namespace» sectionName : String) (keys : List String)
    (values : Values) : String :=
  joinLines (heading kind name «namespace» ++
    (sectionName ++ ":") :: (Sorted.items keys values).map itemLine)

structure Manifests where
  configmap : String
  secret : String
  deriving DecidableEq, Repr

/-- What ends the script before it has written them. -/
inductive RenderError where
  | fileNotFound
  | systemExit (message : String)
  deriving DecidableEq, Repr

/-- The keys a file gives, as often as it gives them. -/
def fileKeys (file : EnvFile) : List String :=
  (assignments (readLines (file.text.getD ""))).map Prod.fst

/-- The keys of the dictionary in the end. -/
def manifestKeys (file : EnvFile) : List String :=
  fileKeys file ++ ["EMAIL_PROVIDER", "MIGRATE_ON_STARTUP"]

/-- The two manifests it renders from the env file.
mirrors scripts/deploy/render_k8s_manifests.py:187-229 -/
def renderManifests («namespace» : String) (file : EnvFile) : Except RenderError Manifests :=
  match parseEnvFile file with
  | none => .error .fileNotFound
  | some values => match splitValues values with
    | .error message => .error (.systemExit message)
    | .ok (secretValues, configValues) =>
      let keys := manifestKeys file
      .ok
        { configmap := writeManifest "ConfigMap" "service-order-os-service-config" «namespace» "data"
            keys configValues
          secret := writeManifest "Secret" "service-order-os-service-secret" «namespace»
            "stringData" keys secretValues }

/-! ## Reading a section -/

/-- A line `  key: "value"`. -/
def readItem (line : String) : Option (String × String) :=
  match line.toList with
  | ' ' :: ' ' :: cs => match cs.dropWhile (· ≠ ':') with
    | ':' :: ' ' :: text =>
      (readLiteral text).map (String.ofList (cs.takeWhile (· ≠ ':')), ·)
    | _ => none
  | _ => none

/-- What stands under a section's name. -/
def readSection (sectionName text : String) : Option (List (String × String)) :=
  ((readLines text).dropWhile (· ≠ sectionName ++ ":")).tail.mapM readItem

example : readSection "data" (writeManifest "ConfigMap" "os" "prod" "data" ["B", "A", "B"]
    fun key => if key = "C" then none else some "\"\n") = some [("A", "\"\n"), ("B", "\"\n")] := by
  decide +kernel

section Section
variable {kind name «namespace» sectionName : String} {keys : List String} {values : Values}

theorem readItem_itemLine {item : String × String} (h : ':' ∉ item.1.toList) :
    readItem (itemLine item) = some item := by
  have hne : ∀ c ∈ item.1.toList, decide (c ≠ ':') = true := by
    intro c hc
    rw [decide_eq_true_eq]
    rintro rfl
    exact h hc
  have hline : (itemLine item).toList =
      ' ' :: ' ' :: (item.1.toList ++ ':' :: ' ' :: literal item.2) := by
    simp [itemLine, yamlQuote, String.toList_append]
  have hdrop : (item.1.toList ++ ':' :: ' ' :: literal item.2).dropWhile (· ≠ ':') =
      ':' :: ' ' :: literal item.2 := by
    rw [List.dropWhile_append_of_pos hne, List.dropWhile_cons_of_neg (by decide)]
  have htake : (item.1.toList ++ ':' :: ' ' :: literal item.2).takeWhile (· ≠ ':') =
      item.1.toList := by
    rw [List.takeWhile_append_of_pos hne, List.takeWhile_cons_of_neg (by decide), List.append_nil]
  simp only [readItem, hline, hdrop, htake, readLiteral_literal, String.ofList_toList,
    Option.map_some]

theorem mapM_readItem {items : List (String × String)}
    (h : ∀ item ∈ items, ':' ∉ item.1.toList) : (items.map itemLine).mapM readItem = some items := by
  induction items with
  | nil => rfl
  | cons item items ih =>
    rw [List.map_cons, List.mapM_cons, readItem_itemLine (h item List.mem_cons_self),
      ih fun item' hitem => h item' (List.mem_cons_of_mem _ hitem)]
    rfl

theorem itemLine_oneLine {item : String × String} (h : OneLine item.1) : OneLine (itemLine item) := by
  have hfixed : OneLine "  " ∧ OneLine ": " := by decide
  refine oneLine_append (oneLine_append (oneLine_append hfixed.1 h) hfixed.2) fun c hc => ?_
  rw [yamlQuote, String.toList_ofList] at hc
  exact (literal_printable _ c hc).isLineBreak

theorem heading_lines (hkind : OneLine kind) (hname : OneLine name) (hns : OneLine «namespace») :
    ∀ line ∈ heading kind name «namespace», OneLine line ∧
      line.toList.head? ∈ ['a', 'k', 'm', ' ', 't'].map some := by
  have hfixed : ∀ line ∈ ["apiVersion: v1", "kind: ", "metadata:", "  name: ", "  namespace: ",
      "type: Opaque"], OneLine line := by decide
  intro line hline
  unfold heading at hline
  rcases List.mem_append.mp hline with hline | hline
  · simp only [List.mem_cons, List.not_mem_nil, or_false] at hline
    rcases hline with rfl | rfl | rfl | rfl | rfl
    · exact ⟨hfixed _ (by simp), by decide⟩
    · exact ⟨oneLine_append (hfixed _ (by simp)) hkind, by simp [String.toList_append]⟩
    · exact ⟨hfixed _ (by simp), by decide⟩
    · exact ⟨oneLine_append (hfixed _ (by simp)) hname, by simp [String.toList_append]⟩
    · exact ⟨oneLine_append (hfixed _ (by simp)) hns, by simp [String.toList_append]⟩
  · split at hline
    · rw [List.mem_singleton.mp hline]
      exact ⟨hfixed _ (by simp), by decide⟩
    · cases hline

/-- No line of the heading is the name of a section that begins otherwise. -/
theorem heading_ne (hkind : OneLine kind) (hname : OneLine name) (hns : OneLine «namespace»)
    (hhead : (sectionName ++ ":").toList.head? ∉ ['a', 'k', 'm', ' ', 't'].map some) :
    ∀ line ∈ heading kind name «namespace», OneLine line ∧ line ≠ sectionName ++ ":" := by
  intro line hline
  obtain ⟨hone, hmem⟩ := heading_lines hkind hname hns line hline
  exact ⟨hone, fun heq => hhead (heq ▸ hmem)⟩

/-- A section whose name is on no line of the heading is read back. -/
theorem readSection_write (hsection : OneLine (sectionName ++ ":"))
    (hheading : ∀ line ∈ heading kind name «namespace», OneLine line ∧ line ≠ sectionName ++ ":")
    (hkeys : ∀ key ∈ keys, (values key).isSome → OneLine key ∧ ':' ∉ key.toList) :
    readSection sectionName (writeManifest kind name «namespace» sectionName keys values) =
      some (Sorted.items keys values) := by
  have hitems : ∀ item ∈ Sorted.items keys values, OneLine item.1 ∧ ':' ∉ item.1.toList := by
    rintro ⟨key, value⟩ hitem
    obtain ⟨hkey, hvalue⟩ := Sorted.mem_items.mp hitem
    exact hkeys key hkey (by rw [hvalue]; rfl)
  have hlines : ∀ line ∈ heading kind name «namespace» ++
      (sectionName ++ ":") :: (Sorted.items keys values).map itemLine, OneLine line := by
    intro line hline
    rcases List.mem_append.mp hline with hline | hline
    · exact (hheading line hline).1
    rcases List.mem_cons.mp hline with rfl | hline
    · exact hsection
    · obtain ⟨item, hitem, rfl⟩ := List.mem_map.mp hline
      exact itemLine_oneLine (hitems item hitem).1
  have hskip : ∀ line ∈ heading kind name «namespace»,
      decide (line ≠ sectionName ++ ":") = true :=
    fun line hline => decide_eq_true (hheading line hline).2
  rw [readSection, writeManifest, readLines_joinLines (by simp) hlines,
    List.dropWhile_append_of_pos hskip, List.dropWhile_cons_of_neg (by simp), List.tail_cons,
    mapM_readItem fun item hitem => (hitems item hitem).2]

end Section

/-! ## What the manifests say -/

/-- The values `main` splits: a provider is put in, migration on start-up
switched off. -/
def deployed (values : Values) : Values :=
  (values.set "EMAIL_PROVIDER" ((values "EMAIL_PROVIDER").getD "NOOP")).set
    "MIGRATE_ON_STARTUP" "false"

/-- The values that are not blank. -/
def nonBlank (values : Values) : Values := fun key => (values key).filter fun v => strip v ≠ ""

section Rendered
variable {«namespace» : String} {file : EnvFile} {values secretValues configValues : Values}
  {m : Manifests} {key value : String}

theorem splitValues_ok (h : splitValues values = .ok (secretValues, configValues)) (key : String) :
    secretValues key = (if key ∈ sensitiveKeys then nonBlank (deployed values) key else none) ∧
      configValues key = if key ∈ sensitiveKeys then none else nonBlank (deployed values) key := by
  unfold splitValues at h
  dsimp only at h
  split at h
  · cases h
  · cases h
    by_cases hk : key ∈ sensitiveKeys <;> simp [hk, nonBlank, deployed]

theorem nonBlank_eq_some :
    nonBlank values key = some value ↔ values key = some value ∧ strip value ≠ "" := by
  simp [nonBlank, Option.filter_eq_some_iff]

theorem deployed_other (hm : key ≠ "MIGRATE_ON_STARTUP") (hp : key ≠ "EMAIL_PROVIDER") :
    deployed values key = values key := by
  rw [deployed, set_ne hm, set_ne hp]

theorem deployed_set (hm : key ≠ "MIGRATE_ON_STARTUP") (hp : key ≠ "EMAIL_PROVIDER") :
    deployed (values.set key value) = (deployed values).set key value := by
  rw [deployed, set_ne hp.symm]
  unfold deployed Values.set
  rw [Function.update_comm hp, Function.update_comm hm]

theorem fileKeys_oneLine (hkey : key ∈ fileKeys file) : OneLine key := by
  obtain ⟨p, hp, rfl⟩ := List.mem_map.mp hkey
  obtain ⟨l, hl, rfl⟩ := List.mem_map.mp hp
  have hone : OneLine l := splitlines_oneLine (List.mem_filter.mp hl).1
  exact (writable_strip (oneLine_splitOnce hone '=').1).oneLine

theorem mem_fileKeys (hv : parseEnvFile file = some values) (hkey : (values key).isSome) :
    key ∈ fileKeys file := by
  obtain ⟨text, htext, rfl⟩ := Option.map_eq_some_iff.mp hv
  rw [foldl_parseLine] at hkey
  obtain ⟨value, hvalue⟩ := Option.isSome_iff_exists.mp hkey
  obtain ⟨l, hl, hs, ha⟩ := lastValue_some hvalue
  rw [fileKeys, htext, Option.getD_some]
  refine List.mem_map.mpr ⟨(key, value), List.mem_map.mpr ⟨l, ?_, ha⟩, rfl⟩
  exact List.mem_filter.mpr ⟨hl, by rw [hs]; rfl⟩

theorem mem_manifestKeys (hv : parseEnvFile file = some values)
    (hkey : (deployed values key).isSome) : key ∈ manifestKeys file := by
  by_cases hm : key = "MIGRATE_ON_STARTUP"
  · simp [manifestKeys, hm]
  by_cases hp : key = "EMAIL_PROVIDER"
  · simp [manifestKeys, hp]
  · rw [deployed_other hm hp] at hkey
    exact List.mem_append_left _ (mem_fileKeys hv hkey)

theorem renderManifests_ok (h : renderManifests «namespace» file = .ok m)
    (hv : parseEnvFile file = some values) : ∃ secretValues configValues,
      splitValues values = .ok (secretValues, configValues) ∧
      m.configmap = writeManifest "ConfigMap" "service-order-os-service-config" «namespace» "data"
        (manifestKeys file) configValues ∧
      m.secret = writeManifest "Secret" "service-order-os-service-secret" «namespace» "stringData"
        (manifestKeys file) secretValues := by
  simp only [renderManifests, hv] at h
  split at h
  · cases h
  · rename_i secretValues configValues hs
    obtain rfl := Except.ok.inj h
    exact ⟨secretValues, configValues, hs, rfl, rfl⟩

theorem manifestKeys_oneLine (hkey : key ∈ manifestKeys file) : OneLine key := by
  have hfixed : ∀ key ∈ ["EMAIL_PROVIDER", "MIGRATE_ON_STARTUP"], OneLine key := by decide
  exact (List.mem_append.mp hkey).elim fileKeys_oneLine (hfixed key)

theorem mem_splitItems (hs : splitValues values = .ok (secretValues, configValues))
    (hv : parseEnvFile file = some values) (key value : String) :
    ((key, value) ∈ Sorted.items (manifestKeys file) configValues ↔
      key ∉ sensitiveKeys ∧ nonBlank (deployed values) key = some value) ∧
    ((key, value) ∈ Sorted.items (manifestKeys file) secretValues ↔
      key ∈ sensitiveKeys ∧ nonBlank (deployed values) key = some value) := by
  have hkey : nonBlank (deployed values) key = some value → key ∈ manifestKeys file := by
    intro hvalue
    exact mem_manifestKeys hv (by rw [(nonBlank_eq_some.mp hvalue).1]; rfl)
  obtain ⟨hsecret, hconfig⟩ := splitValues_ok hs key
  rw [Sorted.mem_items, Sorted.mem_items, hsecret, hconfig]
  by_cases hk : key ∈ sensitiveKeys
  · simpa [hk] using hkey
  · simpa [hk] using hkey

/-- No key with a value has a colon. -/
def PlainKeys (values : Values) : Prop := ∀ key, (values key).isSome → ':' ∉ key.toList

theorem PlainKeys.nonBlank (h : PlainKeys values) : PlainKeys (nonBlank (deployed values)) := by
  intro key hkey
  obtain ⟨value, hvalue⟩ := Option.isSome_iff_exists.mp hkey
  have hvalue := (nonBlank_eq_some.mp hvalue).1
  by_cases hm : key = "MIGRATE_ON_STARTUP"
  · rw [hm]; decide
  by_cases hp : key = "EMAIL_PROVIDER"
  · rw [hp]; decide
  · rw [deployed_other hm hp] at hvalue
    exact h key (by rw [hvalue]; rfl)

theorem plainKeys_lines {lines : List String}
    (h : ∀ l ∈ lines, ':' ∉ (assignment l).1.toList) : PlainKeys (lastValue lines) := by
  intro key hkey
  obtain ⟨value, hvalue⟩ := Option.isSome_iff_exists.mp hkey
  obtain ⟨l, hl, -, ha⟩ := lastValue_some hvalue
  have hplain := h l hl
  rwa [ha] at hplain

/-- The items of the two manifests of some values. -/
structure ReadBack (m : Manifests) (values : Values) (config secret : List (String × String)) :
    Prop where
  read_config : readSection "data" m.configmap = some config
  read_secret : readSection "stringData" m.secret = some secret
  config_sorted : (config.map Prod.fst).Pairwise (· < ·)
  secret_sorted : (secret.map Prod.fst).Pairwise (· < ·)
  mem_config : ∀ key value, (key, value) ∈ config ↔
    key ∉ sensitiveKeys ∧ nonBlank (deployed values) key = some value
  mem_secret : ∀ key value, (key, value) ∈ secret ↔
    key ∈ sensitiveKeys ∧ nonBlank (deployed values) key = some value

theorem rendered_readBack (hns : OneLine «namespace») (hv : parseEnvFile file = some values)
    (hkeys : PlainKeys values) (h : renderManifests «namespace» file = .ok m) :
    ∃ config secret, ReadBack m values config secret := by
  obtain ⟨secretValues, configValues, hs, hconfigmap, hsecret⟩ := renderManifests_ok h hv
  have hmem := mem_splitItems hs hv
  have hvalues := splitValues_ok hs
  have hplain : ∀ vs : Values, (∀ key, (vs key).isSome → (nonBlank (deployed values) key).isSome) →
      ∀ key ∈ manifestKeys file, (vs key).isSome → OneLine key ∧ ':' ∉ key.toList :=
    fun vs hvs key hmem hsome => ⟨manifestKeys_oneLine hmem, hkeys.nonBlank key (hvs key hsome)⟩
  refine ⟨Sorted.items (manifestKeys file) configValues,
    Sorted.items (manifestKeys file) secretValues, ?_, ?_, Sorted.items_sorted _ _,
    Sorted.items_sorted _ _, fun key value => (hmem key value).1, fun key value => (hmem key value).2⟩
  · rw [hconfigmap]
    refine readSection_write (by decide) (heading_ne (by decide) (by decide) hns (by decide))
      (hplain _ fun key hsome => ?_)
    rw [(hvalues key).2] at hsome
    split at hsome
    · cases hsome
    · exact hsome
  · rw [hsecret]
    refine readSection_write (by decide) (heading_ne (by decide) (by decide) hns (by decide))
      (hplain _ fun key hsome => ?_)
    rw [(hvalues key).1] at hsome
    split at hsome
    · exact hsome
    · cases hsome

theorem renderManifests_isOk («namespace» : String) (hv : parseEnvFile file = some values)
    (hs : (splitValues values).isOk = true) : ∃ m, renderManifests «namespace» file = .ok m := by
  simp only [renderManifests, hv]
  cases h : splitValues values with
  | error message =>
    rw [h] at hs
    cases hs
  | ok p => exact ⟨_, rfl⟩

/-- The two sections together are the values. -/
theorem ReadBack.lookup {config secret : List (String × String)}
    (h : ReadBack m values config secret) (key : String) :
    (secret.lookup key).or (config.lookup key) = nonBlank (deployed values) key := by
  have hsecret : secret.lookup key =
      if key ∈ sensitiveKeys then nonBlank (deployed values) key else none := by
    ext value
    rw [Sorted.lookup_eq_some h.secret_sorted, h.mem_secret]
    by_cases hk : key ∈ sensitiveKeys <;> simp [hk]
  have hconfig : config.lookup key =
      if key ∈ sensitiveKeys then none else nonBlank (deployed values) key := by
    ext value
    rw [Sorted.lookup_eq_some h.config_sorted, h.mem_config]
    by_cases hk : key ∈ sensitiveKeys <;> simp [hk]
  rw [hsecret, hconfig]
  by_cases hk : key ∈ sensitiveKeys <;> simp [hk]

/-- **The manifests say what the file says.** Of the two, the Secret has the
sensitive keys and the ConfigMap the others, each with its value if that is not
blank, in order and each on one line, whatever characters the value has; the
two together have them all. -/
theorem manifests_read_back (hns : OneLine «namespace») (hv : parseEnvFile file = some values)
    (hkeys : PlainKeys values) (h : renderManifests «namespace» file = .ok m) :
    ∃ config secret, ReadBack m values config secret ∧
      ∀ key, (secret.lookup key).or (config.lookup key) = nonBlank (deployed values) key := by
  obtain ⟨config, secret, hread⟩ := rendered_readBack hns hv hkeys h
  exact ⟨config, secret, hread, hread.lookup⟩

theorem exLines_plain : PlainKeys (lastValue exLines) := plainKeys_lines (by decide +kernel)

theorem exLines_split : (splitValues (lastValue exLines)).isOk = true :=
  splitValues_isOk.mpr (by decide +kernel)

theorem exFile_read_back : ∃ m config secret, renderManifests "prod" exFile = .ok m ∧
    ReadBack m (lastValue exLines) config secret ∧ secret.lookup "JWT_SECRET" = some "b=c" ∧
      config.lookup "EMAIL_PROVIDER" = some "NOOP" ∧ config.lookup "SMTP_PORT" = none := by
  obtain ⟨m, h⟩ := renderManifests_isOk "prod" exFile_values exLines_split
  obtain ⟨config, secret, hread, -⟩ :=
    manifests_read_back (by decide) exFile_values exLines_plain h
  refine ⟨m, config, secret, h, hread, ?_, ?_, ?_⟩
  · rw [Sorted.lookup_eq_some hread.secret_sorted, hread.mem_secret]
    decide +kernel
  · rw [Sorted.lookup_eq_some hread.config_sorted, hread.mem_config]
    decide +kernel
  · refine Option.eq_none_iff_forall_ne_some.mpr fun value => ?_
    rw [ne_eq, Sorted.lookup_eq_some hread.config_sorted, hread.mem_config,
      show nonBlank (deployed (lastValue exLines)) "SMTP_PORT" = none by decide +kernel]
    simp

/-- **Each manifest says its own.** The ConfigMaps of two files are the same
text if and only if the files agree on the keys that are not sensitive, and the
Secrets if and only if they agree on those that are. -/
theorem manifests_say {file' : EnvFile} {values' : Values} {m' : Manifests}
    (hns : OneLine «namespace») (hv : parseEnvFile file = some values)
    (hv' : parseEnvFile file' = some values') (hkeys : PlainKeys values)
    (hkeys' : PlainKeys values') (h : renderManifests «namespace» file = .ok m)
    (h' : renderManifests «namespace» file' = .ok m') :
    (m.configmap = m'.configmap ↔ ∀ key ∉ sensitiveKeys,
      nonBlank (deployed values) key = nonBlank (deployed values') key) ∧
    (m.secret = m'.secret ↔ ∀ key ∈ sensitiveKeys,
      nonBlank (deployed values) key = nonBlank (deployed values') key) := by
  obtain ⟨config, secret, hread⟩ := rendered_readBack hns hv hkeys h
  obtain ⟨config', secret', hread'⟩ := rendered_readBack hns hv' hkeys' h'
  obtain ⟨s, c, hs, hconfigmap, hsecret⟩ := renderManifests_ok h hv
  obtain ⟨s', c', hs', hconfigmap', hsecret'⟩ := renderManifests_ok h' hv'
  have hmem := mem_splitItems hs hv
  have hmem' := mem_splitItems hs' hv'
  refine ⟨⟨fun heq key hk => ?_, fun hagree => ?_⟩, fun heq key hk => ?_, fun hagree => ?_⟩
  · have hitems : config = config' := by
      have hc := hread.read_config
      rw [heq, hread'.read_config] at hc
      exact (Option.some.inj hc).symm
    ext value
    have hiff := (hread.mem_config key value).symm.trans (hitems ▸ hread'.mem_config key value)
    simpa [hk] using hiff
  · have hitems : Sorted.items (manifestKeys file) c = Sorted.items (manifestKeys file') c' := by
      refine Sorted.eq_of_sorted (Sorted.items_sorted _ _) (Sorted.items_sorted _ _) ?_
      rintro ⟨key, value⟩
      rw [(hmem key value).1, (hmem' key value).1]
      exact and_congr_right fun hk => by rw [hagree key hk]
    rw [hconfigmap, hconfigmap', writeManifest, writeManifest, hitems]
  · have hitems : secret = secret' := by
      have hc := hread.read_secret
      rw [heq, hread'.read_secret] at hc
      exact (Option.some.inj hc).symm
    ext value
    have hiff := (hread.mem_secret key value).symm.trans (hitems ▸ hread'.mem_secret key value)
    simpa [hk] using hiff
  · have hitems : Sorted.items (manifestKeys file) s = Sorted.items (manifestKeys file') s' := by
      refine Sorted.eq_of_sorted (Sorted.items_sorted _ _) (Sorted.items_sorted _ _) ?_
      rintro ⟨key, value⟩
      rw [(hmem key value).2, (hmem' key value).2]
      exact and_congr_right fun hk => by rw [hagree key hk]
    rw [hsecret, hsecret', writeManifest, writeManifest, hitems]

/-- The same file with another secret at its end. -/
def exRotated : EnvFile := ⟨".env.prod", some (joinLines (exLines ++ ["JWT_SECRET=e"]))⟩

theorem exRotated_values : parseEnvFile exRotated =
    some ((lastValue exLines).set "JWT_SECRET" "e") := by
  have hlines : ∀ l ∈ exLines ++ ["JWT_SECRET=e"], OneLine l :=
    List.forall_mem_append.mpr ⟨exLines_oneLine, by decide +kernel⟩
  have hline : parseLine (lastValue exLines) "JWT_SECRET=e" =
      (lastValue exLines).set "JWT_SECRET" "e" := rfl
  rw [parseEnvFile_eq (loadEnvFile_text rfl), readLines_joinLines (by simp) hlines, lastValue_append,
    hline]

/-- Another secret: the same ConfigMap, another Secret. -/
theorem secret_rotated : ∃ m m', renderManifests "prod" exFile = .ok m ∧
    renderManifests "prod" exRotated = .ok m' ∧ m.configmap = m'.configmap ∧
      m.secret ≠ m'.secret := by
  have hother : ∀ key ≠ "JWT_SECRET",
      (lastValue exLines).set "JWT_SECRET" "e" key = lastValue exLines key :=
    fun key hkey => set_ne hkey _
  have hplain : PlainKeys ((lastValue exLines).set "JWT_SECRET" "e") := by
    intro key hkey
    by_cases hk : key = "JWT_SECRET"
    · rw [hk]; decide
    · rw [hother key hk] at hkey
      exact exLines_plain key hkey
  obtain ⟨m, h⟩ := renderManifests_isOk "prod" exFile_values exLines_split
  obtain ⟨m', h'⟩ := renderManifests_isOk "prod" exRotated_values
    (splitValues_isOk.mpr (by decide +kernel))
  obtain ⟨hconfig, hsecret⟩ := manifests_say (by decide) exFile_values exRotated_values exLines_plain
    hplain h h'
  refine ⟨m, m', h, h', hconfig.mpr fun key hkey => ?_, fun heq => ?_⟩
  · have hk : key ≠ "JWT_SECRET" := fun he => hkey (he ▸ by decide)
    rw [nonBlank, nonBlank, deployed_set (by decide) (by decide), set_ne hk]
  · have hvalue := hsecret.mp heq "JWT_SECRET" (by decide)
    revert hvalue
    decide +kernel

end Rendered

end ServiceOrderOs.Deploy
