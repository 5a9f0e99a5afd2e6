import Mathlib.Data.List.Induction
import Mathlib.Logic.Function.Basic
import ServiceOrderOs.L1Values.Lines

/-!
# Env files

`prepare_env.py` and `render_k8s_manifests.py` read the same format with a loop
each: a line is an assignment when it has an `=` and is neither blank nor a
comment. Files are UTF-8 and written with `\n`.

A dictionary is the function of its lookups: the scripts get, set and test
keys.

* `loadEnvFile_text`: what the loop collects, line by line.
* `parseEnvFile_eq`: both loops read the same values.
* `loadEnvFile_rewrite`: what is written is read back.
-/
namespace ServiceOrderOs.Deploy
open Py

/-- A `dict[str, str]`. -/
abbrev Values := String → Option String

/-- A path and the text of the file there, if there is one. -/
structure EnvFile where
  path : String
  text : Option String
  deriving DecidableEq, Repr

/-- The pairs `("raw", line)` and `("kv", key)`. -/
inductive Entry where
  | raw (line : String)
  | kv (key : String)
  deriving DecidableEq, Repr

/-- What leaves `prepare_env`: the error that `main` reports, or another one. -/
inductive Raised where
  | envValidationError (message : String)
  | uncaught (error message : String)
  deriving DecidableEq, Repr

/-- `env_path.read_text(encoding="utf-8").splitlines()` -/
def readLines (text : String) : List String :=
  splitlines (String.ofList (universalNewlines text.toList))

/-- `not stripped or stripped.startswith("#") or "=" not in raw_line` -/
def skipped (rawLine : String) : Bool :=
  let stripped := strip rawLine
  stripped == "" || startswith stripped "#" || !rawLine.toList.contains '='

/-- The stripped sides of the first `=`. -/
def assignment (rawLine : String) : String × String :=
  let (key, value) := splitOnce rawLine '='
  (strip key, strip value)

def loadLine (acc : List Entry × Values) (rawLine : String) : List Entry × Values :=
  if skipped rawLine then (acc.1 ++ [.raw rawLine], acc.2)
  else
    let (normalizedKey, value) := assignment rawLine
    (acc.1 ++ [.kv normalizedKey], Function.update acc.2 normalizedKey (some value))

/-- mirrors scripts/deploy/prepare_env.py:46-64 -/
def loadEnvFile (file : EnvFile) : Except Raised (List Entry × Values) :=
  match file.text with
  | none => .error (.envValidationError s!"Missing env file: {file.path}")
  | some text => .ok ((readLines text).foldl loadLine ([], fun _ => none))

def parseLine (values : Values) (rawLine : String) : Values :=
  if skipped rawLine then values
  else
    let (key, value) := assignment rawLine
    Function.update values key (some value)

/-- `none` is the `FileNotFoundError`.
mirrors scripts/deploy/render_k8s_manifests.py:49-57 -/
def parseEnvFile (file : EnvFile) : Option Values :=
  file.text.map fun text => (readLines text).foldl parseLine fun _ => none

def rewriteLine (values : Values) : Entry → String
  | .raw line => line
  | .kv key => key ++ "=" ++ (values key).getD ""

/-- The text written.
mirrors scripts/deploy/prepare_env.py:210-221 -/
def rewriteEnvFile (entries : List Entry) (values : Values) : String :=
  joinLines (entries.map (rewriteLine values))

/-! ## Line by line -/

def entryOf (rawLine : String) : Entry :=
  if skipped rawLine then .raw rawLine else .kv (assignment rawLine).1

/-- The assignments of some lines. -/
def assignments (lines : List String) : List (String × String) :=
  (lines.filter fun rawLine => !skipped rawLine).map assignment

/-- The last stripped value that some lines give a key. -/
def lastValue (lines : List String) : Values := fun key => (assignments lines).reverse.lookup key

@[simp] theorem assignment_fst (l : String) : (assignment l).1 = strip (splitOnce l '=').1 := rfl

@[simp] theorem assignment_snd (l : String) : (assignment l).2 = strip (splitOnce l '=').2 := rfl

theorem assignments_append (ls : List String) (l : String) :
    assignments (ls ++ [l]) = assignments ls ++ if skipped l then [] else [assignment l] := by
  rw [assignments, List.filter_append, List.map_append]
  cases hs : skipped l <;> simp [assignments, hs]

theorem lastValue_append (ls : List String) (l : String) :
    lastValue (ls ++ [l]) = parseLine (lastValue ls) l := by
  funext key
  unfold lastValue parseLine
  rw [assignments_append]
  cases skipped l with
  | true => simp
  | false =>
    simp only [Bool.false_eq_true, if_false, List.reverse_append, List.reverse_cons,
      List.reverse_nil, List.nil_append, List.cons_append, Function.update_apply]
    obtain ⟨key', value⟩ := assignment l
    rw [List.lookup_cons]
    by_cases hk : key = key'
    · rw [beq_iff_eq.mpr hk, if_pos hk]
    · rw [beq_false_of_ne hk, if_neg hk]

theorem foldl_parseLine (lines : List String) :
    lines.foldl parseLine (fun _ => none) = lastValue lines := by
  induction lines using List.reverseRecOn with
  | nil => rfl
  | append_singleton ls l ih =>
    rw [List.foldl_append, ih, lastValue_append, List.foldl_cons, List.foldl_nil, parseLine]

theorem foldl_loadLine (lines : List String) :
    lines.foldl loadLine ([], fun _ => none) = (lines.map entryOf, lastValue lines) := by
  induction lines using List.reverseRecOn with
  | nil => rfl
  | append_singleton ls l ih =>
    rw [List.foldl_append, ih, lastValue_append, List.map_append]
    simp only [List.foldl_cons, List.foldl_nil, loadLine, parseLine, List.map_cons, List.map_nil,
      entryOf]
    split <;> rfl

theorem loadEnvFile_text {file : EnvFile} {text : String} (h : file.text = some text) :
    loadEnvFile file = .ok ((readLines text).map entryOf, lastValue (readLines text)) := by
  rw [loadEnvFile, h]
  exact congrArg Except.ok (foldl_loadLine _)

theorem loadEnvFile_ok {file : EnvFile} {entries : List Entry} {values : Values}
    (h : loadEnvFile file = .ok (entries, values)) : ∃ text, file.text = some text ∧
      entries = (readLines text).map entryOf ∧ values = lastValue (readLines text) := by
  cases ht : file.text with
  | none => rw [loadEnvFile, ht] at h; cases h
  | some text =>
    rw [loadEnvFile_text ht, Except.ok.injEq, Prod.mk.injEq] at h
    exact ⟨text, rfl, h.1.symm, h.2.symm⟩

theorem parseEnvFile_eq {file : EnvFile} {entries : List Entry} {values : Values}
    (h : loadEnvFile file = .ok (entries, values)) : parseEnvFile file = some values := by
  obtain ⟨text, ht, -, rfl⟩ := loadEnvFile_ok h
  rw [parseEnvFile, ht, Option.map_some, foldl_parseLine]

theorem lastValue_some {lines : List String} {key value : String}
    (h : lastValue lines key = some value) :
    ∃ l ∈ lines, skipped l = false ∧ assignment l = (key, value) := by
  have hmem : (key, value) ∈ assignments lines := by
    rw [← List.mem_reverse]
    obtain ⟨l₁, l₂, heq, -⟩ := List.lookup_eq_some_iff.mp h
    rw [heq]
    simp
  obtain ⟨l, hl, heq⟩ := List.mem_map.mp hmem
  have := List.mem_filter.mp hl
  exact ⟨l, this.1, by simpa using this.2, heq⟩

theorem lastValue_isSome {lines : List String} {key : String} :
    (lastValue lines key).isSome ↔ Entry.kv key ∈ lines.map entryOf := by
  unfold lastValue
  rw [List.lookup_isSome_iff]
  simp only [List.mem_reverse, assignments, List.mem_map, List.mem_filter, entryOf]
  constructor
  · rintro ⟨p, ⟨l, ⟨hl, hs⟩, rfl⟩, hk⟩
    refine ⟨l, hl, ?_⟩
    rw [if_neg (by simpa using hs), Entry.kv.injEq]
    exact (beq_iff_eq.mp hk).symm
  · rintro ⟨l, hl, he⟩
    split at he
    · cases he
    · rename_i hs
      rw [Entry.kv.injEq] at he
      exact ⟨assignment l, ⟨l, ⟨hl, by simpa using hs⟩, rfl⟩, beq_iff_eq.mpr he.symm⟩

/-! ## Writing and reading back -/

/-- A value that stands on a line as it is. -/
structure Writable (value : String) : Prop where
  strip : strip value = value
  oneLine : OneLine value

/-- An entry that is read back from the line written for it. -/
inductive Entry.Wf : Entry → Prop
  | raw {line : String} : OneLine line → skipped line = true → Wf (.raw line)
  | kv {key : String} : Writable key → '=' ∉ key.toList → startswith key "#" = false → Wf (.kv key)

theorem startswith_hash (s : String) : startswith s "#" = true ↔ s.toList.head? = some '#' := by
  unfold startswith
  cases s.toList with
  | nil => decide
  | cons c cs =>
    show ('#' == c && true) = true ↔ some c = some '#'
    rw [Bool.and_true, beq_iff_eq, Option.some.injEq]
    exact eq_comm

theorem writable_strip {s : String} (h : OneLine s) : Writable (strip s) :=
  ⟨strip_strip s, fun c hc => h c (mem_strip hc)⟩

theorem skipped_false {l : String} (h : skipped l = false) : strip l ≠ "" ∧
    startswith (strip l) "#" = false ∧ '=' ∈ l.toList := by
  simpa [skipped, and_assoc] using h

theorem oneLine_splitOnce {l : String} (h : OneLine l) (c : Char) :
    OneLine (splitOnce l c).1 ∧ OneLine (splitOnce l c).2 := by
  constructor
  · intro d hd
    rw [splitOnce, String.toList_ofList] at hd
    exact h d ((List.takeWhile_sublist _).subset hd)
  · intro d hd
    rw [splitOnce, String.toList_ofList] at hd
    exact h d ((List.dropWhile_suffix _).subset (List.mem_of_mem_tail hd))

/-- The key of an assignment starts where its line does. -/
theorem startswith_key {l : String} (h : skipped l = false) :
    startswith (assignment l).1 "#" = false := by
  obtain ⟨-, hhash, -⟩ := skipped_false h
  rw [← Bool.not_eq_true, startswith_hash] at hhash ⊢
  intro hkey
  apply hhash
  rw [assignment_fst] at hkey
  rw [head?_strip] at hkey ⊢
  simp only [splitOnce, String.toList_ofList] at hkey
  have happ := List.takeWhile_append_dropWhile (p := (· ≠ '=')) (l := l.toList)
  rw [← happ, List.dropWhile_append]
  cases hd : (l.toList.takeWhile (· ≠ '=')).dropWhile isspace with
  | nil => rw [hd] at hkey; cases hkey
  | cons c cs =>
    rw [hd] at hkey
    exact hkey

theorem entryOf_wf {l : String} (h : OneLine l) : (entryOf l).Wf := by
  unfold entryOf
  split
  · rename_i hs
    exact .raw h hs
  · rename_i hs
    rw [Bool.not_eq_true] at hs
    refine .kv (writable_strip (oneLine_splitOnce h '=').1) ?_ (startswith_key hs)
    intro hmem
    rw [assignment_fst] at hmem
    have := mem_strip hmem
    rw [splitOnce, String.toList_ofList] at this
    simpa using List.mem_takeWhile_imp this

theorem lastValue_writable {lines : List String} (h : ∀ l ∈ lines, OneLine l) {key value : String}
    (hv : lastValue lines key = some value) : Writable value := by
  obtain ⟨l, hl, -, ha⟩ := lastValue_some hv
  have hval : value = strip (splitOnce l '=').2 := (congrArg Prod.snd ha).symm
  rw [hval]
  exact writable_strip (oneLine_splitOnce (h l hl) '=').2

section Line
variable {key value : String}

theorem toList_line : (key ++ "=" ++ value).toList = key.toList ++ '=' :: value.toList := by
  simp [String.toList_append]

theorem splitOnce_line (h : '=' ∉ key.toList) : splitOnce (key ++ "=" ++ value) '=' = (key, value) := by
  have hne : ∀ c ∈ key.toList, decide (c ≠ '=') = true := by
    intro c hc
    rw [decide_eq_true_eq]
    rintro rfl
    exact h hc
  rw [splitOnce, toList_line, List.takeWhile_append_of_pos hne, List.dropWhile_append_of_pos hne]
  simp

theorem skipped_line (hs : strip key = key) (hk : startswith key "#" = false) :
    skipped (key ++ "=" ++ value) = false := by
  have hhead : ((key ++ "=" ++ value).toList.dropWhile isspace).head? =
      some (key.toList.head?.getD '=') := by
    rw [toList_line]
    cases hc : key.toList with
    | nil => rfl
    | cons c cs =>
      have hc' : isspace c = false := by
        have := head?_strip key
        rw [hs, hc] at this
        exact head?_dropWhile this.symm
      rw [List.cons_append, List.dropWhile_cons, hc']
      rfl
  have hstrip := (head?_strip (key ++ "=" ++ value)).trans hhead
  rw [skipped, Bool.or_eq_false_iff, Bool.or_eq_false_iff]
  refine ⟨⟨?_, ?_⟩, by simp⟩
  · rw [beq_eq_false_iff_ne]
    intro he
    rw [he] at hstrip
    cases hstrip
  · rw [← Bool.not_eq_true, startswith_hash] at hk ⊢
    intro he
    rw [hstrip, Option.some.injEq] at he
    cases hc : key.toList with
    | nil => rw [hc] at he; exact absurd he (by decide)
    | cons c cs => rw [hc] at he hk; exact hk (congrArg some he)

end Line

theorem oneLine_append {s t : String} (hs : OneLine s) (ht : OneLine t) : OneLine (s ++ t) := by
  intro c hc
  rw [String.toList_append, List.mem_append] at hc
  exact hc.elim (hs c) (ht c)

/-- Some entries and the values of their keys, that can be written down. -/
structure Clean (entries : List Entry) (values : Values) : Prop where
  wf : ∀ e ∈ entries, e.Wf
  present : ∀ key, Entry.kv key ∈ entries → (values key).isSome
  writable : ∀ key value, values key = some value → Writable value

theorem loadEnvFile_clean {file : EnvFile} {entries : List Entry} {values : Values}
    (h : loadEnvFile file = .ok (entries, values)) : Clean entries values := by
  obtain ⟨text, -, hentries, hvalues⟩ := loadEnvFile_ok h
  rw [hentries, hvalues]
  have hlines : ∀ l ∈ readLines text, OneLine l := fun l hl => splitlines_oneLine hl
  refine ⟨?_, fun key hkey => lastValue_isSome.mpr hkey, fun key value => lastValue_writable hlines⟩
  intro e he
  obtain ⟨l, hl, rfl⟩ := List.mem_map.mp he
  exact entryOf_wf (hlines l hl)

section Rewrite
variable {entries : List Entry} {values : Values}

theorem rewriteLine_oneLine (h : Clean entries values) {e : Entry} (he : e ∈ entries) :
    OneLine (rewriteLine values e) := by
  cases h.wf e he with
  | raw hline _ => exact hline
  | @kv key hkey _ _ =>
    obtain ⟨value, hv⟩ := Option.isSome_iff_exists.mp (h.present key he)
    rw [rewriteLine, hv]
    refine oneLine_append (oneLine_append hkey.oneLine ?_) (h.writable key value hv).oneLine
    intro c hc
    rw [List.mem_singleton.mp hc]
    decide

theorem entryOf_rewriteLine (h : Clean entries values) {e : Entry} (he : e ∈ entries) :
    entryOf (rewriteLine values e) = e := by
  cases h.wf e he with
  | raw _ hs => exact if_pos hs
  | kv hkey heq hhash =>
    rw [entryOf, rewriteLine, skipped_line hkey.strip hhash]
    rw [if_neg Bool.false_ne_true, assignment, splitOnce_line heq]
    exact congrArg Entry.kv hkey.strip

theorem assignments_rewriteLine (h : Clean entries values) {key : String}
    (he : Entry.kv key ∈ entries) :
    assignment (rewriteLine values (.kv key)) = (key, (values key).getD "") := by
  cases h.wf _ he with
  | kv hkey heq hhash =>
    obtain ⟨value, hv⟩ := Option.isSome_iff_exists.mp (h.present key he)
    rw [rewriteLine, assignment, splitOnce_line heq, hv]
    exact Prod.ext hkey.strip (h.writable key value hv).strip

/-- The values of the keys in a file. -/
def onKeys (entries : List Entry) (values : Values) : Values := fun key =>
  if Entry.kv key ∈ entries then values key else none

theorem map_entryOf_rewriteLine (h : Clean entries values) :
    (entries.map (rewriteLine values)).map entryOf = entries := by
  rw [List.map_map]
  refine Eq.trans (List.map_congr_left fun e he => ?_) (List.map_id entries)
  rw [Function.comp_apply, entryOf_rewriteLine h he, id]

theorem lastValue_rewrite (h : Clean entries values) :
    lastValue (entries.map (rewriteLine values)) = onKeys entries values := by
  have hentries := map_entryOf_rewriteLine h
  funext key
  unfold onKeys
  split
  · rename_i hk
    obtain ⟨value, hv⟩ := Option.isSome_iff_exists.mp (h.present key hk)
    cases hl : lastValue (entries.map (rewriteLine values)) key with
    | none =>
      have := lastValue_isSome.mpr (hentries.symm ▸ hk)
      rw [hl] at this
      cases this
    | some value' =>
      obtain ⟨l, hmem, hs, ha⟩ := lastValue_some hl
      obtain ⟨e, he, rfl⟩ := List.mem_map.mp hmem
      cases hw : e with
      | raw line =>
        rw [hw] at he hs
        cases h.wf _ he with
        | raw _ hraw =>
          rw [rewriteLine, hraw] at hs
          cases hs
      | kv key' =>
        rw [hw] at he ha
        rw [assignments_rewriteLine h he, Prod.mk.injEq] at ha
        obtain ⟨rfl, hval⟩ := ha
        rw [hv] at hval ⊢
        exact congrArg some hval.symm
  · rename_i hk
    rw [← Option.not_isSome_iff_eq_none, lastValue_isSome, hentries]
    exact hk

theorem readLines_joinLines {lines : List String} (hne : lines ≠ [])
    (h : ∀ l ∈ lines, OneLine l) : readLines (joinLines lines) = lines := by
  rw [readLines, universalNewlines_joinLines hne h, String.ofList_toList,
    splitlines_joinLines hne h]

theorem loadEnvFile_rewrite (h : Clean entries values) (hne : entries ≠ []) {file : EnvFile}
    (ht : file.text = some (rewriteEnvFile entries values)) :
    loadEnvFile file = .ok (entries, onKeys entries values) := by
  have hone : ∀ l ∈ entries.map (rewriteLine values), OneLine l := by
    intro l hl
    obtain ⟨e, he, rfl⟩ := List.mem_map.mp hl
    exact rewriteLine_oneLine h he
  have hlines : readLines (rewriteEnvFile entries values) = entries.map (rewriteLine values) :=
    readLines_joinLines (by simpa using hne) hone
  rw [loadEnvFile_text ht, hlines, lastValue_rewrite h, map_entryOf_rewriteLine h]

end Rewrite
end ServiceOrderOs.Deploy
