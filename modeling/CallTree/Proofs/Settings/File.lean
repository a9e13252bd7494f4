/-
# CallTree.Proofs.Settings.File — settings that are saved and loaded again.

Settings come from a table, from a file, or from other settings with an environment over them
(`Settings.Obtained`), and are in normal form however they come about: every value has been read
(`Obtained.read_value`). So they are the settings that their own table gives, and an environment that says
nothing leaves them alone.

A file with this table gives the settings back. That the file has this table is asked of the format of files
(`Format.Inverts`); it is the only thing that is.
-/
import CallTree.Proofs.Settings
import CallTree.Settings.File

namespace CallTree.Settings

variable {F : Format}

/-! ## Files -/

/-- **A table that a format of files keeps**: it has a document, which is read as the table again. -/
def Format.Inverts (F : Format) (data : Table Value) : Prop :=
  ∃ text, F.print data = .ok text ∧ F.read (Text.ofFile text) = .ok (.object data)

/-- **What a settings file says**: what the mapping in it says. No file says nothing, and so does a file with
nothing in it. -/
inductive Says (F : Format) : Option String → Table Value → Prop where
  | missing : Says F none []
  | mapping {text : String} {data : Table Value}
      (reads : F.read (Text.ofFile text) = .ok (.object data)) : Says F (some text) data
  | nothing {text : String} {v : Value} (reads : F.read (Text.ofFile text) = .ok v)
      (falsy : v.truthy = false) : Says F (some text) []

/-- What is read from a file that may be missing. -/
def contents (F : Format) : Option String → Except (FileFault F) Value
  | some text => readFile F text
  | none => .ok (.object [])

theorem load_eq (file : Option String) (env : Table Value) : load F file env =
    contents F file >>= fun data => (ofValue data).mapError .setting >>= fun s =>
      (s.withEnv env).mapError .setting := by
  cases file <;> rfl

theorem contents_eq_ok_iff {file : Option String} {data : Table Value} :
    contents F file = .ok (.object data) ↔ Says F file data := by
  constructor
  · intro reads
    cases file with
    | none =>
      cases reads
      exact .missing
    | some text =>
      simp only [contents, readFile] at reads
      split at reads
      · cases reads
      · rename_i v found
        simp only [Except.ok.injEq] at reads
        split at reads
        · subst reads
          exact .mapping found
        · rename_i falsy
          cases reads
          exact .nothing found (Bool.eq_false_iff.2 falsy)
  · rintro (_ | reads | ⟨reads, falsy⟩)
    · rfl
    · cases data <;> simp [contents, readFile, reads, Value.truthy]
    · simp [contents, readFile, reads, falsy]

/-- A file says one thing. -/
theorem Says.unique {file : Option String} {data data' : Table Value} (one : Says F file data)
    (other : Says F file data') : data = data' := by
  have same := (contents_eq_ok_iff.2 one).symm.trans (contents_eq_ok_iff.2 other)
  exact Value.object.inj (Except.ok.inj same)

/-- **Loading** reads what the file says and puts the environment over it. -/
theorem load_eq_ok_iff {file : Option String} {env : Table Value} {t : Settings} :
    load F file env = .ok t ↔
      ∃ data s, Says F file data ∧ ofTable data = .ok s ∧ s.withEnv env = .ok t := by
  simp only [load_eq, bind_eq_ok_iff, mapError_eq_ok_iff, ← contents_eq_ok_iff]
  constructor
  · rintro ⟨v, reads, s, gives, overlaid⟩
    cases v with
    | object data => exact ⟨data, s, reads, gives, overlaid⟩
    | _ => cases gives
  · rintro ⟨data, s, reads, gives, overlaid⟩
    exact ⟨_, reads, s, gives, overlaid⟩

/-! ## Settings in normal form -/

/-- **The ways in which settings come about** that bring every value to its kind. -/
inductive Obtained (F : Format) (s : Settings) : Prop where
  | table {data : Value} (reads : ofValue data = .ok s)
  | environment {before : Settings} {env : Table Value} (overlaid : before.withEnv env = .ok s)
  | file {file : Option String} {env : Table Value} (loads : load F file env = .ok s)

/-- An environment that says nothing of settings. -/
def Silent (env : Table Value) : Prop := ∀ name ∈ envNames, env.get? name = none

theorem Silent.fromEnv? {env : Table Value} (silent : Silent env) (k : Key) : k.fromEnv? env = none := by
  cases k with
  | origins => rfl
  | _ => exact silent _ (by decide)

/-- **Values in normal form**: reading changes none of them. -/
theorem Obtained.read_value {s : Settings} (obtained : s.Obtained F) (k : Key) :
    k.read (k.value s) = .ok (k.value s) := by
  cases obtained with
  | @table data reads =>
    cases data with
    | object fs => exact Key.read_read (ofTable_eq_ok_iff.1 reads k)
    | _ => cases reads
  | environment overlaid => exact Key.read_of_under (withEnv_eq_ok_iff.1 overlaid k)
  | file loads =>
    obtain ⟨_, _, -, -, overlaid⟩ := load_eq_ok_iff.1 loads
    exact Key.read_of_under (withEnv_eq_ok_iff.1 overlaid k)

theorem Obtained.canonical {s : Settings} (obtained : s.Obtained F) : Canonical s.path.toList := by
  have same : "/" ++ stripSlashes s.path = s.path := Value.text.inj (Except.ok.inj (obtained.read_value .path))
  rw [← same]
  exact canonical_path s.path

/-- A silent environment leaves them alone. -/
theorem Obtained.withEnv {s : Settings} (obtained : s.Obtained F) {env : Table Value} (silent : Silent env) :
    s.withEnv env = .ok s := by
  refine withEnv_eq_ok_iff.2 fun k => ?_
  rw [Key.under, silent.fromEnv? k]
  exact obtained.read_value k

/-- They are what their table gives. -/
theorem Obtained.exists_toTable {s : Settings} (obtained : s.Obtained F) :
    ∃ data, s.toTable = .ok data ∧ ofTable data = .ok s := by
  obtain ⟨items, reads, same⟩ := map_eq_ok_iff.1 (obtained.read_value .origins)
  refine ⟨s.written items, toTable_eq_ok_iff.2 ⟨items, reads, rfl⟩, ofTable_eq_ok_iff.2 fun k => ?_⟩
  cases k with
  | origins => exact congrArg Except.ok same
  | _ => exact obtained.read_value _

/-- **Normal form.** Settings that come from a table, from a file or from an environment over others have a
path in its form, are what their own table gives, and are left alone by an environment that says nothing. If
the format of files keeps their table, then they can be saved and loaded: the file gives the same settings,
and these give the same file. -/
theorem normal_form {s : Settings} (obtained : s.Obtained F) {env : Table Value} (silent : Silent env) :
    Canonical s.path.toList ∧ s.withEnv env = .ok s ∧
      ∃ data, s.toTable = .ok data ∧ ofTable data = .ok s ∧
        (F.Inverts data → ∃ text, s.save F = .ok text ∧ load F (some text) env = .ok s ∧
          ∀ t, load F (some text) env = .ok t → t.save F = .ok text) := by
  obtain ⟨data, writes, gives⟩ := obtained.exists_toTable
  refine ⟨obtained.canonical, obtained.withEnv silent, data, writes, gives, ?_⟩
  rintro ⟨text, prints, reads⟩
  have saves : s.save F = .ok text := by
    rw [save, writes]
    simp only [Except.mapError, bind, Except.bind, prints]
  have loads : load F (some text) env = .ok s :=
    load_eq_ok_iff.2 ⟨data, s, .mapping reads, gives, obtained.withEnv silent⟩
  refine ⟨_, saves, loads, fun t again => ?_⟩
  rw [loads] at again
  cases again
  exact saves

/-- Values for some of the keys, none of them in normal form. -/
def given : Table Value := [
  ("path", .text "//api/"), ("port", .text "8100"), ("ui", .text "yes"), ("cors_origins", .tuple []),
  ("request_timeout", .int 30), ("log_level", .text "debug")]

/-- The settings that they give. -/
def taken : Settings :=
  { default with
    port := .int 8100
    path := "/api"
    ui := .bool true
    corsOrigins := .list []
    requestTimeout := .float (.finite false (30 * Binary64.one))
    logLevel := .text "DEBUG" }

theorem normal_form_given : ofTable given = .ok taken ∧ Canonical taken.path.toList ∧
    ∃ text, taken.save .yaml = .ok text ∧ load .yaml (some text) [("HOME", .text "/root")] = .ok taken := by
  have reads : ofValue (.object given) = .ok taken := toOption_eq_some_iff.1 (by decide +kernel)
  have silent : Silent [("HOME", .text "/root")] := by unfold Silent; decide
  obtain ⟨canonical, -, data, writes, -, reload⟩ := @normal_form .yaml _ (.table reads) _ silent
  have inverts : Format.yaml.Inverts data := by
    cases writes
    exact ⟨_, rfl, toOption_eq_some_iff.1 (by decide +kernel)⟩
  obtain ⟨text, saves, again, -⟩ := reload inverts
  exact ⟨reads, canonical, text, saves, again⟩

end CallTree.Settings
