/-
# CallTree.Proofs.Settings.Environment — where each setting comes from.

A setting has three sources, of which the first that says something counts: its variable of the environment,
the settings file, and the default (`Key.layered`). So it is with every setting by itself
(`load_eq_ok_iff_layered`): what is said of one does not count for another.

An environment over another says what the upper one says, and else what the lower one says (`Overlays`).
Putting the lower one over settings and then the upper one is the same as putting both over them at once.
-/
import CallTree.Proofs.Settings.File

namespace CallTree.Settings

variable {F : Format} {lower upper env : Table Value} {k : Key}

/-! ## One environment over another -/

/-- **An environment that is made of two**: the upper one goes before the lower one. -/
def Overlays (upper lower env : Table Value) : Prop :=
  ∀ name, env.get? name = (upper.get? name).or (lower.get? name)

/-- Writing one environment over another puts it there. -/
theorem overlays_merge (once : upper.keys.Nodup) : Overlays upper lower (lower.merge upper) :=
  Table.get?_merge once

theorem Overlays.fromEnv? (both : Overlays upper lower env) (k : Key) :
    k.fromEnv? env = (k.fromEnv? upper).or (k.fromEnv? lower) := by
  cases k with
  | origins => rfl
  | _ => exact both _

namespace Key

/-- A value that is in normal form, under an environment. -/
theorem under_of_read {v : Value} (normal : k.read v = .ok v) :
    k.under env v = ((k.fromEnv? env).map k.readVariable).getD (.ok v) := by
  unfold under
  cases k.fromEnv? env with
  | some x => rfl
  | none => exact normal

/-- **A key under one environment and then another** is what it is under both at once. -/
theorem under_overlays (both : Overlays upper lower env) {v w x : Value} (first : k.under lower v = .ok w)
    (second : k.under upper w = .ok x) : k.under env v = .ok x := by
  have normal := read_of_under first
  rw [under_of_read normal] at second
  rw [under, both.fromEnv? k]
  cases set : k.fromEnv? upper with
  | some y =>
    rw [set] at second
    exact second
  | none =>
    rw [set] at second
    cases second
    exact first

/-- Being under the same environment again changes nothing. -/
theorem under_under {v w : Value} (first : k.under env v = .ok w) : k.under env w = .ok w := by
  rw [under_of_read (read_of_under first)]
  unfold under at first
  cases set : k.fromEnv? env with
  | some x =>
    rw [set] at first
    exact first
  | none => rfl

/-! ## Sources -/

/-- **The value of a key** from what the environment and the file say of it: the variable, or else what the
file has, or else the default. -/
def layered (k : Key) : Option Value → Option Value → Except Fault Value
  | some x, _ => k.readVariable x
  | none, some v => k.read v
  | none, none => .ok (k.value default)

/-- The defaults are in normal form. -/
theorem read_default (k : Key) : k.read (k.value default) = .ok (k.value default) := by
  cases k with
  | path => exact toOption_eq_some_iff.1 (by decide +kernel)
  | level => exact toOption_eq_some_iff.1 (by decide +kernel)
  | _ => rfl

theorem layered_none (k : Key) (data : Table Value) :
    k.layered none (data.get? k.name) = k.read (k.lookUp data) := by
  unfold lookUp
  cases data.get? k.name with
  | some v => rfl
  | none => exact (read_default k).symm

end Key

/-- A table gives settings exactly if each of its values can be read. -/
theorem ofTable_succeeds_iff {data : Table Value} :
    (∃ s, ofTable data = .ok s) ↔ ∀ k : Key, ∃ w, k.read (k.lookUp data) = .ok w := by
  constructor
  · rintro ⟨s, reads⟩ k
    exact ⟨_, ofTable_eq_ok_iff.1 reads k⟩
  · intro each
    choose w reads using each
    obtain ⟨path, -, isText⟩ := map_eq_ok_iff.1 (reads .path)
    let s : Settings :=
      { host := w .host, port := w .port, path, ui := w .ui, corsOrigins := w .origins,
        requestTimeout := w .timeout, logLevel := w .level }
    refine ⟨s, ofTable_eq_ok_iff.2 fun k => ?_⟩
    cases k with
    | path => exact (reads .path).trans (congrArg Except.ok isText.symm)
    | _ => exact reads _

/-- **Loading, key by key.** Settings are loaded exactly if the file says something, every value in it can be
read, and each key reads the first of its sources. -/
theorem load_eq_ok_iff_layered {file : Option String} {t : Settings} :
    load F file env = .ok t ↔ ∃ data, Says F file data ∧ ∀ k : Key,
      (∃ w, k.read (k.lookUp data) = .ok w) ∧
        k.layered (k.fromEnv? env) (data.get? k.name) = .ok (k.value t) := by
  have layers {data : Table Value} {s : Settings} (reads : ofTable data = .ok s) (k : Key) :
      k.under env (k.value s) = k.layered (k.fromEnv? env) (data.get? k.name) := by
    have here := ofTable_eq_ok_iff.1 reads k
    unfold Key.under
    cases k.fromEnv? env with
    | some x => rfl
    | none =>
      show k.read (k.value s) = k.layered none _
      rw [Key.layered_none, here, Key.read_read here]
  rw [load_eq_ok_iff]
  refine exists_congr fun data => ?_
  rw [forall_and, ← ofTable_succeeds_iff]
  constructor
  · rintro ⟨s, said, reads, overlaid⟩
    exact ⟨said, ⟨s, reads⟩, fun k => layers reads k ▸ withEnv_eq_ok_iff.1 overlaid k⟩
  · rintro ⟨said, ⟨s, reads⟩, each⟩
    exact ⟨s, said, reads, withEnv_eq_ok_iff.2 fun k => (layers reads k).trans (each k)⟩

/-- **Two loads agree** on each key of which their sources say the same. -/
theorem value_eq_of_sources {file file' : Option String} {env' data data' : Table Value} {t t' : Settings}
    (said : Says F file data) (said' : Says F file' data') (loads : load F file env = .ok t)
    (loads' : load F file' env' = .ok t') (sameVariable : k.fromEnv? env = k.fromEnv? env')
    (sameEntry : data.get? k.name = data'.get? k.name) : k.value t = k.value t' := by
  obtain ⟨_, read, each⟩ := load_eq_ok_iff_layered.1 loads
  obtain ⟨_, read', each'⟩ := load_eq_ok_iff_layered.1 loads'
  cases read.unique said
  cases read'.unique said'
  have here := (each k).2
  rw [sameVariable, sameEntry, (each' k).2] at here
  exact (Except.ok.inj here).symm

/-- A blank time limit in the environment is none, whatever the file says. -/
theorem requestTimeout_of_blank {file : Option String} {t : Settings} {s : String} (blank : Text.strip s = "")
    (set : Key.timeout.fromEnv? env = some (.text s)) (loads : load F file env = .ok t) :
    t.requestTimeout = .null := by
  obtain ⟨_, -, each⟩ := load_eq_ok_iff_layered.1 loads
  have here := (each .timeout).2
  rw [set] at here
  simp only [Key.layered, Key.readVariable, readEnvTimeout, blank, if_true, Except.ok.injEq] at here
  exact here.symm

/-- **The environment acts key by key.** One environment over settings and another over the result is both
over the settings at once, and so the same environment a second time changes nothing. Settings are loaded
exactly if every value in the file can be read and each key reads the first of its sources, which are its
variable, the file and the default; a blank time limit in the environment is none. What a key is does not
depend on the sources of others, and the origins do not depend on the environment. -/
theorem environment_exact (F : Format) :
    (∀ {s t u : Settings} {lower upper env : Table Value}, Overlays upper lower env →
      s.withEnv lower = .ok t → t.withEnv upper = .ok u → s.withEnv env = .ok u) ∧
    (∀ {s t : Settings} {env : Table Value}, s.withEnv env = .ok t → t.withEnv env = .ok t) ∧
    (∀ {file : Option String} {env : Table Value} {t : Settings}, load F file env = .ok t ↔
      ∃ data, Says F file data ∧ ∀ k : Key, (∃ w, k.read (k.lookUp data) = .ok w) ∧
        k.layered (k.fromEnv? env) (data.get? k.name) = .ok (k.value t)) ∧
    (∀ {file : Option String} {env : Table Value} {t : Settings} {s : String}, Text.strip s = "" →
      Key.timeout.fromEnv? env = some (.text s) → load F file env = .ok t → t.requestTimeout = .null) ∧
    (∀ {file file' : Option String} {env env' data data' : Table Value} {t t' : Settings} {k : Key},
      Says F file data → Says F file' data' → load F file env = .ok t → load F file' env' = .ok t' →
      k.fromEnv? env = k.fromEnv? env' → data.get? k.name = data'.get? k.name →
      k.value t = k.value t') ∧
    (∀ {file : Option String} {env env' : Table Value} {t t' : Settings}, load F file env = .ok t →
      load F file env' = .ok t' → t.corsOrigins = t'.corsOrigins) := by
  refine ⟨?_, ?_, load_eq_ok_iff_layered, requestTimeout_of_blank, value_eq_of_sources, ?_⟩
  · intro s t u lower upper env both first second
    exact withEnv_eq_ok_iff.2 fun k =>
      Key.under_overlays both (withEnv_eq_ok_iff.1 first k) (withEnv_eq_ok_iff.1 second k)
  · intro s t env first
    exact withEnv_eq_ok_iff.2 fun k => Key.under_under (withEnv_eq_ok_iff.1 first k)
  · intro file env env' t t' loads loads'
    obtain ⟨_, said, -⟩ := load_eq_ok_iff_layered.1 loads
    exact value_eq_of_sources (k := .origins) said said loads loads' rfl rfl

/-- Variables of a process. -/
def ofProcess : Table Value := [("TYPEGRAPH_PORT", .text "81"), ("TYPEGRAPH_UI", .text "yes")]

/-- Variables that go before those of the process. -/
def ofHost : Table Value :=
  [("TYPEGRAPH_PORT", .text " 82 "), ("TYPEGRAPH_REQUEST_TIMEOUT", .text " "), ("HOME", .text "/root")]

/-- A file with a limit. -/
def limiting : String := "request_timeout: 30"

/-- The settings of the file. -/
def limited : Settings := { default with requestTimeout := .float (.finite false (30 * Binary64.one)) }

/-- The settings with the variables of the host. -/
def hosted : Settings := { default with port := .int 82 }

theorem environment_exact_given :
    default.withEnv (ofProcess.merge ofHost) = .ok { hosted with ui := .bool true } ∧
    hosted.withEnv ofHost = .ok hosted ∧
    (∃ data, Says .yaml (some limiting) data ∧ ∀ k : Key, ∃ w, k.read (k.lookUp data) = .ok w) ∧
    hosted.requestTimeout = .null ∧ Key.level.value hosted = Key.level.value default ∧
    hosted.corsOrigins = limited.corsOrigins := by
  obtain ⟨composes, again, exact, blank, apart, origins⟩ := environment_exact .yaml
  have first : default.withEnv ofProcess = .ok { default with port := .int 81, ui := .bool true } :=
    toOption_eq_some_iff.1 (by decide +kernel)
  have second : ({ default with port := .int 81, ui := .bool true } : Settings).withEnv ofHost =
      .ok { hosted with ui := .bool true } := toOption_eq_some_iff.1 (by decide +kernel)
  have overlaid : default.withEnv ofHost = .ok hosted := toOption_eq_some_iff.1 (by decide +kernel)
  have loads : load .yaml (some limiting) ofHost = .ok hosted := toOption_eq_some_iff.1 (by decide +kernel)
  have unset : load .yaml (some limiting) [] = .ok limited := toOption_eq_some_iff.1 (by decide +kernel)
  have bare : load .yaml none [] = .ok default := toOption_eq_some_iff.1 (by decide +kernel)
  obtain ⟨data, said, each⟩ := exact.1 loads
  refine ⟨composes (overlays_merge (by decide)) first second, again overlaid, ⟨data, said, fun k => (each k).1⟩,
    blank (s := " ") (by decide +kernel) (by decide +kernel) loads, ?_, origins loads unset⟩
  -- Neither the file nor the host says anything of the level.
  have silent : data.get? Key.level.name = none := by
    have read : Says .yaml (some limiting) [("request_timeout", .int 30)] :=
      .mapping (toOption_eq_some_iff.1 (by decide +kernel))
    rw [said.unique read]
    decide +kernel
  exact apart said .missing loads bare (by decide +kernel) silent

end CallTree.Settings
