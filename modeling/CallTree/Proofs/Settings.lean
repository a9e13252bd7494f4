/-
# CallTree.Proofs.Settings — settings one by one.

Settings are read from a table all at once, and overridden by the environment one after the other. Here both
are taken apart by keys (`Settings.Key`). Each key has a way to read a value (`Key.read`), a variable of
the environment unless it is that of the origins, and a way to read that (`Key.readVariable`). A table gives
settings exactly if every key reads its own value (`ofTable_eq_ok_iff`), and so does the environment over
other settings (`withEnv_eq_ok_iff`).

What has been read is in normal form: to read it again changes nothing (`Key.read_read`).
-/
import CallTree.Proofs.Except
import CallTree.Proofs.Table
import CallTree.Proofs.Text.Case
import CallTree.Settings

namespace CallTree

/-! ## Trimming -/

namespace Text

variable {p : Char → Bool} {cs : List Char}

theorem getLast?_dropEndWhile : ∀ c ∈ (dropEndWhile p cs).getLast?, p c = false := by
  rw [dropEndWhile, List.getLast?_reverse]
  exact head?_dropWhile_not p cs.reverse

/-- A text that does not end in what is dropped is left alone. -/
theorem dropEndWhile_eq_self (back : ∀ c ∈ cs.getLast?, p c = false) : dropEndWhile p cs = cs := by
  rw [← List.head?_reverse] at back
  have stays : cs.reverse.dropWhile p = cs.reverse := by
    cases backwards : cs.reverse with
    | nil => rfl
    | cons c rest => rw [List.dropWhile_cons_of_neg (by simp [back c (by simp [backwards])])]
  rw [dropEndWhile, stays, List.reverse_reverse]

/-- **A trimmed text** starts with nothing that is trimmed. -/
theorem head?_trimWhile : ∀ c ∈ (trimWhile p cs).head?, p c = false := by
  intro c first
  obtain ⟨w, whole⟩ : ∃ w, cs.dropWhile p = trimWhile p cs ++ w := by
    refine ⟨((cs.dropWhile p).reverse.takeWhile p).reverse, ?_⟩
    rw [trimWhile, dropEndWhile, ← List.reverse_append, List.takeWhile_append_dropWhile,
      List.reverse_reverse]
  refine head?_dropWhile_not p cs c ?_
  rw [whole, List.head?_append, Option.mem_def.1 first]
  rfl

/-- **Trimming a second time** changes nothing, also if something is put in front that is trimmed. -/
theorem trimWhile_cons_trimWhile {c : Char} (trimmed : p c = true) :
    trimWhile p (c :: trimWhile p cs) = trimWhile p cs := by
  have stays : (trimWhile p cs).dropWhile p = trimWhile p cs := by
    cases rest : trimWhile p cs with
    | nil => rfl
    | cons d ds =>
      have first : p d = false := head?_trimWhile d (show d ∈ (trimWhile p cs).head? by rw [rest]; rfl)
      rw [List.dropWhile_cons_of_neg (by simp [first])]
  rw [trimWhile, List.dropWhile_cons_of_pos trimmed, stays]
  exact dropEndWhile_eq_self getLast?_dropEndWhile

end Text

namespace Settings

/-! ## Paths -/

/-- **A path in its form**: a slash alone, or one slash in front of something that neither starts nor ends
with a slash. -/
inductive Canonical : List Char → Prop where
  | root : Canonical ['/']
  | below {c : Char} {rest : List Char} (one : c ≠ '/') (closed : (c :: rest).getLast? ≠ some '/') :
      Canonical ('/' :: c :: rest)

theorem toList_path (s : String) :
    ("/" ++ stripSlashes s).toList = '/' :: Text.trimWhile (· = '/') s.toList := by
  simp [stripSlashes]

/-- **A path that is read** has its form. -/
theorem canonical_path (s : String) : Canonical ("/" ++ stripSlashes s).toList := by
  rw [toList_path]
  cases trimmed : Text.trimWhile (· = '/') s.toList with
  | nil => exact .root
  | cons c rest =>
    refine .below ?_ fun last => ?_
    · have first : c ∈ (Text.trimWhile (· = '/') s.toList).head? := by rw [trimmed]; rfl
      simpa using Text.head?_trimWhile c first
    · rw [← trimmed, Text.trimWhile] at last
      simpa using Text.getLast?_dropEndWhile '/' last

/-- A path that is read stays as it is. -/
theorem stripSlashes_path (s : String) : stripSlashes ("/" ++ stripSlashes s) = stripSlashes s := by
  rw [stripSlashes, toList_path, Text.trimWhile_cons_trimWhile (by simp)]
  rfl

/-! ## Keys -/

/-- **The keys of settings.** -/
inductive Key where
  | host
  | port
  | path
  | ui
  | origins
  | timeout
  | level
  deriving DecidableEq

namespace Key

/-- The name of a key in tables. -/
def name : Key → String
  | .host => "host"
  | .port => "port"
  | .path => "path"
  | .ui => "ui"
  | .origins => "cors_origins"
  | .timeout => "request_timeout"
  | .level => "log_level"

/-- The variable of the environment for a key. The origins have none. -/
def envName? : Key → Option String
  | .host => some "TYPEGRAPH_HOST"
  | .port => some "TYPEGRAPH_PORT"
  | .path => some "TYPEGRAPH_PATH"
  | .ui => some "TYPEGRAPH_UI"
  | .origins => none
  | .timeout => some "TYPEGRAPH_REQUEST_TIMEOUT"
  | .level => some "TYPEGRAPH_LOG_LEVEL"

/-- The value of a key in settings. -/
def value (s : Settings) : Key → Value
  | .host => s.host
  | .port => s.port
  | .path => .text s.path
  | .ui => s.ui
  | .origins => s.corsOrigins
  | .timeout => s.requestTimeout
  | .level => s.logLevel

/-- **Read a value** for a key: bring it to its kind and form. -/
def read : Key → Value → Except Fault Value
  | .host, v => .ok v
  | .port, v => (readPort v).map .int
  | .path, v => (readPath v).map .text
  | .ui, v => .ok (.bool (readSwitch v))
  | .origins, v => (readItems v).map .list
  | .timeout, v => readTimeout v
  | .level, v => (readLevel v).map .text

/-- **Read a variable** for a key. A blank time limit is none; everything else is read as in a table. -/
def readVariable : Key → Value → Except Fault Value
  | .timeout, v => readEnvTimeout v
  | k, v => k.read v

theorem name_injective {k k' : Key} (same : k.name = k'.name) : k = k' := by
  cases k <;> cases k' <;> first | rfl | exact absurd same (by decide)

/-- Settings are what they say under their keys. -/
theorem value_injective {s t : Settings} (same : ∀ k : Key, k.value s = k.value t) : s = t := by
  obtain ⟨host, port, path, ui, origins, timeout, level⟩ := s
  obtain ⟨host', port', path', ui', origins', timeout', level'⟩ := t
  obtain rfl : host = host' := same .host
  obtain rfl : port = port' := same .port
  obtain rfl : path = path' := Value.text.inj (same .path)
  obtain rfl : ui = ui' := same .ui
  obtain rfl : origins = origins' := same .origins
  obtain rfl : timeout = timeout' := same .timeout
  obtain rfl : level = level' := same .level
  rfl

/-! ### Normal forms -/

/-- Whatever counts as no time limit: what is read is none, or a floating-point number. -/
theorem limit_inv {none : Prop} [Decidable none] {v w : Value}
    (reads : (if none then .ok .null else (readSeconds v).map .float) = .ok w) :
    w = .null ∨ ∃ x, w = .float x := by
  split at reads
  · cases reads
    exact .inl rfl
  · obtain ⟨x, -, rfl⟩ := map_eq_ok_iff.1 reads
    exact .inr ⟨x, rfl⟩

theorem readEnvTimeout_inv {v w : Value} (reads : readEnvTimeout v = .ok w) :
    w = .null ∨ ∃ x, w = .float x := by
  unfold readEnvTimeout at reads
  split at reads
  · exact limit_inv reads
  · exact limit_inv reads
  · cases reads

/-- **What has been read is in normal form.** -/
theorem read_read {k : Key} {v w : Value} (reads : k.read v = .ok w) : k.read w = .ok w := by
  cases k with
  | host => rfl
  | port =>
    obtain ⟨n, -, rfl⟩ := map_eq_ok_iff.1 reads
    rfl
  | path =>
    obtain ⟨path, given, rfl⟩ := map_eq_ok_iff.1 reads
    obtain ⟨s, rfl⟩ : ∃ s, path = "/" ++ stripSlashes s := by
      unfold readPath at given
      split at given
      · cases given
        exact ⟨_, rfl⟩
      · cases given
    simp only [read, readPath, stripSlashes_path]
    rfl
  | ui =>
    cases reads
    rfl
  | origins =>
    obtain ⟨items, -, rfl⟩ := map_eq_ok_iff.1 reads
    rfl
  | timeout =>
    rcases limit_inv reads with rfl | ⟨x, rfl⟩ <;> rfl
  | level =>
    obtain ⟨level, given, rfl⟩ := map_eq_ok_iff.1 reads
    obtain ⟨shown, -, rfl⟩ := map_eq_ok_iff.1 given
    have again : readLevel (.text (Text.upper shown)) = .ok (Text.upper shown) :=
      congrArg Except.ok (Text.upper_upper shown)
    rw [read, again]
    rfl

/-- What has been read from a variable is in normal form, too. -/
theorem read_of_readVariable {k : Key} {v w : Value} (reads : k.readVariable v = .ok w) :
    k.read w = .ok w := by
  cases k with
  | timeout => rcases readEnvTimeout_inv reads with rfl | ⟨x, rfl⟩ <;> rfl
  | _ => exact read_read reads

/-! ### Variables

The environment is written into a table before that is read as a whole, so that a variable is read in two
steps. -/

/-- What is written into a table for a variable. -/
def ofVariable : Key → Value → Except Fault Value
  | .port, v => (readPort v).map .int
  | .ui, v => .ok (.bool (readSwitch v))
  | .timeout, v => readEnvTimeout v
  | _, v => .ok v

/-- Both steps together read the variable. -/
theorem ofVariable_bind_read (k : Key) (v : Value) : k.ofVariable v >>= k.read = k.readVariable v := by
  cases k with
  | port =>
    show (readPort v).map Value.int >>= _ = (readPort v).map Value.int
    cases readPort v <;> rfl
  | timeout =>
    show readEnvTimeout v >>= _ = readEnvTimeout v
    cases reads : readEnvTimeout v with
    | error f => rfl
    | ok w => exact read_of_readVariable (k := .timeout) reads
  | _ => rfl

/-- What the environment says of a key, if its variable is set. -/
def fromEnv? (k : Key) (env : Table Value) : Option Value := k.envName?.bind env.get?

/-- **What a key says with an environment over it**: the variable of the key counts if it is set, and else
the value that there was. -/
def under (env : Table Value) (k : Key) (v : Value) : Except Fault Value :=
  match k.fromEnv? env with
  | some x => k.readVariable x
  | none => k.read v

theorem read_of_under {env : Table Value} {k : Key} {v w : Value} (reads : k.under env v = .ok w) :
    k.read w = .ok w := by
  unfold under at reads
  split at reads
  · exact read_of_readVariable reads
  · exact read_read reads

end Key

/-! ## Tables -/

/-- The value of a key in a table, or the default. -/
def Key.lookUp (k : Key) (data : Table Value) : Value := (data.get? k.name).getD (k.value default)

/-- **A table gives settings** exactly if each key reads its value. -/
theorem ofTable_eq_ok_iff {data : Table Value} {s : Settings} :
    ofTable data = .ok s ↔ ∀ k : Key, k.read (k.lookUp data) = .ok (k.value s) := by
  constructor
  · intro reads k
    simp only [ofTable, bind_eq_ok_iff, pure, Except.pure] at reads
    obtain ⟨port, portReads, items, itemsRead, timeout, timeoutReads, level, levelReads, path, pathReads,
      same⟩ := reads
    cases same
    cases k with
    | port => exact map_eq_ok_iff.2 ⟨port, portReads, rfl⟩
    | path => exact map_eq_ok_iff.2 ⟨path, pathReads, rfl⟩
    | origins => exact map_eq_ok_iff.2 ⟨items, itemsRead, rfl⟩
    | timeout => exact timeoutReads
    | level => exact map_eq_ok_iff.2 ⟨level, levelReads, rfl⟩
    | _ => rfl
  · intro each
    obtain ⟨port, portReads, samePort⟩ := map_eq_ok_iff.1 (each .port)
    obtain ⟨path, pathReads, samePath⟩ := map_eq_ok_iff.1 (each .path)
    obtain ⟨items, itemsRead, sameItems⟩ := map_eq_ok_iff.1 (each .origins)
    obtain ⟨level, levelReads, sameLevel⟩ := map_eq_ok_iff.1 (each .level)
    simp only [ofTable, bind_eq_ok_iff, pure, Except.pure]
    refine ⟨port, portReads, items, itemsRead, s.requestTimeout, each .timeout, level, levelReads, path,
      pathReads, ?_⟩
    refine congrArg Except.ok (Key.value_injective fun k => ?_)
    cases k with
    | host => exact Except.ok.inj (each .host)
    | port => exact samePort
    | path => exact samePath
    | ui => exact Except.ok.inj (each .ui)
    | origins => exact sameItems
    | timeout => rfl
    | level => exact sameLevel

/-! ## The environment -/

/-- Write what the environment says of a key, if its variable is set. -/
def overrideKey (env : Table Value) (k : Key) (data : Table Value) : Except Fault (Table Value) :=
  match k.fromEnv? env with
  | none => .ok data
  | some x => (k.ofVariable x).map (data.set k.name)

/-- Write what the environment says of several keys, one after the other. -/
def overrideAll (env : Table Value) : List Key → Table Value → Except Fault (Table Value)
  | [], data => .ok data
  | k :: rest, data => overrideKey env k data >>= overrideAll env rest

/-- The keys that have a variable, in the order in which they are overridden. -/
def overridable : List Key := [.host, .port, .path, .ui, .timeout, .level]

theorem overridden_eq (env data : Table Value) : overridden env data = overrideAll env overridable data := by
  have last (data : Table Value) :
      overrideKey env .level data >>= Except.ok = overrideKey env .level data := bind_pure _
  simp only [overridable, overrideAll, last]
  rfl

/-- **Settings from a table with an environment over it**: each key reads its value by itself. -/
theorem overrideAll_eq_ok_iff {env data : Table Value} {keys : List Key} (once : keys.Nodup) {t : Settings} :
    overrideAll env keys data >>= ofTable = .ok t ↔ ∀ k : Key,
      (if k ∈ keys then k.under env (k.lookUp data) else k.read (k.lookUp data)) = .ok (k.value t) := by
  -- By the keys that are still to be written. What has been written for one is not touched by the others.
  induction keys generalizing data with
  | nil => simpa [overrideAll, bind, Except.bind] using ofTable_eq_ok_iff
  | cons k₀ rest ih =>
    obtain ⟨fresh, onceBelow⟩ := List.nodup_cons.1 once
    rw [overrideAll, bind_assoc]
    unfold overrideKey
    split
    · rename_i unset
      show overrideAll env rest data >>= ofTable = _ ↔ _
      rw [ih onceBelow]
      refine forall_congr' fun k => ?_
      by_cases here : k = k₀
      · subst here
        simp [fresh, Key.under, unset]
      · simp [here]
    · rename_i x set
      have untouched (v : Value) {k : Key} (other : k ≠ k₀) : k.lookUp (data.set k₀.name v) = k.lookUp data := by
        rw [Key.lookUp, Table.get?_set_of_ne data v fun same => other (Key.name_injective same).symm]
        rfl
      have read : k₀.under env (k₀.lookUp data) = k₀.ofVariable x >>= k₀.read := by
        rw [Key.ofVariable_bind_read, Key.under, set]
      cases writes : k₀.ofVariable x with
      | error f =>
        refine iff_of_false nofun fun each => ?_
        have here := each k₀
        rw [if_pos List.mem_cons_self, read, writes] at here
        cases here
      | ok v =>
        show overrideAll env rest (data.set k₀.name v) >>= ofTable = _ ↔ _
        rw [ih onceBelow]
        refine forall_congr' fun k => ?_
        by_cases here : k = k₀
        · subst here
          rw [if_neg fresh, if_pos List.mem_cons_self, read, writes, Key.lookUp, Table.get?_set_self]
          rfl
        · simp [here, untouched v here]

/-- The table of settings, in which the origins are a list. -/
def written (s : Settings) (items : List Value) : Table Value :=
  [("host", s.host), ("port", s.port), ("path", .text s.path), ("ui", s.ui), ("cors_origins", .list items),
    ("request_timeout", s.requestTimeout), ("log_level", s.logLevel)]

theorem toTable_eq_ok_iff {s : Settings} {data : Table Value} :
    s.toTable = .ok data ↔ ∃ items, readItems s.corsOrigins = .ok items ∧ data = s.written items := by
  rw [toTable, map_eq_ok_iff]
  exact exists_congr fun items => and_congr_right fun _ => eq_comm

/-- **The environment over settings** gives settings exactly if each key reads its variable, or else its value. -/
theorem withEnv_eq_ok_iff {s t : Settings} {env : Table Value} :
    s.withEnv env = .ok t ↔ ∀ k : Key, k.under env (k.value s) = .ok (k.value t) := by
  have whole (data : Table Value) : (overridden env data >>= ofTable) = .ok t ↔
      ∀ k : Key, k.under env (k.lookUp data) = .ok (k.value t) := by
    rw [overridden_eq, overrideAll_eq_ok_iff (by decide)]
    refine forall_congr' fun k => ?_
    cases k <;> rfl
  have written : s.withEnv env = .ok t ↔ ∃ items, readItems s.corsOrigins = .ok items ∧
      ∀ k : Key, k.under env (k.lookUp (s.written items)) = .ok (k.value t) := by
    simp only [withEnv, bind_eq_ok_iff, toTable_eq_ok_iff, ← whole]
    constructor
    · rintro ⟨_, ⟨items, reads, rfl⟩, overlaid⟩
      exact ⟨items, reads, overlaid⟩
    · rintro ⟨items, reads, overlaid⟩
      exact ⟨_, ⟨items, reads, rfl⟩, overlaid⟩
  rw [written]
  -- The two sides differ in the origins alone, which the environment does not touch.
  constructor
  · rintro ⟨items, reads, each⟩ k
    cases k with
    | origins => exact (map_eq_ok_iff.2 ⟨items, reads, rfl⟩).trans (each .origins)
    | _ => exact each _
  · intro each
    obtain ⟨items, reads, same⟩ := map_eq_ok_iff.1 (each .origins)
    refine ⟨items, reads, fun k => ?_⟩
    cases k with
    | origins => exact congrArg Except.ok same
    | _ => exact each _

end Settings

end CallTree
