/-
# CallTree.Proofs.Table — tables as they are written entry by entry.

`Table.Laid` says without a word on writing what a table of entries is: each key once, where it comes
first, with the value that comes last. Writing the entries one after the other gives that table
(`Table.laid_ofList`).

Two tables may be related entry by entry (`Table.Entrywise`), as what is read value by value is to what it
was read from (`Table.readEach_eq_ok_iff`).
-/
import Mathlib.Data.List.Forall2
import Mathlib.Data.List.Induction
import CallTree.Proofs.Except
import CallTree.Table

namespace CallTree.Table

variable {α : Type}

/-- **The table that entries make**: each key at its first occurrence, with its last value. -/
structure Laid (entries : List (String × α)) (t : Table α) : Prop where
  keys : t.keys = (entries.map Prod.fst).eraseDups
  values : ∀ key, t.get? key = ((entries.filter fun e => e.1 = key).getLast?).map Prod.snd

/-- Reading where every entry is changed, each in a way that may depend on its key. -/
theorem get?_mapEntries {β : Type} (f : String → α → β) (t : Table α) (key : String) :
    get? (t.map fun e => (e.1, f e.1 e.2)) key = (t.get? key).map (f key) := by
  induction t with
  | nil => rfl
  | cons e rest ih =>
    obtain ⟨k, v⟩ := e
    rw [List.map_cons, get?, get?, ih]
    by_cases here : k = key
    · rw [if_pos here, if_pos here, here]
      rfl
    · rw [if_neg here, if_neg here]

theorem has_set_self (t : Table α) (key : String) (value : α) : (t.set key value).has key = true := by
  rw [has, get?_set_self]
  rfl

theorem has_set_of_ne (t : Table α) {key other : String} (value : α) (h : key ≠ other) :
    (t.set key value).has other = t.has other := by
  rw [has, get?_set_of_ne t value h, has]

/-- The entries of a table after a write. -/
theorem mem_set {t : Table α} {key : String} {value : α} {e : String × α}
    (h : e ∈ t.set key value) : e = (key, value) ∨ e ∈ t := by
  induction t with
  | nil => exact .inl (List.mem_singleton.1 h)
  | cons first rest ih =>
    obtain ⟨k, v⟩ := first
    rw [set] at h
    split at h
    · rename_i same
      rcases List.mem_cons.1 h with rfl | later
      · exact .inl (by rw [same])
      · exact .inr (List.mem_cons_of_mem _ later)
    · rcases List.mem_cons.1 h with rfl | later
      · exact .inr List.mem_cons_self
      · exact (ih later).imp_right (List.mem_cons_of_mem _)

/-- What is read from a table is an entry of it. -/
theorem mem_of_get? {t : Table α} {key : String} {value : α} (h : t.get? key = some value) :
    (key, value) ∈ t := by
  induction t with
  | nil => cases h
  | cons first rest ih =>
    obtain ⟨k, v⟩ := first
    rw [get?] at h
    split at h
    · rename_i same
      cases h
      rw [same]
      exact List.mem_cons_self
    · exact List.mem_cons_of_mem _ (ih h)

/-- In a table proper, reading finds every entry. -/
theorem get?_eq_some_iff_mem {t : Table α} (once : t.keys.Nodup) {key : String} {value : α} :
    t.get? key = some value ↔ (key, value) ∈ t := by
  refine ⟨mem_of_get?, ?_⟩
  intro mem
  induction t with
  | nil => cases mem
  | cons first rest ih =>
    obtain ⟨k, v⟩ := first
    obtain ⟨fresh, onceBelow⟩ := List.nodup_cons.1 once
    rcases List.mem_cons.1 mem with here | below
    · cases here
      rw [get?, if_pos rfl]
    · have other : k ≠ key := by
        rintro rfl
        exact fresh (List.mem_map.2 ⟨_, below, rfl⟩)
      rw [get?, if_neg other]
      exact ih onceBelow below

/-- What is read from a table proper does not depend on the order of its entries. -/
theorem get?_perm {t u : Table α} (once : t.keys.Nodup) (same : t.Perm u) (key : String) :
    t.get? key = u.get? key := by
  have onceToo : u.keys.Nodup := (same.map Prod.fst).nodup_iff.1 once
  apply Option.ext
  intro value
  rw [get?_eq_some_iff_mem once, get?_eq_some_iff_mem onceToo, same.mem_iff]

theorem ofList_concat (entries : List (String × α)) (e : String × α) :
    ofList (entries ++ [e]) = (ofList entries).set e.1 e.2 := by
  rw [ofList, merge, List.foldl_append]
  rfl

theorem has_iff (t : Table α) (key : String) : t.has key = true ↔ key ∈ t.keys := by
  induction t with
  | nil => simp [has, keys]
  | cons e rest ih =>
    obtain ⟨k, v⟩ := e
    by_cases here : k = key
    · simp [has, get?, keys, here]
    · have there : key ≠ k := fun h => here h.symm
      have step : has ((k, v) :: rest) key = has rest key := by simp [has, get?, here]
      rw [step, ih]
      simp [keys, there]

theorem has_eq_false_iff (t : Table α) (key : String) : t.has key = false ↔ key ∉ t.keys := by
  rw [← has_iff, Bool.not_eq_true]

/-- The keys after a write. -/
theorem keys_set (t : Table α) (key : String) (value : α) :
    (t.set key value).keys = if key ∈ t.keys then t.keys else t.keys ++ [key] := by
  by_cases present : key ∈ t.keys
  · rw [if_pos present, keys_set_of_has t value ((has_iff t key).2 present)]
  · rw [if_neg present, set_of_not_has t value ((has_eq_false_iff t key).2 present), keys,
      List.map_append]
    rfl

theorem eraseDups_concat (as : List String) (a : String) :
    (as ++ [a]).eraseDups = if a ∈ as.eraseDups then as.eraseDups else as.eraseDups ++ [a] := by
  rw [List.eraseDups_append]
  have single : [a].eraseDups = [a] := by rw [List.eraseDups_cons]; rfl
  by_cases mem : a ∈ as
  · rw [if_pos (List.mem_eraseDups.2 mem)]
    simp [List.removeAll, mem]
  · rw [if_neg (mt List.mem_eraseDups.1 mem)]
    simp [List.removeAll, mem, single]

theorem nodup_set {t : Table α} (once : t.keys.Nodup) (key : String) (value : α) :
    (t.set key value).keys.Nodup := by
  rw [keys_set]
  split
  · exact once
  · rename_i absent
    refine List.nodup_append.2 ⟨once, by simp, ?_⟩
    intro a mem b single
    rw [List.mem_singleton.1 single]
    rintro rfl
    exact absent mem

theorem mapValues_mapValues {β γ : Type} (f : α → β) (g : β → γ) (t : Table α) :
    (t.mapValues f).mapValues g = t.mapValues fun a => g (f a) := by
  rw [mapValues, mapValues, List.map_map]
  rfl

theorem keys_map {β : Type} (f : String × α → β) (t : Table α) :
    keys (t.map fun a => (a.1, f a)) = t.keys := by
  rw [keys, List.map_map]
  rfl

/-- **Writing entries one after the other** gives the table that they make. -/
theorem laid_ofList (entries : List (String × α)) : Laid entries (ofList entries) := by
  induction entries using List.reverseRecOn with
  | nil => exact ⟨rfl, fun _ => rfl⟩
  | append_singleton entries e ih =>
    rw [ofList_concat]
    refine ⟨?_, ?_⟩
    · rw [keys_set, ih.keys, List.map_append, List.map_singleton, eraseDups_concat]
    · intro key
      rw [List.filter_append]
      by_cases here : e.1 = key
      · have last : [e].filter (fun e => e.1 = key) = [e] := by simp [here]
        rw [last, List.getLast?_concat, ← here, get?_set_self]
        rfl
      · have none : [e].filter (fun e => e.1 = key) = [] := by simp [here]
        rw [none, List.append_nil, get?_set_of_ne _ _ here, ih.values]

/-- Entries under different keys are a table already. -/
theorem merge_of_nodup {t entries : Table α} (once : (t.keys ++ entries.keys).Nodup) :
    merge t entries = t ++ entries := by
  induction entries generalizing t with
  | nil => exact (List.append_nil t).symm
  | cons e rest ih =>
    obtain ⟨k, v⟩ := e
    have absent : k ∉ t.keys := fun mem =>
      (List.nodup_append.1 once).2.2 k mem k (List.mem_cons_self) rfl
    have step : t.set k v = t ++ [(k, v)] :=
      set_of_not_has t v ((has_eq_false_iff t k).2 absent)
    have keys : (t ++ [(k, v)]).keys ++ keys rest = t.keys ++ keys ((k, v) :: rest) := by
      simp [Table.keys]
    have goesOn : merge t ((k, v) :: rest) = merge (t ++ [(k, v)]) rest := by
      rw [← step]
      rfl
    rw [goesOn, ih (keys ▸ once), List.append_assoc]
    rfl

/-- **Reading a table written over another** finds what was written, and else what there was. -/
theorem get?_merge {t u : Table α} (once : u.keys.Nodup) (key : String) :
    (merge t u).get? key = (u.get? key).or (t.get? key) := by
  induction u generalizing t with
  | nil => rfl
  | cons e rest ih =>
    obtain ⟨k, v⟩ := e
    obtain ⟨fresh, onceBelow⟩ := List.nodup_cons.1 once
    show (merge (t.set k v) rest).get? key = _
    rw [ih onceBelow, get?]
    by_cases here : k = key
    · subst here
      have absent : get? rest k = none := Option.not_isSome_iff_eq_none.1 (mt (has_iff rest k).1 fresh)
      rw [absent, get?_set_self, if_pos rfl]
      rfl
    · rw [get?_set_of_ne t v here, if_neg here]

/-! ## Entry by entry -/

variable {β ε : Type}

/-- Of two lists that are related item by item, every item of the second has its counterpart. -/
theorem exists_of_mem_forall₂ {α β : Type} {related : α → β → Prop} {as : List α} {bs : List β}
    (each : List.Forall₂ related as bs) {b : β} (mem : b ∈ bs) : ∃ a ∈ as, related a b := by
  induction each with
  | nil => cases mem
  | cons first _ ih =>
    rcases List.mem_cons.1 mem with rfl | later
    · exact ⟨_, List.mem_cons_self, first⟩
    · obtain ⟨a, there, both⟩ := ih later
      exact ⟨a, List.mem_cons_of_mem _ there, both⟩

/-- Lists that are related to one list item by item are related to each other through its items. -/
theorem forall₂_through {α β : Type} {related : α → β → Prop} {as as' : List α} :
    (∃ bs, List.Forall₂ related as bs ∧ List.Forall₂ related as' bs) ↔
      List.Forall₂ (fun a a' => ∃ b, related a b ∧ related a' b) as as' := by
  constructor
  · rintro ⟨bs, each, each'⟩
    induction each generalizing as' with
    | nil =>
      cases each'
      exact .nil
    | cons first _ ih =>
      cases each' with
      | cons first' below => exact .cons ⟨_, first, first'⟩ (ih below)
  · intro both
    induction both with
    | nil => exact ⟨[], .nil, .nil⟩
    | cons first _ ih =>
      obtain ⟨b, one, other⟩ := first
      obtain ⟨bs, each, each'⟩ := ih
      exact ⟨b :: bs, .cons one each, .cons other each'⟩

/-- **Tables that are related entry by entry**: the same keys in the same order, each with values that are
related under it. -/
def Entrywise (related : String → α → β → Prop) : Table α → Table β → Prop :=
  List.Forall₂ fun a b => a.1 = b.1 ∧ related a.1 a.2 b.2

namespace Entrywise

variable {related : String → α → β → Prop} {t : Table α} {u : Table β}

theorem imp {other : String → α → β → Prop} (each : Entrywise related t u)
    (implies : ∀ a ∈ t, ∀ b ∈ u, related a.1 a.2 b.2 → other a.1 a.2 b.2) : Entrywise other t u := by
  induction each with
  | nil => exact .nil
  | @cons a b as bs first _ ih =>
    refine .cons ⟨first.1, implies a List.mem_cons_self b List.mem_cons_self first.2⟩ (ih ?_)
    exact fun a mem b mem' => implies a (List.mem_cons_of_mem _ mem) b (List.mem_cons_of_mem _ mem')

theorem eq_iff {t u : Table α} : Entrywise (fun _ a b => a = b) t u ↔ t = u := by
  have same : (fun a b : String × α => a.1 = b.1 ∧ a.2 = b.2) = Eq := by
    funext a b
    exact propext Prod.ext_iff.symm
  rw [Entrywise, same, List.forall₂_eq_eq_eq]

/-- Tables of which the values are changed are related as the values are in front of that. -/
theorem mapValues_iff {α' β' : Type} {related : String → α' → β' → Prop} {f : α → α'} {g : β → β'} :
    Entrywise related (t.mapValues f) (u.mapValues g) ↔
      Entrywise (fun key a b => related key (f a) (g b)) t u := by
  rw [Entrywise, mapValues, mapValues, List.forall₂_map_left_iff, List.forall₂_map_right_iff]
  rfl

theorem mapValues_left_iff {α' : Type} {related : String → α' → β → Prop} {f : α → α'} :
    Entrywise related (t.mapValues f) u ↔ Entrywise (fun key a b => related key (f a) b) t u := by
  rw [Entrywise, mapValues, List.forall₂_map_left_iff]
  rfl

theorem map_iff {α' β' : Type} {related : String → α' → β' → Prop} {f : String × α → α'}
    {g : String × α → β'} :
    Entrywise related (t.map fun a => (a.1, f a)) (t.map fun a => (a.1, g a)) ↔
      ∀ a ∈ t, related a.1 (f a) (g a) := by
  rw [Entrywise, List.forall₂_map_left_iff, List.forall₂_map_right_iff, List.forall₂_same]
  simp only [true_and]

theorem self_iff {t : Table α} {related : String → α → α → Prop} :
    Entrywise related t t ↔ ∀ a ∈ t, related a.1 a.2 a.2 := by
  rw [Entrywise, List.forall₂_same]
  simp only [true_and]

/-- Where two relations agree on the values of two tables, they relate them alike. -/
theorem congr {other : String → α → β → Prop}
    (same : ∀ a ∈ t, ∀ b ∈ u, related a.1 a.2 b.2 ↔ other a.1 a.2 b.2) :
    Entrywise related t u ↔ Entrywise other t u :=
  ⟨fun each => each.imp fun a mem b mem' => (same a mem b mem').1,
    fun each => each.imp fun a mem b mem' => (same a mem b mem').2⟩

/-- Every entry has its counterpart. -/
theorem exists_of_mem_right (each : Entrywise related t u) {b : String × β} (mem : b ∈ u) :
    ∃ a ∈ t, a.1 = b.1 ∧ related a.1 a.2 b.2 :=
  exists_of_mem_forall₂ each mem

theorem exists_of_mem_left (each : Entrywise related t u) {a : String × α} (mem : a ∈ t) :
    ∃ b, related a.1 a.2 b ∧ (a.1, b) ∈ u := by
  obtain ⟨⟨key, b⟩, there, same, both⟩ := exists_of_mem_forall₂ (List.Forall₂.flip each) mem
  cases same
  exact ⟨b, both, there⟩

end Entrywise

/-- Read a table value by value, up to the first fault. -/
def readEach (read : String → α → Except ε β) : Table α → Except ε (Table β)
  | [] => .ok []
  | (key, value) :: rest =>
    match read key value with
    | .error e => .error e
    | .ok b => (readEach read rest).map ((key, b) :: ·)

variable {read : String → α → Except ε β}

/-- **A table is read** exactly if each of its values is. -/
theorem readEach_eq_ok_iff {t : Table α} {u : Table β} :
    readEach read t = .ok u ↔ Entrywise (fun key a b => read key a = .ok b) t u := by
  induction t generalizing u with
  | nil =>
    constructor
    · rintro ⟨⟩
      exact .nil
    · rintro ⟨⟩
      rfl
  | cons a rest ih =>
    obtain ⟨key, value⟩ := a
    rw [readEach]
    constructor
    · intro reads
      split at reads
      · cases reads
      · rename_i b first
        obtain ⟨others, below, rfl⟩ := map_eq_ok_iff.1 reads
        exact .cons ⟨rfl, first⟩ (ih.1 below)
    · intro each
      cases each with
      | @cons _ b _ others first below =>
        obtain ⟨same, here⟩ := first
        obtain ⟨key', b⟩ := b
        cases same
        simp only at here
        simp only [here, ih.2 below, Except.map]

/-- A table that is not read has a value that is not. -/
theorem exists_of_readEach_eq_error {t : Table α} {e : ε} (fails : readEach read t = .error e) :
    ∃ a ∈ t, read a.1 a.2 = .error e := by
  induction t with
  | nil => cases fails
  | cons a rest ih =>
    rw [readEach] at fails
    split at fails
    · rename_i here
      cases fails
      exact ⟨a, List.mem_cons_self, here⟩
    · obtain ⟨b, mem, there⟩ := ih (error_of_map fails)
      exact ⟨b, List.mem_cons_of_mem _ mem, there⟩

end CallTree.Table
