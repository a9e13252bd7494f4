/-
# CallTree.Proofs.Registry.References — what the check of references is worth.

A registry comes about by calls on a draft, or from host tables (`Registry.Made`). No custom type of it
has the name of the queries. If its references were checked when it was built, the type of each of its
fields is native or declared (`Registry.Made.declares`), however the fields came in.
-/
import CallTree.Proofs.Registry
import CallTree.Proofs.Resolution.Inputs

namespace CallTree.Registry

/-- **`Made check r`** — `r` comes about in one of the ways that there are for hosts, with its
references checked or not. -/
inductive Made (check : Bool) (r : Registry) : Prop where
  /-- Some calls on a draft, of which any may have failed, and a build. Host tables with fields that are
  ready-made are read in this way, too. -/
  | build {additions : List Draft.Addition} (built : (Draft.after additions).build check = .ok r)
  | tables {host : Value → Option Resolver} {types queries : Value}
      (built : ofTables host types queries check = .ok r)

/-- **A registry that refers only to what it has**: the type of each of its fields is native or declared. -/
def Closed (r : Registry) : Prop := ∀ c ∈ (rootName, r.root) :: r.types, ∀ e ∈ c.2,
  e.2.type.isNative = true ∨ r.types.has e.2.type.name = true

namespace Draft

variable {types : Table Chunk}

/-- A chunk is in order if the type of each of its fields is native or declared. -/
theorem undefinedIn_eq_ok_iff {owner : String} {chunk : Chunk} :
    undefinedIn types owner chunk = .ok () ↔
      ∀ e ∈ chunk, e.2.type.isNative = true ∨ types.has e.2.type.name = true := by
  induction chunk with
  | nil => simp [undefinedIn]
  | cons e rest ih =>
    obtain ⟨name, f⟩ := e
    rw [undefinedIn, List.forall_mem_cons, ← ih]
    split
    · rename_i fault
      simp only [Bool.and_eq_true, Bool.not_eq_true'] at fault
      simp [fault.1, fault.2]
    · rename_i fine
      have here : f.type.isNative = true ∨ types.has f.type.name = true := by
        simpa [Decidable.or_iff_not_imp_left] using fine
      simp only [here, true_and]

theorem undefinedInAll_eq_ok_iff {chunks : Table Chunk} :
    undefinedInAll types chunks = .ok () ↔ ∀ c ∈ chunks, ∀ e ∈ c.2,
      e.2.type.isNative = true ∨ types.has e.2.type.name = true := by
  induction chunks with
  | nil => simp [undefinedInAll]
  | cons c rest ih =>
    obtain ⟨owner, chunk⟩ := c
    rw [undefinedInAll, List.forall_mem_cons, ← ih]
    cases first : undefinedIn types owner chunk with
    | error e =>
      have unfit := mt (@undefinedIn_eq_ok_iff types owner chunk).2 (by rw [first]; exact nofun)
      exact iff_of_false nofun fun both => unfit both.1
    | ok _ =>
      have fine := undefinedIn_eq_ok_iff.1 first
      exact (and_iff_right fine).symm

/-- **A draft is built** as it is, if its references need no check or are in order. -/
theorem build_eq_ok_iff {d : Draft} {check : Bool} {r : Registry} :
    d.build check = .ok r ↔ r = ⟨d.types, d.root⟩ ∧ (check = true → r.Closed) := by
  have closed : Closed ⟨d.types, d.root⟩ ↔
      undefinedInAll d.types ((rootName, d.root) :: d.types) = .ok () := undefinedInAll_eq_ok_iff.symm
  rw [build]
  cases check with
  | false =>
    constructor
    · rintro ⟨⟩
      exact ⟨rfl, nofun⟩
    · rintro ⟨rfl, -⟩
      rfl
  | true =>
    rw [if_pos rfl, map_eq_ok_iff]
    constructor
    · rintro ⟨_, fine, rfl⟩
      exact ⟨rfl, fun _ => closed.2 fine⟩
    · rintro ⟨rfl, fine⟩
      exact ⟨(), closed.1 (fine rfl), rfl⟩

end Draft

variable {check : Bool} {r : Registry}

/-- A registry from host tables comes about by calls on a draft, too. -/
theorem Made.exists_additions (made : r.Made check) :
    ∃ additions, (Draft.after additions).build check = .ok r := by
  cases made with
  | build built => exact ⟨_, built⟩
  | tables built =>
    obtain ⟨additions, -, built⟩ := additions_of_tables built
    exact ⟨additions, built⟩

theorem Made.hasType_rootName (made : r.Made check) : r.hasType rootName = false := by
  obtain ⟨additions, built⟩ := made.exists_additions
  exact hasType_of_build built

/-- **Checked references**: the type of every field is native or declared. -/
theorem Made.declares (made : r.Made true) (owner name : String) : r.Declares owner name := by
  obtain ⟨additions, built⟩ := made.exists_additions
  have closed := (Draft.build_eq_ok_iff.1 built).2 rfl
  intro f found custom
  have declared {owner : String} {chunk : Chunk}
      (mem : (owner, chunk) ∈ (rootName, r.root) :: r.types) (inside : (name, f) ∈ chunk) :
      r.hasType f.type.name = true :=
    (closed _ mem _ inside).resolve_left (by rw [custom]; exact nofun)
  unfold field? chunk? at found
  split at found
  · exact declared List.mem_cons_self (Table.mem_of_get? found)
  · cases known : r.types.get? owner with
    | none =>
      rw [known] at found
      cases found
    | some chunk =>
      rw [known] at found
      exact declared (List.mem_cons_of_mem _ (Table.mem_of_get? known)) (Table.mem_of_get? found)

/-- **A declared type is looked up** and found, as itself: it does not have the name of the queries. -/
theorem Made.chunk?_of_hasType (made : r.Made check) {name : String}
    (declared : r.hasType name = true) :
    name ≠ rootName ∧ ∃ chunk, r.types.get? name = some chunk ∧ r.chunk? name = some chunk := by
  have other : name ≠ rootName := by
    rintro rfl
    rw [made.hasType_rootName] at declared
    cases declared
  obtain ⟨chunk, found⟩ := Option.isSome_iff_exists.1 declared
  refine ⟨other, chunk, found, ?_⟩
  rw [chunk?, if_neg other]
  exact found

end CallTree.Registry
