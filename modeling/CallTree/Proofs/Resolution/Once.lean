/-
# CallTree.Proofs.Resolution.Once — no call starts twice.

Whatever a resolution starts, it starts at or below its own position, and at no position twice
(`confined_resolve`). The calls of one request are therefore told apart by their positions, at every
moment and whatever becomes of them.
-/
import Mathlib.Data.List.Nodup
import CallTree.Proofs.Resolution.Accounts
import CallTree.Proofs.Resolution.Positions

namespace CallTree.Resolution

open Journal

/-- **A history in an area**: whatever starts in it starts in that area, at each position once. -/
structure Inside (area : Path → Prop) (history : List Event) : Prop where
  within : ∀ c ∈ startedIn history, area c.path
  once : ((startedIn history).map Call.path).Nodup

/-- A task that stays in an area, at every moment. -/
def Confined (area : Path → Prop) (t : Work) : Prop :=
  ∀ standing updates, t.Stands standing updates → Inside area (written updates)

/-- What is at or below one of some positions. -/
def Under (ps : List Path) (p : Path) : Prop := ∃ q ∈ ps, q <+: p

theorem inside_nil (area : Path → Prop) : Inside area [] := ⟨nofun, .nil⟩

theorem Inside.mono {area wider : Path → Prop} {history : List Event} (h : Inside area history)
    (le : ∀ p, area p → wider p) : Inside wider history :=
  ⟨fun c mem => le _ (h.within c mem), h.once⟩

theorem Confined.mono {area wider : Path → Prop} {t : Work} (h : Confined area t)
    (le : ∀ p, area p → wider p) : Confined wider t :=
  fun standing updates stands => (h standing updates stands).mono le

/-- What happens in one area and then in another. -/
theorem Inside.append {area later : Path → Prop} {first second : List Event}
    (before : Inside area first) (after : Inside later second) (apart : ∀ p, area p → ¬ later p) :
    Inside (fun p => area p ∨ later p) (first ++ second) := by
  refine ⟨?_, ?_⟩
  · intro c mem
    rw [startedIn_append] at mem
    exact (List.mem_append.1 mem).imp (before.within c) (after.within c)
  · rw [startedIn_append, List.map_append]
    refine before.once.append after.once ?_
    intro p inFirst inSecond
    obtain ⟨c, hc, rfl⟩ := List.mem_map.1 inFirst
    obtain ⟨d, hd, same⟩ := List.mem_map.1 inSecond
    exact apart _ (before.within c hc) (same ▸ after.within d hd)

/-- What happens side by side at positions that are apart. -/
theorem Inside.mixed {ps : List Path} {parts : Nat → List (Journal → Journal)}
    {mixed : List (Journal → Journal)} (apart : ps.Pairwise Path.Apart)
    (others : ∀ i, ps.length ≤ i → parts i = []) (mixes : Interleaves parts mixed)
    (each : ∀ (i : Nat) (p : Path), ps[i]? = some p → Inside (p <+: ·) (written (parts i))) :
    Inside (Under ps) (written mixed) := by
  have all : (startedIn (written mixed)).Perm
      ((List.range ps.length).flatMap fun i => startedIn (written (parts i))) :=
    ((mixes.flatMap _).filterMap Event.started?).perm fun i hi => by rw [others i hi]; rfl
  have part {i : Nat} (mem : i ∈ List.range ps.length) :
      ∃ p, ps[i]? = some p ∧ Inside (p <+: ·) (written (parts i)) := by
    have here := List.getElem?_eq_getElem (List.mem_range.1 mem)
    exact ⟨_, here, each i _ here⟩
  refine ⟨?_, ?_⟩
  · intro c mem
    obtain ⟨i, hi, hc⟩ := List.mem_flatMap.1 (all.mem_iff.1 mem)
    obtain ⟨p, here, inside⟩ := part hi
    exact ⟨p, List.mem_of_getElem? here, inside.within c hc⟩
  · rw [(all.map Call.path).nodup_iff, List.map_flatMap, List.nodup_flatMap]
    refine ⟨fun i hi => (part hi).choose_spec.2.once, ?_⟩
    refine List.pairwise_lt_range.imp_of_mem ?_
    intro i j hi hj lt path inFirst inSecond
    -- A position at or below two of the positions would make these two not apart.
    obtain ⟨p, here, first⟩ := part hi
    obtain ⟨q, there, second⟩ := part hj
    obtain ⟨c, hc, rfl⟩ := List.mem_map.1 inFirst
    obtain ⟨d, hd, same⟩ := List.mem_map.1 inSecond
    have between : p.Apart q := by
      obtain ⟨boundI, rfl⟩ := List.getElem?_eq_some_iff.1 here
      obtain ⟨boundJ, rfl⟩ := List.getElem?_eq_some_iff.1 there
      exact List.pairwise_iff_getElem.1 apart i j boundI boundJ lt
    exact between.not_below (first.within c hc) (same ▸ second.within d hd)

/-! ## The ways of putting tasks together -/

theorem confined_done (area : Path → Prop) (outcome : Except Abort Value) :
    Confined area (.done outcome) := by
  intro standing updates stands
  cases stands with
  | begun _ => exact inside_nil area
  | done _ => exact inside_nil area

theorem confined_gatherAll {ps : List Path} {tasks : List Work} {next : List Value → Work}
    {later : Path → Prop} (apart : ps.Pairwise Path.Apart)
    (children : List.Forall₂ (fun p t => Confined (p <+: ·) t) ps tasks)
    (goesOn : ∀ values, Confined later (next values)) (elsewhere : ∀ p, Under ps p → ¬ later p) :
    Confined (fun p => Under ps p ∨ later p) (.gatherAll tasks next) := by
  have length := children.length_eq
  have child {i : Nat} {p : Path} (here : ps[i]? = some p) :
      ∃ t, tasks[i]? = some t ∧ Confined (p <+: ·) t := by
    obtain ⟨bound, rfl⟩ := List.getElem?_eq_some_iff.1 here
    exact ⟨_, List.getElem?_eq_getElem (length ▸ bound),
      (List.forall₂_iff_get.1 children).2 i bound (length ▸ bound)⟩
  intro standing updates stands
  rcases stands.gatherAll_inv with ⟨stood, parts, each, others, mixes, -⟩ |
    ⟨values, parts, mixed, rest, same, each, others, mixes, after, rfl⟩
  · refine (Inside.mixed apart (length ▸ others) mixes ?_).mono fun p => .inl
    intro i p here
    obtain ⟨t, task, confined⟩ := child here
    exact confined _ _ (each i t task)
  · rw [written_append]
    refine (Inside.mixed apart (length ▸ others) mixes ?_).append (goesOn _ _ _ after) elsewhere
    intro i p here
    obtain ⟨t, task, confined⟩ := child here
    have bound : i < values.length := by
      have bound := (List.getElem?_eq_some_iff.1 task).1
      omega
    exact confined _ _ (each i t _ task (List.getElem?_eq_getElem bound))

theorem confined_andThen {area : Path → Prop} {t : Work} {k : Value → Work} (first : Confined area t)
    (second : ∀ v, Confined (fun _ => False) (k v)) : Confined area (t.andThen k) := by
  intro standing updates stands
  rcases stands.andThen_inv with ⟨v, own, later, ends, rest, rfl⟩ | ⟨stood, own, -⟩
  · rw [written_append]
    have both := (first _ _ ends).append (second v _ _ rest) fun _ _ => id
    exact both.mono fun p h => h.resolve_right id
  · exact first _ _ own

theorem confined_call {s : Script} {call : Call} {next : Except Failure Value → Work}
    (goesOn : ∀ outcome, Confined call.path.Above (next outcome)) :
    Confined (call.path <+: ·) (.act (·.start call) fun _ => s.run call next) := by
  intro standing updates stands
  have alone : Inside (· = call.path) [.started call] :=
    ⟨fun c mem => by rw [List.mem_singleton.1 mem], List.nodup_singleton _⟩
  have wider (p : Path) (h : p = call.path ∨ call.path.Above p) : call.path <+: p := by
    rcases h with rfl | above
    · exact List.prefix_refl _
    · exact above.1
  rcases Script.call_stands_inv stands with ⟨none, -⟩ | ⟨opened, -⟩ | ⟨outcome, later, rest, wrote⟩
  · rw [none]
    exact inside_nil _
  · rw [opened]
    exact alone.mono fun p here => wider p (.inl here)
  · rw [wrote]
    obtain ⟨within, once⟩ := goesOn outcome _ _ rest
    have after : Inside call.path.Above (.ended call outcome :: written later) := ⟨within, once⟩
    exact (alone.append after fun p here above => above.2 here.symm).mono wider

/-! ## Call trees -/

variable {r : Registry}

/-- A round of calls at positions that are apart. -/
theorem confined_round {scope : Scope} {cs : List Placed} {output : Table Value}
    {next : Table Value → Work} {later : Path → Prop} (apart : AllApart cs)
    (children : ∀ c ∈ cs, Confined (c.1 <+: ·) (resolveAt r scope c))
    (goesOn : ∀ output, Confined later (next output))
    (elsewhere : ∀ p, (∃ c ∈ cs, c.1 <+: p) → ¬ later p) :
    Confined (fun p => (∃ c ∈ cs, c.1 <+: p) ∨ later p) (round r scope cs output next) := by
  have under (p : Path) : Under (cs.map Prod.fst) p ↔ ∃ c ∈ cs, c.1 <+: p := by simp [Under]
  unfold round batch
  split
  · exact confined_done _ _
  · simp only [← under] at elsewhere ⊢
    exact confined_gatherAll (List.pairwise_map.2 apart) (forall₂_map children) (fun _ => goesOn _)
      elsewhere

theorem confined_resolveBelow {ns : List Node} {scope : Scope} {path : Path}
    (children : ∀ c ∈ ns, ∀ path, Confined (path <+: ·) (resolve r c scope path))
    (inBlocks : ∀ b ∈ ns, ∀ c ∈ b.children, ∀ path, Confined (path <+: ·) (resolve r c scope path)) :
    Confined path.Above (resolveBelow r ns scope path) := by
  have whole := List.Sublist.refl (conditional path ns)
  obtain ⟨apartReal, -, across⟩ := List.pairwise_append.1 (allApart_called whole)
  have below {c : Placed} (mem : c ∈ called path ns (conditional path ns)) (p : Path)
      (le : c.1 <+: p) : path.Above p := (above_of_called whole mem).extend le
  -- The blocks that hold depend on the output, so the second round has the area of all blocks.
  have second {output : Table Value} {bs : List Placed}
      (holds : holding output (conditional path ns) = .ok bs) :
      Confined (fun p => ∃ c ∈ (conditional path ns).flatMap inside, c.1 <+: p)
        (round r scope (bs.flatMap inside) output fun output => .succeed (.object output)) := by
    have among := sublist_of_holding holds
    have apart := (List.pairwise_append.1 (allApart_called among)).2.1
    refine (confined_round apart ?_ (fun _ => confined_done (fun _ => False) _) fun _ _ => id).mono ?_
    · intro c mem
      obtain ⟨b, hb, inside⟩ := mem_of_inside holds mem
      exact inBlocks b hb c.2 inside c.1
    · rintro p (⟨c, mem, le⟩ | none)
      · obtain ⟨b, hb, inside⟩ := List.mem_flatMap.1 mem
        exact ⟨c, List.mem_flatMap.2 ⟨b, among.mem hb, inside⟩, le⟩
      · exact none.elim
  have rounds : Confined (fun p => (∃ c ∈ real path ns, c.1 <+: p) ∨
      ∃ c ∈ (conditional path ns).flatMap inside, c.1 <+: p) (resolveBelow r ns scope path) := by
    rw [resolveBelow_eq]
    refine confined_round apartReal (fun c mem => children c.2 (mem_of_real mem) c.1) ?_ ?_
    · intro output
      split
      · exact confined_done _ _
      · exact second ‹_›
    · rintro p ⟨c, hc, le⟩ ⟨d, hd, le'⟩
      exact (across c hc d hd).not_below le le'
  refine rounds.mono ?_
  rintro p (⟨c, mem, le⟩ | ⟨c, mem, le⟩)
  · exact below (List.mem_append_left _ mem) p le
  · exact below (List.mem_append_right _ mem) p le

/-- What is checked and resolved on what a resolver returned. -/
theorem confined_complete {name : String} {type : Descriptor} {hasChildren : Bool} {path : Path}
    {children : Scope → Path → Work} {v : Value}
    (below : ∀ scope path, Confined path.Above (children scope path)) :
    Confined path.Above (complete r name type hasChildren path children v) := by
  unfold complete
  split
  · split <;> exact confined_done _ _
  · split
    · exact confined_done _ _
    · unfold descend
      split
      · exact confined_done _ _
      · split
        · -- The items of a list stand at consecutive positions.
          simp only [List.mapIdx_eq_zipIdx_map]
          have apart : ((v.items?.getD []).zipIdx.map fun e => path ++ [(e.2 : Int)]).Pairwise
              Path.Apart := by
            rw [List.pairwise_map, List.pairwise_iff_getElem]
            intro i j hi hj lt
            refine .of_ne path ?_
            rw [List.getElem_zipIdx, List.getElem_zipIdx]
            omega
          refine (confined_gatherAll apart ?_ (fun _ => confined_done (fun _ => False) _)
            fun _ _ => id).mono ?_
          · refine forall₂_map ?_
            intro e _
            split
            · exact confined_done _ _
            · exact (below _ _).mono fun p above => above.1
          · rintro p (⟨q, mem, le⟩ | none)
            · obtain ⟨e, -, rfl⟩ := List.mem_map.1 mem
              exact (path.above_concat _).extend le
            · exact none.elim
        · exact confined_andThen (below _ path) fun _ => confined_done _ _

/-- **A resolution stays at or below its position**, and starts nothing twice. -/
theorem confined_resolve (r : Registry) (n : Node) :
    ∀ (scope : Scope) (path : Path), Confined (path <+: ·) (resolve r n scope path) := by
  induction n using Node.induct with
  | compose args children ih =>
    intro scope path
    rw [resolve_compose]
    refine (confined_gatherAll (List.pairwise_map.2 (allApart_placed path children)) ?_
      (fun _ => confined_done (fun _ => False) _) fun _ _ => id).mono ?_
    · exact forall₂_map fun c mem => ih c.2 (mem_of_placed mem) scope c.1
    · rintro p (⟨q, mem, le⟩ | none)
      · obtain ⟨c, hc, rfl⟩ := List.mem_map.1 mem
        exact (above_of_placed hc).1.trans le
      · exact none.elim
  | when args children =>
    intro scope path
    rw [resolve_when]
    exact confined_done _ _
  | field name args children noCompose noWhen ih ihBlocks =>
    intro scope path
    rw [resolve_field r args children scope path noCompose noWhen, callField]
    split
    · exact confined_done _ _
    · split
      · exact confined_done _ _
      · refine confined_call fun outcome => ?_
        split
        · exact confined_done _ _
        · exact confined_complete fun scope path => confined_resolveBelow
            (fun c mem => ih c mem scope) fun b mem c inside => ihBlocks b mem c inside scope

end CallTree.Resolution
