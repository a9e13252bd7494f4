/-
# CallTree.Proofs.Node.Grammar — which values are written calls, and what is wrong with all others.

`Entry` is the grammar of written calls, and `Offends` lists all that is wrong with a value, each
offence with its place. Neither mentions an order in which anything is checked. A value is read exactly
if it has the call form, and it is refused exactly for its first offence, from top to bottom and from
left to right (`Node.read_exact`).

What is told of an offence quotes a part of the value. It can be told unless a whole number in that part has
too many digits to be written (`ShapeFault.told_iff`), as no number has that was read from a text.
-/
import Mathlib.Data.List.Forall2
import CallTree.Node.Reader
import CallTree.Proofs.Except
import CallTree.Proofs.Json.RoundTrip
import CallTree.Proofs.Path

namespace CallTree

/-! ## Sentences -/

namespace ShapeFault

/-- A value that the sentence of a fault quotes. -/
inductive Quotes : ShapeFault → Value → Prop where
  | noList (v : Value) : Quotes (.noList v) v
  | noName (v : Value) : Quotes (.noName v) v

/-- **A fault that is told** in a sentence of its own. -/
def Told (f : ShapeFault) : Prop := ∃ sentence, f.message = .ok sentence

/-- A value can be quoted exactly if it can be written. -/
theorem exists_describe_iff (v : Value) : (∃ s, describe v = .ok s) ↔ v.Writable := by
  unfold describe
  cases written : Json.write .message v with
  | ok s =>
    refine iff_of_true ⟨_, rfl⟩ fun n part => ?_
    by_contra long
    exact Json.spoken_of_print written _ part _ (.whole long)
  | error f => exact map_succeeds_iff.trans v.exists_literal_iff

theorem told_iff_of_about {f : ShapeFault} {v : Value} {wrong : String} (sentence : f.message = about v wrong) :
    f.Told ↔ v.Writable := by
  rw [Told, sentence, about, map_succeeds_iff, exists_describe_iff]

/-- **A fault is told** exactly if what it quotes can be written. -/
theorem told_iff {f : ShapeFault} : f.Told ↔ ∀ v, f.Quotes v → v.Writable := by
  cases f with
  | noList v =>
    rw [told_iff_of_about rfl]
    exact ⟨by rintro writable _ ⟨⟩; exact writable, fun each => each v (.noList v)⟩
  | noName v =>
    rw [told_iff_of_about rfl]
    exact ⟨by rintro writable _ ⟨⟩; exact writable, fun each => each v (.noName v)⟩
  | _ => exact iff_of_true ⟨_, rfl⟩ (by rintro v ⟨⟩)

end ShapeFault

namespace Node

/-! ## The grammar -/

/-- **The entries of a call tree**, with the calls that they are: a bare name, or a list or tuple of a
name, at the second place possibly an object, and entries. A conditional block has conditions, and a
composition no arguments. -/
inductive Entry : Value → Node → Prop where
  | name {s : String} (named : s ≠ "") (noWhen : s ≠ whenName) : Entry (.text s) (leaf s)
  | call {v : Value} {name : String} {vs : List Value} {ns : List Node}
      (items : v.items? = some (.text name :: vs)) (named : name ≠ "") (noWhen : name ≠ whenName)
      (below : List.Forall₂ Entry vs ns) : Entry v (.mk name none ns)
  | callWith {v : Value} {name : String} {args : Table Value} {vs : List Value} {ns : List Node}
      (items : v.items? = some (.text name :: .object args :: vs)) (named : name ≠ "")
      (noCompose : name ≠ composeName) (below : List.Forall₂ Entry vs ns) :
      Entry v (.mk name (some args) ns)

/-- **The call form**: an entry that is no bare name. -/
def CallForm (v : Value) (n : Node) : Prop := v.items?.isSome = true ∧ Entry v n

/-! ## Offences -/

/-- What follows the name of a call, with the places: an object at the second place is the arguments of
the call and no entry. -/
def entries : List Value → List (Value × Nat)
  | .object _ :: vs => vs.zipIdx 2
  | vs => vs.zipIdx 1

/-- **What is wrong with the name or the arguments of a call**, at its first or second place. -/
inductive HeadFault : List Value → Nat → ShapeFault → Prop where
  | noName {head : Value} {rest : List Value} (no : ∀ s : String, s ≠ "" → head ≠ .text s) :
      HeadFault (head :: rest) 0 (.noName head)
  | noConditions {name : String} {rest : List Value} (isWhen : name = whenName)
      (no : ∀ args vs, rest ≠ .object args :: vs) : HeadFault (.text name :: rest) 0 .noConditions
  | composeArguments {name : String} {args : Table Value} {vs : List Value}
      (isCompose : name = composeName) :
      HeadFault (.text name :: .object args :: vs) 1 .composeArguments

/-- **All that is wrong with an entry**, each offence with its place below the entry. -/
inductive Offends : Value → Path → ShapeFault → Prop where
  | emptyName : Offends (.text "") [] (.noName (.text ""))
  | bareWhen : Offends (.text whenName) [] .noConditions
  | noChild {v : Value} (noText : ∀ s, v ≠ .text s) (noItems : v.items? = none) :
      Offends v [] .noChild
  | noCall {v : Value} (items : v.items? = some []) : Offends v [] .noCall
  | head {v : Value} {xs : List Value} {i : Nat} {f : ShapeFault} (items : v.items? = some xs)
      (fault : HeadFault xs i f) : Offends v [(i : Int)] f
  | inside {v head c : Value} {rest : List Value} {i : Nat} {p : Path} {f : ShapeFault}
      (items : v.items? = some (head :: rest)) (entry : (c, i) ∈ entries rest)
      (inner : Offends c p f) : Offends v ((i : Int) :: p) f

/-- All that is wrong with a whole call tree: it may not be a bare name either. -/
inductive RootOffends : Value → Path → ShapeFault → Prop where
  | noList {v : Value} (noItems : v.items? = none) : RootOffends v [] (.noList v)
  | entry {v : Value} {p : Path} {f : ShapeFault} (items : v.items?.isSome = true)
      (offends : Offends v p f) : RootOffends v p f

/-- **The first of several offences**: its place comes before those of all others. -/
def First (offends : Path → ShapeFault → Prop) (f : ShapeFault) : Prop :=
  ∃ p, offends p f ∧ ∀ p' f', offends p' f' → p.le p' = true ∧ (p' = p → f' = f)

/-- There is at most one first offence. -/
theorem First.unique {offends : Path → ShapeFault → Prop} {f f' : ShapeFault}
    (h : First offends f) (h' : First offends f') : f' = f := by
  obtain ⟨p, here, before⟩ := h
  obtain ⟨p', here', before'⟩ := h'
  have same : p' = p := Path.le_antisymm (before' p f here).1 (before p' f' here').1
  exact (before p' f' here').2 same

/-- **All that can be wrong with a list or tuple**: it is empty, its head is at fault, or an entry in it
offends. -/
theorem Offends.items_inv {v : Value} {xs : List Value} (items : v.items? = some xs) {p : Path}
    {f : ShapeFault} (h : Offends v p f) :
    xs = [] ∧ p = [] ∧ f = .noCall ∨
      (∃ i : Nat, p = [(i : Int)] ∧ HeadFault xs i f) ∨
      ∃ (head : Value) (rest : List Value) (c : Value) (i : Nat) (p' : Path), xs = head :: rest ∧
        (c, i) ∈ entries rest ∧ p = (i : Int) :: p' ∧ Offends c p' f := by
  cases h with
  | emptyName => cases items
  | bareWhen => cases items
  | noChild _ none =>
    rw [none] at items
    cases items
  | noCall none =>
    rw [none, Option.some.injEq] at items
    exact .inl ⟨items.symm, rfl, rfl⟩
  | head items' fault =>
    obtain rfl := Option.some.inj (items'.symm.trans items)
    exact .inr (.inl ⟨_, rfl, fault⟩)
  | inside items' entry inner =>
    obtain rfl := Option.some.inj (items'.symm.trans items)
    exact .inr (.inr ⟨_, _, _, _, _, rfl, entry, rfl, inner⟩)

/-! ## The head of a call -/

/-- What follows the name holds entries from the second place on, or from the third if there are
arguments. -/
theorem entries_of_no_arguments {rest : List Value} (no : ∀ args vs, rest ≠ .object args :: vs) :
    entries rest = rest.zipIdx 1 := by
  unfold entries
  split
  · rename_i args vs
    exact absurd rfl (no args vs)
  · rfl

/-- Only one thing is wrong with the head of a call. -/
theorem HeadFault.unique {xs : List Value} {i i' : Nat} {f f' : ShapeFault} (h : HeadFault xs i f)
    (h' : HeadFault xs i' f') : i' = i ∧ f' = f := by
  have whenNamed : whenName ≠ "" := by decide
  have composeNamed : composeName ≠ "" := by decide
  cases h with
  | noName no =>
    cases h' with
    | noName _ => exact ⟨rfl, rfl⟩
    | noConditions isWhen _ => exact absurd rfl (no _ (isWhen ▸ whenNamed))
    | composeArguments isCompose => exact absurd rfl (no _ (isCompose ▸ composeNamed))
  | noConditions isWhen no =>
    cases h' with
    | noName no' => exact absurd rfl (no' _ (isWhen ▸ whenNamed))
    | noConditions _ _ => exact ⟨rfl, rfl⟩
    | composeArguments _ => exact absurd rfl (no _ _)
  | composeArguments isCompose =>
    cases h' with
    | noName no' => exact absurd rfl (no' _ (isCompose ▸ composeNamed))
    | noConditions _ no => exact absurd rfl (no _ _)
    | composeArguments _ => exact ⟨rfl, rfl⟩

/-- The head of a call comes before its entries. -/
theorem HeadFault.before {head : Value} {rest : List Value} {i : Nat} {f : ShapeFault}
    (h : HeadFault (head :: rest) i f) {e : Value × Nat} (entry : e ∈ entries rest) : i < e.2 := by
  have place {vs : List Value} {k : Nat} (mem : e ∈ vs.zipIdx k) : k ≤ e.2 :=
    (List.mem_zipIdx mem).1
  have second : 1 ≤ e.2 := by
    unfold entries at entry
    split at entry
    · exact Nat.le_of_succ_le (place entry)
    · exact place entry
  cases h with
  | noName _ => exact second
  | noConditions _ _ => exact second
  | composeArguments _ => exact place entry

/-- **What is wrong with the head of a call** is the first that is wrong with it. -/
theorem HeadFault.first {v head : Value} {rest : List Value} {i : Nat} {f : ShapeFault}
    (items : v.items? = some (head :: rest)) (h : HeadFault (head :: rest) i f) :
    First (Offends v) f := by
  refine ⟨_, .head items h, ?_⟩
  intro p' f' offends
  obtain ⟨nothing, -⟩ | ⟨i', rfl, h'⟩ | ⟨_, _, _, _, _, same, entry, rfl, -⟩ :=
    offends.items_inv items
  · cases nothing
  · obtain ⟨rfl, rfl⟩ := h.unique h'
    exact ⟨Path.prefix_le (List.prefix_refl _), fun _ => rfl⟩
  · cases same
    have before := h.before entry
    refine ⟨(Path.le_cons ..).2 (.inl (by omega)), ?_⟩
    intro same
    have here := (List.cons.inj same).1
    omega

/-! ## The entries of a call -/

/-- An entry with which nothing is wrong. -/
def Clean (v : Value) : Prop := ∀ p f, ¬ Offends v p f

/-- What reading an entry has to come to. -/
def Judged (v : Value) : Except ShapeFault Node → Prop
  | .ok n => Entry v n ∧ Clean v
  | .error f => First (Offends v) f

/-- What reading entries has to come to: all of them are clean, or the first that is not is to blame. -/
def JudgedAll (vs : List Value) : Except ShapeFault (List Node) → Prop
  | .ok ns => List.Forall₂ Entry vs ns ∧ ∀ v ∈ vs, Clean v
  | .error f => ∃ (i : Nat) (v : Value), vs[i]? = some v ∧ First (Offends v) f ∧
      ∀ (j : Nat) (w : Value), j < i → vs[j]? = some w → Clean w

/-- Entries are read one by one. -/
theorem judgedAll {vs : List Value} (each : ∀ v ∈ vs, Judged v (readChild v)) :
    JudgedAll vs (readChildren vs) := by
  induction vs with
  | nil => exact ⟨.nil, nofun⟩
  | cons v rest ih =>
    obtain ⟨first, others⟩ := List.forall_mem_cons.1 each
    have later := ih others
    rw [readChildren]
    cases read : readChild v with
    | error f =>
      rw [read] at first
      exact ⟨0, v, rfl, first, fun j w before => absurd before (Nat.not_lt_zero j)⟩
    | ok n =>
      rw [read] at first
      simp only
      cases reads : readChildren rest with
      | error f =>
        rw [reads] at later
        obtain ⟨i, w, here, blamed, clean⟩ := later
        refine ⟨i + 1, w, here, blamed, ?_⟩
        rintro (_ | j) w' before there
        · obtain rfl := Option.some.inj there
          exact first.2
        · exact clean j w' (Nat.lt_of_succ_lt_succ before) there
      | ok ns =>
        rw [reads] at later
        exact ⟨.cons first.1 later.1, List.forall_mem_cons.2 ⟨first.2, later.2⟩⟩

section

variable {v head : Value} {rest vs : List Value} {k : Nat}
variable (items : v.items? = some (head :: rest)) (places : entries rest = vs.zipIdx k)
variable (sound : ∀ i f, ¬ HeadFault (head :: rest) i f)

include items places sound

/-- A call whose head is sound offends only in its entries. -/
theorem offends_below {p : Path} {f : ShapeFault} (h : Offends v p f) :
    ∃ (i : Nat) (c : Value) (p' : Path), vs[i]? = some c ∧ p = ((i + k : Nat) : Int) :: p' ∧
      Offends c p' f := by
  obtain ⟨nothing, -⟩ | ⟨i, -, fault⟩ | ⟨_, _, c, i, p', same, entry, rfl, inner⟩ := h.items_inv items
  · cases nothing
  · exact absurd fault (sound i f)
  · cases same
    rw [places, List.mk_mem_zipIdx_iff_le_and_getElem?_sub] at entry
    refine ⟨i - k, c, p', entry.2, ?_, inner⟩
    rw [Nat.sub_add_cancel entry.1]

/-- **A call with a sound head** is judged by its entries. -/
theorem judged_below {make : List Node → Node}
    (form : ∀ ns, List.Forall₂ Entry vs ns → Entry v (make ns)) {x : Except ShapeFault (List Node)}
    (judged : JudgedAll vs x) : Judged v (x.map make) := by
  cases x with
  | ok ns =>
    obtain ⟨each, clean⟩ := judged
    refine ⟨form ns each, ?_⟩
    intro p f offends
    obtain ⟨i, c, p', here, -, inner⟩ := offends_below items places sound offends
    exact clean c (List.mem_of_getElem? here) p' f inner
  | error f =>
    obtain ⟨i, c, here, ⟨p, offence, before⟩, clean⟩ := judged
    have entry : (c, i + k) ∈ entries rest := by
      rw [places, List.mk_mem_zipIdx_iff_le_and_getElem?_sub]
      exact ⟨Nat.le_add_left k i, by rw [Nat.add_sub_cancel]; exact here⟩
    refine ⟨_, .inside items entry offence, ?_⟩
    intro q g offends
    obtain ⟨j, d, q', there, rfl, inner⟩ := offends_below items places sound offends
    rcases Nat.lt_trichotomy i j with later | rfl | sooner
    · -- An offence in a later entry.
      refine ⟨(Path.le_cons ..).2 (.inl (by omega)), ?_⟩
      intro same
      have place := (List.cons.inj same).1
      omega
    · -- Another one in the same entry.
      obtain rfl := Option.some.inj (there.symm.trans here)
      obtain ⟨le, same⟩ := before q' g inner
      exact ⟨(Path.le_cons ..).2 (.inr ⟨rfl, le⟩), fun eq => same (List.cons.inj eq).2⟩
    · exact absurd inner (clean j d sooner there q' g)

end

/-! ## Reading -/

/-- A call without a name is refused for that. -/
theorem readItems_noName {head : Value} {rest : List Value}
    (no : ∀ s : String, s ≠ "" → head ≠ .text s) :
    readItems (head :: rest) = .error (.noName head) := by
  rw [readItems]
  cases head with
  | text s =>
    have empty : s = "" := Classical.byContradiction fun some_ => no s some_ rfl
    rw [readName, if_pos empty, empty]
  | _ => rfl

/-- A call without arguments is read entry by entry, unless it is a block. -/
theorem readItems_without {name : String} {rest : List Value} (named : name ≠ "")
    (no : ∀ args vs, rest ≠ .object args :: vs) : readItems (.text name :: rest) =
      if name = whenName then .error .noConditions else (readChildren rest).map (.mk name none) := by
  rw [readItems, readName, if_neg named]
  by_cases isWhen : name = whenName
  · cases rest with
    | nil => simp [checkHead, isWhen]
    | cons v vs =>
      cases v with
      | object args => exact absurd rfl (no args vs)
      | _ => simp [checkHead, isWhen]
  · cases rest with
    | nil => simp [checkHead, isWhen]
    | cons v vs =>
      cases v with
      | object args => exact absurd rfl (no args vs)
      | _ => simp [checkHead, isWhen]

/-- A call with arguments is read entry by entry, unless it is a composition. -/
theorem readItems_with {name : String} {args : Table Value} {vs : List Value} (named : name ≠ "") :
    readItems (.text name :: .object args :: vs) =
      if name = composeName then .error .composeArguments
      else (readChildren vs).map (.mk name (some args)) := by
  rw [readItems, readName, if_neg named]
  by_cases isCompose : name = composeName
  · simp [checkHead, isCompose]
  · simp [checkHead, isCompose]

/-- **The items of a call** are judged by its head, and then by its entries. -/
theorem judged_items {v : Value} {xs : List Value} (items : v.items? = some xs)
    (each : ∀ c ∈ xs, Judged c (readChild c)) : Judged v (readItems xs) := by
  cases xs with
  | nil =>
    refine ⟨[], .noCall items, ?_⟩
    intro p f offends
    obtain ⟨-, rfl, rfl⟩ | ⟨i, -, fault⟩ | ⟨_, _, _, _, _, same, -⟩ := offends.items_inv items
    · exact ⟨rfl, fun _ => rfl⟩
    · cases fault
    · cases same
  | cons head rest =>
    have others := (List.forall_mem_cons.1 each).2
    by_cases named : ∃ s : String, s ≠ "" ∧ head = .text s
    · obtain ⟨name, named, rfl⟩ := named
      by_cases given : ∃ args vs, rest = .object args :: vs
      · obtain ⟨args, vs, rfl⟩ := given
        rw [readItems_with named]
        by_cases isCompose : name = composeName
        · subst isCompose
          exact HeadFault.first items (.composeArguments rfl)
        · rw [if_neg isCompose]
          refine judged_below items rfl ?_ (fun ns below => .callWith items named isCompose below)
            (judgedAll (List.forall_mem_cons.1 others).2)
          intro i f fault
          cases fault with
          | noName no => exact no name named rfl
          | noConditions _ no => exact no args vs rfl
          | composeArguments same => exact isCompose same
      · have no (args : Table Value) (vs : List Value) : rest ≠ .object args :: vs :=
          fun same => given ⟨args, vs, same⟩
        rw [readItems_without named no]
        by_cases isWhen : name = whenName
        · subst isWhen
          exact HeadFault.first items (.noConditions rfl no)
        · rw [if_neg isWhen]
          refine judged_below items (entries_of_no_arguments no) ?_
            (fun ns below => .call items named isWhen below) (judgedAll others)
          intro i f fault
          cases fault with
          | noName no' => exact no' name named rfl
          | noConditions same _ => exact isWhen same
          | composeArguments _ => exact no _ _ rfl
    · have no (s : String) (some_ : s ≠ "") : head ≠ .text s := fun same => named ⟨s, some_, same⟩
      rw [readItems_noName no]
      exact HeadFault.first items (.noName no)

/-- An entry that is neither a text nor a list. -/
theorem judged_noChild {v : Value} (noText : ∀ s, v ≠ .text s) (noItems : v.items? = none) :
    Judged v (.error .noChild) := by
  refine ⟨[], .noChild noText noItems, ?_⟩
  intro p f offends
  cases offends with
  | emptyName => exact absurd rfl (noText _)
  | bareWhen => exact absurd rfl (noText _)
  | noChild _ _ => exact ⟨rfl, fun _ => rfl⟩
  | noCall items => cases noItems.symm.trans items
  | head items _ => cases noItems.symm.trans items
  | inside items _ _ => cases noItems.symm.trans items

/-- An entry that is a text is a name or has one offence. -/
theorem judged_text (s : String) : Judged (.text s) (readChild (.text s)) := by
  have alone {p : Path} {f : ShapeFault} (h : Offends (.text s) p f) :
      p = [] ∧ (s = "" ∧ f = .noName (.text "") ∨ s = whenName ∧ f = .noConditions) := by
    cases h with
    | emptyName => exact ⟨rfl, .inl ⟨rfl, rfl⟩⟩
    | bareWhen => exact ⟨rfl, .inr ⟨rfl, rfl⟩⟩
    | noChild noText _ => exact absurd rfl (noText s)
    | noCall items => cases items
    | head items _ => cases items
    | inside items _ _ => cases items
  rw [readChild]
  by_cases empty : s = ""
  · subst empty
    refine ⟨[], .emptyName, ?_⟩
    intro p f offends
    obtain ⟨rfl, ⟨-, rfl⟩ | ⟨isWhen, -⟩⟩ := alone offends
    · exact ⟨rfl, fun _ => rfl⟩
    · exact absurd isWhen (by decide)
  · rw [if_neg empty]
    by_cases isWhen : s = whenName
    · subst isWhen
      refine ⟨[], .bareWhen, ?_⟩
      intro p f offends
      obtain ⟨rfl, ⟨isEmpty, -⟩ | ⟨-, rfl⟩⟩ := alone offends
      · exact absurd isEmpty empty
      · exact ⟨rfl, fun _ => rfl⟩
    · rw [if_neg isWhen]
      refine ⟨.name empty isWhen, ?_⟩
      intro p f offends
      rcases (alone offends).2 with ⟨isEmpty, -⟩ | ⟨isWhen', -⟩
      · exact empty isEmpty
      · exact isWhen isWhen'

/-- **An entry is read as what it is**, or blamed for its first offence. -/
theorem judged : (v : Value) → Judged v (readChild v)
  | .text s => judged_text s
  | .list xs => judged_items rfl fun c _ => judged c
  | .tuple xs => judged_items rfl fun c _ => judged c
  | .null | .bool _ | .int _ | .float _ | .octets _ | .object _ | .date _ _ | .pattern _
  | .foreign _ _ => judged_noChild nofun rfl

/-! ## Completeness -/

/-- Values that are read are entries. -/
theorem entry_of_read {v : Value} {n : Node} (h : readChild v = .ok n) : Entry v n := by
  have sound := judged v
  rw [h] at sound
  exact sound.1

/-- A list and a tuple are read by their items. -/
theorem readChild_of_items {v : Value} {xs : List Value} (items : v.items? = some xs) :
    readChild v = readItems xs := by
  cases v with
  | list _ => cases items; rfl
  | tuple _ => cases items; rfl
  | _ => cases items

/-- So they are as whole call trees. -/
theorem read_of_items {v : Value} {xs : List Value} (items : v.items? = some xs) :
    read v = readItems xs := by
  cases v with
  | list _ => cases items; rfl
  | tuple _ => cases items; rfl
  | _ => cases items

/-- An object is no entry, so it is never taken for the first child. -/
theorem no_arguments {vs : List Value} {ns : List Node} (entries : List.Forall₂ Entry vs ns)
    (args : Table Value) (rest : List Value) : vs ≠ .object args :: rest := by
  rintro rfl
  cases entries with
  | cons first _ =>
    cases first with
    | call items _ _ _ => cases items
    | callWith items _ _ _ => cases items

mutual

/-- An entry is read as the call that it is. -/
theorem readChild_of_entry {v : Value} {n : Node} : Entry v n → readChild v = .ok n
  | .name named noWhen => by rw [readChild, if_neg named, if_neg noWhen]
  | .call items named noWhen below => by
    rw [readChild_of_items items, readItems_without named (no_arguments below), if_neg noWhen,
      readChildren_of_entries below]
    rfl
  | .callWith items named noCompose below => by
    rw [readChild_of_items items, readItems_with named, if_neg noCompose,
      readChildren_of_entries below]
    rfl

/-- Entries are read as the calls that they are. -/
theorem readChildren_of_entries {vs : List Value} {ns : List Node} :
    List.Forall₂ Entry vs ns → readChildren vs = .ok ns
  | .nil => rfl
  | .cons first others => by
    rw [readChildren, readChild_of_entry first]
    simp only [readChildren_of_entries others, Except.map]

end

/-- **The entries are the values that are read**, each as the call that it is. -/
theorem readChild_eq_ok_iff {v : Value} {n : Node} : readChild v = .ok n ↔ Entry v n :=
  ⟨entry_of_read, readChild_of_entry⟩

/-- A value that is no list or tuple is no call tree. -/
theorem read_of_no_items {v : Value} (noItems : v.items? = none) : read v = .error (.noList v) := by
  cases v with
  | list _ => cases noItems
  | tuple _ => cases noItems
  | _ => rfl

/-- **A call tree is what has the call form**, and is read as the call that it is. -/
theorem read_eq_ok_iff {v : Value} {n : Node} : read v = .ok n ↔ CallForm v n := by
  cases items : v.items? with
  | none =>
    rw [read_of_no_items items]
    refine ⟨nofun, ?_⟩
    rintro ⟨some_, -⟩
    rw [items] at some_
    cases some_
  | some xs =>
    have listed : v.items?.isSome = true := by rw [items]; rfl
    rw [read_of_items items, ← readChild_of_items items, readChild_eq_ok_iff]
    exact ⟨fun entry => ⟨listed, entry⟩, And.right⟩

theorem mem_of_mem_entries {c : Value} {i : Nat} {rest : List Value} (entry : (c, i) ∈ entries rest) :
    c ∈ rest := by
  unfold entries at entry
  split at entry
  · exact List.mem_cons_of_mem _ (List.fst_mem_of_mem_zipIdx entry)
  · exact List.fst_mem_of_mem_zipIdx entry

/-- What is quoted is part of the entry at fault. -/
theorem Offends.partOf {v w : Value} {p : Path} {f : ShapeFault} (h : Offends v p f) (quotes : f.Quotes w) :
    Value.PartOf w v := by
  induction h with
  | emptyName =>
    cases quotes
    exact .self
  | head items fault =>
    cases fault with
    | noName _ =>
      cases quotes
      exact (Value.partOf_items_iff items).2 (.inr ⟨_, List.mem_cons_self, .self⟩)
    | _ => cases quotes
  | inside items entry _ ih =>
    exact (Value.partOf_items_iff items).2
      (.inr ⟨_, List.mem_cons_of_mem _ (mem_of_mem_entries entry), ih quotes⟩)
  | _ => cases quotes

/-- So it is for a whole call tree: what is quoted can be written if the tree can be. -/
theorem RootOffends.told {v : Value} {p : Path} {f : ShapeFault} (h : RootOffends v p f)
    (writable : v.Writable) : f.Told := by
  rw [ShapeFault.told_iff]
  intro w quotes
  have part : Value.PartOf w v := by
    cases h with
    | noList _ =>
      cases quotes
      exact .self
    | entry _ offends => exact offends.partOf quotes
  exact fun n inner => writable n (inner.trans part)

/-- The least number of too many digits. -/
def tooLong : Int := (10 ^ Decimal.digitLimit : Nat)

-- An offence of the name comes before those of the children, and a child before later ones.
example : read (.list [.text "viewer", .list [.text "::when", .text ""], .int 1]) =
    .error .noConditions := rfl

end Node

end CallTree
