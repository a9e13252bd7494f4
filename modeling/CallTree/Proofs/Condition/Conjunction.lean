/-
# CallTree.Proofs.Condition.Conjunction — a condition set is the conjunction of its entries.

A set holds if each of its entries does by itself, in whatever order they stand, and it looks at nothing
but the fields that its entries name. Operands between which there is no comparison make an entry false.
The one thing that keeps a set with patterns of text from an answer is an entry that is reached and stuck
(`Condition.Entry.Stuck`): octets that are asked for a number that is no octet, or a match in which a
group ends before it begins (`Condition.conjunctive`).
-/
import Mathlib.Data.List.Perm.Basic
import CallTree.Proofs.Condition
import CallTree.Proofs.Table

namespace CallTree

namespace Value

/-! ## Operands that can be compared -/

/-- The first items at one place in two lists that are not loosely equal. -/
inductive FirstDiffer : List Value → List Value → Value → Value → Prop where
  | here {v w : Value} {xs ys : List Value} (differ : same v w = false) :
      FirstDiffer (v :: xs) (w :: ys) v w
  | later {a b v w : Value} {xs ys : List Value} (alike : same a b = true)
      (rest : FirstDiffer xs ys v w) : FirstDiffer (a :: xs) (b :: ys) v w

/-- **Values between which there may be an order**: two numbers, booleans among them, two texts, two octet
strings, and two lists or two tuples of which the first items that differ are such values. Two dates come
one after the other as well; `ordered?` leaves that open, and nothing is said of them. -/
inductive Comparable : Value → Value → Prop where
  | numbers {v w : Value} (left : v.kind ∈ [.bool, .int, .float])
      (right : w.kind ∈ [.bool, .int, .float]) : Comparable v w
  | texts (s t : String) : Comparable (.text s) (.text t)
  | octets (as bs : List UInt8) : Comparable (.octets as) (.octets bs)
  | dates (s t : String) (a b : Bool) : Comparable (.date s a) (.date t b)
  | lists {xs ys : List Value} (decided : ∀ v w, FirstDiffer xs ys v w → Comparable v w) :
      Comparable (.list xs) (.list ys)
  | tuples {xs ys : List Value} (decided : ∀ v w, FirstDiffer xs ys v w → Comparable v w) :
      Comparable (.tuple xs) (.tuple ys)

/-- **A container, and what it may be asked for**: a text for a text, a list or tuple for anything, an
object for what can be a key, octets for octets or a whole number. -/
inductive Askable : Value → Value → Prop where
  | text (s t : String) : Askable (.text s) (.text t)
  | list (xs : List Value) (v : Value) : Askable (.list xs) v
  | tuple (xs : List Value) (v : Value) : Askable (.tuple xs) v
  | object (fs : Table Value) {k : Value} (keyable : k.unkeyable? = none) : Askable (.object fs) k
  | octets (bs part : List UInt8) : Askable (.octets bs) (.octets part)
  | octet (bs : List UInt8) {k : Value} (number : k.kind ∈ [.bool, .int]) : Askable (.octets bs) k

/-- What an order says something of, at the top. -/
theorem ordered_inv {o : Order} {v w : Value} (h : (ordered? o v w).isSome = true) :
    (v.kind ∈ [Kind.bool, .int, .float] ∧ w.kind ∈ [Kind.bool, .int, .float]) ∨
    (∃ s t, v = .text s ∧ w = .text t) ∨ (∃ as bs, v = .octets as ∧ w = .octets bs) ∨
    (∃ xs ys, v = .list xs ∧ w = .list ys ∧ (orderedItems? o xs ys).isSome = true) ∨
    ∃ xs ys, v = .tuple xs ∧ w = .tuple ys ∧ (orderedItems? o xs ys).isSome = true := by
  unfold ordered? at h
  split at h
  · exact .inr (.inl ⟨_, _, rfl, rfl⟩)
  · exact .inr (.inr (.inl ⟨_, _, rfl, rfl⟩))
  · exact .inr (.inr (.inr (.inl ⟨_, _, rfl, rfl, h⟩)))
  · exact .inr (.inr (.inr (.inr ⟨_, _, rfl, rfl, h⟩)))
  · -- All pairs of kinds that are told apart here are kinds of numbers, the last case excepted.
    split at h
    case h_10 => cases h
    all_goals
      rename_i left right
      rw [left, right]
      exact .inl (by decide)

mutual

/-- **Where there is an order, there may be one.** -/
theorem comparable_of_ordered {o : Order} (v w : Value) (h : (ordered? o v w).isSome = true) :
    Comparable v w := by
  rcases ordered_inv h with ⟨left, right⟩ | ⟨s, t, rfl, rfl⟩ | ⟨as, bs, rfl, rfl⟩ |
    ⟨xs, ys, rfl, rfl, items⟩ | ⟨xs, ys, rfl, rfl, items⟩
  · exact .numbers left right
  · exact .texts s t
  · exact .octets as bs
  · exact .lists (comparable_of_orderedItems xs ys items)
  · exact .tuples (comparable_of_orderedItems xs ys items)
termination_by sizeOf v

/-- The first items that differ decide. -/
theorem comparable_of_orderedItems {o : Order} (xs ys : List Value)
    (h : (orderedItems? o xs ys).isSome = true) (v w : Value) (first : FirstDiffer xs ys v w) :
    Comparable v w := by
  cases first with
  | here differ =>
    rw [orderedItems?, if_neg (Bool.eq_false_iff.1 differ)] at h
    exact comparable_of_ordered v w h
  | later alike rest =>
    rw [orderedItems?, if_pos alike] at h
    exact comparable_of_orderedItems _ _ h v w rest
termination_by sizeOf xs

end

/-- A container that cannot be asked for a value does not hold it. -/
theorem contains_of_not_askable {v w : Value} (no : ¬ Askable v w) : v.contains w = .ok false := by
  unfold contains
  split
  · exact absurd (.text _ _) no
  · exact absurd (.list _ _) no
  · exact absurd (.tuple _ _) no
  · exact absurd (.object _ rfl) no
  · exact absurd (.octets _ _) no
  · exact absurd (.octet _ (by simp [kind])) no
  · exact absurd (.octet _ (by simp [kind])) no
  · rfl

/-- The one thing that a container cannot be asked: octets, for a number that is no octet. -/
theorem contains_fails_iff {v w : Value} : (∃ f, v.contains w = .error f) ↔
    ∃ bs n, v = .octets bs ∧ w = .int n ∧ ¬ (0 ≤ n ∧ n < 256) := by
  constructor
  · rintro ⟨f, fails⟩
    unfold contains at fails
    split at fails
    case h_6 bs n =>
      split at fails
      · cases fails
      · rename_i outside
        exact ⟨bs, n, rfl, rfl, outside⟩
    all_goals cases fails
  · rintro ⟨bs, n, rfl, rfl, outside⟩
    exact ⟨.noOctet, if_neg outside⟩

end Value

/-- A pattern of text cannot be asked about a text where it occurs with a broken group. -/
theorem Pattern.occursIn_fails_iff {p : Pattern} (isText : p.isText = true) {s : String} :
    (∃ f, p.occursIn s = .error f) ↔
      ∃ spot, search p.tree p.flags s.toList.toArray = some spot ∧ spot.marks.allSpans = false := by
  unfold occursIn
  rw [if_pos isText]
  cases search p.tree p.flags s.toList.toArray with
  | none => simp
  | some spot => cases broken : spot.marks.allSpans <;> simp [broken]

namespace Condition

open Value

/-! ## One entry -/

/-- Whether two operands are of kinds that an operator can compare. -/
def Operator.Suits : Operator → Value → Value → Prop
  | .lt | .gt | .lte | .gte => Comparable
  | .matches => fun v _ => ∃ s, v = .text s
  | .contains => Askable
  | .eql | .nql | .truthy | .falsy => fun _ _ => True

namespace Entry

/-- The value that an entry looks at: a missing field counts as null. -/
def operand (e : Entry) (output : Table Value) : Value := (output.get? e.field).getD .null

/-- An entry of which the pattern, if it is asked for one, is a text or a pattern of text. -/
def Textual (e : Entry) : Prop :=
  e.operator = .matches →
    (∃ s, e.expected = .text s) ∨ ∃ p : Pattern, e.expected = .pattern p ∧ p.isText = true

/-- **An entry that is stuck** on an output: it asks octets for a number that is no octet, or its pattern
occurs in the text in such a way that a group ends before it begins. -/
inductive Stuck (e : Entry) (output : Table Value) : Prop where
  | octet {bs : List UInt8} {n : Int} (asks : e.operator = .contains)
      (octets : e.operand output = .octets bs) (number : e.expected = .int n)
      (outside : ¬ (0 ≤ n ∧ n < 256))
  | span {s : String} {p : Pattern} {spot : Pattern.Spot} (asks : e.operator = .matches)
      (text : e.operand output = .text s) (known : readPattern e.expected = .ok p)
      (found : Pattern.search p.tree p.flags s.toList.toArray = some spot)
      (broken : spot.marks.allSpans = false)

/-- Operands that cannot be compared make an entry false. -/
theorem holds_of_not_suits {e : Entry} {output : Table Value}
    (no : ¬ e.operator.Suits (e.operand output) e.expected) : e.holds output = .ok false := by
  have unordered (o : Order) (no : ¬ Comparable (e.operand output) e.expected) :
      (ordered? o (e.operand output) e.expected).getD false = false := by
    cases ordered : ordered? o (e.operand output) e.expected with
    | none => rfl
    | some b => exact absurd (comparable_of_ordered _ _ (by rw [ordered]; rfl)) no
  show compare e.operator (e.operand output) e.expected = _
  -- Operators that are defined for all operands always suit, so there is nothing to show of them.
  cases asks : e.operator <;> rw [asks] at no
  case eql | nql | truthy | falsy => exact absurd trivial no
  case lt | gt | lte | gte => exact congrArg Except.ok (unordered _ no)
  case «matches» =>
    show matchesPattern _ _ = _
    unfold matchesPattern
    split
    · rename_i s isText
      exact absurd ⟨s, isText⟩ no
    · rfl
  case contains =>
    show (Value.contains _ _).mapError _ = _
    rw [contains_of_not_askable no]
    rfl

/-- What a pattern of text is read as, is a pattern of text. -/
theorem isText_of_read {v : Value} {p : Pattern}
    (textual : (∃ s, v = .text s) ∨ ∃ p : Pattern, v = .pattern p ∧ p.isText = true)
    (known : readPattern v = .ok p) : p.isText = true := by
  rcases textual with ⟨s, rfl⟩ | ⟨p', rfl, isText⟩
  · obtain ⟨_, -, rfl⟩ := map_eq_ok_iff.1 (mapError_eq_ok_iff.1 known)
    rfl
  · cases known
    exact isText

/-- **An entry fails to answer exactly if it is stuck.** -/
theorem fails_iff {e : Entry} (ready : e.Ready) (textual : e.Textual) {output : Table Value} :
    (∃ f, e.holds output = .error f) ↔ e.Stuck output := by
  have other (a : e.operator ≠ .matches) (b : e.operator ≠ .contains) : ¬ e.Stuck output := by
    rintro (⟨asks, -, -, -⟩ | ⟨asks, -, -, -, -⟩)
    · exact b asks
    · exact a asks
  show (∃ f, compare e.operator (e.operand output) e.expected = .error f) ↔ _
  -- Two operators can fail. An entry with any other is never stuck.
  cases asks : e.operator
  case «matches» =>
    obtain ⟨p, known⟩ := ready asks
    show (∃ f, matchesPattern (e.operand output) e.expected = .error f) ↔ _
    unfold matchesPattern
    split
    · rename_i s isText
      rw [known]
      show (∃ f, (p.occursIn s).mapError _ = .error f) ↔ _
      rw [mapError_fails_iff, Pattern.occursIn_fails_iff (isText_of_read (textual asks) known)]
      constructor
      · rintro ⟨spot, found, broken⟩
        exact .span asks isText known found broken
      · rintro (⟨asks', -, -, -⟩ | ⟨-, isText', known', found, broken⟩)
        · cases asks.symm.trans asks'
        · cases isText.symm.trans isText'
          cases known.symm.trans known'
          exact ⟨_, found, broken⟩
    · rename_i noText
      refine iff_of_false nofun ?_
      rintro (⟨asks', -, -, -⟩ | ⟨-, isText, -, -, -⟩)
      · cases asks.symm.trans asks'
      · exact noText _ isText
  case contains =>
    show (∃ f, (Value.contains _ _).mapError _ = .error f) ↔ _
    rw [mapError_fails_iff, contains_fails_iff]
    constructor
    · rintro ⟨bs, n, octets, number, outside⟩
      exact .octet asks octets number outside
    · rintro (⟨-, octets, number, outside⟩ | ⟨asks', -, -, -, -⟩)
      · exact ⟨_, _, octets, number, outside⟩
      · cases asks.symm.trans asks'
  all_goals
    refine iff_of_false nofun (other ?_ ?_) <;> rw [asks] <;> nofun

end Entry

/-! ## All entries -/

/-- Entries hold together if each of them does. -/
theorem allHold_eq_true_iff {output : Table Value} {entries : List Entry} :
    allHold output entries = .ok true ↔ ∀ e ∈ entries, e.holds output = .ok true := by
  induction entries with
  | nil => simp [allHold]
  | cons e rest ih =>
    rw [allHold, List.forall_mem_cons, ← ih]
    cases e.holds output with
    | error f => simp
    | ok b => cases b <;> simp

/-- Entries fail to answer if one of them does that is reached: those before it hold. -/
theorem allHold_fails_iff {output : Table Value} {entries : List Entry} :
    (∃ f, allHold output entries = .error f) ↔
      ∃ before e after, entries = before ++ e :: after ∧
        (∀ d ∈ before, d.holds output = .ok true) ∧ ∃ f, e.holds output = .error f := by
  induction entries with
  | nil => simp [allHold]
  | cons e rest ih =>
    rw [allHold]
    constructor
    · intro fails
      cases here : e.holds output with
      | error f => exact ⟨[], e, rest, rfl, List.forall_mem_nil _, f, here⟩
      | ok b =>
        rw [here] at fails
        cases b with
        | false => exact absurd fails (by simp)
        | true =>
          obtain ⟨before, d, after, rfl, passed, fails⟩ := ih.1 fails
          exact ⟨e :: before, d, after, rfl, List.forall_mem_cons.2 ⟨here, passed⟩, fails⟩
    · rintro ⟨before, d, after, parts, passed, fails⟩
      cases before with
      | nil =>
        cases parts
        obtain ⟨f, here⟩ := fails
        rw [here]
        exact ⟨f, rfl⟩
      | cons first before =>
        cases parts
        obtain ⟨here, others⟩ := List.forall_mem_cons.1 passed
        rw [here]
        exact ih.2 ⟨before, d, after, rfl, others, fails⟩

/-- Entries look at nothing of an output but their operands. -/
theorem allHold_congr {output output' : Table Value} {entries : List Entry}
    (alike : ∀ e ∈ entries, e.operand output' = e.operand output) :
    allHold output' entries = allHold output entries := by
  induction entries with
  | nil => rfl
  | cons e rest ih =>
    obtain ⟨here, others⟩ := List.forall_mem_cons.1 alike
    have same : e.holds output' = e.holds output := by
      show compare e.operator (e.operand output') e.expected = _
      rw [here]
      rfl
    rw [allHold, allHold, same, ih others]

/-! ## Sets -/

/-- What is read of the fields of a condition set, entry by entry. -/
theorem readEntries_eq_ok_iff {fs : Table Value} {entries : List Entry} :
    readEntries fs = .ok entries ↔
      List.Forall₂ (fun f e => readEntry f.1 f.2 = .ok e) fs entries := by
  induction fs generalizing entries with
  | nil => cases entries <;> simp [readEntries]
  | cons f rest ih =>
    obtain ⟨name, v⟩ := f
    rw [readEntries]
    cases here : readEntry name v with
    | error g =>
      constructor
      · intro accepted
        cases accepted
      · intro all
        cases all with
        | cons first _ => cases here.symm.trans first
    | ok e =>
      show (readEntries rest).map (e :: ·) = .ok entries ↔ _
      rw [map_eq_ok_iff]
      constructor
      · rintro ⟨others, known, rfl⟩
        exact .cons here (ih.1 known)
      · intro all
        cases all with
        | cons first others =>
          cases here.symm.trans first
          exact ⟨_, ih.2 others, rfl⟩

/-- Only objects are read as condition sets. -/
theorem read_eq_ok_iff {conditions : Value} {entries : List Entry} :
    read conditions = .ok entries ↔ ∃ fs, conditions = .object fs ∧
      List.Forall₂ (fun f e => readEntry f.1 f.2 = .ok e) fs entries := by
  unfold read
  split
  · rename_i fs
    rw [readEntries_eq_ok_iff]
    simp
  · rename_i noObject
    refine iff_of_false nofun ?_
    rintro ⟨fs, rfl, -⟩
    exact noObject fs rfl

/-- A set that can be read answers as its entries do. -/
theorem pass_of_read {conditions : Value} {entries : List Entry}
    (accepted : read conditions = .ok entries) (output : Table Value) :
    pass conditions output = (allHold output entries).mapError .compare := by
  rw [pass, accepted]

/-- **A set holds if and only if each of its entries does.** -/
theorem pass_eq_true_iff {conditions : Value} {entries : List Entry}
    (accepted : read conditions = .ok entries) {output : Table Value} :
    pass conditions output = .ok true ↔ ∀ e ∈ entries, e.holds output = .ok true := by
  rw [pass_of_read accepted, mapError_eq_ok_iff, allHold_eq_true_iff]

/-- The same of fields of a set that are each read as an entry, one by one. -/
theorem pass_singles_iff {fs : Table Value} {entries : List Entry} {output : Table Value}
    (each : List.Forall₂ (fun f e => readEntry f.1 f.2 = .ok e) fs entries) :
    (∀ f ∈ fs, pass (.object [f]) output = .ok true) ↔
      ∀ e ∈ entries, e.holds output = .ok true := by
  induction each with
  | nil => simp
  | @cons f e _ _ here _ ih =>
    have alone : pass (.object [f]) output = .ok true ↔ e.holds output = .ok true := by
      rw [pass_eq_true_iff (read_eq_ok_iff.2 ⟨[f], rfl, .cons here .nil⟩)]
      simp
    rw [List.forall_mem_cons, List.forall_mem_cons, ih, alone]

/-- A set in another order is read as the same entries in another order. -/
theorem read_perm {fs fs' : Table Value} {entries : List Entry}
    (accepted : read (.object fs) = .ok entries) (reordered : fs.Perm fs') :
    ∃ entries', read (.object fs') = .ok entries' ∧ entries'.Perm entries := by
  have each := readEntries_eq_ok_iff.1 accepted
  obtain ⟨entries', each', moved⟩ := List.perm_comp_forall₂ reordered.symm each
  exact ⟨entries', readEntries_eq_ok_iff.2 each', moved⟩

/-- Whether a set holds does not depend on the order of its entries. -/
theorem pass_eq_true_perm {fs fs' : Table Value} {entries : List Entry}
    (accepted : read (.object fs) = .ok entries) (reordered : fs.Perm fs') (output : Table Value) :
    pass (.object fs') output = .ok true ↔ pass (.object fs) output = .ok true := by
  obtain ⟨entries', accepted', moved⟩ := read_perm accepted reordered
  rw [pass_eq_true_iff accepted', pass_eq_true_iff accepted]
  simp only [moved.mem_iff]

/-- **Two sets under different operators hold together if and only if each does.** -/
theorem pass_merge_iff {fs gs : Table Value} {entries others : List Entry}
    (accepted : read (.object fs) = .ok entries) (acceptedToo : read (.object gs) = .ok others)
    (apart : (Table.keys fs ++ Table.keys gs).Nodup) (output : Table Value) :
    pass (.object (Table.merge fs gs)) output = .ok true ↔
      pass (.object fs) output = .ok true ∧ pass (.object gs) output = .ok true := by
  have together : read (.object (Table.merge fs gs)) = .ok (entries ++ others) := by
    rw [Table.merge_of_nodup apart]
    apply readEntries_eq_ok_iff.2
    exact List.rel_append (readEntries_eq_ok_iff.1 accepted) (readEntries_eq_ok_iff.1 acceptedToo)
  rw [pass_eq_true_iff together, pass_eq_true_iff accepted, pass_eq_true_iff acceptedToo]
  exact List.forall_mem_append

/-- A set looks at the fields that its entries name, and takes a missing one for null. -/
theorem pass_frame {conditions : Value} {entries : List Entry}
    (accepted : read conditions = .ok entries) {output output' : Table Value}
    (frame : ∀ e ∈ entries, output'.get? e.field = output.get? e.field ∨
      output.get? e.field = some .null ∧ output'.get? e.field = none) :
    pass conditions output' = pass conditions output := by
  rw [pass_of_read accepted, pass_of_read accepted]
  congr 1
  apply allHold_congr
  intro e mem
  unfold Entry.operand
  rcases frame e mem with same | ⟨null, missing⟩
  · rw [same]
  · rw [null, missing]
    rfl

section

variable {entries : List Entry} (textual : ∀ e ∈ entries, e.Textual)

include textual

/-- A set fails to answer if and only if an entry is stuck that is reached. -/
theorem pass_fails_iff {conditions : Value} (accepted : read conditions = .ok entries)
    {output : Table Value} : (∃ f, pass conditions output = .error f) ↔
      ∃ before e after, entries = before ++ e :: after ∧
        (∀ d ∈ before, d.holds output = .ok true) ∧ e.Stuck output := by
  have ready := reads_set conditions
  rw [accepted] at ready
  have stuck (e : Entry) (mem : e ∈ entries) : (∃ f, e.holds output = .error f) ↔ e.Stuck output :=
    Entry.fails_iff (ready e mem) (textual e mem)
  rw [pass_of_read accepted, mapError_fails_iff, allHold_fails_iff]
  constructor
  · rintro ⟨before, e, after, rfl, passed, fails⟩
    exact ⟨before, e, after, rfl, passed, (stuck e (by simp)).1 fails⟩
  · rintro ⟨before, e, after, rfl, passed, fails⟩
    exact ⟨before, e, after, rfl, passed, (stuck e (by simp)).2 fails⟩

/-- A set of which no entry is stuck has an answer. -/
theorem pass_answers {conditions : Value} (accepted : read conditions = .ok entries)
    {output : Table Value} (free : ∀ e ∈ entries, ¬ e.Stuck output) :
    ∃ b, pass conditions output = .ok b := by
  cases answer : pass conditions output with
  | ok b => exact ⟨b, rfl⟩
  | error f =>
    obtain ⟨before, e, after, rfl, -, fails⟩ := (pass_fails_iff textual accepted).1 ⟨f, answer⟩
    exact absurd fails (free e (by simp))

/-- A set of which no entry is stuck has the same answer in every order. -/
theorem pass_perm {fs fs' : Table Value} (accepted : read (.object fs) = .ok entries)
    (reordered : fs.Perm fs') {output : Table Value} (free : ∀ e ∈ entries, ¬ e.Stuck output) :
    pass (.object fs') output = pass (.object fs) output := by
  obtain ⟨entries', accepted', moved⟩ := read_perm accepted reordered
  obtain ⟨b, answer⟩ := pass_answers textual accepted free
  have textual' : ∀ e ∈ entries', e.Textual := fun e mem => textual e (moved.mem_iff.1 mem)
  have free' : ∀ e ∈ entries', ¬ e.Stuck output := fun e mem => free e (moved.mem_iff.1 mem)
  obtain ⟨b', answer'⟩ := pass_answers textual' accepted' free'
  have same := pass_eq_true_perm accepted reordered output
  rw [answer, answer', Except.ok.injEq, Except.ok.injEq] at same
  rw [answer, answer', Bool.eq_iff_iff.2 same]

end

/-- **A condition set is the conjunction of its entries.** A set with patterns of text has an answer, unless
one of its entries is reached that is stuck; operands between which there is no comparison only make their
entry false. The set holds if and only if each of its entries does by itself. Neither the order of the entries
matters to that, nor any field of the output that no entry names, nor whether a field that is null is there at
all; and two sets under different operators hold together if and only if each does. -/
theorem conjunctive {conditions : Value} {entries : List Entry}
    (accepted : read conditions = .ok entries) (textual : ∀ e ∈ entries, e.Textual) :
    ∃ fs, conditions = .object fs ∧ ∀ output : Table Value,
      ((∃ f, pass conditions output = .error f) ↔
        ∃ before e after, entries = before ++ e :: after ∧
          (∀ d ∈ before, d.holds output = .ok true) ∧ e.Stuck output) ∧
      (∀ e ∈ entries, ¬ e.operator.Suits (e.operand output) e.expected →
        e.holds output = .ok false) ∧
      (pass conditions output = .ok true ↔ ∀ f ∈ fs, pass (.object [f]) output = .ok true) ∧
      (∀ fs', fs.Perm fs' →
        (pass (.object fs') output = .ok true ↔ pass conditions output = .ok true) ∧
        ((∀ e ∈ entries, ¬ e.Stuck output) →
          pass (.object fs') output = pass conditions output)) ∧
      (∀ output' : Table Value,
        (∀ e ∈ entries, output'.get? e.field = output.get? e.field ∨
          output.get? e.field = some .null ∧ output'.get? e.field = none) →
        pass conditions output' = pass conditions output) ∧
      (∀ gs others, read (.object gs) = .ok others → (Table.keys fs ++ Table.keys gs).Nodup →
        (pass (.object (Table.merge fs gs)) output = .ok true ↔
          pass conditions output = .ok true ∧ pass (.object gs) output = .ok true)) := by
  obtain ⟨fs, rfl, each⟩ := read_eq_ok_iff.1 accepted
  refine ⟨fs, rfl, fun output => ⟨?_, ?_, ?_, ?_, ?_, ?_⟩⟩
  · exact pass_fails_iff textual accepted
  · exact fun e _ no => Entry.holds_of_not_suits no
  · rw [pass_eq_true_iff accepted, pass_singles_iff each]
  · intro fs' reordered
    exact ⟨pass_eq_true_perm accepted reordered output, pass_perm textual accepted reordered⟩
  · exact fun output' frame => pass_frame accepted frame
  · exact fun gs others acceptedToo apart => pass_merge_iff accepted acceptedToo apart output

/-- An output without tags, in a null or in nothing, makes an entry on them false, whatever the other entry
says and whichever of the two comes first. -/
theorem conjunctive_tags :
    let fs : Table Value :=
      [("contains", .list [.text "tags", .text "x"]), ("match", .list [.text "name", .text "a+"])]
    let output : Table Value := [("name", .text "baab"), ("tags", .null)]
    pass (.object fs) output = .ok false ∧ pass (.object fs.reverse) output = .ok false ∧
      pass (.object fs) [("name", .text "baab")] = .ok false := by
  intro fs output
  let tags : Entry := ⟨.contains, "tags", .text "x"⟩
  let name : Entry := ⟨.matches, "name", .text "a+"⟩
  have accepted : read (.object fs) = .ok [tags, name] := rfl
  have textual : ∀ e ∈ [tags, name], e.Textual := by
    simp only [List.forall_mem_cons, List.not_mem_nil, false_imp_iff, implies_true, and_true]
    exact ⟨nofun, fun _ => .inl ⟨_, rfl⟩⟩
  obtain ⟨_, same, parts⟩ := conjunctive accepted textual
  cases same
  obtain ⟨-, unsuited, -, order, frame, -⟩ := parts output
  have absent : tags.holds output = .ok false := by
    apply unsuited tags List.mem_cons_self
    show ¬ Askable .null (.text "x")
    nofun
  have free : ∀ e ∈ [tags, name], ¬ e.Stuck output := by
    simp only [List.forall_mem_cons, List.not_mem_nil, false_imp_iff, implies_true, and_true]
    constructor
    · rintro (⟨-, octets, -, -⟩ | ⟨asks, -, -, -, -⟩)
      · cases octets
      · cases asks
    · intro stuck
      have found : name.holds output = .ok true := rfl
      obtain ⟨f, failed⟩ := (Entry.fails_iff (fun _ => ⟨_, rfl⟩) (textual name (by simp))).2 stuck
      cases found.symm.trans failed
  have answer : pass (.object fs) output = .ok false := by
    obtain ⟨b, known⟩ := pass_answers textual accepted free
    cases b with
    | false => exact known
    | true => cases absent.symm.trans ((pass_eq_true_iff accepted).1 known tags List.mem_cons_self)
  refine ⟨answer, ?_, ?_⟩
  · rw [(order fs.reverse (List.reverse_perm fs).symm).2 free, answer]
  · rw [frame [("name", .text "baab")], answer]
    simp only [List.forall_mem_cons, List.not_mem_nil, false_imp_iff, implies_true, and_true]
    exact ⟨.inr ⟨rfl, rfl⟩, .inl rfl⟩

/-- **Octets that are asked for a number that is no octet** leave a set that has been read without an
answer, though nothing is amiss with the set. -/
theorem conjunctive_octets :
    read (.object [("contains", .list [.text "a", .int 300])]) =
        .ok [⟨.contains, "a", .int 300⟩] ∧
      pass (.object [("contains", .list [.text "a", .int 300])]) [("a", .octets [97])] =
        .error (.compare .noOctet) :=
  ⟨rfl, rfl⟩

end Condition

end CallTree
