/-
# CallTree.Proofs.Condition — what can go wrong with conditions.

A condition set is read as a whole before anything is asked of it. By the time a pattern is looked for
in a text it has therefore been read once (`Condition.Entry.Ready`), and does not turn out to be faulty
any more. So a condition set fails to answer for one of three reasons (`Condition.pass_error`): it cannot
be read, a pattern cannot be asked about a text, or an octet string is asked about a number that is no
octet.
-/
import CallTree.Condition
import CallTree.Proofs.Except

namespace CallTree

namespace Condition

/-! ## Reading -/

/-- Where charset flags contradict each other, the sentence names two of them. -/
theorem charset_of_readPattern {v : Value} {sentence : String}
    (h : readPattern v = .error (.charsetContradiction sentence)) :
    ∃ left right, sentence = left ++ " and " ++ right ++ " flags are incompatible" := by
  have named {source : List Char} {ascii : Bool} {result : Except Pattern.Fault Pattern}
      (h : result.mapError (PatternFault.ofFault source ascii) =
        .error (.charsetContradiction sentence)) :
      ∃ left right, sentence = left ++ " and " ++ right ++ " flags are incompatible" := by
    obtain ⟨f, -, same⟩ := error_of_mapError h
    cases f with
    | charsetContradiction left right =>
      cases same
      exact ⟨left, right, rfl⟩
    | _ => cases same
  unfold readPattern at h
  split at h
  · cases h
  · exact named h
  · exact named h
  · split at h <;> cases h

/-- An entry of which the pattern, if it is asked for one, has been read. -/
def Entry.Ready (e : Entry) : Prop := e.operator = .matches → ∃ p, readPattern e.expected = .ok p

/-- What reading comes to: something good, or a fault. A fault of a pattern is that of one which could
not be read. -/
def Reads {α : Type} (Good : α → Prop) : Except SetFault α → Prop
  | .ok a => Good a
  | .error g => ∀ f, g = .badPattern f → ∃ v, readPattern v = .error f

theorem reads_entry (name : String) (v : Value) : Reads Entry.Ready (readEntry name v) := by
  unfold readEntry
  split
  · exact nofun
  · split
    · simp only
      split
      · exact nofun
      · split
        · split
          · rename_i f unread
            rintro _ ⟨⟩
            exact ⟨_, unread⟩
          · rename_i p known
            exact fun _ => ⟨p, known⟩
        · rename_i other
          exact fun same => absurd same other
    · exact nofun

theorem reads_entries (fs : Table Value) :
    Reads (fun entries => ∀ e ∈ entries, e.Ready) (readEntries fs) := by
  induction fs with
  | nil => exact nofun
  | cons entry rest ih =>
    have first := reads_entry entry.1 entry.2
    rw [readEntries]
    cases here : readEntry entry.1 entry.2 with
    | error g =>
      rw [here] at first
      exact first
    | ok e =>
      rw [here] at first
      cases others : readEntries rest with
      | error g =>
        rw [others] at ih
        exact ih
      | ok entries =>
        rw [others] at ih
        exact List.forall_mem_cons.2 ⟨first, ih⟩

/-- **What reading a condition set comes to**: entries that are ready, or a fault. -/
theorem reads_set (conditions : Value) :
    Reads (fun entries => ∀ e ∈ entries, e.Ready) (read conditions) := by
  unfold read
  split
  · exact reads_entries _
  · exact nofun

/-! ## Asking -/

/-- **What can go wrong with an entry that is ready.** -/
theorem Entry.Ready.error {e : Entry} (ready : e.Ready) {output : Table Value} {f : CompareFault}
    (h : e.holds output = .error f) : f = .noOctet ∨ ∃ g, f = .search g := by
  unfold Entry.holds compare at h
  -- Only two operators can fail: the one that looks for a pattern, and the one that looks for an item.
  split at h
  case h_9 asks =>
    unfold matchesPattern at h
    split at h
    · rename_i s _
      obtain ⟨p, known⟩ := ready asks
      rw [known] at h
      obtain ⟨g, -, rfl⟩ := error_of_mapError h
      exact .inr ⟨g, rfl⟩
    · cases h
  case h_10 =>
    obtain ⟨g, -, rfl⟩ := error_of_mapError h
    exact .inl rfl
  all_goals cases h

theorem allHold_error {output : Table Value} {entries : List Entry}
    (ready : ∀ e ∈ entries, e.Ready) {f : CompareFault} (h : allHold output entries = .error f) :
    f = .noOctet ∨ ∃ g, f = .search g := by
  induction entries with
  | nil => cases h
  | cons e rest ih =>
    rw [allHold] at h
    split at h
    · rename_i known
      cases h
      exact (ready e List.mem_cons_self).error known
    · exact ih (fun e mem => ready e (List.mem_cons_of_mem _ mem)) h
    · cases h

/-- **What can go wrong with a condition set.** -/
theorem pass_error {conditions : Value} {output : Table Value} {f : Fault}
    (h : pass conditions output = .error f) :
    (∃ g, f = .set g ∧ ∀ p, g = .badPattern p → ∃ v, readPattern v = .error p) ∨
      f = .compare .noOctet ∨ ∃ g, f = .compare (.search g) := by
  have reads := reads_set conditions
  unfold pass at h
  split at h
  · rename_i g unread
    rw [unread] at reads
    cases h
    exact .inl ⟨g, rfl, reads⟩
  · rename_i entries known
    rw [known] at reads
    right
    obtain ⟨g, asked, rfl⟩ := error_of_mapError h
    rcases allHold_error reads asked with rfl | ⟨g, rfl⟩
    · exact .inl rfl
    · exact .inr ⟨g, rfl⟩

end Condition

end CallTree
