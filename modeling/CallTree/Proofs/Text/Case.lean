/-
# CallTree.Proofs.Text.Case — capitals stay as they are.

Upper-casing maps a character to another one, to several, or to itself. Whatever comes out is mapped to
itself (`settled_of_mem_upperChars`): the images of a run, and those of the characters with several, lie where
no mapped character lies. For that a stretch of codes is compared with the ends of every run and not code
by code (`isFree`). A run of every second character may have its images between the characters of another one.

So a text in capitals is left alone, and upper-casing a text twice is upper-casing it once (`upper_upper`).
-/
import CallTree.Proofs.Text.Utf8
import CallTree.Text.Case

namespace CallTree.Text

/-- **A code that is mapped to itself**: no run holds it, and it has no sequence. -/
structure Settled (n : Nat) : Prop where
  run : ∀ r ∈ upperRuns, r.holds n = false
  sequence : ∀ e ∈ upperSequences, e.1 ≠ n

/-- A settled character is its own upper-case form. -/
theorem upperChars_of_settled {c : Char} (settled : Settled c.toNat) : upperChars c = [c] := by
  have noSequence : upperSequences.find? (·.1 = c.toNat) = none :=
    List.find?_eq_none.2 fun e mem => by simpa using settled.sequence e mem
  have noRun : upperRuns.find? (·.holds c.toNat) = none :=
    List.find?_eq_none.2 fun r mem => by simp [settled.run r mem]
  simp only [upperChars, noSequence, CaseRun.image, noRun, Char.ofNat_toNat]

/-! ## Stretches of codes -/

/-- **No character that is mapped lies in a stretch of codes.** If only every second code counts, a run of
every second character may pass through. -/
def isFree (sparse : Bool) (bottom top : Nat) : Bool :=
  (upperRuns.all fun r =>
      !(r.first.ble top && bottom.ble r.last) ||
        (sparse && r.step.beq 2 && !(bottom % 2).beq (r.first % 2))) &&
    upperSequences.all fun e => !(e.1.ble top && bottom.ble e.1)

theorem settled_of_isFree {sparse : Bool} {bottom top n : Nat} (free : isFree sparse bottom top = true)
    (low : bottom ≤ n) (high : n ≤ top) (counts : sparse = true → n % 2 = bottom % 2) : Settled n := by
  simp only [isFree, Bool.and_eq_true, List.all_eq_true, Bool.or_eq_true, Bool.not_eq_true',
    ← Bool.not_eq_true, Nat.ble_eq, Nat.beq_eq] at free
  obtain ⟨runs, sequences⟩ := free
  constructor
  · intro r mem
    refine Bool.eq_false_iff.2 fun holds => ?_
    simp only [CaseRun.holds, Bool.and_eq_true, decide_eq_true_eq] at holds
    obtain ⟨⟨above, below⟩, steps⟩ := holds
    rcases runs r mem with outside | ⟨⟨every, two⟩, between⟩
    · omega
    · have same := counts every
      rw [two] at steps
      omega
  · rintro e mem rfl
    have outside := sequences e mem
    omega

/-! ## The tables -/

namespace CaseRun

/-- The image of the first character of a run. -/
def bottom (r : CaseRun) : Nat := (r.first + r.shift).toNat

/-- The image of the last character of a run. -/
def top (r : CaseRun) : Nat := (r.last + r.shift).toNat

/-- A run of which the images are characters that are not mapped. -/
def settles (r : CaseRun) : Bool :=
  0 ≤ r.first + r.shift && (r.top < 0xd800 || (0xe000 ≤ r.bottom && r.top < 0x110000)) &&
    isFree (r.step = 2 || r.first = r.last) r.bottom r.top

end CaseRun

theorem settles_of_mem_upperRuns {r : CaseRun} (mem : r ∈ upperRuns) : r.settles = true := by
  have all : (upperRuns.all CaseRun.settles) = true := by decide +kernel
  exact List.all_eq_true.1 all r mem

/-- Stretches in which the characters of sequences lie. -/
def capitals : List (Nat × Nat) := [
  (0x41, 0x5a), (0x2bc, 0x2be), (0x300, 0x342), (0x386, 0x38f), (0x391, 0x3a9), (0x531, 0x556),
  (0x1f08, 0x1f0f), (0x1f28, 0x1f2f), (0x1f68, 0x1f6f), (0x1fba, 0x1fbb), (0x1fca, 0x1fcb),
  (0x1ffa, 0x1ffb)]

theorem free_of_mem_capitals {p : Nat × Nat} (mem : p ∈ capitals) :
    p.2 < 0xd800 ∧ isFree false p.1 p.2 = true := by
  have all : (capitals.all fun p => p.2 < 0xd800 && isFree false p.1 p.2) = true := by decide +kernel
  simpa using List.all_eq_true.1 all p mem

theorem exists_capitals {e : Nat × List Nat} (mem : e ∈ upperSequences) {n : Nat} (inside : n ∈ e.2) :
    ∃ p ∈ capitals, p.1 ≤ n ∧ n ≤ p.2 := by
  have all : (upperSequences.all fun e => e.2.all fun n => capitals.any fun p => p.1 ≤ n && n ≤ p.2) = true := by
    decide +kernel
  simpa using List.all_eq_true.1 (List.all_eq_true.1 all e mem) n inside

/-! ## Upper-casing twice -/

/-- The image of a character of a run is not mapped. -/
theorem settled_of_holds {r : CaseRun} (mem : r ∈ upperRuns) {c : Nat} (holds : r.holds c = true) :
    Settled (Char.ofNat ((c : Int) + r.shift).toNat).toNat := by
  have settles := settles_of_mem_upperRuns mem
  simp only [CaseRun.settles, Bool.and_eq_true, Bool.or_eq_true, decide_eq_true_eq] at settles
  obtain ⟨⟨positive, valid⟩, free⟩ := settles
  unfold CaseRun.bottom CaseRun.top at *
  simp only [CaseRun.holds, Bool.and_eq_true, decide_eq_true_eq] at holds
  obtain ⟨⟨above, below⟩, steps⟩ := holds
  rw [Utf8.toNat_ofNat (by unfold Nat.isValidChar; omega)]
  refine settled_of_isFree free (by omega) (by omega) fun sparse => ?_
  -- Of a run of every second character, all images are even, or all are odd.
  rw [Bool.or_eq_true, decide_eq_true_eq, decide_eq_true_eq] at sparse
  rcases sparse with two | single
  · rw [two] at steps
    omega
  · omega

/-- **What upper-casing gives is not mapped any further.** -/
theorem settled_of_mem_upperChars {c d : Char} (mem : d ∈ upperChars c) : Settled d.toNat := by
  unfold upperChars at mem
  split at mem
  · rename_i n image found
    obtain ⟨code, inside, rfl⟩ := List.mem_map.1 mem
    obtain ⟨p, there, low, high⟩ := exists_capitals (List.mem_of_find?_eq_some found) inside
    obtain ⟨small, free⟩ := free_of_mem_capitals there
    rw [Utf8.toNat_ofNat (by unfold Nat.isValidChar; omega)]
    exact settled_of_isFree free low high nofun
  · rename_i noSequence
    rw [List.mem_singleton.1 mem]
    unfold CaseRun.image
    split
    · rename_i r found
      have holds := List.find?_some found
      exact settled_of_holds (List.mem_of_find?_eq_some found) holds
    · rename_i noRun
      rw [Char.ofNat_toNat]
      refine ⟨fun r mem => ?_, fun e mem => ?_⟩
      · simpa using List.find?_eq_none.1 noRun r mem
      · simpa using List.find?_eq_none.1 noSequence e mem

/-- **Upper-casing a text a second time changes nothing.** -/
theorem upper_upper (s : String) : upper (upper s) = upper s := by
  have each (cs : List Char) : (cs.flatMap upperChars).flatMap upperChars = cs.flatMap upperChars := by
    induction cs with
    | nil => rfl
    | cons c rest ih =>
      have here : (upperChars c).flatMap upperChars = (upperChars c).flatMap fun d => [d] := by
        rw [List.flatMap_def, List.flatMap_def]
        refine congrArg _ (List.map_congr_left fun d mem => ?_)
        exact upperChars_of_settled (settled_of_mem_upperChars mem)
      rw [List.flatMap_cons, List.flatMap_append, ih, here, List.flatMap_singleton']
  rw [upper, upper, String.toList_ofList, each]

end CallTree.Text
