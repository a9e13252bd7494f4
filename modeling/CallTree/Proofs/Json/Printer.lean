/-
# CallTree.Proofs.Json.Printer — which values can be written.

Octet strings, dates, patterns, things of the host, whole numbers of too many digits and, in a style without
the words for them, what is no number and the infinities have no document form (`Value.Unsayable`). A value
can be written exactly if none of its parts, however deep, is one of these (`write_isOk_iff`).
-/
import CallTree.Json.Printer
import CallTree.Proofs.Value

namespace CallTree

namespace Value

/-- A value that no document in a strict style can say. -/
inductive Unsayable : Value → Prop where
  | nan : Unsayable (.float .nan)
  | infinite (negative : Bool) : Unsayable (.float (.infinite negative))
  | whole {n : Int} (long : ¬ Decimal.Short n) : Unsayable (.int n)
  | octets (bs : List UInt8) : Unsayable (.octets bs)
  | date (text : String) (hasTime : Bool) : Unsayable (.date text hasTime)
  | pattern (p : Pattern) : Unsayable (.pattern p)
  | foreign (name : String) (parts : List (String × Value)) : Unsayable (.foreign name parts)

/-- **Whether a value can be said**: no part of it, at any depth, is unsayable. -/
def Sayable (v : Value) : Prop := ∀ w, PartOf w v → ¬ w.Unsayable

theorem not_sayable_iff {v : Value} : ¬ v.Sayable ↔ ∃ w, PartOf w v ∧ w.Unsayable := by
  simp only [Sayable, Classical.not_forall, Classical.not_not, exists_prop]

theorem Unsayable.not_sayable {v : Value} (h : v.Unsayable) : ¬ v.Sayable :=
  fun sayable => sayable v .self h

theorem sayable_list_iff {xs : List Value} : (Value.list xs).Sayable ↔ ∀ x ∈ xs, x.Sayable := by
  constructor
  · exact fun h x mem w part => h w (.item mem part)
  · rintro h w (_ | ⟨mem, part⟩)
    · nofun
    · exact h _ mem w part

theorem sayable_tuple_iff {xs : List Value} : (Value.tuple xs).Sayable ↔ ∀ x ∈ xs, x.Sayable := by
  constructor
  · exact fun h x mem w part => h w (.tupleItem mem part)
  · rintro h w (_ | _ | ⟨mem, part⟩)
    · nofun
    · exact h _ mem w part

theorem sayable_object_iff {fs : List (String × Value)} :
    (Value.object fs).Sayable ↔ ∀ f ∈ fs, f.2.Sayable := by
  constructor
  · exact fun h f mem w part => h w (.field mem part)
  · rintro h w (_ | _ | _ | ⟨mem, part⟩)
    · nofun
    · exact h _ mem w part

end Value

namespace Json

open Value

section

variable {style : Style}

/-- What is unsayable is not printed in a strict style. -/
theorem print_isOk_iff_of_unsayable (strict : style.extended = false) {v : Value} (h : v.Unsayable)
    (level : Nat) : (print style level v).isOk = true ↔ v.Sayable := by
  refine iff_of_false ?_ h.not_sayable
  cases h with
  | whole long =>
    rw [print, Decimal.whole_of_long long]
    exact nofun
  | _ => simp [print, floatText, strict, Except.isOk, Except.toBool]

mutual

/-- **A value is printed exactly if it can be said.** -/
theorem print_isOk_iff (strict : style.extended = false) (level : Nat) : (v : Value) →
    ((print style level v).isOk = true ↔ v.Sayable)
  | .list xs => by
    rw [print, isOk_map, printItems_isOk_iff strict (level + 1) xs, sayable_list_iff]
  | .tuple xs => by
    rw [print, isOk_map, printItems_isOk_iff strict (level + 1) xs, sayable_tuple_iff]
  | .object fs => by
    rw [print, isOk_map, printFields_isOk_iff strict (level + 1) fs, sayable_object_iff]
  | .int n => by
    by_cases short : Decimal.Short n
    · rw [print, Decimal.whole_of_short short]
      refine iff_of_true rfl ?_
      rintro _ ⟨⟩ unsayable
      cases unsayable with
      | whole long => exact long short
    · exact print_isOk_iff_of_unsayable strict (.whole short) level
  | .float .nan => print_isOk_iff_of_unsayable strict .nan level
  | .float (.infinite negative) => print_isOk_iff_of_unsayable strict (.infinite negative) level
  | .octets bs => print_isOk_iff_of_unsayable strict (.octets bs) level
  | .date shown hasTime => print_isOk_iff_of_unsayable strict (.date shown hasTime) level
  | .pattern p => print_isOk_iff_of_unsayable strict (.pattern p) level
  | .foreign name parts => print_isOk_iff_of_unsayable strict (.foreign name parts) level
  | .null | .bool _ | .float (.finite _ _) | .text _ => by
    rw [print]
    exact iff_of_true rfl fun w part => by cases part; nofun

/-- Items are printed exactly if all of them can be said. -/
theorem printItems_isOk_iff (strict : style.extended = false) (level : Nat) : (xs : List Value) →
    ((printItems style level xs).isOk = true ↔ ∀ x ∈ xs, x.Sayable)
  | [] => by
    rw [printItems]
    exact iff_of_true rfl nofun
  | x :: xs => by
    rw [printItems, List.forall_mem_cons, ← print_isOk_iff strict level x,
      ← printItems_isOk_iff strict level xs]
    cases print style level x with
    | error f => exact iff_of_false nofun fun h => Bool.noConfusion h.1
    | ok s =>
      show ((printItems style level xs).map _).isOk = true ↔ _
      rw [isOk_map]
      exact (and_iff_right rfl).symm

/-- Fields are printed exactly if the values of all of them can be said. -/
theorem printFields_isOk_iff (strict : style.extended = false) (level : Nat) :
    (fs : List (String × Value)) →
      ((printFields style level fs).isOk = true ↔ ∀ f ∈ fs, f.2.Sayable)
  | [] => by
    rw [printFields]
    exact iff_of_true rfl nofun
  | (k, x) :: fs => by
    rw [printFields, List.forall_mem_cons, ← print_isOk_iff strict level x,
      ← printFields_isOk_iff strict level fs]
    cases print style level x with
    | error f => exact iff_of_false nofun fun h => Bool.noConfusion h.1
    | ok s =>
      show ((printFields style level fs).map _).isOk = true ↔ _
      rw [isOk_map]
      exact (and_iff_right rfl).symm

end

end

/-- **A value is written in one line without spaces exactly if it can be said.** -/
theorem write_isOk_iff (v : Value) : (write .compact v).isOk = true ↔ v.Sayable :=
  print_isOk_iff rfl 0 v

/-- The sentence of a fault says something. -/
theorem PrintFault.message_ne_empty (f : PrintFault) : f.message ≠ "" := by
  cases f with
  | kind k =>
    intro same
    have front := (String.append_eq_empty_iff.1 (String.append_eq_empty_iff.1 same).1).1
    exact absurd front (by decide)
  | noNumber => decide
  | whole f =>
    cases f
    decide +kernel

/-- An object of one field with a text, in one line. -/
theorem write_single_text (key text : String) : write .compact (.single key (.text text)) =
    .ok ("\x7b" ++ (quoted false key ++ ":" ++ quoted false text) ++ "\x7d") := by
  simp [write, Value.single, print, printFields, Except.map, bracketed, Style.compact, Style.line]

end Json

end CallTree
