/-
# CallTree.Proofs.Explorer — the addresses in the page.

A browser reads a script up to the first place where a script element can end (`scriptText`). So the page
tells its addresses if the document that is assigned in the script is one of the addresses, and the element
is not ended in it (`Embeds`).

The marks of the title are replaced when the script is already in the page. `embedding_exact` says what
comes of that: the text around the script is right, always; and the script is right, if no address has the
mark of the title or the end of a script in it. Where an address has the mark, the page tells another one
(`mark_in_address`); where it has the end of a script, the script is cut off.
-/
import CallTree.Explorer
import CallTree.Proofs.Json.Scalars
import CallTree.Proofs.Text.Replace

namespace CallTree.Explorer

open Json (StringText Derives stringChar)
open Text.Quoted (hex)
open Text (Escapes Once Replaced replace)

/-! ## Scripts -/

/-- What ends a script element, in small letters. -/
def scriptEnd : List Char := "</script".toList

/-- **A text ends a script**: it has the end of one in it, in letters of any case. -/
def Closes (cs : List Char) : Prop := scriptEnd <:+: cs.map Char.toLower

instance (cs : List Char) : Decidable (Closes cs) := inferInstanceAs (Decidable (_ <:+: _))

/-- **The text of a script**, given what follows its opening tag. -/
def scriptText : List Char → List Char
  | [] => []
  | c :: rest =>
    if scriptEnd.isPrefixOf ((c :: rest).map Char.toLower) then [] else c :: scriptText rest

theorem closes_append_cons_iff {c : Char} (free : c.toLower ∉ scriptEnd) {a b : List Char} :
    Closes (a ++ c :: b) ↔ Closes a ∨ Closes b := by
  rw [Closes, List.map_append, List.map_cons]
  exact Text.infix_append_cons_iff free

/-- A script goes on behind what does not end it. -/
theorem scriptText_append {a : List Char} (stays : ¬ Closes a) {c : Char} (free : c.toLower ∉ scriptEnd)
    (b : List Char) : scriptText (a ++ c :: b) = a ++ c :: scriptText b := by
  have goes {x : Char} {cs : List Char} (other : ¬ scriptEnd <+: (x :: cs).map Char.toLower) :
      scriptText (x :: cs) = x :: scriptText cs := by
    rw [scriptText, if_neg]
    rwa [List.isPrefixOf_iff_prefix]
  induction a with
  | nil =>
    refine goes fun front => ?_
    have none_ := (Text.prefix_append_cons_iff free (a := []) (b := b.map Char.toLower)).1 front
    exact absurd (List.prefix_nil.1 none_) (by decide)
  | cons x a ih =>
    rw [Closes, List.map_cons, List.infix_cons_iff, not_or, ← List.map_cons] at stays
    have other : ¬ scriptEnd <+: (x :: (a ++ c :: b)).map Char.toLower := by
      rw [← List.cons_append, List.map_append]
      exact fun front => stays.1 ((Text.prefix_append_cons_iff free).1 front)
    rw [List.cons_append, goes other, ih stays.2, List.cons_append]

/-- What ends a script is not all in it. -/
theorem length_scriptText_lt {a : List Char} (closes : Closes a) (b : List Char) :
    (scriptText (a ++ b)).length < a.length := by
  induction a with
  | nil => exact absurd (List.infix_nil.1 closes) (by decide)
  | cons x a ih =>
    rw [List.cons_append, scriptText]
    split
    · exact Nat.succ_pos _
    · rename_i other
      rw [List.isPrefixOf_iff_prefix] at other
      have below : Closes a := by
        rw [Closes, List.map_cons, List.infix_cons_iff] at closes
        refine closes.resolve_left fun front => other ?_
        rw [← List.cons_append, List.map_append]
        exact front.trans (List.prefix_append _ _)
      exact Nat.succ_lt_succ (ih below)

/-! ## Pages -/

/-- A text with each mark of the title replaced. -/
abbrev Titled (o : Options) (cs ds : List Char) : Prop :=
  Replaced titleMark.toList o.title.toList cs ds

/-- The document that says what the addresses are. -/
def configuration (o : Options) : Value :=
  .object [("graphUrl", .text o.graphUrl), ("specUrl", .text o.specUrl)]

/-- A text is a document that tells the addresses. -/
def Tells (o : Options) (document : List Char) : Prop :=
  Json.read (String.ofList document) = .ok (configuration o)

/-- What stands in front of the text of the script that is put in. -/
def opening : List Char := '\n' :: "    <script>".toList

/-- What is assigned to. -/
def assigned : List Char := "\n        window.TYPEGRAPH_CONFIG =".toList

/-- The line end in front of the closing tag, up to the last blank. -/
def lineEnd : List Char := "\n   ".toList

/-- The text of a script that assigns a document. -/
def assignment (document : List Char) : List Char :=
  assigned ++ ' ' :: (document ++ ';' :: (lineEnd ++ [' ']))

/-- What stands behind the text of the script, with the rest of the page. -/
def closing (back : List Char) : List Char := scriptEnd ++ (">\n</head>".toList ++ back)

/-- **A page with a script put in**: one element in front of the end of the head, with a text. Around it is
the page that was given, with nothing changed but the marks of the title. -/
structure PutIn (o : Options) (front back element front' back' page : List Char) : Prop where
  before : Titled o front front'
  behind : Titled o back back'
  whole : page = front' ++ (opening ++ (element ++ closing back'))

/-- **A page tells the addresses**: its script, as far as a browser reads it, assigns a document of them, and
all the rest is as it was given. -/
def Embeds (o : Options) (front back page : List Char) : Prop :=
  ∃ document front' back', PutIn o front back (assignment document) front' back' page ∧
    scriptText (assignment document ++ closing back') = assignment document ∧ Tells o document

/-- No address has the mark of the title in it. -/
def Unmarked (o : Options) : Prop :=
  ¬ titleMark.toList <:+: o.graphUrl.toList ∧ ¬ titleMark.toList <:+: o.specUrl.toList

instance (o : Options) : Decidable (Unmarked o) := inferInstanceAs (Decidable (_ ∧ _))

theorem scriptText_closing (back : List Char) : scriptText (closing back) = [] := by
  show scriptText ('<' :: ("/script".toList ++ (">\n</head>".toList ++ back))) = []
  have same : scriptEnd.map Char.toLower = scriptEnd := by decide
  rw [scriptText, if_pos]
  rw [List.isPrefixOf_iff_prefix]
  show scriptEnd <+: (scriptEnd ++ (">\n</head>".toList ++ back)).map Char.toLower
  rw [List.map_append, same]
  exact List.prefix_append scriptEnd _

/-- **A script is read as a whole** exactly if it is not ended in the document. -/
theorem scriptText_assignment_iff (document back : List Char) :
    scriptText (assignment document ++ closing back) = assignment document ↔ ¬ Closes document := by
  have whole : assignment document ++ closing back =
      (assigned ++ ' ' :: document) ++ ';' :: (lineEnd ++ ' ' :: closing back) := by
    simp [assignment]
  have front : Closes (assigned ++ ' ' :: document) ↔ Closes document := by
    rw [closes_append_cons_iff (by decide)]
    exact or_iff_right (by decide)
  rw [← front, whole]
  constructor
  · intro same closes
    have shorter := length_scriptText_lt closes (';' :: (lineEnd ++ ' ' :: closing back))
    rw [same] at shorter
    simp only [assignment, List.length_append, List.length_cons] at shorter
    omega
  · intro stays
    rw [scriptText_append stays (by decide), scriptText_append (by decide) (by decide), scriptText_closing]
    simp [assignment]

/-! ## The document in the script -/

/-- The characters of an address, as they are written between quotes. -/
def written (s : String) : List Char := s.toList.flatMap (stringChar true)

/-- The document, with what stands between the quotes of the addresses. -/
def laid (x y : List Char) : List Char :=
  '\x7b' :: '\x22' :: ("graphUrl".toList ++ '\x22' :: (": ".toList ++ '\x22' :: (x ++ '\x22' ::
    (", ".toList ++ '\x22' :: ("specUrl".toList ++ '\x22' :: (": ".toList ++ '\x22' ::
      (y ++ '\x22' :: ['\x7d'])))))))

theorem toList_addresses (o : Options) :
    (addresses o).toList = laid (written o.graphUrl) (written o.specUrl) := by
  have first : "\x7b\"graphUrl\": ".toList =
      '\x7b' :: '\x22' :: ("graphUrl".toList ++ '\x22' :: ": ".toList) := by
    decide
  have second : ", \"specUrl\": ".toList =
      ", ".toList ++ '\x22' :: ("specUrl".toList ++ '\x22' :: ": ".toList) := by
    decide
  unfold addresses
  rw [String.toList_append, String.toList_append, String.toList_append, String.toList_append, first, second,
    Json.toList_quoted, Json.toList_quoted]
  simp only [laid, written, List.append_assoc, List.cons_append, List.nil_append]
  rfl

/-- **Characters that stand between quotes as they are.** -/
def Literal (cs : List Char) : Prop := ∀ c ∈ cs, c ≠ '\x22' ∧ c ≠ '\\' ∧ 0x20 ≤ c.toNat

instance (cs : List Char) : Decidable (Literal cs) := List.decidableBAll _ cs

/-- Between quotes there are strings. -/
def Quotes (x ds : List Char) : Prop := ∀ left, StringText (x ++ '\x22' :: left) ds left

theorem quotes_written (s : String) : Quotes (written s) s.toList := Json.stringText_quoted true s.toList

/-- **The document is one of the strings** between its quotes. -/
theorem document_laid {x y : List Char} {graphUrl specUrl : String} (one : Quotes x graphUrl.toList)
    (other : Quotes y specUrl.toList) : Json.read (String.ofList (laid x y)) =
      .ok (.object [("graphUrl", .text graphUrl), ("specUrl", .text specUrl)]) := by
  have named : Quotes "graphUrl".toList "graphUrl".toList := quotes_written "graphUrl"
  have named' : Quotes "specUrl".toList "specUrl".toList := quotes_written "specUrl"
  have value {z : List Char} {s : String} (quotes : Quotes z s.toList) (left : List Char) :
      Derives (.value (.text s)) (Json.skip (' ' :: '\x22' :: (z ++ '\x22' :: left))) left :=
    .text (quotes left)
  have all : (Table.set [] "graphUrl" (.text graphUrl)).set "specUrl" (.text specUrl) =
      [("graphUrl", .text graphUrl), ("specUrl", Value.text specUrl)] := by
    simp [Table.set]
  rw [Json.read_eq_ok_iff]
  rw [Json.Document, String.toList_ofList, ← all]
  refine ⟨?_, [], ?_, rfl⟩
  · show some '\x7b' ≠ some (Char.ofNat 0xfeff)
    decide
  · refine .object (.field (named _) rfl (value one _) rfl ?_)
    exact .lastField (named' _) rfl (value other _) rfl

/-! ## Escapes -/

/-- Whether a character is written as an escape, where all that can be are. -/
abbrev Escaped (c : Char) : Prop := c = '\x22' ∨ c = '\\' ∨ c.toNat < 0x20 ∨ 0x7e < c.toNat

/-- Whether a character may stand in an escape behind its mark. -/
def isCode (c : Char) : Bool := c.isAlphanum || c = '\x22' || c = '\\'

theorem isCode_of_mem_hex {n : Nat} (small : n < 0x10000) : ∀ c ∈ hex 4 n, isCode c = true := by
  have digit (d : Nat) : isCode (d % 16).digitChar = true := by
    have all : ∀ i : Fin 16, isCode i.val.digitChar = true := by decide
    exact all ⟨d % 16, Nat.mod_lt d (by decide)⟩
  have first : hex 1 (n / 16 / 16 / 16) = [(n / 16 / 16 / 16 % 16).digitChar] := by
    have low : n / 16 / 16 / 16 < 16 := by omega
    simp [hex, Nat.toDigits_of_lt_base low, Nat.mod_eq_of_lt low]
  rw [Json.hex_succ (by decide), Json.hex_succ (by decide), Json.hex_succ (by decide), first]
  simp only [List.forall_mem_append, List.forall_mem_singleton]
  exact ⟨⟨⟨digit _, digit _⟩, digit _⟩, digit _⟩

/-- **A character is written as itself or as an escape.** -/
theorem stringChar_cases (c : Char) : stringChar true c = [c] ∨
    Escaped c ∧ ∃ code, stringChar true c = '\\' :: code ∧ ∀ d ∈ code, isCode d = true := by
  have coded {n : Nat} (small : n < 0x10000) : ∀ d ∈ 'u' :: hex 4 n, isCode d = true :=
    List.forall_mem_cons.2 ⟨by decide, isCode_of_mem_hex small⟩
  have control {d : Char} (low : c.toNat < 0x20) (letter : isCode d = true) :
      Escaped c ∧ ∃ code, ['\\', d] = '\\' :: code ∧ ∀ d ∈ code, isCode d = true :=
    ⟨.inr (.inr (.inl low)), [d], rfl, List.forall_mem_singleton.2 letter⟩
  -- The conditions in turn. To split them off all at once would take much longer.
  unfold stringChar
  by_cases mark : (c = '\x22' || c = '\\') = true
  · rw [if_pos mark]
    right
    simp only [Bool.or_eq_true, decide_eq_true_eq] at mark
    refine ⟨mark.imp_right .inl, [c], rfl, ?_⟩
    rcases mark with rfl | rfl <;> exact List.forall_mem_singleton.2 (by decide)
  rw [if_neg mark]
  by_cases newline : c = '\n'
  · rw [if_pos newline]
    exact .inr (control (by subst newline; decide) (by decide))
  rw [if_neg newline]
  by_cases carriage : c = '\r'
  · rw [if_pos carriage]
    exact .inr (control (by subst carriage; decide) (by decide))
  rw [if_neg carriage]
  by_cases tab : c = '\t'
  · rw [if_pos tab]
    exact .inr (control (by subst tab; decide) (by decide))
  rw [if_neg tab]
  by_cases bell : c.toNat = 8
  · rw [if_pos bell]
    exact .inr (control (by omega) (by decide))
  rw [if_neg bell]
  by_cases feed : c.toNat = 12
  · rw [if_pos feed]
    exact .inr (control (by omega) (by decide))
  rw [if_neg feed]
  by_cases low : c.toNat < 0x20
  · rw [if_pos low]
    exact .inr ⟨.inr (.inr (.inl low)), _, rfl, coded (by omega)⟩
  rw [if_neg low, Bool.true_and]
  by_cases wide : 0x7e < c.toNat
  · rw [if_pos (decide_eq_true wide)]
    refine .inr ⟨.inr (.inr (.inr wide)), ?_⟩
    by_cases small : c.toNat < 0x10000
    · rw [if_pos small]
      exact ⟨_, rfl, coded small⟩
    · -- A pair of codes, of which the second one has its own mark.
      rw [if_neg small]
      have valid : c.toNat < 0xd800 ∨ 0xdfff < c.toNat ∧ c.toNat < 0x110000 := c.valid
      refine ⟨_, rfl, List.forall_mem_append.2 ⟨coded (by omega), ?_⟩⟩
      exact List.forall_mem_cons.2 ⟨by decide, coded (by omega)⟩
  · rw [if_neg (mt of_decide_eq_true wide)]
    exact .inl rfl

theorem toLower_of_escaped {c : Char} (escaped : Escaped c) : c.toLower = c := by
  rcases escaped with rfl | rfl | low | high
  · decide
  · decide
  · unfold Char.toLower
    rw [dif_neg]
    rintro ⟨upper, -⟩
    have : 65 ≤ c.toNat := upper
    omega
  · unfold Char.toLower
    rw [dif_neg]
    rintro ⟨-, upper⟩
    have : c.toNat ≤ 90 := upper
    omega

/-- No letter becomes the beginning of a tag. -/
theorem eq_of_toLower {c : Char} (tag : c.toLower = '<') : c = '<' := by
  unfold Char.toLower at tag
  split at tag
  · rename_i upper
    have low : 65 ≤ c.toNat := upper.1
    have high : c.toNat ≤ 90 := upper.2
    have code := congrArg Char.toNat tag
    change (c.val + 32).toNat = 60 at code
    rw [UInt32.toNat_add] at code
    change (c.toNat + 32) % 2 ^ 32 = 60 at code
    omega
  · exact tag

/-- The mark of the title is never written with an escape. -/
theorem escapes_titleMark : Escapes (stringChar true) id '\x7b' "\x7btitle\x7d\x7d".toList := by
  refine ⟨by decide, fun c => (stringChar_cases c).imp_right ?_⟩
  rintro ⟨escaped, code, same, codes⟩
  refine ⟨code, same, fun mem => absurd (codes _ mem) (by decide), fun mem => ?_⟩
  have plain : titleMark.toList.all (fun d => decide (¬ Escaped d)) = true := by decide
  exact of_decide_eq_true (List.all_eq_true.1 plain c mem) escaped

/-- The end of a script is never written with an escape. -/
theorem escapes_scriptEnd :
    Escapes (fun c => (stringChar true c).map Char.toLower) Char.toLower '<' "/script".toList := by
  refine ⟨by decide, fun c => ?_⟩
  rcases stringChar_cases c with plain | ⟨escaped, code, same, codes⟩
  · exact .inl (by rw [plain]; rfl)
  · refine .inr ⟨code.map Char.toLower, by rw [same]; rfl, ?_, fun mem => ?_⟩
    · intro mem
      obtain ⟨d, inside, lower⟩ := List.mem_map.1 mem
      rw [eq_of_toLower lower] at inside
      exact absurd (codes _ inside) (by decide)
    · have plain : scriptEnd.all (fun d => decide (¬ Escaped d)) = true := by decide
      rw [toLower_of_escaped escaped] at mem
      exact of_decide_eq_true (List.all_eq_true.1 plain c mem) escaped

/-! ## Replacing in the script -/

variable {o : Options}

/-- A text with each mark of the title replaced. -/
def titled (o : Options) (cs : List Char) : List Char := replace titleMark.toList o.title.toList cs

theorem titled_iff {cs ds : List Char} : Titled o cs ds ↔ titled o cs = ds :=
  Text.replaced_iff (by decide)

theorem titled_of_absent {cs : List Char} (absent : ¬ titleMark.toList <:+: cs) : titled o cs = cs :=
  Text.replace_of_not_infix absent

theorem titled_mark (cs : List Char) :
    titled o (titleMark.toList ++ cs) = o.title.toList ++ titled o cs :=
  Text.replace_front (by decide) cs

theorem titled_cons {c : Char} {cs : List Char} (other : ¬ titleMark.toList <+: c :: cs) :
    titled o (c :: cs) = c :: titled o cs :=
  Text.replace_cons other

/-- A text without the first character of the mark stays, whatever follows it. -/
theorem titled_append {cs : List Char} (free : '\x7b' ∉ cs) (ds : List Char) :
    titled o (cs ++ ds) = cs ++ titled o ds :=
  @Text.replace_append o.title.toList '\x7b' "\x7btitle\x7d\x7d".toList cs ds free

/-- A character that is not in the mark parts what is replaced. -/
theorem titled_append_cons {c : Char} (free : c ∉ titleMark.toList) (cs ds : List Char) :
    titled o (cs ++ c :: ds) = titled o cs ++ c :: titled o ds :=
  Text.replace_append_cons (by decide) free cs ds

/-- What is written stays where the mark does not begin. -/
theorem titled_flatMap_cons {c : Char} {cs : List Char} (other : ¬ titleMark.toList <+: c :: cs) :
    titled o ((c :: cs).flatMap (stringChar true)) =
      stringChar true c ++ titled o (cs.flatMap (stringChar true)) := by
  refine escapes_titleMark.replace_flatMap_cons ?_
  rw [List.map_id]
  exact other

/-- Marks are replaced between the quotes of the addresses, and nowhere else in the document. -/
theorem titled_laid (x y : List Char) : titled o (laid x y) = laid (titled o x) (titled o y) := by
  have quote := @titled_append_cons o '\x22' (by decide)
  have stays (cs : List Char) (absent : ¬ titleMark.toList <:+: cs) : titled o cs = cs :=
    titled_of_absent absent
  show titled o (['\x7b'] ++ '\x22' :: ("graphUrl".toList ++ '\x22' :: (": ".toList ++ '\x22' ::
    (x ++ '\x22' :: (", ".toList ++ '\x22' :: ("specUrl".toList ++ '\x22' :: (": ".toList ++ '\x22' ::
    (y ++ '\x22' :: ['\x7d'])))))))) = _
  rw [quote, quote, quote, quote, quote, quote, quote, quote]
  rw [stays ['\x7b'] (by decide), stays "graphUrl".toList (by decide), stays ": ".toList (by decide),
    stays ", ".toList (by decide), stays "specUrl".toList (by decide), stays ['\x7d'] (by decide)]
  rfl

/-- The text of the script stays around the document. -/
theorem titled_assignment (document back : List Char) :
    titled o (opening ++ (assignment document ++ closing back)) =
      opening ++ (assignment (titled o document) ++ closing (titled o back)) := by
  have blank (ds : List Char) : titled o (' ' :: ds) = ' ' :: titled o ds :=
    @titled_append o [' '] (by decide) ds
  simp only [assignment, closing, List.append_assoc, List.cons_append, List.nil_append]
  rw [titled_append (by decide), titled_append_cons (by decide), titled_of_absent (by decide),
    titled_append_cons (by decide), titled_append (by decide), blank, titled_append (by decide),
    titled_append (by decide)]

/-- What is put in, up to the end of the head. -/
theorem toList_script (back : List Char) : (script o ++ headEnd).toList ++ back =
    opening ++ (assignment (addresses o).toList ++ closing back) := by
  have before : "\n    <script>\n        window.TYPEGRAPH_CONFIG = ".toList =
      opening ++ (assigned ++ [' ']) := by
    decide
  have behind : (";\n    </script>\n" ++ headEnd).toList =
      ';' :: (lineEnd ++ ' ' :: (scriptEnd ++ ">\n</head>".toList)) := by
    decide
  unfold script
  rw [String.append_assoc, String.append_assoc, String.toList_append, String.toList_append, before, behind]
  simp only [assignment, closing, List.append_assoc, List.cons_append, List.nil_append]

/-- **The page**: the parts around the script with their marks replaced, and the document with its own. -/
theorem toList_fill {text : String} {front back : List Char}
    (once : Once headEnd.toList front back (Text.ofFile text).toList) :
    (fill text o).toList = titled o front ++ (opening ++
      (assignment (laid (titled o (written o.graphUrl)) (titled o (written o.specUrl))) ++
        closing (titled o back))) := by
  have parted : titled o (front ++ (opening ++ (assignment (addresses o).toList ++ closing back))) =
      titled o front ++ titled o (opening ++ (assignment (addresses o).toList ++ closing back)) :=
    titled_append_cons (by decide) front _
  show (Text.replaceAll _ _ (Text.replaceAll _ _ _)).toList = _
  rw [Text.toList_replaceAll, Text.toList_replaceAll, once.replace_eq (by decide), toList_script]
  exact parted.trans (by rw [titled_assignment, toList_addresses, titled_laid])

/-- **An address is read** with its marks replaced, if the title is written as it is. -/
theorem quotes_titled (literal : Literal o.title.toList) (s : String) :
    Quotes (titled o (written s)) (titled o s.toList) := by
  intro left
  have titles {cs ds rest : List Char} (literal : Literal cs)
      (more : StringText rest ds left) : StringText (cs ++ rest) (cs ++ ds) left := by
    induction cs with
    | nil => exact more
    | cons c cs ih =>
      obtain ⟨here, below⟩ := List.forall_mem_cons.1 literal
      exact .plain here.1 here.2.1 here.2.2 (ih below)
  unfold written
  induction s.toList using @Text.replace_induction titleMark.toList (by decide) with
  | nil => exact .close left
  | found rest ih =>
    have same : titleMark.toList.flatMap (stringChar true) = titleMark.toList := by decide
    rw [List.flatMap_append, same, titled_mark, titled_mark, List.append_assoc]
    exact titles literal ih
  | other c rest other ih =>
    rw [titled_cons other, titled_flatMap_cons other, List.append_assoc]
    exact Json.stringText_stringChar true c ih (by simp)

/-! ## The end of a script in an address -/

/-- **An address ends the script** as it is written exactly if it has the end of one in it. -/
theorem closes_written_iff (s : String) : Closes (written s) ↔ Closes s.toList := by
  unfold Closes written
  rw [List.map_flatMap]
  exact escapes_scriptEnd.infix_flatMap_iff s.toList

/-- Between the addresses there is nothing that ends the script. -/
theorem closes_laid_iff (x y : List Char) : Closes (laid x y) ↔ Closes x ∨ Closes y := by
  have quote {a b : List Char} : Closes (a ++ '\x22' :: b) ↔ Closes a ∨ Closes b :=
    closes_append_cons_iff (by decide)
  show Closes (['\x7b'] ++ '\x22' :: ("graphUrl".toList ++ '\x22' :: (": ".toList ++ '\x22' ::
    (x ++ '\x22' :: (", ".toList ++ '\x22' :: ("specUrl".toList ++ '\x22' :: (": ".toList ++ '\x22' ::
    (y ++ '\x22' :: ['\x7d'])))))))) ↔ _
  have none_ : ¬ Closes ['\x7b'] ∧ ¬ Closes "graphUrl".toList ∧ ¬ Closes ": ".toList ∧
      ¬ Closes ", ".toList ∧ ¬ Closes "specUrl".toList ∧ ¬ Closes ['\x7d'] := by
    decide
  simp only [quote, none_, false_or, or_false]

/-! ## The law -/

/-- A script assigns one document. -/
theorem assignment_inj {document document' : List Char} (same : assignment document = assignment document') :
    document = document' := by
  unfold assignment at same
  have behind := (List.cons.inj (List.append_cancel_left same)).2
  exact List.append_cancel_right behind

/-- An address without the mark is written as it is. -/
theorem titled_written {s : String} (free : ¬ titleMark.toList <:+: s.toList) :
    titled o (written s) = written s := by
  refine titled_of_absent fun inside => free ?_
  have characters := (escapes_titleMark.infix_flatMap_iff s.toList).1 inside
  rwa [List.map_id] at characters

/-- An address keeps its characters only if it has no mark, or the title is the mark. -/
theorem titled_eq_self_iff {cs : List Char} :
    titled o cs = cs ↔ ¬ titleMark.toList <:+: cs ∨ o.title = titleMark := by
  rw [titled, Text.replace_eq_self_iff (by decide), String.toList_inj]

/-- **The addresses without marks are told**, and end the script where one of them does. -/
theorem tells_of_unmarked (unmarked : Unmarked o) {document : List Char}
    (laid_ : laid (titled o (written o.graphUrl)) (titled o (written o.specUrl)) = document) :
    Tells o document ∧ (Closes document ↔ Closes o.graphUrl.toList ∨ Closes o.specUrl.toList) := by
  rw [titled_written unmarked.1, titled_written unmarked.2] at laid_
  subst laid_
  constructor
  · exact document_laid (quotes_written o.graphUrl) (quotes_written o.specUrl)
  · rw [closes_laid_iff, closes_written_iff, closes_written_iff]

/-- **With a title that is written as it is**, the addresses that are told are those with their marks
replaced. -/
theorem tells_iff_of_literal (literal : Literal o.title.toList) {document : List Char}
    (laid_ : laid (titled o (written o.graphUrl)) (titled o (written o.specUrl)) = document) :
    Tells o document ↔ Unmarked o ∨ o.title = titleMark := by
  have one := quotes_titled literal o.graphUrl
  have other := quotes_titled literal o.specUrl
  rw [← @String.toList_ofList (titled o o.graphUrl.toList)] at one
  rw [← @String.toList_ofList (titled o o.specUrl.toList)] at other
  have read := document_laid one other
  rw [laid_] at read
  have addresses : Tells o document ↔
      titled o o.graphUrl.toList = o.graphUrl.toList ∧ titled o o.specUrl.toList = o.specUrl.toList := by
    rw [Tells, read]
    simp [configuration, ← String.toList_inj]
  rw [addresses, titled_eq_self_iff, titled_eq_self_iff, Unmarked, and_or_right]

/-- **The page tells the addresses** exactly if the document in its script does, and does not end the
script. -/
theorem embeds_iff {text : String} {front back : List Char}
    (once : Once headEnd.toList front back (Text.ofFile text).toList) {document : List Char}
    (laid_ : laid (titled o (written o.graphUrl)) (titled o (written o.specUrl)) = document) :
    PutIn o front back (assignment document) (titled o front) (titled o back) (fill text o).toList ∧
      (Embeds o front back (fill text o).toList ↔ Tells o document ∧ ¬ Closes document) := by
  have page := toList_fill (o := o) once
  rw [laid_] at page
  have put : PutIn o front back (assignment document) (titled o front) (titled o back) (fill text o).toList :=
    ⟨titled_iff.2 rfl, titled_iff.2 rfl, page⟩
  refine ⟨put, ?_, ?_⟩
  · rintro ⟨document', front', back', ⟨before, behind, whole⟩, read, tells⟩
    -- The parts around the script are the same, so the document is.
    obtain rfl := titled_iff.1 before
    obtain rfl := titled_iff.1 behind
    rw [page] at whole
    have rest := List.append_cancel_left (List.append_cancel_left whole)
    obtain rfl := assignment_inj (List.append_cancel_right rest)
    exact ⟨tells, (scriptText_assignment_iff document _).1 read⟩
  · rintro ⟨tells, stays⟩
    exact ⟨document, _, _, put, (scriptText_assignment_iff document _).2 stays, tells⟩

/-- **What the page tells, and when that is right.** The page is given with one end of a head in its text.
Then it has one script put in, which assigns the document of the addresses, with the marks of the title in it
replaced, and around the script nothing but the marks of the title is changed. It tells the addresses exactly
if that document does and does not end the script. If no address has the mark of the title in it, the document
is the one of the addresses, and ends the script if an address does. Where the title is written as it is, the
document is that of the addresses only if no address has the mark, or the title is the mark. -/
theorem embedding_exact (text : String) (o : Options) {front back : List Char}
    (once : Once headEnd.toList front back (Text.ofFile text).toList) :
    ∃ document, Titled o (addresses o).toList document ∧
      (∃ front' back', PutIn o front back (assignment document) front' back' (fill text o).toList) ∧
      (Embeds o front back (fill text o).toList ↔ Tells o document ∧ ¬ Closes document) ∧
      (Unmarked o → Tells o document ∧
        (Closes document ↔ Closes o.graphUrl.toList ∨ Closes o.specUrl.toList)) ∧
      (Literal o.title.toList → (Tells o document ↔ Unmarked o ∨ o.title = titleMark)) := by
  generalize laid_ : laid (titled o (written o.graphUrl)) (titled o (written o.specUrl)) = document
  obtain ⟨put, embeds⟩ := embeds_iff once laid_
  refine ⟨document, ?_, ⟨_, _, put⟩, embeds, fun unmarked => tells_of_unmarked unmarked laid_,
    fun literal => tells_iff_of_literal literal laid_⟩
  rw [titled_iff, toList_addresses, titled_laid, laid_]

/-- A page with its title in two places. -/
theorem embedding_exact_titles :
    Once headEnd.toList "<title>\x7b\x7btitle\x7d\x7d</title>".toList titleMark.toList
      (Text.ofFile "<title>\x7b\x7btitle\x7d\x7d</title></head>\x7b\x7btitle\x7d\x7d").toList ∧
    Embeds ⟨"/graph", "/spec", "Call trees"⟩ "<title>\x7b\x7btitle\x7d\x7d</title>".toList titleMark.toList
      (fill "<title>\x7b\x7btitle\x7d\x7d</title></head>\x7b\x7btitle\x7d\x7d"
        ⟨"/graph", "/spec", "Call trees"⟩).toList := by
  have once : Once headEnd.toList "<title>\x7b\x7btitle\x7d\x7d</title>".toList titleMark.toList
      (Text.ofFile "<title>\x7b\x7btitle\x7d\x7d</title></head>\x7b\x7btitle\x7d\x7d").toList :=
    Text.once_of_absent (by decide) (by decide) (by decide)
  refine ⟨once, ?_⟩
  obtain ⟨document, -, -, embeds, unmarked, -⟩ := embedding_exact _ ⟨"/graph", "/spec", "Call trees"⟩ once
  obtain ⟨tells, closes⟩ := unmarked (by decide)
  exact embeds.2 ⟨tells, fun ends => absurd (closes.1 ends) (by decide)⟩

/-- **An address with the mark of the title** is told with the title in its place. -/
theorem mark_replaced_in_address :
    Once headEnd.toList "<head>".toList [] (Text.ofFile "<head></head>").toList ∧
    ¬ Embeds ⟨"/\x7b\x7btitle\x7d\x7d", "/graph/__spec", "x"⟩ "<head>".toList []
      (fill "<head></head>" ⟨"/\x7b\x7btitle\x7d\x7d", "/graph/__spec", "x"⟩).toList := by
  have once : Once headEnd.toList "<head>".toList [] (Text.ofFile "<head></head>").toList :=
    Text.once_of_absent (by decide) (by decide) (by decide)
  refine ⟨once, fun embeds => ?_⟩
  obtain ⟨tells, -⟩ := (embeds_iff once rfl).2.1 embeds
  exact absurd ((tells_iff_of_literal (by decide) rfl).1 tells) (by decide)

end CallTree.Explorer
