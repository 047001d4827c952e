import BusMaster.Proofs.Properties.Written

/-!
# One properties text after the other

A text that ends with a whole line has no effect on how the text after it is read, but for the
numbers of the lines. The two together give what the second one gives and, for all other keys,
what the first one gives, or fail where the first of them to fail does.

* `lineEnds`, `leavesOpen`, `IsWhole`: the line ends of a text, and a text that ends with a whole
  line;
* `logicalLines_append`: the lines of the second text come after those of the first;
* `foldlM_addLine_later`: the number of a line shows only in what is reported;
* `foldlM_addLine_onTop`: what was read before a line does not matter to it;
* `parse_append`: the second text is read on top of the first one;
* `texts_compose`: all together.
-/

namespace BusMaster.Properties

open Text

/-! ## Whole lines -/

/-- The number of line ends in a text. -/
def lineEnds : List Char → Nat
  | [] => 0
  | '\r' :: '\n' :: cs => lineEnds cs + 1
  | '\r' :: cs => lineEnds cs + 1
  | '\n' :: cs => lineEnds cs + 1
  | _ :: cs => lineEnds cs

/-- The physical lines that end in the text. -/
def endedLines (text : List Char) : List (List Char) :=
  (physicalLines text).dropLast

/-- The physical lines leave a logical line unfinished. The first of them continues one if `begun`
says so. -/
def leavesOpen (begun : Bool) : List (List Char) → Bool
  | [] => begun
  | line :: rest => leavesOpen ((begun || !isComment line) && continues line) rest

/-- The text is empty, or it ends with a line feed and leaves no logical line unfinished. -/
def IsWhole (text : List Char) : Prop :=
  text = [] ∨ text.getLast? = some '\n' ∧ leavesOpen false (endedLines text) = false

instance (text : List Char) : Decidable (IsWhole text) :=
  inferInstanceAs (Decidable (_ ∨ _))

theorem length_physicalLines (text : List Char) :
    (physicalLines text).length = lineEnds text + 1 := by
  induction text using physicalLines.induct with
  | case1 => rfl
  | case2 cs ih => rw [physicalLines, lineEnds, List.length_cons, ih]
  | case3 cs hfeed ih =>
    rw [physicalLines, lineEnds, List.length_cons, ih]
    all_goals exact hfeed
  | case4 cs ih => rw [physicalLines, lineEnds, List.length_cons, ih]
  | case5 c cs hcrlf hcr hlf hnone ih =>
    rw [hnone] at ih
    cases ih
  | case6 c cs hcrlf hcr hlf line lines hsome ih =>
    rw [physicalLines, lineEnds, hsome, ← ih, hsome]
    · rfl
    all_goals assumption

theorem length_endedLines (text : List Char) : (endedLines text).length = lineEnds text := by
  rw [endedLines, List.length_dropLast, length_physicalLines, Nat.add_sub_cancel]

theorem physicalLines_ne_nil (text : List Char) : physicalLines text ≠ [] :=
  List.ne_nil_of_length_eq_add_one (length_physicalLines text)

/-- The lines up to a line feed are the same whatever comes after it. -/
theorem exists_physicalLines_feed (text : List Char) :
    ∃ line lines, ∀ rest,
      physicalLines (text ++ '\n' :: rest) = line :: (lines ++ physicalLines rest) := by
  induction text using physicalLines.induct with
  | case1 => exact ⟨[], [], fun rest => by rw [List.nil_append, physicalLines, List.nil_append]⟩
  | case2 cs ih =>
    obtain ⟨line, lines, hlines⟩ := ih
    exact ⟨[], line :: lines, fun rest => congrArg _ (hlines rest)⟩
  | case3 cs hfeed ih =>
    cases cs with
    | nil =>
      -- The carriage return and the line feed are one end.
      exact ⟨[], [], fun rest => by rw [List.singleton_append, physicalLines, List.nil_append]⟩
    | cons c cs =>
      obtain ⟨line, lines, hlines⟩ := ih
      refine ⟨[], line :: lines, fun rest => ?_⟩
      rw [List.cons_append, physicalLines, hlines, List.cons_append]
      rintro tail htail
      exact hfeed cs (congrArg (· :: cs) (List.cons.inj htail).1)
  | case4 cs ih =>
    obtain ⟨line, lines, hlines⟩ := ih
    exact ⟨[], line :: lines, fun rest => congrArg _ (hlines rest)⟩
  | case5 c cs hcrlf hcr hlf hnone ih => exact absurd hnone (physicalLines_ne_nil cs)
  | case6 c cs hcrlf hcr hlf first others hsome ih =>
    obtain ⟨line, lines, hlines⟩ := ih
    refine ⟨c :: line, lines, fun rest => ?_⟩
    exact physicalLines_append (List.forall_mem_singleton.mpr ⟨hlf, hcr⟩) (hlines rest)

/-- A whole text does not change the physical lines after it. -/
theorem IsWhole.physicalLines_append {text : List Char} (h : IsWhole text) (rest : List Char) :
    physicalLines (text ++ rest) = endedLines text ++ physicalLines rest := by
  rcases h with rfl | ⟨hlast, -⟩
  · rfl
  · obtain ⟨text, rfl⟩ := List.getLast?_eq_some_iff.mp hlast
    obtain ⟨line, lines, hlines⟩ := exists_physicalLines_feed text
    have hended : endedLines (text ++ ['\n']) = line :: lines := by
      rw [endedLines, hlines [], ← List.cons_append]
      exact List.dropLast_concat
    rw [hended, List.append_assoc]
    exact hlines rest

theorem IsWhole.not_leavesOpen {text : List Char} (h : IsWhole text) :
    leavesOpen false (endedLines text) = false := by
  rcases h with rfl | ⟨-, hopen⟩
  · rfl
  · exact hopen

/-- A physical line goes on in the next one or ends the logical line. -/
theorem exists_join_cons (number : Nat) (begun : Option LogicalLine) (line : List Char) :
    ∃ unfinished finished, ∀ rest, join number begun (line :: rest) =
      if (begun.isSome || !isComment line) && continues line then
        join (number + 1) (some unfinished) rest
      else finished :: join (number + 1) none rest := by
  cases begun with
  | none => exact ⟨⟨number, line.dropLast⟩, ⟨number, line⟩, fun rest => rfl⟩
  | some before =>
    exact ⟨{ before with text := before.text ++ (trimStart line).dropLast },
      { before with text := before.text ++ trimStart line }, fun rest => rfl⟩

/-- Lines that leave none unfinished do not change how the lines after them are joined. By
induction on the lines before. -/
theorem join_append {lines : List (List Char)} {begun : Option LogicalLine}
    (h : leavesOpen begun.isSome lines = false) (number : Nat) (rest : List (List Char)) :
    join number begun (lines ++ rest) =
      join number begun lines ++ join (number + lines.length) none rest := by
  induction lines generalizing number begun with
  | nil =>
    obtain rfl : begun = none := Option.not_isSome_iff_eq_none.mp (Bool.not_eq_true _ ▸ h)
    rfl
  | cons line lines ih =>
    have hnumber : number + (line :: lines).length = number + 1 + lines.length := by
      rw [List.length_cons]
      omega
    obtain ⟨unfinished, finished, hjoin⟩ := exists_join_cons number begun line
    rw [leavesOpen] at h
    rw [List.cons_append, hjoin, hjoin, hnumber]
    split
    · rename_i hgoes
      rw [hgoes] at h
      exact @ih (some unfinished) h (number + 1)
    · rename_i hstays
      rw [Bool.eq_false_of_not_eq_true hstays] at h
      exact congrArg _ (@ih none h (number + 1))

/-- The lines of a text after a whole one come after its lines, and go on counting. -/
theorem logicalLines_append {text : List Char} (h : IsWhole text) (rest : List Char) :
    logicalLines (text ++ rest) =
      join 1 none (endedLines text) ++ (logicalLines rest).map (·.later (lineEnds text)) := by
  have hjoin := @join_append _ none h.not_leavesOpen 1 (physicalLines rest)
  rw [logicalLines, h.physicalLines_append, hjoin, length_endedLines, logicalLines]
  exact congrArg _ (join_later (physicalLines rest) 1 (lineEnds text) none)

/-! ## Reading lines -/

namespace Malformed

/-- What is reported when so many lines more are before it. -/
def later (e : Malformed) (k : Nat) : Malformed :=
  { e with line := e.line + k }

end Malformed

/-- The number of a line shows only in what is reported. -/
theorem addLine_later (props : Properties) (line : LogicalLine) (k : Nat) :
    addLine props (line.later k) = (addLine props line).mapError (·.later k) := by
  have hmap : ∀ result : Except EscapeError Properties,
      result.mapError (Malformed.mk (line.number + k)) =
        (result.mapError (Malformed.mk line.number)).mapError (·.later k) := by
    intro result
    cases result <;> rfl
  exact hmap _

/-- Lines with other numbers are read in the same way. By induction on the lines. -/
theorem foldlM_addLine_later (lines : List LogicalLine) (props : Properties) (k : Nat) :
    (lines.map (·.later k)).foldlM addLine props =
      (lines.foldlM addLine props).mapError (·.later k) := by
  induction lines generalizing props with
  | nil => rfl
  | cons line lines ih =>
    rw [List.map_cons, List.foldlM_cons, List.foldlM_cons, addLine_later]
    cases addLine props line with
    | error e => rfl
    | ok props => exact ih props

/-- What the same lines give when they are read into nothing and when they are read into `base`:
they fail alike, or the second has the values of the first, and those of `base` for the keys
that the first does not have. -/
inductive OnTop (base : Properties) :
    Except Malformed Properties → Except Malformed Properties → Prop
  | failed (e : Malformed) : OnTop base (.error e) (.error e)
  | read {props both : Properties}
    (h : ∀ key, both.get? key = (props.get? key).or (base.get? key)) :
    OnTop base (.ok props) (.ok both)

variable {base props both : Properties}

namespace OnTop

variable {e : Malformed} {result : Except Malformed Properties}

theorem eq_error (h : OnTop base (.error e) result) : result = .error e := by
  cases h
  rfl

theorem exists_ok (h : OnTop base (.ok props) result) :
    ∃ both, result = .ok both ∧ ∀ key, both.get? key = (props.get? key).or (base.get? key) := by
  cases h with
  | @read _ both h => exact ⟨both, rfl, h⟩

end OnTop

/-- A line keeps the two results together. -/
theorem addLine_onTop (h : ∀ key, both.get? key = (props.get? key).or (base.get? key))
    (line : LogicalLine) : OnTop base (addLine props line) (addLine both line) := by
  by_cases hline : line.IsMalformed
  · obtain ⟨e, he⟩ := addLine_of_malformed hline
    rw [he, he]
    exact .failed e
  · rw [addLine_of_readable hline, addLine_of_readable hline]
    cases line.pair? with
    | none => exact .read h
    | some pair =>
      refine .read fun key => ?_
      show (both.insert pair.1 pair.2).get? key =
        ((props.insert pair.1 pair.2).get? key).or (base.get? key)
      rw [get?_insert, get?_insert]
      split
      · rfl
      · exact h key

/-- By induction on the lines. -/
theorem foldlM_addLine_onTop (lines : List LogicalLine)
    (h : ∀ key, both.get? key = (props.get? key).or (base.get? key)) :
    OnTop base (lines.foldlM addLine props) (lines.foldlM addLine both) := by
  induction lines generalizing props both with
  | nil => exact .read h
  | cons line lines ih =>
    rw [List.foldlM_cons, List.foldlM_cons]
    have hline := addLine_onTop h line
    generalize addLine props line = result, addLine both line = result' at hline ⊢
    cases hline with
    | failed e => exact .failed e
    | read h => exact ih h

/-! ## Reading texts -/

variable {text rest : String}

/-- A text after a whole one is read into what that one gives. -/
theorem parse_append (hascii : ∀ c ∈ (text ++ rest).toList, c.toNat < 0x80)
    (hwhole : IsWhole text.toList) :
    parse (text ++ rest) = parse text >>= fun above =>
      ((linesOf rest).foldlM addLine above).mapError (·.later (lineEnds text.toList)) := by
  have hparts := hascii
  rw [String.toList_append, List.forall_mem_append] at hparts
  have htext : parse text = (join 1 none (endedLines text.toList)).foldlM addLine {} := by
    have hlines := logicalLines_append hwhole []
    rw [List.append_nil] at hlines
    rw [parse, decode_of_ascii hparts.1, hlines, List.foldlM_append]
    -- The empty line behind the last line end says nothing.
    exact bind_pure _
  rw [htext, parse, decode_of_ascii hascii, String.toList_append, logicalLines_append hwhole,
    List.foldlM_append]
  simp only [foldlM_addLine_later, linesOf, decode_of_ascii hparts.2]

theorem parse_onTop (rest : String) (above : Properties) :
    OnTop above (parse rest) ((linesOf rest).foldlM addLine above) :=
  foldlM_addLine_onTop (linesOf rest) fun _ => rfl

/-- Two texts of which the first is whole. If it fails, the two together fail in the same line for
the same reason. Else, if the second fails, they fail for its reason, in a line as much later as
the first has line ends. Else they have the values of the second, and those of the first for
the keys that the second does not have. -/
theorem texts_compose (hascii : ∀ c ∈ (text ++ rest).toList, c.toNat < 0x80)
    (hwhole : IsWhole text.toList) :
    (∀ e, parse text = .error e → parse (text ++ rest) = .error e) ∧
    (∀ above e, parse text = .ok above → parse rest = .error e →
      parse (text ++ rest) = .error ⟨e.line + lineEnds text.toList, e.cause⟩) ∧
    ∀ above below, parse text = .ok above → parse rest = .ok below →
      ∃ both, parse (text ++ rest) = .ok both ∧
        ∀ key, both.get? key = (below.get? key).or (above.get? key) := by
  rw [parse_append hascii hwhole]
  refine ⟨fun e htext => ?_, fun above e htext hrest => ?_, fun above below htext hrest => ?_⟩
  · rw [htext]
    rfl
  · have honTop := parse_onTop rest above
    rw [hrest] at honTop
    rw [htext]
    exact congrArg (Except.mapError _) honTop.eq_error
  · have honTop := parse_onTop rest above
    rw [hrest] at honTop
    obtain ⟨both, hboth, hget⟩ := honTop.exists_ok
    rw [htext]
    exact ⟨both, congrArg (Except.mapError _) hboth, hget⟩

/-- A line that goes on over two ends, and a comment, which does not go on. -/
theorem texts_compose_of_comment :
    parse ("x\\\n y=\\u12G4\n" ++ "k=3") = .error ⟨1, .notHex⟩ ∧
    parse ("j = 1, \\\r\n  2\rk=x #\r#c\\\n" ++ "\nk=\\u00\n") = .error ⟨6, .notEnoughDigits⟩ ∧
    ∃ both, parse ("j = 1, \\\r\n  2\rk=x #\r#c\\\n" ++ "k=3") = .ok both ∧
      both.get? "k" = some "3" ∧ both.get? "j" = some "1, 2" := by
  have hbad := @texts_compose "x\\\n y=\\u12G4\n" "k=3" (forall_mem_of_all (by decide +kernel))
    (by decide +kernel)
  have hlate := @texts_compose "j = 1, \\\r\n  2\rk=x #\r#c\\\n" "\nk=\\u00\n"
    (forall_mem_of_all (by decide +kernel)) (by decide +kernel)
  have hgood := @texts_compose "j = 1, \\\r\n  2\rk=x #\r#c\\\n" "k=3"
    (forall_mem_of_all (by decide +kernel)) (by decide +kernel)
  have habove : parse "j = 1, \\\r\n  2\rk=x #\r#c\\\n" = .ok ⟨[("j", "1, 2"), ("k", "x #")]⟩ := by
    decide +kernel
  obtain ⟨both, hboth, hget⟩ := hgood.2.2 _ ⟨[("k", "3")]⟩ habove (by decide +kernel)
  exact ⟨hbad.1 ⟨1, .notHex⟩ (by decide +kernel),
    hlate.2.1 _ ⟨2, .notEnoughDigits⟩ habove (by decide +kernel),
    both, hboth, by rw [hget]; rfl, by rw [hget]; rfl⟩

end BusMaster.Properties
