import BusMaster.Proofs.Properties.Escapes
import BusMaster.Proofs.Properties.Lines
import Mathlib.Data.List.Dedup

/-!
# Properties read back

Pairs are written a line each, key and value escaped, with empty lines and comments put in
anywhere. Read again they are the same pairs, whatever their characters are.

* `decode_of_ascii`: the character set leaves ASCII as it is;
* `logicalLines_of_line`: the lines of a text, one at a time, whose numbers go on counting;
* `Written`: a text with a line for each pair;
* `Written.reads`: its lines give the pairs;
* `keys_ofPairs`: each key once;
* `reads_what_was_written`: all together.
-/

namespace BusMaster.Properties

open Text

/-! ## The character set -/

/-- ASCII characters are read as they are. -/
theorem decode_of_ascii {text : List Char} (h : ∀ c ∈ text, c.toNat < 0x80) :
    decode text = text := by
  have hsame : ∀ c : Char, c.toNat < 0x80 →
      (String.utf8EncodeChar c).map windows1252 = [c] := by
    intro c hc
    refine forall_ascii (P := fun c => (String.utf8EncodeChar c).map windows1252 = [c]) ?_ hc
    decide +kernel
  unfold decode
  split
  · exact absurd (h _ List.mem_cons_self) (by decide)
  · rw [List.map_flatMap, List.flatMap_congr fun c hc => hsame c (h c hc), List.flatMap_singleton']

/-! ## Lines -/

/-- The end of a physical line. -/
def IsLineEnd (ending : List Char) : Prop :=
  ending = ['\n'] ∨ ending = ['\r'] ∨ ending = ['\r', '\n']

theorem physicalLines_append {line cs first : List Char} {others : List (List Char)}
    (hline : ∀ c ∈ line, c ≠ '\n' ∧ c ≠ '\r') (h : physicalLines cs = first :: others) :
    physicalLines (line ++ cs) = (line ++ first) :: others := by
  induction line with
  | nil => exact h
  | cons c line ih =>
    rw [List.forall_mem_cons] at hline
    rw [List.cons_append, physicalLines, ih hline.2]
    · rfl
    all_goals simp [hline.1]

/-- A line is ended by each of the three ends. If a carriage return is followed by a line
feed, the two are one end. -/
theorem physicalLines_of_line {line ending cs : List Char}
    (hline : ∀ c ∈ line, c ≠ '\n' ∧ c ≠ '\r') (hend : IsLineEnd ending) :
    physicalLines (line ++ (ending ++ cs)) = line :: physicalLines cs ∨
      ∃ rest, cs = '\n' :: rest ∧
        physicalLines (line ++ (ending ++ cs)) = line :: physicalLines rest := by
  have hends : ∀ {others : List (List Char)}, physicalLines (ending ++ cs) = [] :: others →
      physicalLines (line ++ (ending ++ cs)) = line :: others := by
    intro others h
    rw [physicalLines_append hline h, List.append_nil]
  rcases hend with rfl | rfl | rfl
  · exact .inl (hends (by rw [List.singleton_append, physicalLines]))
  · cases cs with
    | nil => exact .inl (hends rfl)
    | cons c cs =>
      by_cases hc : c = '\n'
      · subst hc
        exact .inr ⟨cs, rfl, hends (by rw [List.singleton_append, physicalLines])⟩
      · refine .inl (hends ?_)
        rw [List.singleton_append, physicalLines]
        rintro rest hrest
        exact hc (List.cons.inj hrest).1
  · exact .inl (hends (by rw [List.cons_append, List.singleton_append, physicalLines]))

namespace LogicalLine

/-- The line with so many lines more before it. -/
def later (line : LogicalLine) (k : Nat) : LogicalLine :=
  { line with number := line.number + k }

end LogicalLine

/-- The numbers go on counting, and nothing else hangs on them. By induction on the lines. -/
theorem join_later (lines : List (List Char)) (n k : Nat) (begun : Option LogicalLine) :
    join (n + k) (begun.map (·.later k)) lines = (join n begun lines).map (·.later k) := by
  induction lines generalizing n begun with
  | nil => rfl
  | cons line lines ih =>
    have hnext : n + k + 1 = n + 1 + k := by omega
    cases begun with
    | none =>
      simp only [join, Option.map_none, hnext]
      split
      · exact ih (n + 1) (some ⟨n, line.dropLast⟩)
      · exact congrArg _ (ih (n + 1) none)
    | some before =>
      simp only [join, Option.map_some, hnext]
      split
      · exact ih (n + 1) (some { before with text := before.text ++ (trimStart line).dropLast })
      · exact congrArg _ (ih (n + 1) none)

/-- A line that does not go on is a logical line of its own. -/
theorem logicalLines_of_line {cs line rest : List Char}
    (h : physicalLines cs = line :: physicalLines rest) (hcontinues : continues line = false) :
    logicalLines cs = ⟨1, line⟩ :: (logicalLines rest).map (·.later 1) := by
  have hlater := join_later (physicalLines rest) 1 1 none
  rw [logicalLines, h, join, hcontinues, Bool.and_false, if_neg Bool.false_ne_true, logicalLines,
    ← hlater]
  rfl

/-! ## What lines say -/

/-- None of the lines is malformed, and these are the pairs that they give. -/
def Reads (lines : List LogicalLine) (pairs : List (String × String)) : Prop :=
  (∀ line ∈ lines, ¬ line.IsMalformed) ∧ lines.filterMap (·.pair?) = pairs

variable {lines : List LogicalLine} {pairs : List (String × String)}

theorem reads_later {k : Nat} : Reads (lines.map (·.later k)) pairs ↔ Reads lines pairs := by
  unfold Reads
  rw [List.forall_mem_map, List.filterMap_map]
  rfl

theorem reads_cons {line : LogicalLine} (hline : ¬ line.IsMalformed) :
    Reads (line :: lines) (line.pair?.toList ++ pairs) ↔ Reads lines pairs := by
  unfold Reads
  rw [List.forall_mem_cons, List.filterMap_cons]
  cases line.pair? <;> simp [hline]

theorem not_isMalformed_nil (n : Nat) : ¬ (⟨n, []⟩ : LogicalLine).IsMalformed := by
  rintro ⟨text, htext, -⟩
  cases htext

/-- A line that does not go on says what it says by itself, whatever ends it. -/
theorem reads_of_line {line ending cs : List Char} (hline : ∀ c ∈ line, c ≠ '\n' ∧ c ≠ '\r')
    (hend : IsLineEnd ending) (hcontinues : continues line = false)
    (hgood : ¬ (⟨1, line⟩ : LogicalLine).IsMalformed) (h : Reads (logicalLines cs) pairs) :
    Reads (logicalLines (line ++ (ending ++ cs)))
      ((⟨1, line⟩ : LogicalLine).pair?.toList ++ pairs) := by
  obtain hphysical | ⟨rest, rfl, hphysical⟩ := @physicalLines_of_line line ending cs hline hend
  · rw [logicalLines_of_line hphysical hcontinues, reads_cons hgood, reads_later]
    exact h
  · -- The line feed that was an empty line has become a part of the end before it.
    have hempty : logicalLines ('\n' :: rest) = ⟨1, []⟩ :: (logicalLines rest).map (·.later 1) :=
      logicalLines_of_line (by rw [physicalLines]) rfl
    rw [logicalLines_of_line hphysical hcontinues, reads_cons hgood]
    rw [hempty] at h
    exact (reads_cons (not_isMalformed_nil 1)).mp h

/-! ## Lines that give no pair -/

theorem unescape_of_no_backslash {text : List Char} (h : ∀ c ∈ text, c ≠ '\\') :
    unescape text = .ok text := by
  induction text with
  | nil => rfl
  | cons c text ih =>
    rw [List.forall_mem_cons] at h
    rw [unescape_plain h.1, ih h.2]
    rfl

/-- An ASCII line that is blank or a comment, without a backslash. -/
def IsFiller (line : List Char) : Prop :=
  (∀ c ∈ line, c.toNat < 0x80 ∧ c ∉ ['\\', '\n', '\r']) ∧
    ∃ blanks text, line = blanks ++ text ∧ (∀ c ∈ blanks, c ∈ [' ', '\t', '\x0c']) ∧
      ∀ c ∈ text.head?, c ∈ ['#', '!']

namespace IsFiller

variable {line : List Char}

theorem no_line_end (h : IsFiller line) : ∀ c ∈ line, c ≠ '\n' ∧ c ≠ '\r' := by
  intro c hc
  have := (h.1 c hc).2
  simp_all

theorem no_backslash (h : IsFiller line) : ∀ c ∈ line, c ≠ '\\' := by
  rintro c hc rfl
  exact (h.1 _ hc).2 (by simp)

theorem not_continues (h : IsFiller line) : continues line = false := by
  have hlast : trailingBackslashes line = 0 :=
    trailingBackslashes_of_last fun c hc => h.no_backslash c (List.mem_of_getLast? hc)
  rw [continues, hlast]
  rfl

/-- There is nothing on the line, or a comment that reads as it is. -/
theorem ofLine_eq (h : IsFiller line) : Content.ofLine line = .nothing ∨
    ∃ comment, Content.ofLine line = .comment comment ∧ unescape comment = .ok comment := by
  obtain ⟨blanks, text, hline, hblanks, hmark⟩ := h.2
  have hblank : ∀ c ∈ [' ', '\t', '\x0c'], isSpace c = true := forall_mem_of_all (by decide)
  have hmarks : ∀ c ∈ ['#', '!'], isSpace c = false ∧ isCommentMark c = true :=
    forall_mem_of_all (by decide)
  have hdrop : line.dropWhile isSpace = text := by
    rw [hline, List.dropWhile_append_of_pos fun c hc => hblank c (hblanks c hc),
      dropWhile_isSpace fun c hc => (hmarks c (hmark c hc)).1]
  unfold Content.ofLine
  rw [hdrop]
  cases text with
  | nil => exact .inl rfl
  | cons c comment =>
    refine .inr ⟨_, if_pos (hmarks c (hmark c rfl)).2, unescape_of_no_backslash fun d hd => ?_⟩
    have hd' := (List.dropWhile_sublist _).subset (List.mem_reverse.mp hd)
    have hcomment : d ∈ comment := (List.dropWhile_sublist _).subset (List.mem_reverse.mp hd')
    exact h.no_backslash d (by simp [hline, hcomment])

theorem reads_nothing (h : IsFiller line) (n : Nat) :
    ¬ (⟨n, line⟩ : LogicalLine).IsMalformed ∧ (⟨n, line⟩ : LogicalLine).pair? = none := by
  unfold LogicalLine.IsMalformed LogicalLine.pair?
  rcases h.ofLine_eq with hcontent | ⟨comment, hcontent, hread⟩
  · simp [hcontent, Content.texts]
  · simp [hcontent, Content.texts, hread]

end IsFiller

/-! ## Lines that give a pair -/

theorem reads_pair {key value ks vs : List Char} (hkey : Escaped key ks)
    (hvalue : Escaped value vs) (n : Nat) :
    ¬ (⟨n, ks ++ '=' :: vs⟩ : LogicalLine).IsMalformed ∧
      (⟨n, ks ++ '=' :: vs⟩ : LogicalLine).pair? = some (.ofList key, .ofList value) := by
  have hcontent := ofLine_of_escaped hkey hvalue
  unfold LogicalLine.IsMalformed LogicalLine.pair?
  simp [hcontent, Content.texts, hkey.unescape_eq, hvalue.unescape_eq]

/-! ## Written texts -/

/-- The text has a line for each of the pairs, one after the other, and blank lines and
comments anywhere. -/
inductive Written : List (String × String) → List Char → Prop
  | nil : Written [] []
  | pair {pairs : List (String × String)} {key value : String} {ks vs ending cs : List Char}
    (hkey : Escaped key.toList ks) (hvalue : Escaped value.toList vs) (hend : IsLineEnd ending)
    (h : Written pairs cs) : Written ((key, value) :: pairs) ((ks ++ '=' :: vs) ++ (ending ++ cs))
  | filler {pairs : List (String × String)} {line ending cs : List Char} (hline : IsFiller line)
    (hend : IsLineEnd ending) (h : Written pairs cs) : Written pairs (line ++ (ending ++ cs))

/-- The characters of the text have numbers of sixteen bits. -/
def IsBasic (text : String) : Prop :=
  ∀ c ∈ text.toList, c.toNat < 0x10000

namespace Written

variable {cs : List Char}

/-- A pair as `writePair` writes it. -/
theorem append {key value : String} (hkey : IsBasic key) (hvalue : IsBasic value)
    (h : Written pairs cs) : Written ((key, value) :: pairs) (writePair key value ++ cs) := by
  have hline := h.pair (escaped_flatMap hkey) (escaped_flatMap hvalue) (.inl rfl)
  simpa [writePair] using hline

theorem ascii (h : Written pairs cs) : ∀ c ∈ cs, c.toNat < 0x80 := by
  have hends : ∀ ending, IsLineEnd ending → ∀ c ∈ ending, c.toNat < 0x80 := by
    rintro ending (rfl | rfl | rfl) <;> exact forall_mem_of_all (by decide)
  induction h with
  | nil => simp
  | pair hkey hvalue hend _ ih =>
    have hks := fun c hc => (hkey.no_line_end c hc).1
    have hvs := fun c hc => (hvalue.no_line_end c hc).1
    simp only [List.forall_mem_append, List.forall_mem_cons]
    exact ⟨⟨hks, by decide, hvs⟩, hends _ hend, ih⟩
  | filler hline hend _ ih =>
    simp only [List.forall_mem_append]
    exact ⟨fun c hc => (hline.1 c hc).1, hends _ hend, ih⟩

/-- The lines of a written text give its pairs. By induction on the lines. -/
theorem reads (h : Written pairs cs) : Reads (logicalLines cs) pairs := by
  induction h with
  | nil => exact ⟨List.forall_mem_singleton.mpr (not_isMalformed_nil 1), rfl⟩
  | pair hkey hvalue hend _ ih =>
    obtain ⟨hgood, hpair⟩ := reads_pair hkey hvalue 1
    have hline := reads_of_line ?_ hend (hvalue.not_continues _) hgood ih
    · simpa [hpair] using hline
    · simp only [List.forall_mem_append, List.forall_mem_cons]
      exact ⟨fun c hc => (hkey.no_line_end c hc).2, by decide,
        fun c hc => (hvalue.no_line_end c hc).2⟩
  | filler hfiller hend _ ih =>
    obtain ⟨hgood, hnone⟩ := hfiller.reads_nothing 1
    have hline := reads_of_line hfiller.no_line_end hend hfiller.not_continues hgood ih
    simpa [hnone] using hline

theorem parse_eq {text : String} (h : Written pairs text.toList) :
    parse text = .ok (ofPairs pairs) := by
  have hreads : Reads (linesOf text) pairs := by
    rw [linesOf, decode_of_ascii h.ascii]
    exact h.reads
  rw [parse_of_readable hreads.1, hreads.2]

end Written

/-! ## Keys -/

theorem mem_keys_iff {props : Properties} {key : String} :
    key ∈ props.keys ↔ props.get? key ≠ none := by
  simp [keys, get?]

/-- A key that is new comes last. -/
theorem map_insertPair (key value : String) (pairs : List (String × String)) :
    (insertPair key value pairs).map (·.1) =
      if key ∈ pairs.map (·.1) then pairs.map (·.1) else pairs.map (·.1) ++ [key] := by
  induction pairs with
  | nil => rfl
  | cons pair pairs ih =>
    obtain ⟨k, v⟩ := pair
    rw [insertPair]
    by_cases hk : k = key
    · simp [hk]
    · rw [if_neg hk, List.map_cons, ih]
      simp only [List.map_cons, List.mem_cons, Ne.symm hk, false_or, List.cons_append]
      exact apply_ite (k :: ·) _ _ _

theorem keys_insert (props : Properties) (key value : String) :
    (props.insert key value).keys =
      if key ∈ props.keys then props.keys else props.keys ++ [key] :=
  map_insertPair key value props.pairs

/-- Each key that was set is there once. By induction on the pairs. -/
theorem keys_ofPairs (pairs : List (String × String)) :
    (ofPairs pairs).keys.Nodup ∧ ∀ key, key ∈ (ofPairs pairs).keys ↔ key ∈ pairs.map (·.1) := by
  induction pairs using List.reverseRecOn with
  | nil => exact ⟨List.nodup_nil, fun _ => Iff.rfl⟩
  | append_singleton pairs pair ih =>
    obtain ⟨hnodup, hmem⟩ := ih
    rw [ofPairs_snoc, keys_insert]
    split
    · rename_i hold
      refine ⟨hnodup, fun key => ?_⟩
      rw [hmem, List.map_append, List.mem_append]
      refine ⟨.inl, ?_⟩
      rintro (hkey | hkey)
      · exact hkey
      · rw [List.mem_singleton.mp hkey]
        exact (hmem _).mp hold
    · rename_i hnew
      refine ⟨List.nodup_append.mpr ⟨hnodup, List.nodup_singleton _, ?_⟩, fun key => ?_⟩
      · rintro key hkey _ hsame rfl
        exact hnew (List.mem_singleton.mp hsame ▸ hkey)
      · rw [List.mem_append, hmem, List.map_append, List.mem_append]
        rfl

theorem get?_ofPairs_eq_none {key : String} :
    (ofPairs pairs).get? key = none ↔ key ∉ pairs.map (·.1) := by
  rw [← (keys_ofPairs pairs).2, mem_keys_iff, not_not]

/-- As many keys as there are different ones. -/
theorem size_ofPairs (pairs : List (String × String)) :
    (ofPairs pairs).size = (pairs.map (·.1)).dedup.length := by
  obtain ⟨hnodup, hmem⟩ := keys_ofPairs pairs
  have hperm : (ofPairs pairs).keys.Perm (pairs.map (·.1)).dedup :=
    (List.perm_ext_iff_of_nodup hnodup (List.nodup_dedup _)).mpr fun key => by
      rw [hmem, List.mem_dedup]
  have hlength := hperm.length_eq
  rwa [keys, List.length_map] at hlength

/-! ## All together -/

/-- A text with a line for each pair, as `writePair` or somebody else writes it, and with
blank lines and comments anywhere, is read. Each key written has the value of its last pair,
no other key has one, and the size is the number of different keys. -/
theorem reads_what_was_written :
    (∀ pairs cs key value, IsBasic key → IsBasic value → Written pairs cs →
      Written ((key, value) :: pairs) (writePair key value ++ cs)) ∧
    ∀ pairs text, Written pairs text.toList → ∃ props, parse text = .ok props ∧
      (∀ key value, props.get? key = some value ↔ LastOf pairs key value) ∧
      (∀ key, props.get? key = none ↔ key ∉ pairs.map (·.1)) ∧
      props.size = (pairs.map (·.1)).dedup.length := by
  constructor
  · intro pairs cs key value hkey hvalue h
    exact h.append hkey hvalue
  · intro pairs text h
    exact ⟨ofPairs pairs, h.parse_eq, fun _ _ => get?_ofPairs, fun _ => get?_ofPairs_eq_none,
      size_ofPairs pairs⟩

/-- A key written twice, an empty one, and between the lines a comment and a blank. -/
theorem reads_what_was_written_of_marks :
    ∃ props, parse "# c\r\na\\ b=x\\\\\r\t\n=\\#\\u00E9\\n\na\\ b=\n" = .ok props ∧
      props.get? "a b" = some "" ∧ props.get? "" = some "#é\n" ∧ props.get? "#" = none ∧
      props.size = 2 := by
  obtain ⟨hwrite, hread⟩ := reads_what_was_written
  have hbasic : IsBasic "a b" ∧ IsBasic "x\\" ∧ IsBasic "#é\n" ∧ IsBasic "" :=
    ⟨forall_mem_of_all (by decide), forall_mem_of_all (by decide), forall_mem_of_all (by decide),
      by simp [IsBasic]⟩
  obtain ⟨hkey, hvalue, hmarks, hempty⟩ := hbasic
  have hsince := hwrite _ _ _ _ hkey hempty .nil
  have hbetween := hwrite _ _ _ _ hempty hmarks hsince
  have hblank : IsFiller ['\t'] :=
    ⟨forall_mem_of_all (by decide), ['\t'], [], rfl, forall_mem_of_all (by decide), by simp⟩
  have hfirst := (hbetween.filler hblank (.inl rfl)).pair (escaped_flatMap hkey) (escaped_flatMap hvalue)
    (.inr (.inl rfl))
  have hcomment : IsFiller ['#', ' ', 'c'] :=
    ⟨forall_mem_of_all (by decide), [], _, rfl, by simp, by simp⟩
  have hall := hfirst.filler hcomment (.inr (.inr rfl))
  obtain ⟨props, hparse, hget, hnone, hsize⟩ :=
    hread _ "# c\r\na\\ b=x\\\\\r\t\n=\\#\\u00E9\\n\na\\ b=\n" hall
  refine ⟨props, hparse, (hget _ _).mpr ⟨[("a b", "x\\"), ("", "#é\n")], [], rfl, by simp⟩,
    (hget _ _).mpr ⟨[("a b", "x\\")], [("a b", "")], rfl, by decide⟩, (hnone _).mpr (by decide), ?_⟩
  rw [hsize]
  decide

end BusMaster.Properties
