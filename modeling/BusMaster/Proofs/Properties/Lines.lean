import BusMaster.Proofs.Record
import BusMaster.Properties.Basic

/-!
# Properties line by line

A properties text is read as a whole or not at all: one line with a bad escape, be it in
a comment, and the text has no properties. Otherwise each key has the value that its
last line gives.

* `Properties.LastOf`: the last value of a key in a list of pairs;
* `Properties.get?_ofPairs`: what is set last counts;
* `LogicalLine.IsMalformed`, `LogicalLine.pair?`: a bad line, and what a good one says;
* `Properties.parse_of_readable`, `Properties.parse_of_malformed`: reading a text.
-/

namespace BusMaster

namespace Properties

variable {props : Properties} {pairs : List (String × String)} {key value : String}

/-! ## Pairs set one after the other -/

/-- The last pair with that key has that value. -/
def LastOf (pairs : List (String × String)) (key value : String) : Prop :=
  ∃ before since, pairs = before ++ (key, value) :: since ∧ ∀ pair ∈ since, pair.1 ≠ key

/-- Pairs set one after the other. -/
def ofPairs (pairs : List (String × String)) : Properties :=
  pairs.foldl (fun props (key, value) => props.insert key value) {}

/-- Setting a key changes what is under it, and nothing else. -/
theorem lookup_insertPair (key value k : String) (pairs : List (String × String)) :
    (insertPair key value pairs).lookup k = if k = key then some value else pairs.lookup k := by
  by_cases h : k = key
  · subst h
    rw [if_pos rfl]
    induction pairs with
    | nil => exact List.lookup_cons_self
    | cons pair pairs ih =>
      rw [insertPair]
      split
      · rename_i he
        rw [he]
        exact List.lookup_cons_self
      · rename_i hne
        rw [List.lookup_cons, beq_false_of_ne (Ne.symm hne)]
        exact ih
  · rw [if_neg h]
    induction pairs with
    | nil => rw [insertPair, List.lookup_cons, beq_false_of_ne h]
    | cons pair pairs ih =>
      rw [insertPair]
      split
      · rename_i he
        rw [List.lookup_cons, List.lookup_cons, he]
        simp only [beq_false_of_ne h]
      · rw [List.lookup_cons, List.lookup_cons, ih]

@[simp] theorem get?_insert (props : Properties) (key value k : String) :
    (props.insert key value).get? k = if k = key then some value else props.get? k :=
  lookup_insertPair key value k props.pairs

theorem ofPairs_snoc (pairs : List (String × String)) (key value : String) :
    ofPairs (pairs ++ [(key, value)]) = (ofPairs pairs).insert key value := by
  simp [ofPairs]

theorem lastOf_snoc {k v : String} :
    LastOf (pairs ++ [(k, v)]) key value ↔
      if key = k then v = value else LastOf pairs key value := by
  constructor
  · rintro ⟨before, since, he, hsince⟩
    rcases split_snoc he with ⟨-, hlast, -⟩ | ⟨since, rfl, hpairs⟩
    · cases hlast
      rw [if_pos rfl]
    · have hk : k ≠ key := hsince (k, v) (by simp)
      rw [if_neg hk.symm]
      exact ⟨before, since, hpairs, fun pair hpair => hsince pair (List.mem_append_left _ hpair)⟩
  · split
    · rename_i hkey
      rintro rfl
      subst hkey
      exact ⟨pairs, [], rfl, by simp⟩
    · rename_i hkey
      rintro ⟨before, since, rfl, hsince⟩
      refine ⟨before, since ++ [(k, v)], by simp, fun pair hpair => ?_⟩
      rcases List.mem_append.mp hpair with hpair | hpair
      · exact hsince pair hpair
      · rw [List.mem_singleton.mp hpair]
        exact Ne.symm hkey

/-- Of several values for a key the one set last counts. By induction on the pairs. -/
theorem get?_ofPairs : (ofPairs pairs).get? key = some value ↔ LastOf pairs key value := by
  induction pairs using List.reverseRecOn with
  | nil => simp [ofPairs, get?, LastOf]
  | append_singleton pairs pair ih =>
    rw [ofPairs_snoc, get?_insert, lastOf_snoc]
    split
    · exact Option.some_inj
    · exact ih

/-! ## Lines -/

/-- The texts in a line in which escapes are read. -/
def Content.texts : Content → List (List Char)
  | nothing => []
  | comment text => [text]
  | entry key value => [key, value]

namespace LogicalLine

/-- The line has a bad escape. -/
def IsMalformed (line : LogicalLine) : Prop :=
  ∃ text ∈ (Content.ofLine line.text).texts, ∃ e, unescape text = .error e

/-- The pair that the line gives, if it gives one. -/
def pair? (line : LogicalLine) : Option (String × String) :=
  match Content.ofLine line.text with
  | .entry key value =>
    match unescape key, unescape value with
    | .ok key, .ok value => some (.ofList key, .ofList value)
    | _, _ => none
  | _ => none

end LogicalLine

/-- The lines of a text. -/
def linesOf (text : String) : List LogicalLine :=
  logicalLines (decode text.toList)

/-- What is wrong with a bad line does not hang on what was read before it. -/
theorem addLine_of_malformed {line : LogicalLine} (h : line.IsMalformed) :
    ∃ e, ∀ props, addLine props line = .error e := by
  obtain ⟨text, htext, e, he⟩ := h
  unfold addLine
  cases hc : Content.ofLine line.text with
  | nothing =>
    rw [hc] at htext
    cases htext
  | comment c =>
    rw [hc] at htext
    obtain rfl := List.mem_singleton.mp htext
    dsimp only
    rw [he]
    exact ⟨_, fun _ => rfl⟩
  | entry k v =>
    rw [hc] at htext
    dsimp only
    -- The key is read first, so it may be bad as well if the value is.
    cases hk : unescape k with
    | error e' => exact ⟨_, fun _ => rfl⟩
    | ok k' =>
      have hv : unescape v = .error e := by
        rcases List.mem_cons.mp htext with rfl | htext
        · rw [hk] at he
          cases he
        · rw [← List.mem_singleton.mp htext]
          exact he
      rw [hv]
      exact ⟨_, fun _ => rfl⟩

theorem addLine_of_readable {line : LogicalLine} (h : ¬ line.IsMalformed) (props : Properties) :
    addLine props line = .ok (line.pair?.toList.foldl (fun p (k, v) => p.insert k v) props) := by
  have hread : ∀ text ∈ (Content.ofLine line.text).texts, ∃ chars, unescape text = .ok chars := by
    intro text htext
    cases hu : unescape text with
    | error e => exact absurd ⟨text, htext, e, hu⟩ h
    | ok chars => exact ⟨chars, rfl⟩
  rw [addLine, LogicalLine.pair?]
  cases hc : Content.ofLine line.text with
  | nothing => rfl
  | comment c =>
    obtain ⟨chars, hchars⟩ := hread c (by simp [hc, Content.texts])
    dsimp only
    rw [hchars]
    rfl
  | entry k v =>
    obtain ⟨key, hkey⟩ := hread k (by simp [hc, Content.texts])
    obtain ⟨value, hvalue⟩ := hread v (by simp [hc, Content.texts])
    simp only [hkey, hvalue]
    rfl

/-! ## Texts -/

/-- By induction on the lines. -/
theorem foldlM_addLine_of_readable {lines : List LogicalLine}
    (h : ∀ line ∈ lines, ¬ line.IsMalformed) (props : Properties) :
    lines.foldlM addLine props =
      .ok ((lines.filterMap (·.pair?)).foldl (fun p (k, v) => p.insert k v) props) := by
  induction lines generalizing props with
  | nil => rfl
  | cons line lines ih =>
    rw [List.foldlM_cons, addLine_of_readable (h line List.mem_cons_self)]
    show lines.foldlM addLine _ = _
    rw [ih fun l hl => h l (List.mem_cons_of_mem _ hl)]
    cases hp : line.pair? <;> simp [hp]

theorem foldlM_addLine_of_malformed {lines : List LogicalLine} {line : LogicalLine}
    (hmem : line ∈ lines) (h : line.IsMalformed) (props : Properties) :
    ∃ e, lines.foldlM addLine props = .error e := by
  induction lines generalizing props with
  | nil => cases hmem
  | cons first lines ih =>
    rw [List.foldlM_cons]
    rcases List.mem_cons.mp hmem with rfl | hmem
    · obtain ⟨e, he⟩ := addLine_of_malformed h
      rw [he]
      exact ⟨e, rfl⟩
    · cases hfirst : addLine props first with
      | error e => exact ⟨e, rfl⟩
      | ok props => exact ih hmem props

/-- A text without a bad line has the pairs of its lines. -/
theorem parse_of_readable {text : String} (h : ∀ line ∈ linesOf text, ¬ line.IsMalformed) :
    parse text = .ok (ofPairs ((linesOf text).filterMap (·.pair?))) :=
  foldlM_addLine_of_readable h {}

/-- One bad line, and a text cannot be read. -/
theorem parse_of_malformed {text : String} {line : LogicalLine} (hmem : line ∈ linesOf text)
    (h : line.IsMalformed) : ∃ e, parse text = .error e :=
  foldlM_addLine_of_malformed hmem h {}

end Properties

end BusMaster
