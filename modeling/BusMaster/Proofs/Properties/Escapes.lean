import BusMaster.Proofs.Address.Spelling
import BusMaster.Properties.Basic

/-!
# Escaped keys and values

A key or value is written character by character, each in a form of its own. Whatever
stands in such a text with a meaning for lines or keys has a backslash before it, and the
forms are read back one by one.

* `Form`, `Escaped`: a character and a text as they may be written;
* `escaped_flatMap`: `escape` writes them so;
* `Escaped.unescape_eq`: they are read back;
* `Escaped.splitKey_eq`, `ofLine_of_escaped`: a key ends at the separator behind it, and
  the value begins there;
* `Escaped.not_continues`: no backslash is left over at the end of a line.
-/

namespace BusMaster

namespace Text

/-! ## Numbers of four digits -/

/-- The four digits of a number of sixteen bits. -/
def fourDigits (n : Nat) : List Char :=
  [hexDigit (n / 4096), hexDigit (n / 256 % 16), hexDigit (n / 16 % 16), hexDigit (n % 16)]

theorem hexValue?_of_mem_fourDigits {n : Nat} {c : Char} (hc : c ∈ fourDigits n)
    (hn : n < 0x10000) : ∃ value, hexValue? c = some value := by
  simp only [fourDigits, List.mem_cons, List.not_mem_nil, or_false] at hc
  rcases hc with rfl | rfl | rfl | rfl <;> exact ⟨_, hexValue?_hexDigit _ (by omega)⟩

/-- Four digits in either case are read as their number. -/
theorem Numeral.read_fourDigits {n : Nat} (hn : n < 0x10000) {digits : List Char}
    (h : digits.map Char.toLower = (fourDigits n).map Char.toLower) :
    read 16 0xFFFF digits = .ok n := by
  match digits with
  | [a, b, c, d] =>
    simp only [fourDigits, List.map_cons, List.map_nil, List.cons.injEq, and_true] at h
    obtain ⟨ha, hb, hc, hd⟩ := h
    have ha' := (hexValue?_congr ha).trans (hexValue?_hexDigit _ (by omega))
    have hb' := (hexValue?_congr hb).trans (hexValue?_hexDigit _ (by omega))
    have hc' := (hexValue?_congr hc).trans (hexValue?_hexDigit _ (by omega))
    have hd' := (hexValue?_congr hd).trans (hexValue?_hexDigit _ (by omega))
    have hread : read 16 0xFFFF [a, b, c, d] = extend 16 0xFFFF 0 [a, b, c, d] := by
      rw [read]
      · simp
      · simp
      · rintro rest hrest
        rw [(List.cons.inj hrest).1] at ha'
        cases ha'
    rw [hread, extend_of_digit ha' (by omega), extend_of_digit hb' (by omega),
      extend_of_digit hc' (by omega), extend_of_digit hd' (by omega), extend]
    congr 1
    omega
  | [] | [_] | [_, _] | [_, _, _] | _ :: _ :: _ :: _ :: _ :: _ => simp [fourDigits] at h

end Text

namespace Properties

open Text

/-! ## Forms -/

/-- An ASCII character that has no meaning in a key or value. -/
def isPlain (c : Char) : Bool :=
  c.toNat < 0x80 && !(['\\', ' ', '=', ':', '#', '!', '\t', '\n', '\r', '\x0c'].contains c)

theorem ascii_of_isPlain {c : Char} (h : isPlain c = true) : c.toNat < 0x80 := by
  simp only [isPlain, Bool.and_eq_true, decide_eq_true_eq] at h
  exact h.1

/-- A property of the plain characters, shown for each code. -/
theorem forall_isPlain {P : Char → Prop}
    (hall : ∀ n < 128, isPlain (Char.ofNat n) = true → P (Char.ofNat n)) {c : Char}
    (h : isPlain c = true) : P c :=
  forall_ascii (P := fun c => isPlain c = true → P c) hall (ascii_of_isPlain h) h

theorem ne_backslash_of_isPlain {c : Char} (h : isPlain c = true) : c ≠ '\\' :=
  forall_isPlain (P := fun c => c ≠ '\\') (by decide +kernel) h

/-- A plain character ends no line. -/
theorem ne_line_end_of_isPlain {c : Char} (h : isPlain c = true) : c ≠ '\n' ∧ c ≠ '\r' :=
  forall_isPlain (P := fun c => c ≠ '\n' ∧ c ≠ '\r') (by decide +kernel) h

/-- A plain character ends no key. -/
theorem not_separates_of_isPlain {c : Char} (h : isPlain c = true) :
    c ≠ ':' ∧ c ≠ '=' ∧ isSpace c = false :=
  forall_isPlain (P := fun c => c ≠ ':' ∧ c ≠ '=' ∧ isSpace c = false) (by decide +kernel) h

theorem not_isCommentMark_of_isPlain {c : Char} (h : isPlain c = true) : isCommentMark c = false :=
  forall_isPlain (P := fun c => isCommentMark c = false) (by decide +kernel) h

theorem isPlain_of_hexValue? {c : Char} {value : Nat} (h : hexValue? c = some value) :
    isPlain c = true :=
  forall_hexValue? (P := fun c => isPlain c = true) (by decide +kernel) h

/-- How a character of a key or value may be written: as itself if it is plain, else with a
backslash before it, as one of four letters, or by number. -/
inductive Form : Char → List Char → Prop
  | itself {c : Char} (h : isPlain c = true) : Form c [c]
  | marked {c : Char} (h : c ∈ ['\\', ' ', '=', ':', '#', '!']) : Form c ['\\', c]
  | letter {c x : Char} (h : (c, x) ∈ [('\t', 't'), ('\n', 'n'), ('\r', 'r'), ('\x0c', 'f')]) :
    Form c ['\\', x]
  | number {c : Char} {digits : List Char} (h : 0x80 ≤ c.toNat) (hbasic : c.toNat < 0x10000)
    (hdigits : digits.map Char.toLower = (fourDigits c.toNat).map Char.toLower) :
    Form c ('\\' :: 'u' :: digits)

/-- The second text is the first written character by character. -/
inductive Escaped : List Char → List Char → Prop
  | nil : Escaped [] []
  | cons {c : Char} {cs form text : List Char} (h : Form c form) (rest : Escaped cs text) :
    Escaped (c :: cs) (form ++ text)

theorem hexBytes_eq_fourDigits {n : Nat} (hn : n < 0x10000) :
    hexBytes [(n / 256).toUInt8, n.toUInt8] = fourDigits n := by
  have hhigh : (n / 256).toUInt8.toNat = n / 256 := UInt8.toNat_ofNat_of_lt' (show n / 256 < 256 by omega)
  have hlow : n.toUInt8.toNat = n % 256 := UInt8.toNat_ofNat'
  show [_, _, _, _] = [_, _, _, _]
  rw [hhigh, hlow, show n / 256 / 16 = n / 4096 by omega, show n % 256 / 16 = n / 16 % 16 by omega,
    show n % 256 % 16 = n % 16 by omega]

theorem form_escape {c : Char} (hc : c.toNat < 0x10000) : Form c (escape c) := by
  unfold escape
  split
  · exact .letter (by decide)
  · exact .letter (by decide)
  · exact .letter (by decide)
  · exact .letter (by decide)
  · rename_i htab hlf hcr hff
    split
    · rename_i hmarked
      exact .marked hmarked
    · rename_i hmarked
      split
      · rename_i hascii
        refine .itself ?_
        simp only [List.mem_cons, List.not_mem_nil, or_false, not_or] at hmarked
        have hcontrol : c ≠ '\t' ∧ c ≠ '\n' ∧ c ≠ '\r' ∧ c ≠ '\x0c' := ⟨htab, hlf, hcr, hff⟩
        simp [isPlain, hascii, hmarked, hcontrol]
      · rename_i hascii
        rw [hexBytes_eq_fourDigits hc]
        exact .number (by omega) hc rfl

theorem escaped_flatMap {cs : List Char} (h : ∀ c ∈ cs, c.toNat < 0x10000) :
    Escaped cs (cs.flatMap escape) := by
  induction cs with
  | nil => exact .nil
  | cons c cs ih =>
    rw [List.forall_mem_cons] at h
    exact .cons (form_escape h.1) (ih h.2)

/-! ## Reading back -/

theorem unescape_plain {c : Char} (h : c ≠ '\\') (rest : List Char) :
    unescape (c :: rest) = (unescape rest).map (c :: ·) := by
  rw [unescape]
  · cases unescape rest <;> rfl
  all_goals simp [h]

theorem unescape_marked {c : Char} (h : c ≠ 'u') (rest : List Char) :
    unescape ('\\' :: c :: rest) = (unescape rest).map (escaped c :: ·) := by
  rw [unescape]
  · cases unescape rest <;> rfl
  all_goals simp [h]

theorem numbered_fourDigits {c : Char} (hc : c.toNat < 0x10000) {digits : List Char}
    (h : digits.map Char.toLower = (fourDigits c.toNat).map Char.toLower) :
    numbered digits = .ok c := by
  have hvalid : ¬ (0xD800 ≤ c.toNat ∧ c.toNat < 0xE000) := by
    have hscalar : c.toNat < 0xD800 ∨ 0xDFFF < c.toNat ∧ c.toNat < 0x110000 := c.valid
    omega
  simp only [numbered, Numeral.read_fourDigits hc h, if_neg hvalid, Char.ofNat_toNat]

theorem unescape_number {c : Char} (hc : c.toNat < 0x10000) {digits : List Char}
    (h : digits.map Char.toLower = (fourDigits c.toNat).map Char.toLower) (rest : List Char) :
    unescape ('\\' :: 'u' :: (digits ++ rest)) = (unescape rest).map (c :: ·) := by
  match digits with
  | [x, y, z, w] =>
    show unescape ('\\' :: 'u' :: x :: y :: z :: w :: rest) = _
    rw [unescape, numbered_fourDigits hc h]
    cases unescape rest <;> rfl
  | [] | [_] | [_, _] | [_, _, _] | _ :: _ :: _ :: _ :: _ :: _ => simp [fourDigits] at h

theorem Form.unescape_append {c : Char} {form : List Char} (h : Form c form) (rest : List Char) :
    unescape (form ++ rest) = (unescape rest).map (c :: ·) := by
  cases h with
  | itself h =>
    exact unescape_plain (ne_backslash_of_isPlain h) rest
  | marked h =>
    have hsame : ∀ c ∈ ['\\', ' ', '=', ':', '#', '!'], c ≠ 'u' ∧ escaped c = c :=
      forall_mem_of_all (by decide)
    rw [List.cons_append, List.cons_append, unescape_marked (hsame c h).1, (hsame c h).2]
    rfl
  | @letter x h =>
    have hletter : ∀ pair ∈ [('\t', 't'), ('\n', 'n'), ('\r', 'r'), ('\x0c', 'f')],
        pair.2 ≠ 'u' ∧ escaped pair.2 = pair.1 := by decide
    rw [List.cons_append, List.cons_append, unescape_marked (hletter (c, x) h).1,
      (hletter (c, x) h).2]
    rfl
  | number _ hbasic hdigits => exact unescape_number hbasic hdigits rest

/-- By induction on the characters. -/
theorem Escaped.unescape_eq {cs text : List Char} (h : Escaped cs text) :
    unescape text = .ok cs := by
  induction h with
  | nil => rfl
  | cons hform _ ih =>
    rw [hform.unescape_append, ih]
    rfl

/-! ## Shapes -/

/-- A form is one plain character, or a backslash and a character that ends no line, with
plain ones after it. -/
theorem Form.shape {c : Char} {form : List Char} (h : Form c form) :
    (∃ d, form = [d] ∧ isPlain d = true) ∨
    ∃ x ds, form = '\\' :: x :: ds ∧ (x.toNat < 0x80 ∧ x ≠ '\n' ∧ x ≠ '\r') ∧
      (∀ d ∈ ds, isPlain d = true) := by
  cases h with
  | itself h => exact .inl ⟨c, rfl, h⟩
  | marked h =>
    have hmarks : ∀ c ∈ ['\\', ' ', '=', ':', '#', '!'],
        c.toNat < 0x80 ∧ c ≠ '\n' ∧ c ≠ '\r' := forall_mem_of_all (by decide)
    exact .inr ⟨c, [], rfl, hmarks c h, by simp⟩
  | @letter x h =>
    have hletters : ∀ pair ∈ [('\t', 't'), ('\n', 'n'), ('\r', 'r'), ('\x0c', 'f')],
        pair.2.toNat < 0x80 ∧ pair.2 ≠ '\n' ∧ pair.2 ≠ '\r' := by decide
    exact .inr ⟨x, [], rfl, hletters (c, x) h, by simp⟩
  | @number digits _ hbasic hdigits =>
    refine .inr ⟨'u', digits, rfl, by decide, fun d hd => ?_⟩
    have hmem : d.toLower ∈ (fourDigits c.toNat).map Char.toLower :=
      hdigits ▸ List.mem_map_of_mem hd
    obtain ⟨e, he, hcase⟩ := List.mem_map.mp hmem
    obtain ⟨value, hvalue⟩ := hexValue?_of_mem_fourDigits he hbasic
    exact isPlain_of_hexValue? ((hexValue?_congr hcase).symm.trans hvalue)

/-- No character of an escaped text ends a line. -/
theorem Escaped.no_line_end {cs text : List Char} (h : Escaped cs text) :
    ∀ d ∈ text, d.toNat < 0x80 ∧ d ≠ '\n' ∧ d ≠ '\r' := by
  have hplain : ∀ d, isPlain d = true → d.toNat < 0x80 ∧ d ≠ '\n' ∧ d ≠ '\r' :=
    fun d hd => ⟨ascii_of_isPlain hd, ne_line_end_of_isPlain hd⟩
  induction h with
  | nil => simp
  | cons hform _ ih =>
    refine List.forall_mem_append.mpr ⟨?_, ih⟩
    rcases hform.shape with ⟨d, rfl, hd⟩ | ⟨x, ds, rfl, hx, hds⟩
    · exact List.forall_mem_singleton.mpr (hplain d hd)
    · exact List.forall_mem_cons.mpr ⟨by decide,
        List.forall_mem_cons.mpr ⟨hx, fun d hd => hplain d (hds d hd)⟩⟩

/-- Neither white space nor the mark of a comment begins an escaped text. -/
theorem Escaped.head {cs text : List Char} (h : Escaped cs text) :
    ∀ d ∈ text.head?, isSpace d = false ∧ isCommentMark d = false := by
  cases h with
  | nil => simp
  | cons hform _ =>
    rcases hform.shape with ⟨d, rfl, hd⟩ | ⟨x, ds, rfl, -⟩
    · rintro e he
      cases he
      exact ⟨(not_separates_of_isPlain hd).2.2, not_isCommentMark_of_isPlain hd⟩
    · rintro e he
      cases he
      decide

/-! ## Keys -/

theorem splitKey_plain {c : Char} (h : isPlain c = true) (rest : List Char) :
    splitKey (c :: rest) = (c :: (splitKey rest).1, (splitKey rest).2) := by
  have hbackslash := ne_backslash_of_isPlain h
  obtain ⟨hcolon, hequals, hspace⟩ := not_separates_of_isPlain h
  rw [splitKey]
  · simp [hbackslash, hcolon, hequals, hspace]
  · simp [hbackslash]

theorem splitKey_plains {ds : List Char} (h : ∀ d ∈ ds, isPlain d = true) (rest : List Char) :
    splitKey (ds ++ rest) = (ds ++ (splitKey rest).1, (splitKey rest).2) := by
  induction ds with
  | nil => rfl
  | cons d ds ih =>
    rw [List.forall_mem_cons] at h
    rw [List.cons_append, splitKey_plain h.1, ih h.2]
    rfl

/-- An escaped key ends at the separator behind it. -/
theorem Escaped.splitKey_eq {cs text : List Char} (h : Escaped cs text) (rest : List Char) :
    splitKey (text ++ '=' :: rest) = (text, '=' :: rest) := by
  induction h with
  | nil => rfl
  | cons hform _ ih =>
    rcases hform.shape with ⟨d, rfl, hd⟩ | ⟨x, ds, rfl, -, hds⟩
    · rw [List.append_assoc, List.singleton_append, splitKey_plain hd, ih]
      rfl
    · rw [List.append_assoc, List.cons_append, List.cons_append, splitKey, splitKey_plains hds, ih]
      rfl

theorem dropWhile_isSpace {cs : List Char} (h : ∀ d ∈ cs.head?, isSpace d = false) :
    cs.dropWhile isSpace = cs := by
  cases cs with
  | nil => rfl
  | cons d cs => exact List.dropWhile_cons_of_neg (by simp [h d rfl])

/-- A line with an escaped key, the separator and an escaped value holds these. -/
theorem ofLine_of_escaped {key value ks vs : List Char} (hkey : Escaped key ks)
    (hvalue : Escaped value vs) : Content.ofLine (ks ++ '=' :: vs) = .entry ks vs := by
  have hhead : ∀ d ∈ (ks ++ '=' :: vs).head?, isSpace d = false ∧ isCommentMark d = false := by
    cases ks with
    | nil =>
      intro d hd
      cases hd
      decide
    | cons k ks => exact hkey.head
  have hafter : afterSeparator ('=' :: vs) = vs :=
    dropWhile_isSpace fun d hd => (hvalue.head d hd).1
  have hsplit := hkey.splitKey_eq vs
  unfold Content.ofLine
  rw [dropWhile_isSpace fun d hd => (hhead d hd).1]
  cases hline : ks ++ '=' :: vs with
  | nil => simp at hline
  | cons c rest =>
    rw [hline] at hhead hsplit
    simp only [(hhead c rfl).2, Bool.false_eq_true, if_false, hsplit, hafter]

/-! ## The end of a line -/

theorem trailingBackslashes_append (xs ys : List Char) :
    trailingBackslashes (xs ++ ys) =
      if trailingBackslashes ys = ys.length then ys.length + trailingBackslashes xs
      else trailingBackslashes ys := by
  unfold trailingBackslashes
  rw [List.reverse_append, List.takeWhile_append, List.length_reverse]
  split
  · rw [List.length_append, List.length_reverse]
  · rfl

theorem trailingBackslashes_of_last {cs : List Char} (h : ∀ c ∈ cs.getLast?, c ≠ '\\') :
    trailingBackslashes cs = 0 := by
  rw [← List.head?_reverse] at h
  unfold trailingBackslashes
  cases hcs : cs.reverse with
  | nil => rfl
  | cons c rest =>
    rw [hcs] at h
    rw [List.takeWhile_cons_of_neg (by simp [h c rfl])]
    rfl

/-- A form ends in no backslash or in two. -/
theorem Form.even_trailingBackslashes {c : Char} {form : List Char} (h : Form c form) :
    trailingBackslashes form % 2 = 0 := by
  rcases h.shape with ⟨d, rfl, hd⟩ | ⟨x, ds, rfl, -, hds⟩
  · rw [trailingBackslashes_of_last]
    rintro e he
    cases he
    exact ne_backslash_of_isPlain hd
  · -- The last character counts, and it is a backslash only if it is the second of two.
    rcases List.eq_nil_or_concat' ds with rfl | ⟨ds, d, rfl⟩
    · by_cases hx : x = '\\'
      · subst hx
        decide
      · rw [trailingBackslashes_of_last]
        rintro e he
        cases he
        exact hx
    · rw [trailingBackslashes_of_last]
      intro e he
      rw [← List.cons_append, ← List.cons_append, List.getLast?_concat] at he
      cases he
      exact ne_backslash_of_isPlain (hds d (by simp))

/-- By induction on the characters. -/
theorem Escaped.even_trailingBackslashes {cs text : List Char} (h : Escaped cs text) :
    trailingBackslashes text % 2 = 0 := by
  induction h with
  | nil => rfl
  | cons hform _ ih =>
    rw [trailingBackslashes_append]
    split
    · rename_i hall
      have := hform.even_trailingBackslashes
      omega
    · exact ih

/-- No backslash is left over at the end of an escaped value. -/
theorem Escaped.not_continues {cs text : List Char} (h : Escaped cs text) (before : List Char) :
    continues (before ++ '=' :: text) = false := by
  have heven := h.even_trailingBackslashes
  have hequals : trailingBackslashes (before ++ ['=']) = 0 :=
    trailingBackslashes_of_last (by simp)
  have htext : trailingBackslashes (before ++ '=' :: text) = trailingBackslashes text := by
    rw [List.append_cons, trailingBackslashes_append, hequals]
    split
    · rename_i hall
      exact hall.symm
    · rfl
  simp [continues, htext, heven]

end Properties

end BusMaster
